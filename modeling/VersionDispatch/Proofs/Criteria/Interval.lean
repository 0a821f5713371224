import Mathlib.Order.Interval.Set.OrdConnected
import Mathlib.Order.UpperLower.Basic
import VersionDispatch.Proofs.Criteria.Language
import VersionDispatch.Proofs.Version.Order

/-!
# Accepted versions form an interval

Versions are preordered, so there are intervals of them. What a criteria accepts is one, closed or
open as its operator says, unless it only excludes a version. The range is the open interval between
its bounds: the two half-lines from these meet in it, and it is empty if they do not meet.
-/

namespace VersionDispatch

instance : Preorder Version where
  le_refl _ := Std.ReflCmp.isLE_rfl
  le_trans _ _ _ := Std.TransCmp.isLE_trans
  lt_iff_le_not_ge v w := by
    have hswap : compare w v = (compare v w).swap := Std.OrientedOrd.eq_swap
    change compare v w = .lt ↔ (compare v w).isLE = true ∧ ¬(compare w v).isLE = true
    rw [hswap]
    cases compare v w <;> simp

private theorem Version.beq_iff_mem_Icc (v bound : Version) :
    (v == bound) = true ↔ v ∈ Set.Icc bound bound := by
  have hswap : compare bound v = (compare v bound).swap := Std.OrientedOrd.eq_swap
  change _ ↔ (compare bound v).isLE = true ∧ (compare v bound).isLE = true
  rw [beq_iff_compare_eq, hswap]
  cases compare v bound <;> simp

namespace Operator

/-- The interval that an operator and its bounds describe, or what it leaves out. -/
def interval (op : Operator) (bound : Version) (upper : Option Version) : Set Version :=
  match op, upper with
  | .equal, _ => Set.Icc bound bound
  | .different, _ => (Set.Icc bound bound)ᶜ
  | .less, _ => Set.Iio bound
  | .atMost, _ => Set.Iic bound
  | .greater, _ => Set.Ioi bound
  | .atLeast, _ => Set.Ici bound
  | .between, some upper => Set.Ioo bound upper
  | .between, none => ∅

theorem accepts_iff_mem_interval (op : Operator) (v bound : Version) (upper : Option Version) :
    op.accepts v bound upper = true ↔ v ∈ op.interval bound upper := by
  cases op with
  | equal => exact Version.beq_iff_mem_Icc v bound
  | different =>
      change (!(v == bound)) = true ↔ v ∉ Set.Icc bound bound
      rw [← Version.beq_iff_mem_Icc, Bool.not_eq_true', Bool.not_eq_true]
  | less => exact decide_eq_true_iff
  | atMost => exact decide_eq_true_iff
  | greater => exact decide_eq_true_iff
  | atLeast => exact decide_eq_true_iff
  | between =>
      cases upper with
      | none => simp [accepts, interval]
      | some upper => simp [accepts, interval]

variable {op : Operator} (bound : Version) (upper : Option Version)

theorem ordConnected_interval (hop : op ≠ .different) : (op.interval bound upper).OrdConnected := by
  cases op with
  | equal => exact Set.ordConnected_Icc
  | different => contradiction
  | less => exact Set.ordConnected_Iio
  | atMost => exact Set.ordConnected_Iic
  | greater => exact Set.ordConnected_Ioi
  | atLeast => exact Set.ordConnected_Ici
  | between =>
      cases upper with
      | none => exact Set.ordConnected_empty
      | some upper => exact Set.ordConnected_Ioo

private theorem isLowerSet_interval (hop : op = .less ∨ op = .atMost) :
    IsLowerSet (op.interval bound upper) := by
  rcases hop with rfl | rfl
  · exact isLowerSet_Iio bound
  · exact isLowerSet_Iic bound

private theorem isUpperSet_interval (hop : op = .greater ∨ op = .atLeast) :
    IsUpperSet (op.interval bound upper) := by
  rcases hop with rfl | rfl
  · exact isUpperSet_Ioi bound
  · exact isUpperSet_Ici bound

end Operator

namespace Criteria

/-- The versions that a criteria accepts. -/
def interval (c : Criteria) : Set Version := c.operator.interval c.bound c.upper

theorem acceptsText_iff_mem_interval (c : Criteria) (v : String) :
    c.acceptsText (some v) = true ↔ Version.parse v ∈ c.interval :=
  c.operator.accepts_iff_mem_interval (Version.parse v) c.bound c.upper

private theorem exists_upper_of_between {c : Criteria} (hop : c.operator = .between) :
    ∃ upper, c.upper = some upper ∧ c.interval = Set.Ioo c.bound upper := by
  have harity : 2 = (c.bound :: c.upper.toList).length := by
    rw [← c.arity_eq, hop]
    rfl
  cases hupper : c.upper with
  | none => simp [hupper] at harity
  | some upper => exact ⟨upper, rfl, by rw [interval, hop, hupper, Operator.interval]⟩

private theorem exists_half_line (token : Token) (hone : token.operator.arity = 1) (bound : Version)
    (hbound : bound.isBound = true) :
    ∃ c, parse (token.text ++ bound.text) = .ok c ∧
      c.interval = token.operator.interval bound c.upper := by
  rw [← bound.parse_text] at hbound
  obtain ⟨c, hparse, hop, hcbound⟩ := parse_token_append token hone bound.text hbound
  rw [bound.parse_text] at hcbound
  exact ⟨c, hparse, by rw [interval, hop, hcbound]⟩

theorem between_eq_inter {c : Criteria} (hop : c.operator = .between) :
    ∃ upper above below, c.upper = some upper ∧
      parse (">" ++ c.bound.text) = .ok above ∧ parse ("<" ++ upper.text) = .ok below ∧
      c.interval = above.interval ∩ below.interval := by
  obtain ⟨upper, hupper, hinterval⟩ := exists_upper_of_between hop
  have hfirst : c.bound.isBound = true := c.isBound c.bound (by simp)
  have hlast : upper.isBound = true := c.isBound upper (by simp [hupper])
  obtain ⟨above, habove, hIoi⟩ := exists_half_line .greater rfl c.bound hfirst
  obtain ⟨below, hbelow, hIio⟩ := exists_half_line .less rfl upper hlast
  refine ⟨upper, above, below, hupper, habove, hbelow, ?_⟩
  rw [hinterval, hIoi, hIio]
  exact Set.Ioi_inter_Iio.symm

/-- A criteria that does not only exclude a version accepts what lies between versions that it
accepts, and one with a bound on one side alone accepts everything on the other side of what it
accepts. A range accepts what is above its first bound and below its second one, so nothing if the
first is not below the second. -/
theorem accepts_between_accepted (c : Criteria) (a m b : String)
    (ham : Version.parse a ≤ Version.parse m) (hmb : Version.parse m ≤ Version.parse b) :
    (c.operator ≠ .different → c.acceptsText (some a) = true → c.acceptsText (some b) = true →
        c.acceptsText (some m) = true) ∧
      (c.operator = .less ∨ c.operator = .atMost →
        c.acceptsText (some m) = true → c.acceptsText (some a) = true) ∧
      (c.operator = .greater ∨ c.operator = .atLeast →
        c.acceptsText (some m) = true → c.acceptsText (some b) = true) ∧
      (c.operator = .between → ∃ upper above below, c.upper = some upper ∧
        parse (">" ++ c.bound.text) = .ok above ∧ parse ("<" ++ upper.text) = .ok below ∧
        (c.acceptsText (some m) = true ↔
          above.acceptsText (some m) = true ∧ below.acceptsText (some m) = true) ∧
        (¬c.bound < upper → ∀ v : String, c.acceptsText (some v) = false)) := by
  simp only [acceptsText_iff_mem_interval]
  refine ⟨?_, ?_, ?_, ?_⟩
  · intro hop ha hb
    have hconnected : c.interval.OrdConnected := Operator.ordConnected_interval _ _ hop
    exact hconnected.out ha hb ⟨ham, hmb⟩
  · intro hop hm
    exact Operator.isLowerSet_interval _ _ hop ham hm
  · intro hop hm
    exact Operator.isUpperSet_interval _ _ hop hmb hm
  · intro hop
    obtain ⟨upper, above, below, hupper, habove, hbelow, hinter⟩ := between_eq_inter hop
    refine ⟨upper, above, below, hupper, habove, hbelow, ?_, ?_⟩
    · rw [hinter]
      exact Set.mem_inter_iff _ _ _
    · intro hempty v
      obtain ⟨last, hlast, hinterval⟩ := exists_upper_of_between hop
      obtain rfl : upper = last := Option.some.inj (hupper.symm.trans hlast)
      rw [Bool.eq_false_iff, Ne, acceptsText_iff_mem_interval, hinterval,
        Set.Ioo_eq_empty hempty]
      exact Set.notMem_empty _

theorem accepts_between_accepted_mixed :
    let range : Criteria :=
      ⟨.between, Version.parse "1.0", some (Version.parse "2"), rfl, by decide⟩
    let empty : Criteria :=
      ⟨.between, Version.parse "2", some (Version.parse "2.0"), rfl, by decide⟩
    let below : Criteria := ⟨.atMost, Version.parse "1.5.x", none, rfl, by decide⟩
    let above : Criteria := ⟨.atLeast, Version.parse "01.5", none, rfl, by decide⟩
    Version.parse "1.0.1" ≤ Version.parse "1.5.x" ∧ Version.parse "1.5.x" ≤ Version.parse "1.a" ∧
      range.acceptsText (some "1.0.1") = true ∧ range.acceptsText (some "1.a") = true ∧
      range.acceptsText (some "1.5.x") = true ∧
      below.acceptsText (some "1.5.x") = true ∧ below.acceptsText (some "1.0.1") = true ∧
      above.acceptsText (some "1.5.x") = true ∧ above.acceptsText (some "1.a") = true ∧
      ∀ v : String, empty.acceptsText (some v) = false := by
  intro range empty below above
  have ham : Version.parse "1.0.1" ≤ Version.parse "1.5.x" := by decide
  have hmb : Version.parse "1.5.x" ≤ Version.parse "1.a" := by decide
  have ha : range.acceptsText (some "1.0.1") = true := by decide
  have hb : range.acceptsText (some "1.a") = true := by decide
  have hbelow : below.acceptsText (some "1.5.x") = true := by decide
  have habove : above.acceptsText (some "1.5.x") = true := by decide
  refine ⟨ham, hmb, ha, hb, ?_, hbelow, ?_, habove, ?_, ?_⟩
  · exact (accepts_between_accepted range _ _ _ ham hmb).1 (by decide) ha hb
  · exact (accepts_between_accepted below _ _ _ ham hmb).2.1 (.inr rfl) hbelow
  · exact (accepts_between_accepted above _ _ _ ham hmb).2.2.1 (.inr rfl) habove
  · obtain ⟨upper, _, _, hupper, _, _, _, hnone⟩ :=
      (accepts_between_accepted empty _ _ _ ham hmb).2.2.2 rfl
    obtain rfl : Version.parse "2.0" = upper := Option.some.inj hupper
    exact hnone (by decide)

end Criteria

end VersionDispatch
