import VersionDispatch.Criteria.Basic
import VersionDispatch.Proofs.Version.Order

namespace VersionDispatch

namespace Version

theorem compare_congr {v v' w w' : Version} (hv : (v == v') = true) (hw : (w == w') = true) :
    compare v w = compare v' w' := by
  rw [beq_iff_compare_eq] at hv hw
  calc
    compare v w = compare v' w := Std.TransCmp.congr_left hv
    _ = compare v' w' := Std.TransCmp.congr_right hw

private theorem beq_congr {v v' w w' : Version} (hv : (v == v') = true) (hw : (w == w') = true) :
    (v == w) = (v' == w') :=
  congrArg (· == Ordering.eq) (compare_congr hv hw)

private theorem lt_congr {v v' w w' : Version} (hv : (v == v') = true) (hw : (w == w') = true) :
    v < w ↔ v' < w' := by
  change compare v w = .lt ↔ compare v' w' = .lt
  rw [compare_congr hv hw]

private theorem le_congr {v v' w w' : Version} (hv : (v == v') = true) (hw : (w == w') = true) :
    v ≤ w ↔ v' ≤ w' := by
  change (compare v w).isLE = true ↔ (compare v' w').isLE = true
  rw [compare_congr hv hw]

end Version

theorem Operator.accepts_congr (op : Operator) {v v' bound bound' : Version}
    {upper upper' : Option Version} (hv : (v == v') = true) (hbound : (bound == bound') = true)
    (hupper : (upper == upper') = true) :
    op.accepts v bound upper = op.accepts v' bound' upper' := by
  cases op with
  | equal => exact Version.beq_congr hv hbound
  | different => exact congrArg not (Version.beq_congr hv hbound)
  | less => exact decide_eq_decide.mpr (Version.lt_congr hv hbound)
  | atMost => exact decide_eq_decide.mpr (Version.le_congr hv hbound)
  | greater => exact decide_eq_decide.mpr (Version.lt_congr hbound hv)
  | atLeast => exact decide_eq_decide.mpr (Version.le_congr hbound hv)
  | between =>
      have hlower := Version.lt_congr hbound hv
      cases upper with
      | none =>
          cases upper' with
          | none => rfl
          | some _ => contradiction
      | some u =>
          cases upper' with
          | none => contradiction
          | some u' =>
              have habove : v < u ↔ v' < u' := Version.lt_congr hv hupper
              simp only [accepts, Option.any_some, hlower, habove]

namespace Criteria

theorem accepts_congr {c c' : Criteria} (hc : (c == c') = true) {v v' : Option Version}
    (hv : (v == v') = true) : c.accepts v = c'.accepts v' := by
  change (c.operator == c'.operator && c.bound == c'.bound && c.upper == c'.upper) = true at hc
  simp only [Bool.and_eq_true, beq_iff_eq, and_assoc] at hc
  obtain ⟨hoperator, hbound, hupper⟩ := hc
  cases v with
  | none =>
      cases v' with
      | none => rfl
      | some _ => contradiction
  | some v =>
      cases v' with
      | none => contradiction
      | some v' =>
          change c.operator.accepts v c.bound c.upper = c'.operator.accepts v' c'.bound c'.upper
          rw [hoperator]
          exact Operator.accepts_congr c'.operator hv hbound hupper

end Criteria

namespace Version

private theorem decide_lt_eq (v w : Version) : decide (v < w) = (compare v w == .lt) := rfl

private theorem decide_le_eq (v w : Version) : decide (v ≤ w) = (compare v w != .gt) := by
  have hle : v ≤ w ↔ compare v w ≠ .gt := Ordering.isLE_iff_ne_gt
  simp only [hle, bne, decide_not]
  rfl

end Version

namespace Operator

/-- Does the operator hold of a version that compares with its only bound in this way? -/
def holds (op : Operator) (order : Ordering) : Bool :=
  match op with
  | .equal => order == .eq
  | .different => order != .eq
  | .less => order == .lt
  | .atMost => order != .gt
  | .greater => order == .gt
  | .atLeast => order != .lt
  | .between => false

theorem accepts_eq_holds (op : Operator) (v bound : Version) (upper : Option Version)
    (hone : op.arity = 1) : op.accepts v bound upper = op.holds (compare v bound) := by
  -- `greater` and `atLeast` compare the other way round.
  have hswap : compare bound v = (compare v bound).swap := Std.OrientedOrd.eq_swap
  cases op with
  | equal => rfl
  | different => rfl
  | less => exact Version.decide_lt_eq v bound
  | atMost => exact Version.decide_le_eq v bound
  | greater =>
      rw [accepts, Version.decide_lt_eq, hswap]
      cases compare v bound <;> rfl
  | atLeast =>
      rw [accepts, Version.decide_le_eq, hswap]
      cases compare v bound <;> rfl
  | between => contradiction

/-- The operators, in pairs, that hold in opposite cases. -/
inductive Opposite : Operator → Operator → Prop where
  | less : Opposite .less .atLeast
  | atMost : Opposite .atMost .greater
  | equal : Opposite .equal .different

namespace Opposite

variable {op op' : Operator}

private theorem arity_left (h : op.Opposite op') : op.arity = 1 := by
  cases h <;> rfl

private theorem arity_right (h : op.Opposite op') : op'.arity = 1 := by
  cases h <;> rfl

theorem holds_eq_not (h : op.Opposite op') (order : Ordering) :
    op.holds order = !op'.holds order := by
  cases h <;> cases order <;> rfl

end Opposite

end Operator

namespace Criteria

theorem accepts_some_eq_holds (c : Criteria) (v : Version) (hone : c.operator.arity = 1) :
    c.accepts (some v) = c.operator.holds (compare v c.bound) :=
  c.operator.accepts_eq_holds v c.bound c.upper hone

/-- Every version is accepted by exactly one of two criteria with opposite operators and equal
bounds. -/
theorem accepts_some_eq_not {c d : Criteria} (hop : c.operator.Opposite d.operator)
    (hbound : (c.bound == d.bound) = true) (v : Version) :
    c.accepts (some v) = !d.accepts (some v) := by
  have hcompare : compare v c.bound = compare v d.bound := Version.compare_congr BEq.rfl hbound
  rw [c.accepts_some_eq_holds v hop.arity_left, d.accepts_some_eq_holds v hop.arity_right,
    hcompare, hop.holds_eq_not]

end Criteria

end VersionDispatch
