import Mathlib.Data.List.DropRight
import VersionDispatch.Version.Basic

/-!
# Laws of the version order

Comparing two lists of fields at the length of the longer one is the same as comparing them at any
greater length, so that three versions can be compared at one common length, where the order is the
lexicographic one. Versions are equal exactly when their fields are the same but for zeros at the
end, which is what the significant fields leave out.
-/

namespace VersionDispatch

namespace Field

private theorem compare_swap (a b : Field) : compare a b = (compare b a).swap := by
  cases a <;> cases b
  · exact Std.OrientedOrd.eq_swap (α := UInt64)
  · rfl
  · rfl
  · exact Std.OrientedOrd.eq_swap (α := String)

instance : Std.TransOrd Field where
  eq_swap := compare_swap _ _
  isLE_trans {a b c} hab hbc := by
    cases a with
    | number m =>
        cases c with
        | word _ => rfl
        | number k =>
            cases b with
            | number n => exact Std.TransOrd.isLE_trans (α := UInt64) hab hbc
            | word _ => contradiction
    | word s =>
        cases b with
        | number _ => contradiction
        | word t =>
            cases c with
            | number _ => contradiction
            | word u => exact Std.TransOrd.isLE_trans (α := String) hab hbc

instance : Std.LawfulEqOrd Field where
  eq_of_compare {a b} h := by
    cases a <;> cases b
    · exact congrArg number (Std.LawfulEqOrd.eq_of_compare (α := UInt64) h)
    · contradiction
    · contradiction
    · exact congrArg word (Std.LawfulEqOrd.eq_of_compare (α := String) h)

end Field

namespace Version

theorem length_extend (length : Nat) (fields : List Field) (h : fields.length ≤ length) :
    (extend length fields).length = length := by
  rw [extend, List.length_append, List.length_replicate]
  omega

private theorem extend_of_le (short long : Nat) (fields : List Field)
    (hshort : fields.length ≤ short) (hlong : short ≤ long) :
    extend long fields = extend short fields ++ List.replicate (long - short) Field.zero := by
  have hsplit : long - fields.length = (short - fields.length) + (long - short) := by omega
  rw [extend, extend, hsplit, List.replicate_add, List.append_assoc]

private theorem compareLex_append_self (as bs cs : List Field) (hlength : as.length = bs.length) :
    List.compareLex compare (as ++ cs) (bs ++ cs) = List.compareLex compare as bs := by
  induction as generalizing bs with
  | nil =>
      have hbs : bs = [] := List.length_eq_zero_iff.mp hlength.symm
      subst hbs
      exact Std.ReflCmp.compare_self
  | cons a as ih =>
      cases bs with
      | nil => contradiction
      | cons b bs =>
          have hrest := ih bs (by simpa using hlength)
          simp only [List.cons_append, List.compareLex_cons_cons, hrest]

theorem compareFields_eq_at (length : Nat) (as bs : List Field) (has : as.length ≤ length)
    (hbs : bs.length ≤ length) :
    compareFields as bs = List.compareLex compare (extend length as) (extend length bs) := by
  have hextend (xs ys : List Field) :
      extend ys.length xs = extend (max xs.length ys.length) xs := by
    rw [extend, extend]
    congr 2
    omega
  let m := max as.length bs.length
  have hm : m ≤ length := by omega
  have hlengths : (extend m as).length = (extend m bs).length := by
    rw [length_extend m as (by omega), length_extend m bs (by omega)]
  rw [compareFields, hextend as bs, hextend bs as, max_comm bs.length,
    extend_of_le m length as (by omega) hm, extend_of_le m length bs (by omega) hm,
    compareLex_append_self _ _ _ hlengths]

theorem compare_eq_at (v w : Version) (length : Nat) (hv : v.fields.length ≤ length)
    (hw : w.fields.length ≤ length) :
    compare v w = List.compareLex compare (extend length v.fields) (extend length w.fields) :=
  compareFields_eq_at length v.fields w.fields hv hw

instance : Std.TransOrd Version where
  eq_swap {v w} := by
    let m := max v.fields.length w.fields.length
    rw [compare_eq_at v w m (by omega) (by omega), compare_eq_at w v m (by omega) (by omega)]
    exact Std.OrientedCmp.eq_swap
  isLE_trans {u v w} huv hvw := by
    let m := max u.fields.length (max v.fields.length w.fields.length)
    rw [compare_eq_at u v m (by omega) (by omega)] at huv
    rw [compare_eq_at v w m (by omega) (by omega)] at hvw
    rw [compare_eq_at u w m (by omega) (by omega)]
    exact Std.TransCmp.isLE_trans huv hvw

private theorem rdropWhile_append_replicate_zero (fields : List Field) (n : Nat) :
    (fields ++ List.replicate n Field.zero).rdropWhile (· == Field.zero) =
      fields.rdropWhile (· == Field.zero) := by
  induction n with
  | zero => rw [List.replicate_zero, List.append_nil]
  | succ n ih =>
      rw [List.replicate_succ', ← List.append_assoc, List.rdropWhile_concat_pos _ _ _ (by simp), ih]

/-- Extending a list of fields forgets which of the zeros at its end were written. -/
theorem extend_eq_rdropWhile_append (length : Nat) (fields : List Field)
    (h : fields.length ≤ length) :
    extend length fields = extend length (fields.rdropWhile (· == Field.zero)) := by
  let kept := fields.rdropWhile (· == Field.zero)
  let dropped := fields.rtakeWhile (· == Field.zero)
  have hsplit : kept ++ dropped = fields := List.rdropWhile_append_rtakeWhile
  have hzeros : dropped = List.replicate dropped.length Field.zero := by
    apply List.eq_replicate_of_mem
    intro field hfield
    simpa using List.mem_rtakeWhile_imp hfield
  have hlength : kept.length + dropped.length = fields.length := by
    rw [← List.length_append, hsplit]
  have hcount : dropped.length + (length - fields.length) = length - kept.length := by omega
  calc
    extend length fields
        = kept ++ dropped ++ List.replicate (length - fields.length) Field.zero := by
        rw [extend, hsplit]
    _ = kept ++ List.replicate (length - kept.length) Field.zero := by
        rw [List.append_assoc, ← hcount, List.replicate_add, ← hzeros]

theorem compareFields_eq_iff (as bs : List Field) :
    compareFields as bs = .eq ↔
      as.rdropWhile (· == Field.zero) = bs.rdropWhile (· == Field.zero) := by
  let m := max as.length bs.length
  rw [compareFields_eq_at m as bs (by omega) (by omega), Std.LawfulEqCmp.compare_eq_iff_eq]
  constructor
  · intro h
    rw [← rdropWhile_append_replicate_zero as (m - as.length),
      ← rdropWhile_append_replicate_zero bs (m - bs.length)]
    exact congrArg (List.rdropWhile (· == Field.zero)) h
  · intro h
    rw [extend_eq_rdropWhile_append m as (by omega), h,
      ← extend_eq_rdropWhile_append m bs (by omega)]

/-- The search for the last field that is not zero drops exactly the zeros at the end. -/
theorem significantFields_eq_rdropWhile (v : Version) :
    v.significantFields = v.fields.rdropWhile (· == Field.zero) := by
  rw [significantFields, List.rdropWhile, List.dropWhile_eq_drop_findIdx_not, List.drop_reverse,
    List.reverse_reverse]
  rfl

theorem beq_iff_compare_eq (v w : Version) : (v == w) = true ↔ compare v w = .eq := by
  change (compare v w == .eq) = true ↔ _
  exact beq_iff_eq

theorem beq_iff_significantFields_eq (v w : Version) :
    (v == w) = true ↔ v.significantFields = w.significantFields := by
  rw [beq_iff_compare_eq, significantFields_eq_rdropWhile, significantFields_eq_rdropWhile]
  exact compareFields_eq_iff v.fields w.fields

instance : EquivBEq Version where
  rfl := (beq_iff_significantFields_eq _ _).mpr rfl
  symm h := by
    rw [beq_iff_significantFields_eq] at h ⊢
    exact h.symm
  trans huv hvw := by
    rw [beq_iff_significantFields_eq] at huv hvw ⊢
    exact huv.trans hvw

instance : LawfulHashable Version where
  hash_eq v w h := by
    change hash v.significantFields = hash w.significantFields
    rw [(beq_iff_significantFields_eq v w).mp h]

/-- Comparison is a total order on fields continued with zeros; versions are equal exactly when
their fields agree but for zeros at the end, and exactly when they are hashed alike. -/
theorem padded_order_laws (a b c : Version) :
    compare b a = (compare a b).swap ∧
      (a ≤ b → b ≤ c → a ≤ c) ∧
      (a < b → b ≤ c → a < c) ∧
      (a ≤ b → b < c → a < c) ∧
      ((a == b) = true ↔
        a.fields.rdropWhile (· == Field.zero) = b.fields.rdropWhile (· == Field.zero)) ∧
      ((a == b) = true ↔ a.significantFields = b.significantFields) := by
  refine ⟨Std.OrientedOrd.eq_swap, ?_, ?_, ?_, ?_, beq_iff_significantFields_eq a b⟩
  · intro hab hbc
    exact Std.TransOrd.isLE_trans hab hbc
  · intro hab hbc
    exact Std.TransCmp.lt_of_lt_of_isLE hab hbc
  · intro hab hbc
    exact Std.TransCmp.lt_of_isLE_of_lt hab hbc
  · rw [beq_iff_compare_eq]
    exact compareFields_eq_iff a.fields b.fields

theorem padded_order_laws_mixed :
    parse "1" ≤ parse "1.0.0" ∧ parse "1.0.0" < parse "1.a" ∧ parse "1" < parse "1.a" := by
  have hab : parse "1" ≤ parse "1.0.0" := by decide
  have hbc : parse "1.0.0" < parse "1.a" := by decide
  exact ⟨hab, hbc, (padded_order_laws _ _ _).2.2.2.1 hab hbc⟩

end Version

end VersionDispatch
