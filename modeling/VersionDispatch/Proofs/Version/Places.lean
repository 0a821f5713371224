import Mathlib.Data.List.GetD
import VersionDispatch.Proofs.Version.Order

namespace VersionDispatch.Version

/-- The field in a place of a version. -/
def fieldAt (v : Version) (i : Nat) : Field := v.fields.getD i Field.zero

private theorem getD_extend (length : Nat) (fields : List Field) (i : Nat) :
    (extend length fields).getD i Field.zero = fields.getD i Field.zero := by
  rw [extend]
  by_cases hi : i < fields.length
  · rw [List.getD_append _ _ _ _ hi]
  · rw [List.getD_append_right _ _ _ _ (by omega), List.getD_eq_default fields _ (by omega)]
    by_cases hlast : i - fields.length < length - fields.length
    · exact List.getD_replicate _ hlast
    · exact List.getD_eq_default _ _ (by rw [List.length_replicate]; omega)

private theorem compareLex_eq_lt_iff (as bs : List Field) (hlength : as.length = bs.length) :
    List.compareLex compare as bs = .lt ↔
      ∃ i, compare (as.getD i Field.zero) (bs.getD i Field.zero) = .lt ∧
        ∀ j < i, as.getD j Field.zero = bs.getD j Field.zero := by
  induction as generalizing bs with
  | nil =>
      obtain rfl : bs = [] := List.length_eq_zero_iff.mp hlength.symm
      simp [Std.ReflCmp.compare_self]
  | cons a as ih =>
      obtain _ | ⟨b, bs⟩ := bs
      · contradiction
      have hrest := ih bs (by simpa using hlength)
      rw [List.compareLex_cons_cons, Ordering.then_eq_lt, hrest,
        Std.LawfulEqCmp.compare_eq_iff_eq]
      constructor
      · rintro (hhead | ⟨hhead, i, hi, hbefore⟩)
        · exact ⟨0, hhead, by simp⟩
        · refine ⟨i + 1, hi, ?_⟩
          intro j hj
          cases j with
          | zero => exact hhead
          | succ j => exact hbefore j (by omega)
      · rintro ⟨i, hi, hbefore⟩
        cases i with
        | zero => exact .inl hi
        | succ i =>
            refine .inr ⟨hbefore 0 (by omega), i, hi, ?_⟩
            intro j hj
            exact hbefore (j + 1) (by omega)

theorem compare_eq_lt_iff (v w : Version) :
    compare v w = .lt ↔ ∃ i, compare (v.fieldAt i) (w.fieldAt i) = .lt ∧
      ∀ j < i, v.fieldAt j = w.fieldAt j := by
  let m := max v.fields.length w.fields.length
  have hv : (extend m v.fields).length = m := length_extend m _ (by omega)
  have hw : (extend m w.fields).length = m := length_extend m _ (by omega)
  rw [compare_eq_at v w m (by omega) (by omega), compareLex_eq_lt_iff _ _ (hv.trans hw.symm)]
  simp only [getD_extend, fieldAt]

theorem compare_eq_gt_iff (v w : Version) :
    compare v w = .gt ↔ ∃ i, compare (v.fieldAt i) (w.fieldAt i) = .gt ∧
      ∀ j < i, v.fieldAt j = w.fieldAt j := by
  rw [Std.OrientedCmp.gt_iff_lt, compare_eq_lt_iff]
  simp only [Std.OrientedCmp.gt_iff_lt (a := v.fieldAt _), eq_comm]

theorem compare_eq_eq_iff (v w : Version) :
    compare v w = .eq ↔ ∀ i, v.fieldAt i = w.fieldAt i := by
  constructor
  · intro h i
    let m := max v.fields.length w.fields.length
    rw [compare_eq_at v w m (by omega) (by omega), Std.LawfulEqCmp.compare_eq_iff_eq] at h
    rw [fieldAt, fieldAt, ← getD_extend m, h, getD_extend]
  · intro hsame
    -- In no place does one of the two come before the other.
    cases hcompare : compare v w with
    | eq => rfl
    | lt =>
        obtain ⟨i, hi, -⟩ := (compare_eq_lt_iff v w).mp hcompare
        rw [hsame i, Std.ReflOrd.compare_self] at hi
        contradiction
    | gt =>
        obtain ⟨i, hi, -⟩ := (compare_eq_gt_iff v w).mp hcompare
        rw [hsame i, Std.ReflOrd.compare_self] at hi
        contradiction

theorem le_of_fieldAt_isLE {v w : Version}
    (h : ∀ i, (compare (v.fieldAt i) (w.fieldAt i)).isLE = true) : v ≤ w := by
  change (compare v w).isLE = true
  rw [Ordering.isLE_iff_ne_gt]
  intro hgt
  obtain ⟨i, hi, -⟩ := (compare_eq_gt_iff v w).mp hgt
  have hle := h i
  rw [hi] at hle
  contradiction

end VersionDispatch.Version
