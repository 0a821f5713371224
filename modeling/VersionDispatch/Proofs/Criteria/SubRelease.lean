import VersionDispatch.Proofs.Criteria.Comparison
import VersionDispatch.Proofs.Criteria.Language
import VersionDispatch.Proofs.Text.Joined
import VersionDispatch.Proofs.Version.Places

namespace VersionDispatch

open Text

private theorem Field.zero_isLE (field : Field) : (compare zero field).isLE = true := by
  cases field with
  | number value =>
      change (compare 0 value).isLE = true
      rw [UInt64.compare_eq_toNat_compare_toNat, Nat.isLE_compare]
      exact Nat.zero_le _
  | word text => rfl

namespace Version

section Extended

variable {v w : Version} {more : List Field} (hfields : w.fields = v.fields ++ more)

include hfields

private theorem fieldAt_of_lt {i : Nat} (hi : i < v.fields.length) : w.fieldAt i = v.fieldAt i := by
  rw [fieldAt, hfields, List.getD_append _ _ _ _ hi, fieldAt]

private theorem fieldAt_of_le {i : Nat} (hi : v.fields.length ≤ i) :
    v.fieldAt i = Field.zero ∧ w.fieldAt i = more.getD (i - v.fields.length) Field.zero := by
  constructor
  · exact List.getD_eq_default _ _ hi
  · rw [fieldAt, hfields, List.getD_append_right _ _ _ _ hi]

theorem le_of_fields_append : v ≤ w := by
  apply le_of_fieldAt_isLE
  intro i
  rcases Nat.lt_or_ge i v.fields.length with hi | hi
  · rw [fieldAt_of_lt hfields hi]
    exact Std.ReflCmp.isLE_rfl
  · rw [(fieldAt_of_le hfields hi).1]
    exact Field.zero_isLE _

theorem beq_iff_of_fields_append :
    (v == w) = true ↔ ∀ field ∈ more, field = Field.zero := by
  rw [beq_iff_compare_eq, compare_eq_eq_iff]
  constructor
  · intro hsame field hfield
    obtain ⟨j, hj, rfl⟩ := List.getElem_of_mem hfield
    have hplace := fieldAt_of_le hfields (Nat.le_add_right v.fields.length j)
    rw [Nat.add_sub_cancel_left, List.getD_eq_getElem _ _ hj] at hplace
    rw [← hplace.2, ← hsame, hplace.1]
  · intro hzero i
    rcases Nat.lt_or_ge i v.fields.length with hi | hi
    · exact (fieldAt_of_lt hfields hi).symm
    · obtain ⟨hv, hw⟩ := fieldAt_of_le hfields hi
      rw [hv, hw]
      by_cases hj : i - v.fields.length < more.length
      · rw [List.getD_eq_getElem _ _ hj]
        exact (hzero _ (List.getElem_mem hj)).symm
      · rw [List.getD_eq_default _ _ (Nat.not_lt.mp hj)]

end Extended

/-- The fields behind a further dot. -/
private def addedFields (x : String) : List Field :=
  ((trimEnd x.toList).splitOn '.').map Field.read

private theorem fields_parse_append {t : String}
    (hend : ∀ c ∈ t.toList.getLast?, isBlank c = false) (x : String) :
    (parse (t ++ "." ++ x)).fields = (parse t).fields ++ addedFields x := by
  have hdot : isBlank '.' = false := by decide
  have htrim : trim (t ++ "." ++ x).toList = trim t.toList ++ '.' :: trimEnd x.toList := by
    rw [← trim_append_cons hdot hend]
    simp
  rw [fields_parse, htrim, List.splitOn_append_cons_self, List.map_append, fields_parse,
    addedFields]

end Version

theorem Criteria.accepts_of_bound_le {c : Criteria} (hop : c.operator = .atLeast) {v : Version}
    (hle : c.bound ≤ v) : c.accepts (some v) = true := by
  change c.operator.accepts v c.bound c.upper = true
  rw [hop]
  exact decide_eq_true hle

/-- Written on behind a dot, a version does not come before what it was, and is equal to it exactly
if nothing but zeros was added. If it can stand as a bound, all that is written on from it is
accepted under it as the lower bound. -/
theorem Version.parse_le_parse_append (t : String)
    (hend : ∀ c ∈ t.toList.getLast?, isBlank c = false) :
    (∀ x : String,
        let base := parse t
        let sub := parse (t ++ "." ++ x)
        base.fields <+: sub.fields ∧ base ≤ sub ∧
          ((base == sub) = true ↔
            ∀ field ∈ sub.fields.drop base.fields.length, field = .number 0)) ∧
      (t ≠ "" → (∀ c ∈ t.toList, c ∉ ['=', '!', '<', '>']) →
        ∃ c, Criteria.parse (">=" ++ t) = .ok c ∧
          ∀ x : String, c.acceptsText (some (t ++ "." ++ x)) = true) := by
  constructor
  · intro x base sub
    have hfields : sub.fields = base.fields ++ addedFields x := fields_parse_append hend x
    have hadded : sub.fields.drop base.fields.length = addedFields x := by
      rw [hfields, List.drop_left]
    refine ⟨?_, le_of_fields_append hfields, ?_⟩
    · rw [hfields]
      exact List.prefix_append _ _
    · rw [hadded]
      exact beq_iff_of_fields_append hfields
  · intro hne hplain
    have hcontent : trim t.toList ≠ [] := by
      have hlist : t.toList ≠ [] := by simpa using hne
      have hlast := List.getLast_mem hlist
      have hkept := mem_trim_of_mem hlast (hend _ (List.getLast?_eq_some_getLast hlist))
      exact List.ne_nil_of_mem hkept
    have hbound : (parse t).isBound = true := by
      apply Criteria.isBound_parse hcontent
      intro c hc
      exact hplain c (mem_of_mem_trim hc)
    obtain ⟨c, hparse, hop, hcbound⟩ := Criteria.parse_token_append .greaterEqual rfl t hbound
    refine ⟨c, hparse, ?_⟩
    intro x
    apply Criteria.accepts_of_bound_le hop
    rw [hcbound]
    exact le_of_fields_append (fields_parse_append hend x)

theorem Version.parse_le_parse_append_zeros :
    let t := " 2.a"
    (∀ c ∈ t.toList.getLast?, isBlank c = false) ∧ t ≠ "" ∧
      (∀ c ∈ t.toList, c ∉ ['=', '!', '<', '>']) ∧
      (parse t == parse (t ++ "." ++ "00.0 ")) = true ∧
      parse t ≤ parse (t ++ "." ++ ".0") ∧ ¬(parse t == parse (t ++ "." ++ ".0")) = true ∧
      ∃ c, Criteria.parse (">=" ++ t) = .ok c ∧ c.acceptsText (some (t ++ "." ++ ".0")) = true := by
  intro t
  have hend : ∀ c ∈ t.toList.getLast?, isBlank c = false := by
    have hlast : t.toList.getLast? = some 'a' := by simp [t]
    rw [hlast]
    rintro _ ⟨⟩
    rfl
  have hne : t ≠ "" := by decide
  have hplain : ∀ c ∈ t.toList, c ∉ ['=', '!', '<', '>'] := by simp [t]
  obtain ⟨hsub, hbound⟩ := parse_le_parse_append t hend
  obtain ⟨c, hparse, haccepts⟩ := hbound hne hplain
  refine ⟨hend, hne, hplain, ?_, (hsub ".0").2.1, ?_, c, hparse, haccepts ".0"⟩
  · rw [(hsub "00.0 ").2.2]
    decide
  · rw [(hsub ".0").2.2]
    decide

end VersionDispatch
