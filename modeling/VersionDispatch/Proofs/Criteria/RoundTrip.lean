import VersionDispatch.Proofs.Criteria.Language
import VersionDispatch.Proofs.Version.Order

namespace VersionDispatch.Criteria

open Text

/-- The pieces of a criteria's text: nothing and the bound, or the two bounds. -/
private def textPieces (c : Criteria) : List (List Char) :=
  match c.upper with
  | some upper => [c.bound.text.toList, upper.text.toList]
  | none => [[], c.bound.text.toList]

private theorem hasContent_of_isBound {v : Version} (h : v.isBound = true) :
    hasContent v.text.toList = true := by
  rw [hasContent_iff, trim_eq_self _ v.trimmed]
  exact ((isBound_iff v).mp h).1

private theorem operator_token (op : Operator) : op.token.operator = op := by
  cases op <;> rfl

private theorem filter_textPieces (c : Criteria) :
    (textPieces c).filter hasContent = (c.bound :: c.upper.toList).map (·.text.toList) := by
  have hnil : hasContent [] = false := rfl
  have hbound := hasContent_of_isBound (c.isBound c.bound (by simp))
  cases hupper : c.upper with
  | none => simp [textPieces, hupper, hbound, hnil]
  | some upper =>
      have hlast := hasContent_of_isBound (c.isBound upper (by simp [hupper]))
      simp [textPieces, hupper, hbound, hlast]

theorem written_text (c : Criteria) :
    Written c.operator.token (textPieces c) c.text.toList := by
  have hbound := ((isBound_iff _).mp (c.isBound c.bound (by simp))).2
  refine ⟨⟨?_, ?_⟩, ?_, ?_, ?_⟩
  · cases hupper : c.upper with
    | none => simpa [textPieces, hupper] using hbound
    | some upper =>
        have hlast := ((isBound_iff _).mp (c.isBound upper (by simp [hupper]))).2
        simpa [textPieces, hupper] using ⟨hbound, hlast⟩
  · intro _
    cases hupper : c.upper <;> simp [textPieces, hupper]
  · cases hupper : c.upper <;> simp [textPieces, text, hupper, Operator.text, Token.text]
  · cases hupper : c.upper <;> simp [textPieces, hupper]
  · rw [filter_textPieces, List.length_map, operator_token, c.arity_eq]

private theorem boundsIn_textPieces (c : Criteria) :
    boundsIn (textPieces c) = c.bound :: c.upper.toList := by
  rw [boundsIn, filter_textPieces, List.map_map]
  apply List.map_id''
  exact ofChars_toList_text

theorem parse_text (c : Criteria) : parse c.text = .ok c :=
  parse_of_written (written_text c) c (operator_token c.operator).symm (boundsIn_textPieces c).symm

instance : ReflBEq Criteria where
  rfl {c} := by
    change (c.operator == c.operator && c.bound == c.bound && c.upper == c.upper) = true
    simp

/-- Every criteria is read back from its text, with the same operator, the same texts and fields
of its bounds and the same text again. -/
theorem text_reads_back (c : Criteria) :
    ∃ d, parse c.text = .ok d ∧
      d.operator = c.operator ∧
      d.bound.text = c.bound.text ∧ d.upper.map Version.text = c.upper.map Version.text ∧
      d.bound.fields = c.bound.fields ∧ d.upper.map Version.fields = c.upper.map Version.fields ∧
      (d == c) = true ∧ d.significantParts = c.significantParts ∧ d.text = c.text :=
  ⟨c, parse_text c, rfl, rfl, rfl, rfl, rfl, BEq.rfl, rfl, rfl⟩

end VersionDispatch.Criteria
