import VersionDispatch.Criteria.Basic
import VersionDispatch.Proofs.Criteria.Tokens

/-!
# The language of criteria

A criteria is read from exactly the texts that a token and pieces without operator characters
make up, as many of the pieces not blank as the operator takes bounds. However such a text came
about, its bounds are the pieces that are not blank, trimmed and in order.
-/

namespace VersionDispatch.Criteria

open Text

/-- Is there anything in the piece but blanks? -/
def hasContent (piece : List Char) : Bool := piece.any fun c => !isBlank c

/-- The expression consists of the pieces with the token between each two, at least once. -/
structure Written (token : Token) (pieces : List (List Char)) (expr : List Char) : Prop
    extends token.Separates pieces where
  joined : expr = token.separator.text.intercalate pieces
  two_le_length : 2 ≤ pieces.length
  arity_eq : (pieces.filter hasContent).length = token.operator.arity

/-- The versions that stand among the pieces. -/
def boundsIn (pieces : List (List Char)) : List Version :=
  (pieces.filter hasContent).map Version.ofChars

theorem hasContent_iff (piece : List Char) : hasContent piece = true ↔ trim piece ≠ [] := by
  rw [hasContent, List.any_eq_true, Ne, trim_eq_nil_iff]
  simp

theorem boundsOf_eq_boundsIn (token : Token) (expr : List Char) :
    boundsOf token expr = boundsIn (token.separator.pieces expr) := by
  rw [boundsOf, boundsIn]
  congr 1
  apply List.filter_congr
  intro piece _
  rw [Bool.eq_iff_iff, hasContent_iff]
  simp

theorem isBlank_of_isOperatorChar {c : Char} (h : isOperatorChar c = true) :
    isBlank c = false := by
  simp only [isOperatorChar, Bool.or_eq_true, beq_iff_eq] at h
  rcases h with ((rfl | rfl) | rfl) | rfl <;> decide

theorem isBound_iff (v : Version) :
    v.isBound = true ↔ v.text.toList ≠ [] ∧ ∀ c ∈ v.text.toList, isOperatorChar c = false := by
  simp [Version.isBound]

@[simp] theorem toList_text_ofChars (s : List Char) : (Version.ofChars s).text.toList = trim s := by
  simp [Version.ofChars]

theorem ofChars_toList_text (v : Version) : Version.ofChars v.text.toList = v := v.parse_text

theorem isBound_ofChars {piece : List Char} (hcontent : hasContent piece = true)
    (hplain : ∀ c ∈ piece, isOperatorChar c = false) : (Version.ofChars piece).isBound = true := by
  rw [isBound_iff, toList_text_ofChars]
  refine ⟨(hasContent_iff piece).mp hcontent, ?_⟩
  intro c hc
  exact hplain c (mem_of_mem_trim hc)

theorem isBound_parse {b : String} (hne : trim b.toList ≠ [])
    (hplain : ∀ c ∈ trim b.toList, c ∉ ['=', '!', '<', '>']) :
    (Version.parse b).isBound = true := by
  rw [isBound_iff, Version.toList_text_parse]
  refine ⟨hne, ?_⟩
  intro c hc
  have hnot := hplain c hc
  simp only [List.mem_cons, List.not_mem_nil, or_false, not_or] at hnot
  simp [isOperatorChar, hnot]

theorem plain_of_isBound {piece : List Char}
    (h : hasContent piece = true → (Version.ofChars piece).isBound = true) :
    ∀ c ∈ piece, isOperatorChar c = false := by
  intro c hc
  cases hop : isOperatorChar c with
  | false => rfl
  | true =>
      have hblank := isBlank_of_isOperatorChar hop
      have htrim := mem_trim_of_mem hc hblank
      have hcontent : hasContent piece = true :=
        (hasContent_iff piece).mpr (List.ne_nil_of_mem htrim)
      have hbound := ((isBound_iff _).mp (h hcontent)).2 c
      rw [toList_text_ofChars, hop] at hbound
      exact absurd (hbound htrim) (by simp)

private theorem ofToken_eq_ok_iff (token : Token) (bound : Version) (upper : Option Version)
    (c : Criteria) :
    ofToken token bound upper = .ok c ↔
      c.operator = token.operator ∧ c.bound = bound ∧ c.upper = upper := by
  constructor
  · intro h
    rw [ofToken] at h
    split at h
    · split at h
      · cases h
        exact ⟨rfl, rfl, rfl⟩
      · contradiction
    · contradiction
  · rintro ⟨hop, rfl, rfl⟩
    rw [ofToken, dif_pos (hop ▸ c.arity_eq)]
    split
    · cases c
      cases hop
      rfl
    · next bad hbad =>
        have hbound := c.isBound bad (List.mem_of_find?_eq_some hbad)
        simpa [hbound] using List.find?_some hbad

theorem parse_eq_ok_iff_bounds (expr : String) (c : Criteria) :
    parse expr = .ok c ↔ ∃ token, Token.firstIn? expr.toList = some token ∧
      c.operator = token.operator ∧ boundsOf token expr.toList = c.bound :: c.upper.toList := by
  rw [parse]
  cases hfirst : Token.firstIn? expr.toList with
  | none => simp
  | some token =>
      simp only [Option.some.injEq, exists_eq_left']
      split
      · next bound hbounds =>
          rw [ofToken_eq_ok_iff, hbounds]
          cases c.upper <;> simp [eq_comm]
      · next bound upper hbounds =>
          rw [ofToken_eq_ok_iff, hbounds]
          cases c.upper <;> simp [eq_comm]
      · next hone htwo =>
          simp only [reduceCtorEq, false_iff, not_and]
          intro _ hbounds
          cases hupper : c.upper with
          | none => exact hone c.bound (by simpa [hupper] using hbounds)
          | some upper => exact htwo c.bound upper (by simpa [hupper] using hbounds)

/-- Cutting an expression that was written with a token gives its pieces back. -/
theorem Written.pieces_eq {token : Token} {pieces : List (List Char)} {expr : List Char}
    (h : Written token pieces expr) : token.separator.pieces expr = pieces := by
  have hne : pieces ≠ [] := by
    intro hnil
    simpa [hnil] using h.two_le_length
  rw [h.joined]
  exact Separator.pieces_intercalate _ _ hne h.first_notMem

theorem parse_of_written {token : Token} {pieces : List (List Char)} {expr : String}
    (h : Written token pieces expr.toList) (c : Criteria) (hop : c.operator = token.operator)
    (hbounds : c.bound :: c.upper.toList = boundsIn pieces) : parse expr = .ok c := by
  rw [parse_eq_ok_iff_bounds]
  refine ⟨token, ?_, hop, ?_⟩
  · rw [h.joined]
    exact token.firstIn?_intercalate pieces h.toSeparates h.two_le_length
  · rw [boundsOf_eq_boundsIn, h.pieces_eq, hbounds]

theorem written_of_parse {expr : String} {c : Criteria} (h : parse expr = .ok c) :
    ∃ token, Written token (token.separator.pieces expr.toList) expr.toList ∧
      c.operator = token.operator ∧
      c.bound :: c.upper.toList = boundsIn (token.separator.pieces expr.toList) := by
  obtain ⟨token, hfirst, hop, hbounds⟩ := (parse_eq_ok_iff_bounds expr c).mp h
  obtain ⟨hocc, hearlier⟩ := (Token.firstIn?_eq_some_iff token _).mp hfirst
  rw [boundsOf_eq_boundsIn] at hbounds
  refine ⟨token, ⟨⟨?_, ?_⟩, ?_, ?_, ?_⟩, hop, hbounds.symm⟩
  · intro piece hpiece
    apply plain_of_isBound
    intro hcontent
    apply c.isBound
    rw [← hbounds, boundsIn]
    exact List.mem_map_of_mem (List.mem_filter.mpr ⟨hpiece, hcontent⟩)
  · rintro rfl hempty
    have hdouble := hearlier .doubleEqual (by decide)
    have hpart := Separator.text_append_text_infix_intercalate (Token.separator .equal) _ hempty
    rw [Separator.intercalate_pieces] at hpart
    rw [(Separator.occursIn_iff_isInfix (Token.separator .doubleEqual) _).mpr hpart] at hdouble
    contradiction
  · exact (Separator.intercalate_pieces _ _).symm
  · exact (Separator.two_le_length_pieces_iff _ _).mpr hocc
  · have hlength := congrArg List.length hbounds
    rw [boundsIn, List.length_map] at hlength
    rw [hlength, ← c.arity_eq, hop]

theorem Written.exists_criteria {token : Token} {pieces : List (List Char)} {expr : List Char}
    (h : Written token pieces expr) :
    ∃ c : Criteria, c.operator = token.operator ∧ c.bound :: c.upper.toList = boundsIn pieces := by
  have hlength : (boundsIn pieces).length = token.operator.arity := by
    rw [boundsIn, List.length_map, h.arity_eq]
  have hbound : ∀ v ∈ boundsIn pieces, v.isBound = true := by
    intro v hv
    obtain ⟨piece, hpiece, rfl⟩ := List.mem_map.mp hv
    obtain ⟨hmem, hcontent⟩ := List.mem_filter.mp hpiece
    exact isBound_ofChars hcontent (h.plain piece hmem)
  have htwo := token.arity_eq_one_or_two
  match hbounds : boundsIn pieces with
  | [] => simp [hbounds] at hlength; omega
  | [bound] =>
      exact ⟨⟨token.operator, bound, none, by simp [← hlength, hbounds],
        by simpa [hbounds] using hbound⟩, rfl, rfl⟩
  | [bound, upper] =>
      exact ⟨⟨token.operator, bound, some upper, by simp [← hlength, hbounds],
        by simpa [hbounds] using hbound⟩, rfl, rfl⟩
  | _ :: _ :: _ :: _ => simp [hbounds] at hlength; omega

private theorem filter_nil_bound {bound : List Char}
    (hbound : (Version.ofChars bound).isBound = true) :
    [[], bound].filter hasContent = [bound] := by
  have hne : trim bound ≠ [] := by simpa using ((isBound_iff _).mp hbound).1
  have hnil : hasContent [] = false := rfl
  simp [(hasContent_iff bound).mpr hne, hnil]

private theorem written_token_append (token : Token) (hone : token.operator.arity = 1)
    (bound : List Char) (hbound : (Version.ofChars bound).isBound = true) :
    Written token [[], bound] (token.separator.text ++ bound) where
  plain := by
    have hplain := plain_of_isBound fun _ => hbound
    simpa using hplain
  apart := by simp
  joined := by simp
  two_le_length := by simp
  arity_eq := by rw [filter_nil_bound hbound, hone, List.length_singleton]

theorem parse_token_append (token : Token) (hone : token.operator.arity = 1) (bound : String)
    (hbound : (Version.parse bound).isBound = true) :
    ∃ c, parse (token.text ++ bound) = .ok c ∧ c.operator = token.operator ∧
      c.bound = Version.parse bound := by
  have hwritten : Written token [[], bound.toList] (token.text ++ bound).toList := by
    simpa [Token.text] using written_token_append token hone bound.toList hbound
  obtain ⟨c, hop, hbounds⟩ := hwritten.exists_criteria
  have hparse := parse_of_written hwritten c hop hbounds
  rw [boundsIn, filter_nil_bound hbound] at hbounds
  exact ⟨c, hparse, hop, (List.cons.inj hbounds).1⟩

/-- A text is a criteria exactly if it is written as one, whatever token and pieces it is written
with; the operator is that of the token and the bounds are the pieces that are not blank. -/
theorem parse_ok_iff_written (expr : String) :
    ((∃ c, parse expr = .ok c) ↔
        ∃ token ∈ Token.ranking, ∃ pieces, Written token pieces expr.toList) ∧
      ∀ c token pieces, parse expr = .ok c → Written token pieces expr.toList →
        (Token.ofText? token.text).map Token.operator = some c.operator ∧
          (c.bound :: c.upper.toList).map Version.text =
            (pieces.filter hasContent).map fun piece => String.ofList (trim piece) := by
  refine ⟨⟨?_, ?_⟩, ?_⟩
  · rintro ⟨c, hparse⟩
    obtain ⟨token, hwritten, -, -⟩ := written_of_parse hparse
    exact ⟨token, token.mem_ranking, _, hwritten⟩
  · rintro ⟨token, -, pieces, hwritten⟩
    obtain ⟨c, hop, hbounds⟩ := hwritten.exists_criteria
    exact ⟨c, parse_of_written hwritten c hop hbounds⟩
  · intro c token pieces hparse hwritten
    obtain ⟨d, hop, hbounds⟩ := hwritten.exists_criteria
    have hsame : c = d := by
      have hd := parse_of_written hwritten d hop hbounds
      rw [hparse] at hd
      exact Except.ok.inj hd
    rw [hsame, Token.ofText?_text, hop, hbounds, boundsIn, List.map_map]
    exact ⟨rfl, rfl⟩

/-- Two equals signs that a blank keeps apart: `= = 1`. -/
theorem parse_ok_iff_written_spaced_equals :
    Written .equal [[], [' '], [' ', '1']] "= = 1".toList ∧
      ∃ c, parse "= = 1" = .ok c ∧ some Operator.equal = some c.operator ∧
        (c.bound :: c.upper.toList).map Version.text = ["1"] := by
  have hwritten : Written .equal [[], [' '], [' ', '1']] "= = 1".toList :=
    ⟨⟨by simp [isOperatorChar], by decide⟩, by decide, by decide, by decide⟩
  obtain ⟨c, hparse⟩ := (parse_ok_iff_written "= = 1").1.mpr ⟨_, by decide, _, hwritten⟩
  exact ⟨hwritten, c, hparse, (parse_ok_iff_written "= = 1").2 c _ _ hparse hwritten⟩

end VersionDispatch.Criteria
