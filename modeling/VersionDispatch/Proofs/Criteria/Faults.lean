import Mathlib.Data.List.Infix
import VersionDispatch.Proofs.Criteria.Language

/-!
# What keeps a text from being a criteria

A text fails in one of three ways, in this order: it holds no token; the token that is found first
cuts it into a wrong number of bounds; one of the bounds holds an operator character. The first
happens just to the texts without any of `=`, `<` and `>`, since every token has one of these and
each of them is a token. Every other check that is made on the way has been made before.
-/

namespace VersionDispatch

namespace Token

open Text

/-- The token occurs in the text, and none that comes before it in the ranking does. -/
structure IsFirstIn (token : Token) (s : List Char) : Prop where
  occurs : token.separator.text <:+: s
  earlier_absent : ∀ earlier ∈ ranking.takeWhile (· != token), ¬earlier.separator.text <:+: s

theorem firstIn?_eq_some_iff_isFirstIn (token : Token) (s : List Char) :
    firstIn? s = some token ↔ token.IsFirstIn s := by
  simp only [firstIn?_eq_some_iff, ← Bool.not_eq_true, Separator.occursIn_iff_isInfix]
  constructor
  · rintro ⟨hoccurs, habsent⟩
    exact ⟨hoccurs, habsent⟩
  · rintro ⟨hoccurs, habsent⟩
    exact ⟨hoccurs, habsent⟩

private theorem exists_comparison_char (token : Token) :
    ∃ c ∈ token.separator.text, c ∈ ['=', '<', '>'] := by
  cases token <;> simp [Separator.text, separator]

private theorem exists_token_of_comparison_char {c : Char} (h : c ∈ ['=', '<', '>']) :
    ∃ token : Token, token.separator.text = [c] := by
  simp only [List.mem_cons, List.not_mem_nil, or_false] at h
  rcases h with rfl | rfl | rfl
  · exact ⟨.equal, rfl⟩
  · exact ⟨.less, rfl⟩
  · exact ⟨.greater, rfl⟩

private theorem firstIn?_eq_none_iff (s : List Char) :
    firstIn? s = none ↔ ∀ c ∈ s, c ∉ ['=', '<', '>'] := by
  have hnone : firstIn? s = none ↔ ∀ token : Token, ¬token.separator.text <:+: s := by
    rw [firstIn?, List.find?_eq_none]
    simp only [Separator.occursIn_iff_isInfix]
    exact ⟨fun h token => h token token.mem_ranking, fun h token _ => h token⟩
  rw [hnone]
  constructor
  · intro habsent c hc hcomparison
    obtain ⟨token, htext⟩ := exists_token_of_comparison_char hcomparison
    apply habsent token
    rw [htext]
    exact (List.singleton_infix_iff c s).mpr hc
  · intro hplain token hpart
    obtain ⟨c, hc, hcomparison⟩ := token.exists_comparison_char
    exact hplain c (hpart.subset hc) hcomparison

end Token

namespace Criteria

open Text

/-- The pieces between the places where the token stands, without those that are blank. -/
def filledPieces (token : Token) (expr : List Char) : List (List Char) :=
  (token.separator.pieces expr).filter hasContent

private theorem boundsOf_eq_map_filledPieces (token : Token) (expr : List Char) :
    boundsOf token expr = (filledPieces token expr).map Version.ofChars :=
  boundsOf_eq_boundsIn token expr

/-- What is wrong with a list of bounds for a token: their number, or else the first bad one. -/
inductive BoundsFault (token : Token) (bounds : List Version) : CriteriaFault → Prop where
  | arityMismatch (hcount : bounds.length ≠ token.operator.arity) :
      BoundsFault token bounds
        (.arityMismatch token.text token.operator.arity bounds.length)
  | badBound (bad : Version) (hcount : bounds.length = token.operator.arity)
      (hbad : bounds.find? (fun v => !v.isBound) = some bad) :
      BoundsFault token bounds (.badBound bad.text)

private theorem ofToken_eq_error_iff (token : Token) (bound : Version) (upper : Option Version)
    (fault : CriteriaFault) :
    ofToken token bound upper = .error fault ↔
      BoundsFault token (bound :: upper.toList) fault := by
  constructor
  · intro h
    rw [ofToken] at h
    split at h
    · next hcount =>
        split at h
        · contradiction
        · next bad hbad =>
            cases h
            exact .badBound bad hcount.symm hbad
    · next hcount =>
        cases h
        exact .arityMismatch (Ne.symm hcount)
  · intro h
    cases h with
    | arityMismatch hcount => rw [ofToken, dif_neg (Ne.symm hcount)]
    | badBound bad hcount hbad =>
        rw [ofToken, dif_pos hcount.symm]
        split
        · next hgood =>
            rw [hgood] at hbad
            contradiction
        · next first hfirst =>
            obtain rfl : first = bad := Option.some.inj (hfirst.symm.trans hbad)
            rfl

theorem parse_eq_error_iff_bounds {expr : String} {token : Token}
    (hfirst : Token.firstIn? expr.toList = some token) (fault : CriteriaFault) :
    parse expr = .error fault ↔ BoundsFault token (boundsOf token expr.toList) fault := by
  rw [parse, hfirst]
  dsimp only
  split
  · next bound hbounds => rw [ofToken_eq_error_iff, hbounds, Option.toList_none]
  · next bound upper hbounds => rw [ofToken_eq_error_iff, hbounds, Option.toList_some]
  · next hone htwo =>
      have hcount : (boundsOf token expr.toList).length ≠ token.operator.arity := by
        intro hcount
        rcases token.arity_eq_one_or_two with harity | harity
        · obtain ⟨bound, hbounds⟩ := List.length_eq_one_iff.mp (hcount.trans harity)
          exact hone bound hbounds
        · obtain ⟨bound, upper, hbounds⟩ := List.length_eq_two.mp (hcount.trans harity)
          exact htwo bound upper hbounds
      constructor
      · intro h
        cases h
        exact .arityMismatch hcount
      · intro h
        cases h with
        | arityMismatch => rfl
        | badBound bad hequal => contradiction

/-- The first of the pieces that an operator character stands in. -/
def IsFirstMarked (pieces : List (List Char)) (piece : List Char) : Prop :=
  ∃ before after, pieces = before ++ piece :: after ∧
    (∃ c ∈ piece, isOperatorChar c = true) ∧
      ∀ earlier ∈ before, ∀ c ∈ earlier, isOperatorChar c = false

private theorem IsFirstMarked.trim_ne_nil {pieces : List (List Char)} {piece : List Char}
    (h : IsFirstMarked pieces piece) : trim piece ≠ [] := by
  obtain ⟨_, _, _, ⟨c, hc, hop⟩, _⟩ := h
  exact List.ne_nil_of_mem (mem_trim_of_mem hc (isBlank_of_isOperatorChar hop))

private theorem isBound_ofChars_iff {token : Token} {expr piece : List Char}
    (h : piece ∈ filledPieces token expr) :
    (Version.ofChars piece).isBound = true ↔ ∀ c ∈ piece, isOperatorChar c = false := by
  have hcontent : hasContent piece = true := (List.mem_filter.mp h).2
  constructor
  · intro hbound
    exact plain_of_isBound fun _ => hbound
  · exact isBound_ofChars hcontent

private theorem not_isBound_ofChars_iff {token : Token} {expr piece : List Char}
    (h : piece ∈ filledPieces token expr) :
    (!(Version.ofChars piece).isBound) = true ↔ ∃ c ∈ piece, isOperatorChar c = true := by
  rw [Bool.not_eq_true', ← Bool.not_eq_true, isBound_ofChars_iff h]
  simp

private theorem find?_bad_eq_some_iff (token : Token) (expr : List Char) (bad : Version) :
    (boundsOf token expr).find? (fun v => !v.isBound) = some bad ↔
      ∃ piece, IsFirstMarked (filledPieces token expr) piece ∧ Version.ofChars piece = bad := by
  rw [boundsOf_eq_map_filledPieces, List.find?_map, Option.map_eq_some_iff]
  apply exists_congr
  intro piece
  apply and_congr_left'
  rw [List.find?_eq_some_iff_append]
  have hsplit {before after : List (List Char)}
      (h : filledPieces token expr = before ++ piece :: after) :
      piece ∈ filledPieces token expr ∧ ∀ earlier ∈ before, earlier ∈ filledPieces token expr := by
    rw [h]
    exact ⟨List.mem_append_cons_self, fun _ hearlier => List.mem_append_left _ hearlier⟩
  constructor
  · rintro ⟨hmarked, before, after, h, hbefore⟩
    refine ⟨before, after, h, (not_isBound_ofChars_iff (hsplit h).1).mp hmarked, ?_⟩
    intro earlier hearlier
    have hbound : (Version.ofChars earlier).isBound = true := by
      simpa using hbefore earlier hearlier
    exact (isBound_ofChars_iff ((hsplit h).2 earlier hearlier)).mp hbound
  · rintro ⟨before, after, h, hmarked, hbefore⟩
    refine ⟨(not_isBound_ofChars_iff (hsplit h).1).mpr hmarked, before, after, h, ?_⟩
    intro earlier hearlier
    have hbound : (Version.ofChars earlier).isBound = true :=
      (isBound_ofChars_iff ((hsplit h).2 earlier hearlier)).mpr (hbefore earlier hearlier)
    simpa using hbound

/-- The ways in which a text fails to be a criteria, told by its characters and pieces. -/
inductive Diagnosis (expr : String) : CriteriaFault → Prop where
  | noToken (hplain : ∀ c ∈ expr.toList, c ∉ ['=', '<', '>']) : Diagnosis expr (.noToken expr)
  | arityMismatch (token : Token) (hfirst : token.IsFirstIn expr.toList)
      (hcount : (filledPieces token expr.toList).length ≠ token.operator.arity) :
      Diagnosis expr (.arityMismatch token.text token.operator.arity
        (filledPieces token expr.toList).length)
  | badBound (token : Token) (hfirst : token.IsFirstIn expr.toList)
      (hcount : (filledPieces token expr.toList).length = token.operator.arity)
      (piece : List Char) (hmarked : IsFirstMarked (filledPieces token expr.toList) piece) :
      Diagnosis expr (.badBound (String.ofList (trim piece)))

private theorem length_boundsOf (token : Token) (expr : List Char) :
    (boundsOf token expr).length = (filledPieces token expr).length := by
  rw [boundsOf_eq_map_filledPieces, List.length_map]

theorem parse_eq_error_iff (expr : String) (fault : CriteriaFault) :
    parse expr = .error fault ↔ Diagnosis expr fault := by
  constructor
  · intro h
    cases hfirst : Token.firstIn? expr.toList with
    | none =>
        rw [parse, hfirst] at h
        cases h
        exact .noToken ((Token.firstIn?_eq_none_iff _).mp hfirst)
    | some token =>
        have hisFirst := (token.firstIn?_eq_some_iff_isFirstIn _).mp hfirst
        cases (parse_eq_error_iff_bounds hfirst fault).mp h with
        | arityMismatch hcount =>
            rw [length_boundsOf] at hcount ⊢
            exact .arityMismatch token hisFirst hcount
        | badBound bad hcount hbad =>
            rw [length_boundsOf] at hcount
            obtain ⟨piece, hmarked, rfl⟩ := (find?_bad_eq_some_iff _ _ _).mp hbad
            exact .badBound token hisFirst hcount piece hmarked
  · intro h
    cases h with
    | noToken hplain => rw [parse, (Token.firstIn?_eq_none_iff _).mpr hplain]
    | arityMismatch token hisFirst hcount =>
        have hfirst := (token.firstIn?_eq_some_iff_isFirstIn _).mpr hisFirst
        rw [parse_eq_error_iff_bounds hfirst]
        rw [← length_boundsOf] at hcount ⊢
        exact .arityMismatch hcount
    | badBound token hisFirst hcount piece hmarked =>
        have hfirst := (token.firstIn?_eq_some_iff_isFirstIn _).mpr hisFirst
        rw [parse_eq_error_iff_bounds hfirst]
        rw [← length_boundsOf] at hcount
        exact .badBound _ hcount ((find?_bad_eq_some_iff _ _ _).mpr ⟨piece, hmarked, rfl⟩)

private theorem make_text (token : Token) (bound : Version) (upper : Option Version) :
    make token.text bound upper = ofToken token bound upper := by
  rw [make, Token.ofText?_text]

/-- An expression read in single steps, each with the checks of its own: the token that is found is
looked up by its text, the bounds are counted, the second of two is taken off their end and then the
first one off what is left, and the criteria is made of the token's text and these. There is no
result if a bound is to be taken from an empty list. -/
def parseInSteps (expr : String) : Option (Except CriteriaFault Criteria) :=
  match Token.firstIn? expr.toList with
  | none => some (.error (.noToken expr))
  | some token =>
      match Token.ofText? token.text with
      | none => some (.error (.unknownToken token.text))
      | some known =>
          let bounds := boundsOf token expr.toList
          if bounds.length ≠ known.operator.arity then
            some (.error (.arityMismatch token.text known.operator.arity bounds.length))
          else
            let upper := if bounds.length = 2 then bounds.getLast? else none
            let rest := if bounds.length = 2 then bounds.dropLast else bounds
            rest.head?.map fun bound => make token.text bound upper

theorem parseInSteps_eq_some_parse (expr : String) : parseInSteps expr = some (parse expr) := by
  rw [parseInSteps]
  cases hfirst : Token.firstIn? expr.toList with
  | none => rw [parse, hfirst]
  | some token =>
      simp only [Token.ofText?_text, make_text]
      by_cases hcount : (boundsOf token expr.toList).length = token.operator.arity
      · -- As many bounds as the operator takes are never none.
        rw [if_neg (not_not.mpr hcount), parse, hfirst]
        rcases token.arity_eq_one_or_two with harity | harity
        · obtain ⟨bound, hbounds⟩ := List.length_eq_one_iff.mp (hcount.trans harity)
          simp [hbounds]
        · obtain ⟨bound, upper, hbounds⟩ := List.length_eq_two.mp (hcount.trans harity)
          simp [hbounds]
      · have hfault := (parse_eq_error_iff_bounds hfirst _).mpr (.arityMismatch hcount)
        rw [if_pos hcount, hfault]

/-- Reading an expression never runs out of bounds and never meets a token that it does not know.
A text without any of `=`, `<` and `>` holds no token, and no other text is told so. All other
faults are those of the token found first: the pieces that are not blank are too many or too few, or
they are as many as the operator takes and an operator character stands in one, in this one
first. -/
theorem parse_diagnosis (expr : String) :
    parseInSteps expr = some (parse expr) ∧
      (∀ op, parse expr ≠ .error (.unknownToken op)) ∧
      (∀ text, parse expr = .error (.noToken text) ↔
        text = expr ∧ ∀ c ∈ expr.toList, c ∉ ['=', '<', '>']) ∧
      (∀ op expected found, parse expr = .error (.arityMismatch op expected found) ↔
        ∃ token : Token, token.IsFirstIn expr.toList ∧ op = token.text ∧
          expected = token.operator.arity ∧
          found = (filledPieces token expr.toList).length ∧ found ≠ expected) ∧
      (∀ bound, parse expr = .error (.badBound bound) ↔
        ∃ token : Token, token.IsFirstIn expr.toList ∧
          (filledPieces token expr.toList).length = token.operator.arity ∧
          ∃ piece, IsFirstMarked (filledPieces token expr.toList) piece ∧
            bound = String.ofList (trim piece) ∧ bound ≠ "") := by
  simp only [Ne, parse_eq_error_iff]
  refine ⟨parseInSteps_eq_some_parse expr, ?_, ?_, ?_, ?_⟩
  · intro op h
    contradiction
  · intro text
    constructor
    · intro h
      cases h with
      | noToken hplain => exact ⟨rfl, hplain⟩
    · rintro ⟨rfl, hplain⟩
      exact .noToken hplain
  · intro op expected found
    constructor
    · intro h
      cases h with
      | arityMismatch token hfirst hcount => exact ⟨token, hfirst, rfl, rfl, rfl, hcount⟩
    · rintro ⟨token, hfirst, rfl, rfl, rfl, hcount⟩
      exact .arityMismatch token hfirst hcount
  · intro bound
    constructor
    · intro h
      cases h with
      | badBound token hfirst hcount piece hmarked =>
          have hne : String.ofList (trim piece) ≠ "" := by simpa using hmarked.trim_ne_nil
          exact ⟨token, hfirst, hcount, piece, hmarked, rfl, hne⟩
    · rintro ⟨token, hfirst, hcount, piece, hmarked, rfl, -⟩
      exact .badBound token hfirst hcount piece hmarked

/-- The number of bounds is wrong before any of them is. -/
example : parse "1<2>=3" = .error (.arityMismatch ">=" 1 2) := by rfl

end Criteria

end VersionDispatch
