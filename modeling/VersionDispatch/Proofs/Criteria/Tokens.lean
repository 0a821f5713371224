import Mathlib.Data.List.Chain
import VersionDispatch.Criteria.Operator
import VersionDispatch.Proofs.Text.Pieces

/-!
# Finding the token of an expression

The search for a token finds the one that pieces without operator characters are joined by. Two
operator characters then stand side by side only inside the token or where two tokens meet, and no
token that is looked for earlier is made of such neighbours. Only two single equals signs have to
be kept apart, as together they are a token of their own.
-/

namespace VersionDispatch.Token

open Text

theorem mem_ranking (token : Token) : token ∈ ranking := by
  cases token <;> decide

theorem ofText?_text (token : Token) : ofText? token.text = some token := by
  cases token <;> rfl

theorem arity_eq_one_or_two (token : Token) :
    token.operator.arity = 1 ∨ token.operator.arity = 2 := by
  cases token <;> decide

private theorem text_isOperatorChar (token : Token) :
    ∀ c ∈ token.separator.text, isOperatorChar c = true := by
  cases token <;> simp [Separator.text, separator, isOperatorChar]

/-- Pieces that can be told apart when they are joined by the token. -/
structure Separates (token : Token) (pieces : List (List Char)) : Prop where
  plain : ∀ piece ∈ pieces, ∀ c ∈ piece, isOperatorChar c = false
  apart : token = .equal → [] ∉ pieces.tail.dropLast

theorem Separates.notMem {token : Token} {pieces : List (List Char)} (h : token.Separates pieces)
    {p : List Char} (hp : p ∈ pieces) {c : Char} (hop : isOperatorChar c = true) : c ∉ p := by
  intro hmem
  rw [h.plain p hp c hmem] at hop
  contradiction

theorem Separates.first_notMem {token : Token} {pieces : List (List Char)}
    (h : token.Separates pieces) : ∀ p ∈ pieces, token.separator.first ∉ p :=
  fun _ hp => h.notMem hp (text_isOperatorChar token _ (by simp [Separator.text]))

theorem Separates.tail {token : Token} {piece : List Char} {pieces : List (List Char)}
    (h : token.Separates (piece :: pieces)) : token.Separates pieces where
  plain := fun p hp => h.plain p (by simp [hp])
  apart := by
    intro htoken hmem
    cases pieces with
    | nil => simp at hmem
    | cons q qs =>
        cases qs with
        | nil => simp at hmem
        | cons r rs => exact h.apart htoken (by simp_all)

/-- Two operator characters side by side: inside the token, or the last of one token and the
first of the next. -/
def Touches (token : Token) (a b : Char) : Prop :=
  isOperatorChar a = true → isOperatorChar b = true →
    token.separator.text = [a, b] ∨
      token ≠ .equal ∧ token.separator.text.getLast? = some a ∧ token.separator.first = b

instance (token : Token) (a b : Char) : Decidable (token.Touches a b) :=
  inferInstanceAs (Decidable (_ → _))

private theorem isChain_piece {token : Token} {pieces : List (List Char)}
    (h : token.Separates pieces) {p : List Char} (hp : p ∈ pieces) :
    p.IsChain token.Touches := by
  apply List.Pairwise.isChain
  apply List.pairwise_of_forall_mem_list
  intro a ha b _ hop
  exact absurd ha (h.notMem hp hop)

private theorem isChain_text (token : Token) : token.separator.text.IsChain token.Touches := by
  cases token <;> simp [Separator.text, separator, Touches]

private theorem touches_head_intercalate (token : Token) (pieces : List (List Char)) (p : List Char)
    (h : token.Separates (p :: pieces)) {a b : Char}
    (ha : token.separator.text.getLast? = some a)
    (hb : (token.separator.text.intercalate pieces).head? = some b) : token.Touches a b := by
  intro _ hop
  cases pieces with
  | nil => simp at hb
  | cons q qs =>
      cases q with
      | cons c q =>
          have hc : c = b := by cases qs <;> simpa using hb
          have hnot := h.notMem (p := c :: q) (by simp) hop
          simp [hc] at hnot
      | nil =>
          cases qs with
          | nil => simp at hb
          | cons r rs =>
              have hfirst : token.separator.first = b := by simpa [Separator.text] using hb
              refine .inr ⟨?_, ha, hfirst⟩
              intro htoken
              exact h.apart htoken (by simp)

private theorem isChain_intercalate (token : Token) (pieces : List (List Char))
    (h : token.Separates pieces) :
    (token.separator.text.intercalate pieces).IsChain token.Touches := by
  induction pieces with
  | nil => simp
  | cons p pieces ih =>
      have hp : p.IsChain token.Touches := isChain_piece h (by simp)
      cases pieces with
      | nil => simpa using hp
      | cons q qs =>
          rw [List.intercalate_cons_cons, List.append_assoc]
          apply hp.append
          · apply (isChain_text token).append (ih h.tail)
            intro a ha b hb
            exact touches_head_intercalate token (q :: qs) p h ha hb
          · intro a ha b _ hop
            exact absurd (List.mem_of_getLast? ha) (h.notMem (by simp) hop)

private theorem mem_text_of_mem_intercalate (token : Token) (pieces : List (List Char))
    (h : token.Separates pieces) {c : Char} (hc : c ∈ token.separator.text.intercalate pieces)
    (hop : isOperatorChar c = true) : c ∈ token.separator.text := by
  induction pieces with
  | nil => simp at hc
  | cons p pieces ih =>
      have hp : c ∉ p := h.notMem (by simp) hop
      cases pieces with
      | nil =>
          rw [List.intercalate_singleton] at hc
          contradiction
      | cons q qs =>
          rw [List.intercalate_cons_cons, List.mem_append, List.mem_append] at hc
          rcases hc with (hc | hc) | hc
          · contradiction
          · exact hc
          · exact ih h.tail hc

/-- No earlier token is made of the characters that a joined text holds side by side. -/
private theorem earlier_clashes (token earlier : Token)
    (hearlier : earlier ∈ ranking.takeWhile (· != token)) :
    ¬(earlier.separator.text ⊆ token.separator.text ∧
      earlier.separator.text.IsChain token.Touches) := by
  revert earlier
  cases token <;> decide

private theorem earlier_not_occursIn (token earlier : Token) (pieces : List (List Char))
    (h : token.Separates pieces) (hearlier : earlier ∈ ranking.takeWhile (· != token)) :
    earlier.separator.occursIn (token.separator.text.intercalate pieces) = false := by
  rw [Bool.eq_false_iff]
  intro hocc
  have hpart := (Separator.occursIn_iff_isInfix _ _).mp hocc
  apply earlier_clashes token earlier hearlier
  refine ⟨?_, List.IsChain.infix (isChain_intercalate token pieces h) hpart⟩
  intro c hc
  exact mem_text_of_mem_intercalate token pieces h (hpart.subset hc)
    (text_isOperatorChar earlier c hc)

private theorem find?_eq_some_iff_takeWhile (tokens : List Token) (token : Token)
    (hmem : token ∈ tokens) (p : Token → Bool) :
    tokens.find? p = some token ↔
      p token = true ∧ ∀ earlier ∈ tokens.takeWhile (· != token), p earlier = false := by
  induction tokens with
  | nil => simp at hmem
  | cons t ts ih =>
      by_cases ht : t = token
      · subst ht
        rw [List.takeWhile_cons_of_neg (by simp)]
        constructor
        · intro h
          exact ⟨List.find?_some h, by simp⟩
        · intro h
          simp [h.1]
      · have hts : token ∈ ts := by simpa [Ne.symm ht] using hmem
        rw [List.takeWhile_cons_of_pos (by simpa using ht)]
        cases hp : p t with
        | true => simp [hp, ht]
        | false => simp [hp, ih hts]

theorem firstIn?_eq_some_iff (token : Token) (s : List Char) :
    firstIn? s = some token ↔ token.separator.occursIn s = true ∧
      ∀ earlier ∈ ranking.takeWhile (· != token), earlier.separator.occursIn s = false :=
  find?_eq_some_iff_takeWhile ranking token (mem_ranking token) _

theorem firstIn?_intercalate (token : Token) (pieces : List (List Char))
    (h : token.Separates pieces) (htwo : 2 ≤ pieces.length) :
    firstIn? (token.separator.text.intercalate pieces) = some token := by
  have hne : pieces ≠ [] := by
    intro hnil
    simp [hnil] at htwo
  rw [firstIn?_eq_some_iff]
  refine ⟨?_, fun earlier hearlier => earlier_not_occursIn token earlier pieces h hearlier⟩
  rw [← Separator.two_le_length_pieces_iff, Separator.pieces_intercalate _ _ hne h.first_notMem]
  exact htwo

end VersionDispatch.Token
