/-!
# Balanced brackets

A text is gone over with a stack of the closing brackets that are still awaited. It is balanced if
it closes all brackets that it opens, each by its own and the last one opened first, and no others.
So whatever is awaited before it is awaited behind it.
-/

namespace VersionDispatch.Text

def brackets : List Char := ['(', ')', '[', ']', '<', '>']

/-- The bracket that closes what this one opens. -/
def closing? (c : Char) : Option Char :=
  match c with
  | '(' => some ')'
  | '[' => some ']'
  | '<' => some '>'
  | _ => none

def isClosing (c : Char) : Bool := c == ')' || c == ']' || c == '>'

/-- What is awaited after one more character; none if it closes what is not open. -/
def awaitedAfter? (awaited : List Char) (c : Char) : Option (List Char) :=
  match closing? c with
  | some closing => some (closing :: awaited)
  | none =>
      if isClosing c then
        match awaited with
        | expected :: outer => if c = expected then some outer else none
        | [] => none
      else some awaited

def IsBalanced (s : List Char) : Prop :=
  ∀ awaited, s.foldlM awaitedAfter? awaited = some awaited

private theorem awaitedAfter?_closing {opening closing : Char} (h : closing? opening = some closing)
    (awaited : List Char) : awaitedAfter? (closing :: awaited) closing = some awaited := by
  unfold closing? at h
  split at h
  · obtain rfl := Option.some.inj h
    rfl
  · obtain rfl := Option.some.inj h
    rfl
  · obtain rfl := Option.some.inj h
    rfl
  · contradiction

private theorem awaitedAfter?_of_notMem_brackets {c : Char} (h : c ∉ brackets)
    (awaited : List Char) : awaitedAfter? awaited c = some awaited := by
  simp only [brackets, List.mem_cons, List.not_mem_nil, or_false, not_or] at h
  have hopening : closing? c = none := by
    unfold closing?
    split <;> simp_all
  have hclosing : isClosing c = false := by simp [isClosing, h]
  simp [awaitedAfter?, hopening, hclosing]

theorem isBalanced_of_notMem_brackets {s : List Char} (h : ∀ c ∈ s, c ∉ brackets) :
    IsBalanced s := by
  intro awaited
  induction s with
  | nil => rfl
  | cons c s ih =>
      rw [List.foldlM_cons, awaitedAfter?_of_notMem_brackets (h c List.mem_cons_self)]
      exact ih fun d hd => h d (List.mem_cons_of_mem _ hd)

namespace IsBalanced

theorem append {s t : List Char} (hs : IsBalanced s) (ht : IsBalanced t) : IsBalanced (s ++ t) := by
  intro awaited
  rw [List.foldlM_append, hs awaited]
  exact ht awaited

theorem of_append {s t : List Char} (hs : IsBalanced s) (h : IsBalanced (s ++ t)) :
    IsBalanced t := by
  intro awaited
  have hwhole := h awaited
  rw [List.foldlM_append, hs awaited] at hwhole
  exact hwhole

theorem enclosed {s : List Char} (hs : IsBalanced s) (opening closing : Char)
    (h : closing? opening = some closing) : IsBalanced (opening :: s ++ [closing]) := by
  intro awaited
  have hstep : awaitedAfter? awaited opening = some (closing :: awaited) := by
    simp [awaitedAfter?, h]
  rw [List.cons_append, List.foldlM_cons, hstep, Option.bind_eq_bind, Option.bind_some,
    List.foldlM_append, hs, Option.bind_eq_bind, Option.bind_some, List.foldlM_cons,
    awaitedAfter?_closing h]
  rfl

theorem intercalate {glue : List Char} (hglue : IsBalanced glue) {parts : List (List Char)}
    (hparts : ∀ part ∈ parts, IsBalanced part) : IsBalanced (glue.intercalate parts) := by
  induction parts with
  | nil => exact fun awaited => rfl
  | cons part parts ih =>
      have hpart : IsBalanced part := hparts part List.mem_cons_self
      have hrest := ih fun p hp => hparts p (List.mem_cons_of_mem _ hp)
      by_cases hnil : parts = []
      · rw [hnil, List.intercalate_singleton]
        exact hpart
      · rw [List.intercalate_cons_of_ne_nil hnil]
        exact (hpart.append hglue).append hrest

end IsBalanced

end VersionDispatch.Text
