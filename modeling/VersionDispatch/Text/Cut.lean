namespace VersionDispatch.Text

structure Separator where
  first : Char
  rest : List Char
  deriving DecidableEq, Repr

namespace Separator

def text (sep : Separator) : List Char := sep.first :: sep.rest

def startsAt (sep : Separator) (s : List Char) : Bool := sep.text.isPrefixOf s

def occursIn (sep : Separator) : List Char → Bool
  | [] => false
  | c :: s => sep.startsAt (c :: s) || sep.occursIn s

/-- The pieces left once `skip` characters, the tail of a separator already met, are passed over. -/
def piecesAfter (sep : Separator) : Nat → List Char → List (List Char)
  | _, [] => [[]]
  | skip + 1, _ :: s => sep.piecesAfter skip s
  | 0, c :: s =>
      if sep.startsAt (c :: s) then [] :: sep.piecesAfter sep.rest.length s
      else (sep.piecesAfter 0 s).modifyHead (c :: ·)

/-- Cuts the text at every occurrence met from the left; empty pieces are kept. -/
def pieces (sep : Separator) (s : List Char) : List (List Char) := sep.piecesAfter 0 s

/-- What stands before and after the last place where the separator starts. -/
def splitLast? (sep : Separator) : List Char → Option (List Char × List Char)
  | [] => none
  | c :: s =>
      match sep.splitLast? s with
      | some (before, after) => some (c :: before, after)
      | none => if sep.startsAt (c :: s) then some ([], s.drop sep.rest.length) else none

end Separator

def byteLength (s : List Char) : Nat :=
  match s with
  | [] => 0
  | c :: s => c.utf8Size + byteLength s

def takeBytes? (position : Nat) (s : List Char) : Option (List Char) :=
  match position, s with
  | 0, _ => some []
  | _ + 1, [] => none
  | n + 1, c :: s =>
      if c.utf8Size ≤ n + 1 then (takeBytes? (n + 1 - c.utf8Size) s).map (c :: ·) else none

def dropBytes? (position : Nat) (s : List Char) : Option (List Char) :=
  match position, s with
  | 0, s => some s
  | _ + 1, [] => none
  | n + 1, c :: s => if c.utf8Size ≤ n + 1 then dropBytes? (n + 1 - c.utf8Size) s else none

theorem byteLength_append (s t : List Char) :
    byteLength (s ++ t) = byteLength s + byteLength t := by
  induction s with
  | nil => simp [byteLength]
  | cons c s ih => rw [List.cons_append, byteLength, byteLength, ih, Nat.add_assoc]

/-- A position behind a character is not the first one; counted from the character on, it is less by
the bytes of the character. -/
private theorem exists_succ_eq_add (c : Char) (rest : Nat) :
    ∃ n, c.utf8Size + rest = n + 1 ∧ c.utf8Size ≤ n + 1 ∧ n + 1 - c.utf8Size = rest := by
  have hpos : 0 < c.utf8Size := c.utf8Size_pos
  exact ⟨c.utf8Size + rest - 1, by omega, by omega, by omega⟩

theorem takeBytes?_append (s t : List Char) : takeBytes? (byteLength s) (s ++ t) = some s := by
  induction s with
  | nil => rw [byteLength, takeBytes?]
  | cons c s ih =>
      obtain ⟨n, hn, hle, hrest⟩ := exists_succ_eq_add c (byteLength s)
      rw [byteLength, hn, List.cons_append, takeBytes?, if_pos hle, hrest, ih]
      rfl

theorem dropBytes?_append (s t : List Char) : dropBytes? (byteLength s) (s ++ t) = some t := by
  induction s with
  | nil => rw [byteLength, List.nil_append, dropBytes?]
  | cons c s ih =>
      obtain ⟨n, hn, hle, hrest⟩ := exists_succ_eq_add c (byteLength s)
      rw [byteLength, hn, List.cons_append, dropBytes?, if_pos hle, hrest, ih]

/-- The position is not inside a character, and not behind the end of the text. -/
def IsPlace (s : List Char) (position : Nat) : Prop :=
  ∃ before after, s = before ++ after ∧ byteLength before = position

private theorem length_le_byteLength (s : List Char) : s.length ≤ byteLength s := by
  induction s with
  | nil => exact Nat.le_refl 0
  | cons c s ih =>
      have hpos : 0 < c.utf8Size := c.utf8Size_pos
      rw [List.length_cons, byteLength]
      omega

theorem IsPlace.exists_between {s : List Char} {start stop : Nat} (hstart : IsPlace s start)
    (hstop : IsPlace s stop) (hle : start ≤ stop) :
    ∃ before part after, s = before ++ (part ++ after) ∧ byteLength before = start ∧
      byteLength part = stop - start := by
  obtain ⟨before, rest, rfl, rfl⟩ := hstart
  obtain ⟨whole, after, hs, rfl⟩ := hstop
  obtain ⟨part, rfl, rfl⟩ | ⟨part, rfl, rfl⟩ := List.append_eq_append_iff.mp hs
  · exact ⟨before, part, after, rfl, rfl, by rw [byteLength_append]; omega⟩
  · have hpart : part = [] := by
      rw [byteLength_append] at hle
      exact List.eq_nil_of_length_eq_zero (by have := length_le_byteLength part; omega)
    subst hpart
    exact ⟨whole, [], rest, by simp, by simp, by simp [byteLength]⟩

end VersionDispatch.Text
