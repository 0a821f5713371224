namespace VersionDispatch

/-- What is left of a text after some of it has been read. -/
abbrev Rest (s : List Char) : Type := { rest : List Char // rest.length ≤ s.length }

namespace Rest

def all (s : List Char) : Rest s := ⟨s, Nat.le_refl _⟩

/-- What is left of a part of a text is left of the text. -/
def widen {s t : List Char} (h : t.length ≤ s.length) (rest : Rest t) : Rest s :=
  ⟨rest.val, Nat.le_trans rest.property h⟩

/-- What is left of a text after its first character is left of the text. -/
def cons {s : List Char} (c : Char) (rest : Rest s) : Rest (c :: s) :=
  rest.widen (Nat.le_succ _)

end Rest

end VersionDispatch

namespace VersionDispatch.Text

def isDigitString (s : List Char) : Bool := !s.isEmpty && s.all Char.isDigit

def digitValue (s : List Char) : Nat := Nat.ofDigitChars 10 s 0

/-- The digit string of a number that has no leading zeros. -/
def decimal (n : Nat) : List Char := Nat.toDigits 10 n

end VersionDispatch.Text

namespace VersionDispatch.Text

def hexDigit? (c : Char) : Option Nat :=
  if '0' ≤ c && c ≤ '9' then some (c.toNat - '0'.toNat)
  else if 'a' ≤ c && c ≤ 'f' then some (c.toNat - 'a'.toNat + 10)
  else if 'A' ≤ c && c ≤ 'F' then some (c.toNat - 'A'.toNat + 10)
  else none

end VersionDispatch.Text
