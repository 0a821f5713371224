import VersionDispatch.Text.Alphanumeric
import VersionDispatch.Text.Blank
import VersionDispatch.Text.Reading

namespace VersionDispatch.Pattern

structure Mode where
  /-- Capital and small letters stand for each other. -/
  foldCase : Bool
  /-- The pattern is about characters, and otherwise about bytes. -/
  unicode : Bool
  /-- Blanks and comments stand for nothing. -/
  verbose : Bool
  deriving DecidableEq

/-- The letters of the flags that are turned on and of those that are turned off. -/
structure FlagChange where
  on : List Char
  off : List Char
  deriving DecidableEq

namespace FlagChange

def flags : List Char := ['i', 'm', 's', 'U', 'u', 'R', 'x']

/-- Reads the flags to turn on and, after a hyphen, at least one to turn off. No flag stands
twice. -/
def read? (s : List Char) : Option FlagChange :=
  let on := s.takeWhile (· != '-')
  let off := s.drop (on.length + 1)
  if (on ++ off).all flags.contains && decide (on ++ off).Nodup && s.getLast? != some '-' then
    some ⟨on, off⟩
  else none

def turn (change : FlagChange) (flag : Char) (current : Bool) : Bool :=
  (current || change.on.contains flag) && !change.off.contains flag

end FlagChange

namespace Mode

def initial : Mode := ⟨false, true, false⟩

def after (mode : Mode) (change : FlagChange) : Mode :=
  ⟨change.turn 'i' mode.foldCase, change.turn 'u' mode.unicode, change.turn 'x' mode.verbose⟩

/-- Does it count which characters are the same letter? That is known for bytes alone. -/
def foldsLetters (mode : Mode) : Bool := mode.foldCase && mode.unicode

/-- Drops blanks and comments; a comment goes from a number sign to the end of its line. -/
def dropBlanks (inComment : Bool) : List Char → List Char
  | [] => []
  | c :: s =>
      if inComment then dropBlanks (c != '\n') s
      else if c = '#' then dropBlanks true s
      else if Text.isBlank c then dropBlanks false s
      else c :: s

private theorem length_dropBlanks_le (inComment : Bool) (s : List Char) :
    (dropBlanks inComment s).length ≤ s.length := by
  induction s generalizing inComment with
  | nil => simp [dropBlanks]
  | cons c s ih =>
    simp only [dropBlanks]
    split
    · exact Nat.le_succ_of_le (ih _)
    · split
      · exact Nat.le_succ_of_le (ih _)
      · split
        · exact Nat.le_succ_of_le (ih _)
        · exact Nat.le_refl _

def skip (mode : Mode) (s : List Char) : Rest s :=
  if mode.verbose then ⟨dropBlanks false s, length_dropBlanks_le false s⟩ else .all s

/-- The character that a hyphen in a class has after it. A comment does not hide its characters
here, only its number sign. -/
def next? (mode : Mode) (s : List Char) : Option Char :=
  if mode.verbose then
    match s.dropWhile Text.isBlank with
    | '#' :: t => (t.dropWhile Text.isBlank).head?.or s.head?
    | t => t.head?.or s.head?
  else s.head?

end Mode

inductive Opening where
  | group (change : FlagChange)
  | named (name : List Char)
  | change (change : FlagChange)
  deriving DecidableEq

def isGroupName (s : List Char) : Bool :=
  match s with
  | [] => false
  | c :: s =>
      (c == '_' || Text.isAlphabetic c) &&
        s.all fun c => ['_', '.', '[', ']'].contains c || Text.isAlphanumeric c

def readGroupName? (s : List Char) : Option (Opening × Rest s) :=
  let name := s.takeWhile (· != '>')
  if name.length < s.length && isGroupName name then
    some (.named name, ⟨s.drop (name.length + 1), by simp only [List.length_drop]; omega⟩)
  else none

/-- Reads flags up to a colon or a closing parenthesis. Only a group can do without any. -/
def readFlags? (s : List Char) : Option (Opening × Rest s) := do
  let flags := s.takeWhile fun c => c != ':' && c != ')'
  let change ← FlagChange.read? flags
  let rest : Rest s := ⟨s.drop (flags.length + 1), by simp only [List.length_drop]; omega⟩
  match s[flags.length]? with
  | some ':' => return (.group change, rest)
  | some _ => if flags.isEmpty then none else return (.change change, rest)
  | none => none

def readOpening? (s : List Char) : Option (Opening × Rest s) :=
  match s with
  | '?' :: 'P' :: '<' :: s =>
      (readGroupName? s).map fun (opening, rest) =>
        (opening, ((rest.cons '<').cons 'P').cons '?')
  | '?' :: '<' :: s =>
      (readGroupName? s).map fun (opening, rest) => (opening, (rest.cons '<').cons '?')
  | '?' :: s => (readFlags? s).map fun (opening, rest) => (opening, rest.cons '?')
  | s => some (.group ⟨[], []⟩, .all s)

end VersionDispatch.Pattern
