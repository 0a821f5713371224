import VersionDispatch.Pattern.Mode
import VersionDispatch.Text.Reading

namespace VersionDispatch.Pattern

structure Literal where
  char : Char
  /-- It is written as a byte, with two hexadecimal digits. -/
  isByte : Bool
  deriving DecidableEq

inductive Atom where
  | literal (literal : Literal)
  /-- The digits, the blanks or the characters of words, or all others. -/
  | shorthand (negated : Bool)
  /-- An end of the text, or a place with a word on one side or on neither. -/
  | place (atWord : Bool)
  deriving DecidableEq

namespace Literal

/-- Can the character be asked for by itself? A byte above ASCII is not a character. -/
def isUsable (literal : Literal) (mode : Mode) : Bool :=
  !mode.foldsLetters && (mode.unicode || !literal.isByte || literal.char.toNat < 0x80)

/-- Can the character be in a class? A class of bytes has only ASCII in it. -/
def isMember (literal : Literal) (mode : Mode) : Bool :=
  !mode.foldsLetters && (mode.unicode || literal.char.toNat < 0x80)

end Literal

/-- Can a class with a letter for a name be used, by itself or in another class? What it has in it
is known for bytes alone, and the bytes that it has not are not all ASCII. -/
def isShorthandUsable (negated : Bool) (mode : Mode) : Bool := !mode.unicode && !negated

def hexLength? (c : Char) : Option Nat :=
  match c with
  | 'x' => some 2
  | 'u' => some 4
  | 'U' => some 8
  | _ => none

/-- Reads a number of hexadecimal digits that go on from a value. -/
def readHex? (mode : Mode) (count value : Nat) (s : List Char) : Option (Nat × Rest s) :=
  match count, s with
  | 0, s => some (value, .all s)
  | _ + 1, [] => none
  | count + 1, c :: s => do
      let digit ← Text.hexDigit? c
      let ⟨rest, h⟩ := mode.skip s
      let (value, rest) ← readHex? mode count (value * 16 + digit) rest
      return (value, (rest.widen h).cons c)

/-- What a backslash and one character stand for. Outside words, ASCII is made plain. -/
def escaped? (c : Char) : Option Atom :=
  match c with
  | 'a' => some (.literal ⟨'\x07', false⟩)
  | 'f' => some (.literal ⟨'\x0c', false⟩)
  | 't' => some (.literal ⟨'\t', false⟩)
  | 'n' => some (.literal ⟨'\n', false⟩)
  | 'r' => some (.literal ⟨'\r', false⟩)
  | 'v' => some (.literal ⟨'\x0b', false⟩)
  | 'd' => some (.shorthand false)
  | 's' => some (.shorthand false)
  | 'w' => some (.shorthand false)
  | 'D' => some (.shorthand true)
  | 'S' => some (.shorthand true)
  | 'W' => some (.shorthand true)
  | 'A' => some (.place false)
  | 'z' => some (.place false)
  | 'b' => some (.place true)
  | 'B' => some (.place true)
  | '<' => some (.place true)
  | '>' => some (.place true)
  | c => if c.toNat < 0x80 && !c.isAlphanum then some (.literal ⟨c, false⟩) else none

def readEscape? (mode : Mode) (s : List Char) : Option (Atom × Rest s) :=
  match s with
  | [] => none
  | c :: s =>
      match hexLength? c with
      | some count => do
          let ⟨rest, h⟩ := mode.skip s
          let (value, rest) ← readHex? mode count 0 rest
          guard value.isValidChar
          return (.literal ⟨Char.ofNat value, c == 'x'⟩, (rest.widen h).cons c)
      | none => (escaped? c).map fun atom => (atom, (Rest.all s).cons c)

def readAtom? (mode : Mode) (first : Char) (s : List Char) : Option (Atom × Rest s) :=
  if first = '\\' then readEscape? mode s else some (.literal ⟨first, false⟩, .all s)

/-- The depth of what has parts of these depths. -/
def joined (depths : List Nat) : Nat :=
  match depths with
  | [] => 0
  | [depth] => depth
  | depth :: depths => depths.foldl max depth + 1

/-- No pattern may be nested deeper than this. -/
def depthLimit : Nat := 250

/-- A class whose closing bracket has not come yet. -/
structure OpenClass where
  /-- The depths of the members after the last operator. -/
  members : List Nat
  /-- The depth of all that is before the last operator. -/
  left : Option Nat
  deriving DecidableEq

namespace OpenClass

def contentDepth (c : OpenClass) : Nat :=
  match c.left with
  | none => joined c.members
  | some left => max left (joined c.members) + 1

def depth (c : OpenClass) : Nat := c.contentDepth + 1

def add (c : OpenClass) (depth : Nat) : OpenClass := { c with members := depth :: c.members }

/-- The class with an operator after what it holds so far. -/
def operate (c : OpenClass) : OpenClass := ⟨[], some c.contentDepth⟩

end OpenClass

def classNames : List String :=
  ["alnum", "alpha", "ascii", "blank", "cntrl", "digit", "graph", "lower", "print", "punct",
    "space", "upper", "word", "xdigit"]

/-- Can a class with a name be used? The bytes that it has not are not all ASCII. -/
def isNamedUsable (negated : Bool) (mode : Mode) : Bool :=
  !mode.foldsLetters && (mode.unicode || !negated)

def readClassName? (s : List Char) : Option (Rest s) :=
  let name := s.takeWhile (· != ':')
  match h : s.drop name.length with
  | ':' :: ']' :: rest =>
      if classNames.contains (String.ofList name) then
        some ⟨rest, by
          have := congrArg List.length h
          simp only [List.length_drop, List.length_cons] at this
          omega⟩
      else none
  | _ => none

/-- Reads `:name:]`, or `:^name:]` for the other characters. -/
def readNamed? (s : List Char) : Option (Bool × Rest s) :=
  match s with
  | ':' :: '^' :: s => (readClassName? s).map fun rest => (true, (rest.cons '^').cons ':')
  | ':' :: s => (readClassName? s).map fun rest => (false, rest.cons ':')
  | _ => none

def countHyphens (mode : Mode) (s : List Char) : Nat × Rest s :=
  match s with
  | '-' :: s =>
      let ⟨rest, h⟩ := mode.skip s
      let (count, rest) := countHyphens mode rest
      (count + 1, (rest.widen h).cons '-')
  | s => (0, .all s)
termination_by s.length
decreasing_by simp only [List.length_cons]; omega

/-- Passes over the hyphens, or else the closing bracket, that a class begins with and that are
its members, and counts them. -/
def countFirstMembers (mode : Mode) (s : List Char) : Nat × Rest s :=
  match countHyphens mode s with
  | (0, ⟨']' :: rest, h⟩) => (1, (mode.skip rest).widen (Nat.le_of_succ_le h))
  | first => first

/-- Begins a class after its opening bracket. A caret there asks for all characters but those of
the class. -/
def openClass? (mode : Mode) (s : List Char) : Option (OpenClass × Rest s) :=
  let first (s : List Char) : Option (OpenClass × Rest s) :=
    let (count, rest) := countFirstMembers mode s
    if mode.foldsLetters && count != 0 then none
    else some (⟨List.replicate count 0, none⟩, rest)
  match mode.skip s with
  | ⟨'^' :: s, h⟩ => do
      guard mode.unicode
      let ⟨rest, h'⟩ := mode.skip s
      let (opened, rest) ← first rest
      return (opened, (rest.widen h').widen (Nat.le_of_succ_le h))
  | ⟨s, h⟩ => do
      let (opened, rest) ← first s
      return (opened, rest.widen h)

def Atom.isMember (atom : Atom) (mode : Mode) : Bool :=
  match atom with
  | .literal l => l.isMember mode
  | .shorthand negated => isShorthandUsable negated mode
  | .place _ => false

def isRange (first last : Atom) (mode : Mode) : Bool :=
  match first, last with
  | .literal first, .literal last =>
      first.char ≤ last.char && first.isMember mode && last.isMember mode
  | _, _ => false

def joinsRange (mode : Mode) (s : List Char) : Bool :=
  mode.next? s != some ']' && mode.next? s != some '-'

def readMember? (mode : Mode) (c : Char) (s : List Char) : Option (Rest s) := do
  let (first, ⟨s, h⟩) ← readAtom? mode c s
  match mode.skip s with
  | ⟨'-' :: t, ht⟩ =>
      if joinsRange mode t then
        match mode.skip t with
        | ⟨[], _⟩ => none
        | ⟨c :: u, hu⟩ => do
            let (last, rest) ← readAtom? mode c u
            guard (isRange first last mode)
            return rest.widen (by simp only [List.length_cons] at ht hu; omega)
      else do
        guard (first.isMember mode)
        return Rest.widen h ⟨'-' :: t, ht⟩
  | ⟨t, ht⟩ => do
      guard (first.isMember mode)
      return Rest.widen h ⟨t, ht⟩

/-- The marks that, written twice, are operators. -/
def operators : List Char := ['&', '-', '~']

/-- Goes on inside classes of which the innermost comes first, to the end of the outermost, and
tells how deep that is nested. -/
def readMembers? (mode : Mode) (inner : OpenClass) (outer : List OpenClass) (s : List Char) :
    Option (Nat × Rest s) := do
  match mode.skip s with
  | ⟨[], _⟩ => none
  | ⟨c :: t, ht⟩ =>
      let widen {u : List Char} (hu : u.length ≤ t.length) (read : Nat × Rest u) :
          Nat × Rest s :=
        (read.1, read.2.widen (by simp only [List.length_cons] at ht; omega))
      if c = ']' then
        match outer with
        | [] => return (inner.depth, ⟨t, Nat.le_of_succ_le ht⟩)
        | next :: outer =>
            let read ← readMembers? mode (next.add inner.depth) outer t
            return widen (Nat.le_refl _) read
      else if c = '[' then
        match readNamed? t with
        | some (negated, ⟨u, hu⟩) =>
            if isNamedUsable negated mode then
              let read ← readMembers? mode (inner.add 0) outer u
              return widen hu read
            else none
        | none =>
            let (opened, ⟨u, hu⟩) ← openClass? mode t
            let read ← readMembers? mode opened (inner :: outer) u
            return widen hu read
      else if operators.contains c && t.head? == some c then
        have htail : t.tail.length ≤ t.length := by simp only [List.length_tail]; omega
        let read ← readMembers? mode inner.operate outer t.tail
        return widen htail read
      else
        let ⟨u, hu⟩ ← readMember? mode c t
        let read ← readMembers? mode (inner.add 0) outer u
        return widen hu read
termination_by s.length
decreasing_by all_goals simp only [List.length_cons] at ht; omega

def readClass? (mode : Mode) (s : List Char) : Option (Nat × Rest s) := do
  let (opened, ⟨rest, h⟩) ← openClass? mode s
  let (depth, rest) ← readMembers? mode opened [] rest
  return (depth, rest.widen h)

end VersionDispatch.Pattern
