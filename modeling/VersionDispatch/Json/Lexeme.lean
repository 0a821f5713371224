import VersionDispatch.Text.Cut
import VersionDispatch.Text.Reading

/-!
# Lexemes

JSON text as a list of lexemes. What is wrong inside a literal or a number stays with its lexeme,
since it depends on what the lexeme is for; the list ends at the first one that nothing can
follow.
-/

namespace VersionDispatch.Json

inductive Fault where
  /-- JSON so far, but not the value that is wanted. -/
  | mismatch
  | truncated
  /-- No JSON text goes on like this. -/
  | malformed
  deriving DecidableEq

def Fault.message (fault : Fault) : String :=
  match fault with
  | .mismatch => "a value is not of the form that is wanted"
  | .truncated => "the text ends inside a value"
  | .malformed => "the text is not JSON"

/-- The fault where a character is missing before this text or does not fit there. -/
def faultAt (s : List Char) : Fault := if s.isEmpty then .truncated else .malformed

/-- The faults of a number or a word: where a value of another kind is wanted, and, if it has
one, where any value will do. -/
structure Scalar where
  wanted : Fault
  skipped : Option Fault

def round53 (n : Nat) : Nat :=
  let drop := n.log2 - 52
  let unit := Nat.pow 2 drop
  let low := n / unit
  let excess := n % unit
  let up := unit < 2 * excess || (2 * excess == unit && low % 2 == 1)
  (if up then low + 1 else low) * unit

/-- Is the number beyond the largest finite double? The significand and the power of ten are
rounded before they are multiplied. -/
def isOverflow (significand : Nat) (exponent : Int) : Bool :=
  significand != 0 &&
    (308 < exponent ||
      (0 ≤ exponent &&
        Nat.pow 2 1024 - Nat.pow 2 970 ≤
          round53 significand * round53 (Nat.pow 10 exponent.toNat)))

/-- A significand that stays below 2^64, and the decimal exponent that belongs to it. -/
structure Magnitude where
  significand : Nat
  exponent : Int

namespace Magnitude

def fits (m : Magnitude) (digit : Char) : Bool :=
  m.significand * 10 + (digit.toNat - '0'.toNat) < UInt64.size

def push (m : Magnitude) (digit : Char) : Magnitude :=
  ⟨m.significand * 10 + (digit.toNat - '0'.toNat), m.exponent⟩

/-- Takes in the digits before the point; those that do not fit only raise the exponent. -/
def whole (m : Magnitude) (digits : List Char) : Magnitude :=
  match digits with
  | [] => m
  | digit :: digits =>
      if m.fits digit then (m.push digit).whole digits
      else { m with exponent := m.exponent + (digits.length + 1) }

/-- Takes in the digits after the point; the first one that does not fit ends it. -/
def fraction (m : Magnitude) (digits : List Char) : Magnitude :=
  match digits with
  | [] => m
  | digit :: digits =>
      if m.fits digit then
        fraction { m.push digit with exponent := m.exponent - 1 } digits
      else m

def scalar (m : Magnitude) : Scalar :=
  ⟨if isOverflow m.significand m.exponent then .malformed else .mismatch, none⟩

end Magnitude

def digitsOf (s : List Char) : List Char := s.takeWhile Char.isDigit

def afterDigits (s : List Char) : Rest s :=
  ⟨s.dropWhile Char.isDigit, (List.dropWhile_suffix Char.isDigit).length_le⟩

def widenRest {s t : List Char} (h : t.length ≤ s.length) (scan : Scalar × Rest t) :
    Scalar × Rest s :=
  (scan.1, scan.2.widen h)

def consRest {s : List Char} (c : Char) (scan : Scalar × Rest s) : Scalar × Rest (c :: s) :=
  (scan.1, scan.2.cons c)

/-- A number that wants a digit where this text goes on. -/
def wantsDigit (s : List Char) : Scalar × Rest s :=
  (⟨faultAt s, some .malformed⟩, .all s)

/-- The sign of an exponent: is it negative, and what follows. -/
def exponentSign (s : List Char) : Bool × Rest s :=
  match s with
  | '+' :: s => (false, (Rest.all s).cons '+')
  | '-' :: s => (true, (Rest.all s).cons '-')
  | s => (false, .all s)

def scanExponent (m : Magnitude) (s : List Char) : Scalar × Rest s :=
  match s with
  | c :: s =>
      if c = 'e' ∨ c = 'E' then
        let (negative, ⟨s', hs'⟩) := exponentSign s
        consRest c <| widenRest hs' <|
          if (digitsOf s').isEmpty then wantsDigit s'
          else
            let power : Int := Nat.ofDigitChars 10 (digitsOf s') 0
            let m := { m with exponent := if negative then m.exponent - power
                                          else m.exponent + power }
            (m.scalar, afterDigits s')
      else (m.scalar, .all (c :: s))
  | [] => (m.scalar, .all [])

/-- A number after its whole part. -/
def scanFraction (m : Magnitude) (s : List Char) : Scalar × Rest s :=
  match s with
  | '.' :: s =>
      if (digitsOf s).isEmpty then consRest '.' (wantsDigit s)
      else
        let ⟨rest, hrest⟩ := afterDigits s
        consRest '.' (widenRest hrest (scanExponent (m.fraction (digitsOf s)) rest))
  | s => scanExponent m s

/-- A number after its first digit. A zero in front of another digit is a fault. -/
def scanNumber (first : Char) (s : List Char) : Scalar × Rest s :=
  if first = '0' ∧ (digitsOf s).isEmpty = false then
    (⟨.malformed, some .malformed⟩, .all s)
  else
    let ⟨rest, hrest⟩ := afterDigits s
    widenRest hrest (scanFraction ((Magnitude.mk 0 0).whole (first :: digitsOf s)) rest)

def scanNegative (s : List Char) : Scalar × Rest s :=
  match s with
  | first :: s =>
      if first.isDigit then consRest first (scanNumber first s)
      else wantsDigit (first :: s)
  | [] => wantsDigit []

def scanWord (letters s : List Char) : Scalar × Rest s :=
  match letters, s with
  | [], s => (⟨.mismatch, none⟩, .all s)
  | _ :: _, [] => (⟨.truncated, some .truncated⟩, .all [])
  | letter :: letters, c :: s =>
      if c = letter then consRest c (scanWord letters s)
      else (⟨.malformed, some .malformed⟩, .all (c :: s))

/-- The character that a backslash and a letter stand for. -/
def shortEscape? (c : Char) : Option Char :=
  match c with
  | '"' => some '"'
  | '\\' => some '\\'
  | '/' => some '/'
  | 'b' => some '\x08'
  | 'f' => some '\x0c'
  | 'n' => some '\n'
  | 'r' => some '\r'
  | 't' => some '\t'
  | _ => none

def hexUnit? (a b c d : Char) : Option Nat :=
  match Text.hexDigit? a, Text.hexDigit? b, Text.hexDigit? c, Text.hexDigit? d with
  | some a, some b, some c, some d => some (((a * 16 + b) * 16 + c) * 16 + d)
  | _, _, _, _ => none

/-- Reads the four digits of a code unit. The text ends inside them if it has fewer than four
bytes left, whatever these are. -/
def readUnit (s : List Char) : Except Fault (Nat × Rest s) :=
  match s with
  | a :: b :: c :: d :: rest =>
      match hexUnit? a b c d with
      | some unit => .ok (unit, ⟨rest, by simp only [List.length_cons]; omega⟩)
      | none => .error .malformed
  | s => .error (if Text.byteLength s < 4 then .truncated else .malformed)

def isLeading (unit : Nat) : Bool := 0xd800 ≤ unit && unit ≤ 0xdbff

def isTrailing (unit : Nat) : Bool := 0xdc00 ≤ unit && unit ≤ 0xdfff

def joinPair (leading trailing : Nat) : Char :=
  Char.ofNat (0x10000 + (leading - 0xd800) * 0x400 + (trailing - 0xdc00))

/-- Reads a code unit and, after a leading surrogate, the unit that completes it. -/
def readEscapedUnits (s : List Char) : Except Fault (Char × Rest s) :=
  match readUnit s with
  | .error fault => .error fault
  | .ok (unit, ⟨rest, hrest⟩) =>
      if isTrailing unit then .error .malformed
      else if !isLeading unit then .ok (Char.ofNat unit, ⟨rest, hrest⟩)
      else
        match rest, hrest with
        | [], _ => .error .truncated
        | ['\\'], _ => .error .truncated
        | '\\' :: 'u' :: rest, hrest =>
            match readUnit rest with
            | .error fault => .error fault
            | .ok (trailing, ⟨rest', hrest'⟩) =>
                if isTrailing trailing then
                  .ok (joinPair unit trailing,
                    ⟨rest', by simp only [List.length_cons] at hrest; omega⟩)
                else .error .malformed
        | _, _ => .error .malformed

def readEscape (s : List Char) : Except Fault (Char × Rest s) :=
  match s with
  | [] => .error .truncated
  | c :: s =>
      if c = 'u' then
        match readEscapedUnits s with
        | .error fault => .error fault
        | .ok (d, rest) => .ok (d, rest.cons c)
      else
        match shortEscape? c with
        | some d => .ok (d, (Rest.all s).cons c)
        | none => .error .malformed

def consRead {s t : List Char} (c : Char) (h : t.length ≤ s.length)
    (read : Except Fault (List Char × Rest t)) : Except Fault (List Char × Rest s) :=
  match read with
  | .error fault => .error fault
  | .ok (cs, rest) => .ok (c :: cs, rest.widen h)

/-- Reads a literal from after its opening quote. -/
def readLiteral (s : List Char) : Except Fault (List Char × Rest s) :=
  match s with
  | [] => .error .truncated
  | c :: s =>
      if c = '"' then .ok ([], (Rest.all s).cons c)
      else if c = '\\' then
        match readEscape s with
        | .error fault => .error fault
        | .ok (d, ⟨rest, hrest⟩) =>
            consRead d (Nat.le_succ_of_le hrest) (readLiteral rest)
      else if c.toNat < 0x20 then .error .malformed
      else consRead c (Nat.le_succ _) (readLiteral s)
termination_by s.length
decreasing_by all_goals simp only [List.length_cons]; omega

def widen {s t : List Char} (h : t.length ≤ s.length) (skipped : Except Fault (Rest t)) :
    Except Fault (Rest s) :=
  match skipped with
  | .error fault => .error fault
  | .ok rest => .ok (rest.widen h)

/-- Passes over a literal from after its opening quote. -/
def skipLiteral (s : List Char) : Except Fault (Rest s) :=
  match s with
  | [] => .error .truncated
  | ['\\'] => .error .truncated
  | '\\' :: c :: s =>
      if c = 'u' then
        match readUnit s with
        | .error fault => .error fault
        | .ok (_, ⟨rest, hrest⟩) =>
            widen (by simp only [List.length_cons]; omega) (skipLiteral rest)
      else if (shortEscape? c).isSome then
        widen (by simp only [List.length_cons]; omega) (skipLiteral s)
      else .error .malformed
  | c :: s =>
      if c = '"' then .ok ((Rest.all s).cons c)
      else if c.toNat < 0x20 then .error .malformed
      else widen (Nat.le_succ _) (skipLiteral s)
termination_by s.length
decreasing_by all_goals simp only [List.length_cons]; omega

def writeChar (c : Char) : List Char :=
  match c with
  | '"' => ['\\', '"']
  | '\\' => ['\\', '\\']
  | '\x08' => ['\\', 'b']
  | '\x0c' => ['\\', 'f']
  | '\n' => ['\\', 'n']
  | '\r' => ['\\', 'r']
  | '\t' => ['\\', 't']
  | c =>
      if c.toNat < 0x20 then
        ['\\', 'u', '0', '0', Nat.digitChar (c.toNat / 16), Nat.digitChar (c.toNat % 16)]
      else [c]

def writeLiteral (s : List Char) : List Char := '"' :: s.flatMap writeChar ++ ['"']

def writeText (s : String) : String := String.ofList (writeLiteral s.toList)

/-- A literal as it was found: what it reads as, and its fault, if it has one, when it is passed
over. -/
structure Literal where
  value : Except Fault String
  skipped : Option Fault

inductive Lexeme where
  | openObject
  | closeObject
  | openList
  | closeList
  | colon
  | comma
  | literal (literal : Literal)
  | scalar (scalar : Scalar)
  /-- A character that begins nothing. -/
  | stray

def isSpace (c : Char) : Bool := c == ' ' || c == '\t' || c == '\n' || c == '\r'

def Lexeme.ofMark? (c : Char) : Option Lexeme :=
  match c with
  | '\x7b' => some .openObject
  | '\x7d' => some .closeObject
  | '[' => some .openList
  | ']' => some .closeList
  | ':' => some .colon
  | ',' => some .comma
  | _ => none

def scanScalar? (c : Char) (s : List Char) : Option (Scalar × Rest s) :=
  if c.isDigit then some (scanNumber c s)
  else
    match c with
    | '-' => some (scanNegative s)
    | 'n' => some (scanWord ['u', 'l', 'l'] s)
    | 't' => some (scanWord ['r', 'u', 'e'] s)
    | 'f' => some (scanWord ['a', 'l', 's', 'e'] s)
    | _ => none

def lexemes (s : List Char) : List Lexeme :=
  match s with
  | [] => []
  | c :: s =>
      if isSpace c then lexemes s
      else if c = '"' then
        let value := (readLiteral s).map fun (chars, _) => String.ofList chars
        match skipLiteral s with
        | .ok ⟨rest, _⟩ => .literal ⟨value, none⟩ :: lexemes rest
        | .error fault => [.literal ⟨value, some fault⟩]
      else
        match Lexeme.ofMark? c with
        | some mark => mark :: lexemes s
        | none =>
            match scanScalar? c s with
            | some (scalar, ⟨rest, _⟩) =>
                .scalar scalar :: if scalar.skipped.isSome then [] else lexemes rest
            | none => [.stray]
termination_by s.length
decreasing_by all_goals simp_all only [List.length_cons]; omega

end VersionDispatch.Json
