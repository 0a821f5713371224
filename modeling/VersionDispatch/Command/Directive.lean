import VersionDispatch.Event
import VersionDispatch.Pattern.Reading
import VersionDispatch.Text.Blank
import VersionDispatch.Text.Cut
import VersionDispatch.Text.Reading

/-!
# Log directives

A directive says from which level on something is logged: a level by itself for everything, or
`target[span{field=value}]=level` with any of its parts left out. Nothing here opens a span, so
that a directive that names a span, or a value of a field, selects nothing.
-/

namespace VersionDispatch

/-- What a directive asks of a field of an event: that the field is there, or that it has a value,
which is a number or a pattern. -/
structure FieldTest where
  name : String
  value : Option String
  deriving DecidableEq

namespace FieldTest

/-- Reads a name, or a name and a value; what follows a second equals sign does not count. -/
def ofText (s : List Char) : FieldTest :=
  match s.splitOn '=' with
  | name :: value :: _ => ⟨String.ofList name, some (String.ofList value)⟩
  | _ => ⟨String.ofList s, none⟩

/-- Nothing, or digits after a letter and perhaps a sign. -/
def isExponent (s : List Char) : Bool :=
  match s with
  | [] => true
  | c :: '+' :: digits => c.toLower == 'e' && Text.isDigitString digits
  | c :: '-' :: digits => c.toLower == 'e' && Text.isDigitString digits
  | c :: digits => c.toLower == 'e' && Text.isDigitString digits

/-- The digits in front and those behind the point after them, and what follows. -/
def mantissa (s : List Char) : List Char × List Char × List Char :=
  let whole := s.takeWhile Char.isDigit
  match s.drop whole.length with
  | '.' :: rest =>
      let fraction := rest.takeWhile Char.isDigit
      (whole, fraction, rest.drop fraction.length)
  | rest => (whole, [], rest)

def isUnsignedNumber (s : List Char) : Bool :=
  let (whole, fraction, rest) := mantissa s
  ["inf", "infinity", "nan"].contains (String.ofList s).toLower ||
    !(whole ++ fraction).isEmpty && isExponent rest

/-- The fault of the value. A number is a pattern by itself, unless it has a plus sign in front. -/
def fault? (test : FieldTest) : Option Pattern.Fault :=
  match test.value with
  | none => none
  | some value =>
      match value.toList with
      | '+' :: s => if isUnsignedNumber s then none else Pattern.fault? ('+' :: s)
      | s => Pattern.fault? s

/-- Does an event pass? Its message is its only field. -/
def passes (test : FieldTest) : Bool := test.name == "message" && test.value.isNone

end FieldTest

structure Directive where
  /-- What the target begins with; every target begins with the empty text. -/
  target : String
  span : Option String
  field : Option FieldTest
  /-- The most verbose level shown; nothing is shown without one. -/
  level : Option Level
  deriving DecidableEq

inductive DirectiveFault where
  | malformed
  | badLevel
  /-- The value of a field is no pattern that can be used. -/
  | badPattern (fault : Pattern.Fault)
  deriving DecidableEq

def DirectiveFault.message (fault : DirectiveFault) : String :=
  match fault with
  | .malformed => "invalid filter directive"
  | .badLevel =>
      "error parsing level filter: expected one of \"off\", \"error\", \"warn\", \"info\", " ++
        "\"debug\", \"trace\", or a number 0-5"
  | .badPattern fault => "invalid field filter: " ++ fault.message

/-- Why a directive is not read. -/
inductive DirectiveStop where
  | fault (fault : DirectiveFault)
  /-- The text would have been cut inside a character. -/
  | crash
  deriving DecidableEq

/-- The level that a digit stands for; zero stands for none. -/
def levelOfNumber? (n : Nat) : Option (Option Level) :=
  match n with
  | 0 => some none
  | 1 => some (some .error)
  | 2 => some (some .warn)
  | 3 => some (some .info)
  | 4 => some (some .debug)
  | 5 => some (some .trace)
  | _ => none

/-- The level that a name or a number stands for, in capitals or not and with any leading zeros;
`off` is none. -/
def levelOf? (s : List Char) : Option (Option Level) :=
  let digits := if s.head? = some '+' then s.tail else s
  if Text.isDigitString digits then levelOfNumber? (Text.digitValue digits)
  else
    match (String.ofList s).toLower with
    | "off" => some none
    | "error" => some (some .error)
    | "warn" => some (some .warn)
    | "info" => some (some .info)
    | "debug" => some (some .debug)
    | "trace" => some (some .trace)
    | _ => none

namespace Directive

def malformed {α : Type} : Except DirectiveStop α := .error (.fault .malformed)

/-- The part of a text between two byte positions. -/
def cut (raw : List Char) (start stop : Nat) : Except DirectiveStop (List Char) :=
  match (Text.dropBytes? start raw).bind (Text.takeBytes? (stop - start)) with
  | some part => .ok part
  | none => .error .crash

def cutFrom (raw : List Char) (start : Nat) : Except DirectiveStop (List Char) :=
  match Text.dropBytes? start raw with
  | some part => .ok part
  | none => .error .crash

/-- Reads the end of a directive: a level after an equals sign. Without one all is shown. -/
def readLevel (raw : List Char) (position : Nat) (rest : List Char) :
    Except DirectiveStop (Option Level) :=
  match rest with
  | [] => .ok (some .trace)
  | '=' :: _ => do
      let name ← cutFrom raw (position + 1)
      if name.isEmpty then return some .trace
      match levelOf? name with
      | some level => return level
      | none => .error (.fault .badLevel)
  | _ => malformed

def readField (s : List Char) : Except DirectiveStop FieldTest :=
  if s.isEmpty then malformed
  else
    let test := FieldTest.ofText s
    match test.fault? with
    | none => .ok test
    | some fault => .error (.fault (.badPattern fault))

/-- Reads on from inside the braces. -/
def readBraces (raw : List Char) (target : String) (span : Option String) (start : Nat)
    (rest : List Char) : Except DirectiveStop Directive :=
  let test := rest.takeWhile (· != '\x7d')
  let stop := start + Text.byteLength test
  match rest.drop test.length with
  | '\x7d' :: rest => do
      let field ← readField (← cut raw start stop)
      match rest with
      | ']' :: rest => return ⟨target, span, some field, ← readLevel raw (stop + 2) rest⟩
      | _ => malformed
  | _ => malformed

/-- Reads on from inside the brackets. -/
def readBracket (raw : List Char) (target : String) (start : Nat) (rest : List Char) :
    Except DirectiveStop Directive :=
  let name := rest.takeWhile fun c => c != ']' && c != '\x7b'
  let stop := start + Text.byteLength name
  match rest.drop name.length with
  | ']' :: rest => do
      let span ← cut raw start stop
      return ⟨target, some (String.ofList span), none, ← readLevel raw (stop + 1) rest⟩
  | '\x7b' :: rest => do
      let span ← cut raw start stop
      let span := if span.isEmpty then none else some (String.ofList span)
      readBraces raw target span (stop + 1) rest
  | _ => malformed

/-- A text without any mark in it: a level, or a target of which everything is shown. -/
def plain (raw : List Char) : Directive :=
  match levelOf? raw with
  | some level => ⟨"", none, none, level⟩
  | none => ⟨String.ofList raw, none, none, some .trace⟩

def isTargetStart (c : Char) : Bool :=
  c == '-' || c == ':' || c == '_' || Text.isAlphanumeric c

/-- Reads on from the end of the target. -/
def readAfter (raw : List Char) (stop : Nat) (rest : List Char) :
    Except DirectiveStop Directive :=
  match rest with
  | [] => .ok (plain raw)
  | '[' :: rest => do readBracket raw (String.ofList (← cut raw 0 stop)) (stop + 1) rest
  | rest => do
      return ⟨String.ofList (← cut raw 0 stop), none, none, ← readLevel raw stop rest⟩

/-- Reads a directive, which holds no comma. The marks between its parts are looked for without
the blanks around it. The parts are cut out of the text as it stands, at the bytes that the marks
were found at, so that blanks in front move every part away from its marks, and it can happen that
a part would begin or end inside a character. -/
def read (raw : List Char) : Except DirectiveStop Directive :=
  match Text.trim raw with
  | [] => malformed
  | '[' :: rest => readBracket raw "" 1 rest
  | c :: rest =>
      if isTargetStart c then
        let target := (c :: rest).takeWhile fun c => c != '=' && c != '['
        readAfter raw (Text.byteLength target) ((c :: rest).drop target.length)
      else malformed

def selects (d : Directive) (event : Event) : Bool :=
  d.span.isNone && d.field.all FieldTest.passes &&
    d.target.toList.isPrefixOf event.target.toList

/-- Is the directive as specific as another one? A longer target is more specific, and with equal
targets one that asks for a field. -/
def asSpecificAs (d e : Directive) : Bool :=
  e.target.length < d.target.length ||
    e.target.length == d.target.length && (d.field.isSome || e.field.isNone)

def shows (d : Directive) (event : Event) : Bool :=
  d.level.any fun level => event.level.verbosity ≤ level.verbosity

end Directive

end VersionDispatch
