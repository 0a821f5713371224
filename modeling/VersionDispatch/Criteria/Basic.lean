import VersionDispatch.Criteria.Operator
import VersionDispatch.Text.Outline

/-!
# Criteria

A criteria is an operator with the bounds it takes. A bound is a version that is not empty and
holds no operator character, so that the written criteria can be read again.
-/

namespace VersionDispatch

inductive CriteriaFault where
  | unknownToken (op : String)
  | noToken (expr : String)
  /-- A bound is empty or holds an operator character. -/
  | badBound (bound : String)
  /-- The operator takes another number of bounds. -/
  | arityMismatch (op : String) (expected found : Nat)
  deriving DecidableEq

namespace CriteriaFault

def message (e : CriteriaFault) : String :=
  match e with
  | .unknownToken op => "Invalid criteria operation: " ++ op
  | .noToken expr => "Invalid version criteria: " ++ expr
  | .badBound bound => "Invalid version '" ++ bound ++ "' in criteria"
  | .arityMismatch op expected found =>
      "Operator '" ++ op ++ "' takes " ++ toString expected ++ " version(s), got " ++
        toString found

open Text in
def outline (e : CriteriaFault) : Outline :=
  match e with
  | .unknownToken op => .record "InvalidCriteriaOperation" [("op", .text op)] false
  | .noToken expr => .record "InvalidVersionCriteria" [("criteria", .text expr)] false
  | .badBound bound => .record "InvalidSentry" [("sentry", .text bound)] false
  | .arityMismatch op expected found =>
      .record "ArityMismatch"
        [("op", .text op), ("expected", .number expected), ("found", .number found)] false

end CriteriaFault

/-- May the version stand beside an operator? -/
def Version.isBound (v : Version) : Bool :=
  !v.text.toList.isEmpty && v.text.toList.all fun c => !isOperatorChar c

structure Criteria where
  operator : Operator
  bound : Version
  upper : Option Version
  arity_eq : operator.arity = (bound :: upper.toList).length
  isBound : ∀ v ∈ bound :: upper.toList, v.isBound

namespace Criteria

/-- Joins an operator and its bounds; a wrong number of them is reported before a bad one. -/
def ofToken (token : Token) (bound : Version) (upper : Option Version) :
    Except CriteriaFault Criteria :=
  if harity : token.operator.arity = (bound :: upper.toList).length then
    match hbad : (bound :: upper.toList).find? fun v => !v.isBound with
    | none => .ok ⟨token.operator, bound, upper, harity, by simpa using hbad⟩
    | some bad => .error (.badBound bad.text)
  else
    .error (.arityMismatch token.text token.operator.arity (bound :: upper.toList).length)

def make (op : String) (bound : Version) (upper : Option Version) :
    Except CriteriaFault Criteria :=
  match Token.ofText? op with
  | some token => ofToken token bound upper
  | none => .error (.unknownToken op)

/-- Does the criteria accept a version? An unknown version is always accepted. -/
def accepts (c : Criteria) (version : Option Version) : Bool :=
  version.all fun version => c.operator.accepts version c.bound c.upper

/-- Does the criteria accept the version that a text writes? -/
def acceptsText (c : Criteria) (version : Option String) : Bool :=
  c.accepts (version.map Version.parse)

/-- The criteria as text: the operator before its bound, or between two. -/
def text (c : Criteria) : String :=
  match c.upper with
  | some upper => c.bound.text ++ c.operator.text ++ upper.text
  | none => c.operator.text ++ c.bound.text

instance : ToString Criteria := ⟨text⟩

/-- Criteria are equal when their operators are and their bounds are equal as versions. -/
instance : BEq Criteria where
  beq c d := c.operator == d.operator && c.bound == d.bound && c.upper == d.upper

/-- The part of a criteria that equal criteria share. -/
def significantParts (c : Criteria) : Operator × List Field × Option (List Field) :=
  (c.operator, c.bound.significantFields, c.upper.map Version.significantFields)

instance : Hashable Criteria := ⟨fun c => hash c.significantParts⟩

def outline (c : Criteria) : Text.Outline :=
  .record "Criteria"
    [("operator", .atom c.operator.name), ("sentry", c.bound.outline),
      ("sentry2", .option (c.upper.map Version.outline))] false

end Criteria

end VersionDispatch

namespace VersionDispatch.Criteria

def boundsOf (token : Token) (expr : List Char) : List Version :=
  ((token.separator.pieces expr).filter fun piece => !(Text.trim piece).isEmpty).map
    Version.ofChars

/-- Reads an expression such as `>=1.0` or `2.0.5<>4.0.3`. -/
def parse (expr : String) : Except CriteriaFault Criteria :=
  match Token.firstIn? expr.toList with
  | none => .error (.noToken expr)
  | some token =>
      match boundsOf token expr.toList with
      | [bound] => ofToken token bound none
      | [bound, upper] => ofToken token bound (some upper)
      | bounds =>
          .error (.arityMismatch token.text token.operator.arity bounds.length)

end VersionDispatch.Criteria
