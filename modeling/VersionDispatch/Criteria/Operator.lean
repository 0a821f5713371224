import VersionDispatch.Text.Cut
import VersionDispatch.Version.Basic

/-!
# Operators and their tokens

An operator compares a version with one bound, or with two for the open range. Eight tokens
write the seven operators. A token is looked for in the order of `Token.ranking`, in which no
token comes after one that is a part of it.
-/

namespace VersionDispatch

inductive Operator where
  | equal
  | different
  | less
  | atMost
  | greater
  | atLeast
  | between
  deriving DecidableEq, Hashable

namespace Operator

def arity (op : Operator) : Nat :=
  match op with
  | .between => 2
  | _ => 1

/-- Does the operator accept the version? Only `between` reads the upper bound, and without one
it accepts nothing. -/
def accepts (op : Operator) (version bound : Version) (upper : Option Version) : Bool :=
  match op with
  | .equal => version == bound
  | .different => version != bound
  | .less => version < bound
  | .atMost => version ≤ bound
  | .greater => bound < version
  | .atLeast => bound ≤ version
  | .between => upper.any fun upper => bound < version && version < upper

def name (op : Operator) : String :=
  match op with
  | .equal => "Eq"
  | .different => "Ne"
  | .less => "Lt"
  | .atMost => "Le"
  | .greater => "Gt"
  | .atLeast => "Ge"
  | .between => "Between"

end Operator

inductive Token where
  | doubleEqual
  | notEqual
  | lessEqual
  | greaterEqual
  | lessGreater
  | equal
  | less
  | greater
  deriving DecidableEq

namespace Token

/-- Every token, in the order in which an expression is searched for them. -/
def ranking : List Token :=
  [.doubleEqual, .notEqual, .lessEqual, .greaterEqual, .lessGreater, .equal, .less, .greater]

def separator (token : Token) : Text.Separator :=
  match token with
  | .doubleEqual => ⟨'=', ['=']⟩
  | .notEqual => ⟨'!', ['=']⟩
  | .lessEqual => ⟨'<', ['=']⟩
  | .greaterEqual => ⟨'>', ['=']⟩
  | .lessGreater => ⟨'<', ['>']⟩
  | .equal => ⟨'=', []⟩
  | .less => ⟨'<', []⟩
  | .greater => ⟨'>', []⟩

def text (token : Token) : String := String.ofList token.separator.text

def operator (token : Token) : Operator :=
  match token with
  | .doubleEqual => .equal
  | .notEqual => .different
  | .lessEqual => .atMost
  | .greaterEqual => .atLeast
  | .lessGreater => .between
  | .equal => .equal
  | .less => .less
  | .greater => .greater

def ofText? (s : String) : Option Token := ranking.find? fun token => token.text == s

def firstIn? (s : List Char) : Option Token :=
  ranking.find? fun token => token.separator.occursIn s

end Token

namespace Operator

def token (op : Operator) : Token :=
  match op with
  | .equal => .equal
  | .different => .notEqual
  | .less => .less
  | .atMost => .lessEqual
  | .greater => .greater
  | .atLeast => .greaterEqual
  | .between => .lessGreater

def text (op : Operator) : String := op.token.text

end Operator

/-- The characters that tokens are made of. -/
def isOperatorChar (c : Char) : Bool := c == '=' || c == '!' || c == '<' || c == '>'

end VersionDispatch
