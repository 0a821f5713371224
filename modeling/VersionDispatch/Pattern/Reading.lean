import VersionDispatch.Pattern.CharClass
import VersionDispatch.Pattern.Mode

/-!
# Reading patterns

Whether a pattern can be used is found out in one pass over it. Nothing is kept of what it stands
for: how deep it is nested, what its groups are called and whether it asks for places next to
words is all that counts.
-/

namespace VersionDispatch.Pattern

inductive Fault where
  /-- It is no pattern, is nested too deep, or asks for more than is known about characters. -/
  | unusable
  /-- It is a pattern, but asks for places next to words made of any characters. -/
  | wordPlace
  deriving DecidableEq

def Fault.message (fault : Fault) : String :=
  match fault with
  | .unusable => "error building NFA"
  | .wordPlace =>
      "unsupported regex feature for DFAs: cannot build DFAs for regexes with Unicode word " ++
        "boundaries; switch to ASCII word boundaries, or heuristically enable Unicode word " ++
        "boundaries or use a different regex engine"

inductive Piece where
  /-- A change of flags, which cannot be repeated. -/
  | change
  | part (depth : Nat)
  deriving DecidableEq

def Piece.depth (piece : Piece) : Nat :=
  match piece with
  | .change => 0
  | .part depth => depth

structure Alternatives where
  /-- The depths of those that are complete. -/
  complete : List Nat
  /-- The pieces of the last one, the latest first. -/
  pieces : List Piece
  deriving DecidableEq

namespace Alternatives

def empty : Alternatives := ⟨[], []⟩

def depth (a : Alternatives) : Nat := joined (joined (a.pieces.map Piece.depth) :: a.complete)

def add (a : Alternatives) (piece : Piece) : Alternatives :=
  { a with pieces := piece :: a.pieces }

def next (a : Alternatives) : Alternatives :=
  ⟨joined (a.pieces.map Piece.depth) :: a.complete, []⟩

def repeat? (a : Alternatives) : Option Alternatives :=
  match a.pieces with
  | .part depth :: pieces => some { a with pieces := .part (depth + 1) :: pieces }
  | _ => none

end Alternatives

structure Reading where
  mode : Mode
  alternatives : Alternatives
  /-- What stands in the groups around, the innermost first, and the mode that comes back after
  the group inside. -/
  outer : List (Alternatives × Mode)
  names : List (List Char)
  hasWordPlace : Bool
  deriving DecidableEq

namespace Reading

def initial : Reading := ⟨.initial, .empty, [], [], false⟩

def add (r : Reading) (depth : Nat) : Reading :=
  { r with alternatives := r.alternatives.add (.part depth) }

def addAtom? (r : Reading) (atom : Atom) : Option Reading :=
  match atom with
  | .literal literal => if literal.isUsable r.mode then some (r.add 0) else none
  | .shorthand negated => if isShorthandUsable negated r.mode then some (r.add 0) else none
  | .place atWord =>
      some { r.add 0 with hasWordPlace := r.hasWordPlace || (atWord && r.mode.unicode) }

/-- Adds a part that any character fits. Not all bytes are ASCII. -/
def addAny? (r : Reading) : Option Reading := if r.mode.unicode then some (r.add 0) else none

def enter (r : Reading) (change : FlagChange) : Reading :=
  { r with
    mode := r.mode.after change
    alternatives := .empty
    outer := (r.alternatives, r.mode) :: r.outer }

def open? (r : Reading) (opening : Opening) : Option Reading :=
  match opening with
  | .group change => some (r.enter change)
  | .named name =>
      if r.names.contains name then none
      else some { r.enter ⟨[], []⟩ with names := name :: r.names }
  | .change change =>
      some { r with
        mode := r.mode.after change
        alternatives := r.alternatives.add .change }

def close? (r : Reading) : Option Reading :=
  match r.outer with
  | [] => none
  | (alternatives, mode) :: outer =>
      some { r with
        mode := mode
        alternatives := alternatives.add (.part (r.alternatives.depth + 1))
        outer := outer }

def repeat? (r : Reading) : Option Reading :=
  r.alternatives.repeat?.map fun alternatives => { r with alternatives := alternatives }

/-- What follows a mark of repetition, without the question mark that makes it a lazy one. -/
def afterRepeat (s : List Char) : Rest s :=
  match s with
  | '?' :: s => (Rest.all s).cons '?'
  | s => .all s

/-- Reads one piece, or one mark between pieces, from after its first character. -/
def step? (r : Reading) (c : Char) (s : List Char) : Option (Reading × Rest s) :=
  match c with
  | '(' => do
      let ⟨t, ht⟩ := r.mode.skip s
      let (opening, rest) ← readOpening? t
      return (← r.open? opening, rest.widen ht)
  | ')' => return (← r.close?, .all s)
  | '|' => return ({ r with alternatives := r.alternatives.next }, .all s)
  | '[' => do
      let (depth, rest) ← readClass? r.mode s
      return (r.add depth, rest)
  | '?' => return (← r.repeat?, afterRepeat s)
  | '*' => return (← r.repeat?, afterRepeat s)
  | '+' => return (← r.repeat?, afterRepeat s)
  | '\x7b' => none
  | '.' => return (← r.addAny?, .all s)
  | '^' => return (r.add 0, .all s)
  | '$' => return (r.add 0, .all s)
  | c => do
      let (atom, rest) ← readAtom? r.mode c s
      return (← r.addAtom? atom, rest)

def run? (r : Reading) (s : List Char) : Option Reading :=
  match r.mode.skip s with
  | ⟨[], _⟩ => if r.outer.isEmpty then some r else none
  | ⟨c :: t, _⟩ =>
      match r.step? c t with
      | none => none
      | some (r, ⟨rest, _⟩) => r.run? rest
termination_by s.length
decreasing_by simp only [List.length_cons] at *; omega

end Reading

/-- The fault of a text that is taken for a pattern. Between braces a pattern would hold numbers
or names, but nothing that comes here holds a closing brace. -/
def fault? (s : List Char) : Option Fault :=
  match Reading.initial.run? s with
  | none => some .unusable
  | some r =>
      if depthLimit < r.alternatives.depth then some .unusable
      else if r.hasWordPlace then some .wordPlace
      else none

end VersionDispatch.Pattern
