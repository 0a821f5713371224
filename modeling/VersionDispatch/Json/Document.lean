import VersionDispatch.Json.Lexeme

/-!
# Documents

Lexemes arranged as a tree, as far as they go. Where they stop fitting together the tree holds
the fault, in the place where a reader that goes from left to right comes upon it, and ends.
-/

namespace VersionDispatch.Json

/-- A value. A list or an object that has an ending is not closed, and its ending is the fault
after its last part. -/
inductive Node where
  | literal (literal : Literal)
  | scalar (scalar : Scalar)
  | list (items : List Node) (ending : Option Fault)
  | object (members : List (Literal × Node)) (ending : Option Fault)
  /-- No value, where one has to be. -/
  | absent (fault : Fault)

/-- The value of a text, and whether more than blanks follow it. -/
structure Document where
  root : Node
  trailing : Bool

/-- A list or an object that is being read, with its parts so far, the latest first. -/
inductive Open where
  | list (items : List Node)
  | object (members : List (Literal × Node)) (key : Literal)

/-- What has just been read, or has to come. -/
inductive Place where
  | value
  | firstItem
  | firstKey
  | key (members : List (Literal × Node))
  | colon (members : List (Literal × Node)) (key : Literal)
  | after (node : Node)

namespace Open

/-- The container, ended after one more value. -/
def ended (container : Open) (last : Node) (ending : Option Fault) : Node :=
  match container with
  | .list items => .list (last :: items).reverse ending
  | .object members key => .object ((key, last) :: members).reverse ending

def closes (container : Open) (mark : Lexeme) : Bool :=
  match container, mark with
  | .list _, .closeList => true
  | .object _ _, .closeObject => true
  | _, _ => false

end Open

/-- The document in which reading stopped at a node. -/
def stopped (node : Node) (containers : List Open) : Document :=
  ⟨containers.foldl (fun node container => container.ended node none) node, false⟩

def cutOff (place : Place) (containers : List Open) : Document :=
  match place, containers with
  | .value, containers => stopped (.absent .truncated) containers
  | .firstItem, containers => stopped (.list [] (some .truncated)) containers
  | .firstKey, containers => stopped (.object [] (some .truncated)) containers
  | .key members, containers =>
      stopped (.object members.reverse (some .truncated)) containers
  | .colon members key, containers =>
      stopped (.object ((key, .absent .truncated) :: members).reverse none) containers
  | .after node, [] => ⟨node, false⟩
  | .after node, container :: containers =>
      stopped (container.ended node (some .truncated)) containers

/-- Goes on from a place, inside containers of which the innermost comes first. -/
def arrange (place : Place) (containers : List Open) : List Lexeme → Document
  | [] => cutOff place containers
  | lexeme :: rest =>
      let value (containers : List Open) : Document :=
        match lexeme with
        | .literal literal => arrange (.after (.literal literal)) containers rest
        | .scalar scalar => arrange (.after (.scalar scalar)) containers rest
        | .openList => arrange .firstItem containers rest
        | .openObject => arrange .firstKey containers rest
        | _ => stopped (.absent .malformed) containers
      match place, lexeme with
      | .value, _ => value containers
      | .firstItem, .closeList => arrange (.after (.list [] none)) containers rest
      | .firstItem, _ => value (.list [] :: containers)
      | .firstKey, .closeObject => arrange (.after (.object [] none)) containers rest
      | .firstKey, .literal key => arrange (.colon [] key) containers rest
      | .firstKey, _ => stopped (.object [] (some .malformed)) containers
      | .key members, .literal key => arrange (.colon members key) containers rest
      | .key members, _ => stopped (.object members.reverse (some .malformed)) containers
      | .colon members key, .colon => arrange .value (.object members key :: containers) rest
      | .colon members key, _ =>
          stopped (.object ((key, .absent .malformed) :: members).reverse none) containers
      | .after node, mark =>
          match containers with
          | [] => ⟨node, true⟩
          | container :: outer =>
              if container.closes mark then
                arrange (.after (container.ended node none)) outer rest
              else
                match container, mark with
                | .list items, .comma => arrange .value (.list (node :: items) :: outer) rest
                | .object members key, .comma =>
                    arrange (.key ((key, node) :: members)) outer rest
                | container, _ => stopped (container.ended node (some .malformed)) outer

def Document.ofText (text : String) : Document := arrange .value [] (lexemes text.toList)

end VersionDispatch.Json
