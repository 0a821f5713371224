import VersionDispatch.Json.Document
import VersionDispatch.Table

/-!
# Reading values out of documents

Each reader goes through its part of the document from the left and stops at the first fault. A
record is read from an object, with members it does not know passed over, or from a list, with
its fields in their order.
-/

namespace VersionDispatch.Json

def orFault (fault : Option Fault) : Except Fault Unit :=
  match fault with
  | none => .ok ()
  | some fault => .error fault

namespace Node

mutual

def skip : Node → Except Fault Unit
  | .literal content => orFault content.skipped
  | .scalar content => orFault content.skipped
  | .list items ending => do
      skipItems items
      orFault ending
  | .object members ending => do
      skipMembers members
      orFault ending
  | .absent fault => .error fault

def skipItems : List Node → Except Fault Unit
  | [] => .ok ()
  | item :: items => do
      item.skip
      skipItems items

def skipMembers : List (Literal × Node) → Except Fault Unit
  | [] => .ok ()
  | (key, value) :: members => do
      orFault key.skipped
      value.skip
      skipMembers members

end

/-- The fault of a value where one of another form is wanted. -/
def refusal (node : Node) : Fault :=
  match node with
  | .literal content =>
      match content.value with
      | .ok _ => .mismatch
      | .error fault => fault
  | .scalar content => content.wanted
  | .list _ _ => .mismatch
  | .object _ _ => .mismatch
  | .absent fault => fault

def text (node : Node) : Except Fault String :=
  match node with
  | .literal content => content.value
  | node => .error node.refusal

def listOf {α : Type} (item : Node → Except Fault α) (node : Node) : Except Fault (List α) :=
  match node with
  | .list items ending => do
      let values ← items.mapM item
      orFault ending
      return values
  | node => .error node.refusal

/-- An object with keys of any name and values of one form. -/
def tableOf {α : Type} (value : Node → Except Fault α) (node : Node) :
    Except Fault (Table String α) :=
  match node with
  | .object members ending => do
      let entries ← members.mapM fun (key, node) => do return (← key.value, ← value node)
      orFault ending
      return .ofList entries
  | node => .error node.refusal

end Node

/-- A field of a record that is being filled. -/
structure RecordField (τ : Type) where
  name : String
  isSet : τ → Bool
  fill : Node → τ → Except Fault τ

/-- Fills a record from the members of an object; no field may come twice. -/
def fillMembers {τ : Type} (fields : List (RecordField τ)) (record : τ) :
    List (Literal × Node) → Except Fault τ
  | [] => .ok record
  | (key, node) :: members => do
      let name ← key.value
      match fields.find? fun field => field.name == name with
      | none => do
          node.skip
          fillMembers fields record members
      | some field =>
          if field.isSet record then .error .mismatch
          else do
            let record ← field.fill node record
            fillMembers fields record members

/-- Fills a record from the items of a list, which may be fewer than its fields. -/
def fillItems {τ : Type} (record : τ) (ending : Option Fault) :
    List (RecordField τ) → List Node → Except Fault τ
  | _, [] => do
      orFault ending
      return record
  | [], _ :: _ => .error .malformed
  | field :: fields, node :: items => do
      let record ← field.fill node record
      fillItems record ending fields items

/-- Reads a record, beginning with one that has no field set. -/
def Node.record {τ : Type} (fields : List (RecordField τ)) (unset : τ) (node : Node) :
    Except Fault τ :=
  match node with
  | .object members ending => do
      let record ← fillMembers fields unset members
      orFault ending
      return record
  | .list items ending => fillItems unset ending fields items
  | node => .error node.refusal

/-- Reads a whole text as a value; after it only blanks may follow. -/
def decode {α : Type} (read : Node → Except Fault α) (text : String) : Except Fault α := do
  let document := Document.ofText text
  let value ← read document.root
  if document.trailing then .error .malformed
  else return value

end VersionDispatch.Json
