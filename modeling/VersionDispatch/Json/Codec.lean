import VersionDispatch.Criteria.Basic
import VersionDispatch.Dispatch.Key
import VersionDispatch.Json.Decode

namespace VersionDispatch

open Json

namespace Version

def toJson (v : Version) : String := writeText v.text

def ofNode (node : Node) : Except Fault Version := node.text.map Version.parse

def ofJson (text : String) : Except Fault Version := decode ofNode text

end Version

namespace Criteria

def toJson (c : Criteria) : String := writeText c.text

/-- A text that is no criteria is not of the form that is wanted. -/
def ofNode (node : Node) : Except Fault Criteria := do
  match Criteria.parse (← node.text) with
  | .ok c => return c
  | .error _ => .error .mismatch

def ofJson (text : String) : Except Fault Criteria := decode ofNode text

end Criteria

namespace DispatchKey

def toJson (key : DispatchKey) : String :=
  "\x7b" ++ writeText "scope" ++ ":" ++ writeText key.scope ++ "," ++ writeText "name" ++
    ":" ++ writeText key.name ++ "\x7d"

structure Draft where
  scope : Option String
  name : Option String

def fields : List (RecordField Draft) :=
  [⟨"scope", fun key => key.scope.isSome, fun node key => do
      return { key with scope := some (← node.text) }⟩,
    ⟨"name", fun key => key.name.isSome, fun node key => do
      return { key with name := some (← node.text) }⟩]

def ofNode (node : Node) : Except Fault DispatchKey := do
  match ← node.record fields ⟨none, none⟩ with
  | ⟨some scope, some name⟩ => return ⟨scope, name⟩
  | _ => .error .mismatch

def ofJson (text : String) : Except Fault DispatchKey := decode ofNode text

end DispatchKey

end VersionDispatch
