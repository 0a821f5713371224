import VersionDispatch.Criteria.Basic
import VersionDispatch.Text.Outline
import VersionDispatch.Text.Cut

namespace VersionDispatch

structure DispatchKey where
  scope : String
  name : String
  deriving DecidableEq, Hashable

namespace DispatchKey

def pathSeparator : Text.Separator := ⟨':', [':']⟩

/-- Reads a path; without a separator all of it is the name. -/
def ofPath (path : String) : DispatchKey :=
  match pathSeparator.splitLast? path.toList with
  | some (scope, name) => ⟨String.ofList scope, String.ofList name⟩
  | none => ⟨"", path⟩

/-- The key as a path; an empty scope is left out with its separator. -/
def path (key : DispatchKey) : String :=
  if key.scope.toList.isEmpty then key.name
  else key.scope ++ String.ofList pathSeparator.text ++ key.name

instance : ToString DispatchKey := ⟨path⟩

instance : Ord DispatchKey where
  compare k l := (compare k.scope l.scope).then (compare k.name l.name)

def outline (key : DispatchKey) : Text.Outline :=
  .record "DispatchKey" [("scope", .text key.scope), ("name", .text key.name)] false

end DispatchKey

inductive Refusal where
  | unsupported (target : String) (version : Option String)
  /-- Nothing was ever registered under the key. -/
  | unregistered (key : DispatchKey)
  /-- The type's gate does not declare the member. -/
  | unguarded (subject member : String)
  | criteria (source : CriteriaFault)
  deriving DecidableEq

namespace Refusal

def message (e : Refusal) : String :=
  match e with
  | .unsupported target version =>
      "Version " ++ version.getD "<none>" ++ " is not supported by " ++ target
  | .unregistered key => "Nothing registered under " ++ key.path
  | .unguarded subject member => member ++ " is not a guarded member of " ++ subject
  | .criteria source => source.message

def version (e : Refusal) : Option String :=
  match e with
  | .unsupported _ version => version
  | _ => none

open Text in
def outline (e : Refusal) : Outline :=
  match e with
  | .unsupported target version =>
      .record "VersionNotSupport"
        [("target", .text target), ("version", .option (version.map Outline.text))] false
  | .unregistered key => .record "NotRegistered" [("key", key.outline)] false
  | .unguarded subject member =>
      .record "UnguardedMember" [("subject", .text subject), ("member", .text member)] false
  | .criteria source => .tuple "Criteria" [source.outline]

end Refusal

end VersionDispatch
