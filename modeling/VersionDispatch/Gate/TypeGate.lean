import VersionDispatch.Dispatch.Key
import VersionDispatch.Gate.Basic

namespace VersionDispatch

structure GatedType where
  name : String
  deriving DecidableEq, Hashable

namespace GatedType

/-- What follows the last path separator before the first angle bracket. -/
def shortName (subject : GatedType) : String :=
  let name := subject.name.toList
  match DispatchKey.pathSeparator.splitLast? (name.takeWhile (· != '<')) with
  | some (_, last) => String.ofList (last ++ name.dropWhile (· != '<'))
  | none => subject.name

instance : ToString GatedType := ⟨name⟩

end GatedType

structure Declaration where
  kind : CallKind
  member : String

structure TypeGate (σ A : Type) where
  gate : Gate σ GatedType A
  type : GatedType
  members : Table String CallKind

namespace TypeGate

variable {σ A R : Type}

def build (gate : Gate σ GatedType A) (type : GatedType)
    (declarations : List Declaration) : TypeGate σ A :=
  ⟨gate, type, .ofList (declarations.map fun d => (d.member, d.kind))⟩

def built (g : TypeGate σ A) : Event where
  level := .debug
  target := "versioncheck::version::class_gate"
  message := "Gating " ++ toString g.members.size ++ " members of " ++ g.type.name ++
    " with " ++ g.gate.criteria.text

def kindOf? (g : TypeGate σ A) (member : String) : Option CallKind := g.members.get? member

/-- Runs a body for a declared member if the gate lets the call through. -/
def invoke (g : TypeGate σ A) (member : String) (args : A) (label : String)
    (perform : A → σ → R × σ) (world : σ) : Outcome σ GatedType A R :=
  match g.kindOf? member with
  | none => ⟨.error (.unguarded g.type.name member), world, []⟩
  | some kind =>
      let target := g.type.shortName ++ "::" ++ member
      let checked := g.gate.check kind target g.type args world
      match checked.value with
      | .error e => ⟨.error e, checked.world, checked.acts⟩
      | .ok () =>
          let (result, world) := perform args checked.world
          ⟨.ok result, world, checked.acts ++ [.ran label g.type args]⟩

def outline (g : TypeGate σ A) : Text.Outline :=
  .record "ClassGate"
    [("subject", .text g.type.name), ("criteria", .text g.gate.criteria.text),
      ("members", .map (g.members.entries.map fun (member, kind) =>
        (member, .atom kind.name)))] false

end TypeGate

end VersionDispatch
