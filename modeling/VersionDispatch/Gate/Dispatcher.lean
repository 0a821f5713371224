import VersionDispatch.Gate.Basic

/-!
# Dispatchers

A registry of bodies serves a call by running the body it chooses for a version. A dispatcher
asks its own version source and has the call served by the registry it was registered in, which
any gate may have added bodies to, before or since.
-/

namespace VersionDispatch

/-- A callable implementation. Each time it runs it first offers further ones to the registry
that it runs from. -/
inductive Body (σ S A R : Type) where
  | mk (label : String) (perform : S → A → σ → R × σ)
      (offers : List (Registration (Body σ S A R)))

structure Served (σ S A R : Type) extends Outcome σ S A R where
  registry : Registry (Body σ S A R)

/-- Calls whichever body under its key fits the version that its source tells. -/
structure Dispatcher (σ S A : Type) where
  key : DispatchKey
  registry : String
  source : VersionSource σ S A

variable {σ S A R : Type}

namespace Body

def label (body : Body σ S A R) : String :=
  match body with
  | .mk label _ _ => label

def perform (body : Body σ S A R) : S → A → σ → R × σ :=
  match body with
  | .mk _ perform _ => perform

def offers (body : Body σ S A R) : List (Registration (Body σ S A R)) :=
  match body with
  | .mk _ _ offers => offers

def run (body : Body σ S A R) (registry : Registry (Body σ S A R)) (subject : S) (args : A)
    (world : σ) : Served σ S A R :=
  let (result, world) := body.perform subject args world
  { value := .ok result
    world := world
    acts := .ran body.label subject args ::
      body.offers.map fun offer => .logged (Registry.registered offer)
    registry := registry.registerAll body.offers }

end Body

/-- Resolves the key and runs the body found; if there is none, nothing runs. -/
def Registry.serve (registry : Registry (Body σ S A R)) (key : DispatchKey)
    (version : Option String) (subject : S) (args : A) (world : σ) : Served σ S A R :=
  match registry.resolve key version with
  | .error e => ⟨⟨.error e, world, []⟩, registry⟩
  | .ok body =>
      let served := body.run registry subject args world
      { served with acts := (registry.resolved key version).map .logged ++ served.acts }

def Gate.offer (gate : Gate σ S A) (key : DispatchKey) (body : Body σ S A R) :
    Registration (Body σ S A R) :=
  ⟨key, gate.criteria, body⟩

def Gate.dispatcher (gate : Gate σ S A) (registry : String) (key : DispatchKey) :
    Dispatcher σ S A :=
  ⟨key, registry, gate.source⟩

namespace Dispatcher

def failed (key : DispatchKey) (e : Refusal) : Event where
  level := .warn
  target := "versioncheck::version::gate"
  message := "Dispatch of " ++ key.path ++ " failed: " ++ e.message

/-- Asks the source, always as for a method, then has the registry serve the call. -/
def call (d : Dispatcher σ S A) (registry : Registry (Body σ S A R)) (subject : S) (args : A)
    (world : σ) : Served σ S A R :=
  let (version, world) := d.source.answer .method subject args world
  let served := registry.serve d.key version subject args world
  let failure := match served.value with
    | .error e => [.logged (failed d.key e)]
    | .ok _ => []
  { served with
    acts := .asked d.source.name .method subject args :: served.acts ++ failure }

end Dispatcher

end VersionDispatch
