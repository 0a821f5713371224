import VersionDispatch.Criteria.Basic
import VersionDispatch.Dispatch.Key
import VersionDispatch.Event
import VersionDispatch.Table

/-!
# Registries

A registry holds, for each dispatch key, the implementations offered so far, oldest first, each
with the criteria that guards it. Resolving a key goes through them from the latest back.
-/

namespace VersionDispatch

structure Candidate (ι : Type) where
  criteria : Criteria
  implementation : ι

structure Registration (ι : Type) where
  key : DispatchKey
  criteria : Criteria
  implementation : ι

structure Registry (ι : Type) where
  table : Table DispatchKey (List (Candidate ι))

variable {ι : Type}

def Candidate.accepts (candidate : Candidate ι) (version : Option Version) : Bool :=
  candidate.criteria.accepts version

/-- The last candidate that accepts the version, with its position. -/
def lastAccepting? (candidates : List (Candidate ι)) (version : Option Version) :
    Option (Nat × Candidate ι) :=
  (candidates.zipIdx.reverse.find? fun (candidate, _) => candidate.accepts version).map
    fun (candidate, index) => (index, candidate)

namespace Registry

def empty : Registry ι := ⟨∅⟩

def register (r : Registry ι) (offer : Registration ι) : Registry ι :=
  ⟨r.table.alter offer.key fun known =>
    known.getD [] ++ [⟨offer.criteria, offer.implementation⟩]⟩

def registerAll (r : Registry ι) (offers : List (Registration ι)) : Registry ι :=
  offers.foldl register r

def candidates (r : Registry ι) (key : DispatchKey) : List (Candidate ι) :=
  (r.table.get? key).getD []

def criteria (r : Registry ι) (key : DispatchKey) : List Criteria :=
  (r.candidates key).map Candidate.criteria

/-- The keys in the order in which they were first registered. -/
def keys (r : Registry ι) : List DispatchKey := r.table.keys

/-- The candidate chosen for a version, with its position among those of its key. -/
def choose (r : Registry ι) (key : DispatchKey) (version : Option String) :
    Except Refusal (Nat × Candidate ι) :=
  match r.table.get? key with
  | none => .error (.unregistered key)
  | some candidates =>
      match lastAccepting? candidates (version.map Version.parse) with
      | some found => .ok found
      | none => .error (.unsupported key.path version)

/-- The latest implementation under the key whose criteria accepts the version. -/
def resolve (r : Registry ι) (key : DispatchKey) (version : Option String) :
    Except Refusal ι :=
  (r.choose key version).map fun (_, candidate) => candidate.implementation

def target : String := "versioncheck::version::registry"

def registered (offer : Registration ι) : Event where
  level := .debug
  target := target
  message := "Registering " ++ offer.key.path ++ " for " ++ offer.criteria.text

/-- What resolving a key reports: the choice, if there is one. -/
def resolved (r : Registry ι) (key : DispatchKey) (version : Option String) : List Event :=
  match r.choose key version with
  | .error _ => []
  | .ok (index, candidate) =>
      [{ level := .debug
         target := target
         message := "Resolved " ++ key.path ++ " for version " ++ showVersion version ++
           " to candidate #" ++ toString index ++ " (" ++ candidate.criteria.text ++ ")" }]

def outline (r : Registry ι) : Text.Outline :=
  .map (r.table.entries.map fun (key, candidates) => (key.path, .number candidates.length))

end Registry

end VersionDispatch
