import VersionDispatch.Dispatch.Registry

/-!
# Gates

A gate pairs a criteria with the source that knows the current version. The source is any
function of the kind of call, the subject, the arguments and the state of the world around it;
what a check does besides answering is kept as a list of acts in order.
-/

namespace VersionDispatch

inductive CallKind where
  /-- A constructor of a gated type. -/
  | constructing
  /-- A function of a type that is given the type. -/
  | onType
  /-- A function of a type that is not. -/
  | static
  /-- A callable registered on its own. -/
  | method
  deriving DecidableEq

def CallKind.name (kind : CallKind) : String :=
  match kind with
  | .constructing => "Init"
  | .onType => "ClassMethod"
  | .static => "StaticMethod"
  | .method => "Method"

/-- Tells the version that applies to a call; none when it is unknown. -/
structure VersionSource (σ S A : Type) where
  name : String
  answer : CallKind → S → A → σ → Option String × σ

/-- The source as seen by subjects that stand for other ones. -/
def VersionSource.comap {σ S T A : Type} (f : T → S) (source : VersionSource σ S A) :
    VersionSource σ T A :=
  ⟨source.name, fun kind subject => source.answer kind (f subject)⟩

inductive Act (S A : Type) where
  /-- A source, given by name, was asked for the version. -/
  | asked (source : String) (kind : CallKind) (subject : S) (args : A)
  /-- A body, given by its label, ran. -/
  | ran (body : String) (subject : S) (args : A)
  | logged (event : Event)

def Act.mapSubject {S T A : Type} (f : T → S) (act : Act T A) : Act S A :=
  match act with
  | .asked source kind subject args => .asked source kind (f subject) args
  | .ran body subject args => .ran body (f subject) args
  | .logged event => .logged event

/-- The answer to a guarded call, the world after it, and what was done. -/
structure Outcome (σ S A α : Type) where
  value : Except Refusal α
  world : σ
  acts : List (Act S A)

structure Gate (σ S A : Type) where
  criteria : Criteria
  source : VersionSource σ S A

namespace Gate

variable {σ S T A : Type}

/-- A gate for an expression; one that cannot be read never gets to a call. -/
def make (expr : String) (source : VersionSource σ S A) :
    Except CriteriaFault (Gate σ S A) :=
  (Criteria.parse expr).map fun criteria => ⟨criteria, source⟩

/-- The gate as met by subjects that stand for other ones. -/
def comap (f : T → S) (gate : Gate σ S A) : Gate σ T A :=
  ⟨gate.criteria, gate.source.comap f⟩

def rejected (gate : Gate σ S A) (kind : CallKind) (target : String)
    (version : Option String) : Event where
  level := .warn
  target := "versioncheck::version::gate"
  message := "Rejected " ++ kind.name ++ " call to " ++ target ++ ": version " ++
    showVersion version ++ " does not satisfy " ++ gate.criteria.text

/-- Asks the source once and tests the version it gives. -/
def check (gate : Gate σ S A) (kind : CallKind) (target : String) (subject : S) (args : A)
    (world : σ) : Outcome σ S A Unit :=
  let (version, world) := gate.source.answer kind subject args world
  let asked := Act.asked gate.source.name kind subject args
  if gate.criteria.acceptsText version then
    ⟨.ok (), world, [asked]⟩
  else
    ⟨.error (.unsupported target version), world,
      [asked, .logged (gate.rejected kind target version)]⟩

def outline (gate : Gate σ S A) : Text.Outline :=
  .record "Gate" [("criteria", .text gate.criteria.text)] true

end Gate

end VersionDispatch
