import VersionDispatch.Gate.Dispatcher
import VersionDispatch.Gate.TypeGate

/-!
# The steps of a session

Each step is one operation on what the session holds. A step that names something unknown changes
nothing, and one that is refused only what a version source changed in the world.
-/

namespace VersionDispatch

inductive Subject (S : Type) where
  | receiver (value : S)
  | gatedType (type : GatedType)

structure Session (σ S A R : Type) where
  world : σ
  gates : Table String (Gate σ (Subject S) A)
  registries : Table String (Registry (Body σ (Subject S) A R))
  dispatchers : Table String (Dispatcher σ (Subject S) A)
  typeGates : Table String (TypeGate σ A)

structure Task (σ S A R : Type) where
  label : String
  perform : Subject S → A → σ → R × σ

/-- A task that another one offers through a gate each time it runs. -/
structure LaterTask (σ S A R : Type) extends Task σ S A R where
  gate : String
  key : DispatchKey

inductive Step (σ S A R : Type) where
  | changeWorld (change : σ → σ)
  | makeGate (id expr : String) (source : VersionSource σ (Subject S) A)
  | copyGate (gate id : String)
  | register (id gate : String) (key : DispatchKey) (registry : String) (task : Task σ S A R)
      (later : Option (LaterTask σ S A R))
  | copyDispatcher (dispatcher id : String)
  | call (dispatcher : String) (subject : S) (args : A)
  | resolve (registry : String) (key : DispatchKey) (version : Option String) (subject : S)
      (args : A)
  | check (gate : String) (kind : CallKind) (target : String) (subject : S) (args : A)
  | makeTypeGate (id gate : String) (type : GatedType) (members : List Declaration)
  | invoke (typeGate member : String) (args : A) (label : String) (perform : A → σ → R × σ)

inductive Reply (R : Type) where
  | done
  | gate (criteria : Criteria) (source : String)
  | registered (key : DispatchKey) (count : Nat)
  | dispatcher (key : DispatchKey)
  | result (value : R)
  | passed
  | typeGate (type : GatedType) (criteria : Criteria)
  | badCriteria (e : CriteriaFault)
  | refused (e : Refusal)
  /-- A name in the step stands for nothing. -/
  | unknownName (name : String)

namespace Session

variable {σ S A R : Type}

def start (world : σ) : Session σ S A R := ⟨world, ∅, ∅, ∅, ∅⟩

/-- The registry of a name; it is empty until something is registered in it. -/
def registry (s : Session σ S A R) (name : String) : Registry (Body σ (Subject S) A R) :=
  (s.registries.get? name).getD .empty

end Session

/-- The session after a step, the reply, and what was done. -/
structure Progress (σ S A R : Type) where
  session : Session σ S A R
  reply : Reply R
  acts : List (Act (Subject S) A)

namespace Session

variable {σ S A R : Type}

def stay (s : Session σ S A R) (reply : Reply R) : Progress σ S A R := ⟨s, reply, []⟩

def withNamed {α : Type} (s : Session σ S A R) (table : Table String α) (name : String)
    (next : α → Progress σ S A R) : Progress σ S A R :=
  match table.get? name with
  | some item => next item
  | none => s.stay (.unknownName name)

def replyOf (value : Except Refusal R) : Reply R :=
  match value with
  | .ok result => .result result
  | .error e => .refused e

def makeGate (s : Session σ S A R) (id expr : String) (source : VersionSource σ (Subject S) A) :
    Progress σ S A R :=
  match Gate.make expr source with
  | .error e => s.stay (.badCriteria e)
  | .ok gate =>
      ⟨{ s with gates := s.gates.insert id gate }, .gate gate.criteria gate.source.name, []⟩

def copyGate (s : Session σ S A R) (gate id : String) : Progress σ S A R :=
  s.withNamed s.gates gate fun gate =>
    ⟨{ s with gates := s.gates.insert id gate }, .gate gate.criteria gate.source.name, []⟩

/-- Registers a body through a gate and names the dispatcher that this yields. -/
def registerBody (s : Session σ S A R) (id : String) (gate : Gate σ (Subject S) A)
    (key : DispatchKey) (registry : String) (body : Body σ (Subject S) A R) :
    Progress σ S A R :=
  let offer := gate.offer key body
  let changed := (s.registry registry).register offer
  { session :=
      { s with
        registries := s.registries.insert registry changed
        dispatchers := s.dispatchers.insert id (gate.dispatcher registry key) }
    reply := .registered key (changed.candidates key).length
    acts := [.logged (Registry.registered offer)] }

def register (s : Session σ S A R) (id gate : String) (key : DispatchKey) (registry : String)
    (task : Task σ S A R) (later : Option (LaterTask σ S A R)) : Progress σ S A R :=
  s.withNamed s.gates gate fun gate =>
    match later with
    | none => s.registerBody id gate key registry (.mk task.label task.perform [])
    | some later =>
        s.withNamed s.gates later.gate fun laterGate =>
          s.registerBody id gate key registry
            (.mk task.label task.perform
              [laterGate.offer later.key (.mk later.label later.perform [])])

def copyDispatcher (s : Session σ S A R) (dispatcher id : String) : Progress σ S A R :=
  s.withNamed s.dispatchers dispatcher fun d =>
    ⟨{ s with dispatchers := s.dispatchers.insert id d }, .dispatcher d.key, []⟩

/-- Takes over the world and the registry that a served call leaves behind. -/
def afterServed (s : Session σ S A R) (registry : String)
    (served : Served σ (Subject S) A R) : Progress σ S A R :=
  { session :=
      { s with
        world := served.world
        registries := s.registries.insert registry served.registry }
    reply := replyOf served.value
    acts := served.acts }

def call (s : Session σ S A R) (dispatcher : String) (subject : S) (args : A) :
    Progress σ S A R :=
  s.withNamed s.dispatchers dispatcher fun d =>
    s.afterServed d.registry (d.call (s.registry d.registry) (.receiver subject) args s.world)

def resolve (s : Session σ S A R) (registry : String) (key : DispatchKey)
    (version : Option String) (subject : S) (args : A) : Progress σ S A R :=
  s.afterServed registry
    ((s.registry registry).serve key version (.receiver subject) args s.world)

def check (s : Session σ S A R) (gate : String) (kind : CallKind) (target : String)
    (subject : S) (args : A) : Progress σ S A R :=
  s.withNamed s.gates gate fun gate =>
    let checked := gate.check kind target (.receiver subject) args s.world
    { session := { s with world := checked.world }
      reply := match checked.value with
        | .ok () => .passed
        | .error e => .refused e
      acts := checked.acts }

def makeTypeGate (s : Session σ S A R) (id gate : String) (type : GatedType)
    (members : List Declaration) : Progress σ S A R :=
  s.withNamed s.gates gate fun gate =>
    let typeGate := TypeGate.build (gate.comap .gatedType) type members
    { session := { s with typeGates := s.typeGates.insert id typeGate }
      reply := .typeGate type gate.criteria
      acts := [.logged typeGate.built] }

def invoke (s : Session σ S A R) (typeGate member : String) (args : A) (label : String)
    (perform : A → σ → R × σ) : Progress σ S A R :=
  s.withNamed s.typeGates typeGate fun g =>
    let outcome := g.invoke member args label perform s.world
    { session := { s with world := outcome.world }
      reply := replyOf outcome.value
      acts := outcome.acts.map (Act.mapSubject .gatedType) }

def step (s : Session σ S A R) (next : Step σ S A R) : Progress σ S A R :=
  match next with
  | .changeWorld change => ⟨{ s with world := change s.world }, .done, []⟩
  | .makeGate id expr source => s.makeGate id expr source
  | .copyGate gate id => s.copyGate gate id
  | .register id gate key registry task later => s.register id gate key registry task later
  | .copyDispatcher dispatcher id => s.copyDispatcher dispatcher id
  | .call dispatcher subject args => s.call dispatcher subject args
  | .resolve registry key version subject args => s.resolve registry key version subject args
  | .check gate kind target subject args => s.check gate kind target subject args
  | .makeTypeGate id gate type members => s.makeTypeGate id gate type members
  | .invoke typeGate member args label perform =>
      s.invoke typeGate member args label perform

end Session

end VersionDispatch
