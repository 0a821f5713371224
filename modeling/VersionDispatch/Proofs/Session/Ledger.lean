import VersionDispatch.Proofs.Gate.Dispatcher
import VersionDispatch.Session

/-!
# Sessions and the ledger of their registrations

What a run of steps registers, and through which gates, can be told from the steps alone, in a
ledger that knows of no registry and is blind to calls. Every session keeps to the ledger of the
steps that led to it, so that any call in it is settled by what the ledger holds.
-/

namespace VersionDispatch

variable {σ S A R : Type}

/-- A registration as it was made: through which gate, in which registry, of which task. -/
structure Enrolment (σ S A R : Type) where
  gate : Gate σ (Subject S) A
  registry : String
  key : DispatchKey
  task : Task σ S A R

namespace Enrolment

def offer (e : Enrolment σ S A R) : Registration (Body σ (Subject S) A R) :=
  e.gate.offer e.key (.mk e.task.label e.task.perform [])

/-- The dispatcher that the registration yields. -/
def dispatcher (e : Enrolment σ S A R) : Dispatcher σ (Subject S) A :=
  e.gate.dispatcher e.registry e.key

end Enrolment

structure Ledger (σ S A R : Type) where
  gates : Table String (Gate σ (Subject S) A)
  /-- All registrations, in the order in which they were made. -/
  enrolments : List (Enrolment σ S A R)
  /-- The registration that the dispatcher of a name goes back to. -/
  origins : Table String (Enrolment σ S A R)

namespace Ledger

def empty : Ledger σ S A R := ⟨∅, [], ∅⟩

/-- Takes in what a step makes or registers. -/
def note (ledger : Ledger σ S A R) (step : Step σ S A R) : Ledger σ S A R :=
  match step with
  | .makeGate id expr source =>
      match Gate.make expr source with
      | .ok gate => { ledger with gates := ledger.gates.insert id gate }
      | .error _ => ledger
  | .copyGate gate id =>
      match ledger.gates.get? gate with
      | some gate => { ledger with gates := ledger.gates.insert id gate }
      | none => ledger
  | .register id gate key registry task _ =>
      match ledger.gates.get? gate with
      | some gate =>
          let e : Enrolment σ S A R := ⟨gate, registry, key, task⟩
          { ledger with
            enrolments := ledger.enrolments ++ [e]
            origins := ledger.origins.insert id e }
      | none => ledger
  | .copyDispatcher dispatcher id =>
      match ledger.origins.get? dispatcher with
      | some e => { ledger with origins := ledger.origins.insert id e }
      | none => ledger
  | _ => ledger

def ofSteps (steps : List (Step σ S A R)) : Ledger σ S A R := steps.foldl note empty

/-- The log of a registry. -/
def offers (ledger : Ledger σ S A R) (registry : String) :
    List (Registration (Body σ (Subject S) A R)) :=
  (ledger.enrolments.filter (·.registry = registry)).map Enrolment.offer

private theorem offers_append (ledger : Ledger σ S A R) (e : Enrolment σ S A R)
    (registry : String) :
    ({ ledger with enrolments := ledger.enrolments ++ [e] } : Ledger σ S A R).offers registry =
      ledger.offers registry ++ if e.registry = registry then [e.offer] else [] := by
  by_cases h : e.registry = registry <;> simp [offers, List.filter_append, h]

private theorem offers_eq_nil (ledger : Ledger σ S A R) (registry : String) :
    ∀ offer ∈ ledger.offers registry, offer.implementation.offers = [] := by
  intro offer hoffer
  obtain ⟨e, -, rfl⟩ := List.mem_map.mp hoffer
  rfl

/-- A version is served by the last enrolment under the key of the registry whose gate accepts
it. -/
structure ServedBy (ledger : Ledger σ S A R) (registry : String) (key : DispatchKey)
    (version : Option String) (before : List (Enrolment σ S A R)) (e : Enrolment σ S A R)
    (after : List (Enrolment σ S A R)) : Prop where
  split : ledger.enrolments = before ++ e :: after
  registry_eq : e.registry = registry
  key_eq : e.key = key
  accepts : e.gate.criteria.acceptsText version = true
  rejected : ∀ later ∈ after, later.registry = registry → later.key = key →
    later.gate.criteria.acceptsText version = false

theorem ServedBy.isLatest {ledger : Ledger σ S A R} {registry : String} {key : DispatchKey}
    {version : Option String} {before after : List (Enrolment σ S A R)} {e : Enrolment σ S A R}
    (h : ledger.ServedBy registry key version before e after) :
    IsLatest (ledger.offers registry) key version
      ((before.filter (·.registry = registry)).map Enrolment.offer) e.offer
      ((after.filter (·.registry = registry)).map Enrolment.offer) where
  split := by
    rw [offers, h.split, List.filter_append, List.filter_cons_of_pos (by simpa using h.registry_eq),
      List.map_append, List.map_cons]
  key_eq := h.key_eq
  accepts := h.accepts
  rejected := by
    intro later hlater hkey
    obtain ⟨e', he', rfl⟩ := List.mem_map.mp hlater
    obtain ⟨hmem, hregistry⟩ := List.mem_filter.mp he'
    exact h.rejected e' hmem (by simpa using hregistry) hkey

theorem servedBy_or_rejected (ledger : Ledger σ S A R) (registry : String) (key : DispatchKey)
    (version : Option String) :
    (∃ before e after, ledger.ServedBy registry key version before e after) ∨
      ∀ e ∈ ledger.enrolments, e.registry = registry → e.key = key →
        e.gate.criteria.acceptsText version = false := by
  by_cases h : ∃ e ∈ ledger.enrolments, e.registry = registry ∧ e.key = key ∧
      e.gate.criteria.acceptsText version = true
  · obtain ⟨before, e, after, hsplit, ⟨hregistry, hkey, haccepts⟩, hafter⟩ :=
      exists_last_split _ ledger.enrolments h
    refine .inl ⟨before, e, after, hsplit, hregistry, hkey, haccepts, ?_⟩
    intro later hlater hlaterRegistry hlaterKey
    rw [Bool.eq_false_iff]
    exact fun hl => hafter later hlater ⟨hlaterRegistry, hlaterKey, hl⟩
  · refine .inr ?_
    intro e he hregistry hkey
    rw [Bool.eq_false_iff]
    exact fun haccepts => h ⟨e, he, hregistry, hkey, haccepts⟩

end Ledger

/-- Does no body that the step registers offer others when it runs? -/
def Step.OffersNothing (step : Step σ S A R) : Prop :=
  match step with
  | .register _ _ _ _ _ later => later = none
  | _ => True

namespace Session

/-- The session after a run of steps. -/
def after (s : Session σ S A R) (steps : List (Step σ S A R)) : Session σ S A R :=
  steps.foldl (fun s step => (s.step step).session) s

/-- What holds of a session, and after a step on what a name stands for, holds whether or not the
name stands for anything. -/
theorem withNamed_keeps {α : Type} (P : Session σ S A R → Prop) (s : Session σ S A R)
    (table : Table String α) (name : String) (next : α → Progress σ S A R) (h : P s)
    (hnext : ∀ item, table.get? name = some item → P (next item).session) :
    P (s.withNamed table name next).session := by
  unfold withNamed
  cases hget : table.get? name with
  | none => exact h
  | some item => exact hnext item hget

/-- The session holds what the ledger says and no more. -/
structure Keeps (s : Session σ S A R) (ledger : Ledger σ S A R) : Prop where
  gates_eq : s.gates = ledger.gates
  reflects : ∀ name, (s.registry name).Reflects (ledger.offers name)
  dispatcher_eq : ∀ name,
    s.dispatchers.get? name = (ledger.origins.get? name).map Enrolment.dispatcher
  origin_mem : ∀ name e, ledger.origins.get? name = some e → e ∈ ledger.enrolments

private theorem keeps_start (world : σ) : (start world : Session σ S A R).Keeps .empty where
  gates_eq := rfl
  reflects _ := Registry.reflects_empty
  dispatcher_eq _ := rfl
  origin_mem _ _ h := by simp [Ledger.empty] at h

private theorem Keeps.of_same {s s' : Session σ S A R} {ledger : Ledger σ S A R}
    (h : s.Keeps ledger)
    (hgates : s'.gates = s.gates) (hregistries : ∀ name, s'.registry name = s.registry name)
    (hdispatchers : s'.dispatchers = s.dispatchers) : s'.Keeps ledger where
  gates_eq := hgates.trans h.gates_eq
  reflects name := by
    rw [hregistries]
    exact h.reflects name
  dispatcher_eq name := by
    rw [hdispatchers]
    exact h.dispatcher_eq name
  origin_mem := h.origin_mem

theorem registry_insert_self (s : Session σ S A R) (name : String)
    (r : Registry (Body σ (Subject S) A R)) :
    ({ s with registries := s.registries.insert name r } : Session σ S A R).registry name = r := by
  simp [registry]

theorem registry_insert_of_ne (s : Session σ S A R) (name other : String)
    (r : Registry (Body σ (Subject S) A R)) (h : other ≠ name) :
    ({ s with registries := s.registries.insert name r } : Session σ S A R).registry other =
      s.registry other := by
  rw [registry, Table.get?_insert_of_ne _ _ _ _ h]
  rfl

private theorem Keeps.insertGate {s : Session σ S A R} {ledger : Ledger σ S A R}
    (h : s.Keeps ledger) (id : String) (gate : Gate σ (Subject S) A) :
    ({ s with gates := s.gates.insert id gate } : Session σ S A R).Keeps
      { ledger with gates := ledger.gates.insert id gate } where
  gates_eq := congrArg (Table.insert · id gate) h.gates_eq
  reflects := h.reflects
  dispatcher_eq := h.dispatcher_eq
  origin_mem := h.origin_mem

theorem Keeps.registerBody {s : Session σ S A R} {ledger : Ledger σ S A R} (h : s.Keeps ledger)
    (id : String) (e : Enrolment σ S A R) :
    (s.registerBody id e.gate e.key e.registry (.mk e.task.label e.task.perform [])).session.Keeps
      { ledger with
        enrolments := ledger.enrolments ++ [e]
        origins := ledger.origins.insert id e } where
  gates_eq := h.gates_eq
  reflects name := by
    have hoffers := ledger.offers_append e name
    by_cases hname : e.registry = name
    · subst hname
      rw [if_pos rfl] at hoffers
      have hstep := (h.reflects e.registry).register e.offer
      rw [← hoffers] at hstep
      have hregistry := s.registry_insert_self e.registry ((s.registry e.registry).register e.offer)
      rw [← hregistry] at hstep
      exact hstep
    · rw [if_neg hname, List.append_nil] at hoffers
      have hstep := h.reflects name
      rw [← hoffers] at hstep
      have hregistry := s.registry_insert_of_ne e.registry name
        ((s.registry e.registry).register e.offer) (Ne.symm hname)
      rw [← hregistry] at hstep
      exact hstep
  dispatcher_eq name := by
    by_cases hname : name = id
    · subst hname
      simp only [Session.registerBody, Table.get?_insert_self, Option.map_some]
      rfl
    · simp only [Session.registerBody, Table.get?_insert_of_ne _ _ _ _ hname, h.dispatcher_eq name]
  origin_mem name e' he' := by
    by_cases hname : name = id
    · subst hname
      rw [Table.get?_insert_self] at he'
      exact List.mem_append_right _ (List.mem_singleton.mpr (Option.some.inj he').symm)
    · rw [Table.get?_insert_of_ne _ _ _ _ hname] at he'
      exact List.mem_append_left _ (h.origin_mem name e' he')

private theorem Keeps.copyOrigin {s : Session σ S A R} {ledger : Ledger σ S A R}
    (h : s.Keeps ledger) (id : String) {dispatcher : String} {e : Enrolment σ S A R}
    (he : ledger.origins.get? dispatcher = some e) :
    ({ s with dispatchers := s.dispatchers.insert id e.dispatcher } : Session σ S A R).Keeps
      { ledger with origins := ledger.origins.insert id e } where
  gates_eq := h.gates_eq
  reflects := h.reflects
  dispatcher_eq name := by
    by_cases hname : name = id
    · subst hname
      simp only [Table.get?_insert_self, Option.map_some]
    · simp only [Table.get?_insert_of_ne _ _ _ _ hname, h.dispatcher_eq name]
  origin_mem name e' he' := by
    by_cases hname : name = id
    · subst hname
      rw [Table.get?_insert_self] at he'
      exact h.origin_mem dispatcher e' (he.trans he')
    · rw [Table.get?_insert_of_ne _ _ _ _ hname] at he'
      exact h.origin_mem name e' he'

theorem Keeps.afterServed {s : Session σ S A R} {ledger : Ledger σ S A R} (h : s.Keeps ledger)
    (name : String) (served : Served σ (Subject S) A R)
    (hserved : served.registry = s.registry name) :
    (s.afterServed name served).session.Keeps ledger := by
  refine h.of_same rfl ?_ rfl
  intro other
  have hinsert : (s.afterServed name served).session.registry other =
      ({ s with registries := s.registries.insert name served.registry } :
        Session σ S A R).registry other := rfl
  rw [hinsert]
  by_cases hother : other = name
  · subst hother
    rw [registry_insert_self, hserved]
  · rw [registry_insert_of_ne _ _ _ _ hother]

/-- Serving a call changes no registry, since no body of the ledger offers others. -/
theorem Keeps.registry_serve {s : Session σ S A R} {ledger : Ledger σ S A R} (h : s.Keeps ledger)
    (name : String) (key : DispatchKey) (version : Option String) (subject : Subject S) (args : A)
    (world : σ) :
    ((s.registry name).serve key version subject args world).registry = s.registry name :=
  Registry.registry_serve (h.reflects name) (ledger.offers_eq_nil name) key version subject args
    world

theorem Keeps.step {s : Session σ S A R} {ledger : Ledger σ S A R} (h : s.Keeps ledger)
    (step : Step σ S A R) (hstep : step.OffersNothing) :
    (s.step step).session.Keeps (ledger.note step) := by
  cases step with
  | changeWorld change => exact h.of_same rfl (fun _ => rfl) rfl
  | makeGate id expr source =>
      simp only [Session.step, Session.makeGate, Ledger.note]
      cases Gate.make expr source with
      | error e => exact h
      | ok gate => exact h.insertGate id gate
  | copyGate gate id =>
      have hget : s.gates.get? gate = ledger.gates.get? gate := by rw [h.gates_eq]
      simp only [Session.step, Session.copyGate, withNamed, Ledger.note, hget]
      cases ledger.gates.get? gate with
      | none => exact h
      | some gate => exact h.insertGate id gate
  | register id gate key registry task later =>
      obtain rfl : later = none := hstep
      have hget : s.gates.get? gate = ledger.gates.get? gate := by rw [h.gates_eq]
      simp only [Session.step, Session.register, withNamed, Ledger.note, hget]
      cases ledger.gates.get? gate with
      | none => exact h
      | some gate => exact h.registerBody id ⟨gate, registry, key, task⟩
  | copyDispatcher dispatcher id =>
      simp only [Session.step, Session.copyDispatcher, withNamed, Ledger.note,
        h.dispatcher_eq dispatcher]
      cases he : ledger.origins.get? dispatcher with
      | none => exact h
      | some e => exact h.copyOrigin id he
  | call dispatcher subject args =>
      exact withNamed_keeps (·.Keeps ledger) s _ _ _ h fun d _ =>
        h.afterServed d.registry _ (h.registry_serve _ _ _ _ _ _)
  | resolve registry key version subject args =>
      exact h.afterServed _ _ (h.registry_serve registry key version _ args _)
  | check gate kind target subject args =>
      exact withNamed_keeps (·.Keeps ledger) s _ _ _ h fun _ _ => h.of_same rfl (fun _ => rfl) rfl
  | makeTypeGate id gate type members =>
      exact withNamed_keeps (·.Keeps ledger) s _ _ _ h fun _ _ => h.of_same rfl (fun _ => rfl) rfl
  | invoke typeGate member args label perform =>
      exact withNamed_keeps (·.Keeps ledger) s _ _ _ h fun _ _ => h.of_same rfl (fun _ => rfl) rfl

/-- Every session keeps to the ledger of the steps that led to it. -/
theorem keeps_after (world : σ) (steps : List (Step σ S A R))
    (hsteps : ∀ step ∈ steps, step.OffersNothing) :
    ((start world).after steps).Keeps (.ofSteps steps) := by
  induction steps using List.reverseRecOn with
  | nil => exact keeps_start world
  | append_singleton steps step ih =>
      have hbefore := ih fun earlier hearlier => hsteps earlier (List.mem_append_left _ hearlier)
      have hlast := hbefore.step step (hsteps step (by simp))
      simpa only [after, Ledger.ofSteps, List.foldl_append, List.foldl_cons, List.foldl_nil]
        using hlast

end Session

end VersionDispatch
