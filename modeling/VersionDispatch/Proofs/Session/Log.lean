import VersionDispatch.Proofs.Session.Ledger

/-!
# The logs of a session

Each registry of a session has a log: what the steps register in it, and what bodies offer to it as
they run. The registry is always the one that comes of this log, and whoever has a dispatcher finds
an offer under its key there.
-/

namespace VersionDispatch

variable {σ S A R : Type}

namespace Registry

/-- What the body that is resolved to offers when it runs. -/
def offersServed (r : Registry (Body σ S A R)) (key : DispatchKey) (version : Option String) :
    List (Registration (Body σ S A R)) :=
  match r.resolve key version with
  | .error _ => []
  | .ok body => body.offers

private theorem registry_serve_eq_registerAll (r : Registry (Body σ S A R)) (key : DispatchKey)
    (version : Option String) (subject : S) (args : A) (world : σ) :
    (r.serve key version subject args world).registry =
      r.registerAll (r.offersServed key version) := by
  unfold serve offersServed
  cases r.resolve key version with
  | error e => rfl
  | ok body => rfl

private theorem registerAll_append {ι : Type} (r : Registry ι)
    (offers more : List (Registration ι)) :
    r.registerAll (offers ++ more) = (r.registerAll offers).registerAll more :=
  List.foldl_append

end Registry

namespace Session

/-- The offer that a registering step makes, if the gates that it names are there. -/
def offer? (s : Session σ S A R) (gate : String) (key : DispatchKey) (task : Task σ S A R)
    (later : Option (LaterTask σ S A R)) : Option (Registration (Body σ (Subject S) A R)) :=
  match s.gates.get? gate, later with
  | none, _ => none
  | some gate, none => some (gate.offer key (.mk task.label task.perform []))
  | some gate, some later =>
      (s.gates.get? later.gate).map fun laterGate =>
        gate.offer key
          (.mk task.label task.perform
            [laterGate.offer later.key (.mk later.label later.perform [])])

private theorem register_cases (s : Session σ S A R) (id gate : String) (key : DispatchKey)
    (registry : String) (task : Task σ S A R) (later : Option (LaterTask σ S A R)) :
    (∃ g body, s.offer? gate key task later = some (g.offer key body) ∧
        s.register id gate key registry task later = s.registerBody id g key registry body) ∨
      (s.offer? gate key task later = none ∧
        ∃ name, s.register id gate key registry task later = s.stay (.unknownName name)) := by
  unfold offer? register withNamed
  cases s.gates.get? gate with
  | none => exact .inr ⟨rfl, _, rfl⟩
  | some g =>
      cases later with
      | none => exact .inl ⟨g, _, rfl, rfl⟩
      | some later =>
          dsimp only
          cases s.gates.get? later.gate with
          | none => exact .inr ⟨rfl, _, rfl⟩
          | some laterGate => exact .inl ⟨g, _, rfl, rfl⟩

/-- What a step adds to the log of a registry. -/
def newOffers (s : Session σ S A R) (name : String) (step : Step σ S A R) :
    List (Registration (Body σ (Subject S) A R)) :=
  match step with
  | .register _ gate key registry task later =>
      if registry = name then (s.offer? gate key task later).toList else []
  | .call dispatcher subject args =>
      match s.dispatchers.get? dispatcher with
      | none => []
      | some d =>
          if d.registry = name then
            (s.registry name).offersServed d.key
              (d.source.answer .method (.receiver subject) args s.world).1
          else []
  | .resolve registry key version _ _ =>
      if registry = name then (s.registry name).offersServed key version else []
  | _ => []

/-- The log of a registry over a run of steps. -/
def log (s : Session σ S A R) (name : String) (steps : List (Step σ S A R)) :
    List (Registration (Body σ (Subject S) A R)) :=
  match steps with
  | [] => []
  | step :: steps => s.newOffers name step ++ (s.step step).session.log name steps

private theorem log_append (s : Session σ S A R) (name : String)
    (steps more : List (Step σ S A R)) :
    s.log name (steps ++ more) = s.log name steps ++ (s.after steps).log name more := by
  induction steps generalizing s with
  | nil => rfl
  | cons step steps ih => rw [List.cons_append, log, ih, log, List.append_assoc]; rfl

private theorem registry_insert (s : Session σ S A R) (name other : String)
    (r : Registry (Body σ (Subject S) A R)) :
    ({ s with registries := s.registries.insert name r } : Session σ S A R).registry other =
      if name = other then r else s.registry other := by
  by_cases h : name = other
  · subst h
    rw [if_pos rfl, registry_insert_self]
  · rw [if_neg h, registry_insert_of_ne s name other r (Ne.symm h)]

private theorem registry_registerBody (s : Session σ S A R) (id : String)
    (gate : Gate σ (Subject S) A)
    (key : DispatchKey) (registry name : String) (body : Body σ (Subject S) A R) :
    (s.registerBody id gate key registry body).session.registry name =
      (s.registry name).registerAll (if registry = name then [gate.offer key body] else []) := by
  have hinsert := s.registry_insert registry name
    ((s.registry registry).register (gate.offer key body))
  refine hinsert.trans ?_
  by_cases h : registry = name
  · subst h
    rw [if_pos rfl, if_pos rfl]
    rfl
  · rw [if_neg h, if_neg h]
    rfl

private theorem registry_afterServed (s : Session σ S A R) (registry name : String)
    (key : DispatchKey) (version : Option String) (subject : Subject S) (args : A) (world : σ)
    (served : Served σ (Subject S) A R)
    (hserved : served.registry =
      ((s.registry registry).serve key version subject args world).registry) :
    (s.afterServed registry served).session.registry name =
      (s.registry name).registerAll
        (if registry = name then (s.registry name).offersServed key version else []) := by
  refine (s.registry_insert registry name served.registry).trans ?_
  by_cases h : registry = name
  · subst h
    rw [if_pos rfl, if_pos rfl, hserved, Registry.registry_serve_eq_registerAll]
  · rw [if_neg h, if_neg h]
    rfl

/-- A step registers in each registry what it adds to its log. -/
theorem registry_step (s : Session σ S A R) (name : String) (step : Step σ S A R) :
    (s.step step).session.registry name =
      (s.registry name).registerAll (s.newOffers name step) := by
  let P (s' : Session σ S A R) : Prop :=
    s'.registry name = (s.registry name).registerAll (s.newOffers name step)
  cases step with
  | changeWorld change => rfl
  | makeGate id expr source =>
      simp only [Session.step, makeGate]
      cases Gate.make expr source <;> rfl
  | copyGate gate id => exact withNamed_keeps P s _ _ _ rfl fun _ _ => rfl
  | register id gate key registry task later =>
      simp only [Session.step, newOffers]
      rcases s.register_cases id gate key registry task later with
        ⟨g, body, hoffer, hregister⟩ | ⟨hoffer, _, hregister⟩
      · rw [hoffer, hregister]
        exact s.registry_registerBody id g key registry name body
      · rw [hoffer, hregister, Option.toList_none, ite_self]
        rfl
  | copyDispatcher dispatcher id => exact withNamed_keeps P s _ _ _ rfl fun _ _ => rfl
  | call dispatcher subject args =>
      simp only [Session.step, call, withNamed, newOffers]
      cases s.dispatchers.get? dispatcher with
      | none => rfl
      | some d => exact s.registry_afterServed d.registry name d.key _ _ args _ _ rfl
  | resolve registry key version subject args =>
      exact s.registry_afterServed registry name key version _ args _ _ rfl
  | check gate kind target subject args => exact withNamed_keeps P s _ _ _ rfl fun _ _ => rfl
  | makeTypeGate id gate type members => exact withNamed_keeps P s _ _ _ rfl fun _ _ => rfl
  | invoke typeGate member args label perform =>
      exact withNamed_keeps P s _ _ _ rfl fun _ _ => rfl

theorem registry_after (s : Session σ S A R) (name : String) (steps : List (Step σ S A R)) :
    (s.after steps).registry name = (s.registry name).registerAll (s.log name steps) := by
  induction steps generalizing s with
  | nil => rfl
  | cons step steps ih =>
      rw [log, Registry.registerAll_append, ← registry_step]
      exact ih (s.step step).session

theorem reflects_log (world : σ) (name : String) (steps : List (Step σ S A R)) :
    (((start world).after steps).registry name).Reflects ((start world).log name steps) := by
  rw [registry_after]
  exact Registry.reflects_registerAll _

theorem dispatcher_step (s : Session σ S A R) (step : Step σ S A R) {id : String}
    {d : Dispatcher σ (Subject S) A} (h : (s.step step).session.dispatchers.get? id = some d) :
    (∃ id, s.dispatchers.get? id = some d) ∨
      ∃ offer ∈ s.newOffers d.registry step, offer.key = d.key := by
  let P (s' : Session σ S A R) : Prop := s'.dispatchers.get? id = some d →
    (∃ id, s.dispatchers.get? id = some d) ∨
      ∃ offer ∈ s.newOffers d.registry step, offer.key = d.key
  have hsame : P s := fun h => .inl ⟨id, h⟩
  suffices hstep : P (s.step step).session from hstep h
  clear h
  cases step with
  | changeWorld change => exact hsame
  | makeGate id expr source =>
      simp only [Session.step, makeGate]
      cases Gate.make expr source <;> exact hsame
  | copyGate gate id => exact withNamed_keeps P s _ _ _ hsame fun _ _ => hsame
  | register new gate key registry task later =>
      rcases s.register_cases new gate key registry task later with
        ⟨g, body, hoffer, hregister⟩ | ⟨-, _, hregister⟩
      · intro h
        rw [Session.step, hregister] at h
        by_cases hid : id = new
        · subst hid
          simp only [registerBody, Table.get?_insert_self] at h
          obtain rfl := Option.some.inj h
          refine .inr ⟨g.offer key body, ?_, rfl⟩
          simp [newOffers, hoffer, Gate.dispatcher]
        · simp only [registerBody, Table.get?_insert_of_ne _ _ _ _ hid] at h
          exact hsame h
      · rw [Session.step, hregister]
        exact hsame
  | copyDispatcher dispatcher new =>
      refine withNamed_keeps P s _ _ _ hsame fun copied hcopied h => ?_
      by_cases hid : id = new
      · subst hid
        simp only [Table.get?_insert_self] at h
        exact .inl ⟨dispatcher, hcopied.trans h⟩
      · simp only [Table.get?_insert_of_ne _ _ _ _ hid] at h
        exact hsame h
  | call dispatcher subject args => exact withNamed_keeps P s _ _ _ hsame fun _ _ => hsame
  | resolve registry key version subject args => exact hsame
  | check gate kind target subject args => exact withNamed_keeps P s _ _ _ hsame fun _ _ => hsame
  | makeTypeGate id gate type members => exact withNamed_keeps P s _ _ _ hsame fun _ _ => hsame
  | invoke typeGate member args label perform =>
      exact withNamed_keeps P s _ _ _ hsame fun _ _ => hsame

theorem exists_offer_of_dispatcher (world : σ) (steps : List (Step σ S A R)) {id : String}
    {d : Dispatcher σ (Subject S) A}
    (h : ((start world).after steps).dispatchers.get? id = some d) :
    ∃ offer ∈ (start world).log d.registry steps, offer.key = d.key := by
  induction steps using List.reverseRecOn generalizing id with
  | nil => simp [after, start] at h
  | append_singleton steps step ih =>
      rw [after, List.foldl_append] at h
      rw [log_append]
      rcases dispatcher_step ((start world).after steps) step h with
        ⟨earlier, hearlier⟩ | ⟨offer, hoffer, hkey⟩
      · obtain ⟨offer, hoffer, hkey⟩ := ih hearlier
        exact ⟨offer, List.mem_append_left _ hoffer, hkey⟩
      · refine ⟨offer, List.mem_append_right _ ?_, hkey⟩
        rw [log, log, List.append_nil]
        exact hoffer

end Session

end VersionDispatch
