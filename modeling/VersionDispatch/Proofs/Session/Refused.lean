import VersionDispatch.Proofs.Gate.TypeGate
import VersionDispatch.Proofs.Session.Log

/-!
# Refused and unknown versions

A version is refused only if all criteria that it is held against reject it, and the refusal shows
it just as it was given. A version that is not known is accepted by every criteria, so that it is
never refused: whatever is registered or declared can be called.
-/

namespace VersionDispatch

variable {ι σ S A R α β : Type}

/-- If the version is refused, then it is a known one, shown letter by letter as it was given, and
it was held against some criteria, none of which accepts it. -/
def NamesVersion (value : Except Refusal α) (version : Option String)
    (consulted : List Criteria) : Prop :=
  ∀ target named, value = .error (.unsupported target named) →
    ∃ text, version = some text ∧ named = some text ∧ consulted ≠ [] ∧
      ∀ c ∈ consulted, c.acceptsText (some text) = false

namespace NamesVersion

variable {version : Option String} {consulted : List Criteria}

theorem ok (a : α) : NamesVersion (.ok a) version consulted := fun _ _ h => nomatch h

theorem unregistered (key : DispatchKey) :
    NamesVersion (.error (.unregistered key) : Except Refusal α) version consulted :=
  fun _ _ h => nomatch h

theorem unguarded (type member : String) :
    NamesVersion (.error (.unguarded type member) : Except Refusal α) version consulted :=
  fun _ _ h => nomatch h

theorem unsupported (target : String) (hne : consulted ≠ [])
    (hrejected : ∀ c ∈ consulted, c.acceptsText version = false) :
    NamesVersion (.error (.unsupported target version) : Except Refusal α) version consulted := by
  intro target' named h
  injection h with h
  injection h with _ hnamed
  cases version with
  | none =>
      -- An unknown version would have been accepted by any of them.
      obtain ⟨c, rest, rfl⟩ := List.exists_cons_of_ne_nil hne
      exact nomatch hrejected c List.mem_cons_self
  | some text => exact ⟨text, rfl, hnamed.symm, hne, hrejected⟩

theorem map {value : Except Refusal α} (h : NamesVersion value version consulted) (f : α → β) :
    NamesVersion (value.map f) version consulted := by
  cases value with
  | error e =>
      intro target named hvalue
      exact h target named (congrArg _ (Except.error.inj hvalue))
  | ok a => exact .ok (f a)

end NamesVersion

namespace Registry

theorem Reflects.namesVersion_resolve {r : Registry ι} {log : List (Registration ι)}
    (h : r.Reflects log) (key : DispatchKey) (version : Option String) :
    NamesVersion (r.resolve key version) version (r.criteria key) := by
  rcases h.resolve_cases key version with
    ⟨-, hresolve⟩ | ⟨_, offer, _, -, hresolve⟩ | ⟨hknown, hrejected, hresolve⟩
  · exact hresolve ▸ .unregistered key
  · exact hresolve ▸ .ok offer.implementation
  · rw [hresolve]
    apply NamesVersion.unsupported
    · rw [criteria, h.candidates_eq, ne_eq, List.map_eq_nil_iff]
      exact hknown
    · rw [h.criteria_eq]
      intro c hc
      obtain ⟨offer, hoffer, rfl⟩ := List.mem_map.mp hc
      obtain ⟨hmem, hkey⟩ := List.mem_filter.mp hoffer
      exact hrejected offer hmem (by simpa using hkey)

theorem Reflects.resolve_none {r : Registry ι} {log : List (Registration ι)} (h : r.Reflects log)
    (key : DispatchKey) (hknown : ∃ offer ∈ log, offer.key = key) :
    ∃ before latest after, log = before ++ latest :: after ∧ latest.key = key ∧
      (∀ later ∈ after, later.key ≠ key) ∧ r.resolve key none = .ok latest.implementation := by
  obtain ⟨before, latest, after, hsplit, hkey, hafter⟩ :=
    exists_last_split (fun offer => offer.key = key) log hknown
  have hlatest : IsLatest log key none before latest after :=
    ⟨hsplit, hkey, rfl, fun later hlater hlaterKey => absurd hlaterKey (hafter later hlater)⟩
  exact ⟨before, latest, after, hsplit, hkey, hafter, h.resolve_eq_latest hlatest⟩

end Registry

theorem Gate.namesVersion_check (gate : Gate σ S A) (kind : CallKind) (target : String)
    (subject : S) (args : A) (world : σ) :
    NamesVersion (gate.check kind target subject args world).value
      (gate.source.answer kind subject args world).1 [gate.criteria] := by
  rw [gate.value_check]
  dsimp only
  split
  next => exact .ok ()
  next hrejects =>
    refine .unsupported target (List.cons_ne_nil _ _) ?_
    simpa using hrejects

theorem Gate.check_unknown (gate : Gate σ S A) (kind : CallKind) (target : String) (subject : S)
    (args : A) (world : σ) (hunknown : (gate.source.answer kind subject args world).1 = none) :
    (gate.check kind target subject args world).value = .ok () := by
  rw [gate.value_check, hunknown]
  rfl

theorem Dispatcher.namesVersion_call (d : Dispatcher σ S A) {r : Registry (Body σ S A R)}
    {log : List (Registration (Body σ S A R))} (hr : r.Reflects log) (subject : S) (args : A)
    (world : σ) :
    NamesVersion (d.call r subject args world).value
      (d.source.answer .method subject args world).1 (r.criteria d.key) := by
  rw [d.value_call]
  exact (hr.namesVersion_resolve d.key _).map _

theorem Dispatcher.call_unknown (d : Dispatcher σ S A) {r : Registry (Body σ S A R)}
    {log : List (Registration (Body σ S A R))} (hr : r.Reflects log)
    (hknown : ∃ offer ∈ log, offer.key = d.key) (subject : S) (args : A) (world : σ)
    (hunknown : (d.source.answer .method subject args world).1 = none) :
    ∃ result, (d.call r subject args world).value = .ok result := by
  obtain ⟨_, latest, _, -, -, -, hresolve⟩ := hr.resolve_none d.key hknown
  simp only [d.value_call, hunknown, hresolve]
  exact ⟨_, rfl⟩

namespace TypeGate

theorem namesVersion_invoke (g : TypeGate σ A) (member : String) (args : A) (label : String)
    (perform : A → σ → R × σ) (world : σ) {kind : CallKind} (hkind : g.kindOf? member = some kind) :
    NamesVersion (g.invoke member args label perform world).value
      (g.gate.source.answer kind g.type args world).1 [g.gate.criteria] := by
  cases h : g.gate.criteria.acceptsText (g.gate.source.answer kind g.type args world).1 with
  | true =>
      rw [g.invoke_of_accepts member args label perform world hkind h]
      exact .ok _
  | false =>
      rw [g.invoke_of_rejects member args label perform world hkind h]
      refine .unsupported _ (List.cons_ne_nil _ _) ?_
      simpa using h

theorem invoke_unknown (g : TypeGate σ A) (member : String) (args : A) (label : String)
    (perform : A → σ → R × σ) (world : σ) {kind : CallKind} (hkind : g.kindOf? member = some kind)
    (hunknown : (g.gate.source.answer kind g.type args world).1 = none) :
    (g.invoke member args label perform world).value =
      .ok (perform args (g.gate.source.answer kind g.type args world).2).1 := by
  rw [g.invoke_of_accepts member args label perform world hkind (by rw [hunknown]; rfl)]

end TypeGate

namespace Session

/-- In any session, whatever has been registered, declared or called before: a refusal of a version
by a registry, a gate, a dispatcher or a type gate shows the version that the caller or the source
gave, and every criteria it was held against rejects it. So for an unknown version a registered key
resolves to what was registered last under it, a check passes, and calls through a dispatcher or to
a declared member go through. -/
theorem refusals_name_rejected_versions (world : σ) (steps : List (Step σ S A R)) :
    let s := (start world).after steps
    (∀ name key version,
        NamesVersion ((s.registry name).resolve key version) version
          ((s.registry name).criteria key)) ∧
      (∀ name key,
        let log := (start world).log name steps
        (∃ offer ∈ log, offer.key = key) →
          ∃ before latest after, log = before ++ latest :: after ∧ latest.key = key ∧
            (∀ later ∈ after, later.key ≠ key) ∧
            (s.registry name).resolve key none = .ok latest.implementation) ∧
      (∀ (gate : Gate σ (Subject S) A) kind target subject args w,
        let asked := gate.source.answer kind subject args w
        let value := (gate.check kind target subject args w).value
        NamesVersion value asked.1 [gate.criteria] ∧ (asked.1 = none → value = .ok ())) ∧
      (∀ id d, s.dispatchers.get? id = some d → ∀ subject args w,
        let asked := d.source.answer .method subject args w
        let value := (d.call (s.registry d.registry) subject args w).value
        NamesVersion value asked.1 ((s.registry d.registry).criteria d.key) ∧
          (asked.1 = none → ∃ result, value = .ok result)) ∧
      ∀ (g : TypeGate σ A) member args label (perform : A → σ → R × σ) w,
        let value := (g.invoke member args label perform w).value
        (g.kindOf? member = none → value = .error (.unguarded g.type.name member)) ∧
          ∀ kind, g.kindOf? member = some kind →
            let asked := g.gate.source.answer kind g.type args w
            NamesVersion value asked.1 [g.gate.criteria] ∧
              (asked.1 = none → value = .ok (perform args asked.2).1) := by
  intro s
  have hreflects (name : String) : (s.registry name).Reflects ((start world).log name steps) :=
    reflects_log world name steps
  refine ⟨?_, ?_, ?_, ?_, ?_⟩
  · intro name key version
    exact (hreflects name).namesVersion_resolve key version
  · intro name key log hknown
    exact (hreflects name).resolve_none key hknown
  · intro gate kind target subject args w
    exact ⟨gate.namesVersion_check kind target subject args w,
      gate.check_unknown kind target subject args w⟩
  · intro id d hd subject args w
    have hknown := exists_offer_of_dispatcher world steps hd
    exact ⟨d.namesVersion_call (hreflects d.registry) subject args w,
      d.call_unknown (hreflects d.registry) hknown subject args w⟩
  · intro g member args label perform w
    refine ⟨fun hundeclared => ?_, fun kind hkind => ?_⟩
    · rw [g.invoke_of_kindOf?_eq_none member args label perform w hundeclared]
    · exact ⟨g.namesVersion_invoke member args label perform w hkind,
        g.invoke_unknown member args label perform w hkind⟩

/-- The body behind `<2` registers another one as it runs, and an unknown version gets that one
afterwards. A version above is refused with its blanks. The gate guards a type alike. -/
theorem refusals_name_rejected_versions_blanks :
    let fromArgs (S : Type) : VersionSource Nat S (Option String) :=
      ⟨"args", fun _ _ args world => (args, world + 1)⟩
    let task (label : String) : Task Nat String (Option String) String :=
      ⟨label, fun _ _ world => (label, world)⟩
    let key : DispatchKey := ⟨"api", "list"⟩
    let steps : List (Step Nat String (Option String) String) :=
      [.makeGate "low" "<2" (fromArgs (Subject String)),
        .register "first" "low" key "main" (task "old") (some ⟨task "added", "low", key⟩),
        .call "first" "client" (some "1")]
    let d : Dispatcher Nat (Subject String) (Option String) := ⟨key, "main", fromArgs _⟩
    let call (args : Option String) : Except Refusal String :=
      (d.call (((start 0).after steps).registry d.registry) (.receiver "client") args 0).value
    let volume : TypeGate Nat (Option String) :=
      .build ⟨⟨.less, Version.parse "2", none, rfl, by decide⟩, fromArgs GatedType⟩ ⟨"Volume"⟩
        [⟨.constructing, "new"⟩]
    let invoke (member : String) : Except Refusal String :=
      (volume.invoke member none "body" (fun _ world => ("made", world)) 0).value
    ((start 0).after steps).dispatchers.get? "first" = some d ∧
      call (some " 3 ") = .error (.unsupported "api::list" (some " 3 ")) ∧
      (∀ c ∈ (((start 0).after steps).registry d.registry).criteria d.key,
        c.acceptsText (some " 3 ") = false) ∧
      (∃ result, call none = .ok result) ∧
      ((((start 0).after steps).registry "main").resolve key none).map Body.label = .ok "added" ∧
      invoke "new" = .ok "made" ∧ invoke "open" = .error (.unguarded "Volume" "open") := by
  intro fromArgs task key steps d call volume invoke
  have hd : ((start 0).after steps).dispatchers.get? "first" = some d := rfl
  have hrefused : call (some " 3 ") = .error (.unsupported "api::list" (some " 3 ")) := by decide
  obtain ⟨-, hresolve, -, hcall, hinvoke⟩ := refusals_name_rejected_versions 0 steps
  obtain ⟨hnames, -⟩ := hcall "first" d hd (.receiver "client") (some " 3 ") 0
  obtain ⟨-, hpasses⟩ := hcall "first" d hd (.receiver "client") none 0
  obtain ⟨text, hgiven, -, -, hrejected⟩ := hnames "api::list" (some " 3 ") hrefused
  obtain rfl := Option.some.inj hgiven
  have hlabels : ((start 0).log "main" steps).map (fun offer => offer.implementation.label) =
      ["old", "added"] := by decide
  have hkeys : ∀ offer ∈ (start 0).log "main" steps, offer.key = key := by decide
  have hnew := (hinvoke volume "new" none "body" (fun _ world => ("made", world)) 0).2 .constructing
  have hopen := (hinvoke volume "open" none "body" (fun _ world => ("made", world)) 0).1
  obtain ⟨before, latest, after, hsplit, -, hafter, hlatest⟩ := hresolve "main" key (by decide)
  refine ⟨hd, hrefused, hrejected, hpasses rfl, ?_, (hnew (by decide)).2 rfl, hopen (by decide)⟩
  cases after with
  | nil =>
      rw [hsplit, List.map_append] at hlabels
      have hlast := congrArg List.getLast? hlabels
      rw [List.map_singleton, List.getLast?_concat] at hlast
      rw [hlatest]
      exact congrArg Except.ok (Option.some.inj hlast)
  | cons later rest =>
      have hmem : later ∈ (start 0).log "main" steps := by simp [hsplit]
      exact absurd (hkeys later hmem) (hafter later List.mem_cons_self)

end Session

end VersionDispatch
