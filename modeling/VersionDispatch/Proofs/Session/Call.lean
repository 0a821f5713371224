import VersionDispatch.Proofs.Session.Ledger

namespace VersionDispatch.Session

variable {σ S A R : Type}

private theorem Keeps.call_eq_of_origin {s : Session σ S A R} {ledger : Ledger σ S A R}
    (h : s.Keeps ledger)
    {name : String} {e : Enrolment σ S A R} (he : ledger.origins.get? name = some e) (subject : S)
    (args : A) :
    s.call name subject args =
      s.afterServed e.registry
        (e.dispatcher.call (s.registry e.registry) (.receiver subject) args s.world) := by
  have hdispatcher : s.dispatchers.get? name = some e.dispatcher := by
    rw [h.dispatcher_eq, he]
    rfl
  simp only [call, withNamed, hdispatcher]
  rfl

private theorem Keeps.call_of_servedBy {s : Session σ S A R} {ledger : Ledger σ S A R}
    (h : s.Keeps ledger)
    {name : String} {e latest : Enrolment σ S A R} {before after : List (Enrolment σ S A R)}
    (he : ledger.origins.get? name = some e) (subject : S) (args : A)
    (hserved : ledger.ServedBy e.registry e.key
      (e.gate.source.answer .method (.receiver subject) args s.world).1 before latest after) :
    let asked := e.gate.source.answer .method (.receiver subject) args s.world
    let performed := latest.task.perform (.receiver subject) args asked.2
    let progress := s.call name subject args
    progress.reply = .result performed.1 ∧ progress.session.world = performed.2 ∧
      progress.acts.filter Act.isCall =
        [.asked e.gate.source.name .method (.receiver subject) args,
          .ran latest.task.label (.receiver subject) args] := by
  intro asked performed progress
  have hcall := e.dispatcher.call_of_isLatest (h.reflects e.registry) (.receiver subject) args
    s.world hserved.isLatest rfl
  have hprogress := h.call_eq_of_origin he subject args
  rw [hcall] at hprogress
  simp only [progress, hprogress]
  refine ⟨rfl, rfl, ?_⟩
  simp only [Session.afterServed, List.cons_append, List.filter_cons, List.filter_append,
    filter_isCall_logged]
  rfl

theorem Keeps.call_of_rejected {s : Session σ S A R} {ledger : Ledger σ S A R} (h : s.Keeps ledger)
    {name : String} {e : Enrolment σ S A R} (he : ledger.origins.get? name = some e) (subject : S)
    (args : A)
    (hrejected : ∀ other ∈ ledger.enrolments, other.registry = e.registry → other.key = e.key →
      other.gate.criteria.acceptsText
        (e.gate.source.answer .method (.receiver subject) args s.world).1 = false) :
    let asked := e.gate.source.answer .method (.receiver subject) args s.world
    let progress := s.call name subject args
    progress.reply = .refused (.unsupported e.key.path asked.1) ∧
      progress.session.world = asked.2 ∧
      progress.acts.filter Act.isCall =
        [.asked e.gate.source.name .method (.receiver subject) args] := by
  intro asked progress
  have hmem : e ∈ ledger.enrolments := h.origin_mem name e he
  -- The dispatcher's own registration is under its key, so the key is known.
  have hknown : offered (ledger.offers e.registry) e.key ≠ [] := by
    apply (Registry.offered_ne_nil_iff _ _).mpr
    exact ⟨e.offer, List.mem_map_of_mem (List.mem_filter.mpr ⟨hmem, by simp⟩), rfl⟩
  have hlog : ∀ offer ∈ ledger.offers e.registry, offer.key = e.key →
      offer.criteria.acceptsText asked.1 = false := by
    intro offer hoffer hkey
    obtain ⟨other, hother, rfl⟩ := List.mem_map.mp hoffer
    obtain ⟨hotherMem, hregistry⟩ := List.mem_filter.mp hother
    exact hrejected other hotherMem (by simpa using hregistry) hkey
  have hcall := e.dispatcher.call_of_rejected (h.reflects e.registry) hknown (.receiver subject)
    args s.world hlog
  have hprogress := h.call_eq_of_origin he subject args
  rw [hcall] at hprogress
  simp only [progress, hprogress]
  exact ⟨rfl, rfl, rfl⟩

private theorem Keeps.call_of_no_origin {s : Session σ S A R} {ledger : Ledger σ S A R}
    (h : s.Keeps ledger) {name : String} (hnone : ledger.origins.get? name = none) (subject : S)
    (args : A) : s.call name subject args = s.stay (.unknownName name) := by
  have hdispatcher : s.dispatchers.get? name = none := by
    rw [h.dispatcher_eq, hnone]
    rfl
  simp only [call, withNamed, hdispatcher]

theorem Keeps.reply_ne_unregistered {s : Session σ S A R} {ledger : Ledger σ S A R}
    (h : s.Keeps ledger) (name : String) (subject : S) (args : A) (key : DispatchKey) :
    (s.call name subject args).reply ≠ .refused (.unregistered key) := by
  intro hreply
  cases he : ledger.origins.get? name with
  | none =>
      rw [h.call_of_no_origin he subject args] at hreply
      contradiction
  | some e =>
      rcases ledger.servedBy_or_rejected e.registry e.key
          (e.gate.source.answer .method (.receiver subject) args s.world).1 with
        ⟨before, latest, after, hserved⟩ | hrejected
      · rw [(h.call_of_servedBy he subject args hserved).1] at hreply
        contradiction
      · rw [(h.call_of_rejected he subject args hrejected).1] at hreply
        injection hreply with hrefusal
        contradiction

/-- After any run of steps in which bodies offer no others: a call asks the source of the gate
that the dispatcher came from, once and as for a method. If a gate under the dispatcher's key in
its registry accepts the answer, the body registered last through such a gate runs once, on the
same subject and arguments, and its result is the reply. Else nothing runs and the version is not
supported. That nothing were registered under the key is never the reply. -/
theorem call_after (world : σ) (steps : List (Step σ S A R))
    (hsteps : ∀ step ∈ steps, step.OffersNothing) (name : String) (subject : S) (args : A) :
    let s := (start world).after steps
    let ledger := Ledger.ofSteps steps
    let progress := s.step (.call name subject args)
    let receiver := Subject.receiver subject
    (ledger.origins.get? name = none → progress = s.stay (.unknownName name)) ∧
      (∀ e, ledger.origins.get? name = some e →
        let asked := e.gate.source.answer .method receiver args s.world
        let question := Act.asked e.gate.source.name .method receiver args
        (∃ before latest after, ledger.ServedBy e.registry e.key asked.1 before latest after ∧
            let performed := latest.task.perform receiver args asked.2
            progress.reply = .result performed.1 ∧ progress.session.world = performed.2 ∧
              progress.acts.filter Act.isCall =
                [question, .ran latest.task.label receiver args]) ∨
          ((∀ other ∈ ledger.enrolments, other.registry = e.registry → other.key = e.key →
              other.gate.criteria.acceptsText asked.1 = false) ∧
            progress.reply = .refused (.unsupported e.key.path asked.1) ∧
            progress.session.world = asked.2 ∧
            progress.acts.filter Act.isCall = [question])) ∧
      ∀ key, progress.reply ≠ .refused (.unregistered key) := by
  intro s ledger progress receiver
  have hkeeps : s.Keeps ledger := keeps_after world steps hsteps
  refine ⟨?_, ?_, ?_⟩
  · intro hnone
    exact hkeeps.call_of_no_origin hnone subject args
  · intro e he asked question
    rcases ledger.servedBy_or_rejected e.registry e.key asked.1 with
      ⟨before, latest, after, hserved⟩ | hrejected
    · exact .inl ⟨before, latest, after, hserved, hkeeps.call_of_servedBy he subject args hserved⟩
    · exact .inr ⟨hrejected, hkeeps.call_of_rejected he subject args hrejected⟩
  · intro key
    exact hkeeps.reply_ne_unregistered name subject args key

/-- A dispatcher made through one gate is led to a body registered later through another. -/
theorem call_after_later_gate :
    let fromArgs (name : String) : VersionSource Nat (Subject String) String :=
      ⟨name, fun _ _ args world => (some args, world + 1)⟩
    let body (label : String) : Task Nat String String String :=
      ⟨label, fun _ args world => (label ++ " " ++ args, world + 10)⟩
    let key : DispatchKey := ⟨"api", "list"⟩
    let steps : List (Step Nat String String String) :=
      [.makeGate "low" "<2" (fromArgs "low"), .makeGate "high" ">2" (fromArgs "high"),
        .register "first" "low" key "main" (body "old") none,
        .register "second" "high" key "main" (body "new") none]
    let progress := ((start 0).after steps).step (.call "first" "client" "3")
    (∀ step ∈ steps, step.OffersNothing) ∧ progress.reply = .result "new 3" ∧
      progress.session.world = 11 ∧
      progress.acts.filter Act.isCall =
        [.asked "low" .method (.receiver "client") "3", .ran "new" (.receiver "client") "3"] := by
  intro fromArgs body key steps progress
  have hsteps : ∀ step ∈ steps, step.OffersNothing := by simp [steps, Step.OffersNothing]
  let below : Criteria := ⟨.less, Version.parse "2", none, rfl, by decide⟩
  let above : Criteria := ⟨.greater, Version.parse "2", none, rfl, by decide⟩
  let first : Enrolment Nat String String String :=
    ⟨⟨below, fromArgs "low"⟩, "main", key, body "old"⟩
  let second : Enrolment Nat String String String :=
    ⟨⟨above, fromArgs "high"⟩, "main", key, body "new"⟩
  have horigin : (Ledger.ofSteps steps).origins.get? "first" = some first := rfl
  have henrolments : (Ledger.ofSteps steps).enrolments = [first, second] := rfl
  have hsecond : above.acceptsText (some "3") = true := by decide
  rcases (call_after 0 steps hsteps "first" "client" "3").2.1 first horigin with
    ⟨before, latest, after, hserved, hanswer⟩ | ⟨hrejected, -⟩
  · have hmem : latest ∈ [first, second] := by
      rw [← henrolments, hserved.split]
      exact List.mem_append_cons_self
    have hlatest : latest = second := by
      rcases List.mem_cons.mp hmem with rfl | hmem
      · exact absurd hserved.accepts (by decide)
      · exact List.mem_singleton.mp hmem
    subst hlatest
    exact ⟨hsteps, hanswer⟩
  · have hlast := hrejected second (by simp [henrolments]) rfl rfl
    exact absurd (hsecond.symm.trans hlast) (by decide)

end VersionDispatch.Session
