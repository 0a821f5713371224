import VersionDispatch.Proofs.Gate.Dispatcher
import VersionDispatch.Proofs.Gate.TypeGate

/-!
# Checks and calls

A gate tests its own criteria on a version as it is written; a dispatcher has the version looked up
in a registry, which reads it once and goes through the criteria of all gates from the last one
back. Both come to one end: what a call runs is the body behind the last gate that lets the call
through, and if no gate does, then the call is refused in the words of the gates.
-/

namespace VersionDispatch

variable {σ S A R : Type}

/-- What the source answers to a question does not change with the world. -/
def VersionSource.IsSteady (source : VersionSource σ S A) : Prop :=
  ∀ kind subject args world world',
    (source.answer kind subject args world).1 = (source.answer kind subject args world').1

/-- A body and the gate that it is registered through. -/
structure GatedBody (σ S A R : Type) where
  gate : Gate σ S A
  body : Body σ S A R

namespace GatedBody

def offer (g : GatedBody σ S A R) (key : DispatchKey) : Registration (Body σ S A R) :=
  g.gate.offer key g.body

/-- Does the gate accept the version? -/
def accepts (g : GatedBody σ S A R) (version : Option String) : Bool :=
  g.gate.criteria.acceptsText version

theorem resolve_of_last_accepting {gated : List (GatedBody σ S A R)} (key : DispatchKey)
    {version : Option String} {i : Nat} (hi : i < gated.length)
    (haccepts : gated[i].accepts version = true)
    (hrejected : ∀ j, ∀ hj : j < gated.length, i < j → gated[j].accepts version = false) :
    (Registry.empty.registerAll (gated.map (·.offer key))).resolve key version =
      .ok gated[i].body := by
  have hlog : i < (gated.map (·.offer key)).length := by rwa [List.length_map]
  have hoffer : (gated.map (·.offer key))[i] = gated[i].offer key := List.getElem_map _
  have hlatest := isLatest_of_getElem (gated.map (·.offer key)) key version hlog
    (by rw [hoffer]; rfl) (by rw [hoffer]; exact haccepts)
    (by
      intro j hj hlater _
      rw [List.getElem_map]
      exact hrejected j (by rwa [List.length_map] at hj) hlater)
  rw [(Registry.reflects_registerAll _).resolve_eq_latest hlatest, hoffer]
  rfl

private theorem resolve_of_none_accepting {gated : List (GatedBody σ S A R)} (key : DispatchKey)
    {version : Option String} (hne : gated ≠ [])
    (hrejected : ∀ g ∈ gated, g.accepts version = false) :
    (Registry.empty.registerAll (gated.map (·.offer key))).resolve key version =
      .error (.unsupported key.path version) := by
  have hknown : offered (gated.map (·.offer key)) key ≠ [] := by
    obtain ⟨g, rest, rfl⟩ := List.exists_cons_of_ne_nil hne
    exact (Registry.offered_ne_nil_iff _ _).mpr ⟨g.offer key, by simp, rfl⟩
  apply (Registry.reflects_registerAll _).resolve_eq_unsupported hknown
  intro offer hoffer _
  obtain ⟨g, hg, rfl⟩ := List.mem_map.mp hoffer
  exact hrejected g hg

end GatedBody

/-- Bodies registered one after the other under one key of a new registry, through gates that share
a steady source: whichever of their dispatchers is called gives the result of the body behind the
last gate whose check passes, and if none does, the refusal that every check gives. The checks may
be made in any worlds. -/
theorem call_eq_last_passing_check (source : VersionSource σ S A) (hsteady : source.IsSteady)
    (gated : List (GatedBody σ S A R)) (hshared : ∀ g ∈ gated, g.gate.source = source)
    (key : DispatchKey) (name : String) (subject : S) (args : A) (world : σ)
    (checkWorld : Nat → σ) :
    let registry := Registry.empty.registerAll (gated.map (·.offer key))
    let asked := source.answer .method subject args world
    let check (i : Nat) (hi : i < gated.length) : Except Refusal Unit :=
      (gated[i].gate.check .method key.path subject args (checkWorld i)).value
    ∀ g ∈ gated,
      let called := ((g.gate.dispatcher name key).call registry subject args world).value
      (∃ i, ∃ hi : i < gated.length, check i hi = .ok () ∧
          (∀ j, ∀ hj : j < gated.length, i < j → check j hj ≠ .ok ()) ∧
          called = .ok (gated[i].body.perform subject args asked.2).1) ∨
        ∃ e, (∀ i, ∀ hi : i < gated.length, check i hi = .error e) ∧ called = .error e := by
  intro registry asked check g hg called
  have hcheck (i : Nat) (hi : i < gated.length) :
      check i hi =
        if gated[i].accepts asked.1 then .ok () else .error (.unsupported key.path asked.1) := by
    have hanswer :
        (gated[i].gate.source.answer .method subject args (checkWorld i)).1 = asked.1 := by
      rw [hshared _ (List.getElem_mem hi)]
      exact hsteady .method subject args (checkWorld i) world
    simp only [check, Gate.value_check, hanswer]
    rfl
  have hcalled : called = (registry.resolve key asked.1).map fun body =>
      (body.perform subject args asked.2).1 := by
    have hvalue := (g.gate.dispatcher name key).value_call registry subject args world
    rwa [show (g.gate.dispatcher name key).source = source from hshared g hg] at hvalue
  by_cases hpasses : ∃ g ∈ gated, g.accepts asked.1 = true
  · obtain ⟨i, hi, haccepts, hlast⟩ := exists_last_index _ gated hpasses
    refine .inl ⟨i, hi, ?_, ?_, ?_⟩
    · rw [hcheck, if_pos haccepts]
    · intro j hj hlater
      rw [hcheck, if_neg (hlast j hj hlater)]
      exact fun h => nomatch h
    · have hresolve := GatedBody.resolve_of_last_accepting key hi haccepts fun j hj hlater =>
        Bool.eq_false_iff.mpr (hlast j hj hlater)
      rw [hcalled, hresolve]
      rfl
  · have hrejected : ∀ g ∈ gated, g.accepts asked.1 = false := by
      intro g hg
      exact Bool.eq_false_iff.mpr fun h => hpasses ⟨g, hg, h⟩
    refine .inr ⟨.unsupported key.path asked.1, ?_, ?_⟩
    · intro i hi
      rw [hcheck, hrejected _ (List.getElem_mem hi)]
      rfl
    · have hresolve := GatedBody.resolve_of_none_accepting key (List.ne_nil_of_mem hg) hrejected
      rw [hcalled, hresolve]
      rfl

/-- For `3` two of three gates let the call through, and the later of them is not the one that was
registered last; for `5 ` none does. The source counts how often it is asked. -/
theorem call_eq_last_passing_check_overlapping :
    let source : VersionSource Nat String String :=
      ⟨"subject", fun _ subject _ world => (some subject, world + 1)⟩
    let gated (label : String) (criteria : Criteria) : GatedBody Nat String String String :=
      ⟨⟨criteria, source⟩, .mk label (fun _ args world => (label ++ args, world)) []⟩
    let bodies : List (GatedBody Nat String String String) :=
      [gated "old" ⟨.less, Version.parse "4", none, rfl, by decide⟩,
        gated "mid" ⟨.between, Version.parse "2", some (Version.parse "5"), rfl, by decide⟩,
        gated "new" ⟨.atLeast, Version.parse "6", none, rfl, by decide⟩]
    let key : DispatchKey := ⟨"api", "list"⟩
    let call (g : GatedBody Nat String String String) (subject : String) : Except Refusal String :=
      ((g.gate.dispatcher "main" key).call (Registry.empty.registerAll (bodies.map (·.offer key)))
        subject "!" 0).value
    source.IsSteady ∧ (∀ g ∈ bodies, g.gate.source = source) ∧
      ∀ g ∈ bodies, call g "3" = .ok "mid!" ∧
        call g "5 " = .error (.unsupported "api::list" (some "5 ")) := by
  intro source gated bodies key call
  have hsteady : source.IsSteady := fun _ _ _ _ _ => rfl
  have hshared : ∀ g ∈ bodies, g.gate.source = source := by simp [bodies, gated]
  let check (subject : String) (i : Nat) (hi : i < bodies.length) : Except Refusal Unit :=
    (bodies[i].gate.check .method key.path subject "!" i).value
  have hlaw (subject : String) :=
    call_eq_last_passing_check source hsteady bodies hshared key "main" subject "!" 0 id
  refine ⟨hsteady, hshared, fun g hg => ⟨?_, ?_⟩⟩
  · have hmid : check "3" 1 (by decide) = .ok () := by decide
    have hnew : check "3" 2 (by decide) ≠ .ok () := by decide
    rcases hlaw "3" g hg with ⟨i, hi, hpass, hlast, hcalled⟩ | ⟨e, hall, -⟩
    · obtain rfl : i = 1 := by
        rcases Nat.lt_trichotomy i 1 with hlt | heq | hgt
        · exact absurd hmid (hlast 1 (by decide) hlt)
        · exact heq
        · obtain rfl : i = 2 := Nat.le_antisymm (Nat.le_of_lt_succ hi) hgt
          exact absurd hpass hnew
      exact hcalled
    · exact nomatch hmid.symm.trans (hall 1 (by decide))
  · have hfails : ∀ i, ∀ hi : i < bodies.length,
        check "5 " i hi = .error (.unsupported "api::list" (some "5 ")) := by decide
    rcases hlaw "5 " g hg with ⟨i, hi, hpass, -⟩ | ⟨e, hall, hcalled⟩
    · exact nomatch (hfails i hi).symm.trans hpass
    · obtain rfl := Except.error.inj ((hfails 0 (by decide)).symm.trans (hall 0 (by decide)))
      exact hcalled

end VersionDispatch
