import VersionDispatch.Proofs.Criteria.Comparison
import VersionDispatch.Proofs.Dispatch.Log

namespace VersionDispatch.Registry

variable {ι : Type}

theorem Reflects.mem_candidates_iff {r : Registry ι} {log : List (Registration ι)}
    (h : r.Reflects log) (key : DispatchKey) (candidate : Candidate ι) :
    candidate ∈ r.candidates key ↔
      ∃ offer ∈ log, offer.key = key ∧ offer.candidate = candidate := by
  rw [h.candidates_eq, mem_offered]

/-- A key resolves for each version that one of its candidates accepts. -/
theorem Reflects.resolve_of_accepting {r : Registry ι} {log : List (Registration ι)}
    (h : r.Reflects log) {key : DispatchKey} {candidate : Candidate ι}
    (hmem : candidate ∈ r.candidates key) {version : Option String}
    (haccepts : candidate.criteria.acceptsText version = true) :
    ∃ chosen ∈ r.candidates key, chosen.criteria.acceptsText version = true ∧
      r.resolve key version = .ok chosen.implementation := by
  obtain ⟨offer, hoffer, hkey, rfl⟩ := (h.mem_candidates_iff key candidate).mp hmem
  obtain ⟨before, latest, after, hlatest⟩ :=
    exists_isLatest log key version ⟨offer, hoffer, hkey, haccepts⟩
  have hchosen : latest.candidate ∈ r.candidates key :=
    (h.mem_candidates_iff key _).mpr ⟨latest, hlatest.mem, hlatest.key_eq, rfl⟩
  exact ⟨latest.candidate, hchosen, hlatest.accepts, h.resolve_eq_latest hlatest⟩

/-- Of two expressions with opposite operators and equal bounds exactly one accepts a version. So a
key that has candidates under both resolves for every version and for an unknown one, whatever else
was offered. -/
theorem resolve_of_opposite (expr expr' : String) (c d : Criteria)
    (hc : Criteria.parse expr = .ok c) (hd : Criteria.parse expr' = .ok d)
    (hop : c.operator.Opposite d.operator) (hbound : (c.bound == d.bound) = true) :
    (∀ v : String, c.acceptsText (some v) = !d.acceptsText (some v)) ∧
      ∀ (ι : Type) (log : List (Registration ι)) (key : DispatchKey),
        let r := Registry.empty.registerAll log
        (∃ candidate ∈ r.candidates key, Criteria.parse expr = .ok candidate.criteria) →
        (∃ candidate ∈ r.candidates key, Criteria.parse expr' = .ok candidate.criteria) →
        ∀ version : Option String, ∃ chosen ∈ r.candidates key,
          chosen.criteria.acceptsText version = true ∧
            r.resolve key version = .ok chosen.implementation := by
  have hone (v : String) : c.acceptsText (some v) = !d.acceptsText (some v) :=
    Criteria.accepts_some_eq_not hop hbound (Version.parse v)
  refine ⟨hone, ?_⟩
  intro ι log key r ⟨first, hfirst, hexpr⟩ ⟨second, hsecond, hexpr'⟩ version
  obtain rfl : c = first.criteria := Except.ok.inj (hc.symm.trans hexpr)
  obtain rfl : d = second.criteria := Except.ok.inj (hd.symm.trans hexpr')
  have haccepts : first.criteria.acceptsText version = true ∨
      second.criteria.acceptsText version = true := by
    cases version with
    | none => exact .inl rfl
    | some v =>
        cases hsecond : second.criteria.acceptsText (some v) with
        | true => exact .inr rfl
        | false => exact .inl (by simp [hone v, hsecond])
  have hr : r.Reflects log := reflects_registerAll log
  rcases haccepts with haccepts | haccepts
  · exact hr.resolve_of_accepting hfirst haccepts
  · exact hr.resolve_of_accepting hsecond haccepts

theorem resolve_of_opposite_respelled :
    let below : Criteria := ⟨.less, Version.parse "2.0", none, rfl, by decide⟩
    let above : Criteria := ⟨.atLeast, Version.parse "02", none, rfl, by decide⟩
    let range : Criteria :=
      ⟨.between, Version.parse "2", some (Version.parse "3"), rfl, by decide⟩
    let key : DispatchKey := ⟨"storage", "create"⟩
    let log : List (Registration Nat) :=
      [⟨key, below, 10⟩, ⟨key, above, 20⟩, ⟨key, range, 30⟩]
    let r := Registry.empty.registerAll log
    Criteria.parse "<2.0" = .ok below ∧ Criteria.parse ">= 02" = .ok above ∧
      below.operator.Opposite above.operator ∧ (below.bound == above.bound) = true ∧
      (∀ v : String, below.acceptsText (some v) = !above.acceptsText (some v)) ∧
      ∀ version : Option String, ∃ chosen ∈ r.candidates key,
        chosen.criteria.acceptsText version = true ∧
          r.resolve key version = .ok chosen.implementation := by
  intro below above range key log r
  have hbelow : Criteria.parse "<2.0" = .ok below := by rfl
  have habove : Criteria.parse ">= 02" = .ok above := by rfl
  have hbound : (below.bound == above.bound) = true := by decide
  have hmem (offer : Registration Nat) (hoffer : offer ∈ log) (hkey : offer.key = key) :
      offer.candidate ∈ r.candidates key :=
    ((reflects_registerAll log).mem_candidates_iff key _).mpr ⟨offer, hoffer, hkey, rfl⟩
  obtain ⟨hone, hresolves⟩ :=
    resolve_of_opposite "<2.0" ">= 02" below above hbelow habove .less hbound
  refine ⟨hbelow, habove, .less, hbound, hone, ?_⟩
  apply hresolves Nat log key
  · exact ⟨_, hmem ⟨key, below, 10⟩ (by simp [log]) rfl, hbelow⟩
  · exact ⟨_, hmem ⟨key, above, 20⟩ (by simp [log]) rfl, habove⟩

end VersionDispatch.Registry
