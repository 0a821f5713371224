import Mathlib.Data.List.Induction
import VersionDispatch.Dispatch.Registry
import VersionDispatch.Proofs.Lists

/-!
# Registries and the log of offers

What a registry answers is a matter of the offers made to it, in the order in which they were made:
under each key it holds the offers under that key, and it knows no key without one. So resolving
a key finds the last offer of the log that is under the key and accepts the version.
-/

namespace VersionDispatch

variable {ι : Type}

def Registration.candidate (offer : Registration ι) : Candidate ι :=
  ⟨offer.criteria, offer.implementation⟩

private theorem accepts_candidate (offer : Registration ι) (version : Option String) :
    offer.candidate.accepts (version.map Version.parse) = offer.criteria.acceptsText version := rfl

/-- What a log offers under a key. -/
def offered (log : List (Registration ι)) (key : DispatchKey) : List (Candidate ι) :=
  (log.filter (·.key = key)).map Registration.candidate

private theorem offered_append (log more : List (Registration ι)) (key : DispatchKey) :
    offered (log ++ more) key = offered log key ++ offered more key := by
  simp only [offered, List.filter_append, List.map_append]

theorem offered_cons_self (offer : Registration ι) (log : List (Registration ι)) :
    offered (offer :: log) offer.key = offer.candidate :: offered log offer.key := by
  simp [offered]

theorem offered_cons_of_ne (offer : Registration ι) (log : List (Registration ι))
    (key : DispatchKey) (h : offer.key ≠ key) : offered (offer :: log) key = offered log key := by
  simp [offered, h]

theorem mem_offered (log : List (Registration ι)) (key : DispatchKey) (candidate : Candidate ι) :
    candidate ∈ offered log key ↔
      ∃ offer ∈ log, offer.key = key ∧ offer.candidate = candidate := by
  simp only [offered, List.mem_map, List.mem_filter, decide_eq_true_eq, and_assoc]

/-! ## The last candidate that accepts -/

theorem lastAccepting?_concat (candidates : List (Candidate ι)) (candidate : Candidate ι)
    (version : Option Version) :
    lastAccepting? (candidates ++ [candidate]) version =
      if candidate.accepts version then some (candidates.length, candidate)
      else lastAccepting? candidates version := by
  rw [lastAccepting?, List.zipIdx_append, List.reverse_append]
  cases h : candidate.accepts version <;> simp [h, lastAccepting?]

private theorem lastAccepting?_append_cons (before after : List (Candidate ι))
    (candidate : Candidate ι)
    (version : Option Version) (haccepts : candidate.accepts version = true)
    (hafter : ∀ later ∈ after, later.accepts version = false) :
    lastAccepting? (before ++ candidate :: after) version = some (before.length, candidate) := by
  induction after using List.reverseRecOn with
  | nil => rw [lastAccepting?_concat, if_pos haccepts]
  | append_singleton after later ih =>
      have hlater := hafter later (by simp)
      rw [← List.cons_append, ← List.append_assoc, lastAccepting?_concat, hlater]
      exact ih fun c hc => hafter c (by simp [hc])

private theorem lastAccepting?_eq_none (candidates : List (Candidate ι)) (version : Option Version)
    (h : ∀ candidate ∈ candidates, candidate.accepts version = false) :
    lastAccepting? candidates version = none := by
  induction candidates using List.reverseRecOn with
  | nil => rfl
  | append_singleton candidates candidate ih =>
      rw [lastAccepting?_concat, h candidate (by simp)]
      exact ih fun c hc => h c (by simp [hc])

/-! ## The last offer that accepts -/

/-- The offer is under the key and accepts the version, and no later one does. -/
structure IsLatest (log : List (Registration ι)) (key : DispatchKey) (version : Option String)
    (before : List (Registration ι)) (offer : Registration ι) (after : List (Registration ι)) :
    Prop where
  split : log = before ++ offer :: after
  key_eq : offer.key = key
  accepts : offer.criteria.acceptsText version = true
  rejected : ∀ later ∈ after, later.key = key → later.criteria.acceptsText version = false

theorem IsLatest.mem {log before after : List (Registration ι)} {offer : Registration ι}
    {key : DispatchKey} {version : Option String}
    (h : IsLatest log key version before offer after) : offer ∈ log := by
  rw [h.split]
  exact List.mem_append_cons_self

theorem isLatest_of_getElem (log : List (Registration ι)) (key : DispatchKey)
    (version : Option String) {i : Nat} (hi : i < log.length) (hkey : log[i].key = key)
    (haccepts : log[i].criteria.acceptsText version = true)
    (hrejected : ∀ j, ∀ hj : j < log.length, i < j → log[j].key = key →
      log[j].criteria.acceptsText version = false) :
    IsLatest log key version (log.take i) log[i] (log.drop (i + 1)) where
  split := by rw [List.getElem_cons_drop, List.take_append_drop]
  key_eq := hkey
  accepts := haccepts
  rejected := by
    intro later hlater
    obtain ⟨k, hk, rfl⟩ := List.mem_drop_iff_getElem.mp hlater
    exact hrejected (i + 1 + k) (by omega) (by omega)

theorem exists_isLatest (log : List (Registration ι)) (key : DispatchKey) (version : Option String)
    (h : ∃ offer ∈ log, offer.key = key ∧ offer.criteria.acceptsText version = true) :
    ∃ before offer after, IsLatest log key version before offer after := by
  obtain ⟨before, offer, after, hsplit, ⟨hkey, haccepts⟩, hafter⟩ :=
    exists_last_split
      (fun offer => offer.key = key ∧ offer.criteria.acceptsText version = true) log h
  refine ⟨before, offer, after, hsplit, hkey, haccepts, ?_⟩
  intro later hlater hlaterKey
  rw [Bool.eq_false_iff]
  exact fun hl => hafter later hlater ⟨hlaterKey, hl⟩

private theorem IsLatest.lastAccepting?_eq {log before after : List (Registration ι)}
    {offer : Registration ι} {key : DispatchKey} {version : Option String}
    (h : IsLatest log key version before offer after) :
    lastAccepting? (offered log key) (version.map Version.parse) =
      some ((offered before key).length, offer.candidate) := by
  obtain ⟨rfl, rfl, haccepts, hrejected⟩ := h
  rw [offered_append, offered_cons_self]
  apply lastAccepting?_append_cons
  · rw [accepts_candidate, haccepts]
  · intro candidate hcandidate
    obtain ⟨later, hlater, hkey, rfl⟩ := (mem_offered _ _ _).mp hcandidate
    rw [accepts_candidate, hrejected later hlater hkey]

private theorem lastAccepting?_offered_eq_none (log : List (Registration ι)) (key : DispatchKey)
    (version : Option String)
    (h : ∀ offer ∈ log, offer.key = key → offer.criteria.acceptsText version = false) :
    lastAccepting? (offered log key) (version.map Version.parse) = none := by
  apply lastAccepting?_eq_none
  intro candidate hcandidate
  obtain ⟨offer, hoffer, hkey, rfl⟩ := (mem_offered _ _ _).mp hcandidate
  rw [accepts_candidate, h offer hoffer hkey]

namespace Registry

/-- The registry holds what the log offers, and no key without an offer. -/
structure Reflects (r : Registry ι) (log : List (Registration ι)) : Prop where
  candidates_eq : ∀ key, r.candidates key = offered log key
  known : ∀ key, r.table.get? key ≠ some []

theorem reflects_empty : (empty : Registry ι).Reflects [] where
  candidates_eq _ := rfl
  known _ := by simp [empty]

private theorem candidates_register_self (r : Registry ι) (offer : Registration ι) :
    (r.register offer).candidates offer.key = r.candidates offer.key ++ [offer.candidate] := by
  simp [register, candidates, Registration.candidate]

private theorem get?_register_of_ne (r : Registry ι) (offer : Registration ι) (key : DispatchKey)
    (h : offer.key ≠ key) : (r.register offer).table.get? key = r.table.get? key :=
  Table.get?_alter_of_ne _ _ _ _ (Ne.symm h)

theorem Reflects.register {r : Registry ι} {log : List (Registration ι)} (h : r.Reflects log)
    (offer : Registration ι) : (r.register offer).Reflects (log ++ [offer]) where
  candidates_eq key := by
    rw [offered_append, ← h.candidates_eq]
    by_cases hkey : offer.key = key
    · subst hkey
      rw [candidates_register_self, offered_cons_self]
      rfl
    · rw [candidates, get?_register_of_ne r offer key hkey, offered_cons_of_ne offer [] key hkey]
      exact (List.append_nil _).symm
  known key := by
    by_cases hkey : offer.key = key
    · subst hkey
      simp [Registry.register]
    · rw [get?_register_of_ne r offer key hkey]
      exact h.known key

theorem Reflects.registerAll {r : Registry ι} {log : List (Registration ι)} (h : r.Reflects log)
    (offers : List (Registration ι)) : (r.registerAll offers).Reflects (log ++ offers) := by
  induction offers generalizing r log with
  | nil => simpa [Registry.registerAll] using h
  | cons offer offers ih =>
      have hstep := ih (h.register offer)
      rw [List.append_assoc] at hstep
      exact hstep

theorem reflects_registerAll (log : List (Registration ι)) :
    (empty.registerAll log).Reflects log := by
  simpa using reflects_empty.registerAll log

theorem Reflects.get?_eq_none {r : Registry ι} {log : List (Registration ι)} (h : r.Reflects log)
    {key : DispatchKey} (hnone : offered log key = []) : r.table.get? key = none := by
  have hcandidates := h.candidates_eq key
  rw [hnone, candidates] at hcandidates
  cases hget : r.table.get? key with
  | none => rfl
  | some candidates =>
      rw [hget] at hcandidates
      exact absurd (hget.trans (congrArg some hcandidates)) (h.known key)

theorem Reflects.get?_eq_some {r : Registry ι} {log : List (Registration ι)} (h : r.Reflects log)
    {key : DispatchKey} (hsome : offered log key ≠ []) :
    r.table.get? key = some (offered log key) := by
  have hcandidates := h.candidates_eq key
  rw [candidates] at hcandidates
  cases hget : r.table.get? key with
  | none =>
      rw [hget] at hcandidates
      exact absurd hcandidates.symm hsome
  | some candidates =>
      rw [hget] at hcandidates
      exact congrArg some hcandidates

theorem Reflects.criteria_eq {r : Registry ι} {log : List (Registration ι)} (h : r.Reflects log)
    (key : DispatchKey) :
    r.criteria key = (log.filter (·.key = key)).map Registration.criteria := by
  rw [criteria, h.candidates_eq, offered, List.map_map]
  rfl

/-- What is chosen in terms of the log alone. -/
theorem Reflects.choose_eq {r : Registry ι} {log : List (Registration ι)} (h : r.Reflects log)
    (key : DispatchKey) (version : Option String) :
    r.choose key version =
      if offered log key = [] then .error (.unregistered key)
      else (lastAccepting? (offered log key) (version.map Version.parse)).elim
        (.error (.unsupported key.path version)) .ok := by
  by_cases hnone : offered log key = []
  · rw [if_pos hnone, choose, h.get?_eq_none hnone]
  · rw [if_neg hnone, choose, h.get?_eq_some hnone]
    cases hlast : lastAccepting? (offered log key) (version.map Version.parse) <;>
      simp only [hlast, Option.elim]

private theorem Reflects.choose_eq_unregistered {r : Registry ι} {log : List (Registration ι)}
    (h : r.Reflects log) {key : DispatchKey} (hnone : offered log key = [])
    (version : Option String) : r.choose key version = .error (.unregistered key) := by
  rw [choose, h.get?_eq_none hnone]

private theorem Reflects.choose_eq_unsupported {r : Registry ι} {log : List (Registration ι)}
    (h : r.Reflects log) {key : DispatchKey} (hsome : offered log key ≠ [])
    (version : Option String)
    (hnone : ∀ offer ∈ log, offer.key = key → offer.criteria.acceptsText version = false) :
    r.choose key version = .error (.unsupported key.path version) := by
  rw [choose, h.get?_eq_some hsome]
  simp only [lastAccepting?_offered_eq_none log key version hnone]

private theorem Reflects.choose_eq_latest {r : Registry ι}
    {log before after : List (Registration ι)}
    (h : r.Reflects log) {offer : Registration ι} {key : DispatchKey} {version : Option String}
    (hlatest : IsLatest log key version before offer after) :
    r.choose key version = .ok ((offered before key).length, offer.candidate) := by
  have hsome : offered log key ≠ [] := by
    have hmem : offer.candidate ∈ offered log key :=
      (mem_offered _ _ _).mpr ⟨offer, hlatest.mem, hlatest.key_eq, rfl⟩
    exact List.ne_nil_of_mem hmem
  rw [choose, h.get?_eq_some hsome]
  simp only [hlatest.lastAccepting?_eq]

theorem Reflects.resolve_eq_unregistered {r : Registry ι} {log : List (Registration ι)}
    (h : r.Reflects log) {key : DispatchKey} (hnone : offered log key = [])
    (version : Option String) : r.resolve key version = .error (.unregistered key) := by
  rw [resolve, h.choose_eq_unregistered hnone]
  rfl

theorem Reflects.resolve_eq_unsupported {r : Registry ι} {log : List (Registration ι)}
    (h : r.Reflects log) {key : DispatchKey} (hsome : offered log key ≠ [])
    (version : Option String)
    (hnone : ∀ offer ∈ log, offer.key = key → offer.criteria.acceptsText version = false) :
    r.resolve key version = .error (.unsupported key.path version) := by
  rw [resolve, h.choose_eq_unsupported hsome version hnone]
  rfl

theorem Reflects.resolve_eq_latest {r : Registry ι} {log before after : List (Registration ι)}
    (h : r.Reflects log) {offer : Registration ι} {key : DispatchKey} {version : Option String}
    (hlatest : IsLatest log key version before offer after) :
    r.resolve key version = .ok offer.implementation := by
  rw [resolve, h.choose_eq_latest hlatest]
  rfl

theorem Reflects.resolve_cases {r : Registry ι} {log : List (Registration ι)} (h : r.Reflects log)
    (key : DispatchKey) (version : Option String) :
    (offered log key = [] ∧ r.resolve key version = .error (.unregistered key)) ∨
      (∃ before offer after, IsLatest log key version before offer after ∧
        r.resolve key version = .ok offer.implementation) ∨
      (offered log key ≠ [] ∧
        (∀ offer ∈ log, offer.key = key → offer.criteria.acceptsText version = false) ∧
        r.resolve key version = .error (.unsupported key.path version)) := by
  by_cases hknown : offered log key = []
  · exact .inl ⟨hknown, h.resolve_eq_unregistered hknown version⟩
  by_cases haccepted : ∃ offer ∈ log, offer.key = key ∧ offer.criteria.acceptsText version = true
  · obtain ⟨before, offer, after, hlatest⟩ := exists_isLatest log key version haccepted
    exact .inr (.inl ⟨before, offer, after, hlatest, h.resolve_eq_latest hlatest⟩)
  · have hrejected : ∀ offer ∈ log, offer.key = key →
        offer.criteria.acceptsText version = false := by
      intro offer hoffer hkey
      rw [Bool.eq_false_iff]
      exact fun hl => haccepted ⟨offer, hoffer, hkey, hl⟩
    exact .inr (.inr ⟨hknown, hrejected, h.resolve_eq_unsupported hknown version hrejected⟩)

theorem offered_ne_nil_iff (log : List (Registration ι)) (key : DispatchKey) :
    offered log key ≠ [] ↔ ∃ offer ∈ log, offer.key = key := by
  simp [offered]

/-- Resolving a key after any run of offers: a key without an offer is not registered; else the
last offer under it that accepts the version is chosen, and its position reported, if there is
one; else the version is not supported. -/
theorem resolve_registerAll (log : List (Registration ι)) (key : DispatchKey)
    (version : Option String) :
    let r := empty.registerAll log
    ((∀ offer ∈ log, offer.key ≠ key) → r.resolve key version = .error (.unregistered key)) ∧
      ((∃ offer ∈ log, offer.key = key ∧ offer.criteria.acceptsText version = true) →
        ∃ before offer after, IsLatest log key version before offer after ∧
          r.resolve key version = .ok offer.implementation ∧
          r.resolved key version =
            [{ level := .debug
               target := target
               message := "Resolved " ++ key.path ++ " for version " ++ showVersion version ++
                 " to candidate #" ++ toString (before.filter (·.key = key)).length ++ " (" ++
                 offer.criteria.text ++ ")" }]) ∧
      ((∃ offer ∈ log, offer.key = key) →
        (∀ offer ∈ log, offer.key = key → offer.criteria.acceptsText version = false) →
        r.resolve key version = .error (.unsupported key.path version)) := by
  intro r
  have hr : r.Reflects log := reflects_registerAll log
  refine ⟨?_, ?_, ?_⟩
  · intro hunknown
    have hnone : offered log key = [] := by
      by_contra hne
      obtain ⟨offer, hoffer, hkey⟩ := (offered_ne_nil_iff log key).mp hne
      exact hunknown offer hoffer hkey
    rw [resolve, hr.choose_eq_unregistered hnone]
    rfl
  · intro haccepted
    obtain ⟨before, offer, after, hlatest⟩ := exists_isLatest log key version haccepted
    have hchoose := hr.choose_eq_latest hlatest
    refine ⟨before, offer, after, hlatest, ?_, ?_⟩
    · rw [resolve, hchoose]
      rfl
    · rw [resolved, hchoose, offered, List.length_map]
      rfl
  · intro hknown hrejected
    rw [resolve, hr.choose_eq_unsupported ((offered_ne_nil_iff log key).mpr hknown) version
      hrejected]
    rfl

/-- Two keys with one path, and criteria that overlap. -/
theorem resolve_registerAll_shared_path :
    let key : DispatchKey := ⟨"storage", "create"⟩
    let lookalike : DispatchKey := ⟨"", "storage::create"⟩
    let atLeastOne : Criteria := ⟨.atLeast, Version.parse "1", none, rfl, by decide⟩
    let atLeastTwo : Criteria := ⟨.atLeast, Version.parse "2", none, rfl, by decide⟩
    let log : List (Registration Nat) :=
      [⟨key, atLeastOne, 10⟩, ⟨lookalike, atLeastOne, 20⟩, ⟨key, atLeastTwo, 30⟩]
    (∃ offer ∈ log, offer.key = key ∧ offer.criteria.acceptsText (some "1.5") = true) ∧
      (∃ before offer after, IsLatest log key (some "1.5") before offer after ∧
        (empty.registerAll log).resolve key (some "1.5") = .ok offer.implementation) ∧
      (empty.registerAll log).resolve ⟨"", "create"⟩ none = .error (.unregistered ⟨"", "create"⟩) ∧
      (empty.registerAll log).resolve key (some "0.9") =
        .error (.unsupported key.path (some "0.9")) := by
  intro key lookalike atLeastOne atLeastTwo log
  have haccepted :
      ∃ offer ∈ log, offer.key = key ∧ offer.criteria.acceptsText (some "1.5") = true :=
    ⟨⟨key, atLeastOne, 10⟩, by simp [log], rfl, by decide⟩
  obtain ⟨before, offer, after, hlatest, hresolve, -⟩ :=
    (resolve_registerAll log key (some "1.5")).2.1 haccepted
  refine ⟨haccepted, ⟨before, offer, after, hlatest, hresolve⟩, ?_, ?_⟩
  · exact (resolve_registerAll log ⟨"", "create"⟩ none).1 (by simp [log, key, lookalike])
  · apply (resolve_registerAll log key (some "0.9")).2.2
    · exact ⟨⟨key, atLeastOne, 10⟩, by simp [log], rfl⟩
    · simp only [log, List.mem_cons, List.not_mem_nil, or_false]
      rintro _ (rfl | rfl | rfl) _ <;> decide

end Registry

end VersionDispatch
