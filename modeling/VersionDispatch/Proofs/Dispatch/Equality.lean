import Mathlib.Data.List.Forall2
import VersionDispatch.Proofs.Criteria.Comparison
import VersionDispatch.Proofs.Dispatch.Log

namespace VersionDispatch

variable {ι : Type}

/-- One implementation under criteria that are equal but may be written differently. -/
structure Candidate.Alike (candidate candidate' : Candidate ι) : Prop where
  criteria_beq : (candidate.criteria == candidate'.criteria) = true
  implementation_eq : candidate.implementation = candidate'.implementation

structure Registration.Alike (offer offer' : Registration ι) : Prop where
  key_eq : offer.key = offer'.key
  criteria_beq : (offer.criteria == offer'.criteria) = true
  implementation_eq : offer.implementation = offer'.implementation

theorem Registration.Alike.candidate {offer offer' : Registration ι} (h : offer.Alike offer') :
    offer.candidate.Alike offer'.candidate :=
  ⟨h.criteria_beq, h.implementation_eq⟩

private theorem Candidate.Alike.accepts_eq {candidate candidate' : Candidate ι}
    (h : candidate.Alike candidate') {version version' : Option Version}
    (hversion : (version == version') = true) :
    candidate.accepts version = candidate'.accepts version' :=
  Criteria.accepts_congr h.criteria_beq hversion

private theorem offered_alike {log log' : List (Registration ι)}
    (h : List.Forall₂ Registration.Alike log log') (key : DispatchKey) :
    List.Forall₂ Candidate.Alike (offered log key) (offered log' key) := by
  induction h with
  | nil => exact .nil
  | @cons offer offer' log log' halike _ ih =>
      by_cases hkey : offer.key = key
      · subst hkey
        rw [offered_cons_self]
        rw [halike.key_eq] at ih ⊢
        rw [offered_cons_self]
        exact .cons halike.candidate ih
      · have hkey' : offer'.key ≠ key := fun hk => hkey (halike.key_eq.trans hk)
        rw [offered_cons_of_ne offer log key hkey, offered_cons_of_ne offer' log' key hkey']
        exact ih

/-- The search as a recursion: what is found further on goes before the first candidate. -/
theorem lastAccepting?_cons (candidate : Candidate ι) (candidates : List (Candidate ι))
    (version : Option Version) :
    lastAccepting? (candidate :: candidates) version =
      ((lastAccepting? candidates version).map fun (index, found) => (index + 1, found)).or
        (if candidate.accepts version then some (0, candidate) else none) := by
  induction candidates using List.reverseRecOn with
  | nil => exact lastAccepting?_concat [] candidate version
  | append_singleton candidates last ih =>
      rw [← List.cons_append, lastAccepting?_concat, lastAccepting?_concat, ih]
      by_cases hlast : last.accepts version = true
      · simp only [hlast, if_true, List.length_cons, Option.map_some, Option.some_or]
      · simp only [hlast, if_false, Bool.false_eq_true]

private theorem lastAccepting?_alike {candidates candidates' : List (Candidate ι)}
    (h : List.Forall₂ Candidate.Alike candidates candidates') {version version' : Option Version}
    (hversion : (version == version') = true) :
    Option.Rel (fun found found' => found.1 = found'.1 ∧ found.2.Alike found'.2)
      (lastAccepting? candidates version) (lastAccepting? candidates' version') := by
  induction h with
  | nil => exact .none
  | @cons candidate candidate' candidates candidates' halike _ ih =>
      rw [lastAccepting?_cons, lastAccepting?_cons, halike.accepts_eq hversion]
      generalize lastAccepting? candidates version = later,
        lastAccepting? candidates' version' = later' at ih
      cases ih with
      | some hfound => exact .some ⟨congrArg (· + 1) hfound.1, hfound.2⟩
      | none =>
          cases candidate'.accepts version' with
          | true => exact .some ⟨rfl, halike⟩
          | false => exact .none

namespace Registry

/-- Two runs of offers that differ only in how equal criteria are written, and two spellings of one
version, come to the same implementation or fail for the same reason. -/
theorem resolve_congr (log log' : List (Registration ι))
    (hlogs : List.Forall₂ Registration.Alike log log') (key : DispatchKey) (v v' : String)
    (hversion : (Version.parse v == Version.parse v') = true) :
    let r := empty.registerAll log
    let r' := empty.registerAll log'
    (∃ implementation, r.resolve key (some v) = .ok implementation ∧
        r'.resolve key (some v') = .ok implementation) ∨
      (r.resolve key (some v) = .error (.unregistered key) ∧
        r'.resolve key (some v') = .error (.unregistered key)) ∨
      (r.resolve key (some v) = .error (.unsupported key.path (some v)) ∧
        r'.resolve key (some v') = .error (.unsupported key.path (some v'))) := by
  intro r r'
  have hoffered := offered_alike hlogs key
  have hempty : offered log key = [] ↔ offered log' key = [] := by
    rw [← List.length_eq_zero_iff, hoffered.length_eq, List.length_eq_zero_iff]
  have hlast : Option.Rel (fun found found' => found.1 = found'.1 ∧ found.2.Alike found'.2)
      (lastAccepting? (offered log key) (some (Version.parse v)))
      (lastAccepting? (offered log' key) (some (Version.parse v'))) :=
    lastAccepting?_alike hoffered hversion
  rw [resolve, resolve, (reflects_registerAll log).choose_eq, (reflects_registerAll log').choose_eq]
  by_cases hnone : offered log key = []
  · rw [if_pos hnone, if_pos (hempty.mp hnone)]
    exact .inr (.inl ⟨rfl, rfl⟩)
  · rw [if_neg hnone, if_neg (mt hempty.mpr hnone)]
    simp only [Option.map_some]
    generalize lastAccepting? (offered log key) (some (Version.parse v)) = found,
      lastAccepting? (offered log' key) (some (Version.parse v')) = found' at hlast
    cases hlast with
    | some hfound => exact .inl ⟨_, rfl, congrArg Except.ok hfound.2.implementation_eq.symm⟩
    | none => exact .inr (.inr ⟨rfl, rfl⟩)

theorem resolve_congr_respelled :
    let key : DispatchKey := ⟨"storage", "create"⟩
    let log : List (Registration Nat) :=
      [⟨key, ⟨.equal, Version.parse "1.0", none, rfl, by decide⟩, 10⟩,
        ⟨key, ⟨.between, Version.parse "2", some (Version.parse "3"), rfl, by decide⟩, 20⟩]
    let log' : List (Registration Nat) :=
      [⟨key, ⟨.equal, Version.parse " 1.0.0", none, rfl, by decide⟩, 10⟩,
        ⟨key, ⟨.between, Version.parse "2.0 ", some (Version.parse " 03"), rfl, by decide⟩, 20⟩]
    List.Forall₂ Registration.Alike log log' ∧
      (Version.parse "1" == Version.parse " 01.0") = true ∧
      (empty.registerAll log').resolve key (some " 01.0") = .ok 10 := by
  intro key log log'
  have hlogs : List.Forall₂ Registration.Alike log log' :=
    .cons ⟨rfl, by decide, rfl⟩ (.cons ⟨rfl, by decide, rfl⟩ .nil)
  have hversion : (Version.parse "1" == Version.parse " 01.0") = true := by decide
  have hplain : (empty.registerAll log).resolve key (some "1") = .ok 10 := by decide
  refine ⟨hlogs, hversion, ?_⟩
  rcases resolve_congr log log' hlogs key "1" " 01.0" hversion with
    ⟨implementation, hfirst, hsecond⟩ | ⟨hfirst, -⟩ | ⟨hfirst, -⟩
  · exact hsecond.trans (hfirst.symm.trans hplain)
  · exact absurd (hfirst.symm.trans hplain) (by simp)
  · exact absurd (hfirst.symm.trans hplain) (by simp)

end Registry

end VersionDispatch
