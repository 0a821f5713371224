import Mathlib.Algebra.BigOperators.Group.List.Lemmas
import Mathlib.Algebra.GroupWithZero.Nat
import VersionDispatch.Proofs.Dispatch.Log

namespace VersionDispatch

variable {ι : Type}

/-- The list holds the elements of another one in the order in which each comes first. -/
structure FirstOccurrences {α : Type} [DecidableEq α] (firsts all : List α) : Prop where
  mem_iff : ∀ x, x ∈ firsts ↔ x ∈ all
  ordered : firsts.Pairwise fun x y => all.idxOf x < all.idxOf y

namespace FirstOccurrences

variable {α : Type} [DecidableEq α] {firsts all : List α}

theorem nodup (h : FirstOccurrences firsts all) : firsts.Nodup :=
  h.ordered.imp fun hlt => fun heq => Nat.ne_of_lt hlt (congrArg all.idxOf heq)

theorem nil : FirstOccurrences ([] : List α) [] := ⟨fun _ => Iff.rfl, .nil⟩

theorem concat (h : FirstOccurrences firsts all) (x : α) :
    FirstOccurrences (if x ∈ firsts then firsts else firsts ++ [x]) (all ++ [x]) := by
  -- The places of earlier elements are not moved by one more at the end.
  have hplace {y : α} (hy : y ∈ firsts) : (all ++ [x]).idxOf y = all.idxOf y :=
    List.idxOf_append_of_mem ((h.mem_iff y).mp hy)
  have hordered : firsts.Pairwise fun y z => (all ++ [x]).idxOf y < (all ++ [x]).idxOf z := by
    refine h.ordered.imp_of_mem fun hy hz hlt => ?_
    rwa [hplace hy, hplace hz]
  by_cases hx : x ∈ firsts
  · rw [if_pos hx]
    refine ⟨fun y => ?_, hordered⟩
    rw [List.mem_append, List.mem_singleton, h.mem_iff y]
    exact ⟨.inl, fun hy => hy.elim id fun hyx => hyx ▸ (h.mem_iff x).mp hx⟩
  · rw [if_neg hx]
    refine ⟨fun y => ?_, List.pairwise_append.mpr ⟨hordered, List.pairwise_singleton _ x, ?_⟩⟩
    · rw [List.mem_append, List.mem_append, h.mem_iff y]
    · intro y hy z hz
      obtain rfl : z = x := List.mem_singleton.mp hz
      rw [hplace hy, List.idxOf_append_of_notMem (mt (h.mem_iff z).mpr hx)]
      exact Nat.lt_add_right _ (List.idxOf_lt_length_of_mem ((h.mem_iff y).mp hy))

private theorem perm_dedup (h : FirstOccurrences firsts all) : firsts.Perm all.dedup :=
  (List.perm_ext_iff_of_nodup h.nodup all.nodup_dedup).mpr fun x =>
    (h.mem_iff x).trans List.mem_dedup.symm

/-- Every element of the list counts towards one of the first occurrences. -/
theorem sum_count (h : FirstOccurrences firsts all) :
    (firsts.map fun x => all.count x).sum = all.length := by
  rw [(h.perm_dedup.map _).sum_eq, List.sum_map_count_dedup_eq_length]

end FirstOccurrences

private theorem length_offered (log : List (Registration ι)) (key : DispatchKey) :
    (offered log key).length = (log.map Registration.key).count key := by
  rw [offered, List.length_map, List.count, List.countP_map, List.countP_eq_length_filter]
  rfl

namespace Registry

theorem keys_register (r : Registry ι) (offer : Registration ι) :
    (r.register offer).keys = if offer.key ∈ r.keys then r.keys else r.keys ++ [offer.key] :=
  r.table.keys_alter offer.key _

/-- The keys are those of the offers, in the order in which each was first offered under. -/
theorem keys_registerAll (log : List (Registration ι)) :
    FirstOccurrences (empty.registerAll log).keys (log.map Registration.key) := by
  induction log using List.reverseRecOn with
  | nil => exact .nil
  | append_singleton log offer ih =>
      have hstep := ih.concat offer.key
      rw [← keys_register] at hstep
      rw [registerAll, List.foldl_append, List.map_append]
      exact hstep

/-- After any run of offers: the keys are those of the log, each once and in the order in which they
came first; under each key there are the criteria offered under it, in order and all of them, which
are none just for the keys that the log does not have; and no offer is missing from the count. -/
theorem inventory_registerAll (log : List (Registration ι)) :
    let r := empty.registerAll log
    let offerKeys := log.map Registration.key
    (r.keys.Nodup ∧ (∀ key, key ∈ r.keys ↔ key ∈ offerKeys) ∧
        r.keys.Pairwise fun earlier later =>
          offerKeys.idxOf earlier < offerKeys.idxOf later) ∧
      (∀ key, r.criteria key = (log.filter (·.key = key)).map Registration.criteria ∧
        (r.candidates key).length = (r.criteria key).length ∧
        ((r.candidates key).length = 0 ↔ key ∉ offerKeys)) ∧
      (r.keys.map fun key => (r.candidates key).length).sum = log.length := by
  intro r offerKeys
  have hkeys : FirstOccurrences r.keys offerKeys := keys_registerAll log
  have hcandidates (key : DispatchKey) : r.candidates key = offered log key :=
    (reflects_registerAll log).candidates_eq key
  have hcount (key : DispatchKey) : (r.candidates key).length = offerKeys.count key := by
    rw [hcandidates, length_offered]
  refine ⟨⟨hkeys.nodup, hkeys.mem_iff, hkeys.ordered⟩, fun key => ⟨?_, ?_, ?_⟩, ?_⟩
  · exact (reflects_registerAll log).criteria_eq key
  · rw [criteria, List.length_map]
  · rw [hcount, List.count_eq_zero]
  · simp only [hcount, hkeys.sum_count]
    exact List.length_map _

example :
    let offer (path : String) (op : Operator) (h : op.arity = 1) : Registration Nat :=
      ⟨.ofPath path, ⟨op, Version.parse "0", none, h, by decide⟩, 0⟩
    let r := empty.registerAll
      [offer "b::second" .greater rfl, offer "a::first" .greater rfl, offer "b::second" .less rfl]
    r.keys = [⟨"b", "second"⟩, ⟨"a", "first"⟩] ∧
      (r.criteria ⟨"b", "second"⟩).map Criteria.text = [">0", "<0"] ∧
      r.candidates ⟨"c", "none"⟩ = [] := by
  refine ⟨?_, ?_, rfl⟩ <;> decide

end Registry

end VersionDispatch
