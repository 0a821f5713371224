import VersionDispatch.Gate.Dispatcher
import VersionDispatch.Proofs.Dispatch.Log

namespace VersionDispatch

variable {σ S A R : Type}

/-- Does the act ask a source or run a body? What is only logged does neither. -/
def Act.isCall (act : Act S A) : Bool :=
  match act with
  | .asked .. => true
  | .ran .. => true
  | .logged _ => false

theorem filter_isCall_logged (events : List Event) :
    (events.map (Act.logged : Event → Act S A)).filter Act.isCall = [] := by
  rw [List.filter_map, List.map_eq_nil_iff, List.filter_eq_nil_iff]
  intro event _
  exact Bool.false_ne_true

private theorem Body.run_of_offers_eq_nil (body : Body σ S A R) (h : body.offers = [])
    (registry : Registry (Body σ S A R)) (subject : S) (args : A) (world : σ) :
    body.run registry subject args world =
      let performed := body.perform subject args world
      ⟨⟨.ok performed.1, performed.2, [.ran body.label subject args]⟩, registry⟩ := by
  simp only [run, h, List.map_nil, Registry.registerAll, List.foldl_nil]

namespace Registry

theorem serve_of_isLatest {r : Registry (Body σ S A R)}
    {log before after : List (Registration (Body σ S A R))} {key : DispatchKey}
    {version : Option String} {offer : Registration (Body σ S A R)} (hr : r.Reflects log)
    (hlatest : IsLatest log key version before offer after)
    (hoffers : offer.implementation.offers = []) (subject : S) (args : A) (world : σ) :
    r.serve key version subject args world =
      let performed := offer.implementation.perform subject args world
      ⟨⟨.ok performed.1, performed.2,
        (r.resolved key version).map .logged ++ [.ran offer.implementation.label subject args]⟩,
        r⟩ := by
  simp only [serve, hr.resolve_eq_latest hlatest, offer.implementation.run_of_offers_eq_nil hoffers]

theorem serve_of_rejected {r : Registry (Body σ S A R)} {log : List (Registration (Body σ S A R))}
    {key : DispatchKey} {version : Option String} (hr : r.Reflects log)
    (hknown : offered log key ≠ [])
    (hrejected : ∀ offer ∈ log, offer.key = key → offer.criteria.acceptsText version = false)
    (subject : S) (args : A) (world : σ) :
    r.serve key version subject args world =
      ⟨⟨.error (.unsupported key.path version), world, []⟩, r⟩ := by
  simp only [serve, hr.resolve_eq_unsupported hknown version hrejected]

theorem value_serve (r : Registry (Body σ S A R)) (key : DispatchKey) (version : Option String)
    (subject : S) (args : A) (world : σ) :
    (r.serve key version subject args world).value =
      (r.resolve key version).map fun body => (body.perform subject args world).1 := by
  unfold serve
  cases r.resolve key version with
  | error e => rfl
  | ok body => rfl

theorem registry_serve {r : Registry (Body σ S A R)} {log : List (Registration (Body σ S A R))}
    (hr : r.Reflects log) (hoffers : ∀ offer ∈ log, offer.implementation.offers = [])
    (key : DispatchKey) (version : Option String) (subject : S) (args : A) (world : σ) :
    (r.serve key version subject args world).registry = r := by
  rcases hr.resolve_cases key version with
    ⟨-, hresolve⟩ | ⟨before, offer, after, hlatest, -⟩ | ⟨hknown, hrejected, -⟩
  · simp only [serve, hresolve]
  · rw [serve_of_isLatest hr hlatest (hoffers offer hlatest.mem)]
  · rw [serve_of_rejected hr hknown hrejected]

end Registry

namespace Dispatcher

theorem value_call (d : Dispatcher σ S A) (r : Registry (Body σ S A R)) (subject : S) (args : A)
    (world : σ) :
    (d.call r subject args world).value =
      let asked := d.source.answer .method subject args world
      (r.resolve d.key asked.1).map fun body => (body.perform subject args asked.2).1 :=
  r.value_serve d.key _ subject args _

theorem call_of_isLatest (d : Dispatcher σ S A) {r : Registry (Body σ S A R)}
    {log before after : List (Registration (Body σ S A R))}
    {offer : Registration (Body σ S A R)} (hr : r.Reflects log) (subject : S) (args : A)
    (world : σ)
    (hlatest : IsLatest log d.key (d.source.answer .method subject args world).1 before offer after)
    (hoffers : offer.implementation.offers = []) :
    let asked := d.source.answer .method subject args world
    let performed := offer.implementation.perform subject args asked.2
    d.call r subject args world =
      ⟨⟨.ok performed.1, performed.2,
        .asked d.source.name .method subject args :: (r.resolved d.key asked.1).map .logged ++
          [.ran offer.implementation.label subject args]⟩, r⟩ := by
  intro asked performed
  simp only [call, Registry.serve_of_isLatest hr hlatest hoffers, List.append_nil]
  rfl

theorem call_of_rejected (d : Dispatcher σ S A) {r : Registry (Body σ S A R)}
    {log : List (Registration (Body σ S A R))} (hr : r.Reflects log)
    (hknown : offered log d.key ≠ []) (subject : S) (args : A) (world : σ)
    (hrejected : ∀ offer ∈ log, offer.key = d.key →
      offer.criteria.acceptsText (d.source.answer .method subject args world).1 = false) :
    let asked := d.source.answer .method subject args world
    let e : Refusal := .unsupported d.key.path asked.1
    d.call r subject args world =
      ⟨⟨.error e, asked.2,
        [.asked d.source.name .method subject args, .logged (failed d.key e)]⟩, r⟩ := by
  intro asked e
  simp only [call, Registry.serve_of_rejected hr hknown hrejected]
  rfl

end Dispatcher

end VersionDispatch
