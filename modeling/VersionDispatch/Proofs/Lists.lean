import Mathlib.Data.List.Forall2

namespace VersionDispatch

variable {α : Type}

theorem exists_last_split (p : α → Prop) (xs : List α) (h : ∃ x ∈ xs, p x) :
    ∃ before x after, xs = before ++ x :: after ∧ p x ∧ ∀ later ∈ after, ¬p later := by
  induction xs with
  | nil => simp at h
  | cons first xs ih =>
      -- An element further on goes before the first one.
      by_cases hrest : ∃ x ∈ xs, p x
      · obtain ⟨before, x, after, hsplit, hx, hafter⟩ := ih hrest
        refine ⟨first :: before, x, after, ?_, hx, hafter⟩
        rw [hsplit, List.cons_append]
      · have hfirst : p first := by
          obtain ⟨x, hmem, hx⟩ := h
          rcases List.mem_cons.mp hmem with heq | hmem
          · exact heq ▸ hx
          · exact absurd ⟨x, hmem, hx⟩ hrest
        exact ⟨[], first, xs, rfl, hfirst, fun later hlater hl => hrest ⟨later, hlater, hl⟩⟩

private theorem getElem_mem_after (before after : List α) (x : α) (j : Nat)
    (hj : j < (before ++ x :: after).length) (hlater : before.length < j) :
    (before ++ x :: after)[j] ∈ after := by
  obtain ⟨k, rfl⟩ := Nat.exists_eq_add_of_lt hlater
  rw [List.getElem_append_right (by omega)]
  have hk : before.length + k + 1 - before.length = k + 1 := by omega
  simp only [hk, List.getElem_cons_succ]
  exact List.getElem_mem _

theorem exists_last_index (p : α → Prop) (xs : List α) (h : ∃ x ∈ xs, p x) :
    ∃ i, ∃ hi : i < xs.length, p xs[i] ∧ ∀ j, ∀ hj : j < xs.length, i < j → ¬p xs[j] := by
  obtain ⟨before, x, after, rfl, hx, hafter⟩ := exists_last_split p xs h
  refine ⟨before.length, by simp, ?_, ?_⟩
  · simpa using hx
  · intro j hj hlater
    exact hafter _ (getElem_mem_after before after x j hj hlater)

end VersionDispatch

namespace VersionDispatch

variable {ε ε' α β : Type}

theorem bind_eq_ok_iff (x : Except ε α) (next : α → Except ε β) (b : β) :
    x >>= next = .ok b ↔ ∃ a, x = .ok a ∧ next a = .ok b := by
  cases x with
  | error e => exact ⟨fun h => (nomatch h), fun ⟨_, h, _⟩ => (nomatch h)⟩
  | ok a =>
      constructor
      · intro h
        exact ⟨a, rfl, h⟩
      · rintro ⟨a', ha, h⟩
        cases ha
        exact h

theorem mapError_eq_ok_iff (change : ε → ε') (x : Except ε α) (a : α) :
    x.mapError change = .ok a ↔ x = .ok a := by
  cases x with
  | error e => exact ⟨fun h => (nomatch h), fun h => (nomatch h)⟩
  | ok b => exact ⟨fun h => congrArg _ (Except.ok.inj h), fun h => congrArg _ (Except.ok.inj h)⟩

theorem mapM_eq_ok_iff (read : α → Except ε β) (xs : List α) (ys : List β) :
    xs.mapM read = .ok ys ↔ List.Forall₂ (fun x y => read x = .ok y) xs ys := by
  induction xs generalizing ys with
  | nil =>
      rw [List.mapM_nil, List.forall₂_nil_left_iff]
      exact ⟨fun h => (Except.ok.inj h).symm, fun h => congrArg Except.ok h.symm⟩
  | cons x xs ih =>
      rw [List.mapM_cons, List.forall₂_cons_left_iff, bind_eq_ok_iff]
      constructor
      · rintro ⟨y, hx, hrest⟩
        obtain ⟨rest, hxs, hys⟩ := (bind_eq_ok_iff _ _ _).mp hrest
        exact ⟨y, rest, hx, (ih rest).mp hxs, (Except.ok.inj hys).symm⟩
      · rintro ⟨y, rest, hx, hxs, rfl⟩
        exact ⟨y, hx, (bind_eq_ok_iff _ _ _).mpr ⟨rest, (ih rest).mpr hxs, rfl⟩⟩

theorem exists_of_mapM_eq_error {read : α → Except ε β} {xs : List α} {e : ε}
    (h : xs.mapM read = .error e) : ∃ x ∈ xs, read x = .error e := by
  induction xs with
  | nil => exact nomatch h
  | cons x xs ih =>
      rw [List.mapM_cons] at h
      cases hx : read x with
      | error e' =>
          rw [hx] at h
          obtain rfl : e' = e := Except.error.inj h
          exact ⟨x, List.mem_cons_self, hx⟩
      | ok y =>
          rw [hx] at h
          cases hxs : xs.mapM read with
          | error e' =>
              rw [hxs] at h
              obtain rfl : e' = e := Except.error.inj h
              obtain ⟨x', hmem, hx'⟩ := ih hxs
              exact ⟨x', List.mem_cons_of_mem x hmem, hx'⟩
          | ok ys =>
              rw [hxs] at h
              exact nomatch h

theorem forM_eq_ok_iff (check : α → Except ε Unit) (xs : List α) :
    forM xs check = .ok () ↔ ∀ x ∈ xs, check x = .ok () := by
  induction xs with
  | nil => exact ⟨fun _ => List.forall_mem_nil _, fun _ => rfl⟩
  | cons x xs ih =>
      rw [List.forM_cons, bind_eq_ok_iff, List.forall_mem_cons, ih]
      exact ⟨fun ⟨_, hx, hxs⟩ => ⟨hx, hxs⟩, fun ⟨hx, hxs⟩ => ⟨(), hx, hxs⟩⟩

/-- What a traversal fails with is what the first element that fails fails with. -/
theorem forM_eq_error_iff (check : α → Except ε Unit) (xs : List α) (e : ε) :
    forM xs check = .error e ↔
      ∃ before x after, xs = before ++ x :: after ∧ (∀ y ∈ before, check y = .ok ()) ∧
        check x = .error e := by
  constructor
  · intro h
    induction xs with
    | nil => exact nomatch h
    | cons first xs ih =>
        rw [List.forM_cons] at h
        cases hfirst : check first with
        | error e' =>
            rw [hfirst] at h
            exact ⟨[], first, xs, rfl, List.forall_mem_nil _, hfirst.trans h⟩
        | ok u =>
            rw [hfirst] at h
            obtain ⟨before, x, after, hsplit, hbefore, hx⟩ := ih h
            refine ⟨first :: before, x, after, congrArg _ hsplit, ?_, hx⟩
            exact List.forall_mem_cons.mpr ⟨hfirst, hbefore⟩
  · rintro ⟨before, x, after, rfl, hbefore, hx⟩
    rw [List.forM_append, (forM_eq_ok_iff check before).mpr hbefore, List.forM_cons, hx]
    rfl

theorem map_mapM_eq_forM (read : α → Except ε β) (xs : List α) :
    (xs.mapM read).map (fun _ => ()) = forM xs fun x => (read x).map fun _ => () := by
  induction xs with
  | nil => rfl
  | cons x xs ih =>
      rw [List.mapM_cons, List.forM_cons, ← ih]
      cases read x with
      | error e => rfl
      | ok y =>
          cases xs.mapM read with
          | error e => rfl
          | ok ys => rfl

theorem forM_flatMap (parts : α → List β) (check : β → Except ε Unit) (xs : List α) :
    forM (xs.flatMap parts) check = forM xs fun x => forM (parts x) check := by
  induction xs with
  | nil => rfl
  | cons x xs ih => rw [List.flatMap_cons, List.forM_append, List.forM_cons, ih]

theorem forM_congr {check check' : α → Except ε Unit} (xs : List α)
    (h : ∀ x ∈ xs, check x = check' x) : forM xs check = forM xs check' := by
  induction xs with
  | nil => rfl
  | cons x xs ih =>
      obtain ⟨hx, hxs⟩ := List.forall_mem_cons.mp h
      rw [List.forM_cons, List.forM_cons, hx, ih hxs]

end VersionDispatch
