import VersionDispatch.Proofs.Text.Pieces

/-!
# The last place of a separator

A separator that can overlap itself may start again inside one of its occurrences. A text is cut at
the last place where it starts: behind that place it does not start again, not even with the end of
the occurrence that the text is cut at. This tells the cut from every other one.
-/

namespace VersionDispatch.Text.Separator

variable (sep : Separator)

theorem splitLast?_eq_none_iff (s : List Char) :
    sep.splitLast? s = none ↔ sep.occursIn s = false := by
  induction s with
  | nil => simp [splitLast?, occursIn]
  | cons c s ih =>
      rw [splitLast?, occursIn]
      cases hcut : sep.splitLast? s with
      | none => simp [ih.mp hcut]
      | some cut =>
          have hoccurs : sep.occursIn s = true := by
            rw [← Bool.not_eq_false, ← ih, hcut]
            exact Option.some_ne_none cut
          simp [hoccurs]

theorem splitLast?_append (before after : List Char)
    (hlast : sep.occursIn (sep.rest ++ after) = false) :
    sep.splitLast? (before ++ sep.text ++ after) = some (before, after) := by
  induction before with
  | nil =>
      have hstart : sep.startsAt (sep.text ++ after) = true := (startsAt_iff _ _).mpr ⟨after, rfl⟩
      have hnone : sep.splitLast? (sep.rest ++ after) = none :=
        (splitLast?_eq_none_iff sep _).mpr hlast
      rw [text, List.cons_append] at hstart
      rw [text, List.nil_append, List.cons_append, splitLast?, hnone]
      simp [hstart]
  | cons c before ih => rw [List.cons_append, List.cons_append, splitLast?, ih]

theorem eq_append_of_splitLast? {s before after : List Char}
    (hcut : sep.splitLast? s = some (before, after)) :
    s = before ++ sep.text ++ after ∧ sep.occursIn (sep.rest ++ after) = false := by
  induction s generalizing before with
  | nil => simp [splitLast?] at hcut
  | cons c s ih =>
      rw [splitLast?] at hcut
      cases hfurther : sep.splitLast? s with
      | some cut =>
          obtain ⟨front, back⟩ := cut
          obtain ⟨rfl, rfl⟩ : c :: front = before ∧ back = after := by simpa [hfurther] using hcut
          obtain ⟨hs, hlast⟩ := ih hfurther
          exact ⟨by rw [hs]; rfl, hlast⟩
      | none =>
          have hnone : sep.occursIn s = false := (splitLast?_eq_none_iff sep s).mp hfurther
          obtain ⟨hstart, rfl, rfl⟩ :
              sep.startsAt (c :: s) = true ∧ [] = before ∧ s.drop sep.rest.length = after := by
            simpa [hfurther] using hcut
          obtain ⟨after, hs⟩ := (startsAt_iff sep (c :: s)).mp hstart
          obtain ⟨rfl, rfl⟩ := List.cons.inj hs
          rw [List.append_eq, List.drop_left]
          exact ⟨rfl, hnone⟩

/-- A text is cut where the separator starts and does not start again behind its first character. -/
theorem splitLast?_eq_some_iff (s before after : List Char) :
    sep.splitLast? s = some (before, after) ↔
      s = before ++ sep.text ++ after ∧ sep.occursIn (sep.rest ++ after) = false := by
  constructor
  · exact eq_append_of_splitLast? sep
  · rintro ⟨rfl, hlast⟩
    exact splitLast?_append sep before after hlast

private theorem occursIn_iff_exists_drop (s : List Char) :
    sep.occursIn s = true ↔ ∃ i < s.length, sep.startsAt (s.drop i) = true := by
  induction s with
  | nil => simp [occursIn]
  | cons c s ih =>
      rw [occursIn, Bool.or_eq_true, ih]
      constructor
      · rintro (hstart | ⟨i, hi, hstart⟩)
        · exact ⟨0, by simp, hstart⟩
        · exact ⟨i + 1, by simpa using hi, hstart⟩
      · rintro ⟨_ | i, hi, hstart⟩
        · exact .inl hstart
        · exact .inr ⟨i, by simpa using hi, hstart⟩

/-- The separator starts at this place of the text and at no later one. -/
def IsLastPlace (s : List Char) (i : Nat) : Prop :=
  sep.startsAt (s.drop i) = true ∧ ∀ j < s.length, i < j → sep.startsAt (s.drop j) = false

instance (s : List Char) (i : Nat) : Decidable (sep.IsLastPlace s i) :=
  inferInstanceAs (Decidable (_ ∧ _))

private theorem isLastPlace_length_iff (before after : List Char) :
    sep.IsLastPlace (before ++ sep.text ++ after) before.length ↔
      sep.occursIn (sep.rest ++ after) = false := by
  -- Further on in the text than the place is further on in what follows its first character.
  have hdrop (k : Nat) :
      (before ++ sep.text ++ after).drop (before.length + k + 1) = (sep.rest ++ after).drop k := by
    rw [List.append_assoc, Nat.add_assoc, ← List.drop_drop, List.drop_left, text,
      List.cons_append, List.drop_succ_cons]
  rw [← Bool.not_eq_true, occursIn_iff_exists_drop]
  constructor
  · rintro ⟨-, hlater⟩ ⟨k, hk, hstart⟩
    have hj : before.length + k + 1 < (before ++ sep.text ++ after).length := by
      simp only [List.length_append, text, List.length_cons] at hk ⊢
      omega
    have hnot := hlater _ hj (by omega)
    rw [hdrop, hstart] at hnot
    contradiction
  · intro hnone
    constructor
    · rw [List.append_assoc, List.drop_left]
      exact (startsAt_iff _ _).mpr ⟨after, rfl⟩
    · intro j hj hlater
      obtain ⟨k, rfl⟩ := Nat.exists_eq_add_of_lt hlater
      rw [hdrop, ← Bool.not_eq_true]
      intro hstart
      apply hnone
      refine ⟨k, ?_, hstart⟩
      simp only [List.length_append, text, List.length_cons] at hj ⊢
      omega

theorem isLastPlace_iff (s : List Char) (i : Nat) :
    sep.IsLastPlace s i ↔
      ∃ before after, sep.splitLast? s = some (before, after) ∧ before.length = i := by
  constructor
  · intro hplace
    obtain ⟨after, hafter⟩ := (startsAt_iff sep (s.drop i)).mp hplace.1
    have hs : s = s.take i ++ sep.text ++ after := by
      rw [List.append_assoc, ← hafter, List.take_append_drop]
    have hlength : (s.take i).length = i := by
      have hpos := congrArg List.length hafter
      simp only [List.length_drop, List.length_append, text, List.length_cons] at hpos
      rw [List.length_take]
      omega
    have hlast : sep.occursIn (sep.rest ++ after) = false := by
      rw [← isLastPlace_length_iff sep (s.take i), ← hs, hlength]
      exact hplace
    exact ⟨s.take i, after, (splitLast?_eq_some_iff sep s _ _).mpr ⟨hs, hlast⟩, hlength⟩
  · rintro ⟨before, after, hcut, rfl⟩
    obtain ⟨rfl, hlast⟩ := eq_append_of_splitLast? sep hcut
    exact (isLastPlace_length_iff sep before after).mpr hlast

end VersionDispatch.Text.Separator
