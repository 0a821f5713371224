import VersionDispatch.Text.Cut

namespace VersionDispatch.Text.Separator

theorem startsAt_iff (sep : Separator) (s : List Char) :
    sep.startsAt s = true ↔ ∃ rest, s = sep.text ++ rest := by
  rw [startsAt, List.isPrefixOf_iff_prefix]
  exact ⟨fun ⟨rest, h⟩ => ⟨rest, h.symm⟩, fun ⟨rest, h⟩ => ⟨rest, h.symm⟩⟩

theorem occursIn_iff_isInfix (sep : Separator) (s : List Char) :
    sep.occursIn s = true ↔ sep.text <:+: s := by
  induction s with
  | nil => simp [occursIn, text]
  | cons c s ih =>
      rw [occursIn, Bool.or_eq_true, ih, List.infix_cons_iff, startsAt,
        List.isPrefixOf_iff_prefix]

private theorem occursIn_cons_of_not_startsAt (sep : Separator) (c : Char) (s : List Char)
    (h : sep.startsAt (c :: s) = false) : sep.occursIn (c :: s) = sep.occursIn s := by
  rw [occursIn, h, Bool.false_or]

private theorem piecesAfter_eq_pieces_drop (sep : Separator) (skip : Nat) (s : List Char) :
    sep.piecesAfter skip s = sep.pieces (s.drop skip) := by
  induction s generalizing skip with
  | nil => cases skip <;> simp [pieces, piecesAfter]
  | cons c s ih =>
      cases skip with
      | zero => rfl
      | succ skip => rw [piecesAfter, ih, List.drop_succ_cons]

private theorem pieces_nil (sep : Separator) : sep.pieces [] = [[]] := by
  rw [pieces, piecesAfter]

private theorem pieces_cons_of_not_startsAt (sep : Separator) (c : Char) (s : List Char)
    (h : sep.startsAt (c :: s) = false) :
    sep.pieces (c :: s) = (sep.pieces s).modifyHead (c :: ·) := by
  rw [pieces, piecesAfter, h]
  rfl

private theorem pieces_text_append (sep : Separator) (s : List Char) :
    sep.pieces (sep.text ++ s) = [] :: sep.pieces s := by
  have hstart : sep.startsAt (sep.text ++ s) = true := (startsAt_iff _ _).mpr ⟨s, rfl⟩
  rw [text, List.cons_append] at hstart ⊢
  rw [pieces, piecesAfter, if_pos hstart, piecesAfter_eq_pieces_drop, List.drop_left]

/-- A text either starts with the separator, or its first character belongs to the first piece. -/
theorem cut_induction (sep : Separator) {motive : List Char → Prop} (nil : motive [])
    (atSeparator : ∀ s, motive s → motive (sep.text ++ s))
    (cons : ∀ c s, sep.startsAt (c :: s) = false → motive s → motive (c :: s))
    (s : List Char) : motive s := by
  induction hn : s.length using Nat.strongRecOn generalizing s with
  | ind n ih =>
      subst hn
      cases s with
      | nil => exact nil
      | cons c s =>
          cases hstart : sep.startsAt (c :: s) with
          | false => exact cons c s hstart (ih s.length (by simp) s rfl)
          | true =>
              obtain ⟨rest, hrest⟩ := (startsAt_iff _ _).mp hstart
              have hlen : rest.length < (c :: s).length := by
                rw [hrest, text, List.length_append, List.length_cons]
                omega
              rw [hrest]
              exact atSeparator rest (ih rest.length hlen rest rfl)

private theorem pieces_ne_nil (sep : Separator) (s : List Char) : sep.pieces s ≠ [] := by
  induction s using sep.cut_induction with
  | nil => simp [pieces_nil]
  | atSeparator s _ => simp [pieces_text_append]
  | cons c s hstart ih => simpa [pieces_cons_of_not_startsAt _ _ _ hstart] using ih

private theorem intercalate_modifyHead_cons (glue : List Char) (c : Char)
    (ps : List (List Char)) (hne : ps ≠ []) :
    glue.intercalate (ps.modifyHead (c :: ·)) = c :: glue.intercalate ps := by
  cases ps with
  | nil => contradiction
  | cons p ps => cases ps <;> simp

theorem intercalate_pieces (sep : Separator) (s : List Char) :
    sep.text.intercalate (sep.pieces s) = s := by
  induction s using sep.cut_induction with
  | nil => simp [pieces_nil]
  | atSeparator s ih =>
      rw [pieces_text_append, List.intercalate_cons_of_ne_nil (sep.pieces_ne_nil s), ih]
      rfl
  | cons c s hstart ih =>
      rw [pieces_cons_of_not_startsAt _ _ _ hstart,
        intercalate_modifyHead_cons _ _ _ (sep.pieces_ne_nil s), ih]

theorem two_le_length_pieces_iff (sep : Separator) (s : List Char) :
    2 ≤ (sep.pieces s).length ↔ sep.occursIn s = true := by
  induction s using sep.cut_induction with
  | nil => simp [pieces_nil, occursIn]
  | atSeparator s _ =>
      have hpos : 0 < (sep.pieces s).length := List.length_pos_iff.mpr (sep.pieces_ne_nil s)
      have hocc : sep.occursIn (sep.text ++ s) = true :=
        (occursIn_iff_isInfix _ _).mpr (List.prefix_append _ _).isInfix
      simp only [pieces_text_append, List.length_cons, hocc, iff_true]
      omega
  | cons c s hstart ih =>
      rw [pieces_cons_of_not_startsAt _ _ _ hstart, List.length_modifyHead, ih,
        occursIn_cons_of_not_startsAt _ _ _ hstart]

private theorem pieces_append_of_first_notMem (sep : Separator) (p s : List Char)
    (hp : sep.first ∉ p) : sep.pieces (p ++ s) = (sep.pieces s).modifyHead (p ++ ·) := by
  induction p with
  | nil => cases h : sep.pieces s <;> simp [h]
  | cons c p ih =>
      rw [List.mem_cons, not_or] at hp
      have hstart : sep.startsAt (c :: (p ++ s)) = false := by
        simp [startsAt, text, List.isPrefixOf, hp.1]
      rw [List.cons_append, pieces_cons_of_not_startsAt _ _ _ hstart, ih hp.2,
        List.modifyHead_modifyHead]
      rfl

/-- Cutting gives back pieces that were joined, if the separator cannot start inside them. -/
theorem pieces_intercalate (sep : Separator) (ps : List (List Char)) (hne : ps ≠ [])
    (hps : ∀ p ∈ ps, sep.first ∉ p) : sep.pieces (sep.text.intercalate ps) = ps := by
  induction ps with
  | nil => contradiction
  | cons p ps ih =>
      have hp : sep.first ∉ p := hps p (by simp)
      cases ps with
      | nil =>
          have h := pieces_append_of_first_notMem sep p [] hp
          simpa [pieces_nil] using h
      | cons q qs =>
          have hrest : ∀ r ∈ q :: qs, sep.first ∉ r := fun r hr => hps r (by simp [hr])
          rw [List.intercalate_cons_cons, List.append_assoc,
            pieces_append_of_first_notMem sep p _ hp, pieces_text_append,
            ih (by simp) hrest]
          simp

theorem text_append_text_infix_intercalate (sep : Separator) (ps : List (List Char))
    (hps : [] ∈ ps.tail.dropLast) : sep.text ++ sep.text <:+: sep.text.intercalate ps := by
  induction ps with
  | nil => simp at hps
  | cons p ps ih =>
      cases ps with
      | nil => simp at hps
      | cons q qs =>
          cases qs with
          | nil => simp at hps
          | cons r rs =>
              rw [List.intercalate_cons_cons]
              rw [List.tail_cons, List.dropLast_cons_cons, List.mem_cons] at hps
              rcases hps with hq | hqs
              · rw [← hq, List.intercalate_cons_cons, List.nil_append, List.append_assoc]
                exact ⟨p, sep.text.intercalate (r :: rs), by simp only [List.append_assoc]⟩
              · have h := ih (by simpa using hqs)
                exact h.trans (List.suffix_append _ _).isInfix

end VersionDispatch.Text.Separator
