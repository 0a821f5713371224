namespace VersionDispatch.Text

/-- The first and the last code point of each range, in order. -/
abbrev CharRanges := List (Nat × Nat)

def CharRanges.contains (ranges : CharRanges) (c : Char) : Bool :=
  ranges.any fun (first, last) => first ≤ c.toNat && c.toNat ≤ last

theorem CharRanges.contains_eq_false_of_apart {ranges others : CharRanges}
    (hapart : (ranges.all fun r => others.all fun o => r.2 < o.1 || o.2 < r.1) = true) {c : Char}
    (hc : ranges.contains c = true) : others.contains c = false := by
  obtain ⟨r, hr, hinside⟩ := List.any_eq_true.mp hc
  rw [contains, List.any_eq_false]
  intro o ho
  have h := List.all_eq_true.mp (List.all_eq_true.mp hapart r hr) o ho
  simp only [Bool.or_eq_true, Bool.and_eq_true, decide_eq_true_eq] at h hinside ⊢
  omega

def blankRanges : CharRanges :=
  [(0x9, 0xd), (0x20, 0x20), (0x85, 0x85), (0xa0, 0xa0), (0x1680, 0x1680), (0x2000, 0x200a),
    (0x2028, 0x2029), (0x202f, 0x202f), (0x205f, 0x205f), (0x3000, 0x3000)]

def isBlank (c : Char) : Bool := blankRanges.contains c

/-- Neither the first nor the last character is blank. -/
def IsTrimmed (s : List Char) : Prop :=
  (∀ c ∈ s.head?, isBlank c = false) ∧ (∀ c ∈ s.getLast?, isBlank c = false)

def trimEnd (s : List Char) : List Char := (s.reverse.dropWhile isBlank).reverse

def trim (s : List Char) : List Char := trimEnd (s.dropWhile isBlank)

private theorem head?_dropWhile_blank (s : List Char) :
    ∀ c ∈ (s.dropWhile isBlank).head?, isBlank c = false := by
  intro c hc
  have h := List.head?_dropWhile_not isBlank s
  rw [Option.mem_def.mp hc] at h
  exact h

private theorem dropWhile_blank_eq_self (s : List Char)
    (h : ∀ c ∈ s.head?, isBlank c = false) : s.dropWhile isBlank = s := by
  cases s with
  | nil => rfl
  | cons c r => simp [h c rfl]

private theorem head?_trimEnd (s : List Char) (h : ∀ c ∈ s.head?, isBlank c = false) :
    ∀ c ∈ (trimEnd s).head?, isBlank c = false := by
  intro c hc
  obtain ⟨kept, hkept⟩ := List.dropWhile_suffix (l := s.reverse) isBlank
  have hs : s = trimEnd s ++ kept.reverse := by
    rw [trimEnd, ← List.reverse_append, hkept, List.reverse_reverse]
  apply h c
  rw [hs]
  cases ht : trimEnd s with
  | nil => simp [ht] at hc
  | cons d r => simpa [ht] using hc

theorem isTrimmed_trim (s : List Char) : IsTrimmed (trim s) := by
  constructor
  · exact head?_trimEnd _ (head?_dropWhile_blank s)
  · intro c hc
    rw [trim, trimEnd, List.getLast?_reverse] at hc
    exact head?_dropWhile_blank _ c hc

theorem trim_eq_self (s : List Char) (h : IsTrimmed s) : trim s = s := by
  rw [trim, dropWhile_blank_eq_self s h.1, trimEnd, dropWhile_blank_eq_self,
    List.reverse_reverse]
  rw [List.head?_reverse]
  exact h.2

theorem exists_blank_ends (s : List Char) :
    ∃ before after, s = before ++ trim s ++ after ∧
      (∀ c ∈ before, isBlank c = true) ∧ (∀ c ∈ after, isBlank c = true) := by
  let rest := s.dropWhile isBlank
  refine ⟨s.takeWhile isBlank, (rest.reverse.takeWhile isBlank).reverse, ?_, ?_, ?_⟩
  · have hrest : rest = trimEnd rest ++ (rest.reverse.takeWhile isBlank).reverse := by
      rw [trimEnd, ← List.reverse_append, List.takeWhile_append_dropWhile, List.reverse_reverse]
    rw [trim, List.append_assoc, ← hrest, List.takeWhile_append_dropWhile]
  · intro c hc
    exact List.all_eq_true.mp List.all_takeWhile c hc
  · intro c hc
    exact List.all_eq_true.mp List.all_takeWhile c (List.mem_reverse.mp hc)

theorem mem_of_mem_trim {c : Char} {s : List Char} (hc : c ∈ trim s) : c ∈ s := by
  obtain ⟨before, after, hs, -, -⟩ := exists_blank_ends s
  rw [hs]
  simp [hc]

theorem mem_trim_of_mem {c : Char} {s : List Char} (hc : c ∈ s) (hb : isBlank c = false) :
    c ∈ trim s := by
  obtain ⟨before, after, hs, hbefore, hafter⟩ := exists_blank_ends s
  rw [hs, List.mem_append, List.mem_append] at hc
  rcases hc with (hc | hc) | hc
  · simp [hbefore c hc] at hb
  · exact hc
  · simp [hafter c hc] at hb

theorem trim_eq_nil_iff (s : List Char) : trim s = [] ↔ ∀ c ∈ s, isBlank c = true := by
  constructor
  · intro h c hc
    cases hb : isBlank c with
    | true => rfl
    | false => simpa [h] using mem_trim_of_mem hc hb
  · intro h
    cases ht : trim s with
    | nil => rfl
    | cons c r =>
        have hmem : c ∈ trim s := by simp [ht]
        have hhead : isBlank c = false := (isTrimmed_trim s).1 c (by simp [ht])
        rw [h c (mem_of_mem_trim hmem)] at hhead
        contradiction

end VersionDispatch.Text
