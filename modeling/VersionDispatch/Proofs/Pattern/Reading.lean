import VersionDispatch.Command.Directive

namespace VersionDispatch.Pattern

namespace Reading

private theorem names_addAtom? {r r' : Reading} {atom : Atom} (h : r.addAtom? atom = some r') :
    r'.names = r.names := by
  cases atom with
  | literal literal =>
    obtain rfl := Option.some.inj (Option.ite_none_right_eq_some.mp h).2
    rfl
  | shorthand negated =>
    obtain rfl := Option.some.inj (Option.ite_none_right_eq_some.mp h).2
    rfl
  | place atWord =>
    obtain rfl := Option.some.inj h
    rfl

private theorem names_open? {r r' : Reading} {opening : Opening} (h : r.open? opening = some r') :
    r'.names = r.names ∨ ∃ name ∉ r.names, r'.names = name :: r.names := by
  cases opening with
  | group change =>
    obtain rfl := Option.some.inj h
    exact Or.inl rfl
  | named name =>
    obtain ⟨hnew, h⟩ := Option.ite_none_left_eq_some.mp h
    obtain rfl := Option.some.inj h
    exact Or.inr ⟨name, by simpa using hnew, rfl⟩
  | change change =>
    obtain rfl := Option.some.inj h
    exact Or.inl rfl

private theorem names_close? {r r' : Reading} (h : r.close? = some r') : r'.names = r.names := by
  rw [close?] at h
  split at h
  next => exact nomatch h
  next =>
    obtain rfl := Option.some.inj h
    rfl

private theorem names_repeat? {r r' : Reading} (h : r.repeat? = some r') : r'.names = r.names := by
  obtain ⟨alternatives, -, rfl⟩ := Option.map_eq_some_iff.mp h
  rfl

private theorem names_addAny? {r r' : Reading} (h : r.addAny? = some r') : r'.names = r.names := by
  obtain rfl := Option.some.inj (Option.ite_none_right_eq_some.mp h).2
  rfl

theorem names_step? {r : Reading} {c : Char} {s : List Char} {next : Reading × Rest s}
    (h : r.step? c s = some next) :
    next.1.names = r.names ∨ ∃ name ∉ r.names, next.1.names = name :: r.names := by
  -- Only the opening of a group can give a name; every other step ends in a reading with the names
  -- of the one it started from.
  unfold step? at h
  split at h
  next =>
    obtain ⟨⟨opening, rest⟩, -, h⟩ := Option.bind_eq_some_iff.mp h
    obtain ⟨r', hopen, h⟩ := Option.bind_eq_some_iff.mp h
    obtain rfl := Option.some.inj h
    exact names_open? hopen
  next =>
    obtain ⟨r', hclose, h⟩ := Option.bind_eq_some_iff.mp h
    obtain rfl := Option.some.inj h
    exact Or.inl (names_close? hclose)
  next =>
    obtain rfl := Option.some.inj h
    exact Or.inl rfl
  next =>
    obtain ⟨⟨depth, rest⟩, -, h⟩ := Option.bind_eq_some_iff.mp h
    obtain rfl := Option.some.inj h
    exact Or.inl rfl
  iterate 3
    next =>
      obtain ⟨r', hrepeat, h⟩ := Option.bind_eq_some_iff.mp h
      obtain rfl := Option.some.inj h
      exact Or.inl (names_repeat? hrepeat)
  next => exact nomatch h
  next =>
    obtain ⟨r', hany, h⟩ := Option.bind_eq_some_iff.mp h
    obtain rfl := Option.some.inj h
    exact Or.inl (names_addAny? hany)
  iterate 2
    next =>
      obtain rfl := Option.some.inj h
      exact Or.inl rfl
  next =>
    obtain ⟨⟨atom, rest⟩, -, h⟩ := Option.bind_eq_some_iff.mp h
    obtain ⟨r', hatom, h⟩ := Option.bind_eq_some_iff.mp h
    obtain rfl := Option.some.inj h
    exact Or.inl (names_addAtom? hatom)

theorem run?_eq_some {r r' : Reading} {s : List Char} (h : r.run? s = some r')
    (hnames : r.names.Nodup) : r'.outer = [] ∧ r'.names.Nodup := by
  fun_induction run? r s with
  | case1 r s _ _ houter =>
    obtain rfl := Option.some.inj h
    exact ⟨List.isEmpty_iff.mp houter, hnames⟩
  | case2 => exact nomatch h
  | case3 => exact nomatch h
  | case4 r s c t _ _ r₁ rest _ hstep ih =>
    refine ih h ?_
    rcases names_step? hstep with hsame | ⟨name, hnew, hcons⟩
    · rwa [hsame]
    · rw [hcons]
      exact List.nodup_cons.mpr ⟨hnew, hnames⟩

end Reading

/-- A pattern that can be used closes its groups, names no two alike and is not nested too deep. -/
theorem exists_of_fault?_eq_none {s : List Char} (h : fault? s = none) :
    ∃ r, Reading.initial.run? s = some r ∧ r.outer = [] ∧ r.names.Nodup ∧
      r.alternatives.depth ≤ depthLimit := by
  rw [fault?] at h
  split at h
  next => exact nomatch h
  next r hrun =>
    split at h
    · exact nomatch h
    next hdepth =>
      obtain ⟨houter, hnames⟩ := Reading.run?_eq_some hrun List.nodup_nil
      exact ⟨r, hrun, houter, hnames, Nat.le_of_not_lt hdepth⟩

/-- The characters that do not stand for themselves. -/
def marks : List Char := ['\\', '.', '+', '*', '?', '(', ')', '|', '[', '\x7b', '^', '$']

def escape (s : List Char) : List Char := s.flatMap fun c => if c ∈ marks then ['\\', c] else [c]

namespace Reading

private theorem run?_nil {r : Reading} (hmode : r.mode = .initial) :
    r.run? [] = if r.outer.isEmpty then some r else none := by
  have hskip : r.mode.skip [] = .all [] := by
    rw [hmode]
    rfl
  rw [run?, hskip]
  rfl

private theorem run?_cons {r : Reading} (hmode : r.mode = .initial) (c : Char) (s : List Char) :
    r.run? (c :: s) = (r.step? c s).bind fun next => next.1.run? next.2.val := by
  have hskip : r.mode.skip (c :: s) = .all (c :: s) := by
    rw [hmode]
    rfl
  rw [run?, hskip]
  cases hstep : r.step? c s with
  | none => simp [Rest.all, hstep]
  | some next => simp [Rest.all, hstep]

/-- The characters that stand for themselves or for any one character. -/
def IsSingle (c : Char) : Prop := c = '.' ∨ c ∉ marks

private theorem step?_of_isSingle {r : Reading} (hmode : r.mode = .initial) {c : Char}
    (hc : IsSingle c) (s : List Char) : r.step? c s = some (r.add 0, .all s) := by
  rcases hc with rfl | hc
  · simp [step?, addAny?, hmode, Mode.initial]
  · simp only [marks, List.mem_cons, not_or] at hc
    rw [step?]
    · simp [readAtom?, hc, addAtom?, Literal.isUsable, Mode.foldsLetters, hmode, Mode.initial]
    all_goals simp [hc]

private theorem step?_escaped {r : Reading} (hmode : r.mode = .initial) {c : Char} (hc : c ∈ marks)
    (s : List Char) : r.step? '\\' (c :: s) = some (r.add 0, (Rest.all s).cons c) := by
  obtain ⟨hhex, hescaped⟩ : hexLength? c = none ∧ escaped? c = some (.literal ⟨c, false⟩) := by
    simp only [marks, List.mem_cons, List.not_mem_nil, or_false] at hc
    rcases hc with rfl | rfl | rfl | rfl | rfl | rfl | rfl | rfl | rfl | rfl | rfl | rfl <;>
      exact ⟨rfl, rfl⟩
  have hescape : readEscape? .initial (c :: s) =
      some (.literal ⟨c, false⟩, (Rest.all s).cons c) := by
    rw [readEscape?, hhex, hescaped]
    rfl
  have husable : Literal.isUsable ⟨c, false⟩ .initial = true := rfl
  simp [step?, readAtom?, hmode, hescape, addAtom?, husable]

/-- Outside groups, with one alternative whose parts are characters, repeated or not. -/
structure IsFlat (r : Reading) : Prop where
  mode : r.mode = .initial
  outer : r.outer = []
  complete : r.alternatives.complete = []
  pieces : ∀ piece ∈ r.alternatives.pieces, piece.depth ≤ 1
  hasWordPlace : r.hasWordPlace = false

private theorem isFlat_initial : initial.IsFlat :=
    ⟨rfl, rfl, rfl, by simp [initial, Alternatives.empty], rfl⟩

theorem IsFlat.add {r : Reading} (hr : r.IsFlat) {depth : Nat} (hdepth : depth ≤ 1) :
    (r.add depth).IsFlat := by
  refine ⟨hr.mode, hr.outer, hr.complete, ?_, hr.hasWordPlace⟩
  intro piece hpiece
  rcases List.mem_cons.mp hpiece with rfl | hpiece
  · exact hdepth
  · exact hr.pieces piece hpiece

private theorem joined_le {depths : List Nat} {bound : Nat}
    (hdepths : ∀ depth ∈ depths, depth ≤ bound) : joined depths ≤ bound + 1 := by
  have hmax (first : Nat) (rest : List Nat) (hfirst : first ≤ bound)
      (hrest : ∀ depth ∈ rest, depth ≤ bound) : rest.foldl max first ≤ bound := by
    induction rest generalizing first with
    | nil => exact hfirst
    | cons next rest ih =>
      obtain ⟨hnext, hrest⟩ := List.forall_mem_cons.mp hrest
      exact ih _ (Nat.max_le.mpr ⟨hfirst, hnext⟩) hrest
  match depths with
  | [] => exact Nat.zero_le _
  | [depth] => exact Nat.le_succ_of_le (hdepths depth (by simp))
  | first :: next :: rest =>
    obtain ⟨hfirst, hrest⟩ := List.forall_mem_cons.mp hdepths
    exact Nat.succ_le_succ (hmax first (next :: rest) hfirst hrest)

private theorem IsFlat.depth_le {r : Reading} (hr : r.IsFlat) : r.alternatives.depth ≤ 2 := by
  rw [Alternatives.depth, hr.complete, joined]
  refine joined_le fun depth hdepth => ?_
  obtain ⟨piece, hpiece, rfl⟩ := List.mem_map.mp hdepth
  exact hr.pieces piece hpiece

private theorem IsFlat.run?_nil {r : Reading} (hr : r.IsFlat) : r.run? [] = some r := by
  rw [Reading.run?_nil hr.mode, hr.outer]
  rfl

private theorem IsFlat.run?_singles {r : Reading} (hr : r.IsFlat) {s : List Char}
    (hs : ∀ c ∈ s, IsSingle c) (t : List Char) :
    ∃ r' : Reading, r'.IsFlat ∧ r.run? (s ++ t) = r'.run? t := by
  induction s generalizing r with
  | nil => exact ⟨r, hr, rfl⟩
  | cons c s ih =>
    obtain ⟨hc, hs⟩ := List.forall_mem_cons.mp hs
    obtain ⟨r', hr', hrun⟩ := ih (hr.add (Nat.zero_le 1)) hs
    refine ⟨r', hr', ?_⟩
    rw [List.cons_append, run?_cons hr.mode, step?_of_isSingle hr.mode hc, Option.bind_some]
    exact hrun

private theorem IsFlat.run?_escape {r : Reading} (hr : r.IsFlat) (s t : List Char) :
    ∃ r' : Reading, r'.IsFlat ∧ r.run? (escape s ++ t) = r'.run? t := by
  induction s generalizing r with
  | nil => exact ⟨r, hr, rfl⟩
  | cons c s ih =>
    obtain ⟨r', hr', hrun⟩ := ih (hr.add (Nat.zero_le 1))
    refine ⟨r', hr', ?_⟩
    rw [escape, List.flatMap_cons, ← escape]
    split
    next hc =>
      rw [List.append_assoc, List.cons_append, run?_cons hr.mode]
      change ((r.step? '\\' (c :: (escape s ++ t))).bind _) = _
      rw [step?_escaped hr.mode hc, Option.bind_some]
      exact hrun
    next hc =>
      rw [List.append_assoc, List.cons_append, run?_cons hr.mode,
        step?_of_isSingle hr.mode (Or.inr hc), Option.bind_some]
      exact hrun

end Reading

private theorem fault?_of_isFlat {s : List Char} {r : Reading} (hr : r.IsFlat)
    (hrun : Reading.initial.run? s = some r) : fault? s = none := by
  have hdepth : ¬depthLimit < r.alternatives.depth := by
    have h := hr.depth_le
    rw [depthLimit]
    omega
  simp [fault?, hrun, hdepth, hr.hasWordPlace]

/-- Every text can be asked for. -/
theorem fault?_escape (s : List Char) : fault? (escape s) = none := by
  obtain ⟨r, hr, hrun⟩ := Reading.isFlat_initial.run?_escape s []
  rw [List.append_nil, hr.run?_nil] at hrun
  exact fault?_of_isFlat hr hrun

open FieldTest (isExponent isUnsignedNumber mantissa)

namespace Reading

private theorem isSingle_of_test {p : Char → Bool} (hmarks : marks.all (fun c => !p c) = true)
    {c : Char} (hc : p c = true) : IsSingle c := by
  refine Or.inr fun hmem => ?_
  have h := List.all_eq_true.mp hmarks c hmem
  rw [hc] at h
  contradiction

private theorem isSingle_of_isDigit {c : Char} (hc : c.isDigit = true) : IsSingle c :=
  isSingle_of_test (by decide) hc

private theorem step?_plus (r : Reading) {s : List Char} (hs : s.head? ≠ some '?') :
    (r.add 0).step? '+' s = some (r.add 1, .all s) := by
  have hafter : afterRepeat s = .all s := by
    cases s with
    | nil => rfl
    | cons c s => exact afterRepeat.eq_2 _ fun s' h => hs (congrArg List.head? h)
  simp [step?, hafter, repeat?, Alternatives.repeat?, add, Alternatives.add]

private theorem isSingle_of_isDigitString {s : List Char} (hs : Text.isDigitString s = true) :
    ∀ c ∈ s, IsSingle c := by
  intro c hc
  exact isSingle_of_isDigit (List.all_eq_true.mp (Bool.and_eq_true_iff.mp hs).2 c hc)

private theorem IsFlat.run?_eq_some_of_singles {r : Reading} (hr : r.IsFlat) {s : List Char}
    (hs : ∀ c ∈ s, IsSingle c) : ∃ r' : Reading, r'.IsFlat ∧ r.run? s = some r' := by
  obtain ⟨r', hr', hrun⟩ := hr.run?_singles hs []
  rw [List.append_nil, hr'.run?_nil] at hrun
  exact ⟨r', hr', hrun⟩

private theorem IsFlat.run?_exponent {r : Reading} (hr : r.IsFlat) {s : List Char}
    (hs : isExponent s = true) : ∃ r' : Reading, r'.IsFlat ∧ r.run? s = some r' := by
  have hletter {c : Char} (hc : (c.toLower == 'e') = true) : IsSingle c :=
    isSingle_of_test (p := fun c => c.toLower == 'e') (by decide) hc
  unfold isExponent at hs
  split at hs
  next => exact ⟨r, hr, hr.run?_nil⟩
  next c digits =>
    obtain ⟨hc, hdigits⟩ := Bool.and_eq_true_iff.mp hs
    have hsingles := isSingle_of_isDigitString hdigits
    have hhead : digits.head? ≠ some '?' := by
      intro h
      have hmark := hsingles '?' (List.mem_of_head? h)
      simp [IsSingle, marks] at hmark
    have hadd : (r.add 0).mode = .initial := hr.mode
    obtain ⟨r', hr', hrun⟩ := (hr.add (Nat.le_refl 1)).run?_eq_some_of_singles hsingles
    refine ⟨r', hr', ?_⟩
    rw [run?_cons hr.mode, step?_of_isSingle hr.mode (hletter hc), Option.bind_some]
    change (r.add 0).run? ('+' :: digits) = _
    rw [run?_cons hadd, step?_plus r hhead, Option.bind_some]
    exact hrun
  next c digits =>
    obtain ⟨hc, hdigits⟩ := Bool.and_eq_true_iff.mp hs
    apply hr.run?_eq_some_of_singles
    have hminus : IsSingle '-' := Or.inr (by decide)
    simpa [hletter hc, hminus] using isSingle_of_isDigitString hdigits
  next c digits _ _ =>
    obtain ⟨hc, hdigits⟩ := Bool.and_eq_true_iff.mp hs
    apply hr.run?_eq_some_of_singles
    simpa [hletter hc] using isSingle_of_isDigitString hdigits

private theorem exists_mantissa (s : List Char) :
    ∃ body, s = body ++ (mantissa s).2.2 ∧ ∀ c ∈ body, IsSingle c := by
  have hdigits (s : List Char) : ∀ c ∈ s.takeWhile Char.isDigit, IsSingle c :=
    fun c hc => isSingle_of_isDigit (List.all_eq_true.mp List.all_takeWhile c hc)
  have hsplit (s : List Char) :
      s = s.takeWhile Char.isDigit ++ s.drop (s.takeWhile Char.isDigit).length :=
    (List.prefix_iff_eq_append.mp (List.takeWhile_prefix _)).symm
  rw [mantissa]
  split
  next rest hrest =>
    refine ⟨s.takeWhile Char.isDigit ++ '.' :: rest.takeWhile Char.isDigit, ?_, ?_⟩
    · rw [List.append_assoc, List.cons_append, ← hsplit rest, ← hrest]
      exact hsplit s
    · intro c hc
      rcases List.mem_append.mp hc with hc | hc
      · exact hdigits s c hc
      · rcases List.mem_cons.mp hc with rfl | hc
        · exact Or.inl rfl
        · exact hdigits rest c hc
  next => exact ⟨s.takeWhile Char.isDigit, hsplit s, hdigits s⟩

private theorem IsFlat.run?_number {r : Reading} (hr : r.IsFlat) {s : List Char}
    (hs : isUnsignedNumber s = true) : ∃ r' : Reading, r'.IsFlat ∧ r.run? s = some r' := by
  rw [isUnsignedNumber, Bool.or_eq_true] at hs
  rcases hs with hname | hnumber
  · apply hr.run?_eq_some_of_singles
    intro c hc
    have hletters : ["inf", "infinity", "nan"].all (fun name => name.toList.all fun c =>
        ['a', 'f', 'i', 'n', 't', 'y'].contains c) = true := by decide
    have hlower : c.toLower ∈ (String.ofList s).toLower.toList := by
      change c.toLower ∈ ((String.ofList s).map Char.toLower).toList
      rw [String.toList_map, String.toList_ofList]
      exact List.mem_map_of_mem hc
    have hname := List.all_eq_true.mp hletters _ (List.contains_iff_mem.mp hname)
    exact isSingle_of_test (p := fun c => ['a', 'f', 'i', 'n', 't', 'y'].contains c.toLower)
      (by decide) (List.all_eq_true.mp hname _ hlower)
  · obtain ⟨body, hbody, hsingles⟩ := exists_mantissa s
    obtain ⟨r', hr', hrun⟩ := hr.run?_singles hsingles (mantissa s).2.2
    rw [hbody, hrun]
    exact hr'.run?_exponent (Bool.and_eq_true_iff.mp hnumber).2

end Reading

theorem fault?_of_isUnsignedNumber {s : List Char} (hs : isUnsignedNumber s = true) :
    fault? s = none ∧ fault? ('-' :: s) = none := by
  have hminus : Reading.IsSingle '-' := Or.inr (by decide)
  have hmode : Reading.initial.mode = .initial := rfl
  constructor
  · obtain ⟨r, hr, hrun⟩ := Reading.isFlat_initial.run?_number hs
    exact fault?_of_isFlat hr hrun
  · obtain ⟨r, hr, hrun⟩ := (Reading.isFlat_initial.add (Nat.zero_le 1)).run?_number hs
    refine fault?_of_isFlat hr ?_
    rw [Reading.run?_cons hmode, Reading.step?_of_isSingle hmode hminus, Option.bind_some]
    exact hrun

end VersionDispatch.Pattern

namespace VersionDispatch.FieldTest

theorem fault?_number (name : String) {number : List Char}
    (hnumber : isUnsignedNumber number = true)
    {sign : List Char} (hsign : sign ∈ [[], ['+'], ['-']]) :
    fault? ⟨name, some (String.ofList (sign ++ number))⟩ = none := by
  obtain ⟨hplain, hminus⟩ := Pattern.fault?_of_isUnsignedNumber hnumber
  simp only [List.mem_cons, List.not_mem_nil, or_false] at hsign
  rcases hsign with rfl | rfl | rfl
  · simp only [fault?, List.nil_append, String.toList_ofList]
    split
    · split
      · rfl
      · exact hplain
    · exact hplain
  · simp [fault?, hnumber]
  · simpa [fault?] using hminus

end VersionDispatch.FieldTest
