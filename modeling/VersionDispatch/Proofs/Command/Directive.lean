import VersionDispatch.Command.Directive

/-!
# Reading directives

The marks of a directive are looked for in one text and its parts are cut out of another one. The
two do not differ before the marks if no blank stands in front, and then no cut is inside a
character. What is written as a target and a level is read as that.
-/

namespace VersionDispatch.Directive

open Text (IsPlace byteLength trim)

private theorem bind_ne_crash {α β : Type} {x : Except DirectiveStop α}
    {f : α → Except DirectiveStop β} (hx : x ≠ .error .crash)
    (hf : ∀ a, f a ≠ .error .crash) : (x >>= f) ≠ .error .crash := by
  cases x with
  | error stop => exact fun h => hx (congrArg Except.error (Except.error.inj h))
  | ok a => exact hf a

private theorem ok_ne_crash {α : Type} (a : α) :
    (.ok a : Except DirectiveStop α) ≠ .error .crash :=
  fun h => (nomatch h)

private theorem malformed_ne_crash {α : Type} :
    (malformed : Except DirectiveStop α) ≠ .error .crash :=
  fun h => (nomatch h)

private theorem cut_ne_crash {raw : List Char} {start stop : Nat} (hstart : IsPlace raw start)
    (hstop : IsPlace raw stop) (hle : start ≤ stop) : cut raw start stop ≠ .error .crash := by
  obtain ⟨before, part, after, rfl, rfl, hpart⟩ := hstart.exists_between hstop hle
  rw [cut, Text.dropBytes?_append, Option.bind_some, ← hpart, Text.takeBytes?_append]
  exact ok_ne_crash part

private theorem cutFrom_ne_crash {raw : List Char} {start : Nat} (hstart : IsPlace raw start) :
    cutFrom raw start ≠ .error .crash := by
  obtain ⟨before, part, rfl, rfl⟩ := hstart
  rw [cutFrom, Text.dropBytes?_append]
  exact ok_ne_crash part

private theorem readField_ne_crash (s : List Char) : readField s ≠ .error .crash := by
  rw [readField]
  split
  · exact malformed_ne_crash
  · dsimp only
    split
    · exact ok_ne_crash _
    · exact fun h => (nomatch h)

section Marks

variable {raw : List Char}
  (hplaces : ∀ before after, trim raw = before ++ after → IsPlace raw (byteLength before))

include hplaces

private theorem cut_ne_crash_of_trim {before part after : List Char}
    (htrim : trim raw = before ++ part ++ after) :
    cut raw (byteLength before) (byteLength before + byteLength part) ≠ .error .crash := by
  refine cut_ne_crash (hplaces before (part ++ after) ?_) ?_ (Nat.le_add_right _ _)
  · rw [htrim, List.append_assoc]
  · rw [← Text.byteLength_append]
    exact hplaces _ after htrim

private theorem readLevel_ne_crash {before rest : List Char} (htrim : trim raw = before ++ rest) :
    readLevel raw (byteLength before) rest ≠ .error .crash := by
  cases rest with
  | nil => exact ok_ne_crash _
  | cons c name =>
    rw [readLevel.eq_def]
    split
    next => exact ok_ne_crash _
    next heq =>
      obtain ⟨rfl, -⟩ := List.cons.inj heq
      have hplace := hplaces (before ++ ['=']) name (by simp [htrim])
      rw [Text.byteLength_append] at hplace
      refine bind_ne_crash (cutFrom_ne_crash hplace) fun level => ?_
      split
      · exact ok_ne_crash _
      · split
        · exact ok_ne_crash _
        · exact fun h => (nomatch h)
    next => exact malformed_ne_crash

private theorem readBraces_ne_crash {before rest : List Char} (htrim : trim raw = before ++ rest)
    (target : String) (span : Option String) :
    readBraces raw target span (byteLength before) rest ≠ .error .crash := by
  rw [readBraces]
  have htest : rest.takeWhile _ ++ rest.drop _ = rest :=
    List.prefix_iff_eq_append.mp (List.takeWhile_prefix (· != '\x7d'))
  generalize rest.takeWhile _ = test at htest ⊢
  have hcut : cut raw (byteLength before) (byteLength before + byteLength test) ≠ .error .crash :=
    cut_ne_crash_of_trim hplaces (by rw [htrim, List.append_assoc, htest])
  split
  next after hrest =>
    refine bind_ne_crash hcut fun s => bind_ne_crash (readField_ne_crash s) fun field => ?_
    split
    next after =>
      have hafter : trim raw = (before ++ test ++ ['\x7d', ']']) ++ after := by
        rw [htrim, ← htest, hrest]
        simp
      have hlevel := readLevel_ne_crash hplaces hafter
      rw [Text.byteLength_append, Text.byteLength_append] at hlevel
      exact bind_ne_crash hlevel fun level => ok_ne_crash _
    next => exact malformed_ne_crash
  next => exact malformed_ne_crash

private theorem readBracket_ne_crash {before rest : List Char} (htrim : trim raw = before ++ rest)
    (target : String) : readBracket raw target (byteLength before) rest ≠ .error .crash := by
  rw [readBracket]
  have hname : rest.takeWhile _ ++ rest.drop _ = rest :=
    List.prefix_iff_eq_append.mp (List.takeWhile_prefix fun c => c != ']' && c != '\x7b')
  generalize rest.takeWhile _ = name at hname ⊢
  have hcut : cut raw (byteLength before) (byteLength before + byteLength name) ≠ .error .crash :=
    cut_ne_crash_of_trim hplaces (by rw [htrim, List.append_assoc, hname])
  have hmark (c : Char) (after : List Char) (hrest : rest.drop name.length = c :: after) :
      trim raw = (before ++ name ++ [c]) ++ after := by
    rw [htrim, ← hname, hrest]
    simp
  split
  next after hrest =>
    have hlevel := readLevel_ne_crash hplaces (hmark ']' after hrest)
    rw [Text.byteLength_append, Text.byteLength_append] at hlevel
    exact bind_ne_crash hcut fun span => bind_ne_crash hlevel fun level => ok_ne_crash _
  next after hrest =>
    have hbraces := readBraces_ne_crash hplaces (hmark '\x7b' after hrest) target
    rw [Text.byteLength_append, Text.byteLength_append] at hbraces
    exact bind_ne_crash hcut fun span => hbraces _
  next => exact malformed_ne_crash

private theorem readAfter_ne_crash {target rest : List Char} (htrim : trim raw = target ++ rest) :
    readAfter raw (byteLength target) rest ≠ .error .crash := by
  have hcut : cut raw 0 (byteLength target) ≠ .error .crash := by
    have hfront : trim raw = [] ++ target ++ rest := htrim
    have h := cut_ne_crash_of_trim hplaces hfront
    rwa [Text.byteLength, Nat.zero_add] at h
  rw [readAfter.eq_def]
  split
  next => exact ok_ne_crash _
  next rest =>
    have hmark : trim raw = (target ++ ['[']) ++ rest := by
      rw [htrim, List.append_assoc]
      rfl
    have hbracket := readBracket_ne_crash hplaces hmark
    rw [Text.byteLength_append] at hbracket
    exact bind_ne_crash hcut fun s => hbracket _
  next =>
    exact bind_ne_crash hcut fun s =>
      bind_ne_crash (readLevel_ne_crash hplaces htrim) fun level => ok_ne_crash _

theorem read_ne_crash_of_places : read raw ≠ .error .crash := by
  rw [read]
  split
  next => exact malformed_ne_crash
  next rest htrim =>
    have hmark : trim raw = ['['] ++ rest := htrim
    exact readBracket_ne_crash hplaces hmark ""
  next c rest _ htrim =>
    split
    · refine readAfter_ne_crash hplaces ?_
      rw [htrim]
      exact (List.prefix_iff_eq_append.mp (List.takeWhile_prefix _)).symm
    · exact malformed_ne_crash

end Marks

/-- Without a blank in front no part of a directive is cut inside a character. -/
theorem read_ne_crash {raw : List Char} (hhead : ∀ c ∈ raw.head?, Text.isBlank c = false) :
    read raw ≠ .error .crash := by
  obtain ⟨front, back, hraw, hfront, -⟩ := Text.exists_blank_ends raw
  have hnil : front = [] := by
    cases front with
    | nil => rfl
    | cons c front =>
      have hc := hhead c (by rw [hraw]; rfl)
      rw [hfront c (by simp)] at hc
      contradiction
  subst hnil
  refine read_ne_crash_of_places fun before after htrim => ⟨before, after ++ back, ?_, rfl⟩
  rw [← List.append_assoc, ← htrim]
  exact hraw

theorem read_ne_crash_of_bytes {raw : List Char} (hbytes : ∀ c ∈ raw, c.utf8Size = 1) :
    read raw ≠ .error .crash := by
  -- Byte positions are lengths here, so all that matters is that trimming makes no text longer.
  have hlength (s : List Char) (hs : ∀ c ∈ s, c ∈ raw) : byteLength s = s.length := by
    induction s with
    | nil => rfl
    | cons c s ih =>
      rw [byteLength, hbytes c (hs c (by simp)), ih fun d hd => hs d (by simp [hd]),
        List.length_cons, Nat.add_comm]
  refine read_ne_crash_of_places fun before after htrim => ?_
  obtain ⟨front, back, hraw, -⟩ := Text.exists_blank_ends raw
  have hbefore : byteLength before = before.length :=
    hlength before fun c hc => Text.mem_of_mem_trim (by simp [htrim, hc])
  have hle : before.length ≤ raw.length := by
    rw [hraw, htrim]
    simp only [List.length_append]
    omega
  refine ⟨raw.take before.length, raw.drop before.length, (List.take_append_drop _ _).symm, ?_⟩
  rw [hlength _ fun c hc => List.mem_of_mem_take hc, hbefore, List.length_take, Nat.min_eq_left hle]

/-- A blank in front moves the end of the target into its last character. -/
example : read " é=info".toList = .error .crash := rfl

/-- A text that begins as targets do, without the marks that a target ends at. -/
structure IsUnmarked (s : List Char) : Prop where
  starts : ∃ c ∈ s.head?, isTargetStart c = true
  marks : ∀ c ∈ s, c ≠ '=' ∧ c ≠ '['

private theorem isBlank_eq_false_of_isTargetStart {c : Char} (hc : isTargetStart c = true) :
    Text.isBlank c = false := by
  simp only [isTargetStart, Bool.or_eq_true, beq_iff_eq] at hc
  rcases hc with ((rfl | rfl) | rfl) | hc
  · decide
  · decide
  · decide
  · refine Bool.eq_false_iff.mpr fun hblank => ?_
    rw [Text.isAlphanumeric_eq_false_of_isBlank hblank] at hc
    contradiction

theorem read_append {target rest : List Char} (htarget : IsUnmarked target)
    (hmark : ∀ c ∈ rest.head?, c = '=' ∨ c = '[')
    (hlast : ∀ c ∈ (target ++ rest).getLast?, Text.isBlank c = false) :
    read (target ++ rest) = readAfter (target ++ rest) (byteLength target) rest := by
  obtain ⟨c, hc, hstart⟩ := htarget.starts
  obtain ⟨tail, rfl⟩ := List.head?_eq_some_iff.mp hc
  have htrimmed : Text.IsTrimmed (c :: tail ++ rest) := by
    refine ⟨fun d hd => ?_, hlast⟩
    obtain rfl : c = d := Option.some.inj hd
    exact isBlank_eq_false_of_isTargetStart hstart
  have htake : (c :: tail ++ rest).takeWhile (fun c => c != '=' && c != '[') = c :: tail := by
    have hstop : rest.takeWhile (fun c => c != '=' && c != '[') = [] := by
      cases rest with
      | nil => rfl
      | cons d rest => rcases hmark d rfl with rfl | rfl <;> rfl
    rw [List.takeWhile_append_of_pos, hstop, List.append_nil]
    intro d hd
    obtain ⟨hequals, hbracket⟩ := htarget.marks d hd
    simp [hequals, hbracket]
  rw [read, Text.trim_eq_self _ htrimmed]
  split
  next h => exact absurd h (by simp)
  next h => exact absurd (List.cons.inj h).1 (htarget.marks c (by simp)).2
  next d after _ h =>
    rw [if_pos (by rwa [← (List.cons.inj h).1]), ← h, htake]
    dsimp only
    rw [List.drop_left]

/-- A text without marks is read as a level or as a target of which everything is shown. -/
theorem read_plain {s : List Char} (hs : IsUnmarked s)
    (hlast : ∀ c ∈ s.getLast?, Text.isBlank c = false) : read s = .ok (plain s) := by
  have h : read (s ++ []) = readAfter (s ++ []) (byteLength s) [] :=
    read_append hs (by simp) (by rwa [List.append_nil])
  rwa [List.append_nil] at h

theorem read_target {target name : List Char} (htarget : IsUnmarked target)
    (hname : name ≠ []) (hlast : ∀ c ∈ name.getLast?, Text.isBlank c = false)
    {level : Option Level} (hlevel : levelOf? name = some level) :
    read (target ++ '=' :: name) = .ok ⟨String.ofList target, none, none, level⟩ := by
  have hcut : cut (target ++ '=' :: name) 0 (byteLength target) = .ok target := by
    rw [cut, Text.dropBytes?, Option.bind_some, Nat.sub_zero, Text.takeBytes?_append]
  have hcutFrom : cutFrom (target ++ '=' :: name) (byteLength target + 1) = .ok name := by
    have hraw : target ++ '=' :: name = (target ++ ['=']) ++ name := by simp
    have hplace : byteLength target + 1 = byteLength (target ++ ['=']) := by
      rw [Text.byteLength_append]
      rfl
    rw [hraw, hplace, cutFrom, Text.dropBytes?_append]
  have hreadLevel : readLevel (target ++ '=' :: name) (byteLength target) ('=' :: name) =
      .ok level := by
    have hnonempty : name.isEmpty = false := by simpa using hname
    rw [readLevel, hcutFrom]
    simp only [bind, Except.bind, hnonempty, hlevel]
    rfl
  have hlast : ∀ c ∈ (target ++ '=' :: name).getLast?, Text.isBlank c = false := by
    rw [List.getLast?_append, List.getLast?_cons_of_ne_nil hname,
      Option.or_of_isSome (by simpa using hname)]
    exact hlast
  rw [read_append htarget (by simp) hlast, readAfter.eq_3 _ _ _ (by simp) (by simp), hcut]
  change (readLevel _ _ _ >>= fun level => _) = _
  rw [hreadLevel]
  rfl

end VersionDispatch.Directive
