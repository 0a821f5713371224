import Mathlib.Data.List.Induction
import VersionDispatch.Command.LogFilter
import VersionDispatch.Proofs.Command.Directive
import VersionDispatch.Proofs.Lists
import VersionDispatch.Proofs.Text.Joined

namespace VersionDispatch.LogFilter

def faultOf? (part : List Char) : Option (String × DirectiveFault) :=
  match Directive.read part with
  | .error (.fault fault) => some (String.ofList part, fault)
  | _ => none

theorem readValid_eq {parts : List (List Char)}
    (hparts : ∀ part ∈ parts, Directive.read part ≠ .error .crash) :
    readValid parts =
      (parts.filterMap faultOf?,
        some (parts.filterMap fun part => (Directive.read part).toOption)) := by
  induction parts with
  | nil => rfl
  | cons part parts ih =>
    have hrest := ih fun p hp => hparts p (List.mem_cons_of_mem part hp)
    rw [readValid, List.filterMap_cons, List.filterMap_cons, faultOf?]
    cases hread : Directive.read part with
    | ok d => simp [hrest, Except.toOption]
    | error stop =>
      cases stop with
      | fault fault => simp [hrest, Except.toOption]
      | crash => exact absurd hread (hparts part (by simp))

theorem readValid_snd_eq_none_iff (parts : List (List Char)) :
    (readValid parts).2 = none ↔ ∃ part ∈ parts, Directive.read part = .error .crash := by
  induction parts with
  | nil => simp [readValid]
  | cons part parts ih =>
    rw [readValid]
    cases hread : Directive.read part with
    | ok d => simp [hread, ih]
    | error stop => cases stop <;> simp [hread, ih]

private theorem readValid_of_forall₂ {parts : List (List Char)} {directives : List Directive}
    (h : List.Forall₂ (fun part d => Directive.read part = .ok d) parts directives) :
    readValid parts = ([], some directives) := by
  induction h with
  | nil => rfl
  | cons hread _ ih =>
    rw [readValid, hread, ih]
    rfl

private theorem forall₂_of_readValid {parts : List (List Char)} {directives : List Directive}
    (h : readValid parts = ([], some directives)) :
    List.Forall₂ (fun part d => Directive.read part = .ok d) parts directives := by
  induction parts generalizing directives with
  | nil =>
    obtain rfl : [] = directives := Option.some.inj (Prod.mk.inj h).2
    exact .nil
  | cons part parts ih =>
    rw [readValid] at h
    split at h
    next => exact nomatch (Prod.mk.inj h).2
    next => exact nomatch (Prod.mk.inj h).1
    next d hread =>
      obtain ⟨hfaults, hdirectives⟩ := Prod.mk.inj h
      obtain ⟨rest, hrest, rfl⟩ := Option.map_eq_some_iff.mp hdirectives
      exact .cons hread (ih (Prod.ext hfaults hrest))

theorem parse_eq_ok_iff (s : String) (filter : LogFilter) :
    parse s = .ok filter ↔ readValid (parts s) = ([], some filter.directives) := by
  rw [parse]
  constructor
  · intro h
    cases hread : (parts s).mapM Directive.read with
    | error stop =>
      rw [hread] at h
      exact nomatch h
    | ok directives =>
      rw [hread] at h
      obtain rfl : LogFilter.mk directives = filter := Except.ok.inj h
      exact readValid_of_forall₂ ((mapM_eq_ok_iff _ _ _).mp hread)
  · intro h
    rw [(mapM_eq_ok_iff _ _ _).mpr (forall₂_of_readValid h)]
    rfl

theorem lenient_reader_of_strict {s : String} {filter : EventFilter}
    (h : reader.strict s = .ok filter) : reader.lenient s = ([], some filter) := by
  cases hparse : parse s with
  | error stop => cases stop <;> simp [reader, hparse] at h
  | ok read =>
    obtain rfl : read.shows = filter := by simpa [reader, hparse] using h
    simp only [reader, (parse_eq_ok_iff s read).mp hparse]
    rfl

section Returns

variable {s : String}

private theorem strict_reader_ne_crash
    (hparts : ∀ part ∈ parts s, Directive.read part ≠ .error .crash) :
    reader.strict s ≠ .error .crash := by
  have hparse : (parts s).mapM Directive.read ≠ .error .crash := by
    intro h
    obtain ⟨part, hpart, hread⟩ := exists_of_mapM_eq_error h
    exact hparts part hpart hread
  intro h
  cases hread : (parts s).mapM Directive.read with
  | error stop => cases stop <;> simp_all [reader, parse, Except.map]
  | ok directives => simp [reader, parse, hread, Except.map] at h

private theorem lenient_reader_returns
    (hparts : ∀ part ∈ parts s, Directive.read part ≠ .error .crash) :
    (reader.lenient s).2.isSome = true := by
  simp [reader, readValid_eq hparts]

end Returns

theorem reader_returns {environment : Option String} {text : String}
    (hparts : ∀ s ∈ text :: environment.toList, ∀ part ∈ parts s,
      Directive.read part ≠ .error .crash) : reader.Returns environment text := by
  have hlenient : (reader.lenient text).2.isSome = true :=
    lenient_reader_returns (hparts text (by simp))
  rw [FilterReader.Returns, FilterReader.choose]
  cases environment with
  | none => exact hlenient
  | some s =>
    have hstrict : reader.strict s ≠ .error .crash := strict_reader_ne_crash (hparts s (by simp))
    rw [Option.map_some]
    split
    next => rfl
    next h => exact absurd (Option.some.inj h) hstrict
    next => exact hlenient
    next => exact hlenient

theorem reader_returns_of_bytes {environment : Option String} {text : String}
    (hbytes : ∀ s ∈ text :: environment.toList, ∀ c ∈ s.toList, c.utf8Size = 1) :
    reader.Returns environment text := by
  refine reader_returns fun s hs part hpart => Directive.read_ne_crash_of_bytes fun c hc => ?_
  have hpiece : part ∈ s.toList.splitOn ',' := (List.mem_filter.mp hpart).1
  exact hbytes s hs c (Text.mem_of_mem_splitOn hpiece hc)

/-- The directive is the last of the most specific ones. -/
def IsChosen (directives : List Directive) (d : Directive) : Prop :=
  ∃ before after, directives = before ++ d :: after ∧
    (∀ e ∈ before, d.asSpecificAs e = true) ∧ ∀ e ∈ after, e.asSpecificAs d = false

private theorem asSpecificAs_iff (d e : Directive) :
    d.asSpecificAs e = true ↔ e.target.length < d.target.length ∨
      e.target.length = d.target.length ∧ (d.field.isSome = true ∨ e.field.isSome = false) := by
  simp [Directive.asSpecificAs]

private theorem asSpecificAs_trans {d e f : Directive} (hde : d.asSpecificAs e = true)
    (hef : e.asSpecificAs f = true) : d.asSpecificAs f = true := by
  rw [asSpecificAs_iff] at hde hef ⊢
  grind

private theorem asSpecificAs_of_not {d e : Directive} (h : e.asSpecificAs d = false) :
    d.asSpecificAs e = true := by
  rw [← Bool.not_eq_true, asSpecificAs_iff] at h
  rw [asSpecificAs_iff]
  grind

theorem IsChosen.asSpecificAs {directives : List Directive} {d e : Directive}
    (hd : IsChosen directives d) (he : e ∈ directives) : d.asSpecificAs e = true := by
  obtain ⟨before, after, rfl, hbefore, hafter⟩ := hd
  rcases List.mem_append.mp he with he | he
  · exact hbefore e he
  · rcases List.mem_cons.mp he with rfl | he
    · exact (asSpecificAs_iff _ _).mpr (Or.inr ⟨rfl, by cases e.field <;> simp⟩)
    · exact asSpecificAs_of_not (hafter e he)

theorem IsChosen.eq {directives : List Directive} {d e : Directive} (hd : IsChosen directives d)
    (he : IsChosen directives e) : d = e := by
  obtain ⟨before, after, rfl, hbefore, hafter⟩ := hd
  obtain ⟨before', after', hsplit, hbefore', hafter'⟩ := he
  rcases List.append_eq_append_iff.mp hsplit with ⟨between, rfl, hrest⟩ | ⟨between, rfl, hrest⟩
  · cases between with
    | nil => exact (List.cons.inj hrest).1
    | cons x between =>
      obtain ⟨rfl, rfl⟩ := List.cons.inj hrest
      have h := hbefore' d (by simp)
      rw [hafter e (by simp)] at h
      contradiction
  · cases between with
    | nil => exact (List.cons.inj hrest).1.symm
    | cons x between =>
      obtain ⟨rfl, rfl⟩ := List.cons.inj hrest
      have h := hbefore e (by simp)
      rw [hafter' d (by simp)] at h
      contradiction

theorem IsChosen.concat {directives : List Directive} {d : Directive}
    (hd : IsChosen directives d) (e : Directive) :
    IsChosen (directives ++ [e]) (if e.asSpecificAs d then e else d) := by
  split
  next he =>
    have hbefore : ∀ x ∈ directives, e.asSpecificAs x = true := fun x hx =>
      asSpecificAs_trans he (hd.asSpecificAs hx)
    exact ⟨directives, [], rfl, hbefore, by simp⟩
  next he =>
    obtain ⟨before, after, rfl, hbefore, hafter⟩ := hd
    refine ⟨before, after ++ [e], by simp, hbefore, fun x hx => ?_⟩
    rcases List.mem_append.mp hx with hx | hx
    · exact hafter x hx
    · rw [List.mem_singleton.mp hx]
      simpa using he

private theorem foldl_better (directives : List Directive) :
    directives.foldl better none = none ∧ directives = [] ∨
      ∃ d, directives.foldl better none = some d ∧ IsChosen directives d := by
  -- From the end, since what is chosen so far is compared with the directive that comes last.
  induction directives using List.reverseRecOn with
  | nil => exact Or.inl ⟨rfl, rfl⟩
  | append_singleton directives e ih =>
    rw [List.foldl_append]
    rcases ih with ⟨hnone, rfl⟩ | ⟨d, hd, hchosen⟩
    · exact Or.inr ⟨e, rfl, [], [], rfl, by simp, by simp⟩
    · refine Or.inr ⟨if e.asSpecificAs d then e else d, ?_, hchosen.concat e⟩
      rw [hd, List.foldl_cons, List.foldl_nil, better, Option.all_some]
      split <;> rfl

/-- An event is shown if the last of the most specific directives about it shows it. -/
theorem shows_iff (filter : LogFilter) (event : Event) :
    filter.shows event = true ↔
      ∃ d, IsChosen (filter.directives.filter fun d => d.selects event) d ∧
        d.shows event = true := by
  rw [shows, directiveFor?]
  rcases foldl_better (filter.directives.filter fun d => d.selects event) with
    ⟨hnone, hnil⟩ | ⟨d, hd, hchosen⟩
  · rw [hnone, hnil]
    constructor
    · exact fun h => nomatch h
    · rintro ⟨d, ⟨before, after, hsplit, -⟩, -⟩
      simp at hsplit
  · rw [hd, Option.any_some]
    constructor
    · exact fun hshows => ⟨d, hchosen, hshows⟩
    · rintro ⟨e, he, hshows⟩
      rwa [hchosen.eq he]

theorem lenient_reader_of_level {s : String} (hs : Directive.IsUnmarked s.toList)
    (hlast : ∀ c ∈ s.toList.getLast?, Text.isBlank c = false) (hcomma : ',' ∉ s.toList)
    {level : Option Level} (hlevel : levelOf? s.toList = some level) :
    reader.lenient s =
      ([], some fun event => level.any fun level => event.level.verbosity ≤ level.verbosity) := by
  have hparts : parts s = [s.toList] := by
    obtain ⟨c, hc, -⟩ := hs.starts
    have hne : s.toList ≠ [] := by
      rintro hnil
      simp [hnil] at hc
    rw [parts, List.splitOn_eq_singleton hcomma]
    simp [hne]
  have hread : Directive.read s.toList = .ok ⟨"", none, none, level⟩ := by
    rw [Directive.read_plain hs hlast, Directive.plain, hlevel]
  have hvalid : readValid (parts s) = ([], some [⟨"", none, none, level⟩]) := by
    rw [hparts]
    exact readValid_of_forall₂ (.cons hread .nil)
  have hshows : (LogFilter.mk [⟨"", none, none, level⟩]).shows =
      fun event => level.any fun level => event.level.verbosity ≤ level.verbosity := by
    funext event
    have hselects : (⟨"", none, none, level⟩ : Directive).selects event = true := by
      simp [Directive.selects]
    simp [shows, directiveFor?, hselects, better, Directive.shows]
  simp [reader, hvalid, hshows]

end VersionDispatch.LogFilter
