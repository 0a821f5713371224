import VersionDispatch.Dispatch.Key
import VersionDispatch.Proofs.Text.LastPlace

/-!
# Paths of dispatch keys

A path without a separator is the path of a bare name. Any other path is that of a scope and a name
with a separator between them, and of these the one whose name the separator is not in, neither
whole nor with the end of the separator before it. A key written as a path is read back if its name
is of that kind. A bare name may also be written with a separator before it, and apart from this no
two paths are paths of one key.
-/

namespace VersionDispatch.DispatchKey

/-- A name behind a separator, where no other separator starts later than that one. -/
structure IsPlain (name : String) : Prop where
  not_separated : ¬[':', ':'] <:+: name.toList
  not_colon : ¬[':'] <+: name.toList

/-- The paths of a key. -/
inductive IsPathOf : String → DispatchKey → Prop where
  | bare (name : String) (h : ¬[':', ':'] <:+: name.toList) : IsPathOf name ⟨"", name⟩
  | qualified (scope name : String) (h : IsPlain name) :
      IsPathOf (scope ++ "::" ++ name) ⟨scope, name⟩

theorem occursIn_pathSeparator_eq_false_iff (s : List Char) :
    pathSeparator.occursIn s = false ↔ ¬[':', ':'] <:+: s := by
  rw [← Bool.not_eq_true, Text.Separator.occursIn_iff_isInfix]
  rfl

private theorem isPlain_iff (name : String) :
    IsPlain name ↔ pathSeparator.occursIn (pathSeparator.rest ++ name.toList) = false := by
  rw [occursIn_pathSeparator_eq_false_iff]
  have hrest : pathSeparator.rest ++ name.toList = ':' :: name.toList := rfl
  rw [hrest, List.infix_cons_iff, List.cons_prefix_cons, not_or, and_comm]
  constructor
  · rintro ⟨hseparated, hcolon⟩
    exact ⟨hseparated, fun h => hcolon h.2⟩
  · rintro ⟨hseparated, hcolon⟩
    exact ⟨hseparated, fun h => hcolon ⟨rfl, h⟩⟩

theorem isPlain_of_notMem {name : String} (h : ':' ∉ name.toList) : IsPlain name where
  not_separated hinside := h (hinside.subset (by simp))
  not_colon hfront := h (hfront.subset (by simp))

private theorem toList_qualified (scope name : String) :
    (scope ++ "::" ++ name).toList = scope.toList ++ pathSeparator.text ++ name.toList := by
  simp [pathSeparator, Text.Separator.text]

theorem splitLast?_qualified (scope : String) {name : String} (h : IsPlain name) :
    pathSeparator.splitLast? (scope ++ "::" ++ name).toList =
      some (scope.toList, name.toList) := by
  rw [toList_qualified]
  exact pathSeparator.splitLast?_append _ _ ((isPlain_iff name).mp h)

theorem IsPathOf.ofPath_eq {p : String} {key : DispatchKey} (h : IsPathOf p key) :
    ofPath p = key := by
  cases h with
  | bare name hname =>
      have hcut : pathSeparator.splitLast? p.toList = none := by
        rwa [Text.Separator.splitLast?_eq_none_iff, occursIn_pathSeparator_eq_false_iff]
      rw [ofPath, hcut]
  | qualified scope name hname =>
      rw [ofPath, splitLast?_qualified scope hname]
      simp

theorem isPathOf_ofPath (p : String) : IsPathOf p (ofPath p) := by
  cases hcut : pathSeparator.splitLast? p.toList with
  | none =>
      rw [Text.Separator.splitLast?_eq_none_iff, occursIn_pathSeparator_eq_false_iff] at hcut
      have hpath := IsPathOf.bare p hcut
      rwa [← hpath.ofPath_eq] at hpath
  | some cut =>
      obtain ⟨scope, name⟩ := cut
      obtain ⟨hp, hlast⟩ := pathSeparator.eq_append_of_splitLast? hcut
      have hname : IsPlain (String.ofList name) := by
        rwa [isPlain_iff, String.toList_ofList]
      have hp : p = String.ofList scope ++ "::" ++ String.ofList name := by
        rw [← String.toList_inj, hp, toList_qualified, String.toList_ofList, String.toList_ofList]
      have hpath := IsPathOf.qualified (String.ofList scope) (String.ofList name) hname
      rwa [← hpath.ofPath_eq, ← hp] at hpath

theorem isPathOf_iff (p : String) (key : DispatchKey) : IsPathOf p key ↔ ofPath p = key := by
  constructor
  · exact IsPathOf.ofPath_eq
  · rintro rfl
    exact isPathOf_ofPath p

private theorem path_bare (name : String) : path ⟨"", name⟩ = name := rfl

private theorem path_qualified {scope : String} (h : scope ≠ "") (name : String) :
    path ⟨scope, name⟩ = scope ++ "::" ++ name := by
  have hscope : scope.toList.isEmpty = false := by simpa using h
  rw [path, hscope]
  rfl

/-- A name that the path of its key is read back to: no separator is in it, and behind a scope it
does not start with a colon. -/
structure IsLegible (key : DispatchKey) : Prop where
  not_separated : ¬[':', ':'] <:+: key.name.toList
  not_colon : key.scope ≠ "" → ¬[':'] <+: key.name.toList

theorem IsPathOf.isLegible {p : String} {key : DispatchKey} (h : IsPathOf p key) :
    IsLegible key := by
  cases h with
  | bare name hname => exact ⟨hname, fun hscope => absurd rfl hscope⟩
  | qualified scope name hname => exact ⟨hname.not_separated, fun _ => hname.not_colon⟩

private theorem IsLegible.isPathOf_path {key : DispatchKey} (h : IsLegible key) :
    IsPathOf key.path key := by
  obtain ⟨scope, name⟩ := key
  by_cases hscope : scope = ""
  · subst hscope
    exact .bare name h.not_separated
  · rw [path_qualified hscope]
    exact .qualified scope name ⟨h.not_separated, h.not_colon hscope⟩

theorem ofPath_path_iff (key : DispatchKey) : ofPath key.path = key ↔ IsLegible key := by
  rw [← isPathOf_iff]
  exact ⟨IsPathOf.isLegible, IsLegible.isPathOf_path⟩

private theorem ofPath_path_ofPath (p : String) : ofPath (ofPath p).path = ofPath p :=
  (ofPath_path_iff _).mpr (isPathOf_ofPath p).isLegible

/-- A key written as a path is read back exactly if its name is legible. A key read from a path has
such a name, so of two such keys written alike there is only one. -/
theorem path_reads_back :
    (∀ key : DispatchKey, ofPath key.path = key ↔ IsLegible key) ∧
      (∀ p : String, IsLegible (ofPath p)) ∧
      ∀ p q : String, (ofPath p).path = (ofPath q).path ↔ ofPath p = ofPath q := by
  refine ⟨ofPath_path_iff, fun p => (isPathOf_ofPath p).isLegible, ?_⟩
  intro p q
  constructor
  · intro hpath
    rw [← ofPath_path_ofPath p, hpath, ofPath_path_ofPath]
  · intro hkey
    rw [hkey]

/-- Of three colons the last two are the separator. -/
example : ofPath "a:::b" = ⟨"a:", "b"⟩ ∧ path ⟨"a", ":b"⟩ = "a:::b" := by decide

private theorem IsPathOf.path_eq {p : String} {key : DispatchKey} (h : IsPathOf p key) :
    key.path =
      if pathSeparator.IsLastPlace p.toList 0 then String.ofList (p.toList.drop 2) else p := by
  cases h with
  | bare name hname =>
      have hnone : ¬pathSeparator.IsLastPlace p.toList 0 := by
        rw [← occursIn_pathSeparator_eq_false_iff, ← Text.Separator.splitLast?_eq_none_iff] at hname
        rw [Text.Separator.isLastPlace_iff, hname]
        simp
      rw [if_neg hnone, path_bare]
  | qualified scope name hname =>
      have hplace : pathSeparator.IsLastPlace (scope ++ "::" ++ name).toList 0 ↔ scope = "" := by
        rw [Text.Separator.isLastPlace_iff, splitLast?_qualified scope hname]
        simp
      by_cases hscope : scope = ""
      · rw [if_pos (hplace.mpr hscope), hscope, path_bare]
        simp
      · rw [if_neg (fun h => hscope (hplace.mp h)), path_qualified hscope]

private theorem IsPathOf.eq_name_or_qualified {p : String} {key : DispatchKey}
    (h : IsPathOf p key) :
    p = key.name ∧ key.scope = "" ∨ p = key.scope ++ "::" ++ key.name ∧ IsPlain key.name := by
  cases h with
  | bare name _ => exact .inl ⟨rfl, rfl⟩
  | qualified scope name hname => exact .inr ⟨rfl, hname⟩

private theorem eq_or_respelled_of_isPathOf {p q : String} {key : DispatchKey} (hp : IsPathOf p key)
    (hq : IsPathOf q key) :
    p = q ∨ ∃ name, IsPlain name ∧ (p = name ∧ q = "::" ++ name ∨ q = name ∧ p = "::" ++ name) := by
  rcases hp.eq_name_or_qualified with ⟨hp, hscope⟩ | ⟨hp, hname⟩
  · rcases hq.eq_name_or_qualified with ⟨hq, -⟩ | ⟨hq, hname⟩
    · exact .inl (hp.trans hq.symm)
    · rw [hscope] at hq
      exact .inr ⟨key.name, hname, .inl ⟨hp, hq⟩⟩
  · rcases hq.eq_name_or_qualified with ⟨hq, hscope⟩ | ⟨hq, -⟩
    · rw [hscope] at hp
      exact .inr ⟨key.name, hname, .inr ⟨hq, hp⟩⟩
    · exact .inl (hp.trans hq.symm)

private theorem isPathOf_separator_append {name : String} (h : IsPlain name) :
    IsPathOf name ⟨"", name⟩ ∧ IsPathOf ("::" ++ name) ⟨"", name⟩ :=
  ⟨.bare name h.not_separated, .qualified "" name h⟩

/-- The key read from a path is written as the path again, but for a separator at its very start
that is the last one in it, which is left out. So two paths are read as one key only if they are the
same or one of them is a plain name and the other that name behind a separator. -/
theorem ofPath_eq_iff :
    (∀ p : String, (ofPath p).path =
      if pathSeparator.IsLastPlace p.toList 0 then String.ofList (p.toList.drop 2) else p) ∧
      ∀ p q : String, ofPath p = ofPath q ↔
        p = q ∨ ∃ name, IsPlain name ∧
          (p = name ∧ q = "::" ++ name ∨ q = name ∧ p = "::" ++ name) := by
  refine ⟨fun p => (isPathOf_ofPath p).path_eq, ?_⟩
  intro p q
  constructor
  · intro hkey
    have hq : IsPathOf q (ofPath p) := (isPathOf_iff q _).mpr hkey.symm
    exact eq_or_respelled_of_isPathOf (isPathOf_ofPath p) hq
  · rintro (rfl | ⟨name, hname, hcase⟩)
    · rfl
    · obtain ⟨hbare, hqualified⟩ := isPathOf_separator_append hname
      have hsame : ofPath name = ofPath ("::" ++ name) := by
        rw [hbare.ofPath_eq, hqualified.ofPath_eq]
      rcases hcase with ⟨rfl, rfl⟩ | ⟨rfl, rfl⟩
      · exact hsame
      · exact hsame.symm

end VersionDispatch.DispatchKey
