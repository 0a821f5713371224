import VersionDispatch.Gate.TypeGate
import VersionDispatch.Proofs.Dispatch.Path
import VersionDispatch.Text.Cut

/-!
# Short names of gated types

A type name starts with a path, which ends where the first angle bracket opens the arguments. The
short name begins with the last name of that path. Counted in bytes, the end of the path and the
start of its last name are places between two characters, so the short name can be cut out by them.
-/

namespace VersionDispatch.GatedType

open DispatchKey (pathSeparator IsPlain)
open Text

/-- The name up to its arguments. -/
def path (subject : GatedType) : List Char := subject.name.toList.takeWhile (· != '<')

def arguments (subject : GatedType) : List Char := subject.name.toList.dropWhile (· != '<')

private theorem path_append_arguments (subject : GatedType) :
    subject.path ++ subject.arguments = subject.name.toList :=
  List.takeWhile_append_dropWhile

theorem shortName_of_splitLast?_eq_none {subject : GatedType}
    (h : pathSeparator.splitLast? subject.path = none) : subject.shortName = subject.name := by
  rw [path] at h
  simp only [shortName, h]

private theorem toList_shortName_of_splitLast?_eq_some {subject : GatedType}
    {scope last : List Char} (h : pathSeparator.splitLast? subject.path = some (scope, last)) :
    subject.shortName.toList = last ++ subject.arguments := by
  rw [path] at h
  simp only [shortName, h, String.toList_ofList, arguments]

theorem name_eq_append_shortName {subject : GatedType} {scope last : List Char}
    (h : pathSeparator.splitLast? subject.path = some (scope, last)) :
    subject.name.toList = scope ++ pathSeparator.text ++ subject.shortName.toList := by
  obtain ⟨hpath, -⟩ := pathSeparator.eq_append_of_splitLast? h
  rw [toList_shortName_of_splitLast?_eq_some h, ← path_append_arguments, hpath]
  simp only [List.append_assoc]

/-- Where the last name of a path starts, in bytes. -/
def lastNameStart (path : List Char) : Nat :=
  match pathSeparator.splitLast? path with
  | some (scope, _) => byteLength scope + 2
  | none => 0

/-- The short name cut out by byte positions; none if one of them is not a place in the name. -/
def slicedName? (subject : GatedType) : Option String :=
  let name := subject.name.toList
  (takeBytes? (byteLength subject.path) name).bind fun path =>
    (dropBytes? (lastNameStart path) name).map String.ofList

private theorem dropBytes?_lastNameStart (subject : GatedType) :
    dropBytes? (lastNameStart subject.path) subject.name.toList =
      some subject.shortName.toList := by
  rw [lastNameStart]
  cases hcut : pathSeparator.splitLast? subject.path with
  | none =>
      rw [shortName_of_splitLast?_eq_none hcut]
      exact dropBytes?_append [] _
  | some cut =>
      obtain ⟨scope, last⟩ := cut
      have hstart : byteLength scope + 2 = byteLength (scope ++ pathSeparator.text) := by
        rw [byteLength_append]
        rfl
      simp only [hstart, name_eq_append_shortName hcut]
      exact dropBytes?_append _ _

/-- Both byte positions are places in the name, and what they cut out is the short name. -/
theorem slicedName?_eq (subject : GatedType) : subject.slicedName? = some subject.shortName := by
  have htake : takeBytes? (byteLength subject.path) subject.name.toList = some subject.path := by
    rw [← path_append_arguments]
    exact takeBytes?_append _ _
  simp only [slicedName?, htake, Option.bind_some, dropBytes?_lastNameStart, Option.map_some,
    String.ofList_toList]

/-- Names of modules, each with a separator behind it. -/
def modulePath : List String → String
  | [] => ""
  | module :: modules => module ++ "::" ++ modulePath modules

private theorem modulePath_concat (modules : List String) (module : String) :
    modulePath (modules ++ [module]) = modulePath modules ++ module ++ "::" := by
  induction modules with
  | nil => simp [modulePath]
  | cons first modules ih =>
      rw [List.cons_append, modulePath, ih, modulePath]
      simp only [String.append_assoc]

private theorem intercalate_concat (modules : List String) (last : String) :
    "::".intercalate (modules ++ [last]) = modulePath modules ++ last := by
  induction modules with
  | nil => simp [modulePath]
  | cons first modules ih =>
      rw [List.cons_append, String.intercalate_cons_of_ne_nil (by simp), ih, modulePath]
      simp only [String.append_assoc]

theorem notMem_modulePath {c : Char} (hcolon : c ≠ ':') {modules : List String}
    (h : ∀ module ∈ modules, c ∉ module.toList) : c ∉ (modulePath modules).toList := by
  induction modules with
  | nil => simp [modulePath]
  | cons first modules ih =>
      have hfirst : c ∉ first.toList := h first List.mem_cons_self
      have hseparator : c ∉ "::".toList := by simpa using hcolon
      have hrest := ih fun module hmodule => h module (List.mem_cons_of_mem _ hmodule)
      rw [modulePath, String.toList_append, String.toList_append, List.mem_append, List.mem_append,
        not_or, not_or]
      exact ⟨⟨hfirst, hseparator⟩, hrest⟩

section Named

variable {subject : GatedType} {front rest : String} (hname : subject.name = front ++ rest)
  (hfront : '<' ∉ front.toList) (hrest : ∀ c ∈ rest.toList.head?, c = '<')

include hname hfront hrest

private theorem path_eq_and_arguments_eq :
    subject.path = front.toList ∧ subject.arguments = rest.toList := by
  have hall : ∀ c ∈ front.toList, (c != '<') = true := by
    intro c hc
    rw [bne_iff_ne]
    rintro rfl
    exact hfront hc
  rw [path, arguments, hname, String.toList_append, List.takeWhile_append_of_pos hall,
    List.dropWhile_append_of_pos hall]
  cases hchars : rest.toList with
  | nil => simp
  | cons c s =>
      obtain rfl : c = '<' := hrest c (by simp [hchars])
      simp

theorem shortName_of_eq_modulePath_append {modules : List String} {last : String}
    (hpath : front = modulePath modules ++ last) (hlast : ':' ∉ last.toList) :
    subject.shortName = last ++ rest := by
  obtain ⟨hpart, harguments⟩ := path_eq_and_arguments_eq hname hfront hrest
  have hplain : IsPlain last := DispatchKey.isPlain_of_notMem hlast
  -- What stands before the last separator of the path ends with the last module, if there is one.
  rcases modules.eq_nil_or_concat with rfl | ⟨scope, module, rfl⟩
  · have hwhole : front = last := by simpa [modulePath] using hpath
    have hnone : pathSeparator.splitLast? subject.path = none := by
      rw [hpart, hwhole, Separator.splitLast?_eq_none_iff,
        DispatchKey.occursIn_pathSeparator_eq_false_iff]
      exact hplain.not_separated
    rw [shortName_of_splitLast?_eq_none hnone, hname, hwhole]
  · rw [List.concat_eq_append, modulePath_concat] at hpath
    have hcut := DispatchKey.splitLast?_qualified (modulePath scope ++ module) hplain
    rw [← hpath, ← hpart] at hcut
    rw [← String.toList_inj, toList_shortName_of_splitLast?_eq_some hcut, harguments,
      String.toList_append]

end Named

/-- Of a path of names and what follows it, which is nothing or starts with an angle bracket, the
short name leaves out all names but the last. It is cut out at two positions that are places in the
name. -/
theorem shortName_of_path (modules : List String) (last rest : String)
    (hpath : ∀ segment ∈ modules ++ [last], ':' ∉ segment.toList ∧ '<' ∉ segment.toList)
    (hrest : ∀ c ∈ rest.toList.head?, c = '<') :
    let subject : GatedType := ⟨"::".intercalate (modules ++ [last]) ++ rest⟩
    subject.shortName = last ++ rest ∧ subject.slicedName? = some (last ++ rest) := by
  intro subject
  obtain ⟨hcolon, hangle⟩ := hpath last (by simp)
  have hfront : '<' ∉ (modulePath modules ++ last).toList := by
    have hmodules : '<' ∉ (modulePath modules).toList :=
      notMem_modulePath (by decide) fun module hmodule => (hpath module (by simp [hmodule])).2
    rw [String.toList_append, List.mem_append, not_or]
    exact ⟨hmodules, hangle⟩
  have hname : subject.name = modulePath modules ++ last ++ rest := by
    rw [← intercalate_concat]
  have hshort := shortName_of_eq_modulePath_append hname hfront hrest rfl hcolon
  exact ⟨hshort, by rw [slicedName?_eq, hshort]⟩

theorem shortName_of_path_nested :
    let modules := ["lager", "größe"]
    let last := "Fächer"
    let rest := "<lager::Paar<a::B, c::D>, &str>"
    let subject : GatedType := ⟨"lager::größe::Fächer<lager::Paar<a::B, c::D>, &str>"⟩
    (∀ segment ∈ modules ++ [last], ':' ∉ segment.toList ∧ '<' ∉ segment.toList) ∧
      (∀ c ∈ rest.toList.head?, c = '<') ∧
      subject.shortName = "Fächer<lager::Paar<a::B, c::D>, &str>" ∧
      subject.slicedName? = some "Fächer<lager::Paar<a::B, c::D>, &str>" := by
  intro modules last rest subject
  have hpath : ∀ segment ∈ modules ++ [last], ':' ∉ segment.toList ∧ '<' ∉ segment.toList := by
    decide
  have hrest : ∀ c ∈ rest.toList.head?, c = '<' := by simp [rest]
  obtain ⟨hshort, hsliced⟩ := shortName_of_path modules last rest hpath hrest
  exact ⟨hpath, hrest, hshort, hsliced⟩

end VersionDispatch.GatedType
