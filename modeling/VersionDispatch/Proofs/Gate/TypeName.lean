import VersionDispatch.Proofs.Gate.ShortName
import VersionDispatch.Proofs.Text.Brackets

/-!
# Names of types

A type is a path with or without arguments, a tuple, a slice or a reference, and its name is written
out with all module paths in it. The short name of a type that is a path leaves out the modules in
front and nothing else. The names of the other types begin with a mark, not with a module, yet the
first path in them may have modules. Then the short name begins behind these, and what stands before
them, the mark included, is lost.
-/

namespace VersionDispatch

open DispatchKey (pathSeparator)
open GatedType (modulePath)
open Text

/-- The characters that stand between the identifiers of a type name. -/
def TypeName.marks : List Char := brackets ++ [':', '&', ',', ' ']

structure Identifier where
  text : String
  ne_empty : text ≠ "" := by decide
  plain : ∀ c ∈ text.toList, c ∉ TypeName.marks := by simp [TypeName.marks, brackets]

inductive TypeName where
  | named (modules : List Identifier) (last : Identifier) (arguments : List TypeName)
  | tuple (items : List TypeName)
  | slice (item : TypeName)
  | reference (target : TypeName)

namespace TypeName

def isNamed (t : TypeName) : Bool :=
  match t with
  | .named _ _ _ => true
  | _ => false

def argumentText (arguments : List String) : String :=
  if arguments.isEmpty then "" else "<" ++ ", ".intercalate arguments ++ ">"

/-- Items with commas between them; one alone has a comma behind it. -/
def itemText (items : List String) : String :=
  "(" ++ (", ".intercalate items ++ if items.length = 1 then "," else "") ++ ")"

mutual

/-- The name written out. -/
def text : TypeName → String
  | .named modules last arguments =>
      modulePath (modules.map Identifier.text) ++ last.text ++ argumentText (texts arguments)
  | .tuple items => itemText (texts items)
  | .slice item => "[" ++ item.text ++ "]"
  | .reference target => "&" ++ target.text

def texts : List TypeName → List String
  | [] => []
  | t :: ts => t.text :: texts ts

end

end TypeName

/-- The name is the short name with nothing but modules before it, and no bracket of the short name
is without its other half. -/
structure GatedType.LosesOnlyModules (subject : GatedType) : Prop where
  modules : ∃ modules : List Identifier,
    subject.name = modulePath (modules.map Identifier.text) ++ subject.shortName
  balanced : IsBalanced subject.shortName.toList

namespace Identifier

private theorem notMem_text {c : Char} (hc : c ∈ TypeName.marks) (name : Identifier) :
    c ∉ name.text.toList :=
  fun hmem => name.plain c hmem hc

theorem notMem_modulePath {c : Char} (hc : c ∈ TypeName.marks) (hcolon : c ≠ ':')
    (modules : List Identifier) : c ∉ (modulePath (modules.map text)).toList := by
  apply GatedType.notMem_modulePath hcolon
  intro module hmodule
  obtain ⟨name, -, rfl⟩ := List.mem_map.mp hmodule
  exact notMem_text hc name

theorem isBalanced_text (name : Identifier) : IsBalanced name.text.toList := by
  apply isBalanced_of_notMem_brackets
  intro c hc hbracket
  exact name.plain c hc (List.mem_append_left _ hbracket)

private theorem isBalanced_modulePath (modules : List Identifier) :
    IsBalanced (modulePath (modules.map text)).toList := by
  apply isBalanced_of_notMem_brackets
  intro c hc hbracket
  have hcolon : c ≠ ':' := by
    rintro rfl
    revert hbracket
    decide
  exact notMem_modulePath (List.mem_append_left _ hbracket) hcolon modules hc

private theorem head_modulePath_notMem_marks {modules : List Identifier} {c : Char} {s : List Char}
    (h : (modulePath (modules.map text)).toList = c :: s) : c ∉ TypeName.marks := by
  cases modules with
  | nil => simp [modulePath] at h
  | cons first modules =>
      have hne : first.text.toList ≠ [] := by simpa using first.ne_empty
      obtain ⟨d, rest, hchars⟩ := List.exists_cons_of_ne_nil hne
      have hd : d = c := by simp_all [modulePath]
      rw [← hd]
      exact first.plain d (by simp [hchars])

end Identifier

namespace TypeName

section Parts

variable {parts : List String} (hparts : ∀ part ∈ parts, IsBalanced part.toList)

include hparts

private theorem isBalanced_separated : IsBalanced (", ".intercalate parts).toList := by
  rw [String.toList_intercalate]
  apply IsBalanced.intercalate
  · exact isBalanced_of_notMem_brackets (by simp [brackets])
  · intro part hpart
    obtain ⟨s, hs, rfl⟩ := List.mem_map.mp hpart
    exact hparts s hs

private theorem isBalanced_argumentText : IsBalanced (argumentText parts).toList := by
  rw [argumentText]
  split
  · exact isBalanced_of_notMem_brackets (by simp [brackets])
  · simpa using (isBalanced_separated hparts).enclosed '<' '>' rfl

private theorem isBalanced_itemText : IsBalanced (itemText parts).toList := by
  have hcomma : IsBalanced (if parts.length = 1 then "," else "").toList := by
    split
    · exact isBalanced_of_notMem_brackets (by simp [brackets])
    · exact isBalanced_of_notMem_brackets (by simp [brackets])
  rw [itemText]
  simpa using ((isBalanced_separated hparts).append hcomma).enclosed '(' ')' rfl

end Parts

mutual

theorem isBalanced_text : (t : TypeName) → IsBalanced t.text.toList
  | .named modules last arguments => by
      have hpath := (Identifier.isBalanced_modulePath modules).append last.isBalanced_text
      have harguments := isBalanced_argumentText (isBalanced_of_mem_texts arguments)
      rw [text, String.toList_append, String.toList_append]
      exact hpath.append harguments
  | .tuple items => by
      rw [text]
      exact isBalanced_itemText (isBalanced_of_mem_texts items)
  | .slice item => by
      rw [text]
      simpa using (isBalanced_text item).enclosed '[' ']' rfl
  | .reference target => by
      have hmark : IsBalanced ['&'] := isBalanced_of_notMem_brackets (by simp [brackets])
      rw [text]
      simpa using hmark.append (isBalanced_text target)

theorem isBalanced_of_mem_texts : (ts : List TypeName) → ∀ s ∈ texts ts, IsBalanced s.toList
  | [], s, hs => by simp [texts] at hs
  | t :: ts, s, hs => by
      rw [texts, List.mem_cons] at hs
      rcases hs with rfl | hs
      · exact isBalanced_text t
      · exact isBalanced_of_mem_texts ts s hs

end

private theorem head?_argumentText (arguments : List String) :
    ∀ c ∈ (argumentText arguments).toList.head?, c = '<' := by
  intro c hc
  rw [argumentText] at hc
  split at hc
  · simp at hc
  · simpa [eq_comm] using hc

private theorem shortName_named (modules : List Identifier) (last : Identifier)
    (arguments : List TypeName) :
    (⟨(named modules last arguments).text⟩ : GatedType).shortName =
      last.text ++ argumentText (texts arguments) := by
  have hfront : '<' ∉ (modulePath (modules.map Identifier.text) ++ last.text).toList := by
    rw [String.toList_append, List.mem_append, not_or]
    exact ⟨Identifier.notMem_modulePath (by decide) (by decide) modules,
      Identifier.notMem_text (by decide) last⟩
  have hcolon : ':' ∉ last.text.toList := Identifier.notMem_text (by decide) last
  exact GatedType.shortName_of_eq_modulePath_append (by rw [text]) hfront
    (head?_argumentText _) rfl hcolon

private theorem losesOnlyModules_named (modules : List Identifier) (last : Identifier)
    (arguments : List TypeName) :
    GatedType.LosesOnlyModules ⟨(named modules last arguments).text⟩ := by
  have hname : (named modules last arguments).text =
      modulePath (modules.map Identifier.text) ++
        (⟨(named modules last arguments).text⟩ : GatedType).shortName := by
    rw [shortName_named, text, String.append_assoc]
  have hbalanced := isBalanced_text (named modules last arguments)
  rw [hname, String.toList_append] at hbalanced
  exact ⟨⟨modules, hname⟩, (Identifier.isBalanced_modulePath modules).of_append hbalanced⟩

/-- Where no path has modules before the first argument, the name is short already. -/
private theorem losesOnlyModules_of_not_occursIn {t : TypeName}
    (h : pathSeparator.occursIn (GatedType.path ⟨t.text⟩) = false) :
    GatedType.LosesOnlyModules ⟨t.text⟩ := by
  have hshort : (⟨t.text⟩ : GatedType).shortName = t.text :=
    GatedType.shortName_of_splitLast?_eq_none ((Separator.splitLast?_eq_none_iff _ _).mpr h)
  constructor
  · exact ⟨[], by simp [modulePath, hshort]⟩
  · rw [hshort]
    exact isBalanced_text t

private theorem toList_modulePath_of_splitLast? {subject : GatedType} {modules : List Identifier}
    (hname : subject.name = modulePath (modules.map Identifier.text) ++ subject.shortName)
    {scope last : List Char}
    (hcut : pathSeparator.splitLast? subject.path = some (scope, last)) :
    (modulePath (modules.map Identifier.text)).toList = scope ++ pathSeparator.text := by
  have hlost : (modulePath (modules.map Identifier.text)).toList ++ subject.shortName.toList =
      scope ++ pathSeparator.text ++ subject.shortName.toList := by
    rw [← String.toList_append, ← hname, GatedType.name_eq_append_shortName hcut]
  exact List.append_cancel_right hlost

private theorem exists_mark_of_not_isNamed {t : TypeName} (h : t.isNamed = false) :
    ∃ mark ∈ marks, ∃ s, t.text.toList = mark :: s := by
  cases t with
  | named => simp [isNamed] at h
  | tuple items => exact ⟨'(', by decide, by simp [text, itemText]⟩
  | slice item => exact ⟨'[', by decide, by simp [text]⟩
  | reference target => exact ⟨'&', by decide, by simp [text]⟩

private theorem not_losesOnlyModules {t : TypeName} (hnamed : t.isNamed = false)
    (hoccurs : pathSeparator.occursIn (GatedType.path ⟨t.text⟩) = true) :
    ¬GatedType.LosesOnlyModules ⟨t.text⟩ := by
  rintro ⟨⟨modules, hname⟩, -⟩
  cases hcut : pathSeparator.splitLast? (GatedType.path ⟨t.text⟩) with
  | none =>
      rw [Separator.splitLast?_eq_none_iff, hoccurs] at hcut
      contradiction
  | some cut =>
      obtain ⟨scope, last⟩ := cut
      have hmodules := toList_modulePath_of_splitLast? hname hcut
      obtain ⟨mark, hmark, rest, hstart⟩ := exists_mark_of_not_isNamed hnamed
      have hne : (modulePath (modules.map Identifier.text)).toList ≠ [] := by
        simp [hmodules, Separator.text]
      obtain ⟨c, s, hchars⟩ := List.exists_cons_of_ne_nil hne
      have hwhole : t.text.toList = c :: s ++ (⟨t.text⟩ : GatedType).shortName.toList := by
        rw [← hchars, ← String.toList_append, ← hname]
      obtain rfl : mark = c := (List.cons.inj (hstart.symm.trans hwhole)).1
      exact Identifier.head_modulePath_notMem_marks hchars hmark

/-- Brackets are balanced in the name of a type. The short name leaves out nothing but modules, and
so keeps them balanced, exactly if the type is a path or no path in its name has modules before the
first argument. -/
theorem losesOnlyModules_iff (t : TypeName) :
    IsBalanced t.text.toList ∧
      (GatedType.LosesOnlyModules ⟨t.text⟩ ↔
        t.isNamed = true ∨ pathSeparator.occursIn (GatedType.path ⟨t.text⟩) = false) := by
  refine ⟨isBalanced_text t, ?_⟩
  constructor
  · intro hloses
    cases hnamed : t.isNamed with
    | true => exact .inl rfl
    | false =>
        right
        rw [← Bool.not_eq_true]
        exact fun hoccurs => not_losesOnlyModules hnamed hoccurs hloses
  · rintro (hnamed | hnone)
    · cases t with
      | named modules last arguments => exact losesOnlyModules_named modules last arguments
      | _ => contradiction
    · exact losesOnlyModules_of_not_occursIn hnone

/-- Of a pair with a module path in its second item only the end of that item is left. -/
theorem not_losesOnlyModules_pair :
    let u8 : Identifier := { text := "u8" }
    let alloc : Identifier := { text := "alloc" }
    let string : Identifier := { text := "string" }
    let type : Identifier := { text := "String" }
    let pair := tuple [named [] u8 [], named [alloc, string] type []]
    pair.text = "(u8, alloc::string::String)" ∧
      (⟨pair.text⟩ : GatedType).shortName = "String)" ∧
      ¬GatedType.LosesOnlyModules ⟨pair.text⟩ := by
  intro u8 alloc string type pair
  have htext : pair.text = "(u8, alloc::string::String)" := by rfl
  have hshort : (⟨pair.text⟩ : GatedType).shortName = "String)" := by
    rw [htext]
    decide
  refine ⟨htext, hshort, ?_⟩
  intro hloses
  have hbalanced := hloses.balanced []
  rw [hshort] at hbalanced
  revert hbalanced
  decide

end TypeName

end VersionDispatch
