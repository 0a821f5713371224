import Mathlib.Data.List.Induction
import VersionDispatch.Text.Blank

namespace VersionDispatch.Text

theorem notMem_of_mem_splitOn {c : Char} {s piece : List Char} (h : piece ∈ s.splitOn c) :
    c ∉ piece := by
  induction s generalizing piece with
  | nil => simp_all
  | cons d s ih =>
      obtain ⟨first, rest, hpieces⟩ := List.exists_cons_of_ne_nil (List.splitOn_ne_nil c s)
      rw [List.splitOn_cons_eq_if_modifyHead, hpieces] at h
      rw [hpieces] at ih
      split at h
      · rcases List.mem_cons.mp h with rfl | h
        · exact List.not_mem_nil
        · exact ih h
      · next hne =>
          rcases List.mem_cons.mp h with rfl | h
          · have hfirst : c ∉ first := ih List.mem_cons_self
            rintro (_ | ⟨_, hmem⟩)
            · simp at hne
            · exact hfirst hmem
          · exact ih (List.mem_cons_of_mem _ h)

theorem mem_of_mem_splitOn {c d : Char} {s piece : List Char} (h : piece ∈ s.splitOn c)
    (hd : d ∈ piece) : d ∈ s := by
  induction s generalizing piece with
  | nil => simp_all
  | cons e s ih =>
      obtain ⟨first, rest, hpieces⟩ := List.exists_cons_of_ne_nil (List.splitOn_ne_nil c s)
      rw [List.splitOn_cons_eq_if_modifyHead, hpieces] at h
      rw [hpieces] at ih
      split at h
      · rcases List.mem_cons.mp h with rfl | h
        · exact absurd hd List.not_mem_nil
        · exact List.mem_cons_of_mem e (ih h hd)
      · rcases List.mem_cons.mp h with rfl | h
        · rcases List.mem_cons.mp hd with rfl | hd
          · exact List.mem_cons_self
          · exact List.mem_cons_of_mem e (ih List.mem_cons_self hd)
        · exact List.mem_cons_of_mem e (ih (List.mem_cons_of_mem _ h) hd)

theorem length_splitOn (c : Char) (s : List Char) : (s.splitOn c).length = s.count c + 1 := by
  induction s with
  | nil => rfl
  | cons d s ih =>
      rw [List.splitOn_cons_eq_if_modifyHead, List.count_cons]
      split <;> simp [ih]

section Plain

variable {c : Char} (hc : isBlank c = false)

include hc

theorem count_trim (s : List Char) : (trim s).count c = s.count c := by
  obtain ⟨before, after, hs, hbefore, hafter⟩ := exists_blank_ends s
  have hnone (blanks : List Char) (hblanks : ∀ d ∈ blanks, isBlank d = true) :
      blanks.count c = 0 := by
    apply List.count_eq_zero_of_not_mem
    intro hmem
    simp [hblanks c hmem] at hc
  conv_rhs => rw [hs]
  rw [List.count_append, List.count_append, hnone before hbefore, hnone after hafter, Nat.zero_add,
    Nat.add_zero]

private theorem dropWhile_append_cons (s t : List Char) :
    (s ++ c :: t).dropWhile isBlank = s.dropWhile isBlank ++ c :: t := by
  induction s with
  | nil => simp [hc]
  | cons d s ih => cases hd : isBlank d <;> simp [hd, ih]

private theorem trimEnd_append_cons (s t : List Char) :
    trimEnd (s ++ c :: t) = s ++ c :: trimEnd t := by
  have hreverse : (s ++ c :: t).reverse = t.reverse ++ c :: s.reverse := by simp
  rw [trimEnd, hreverse, dropWhile_append_cons hc, trimEnd]
  simp

omit hc in
private theorem trim_eq_dropWhile {s : List Char} (hs : ∀ d ∈ s.getLast?, isBlank d = false) :
    trim s = s.dropWhile isBlank := by
  cases s using List.reverseRecOn with
  | nil => rfl
  | append_singleton s d =>
      have hd : isBlank d = false := hs d (by simp)
      rw [trim, dropWhile_append_cons hd, trimEnd_append_cons hd]
      rfl

theorem trim_append_cons {s : List Char} (hs : ∀ d ∈ s.getLast?, isBlank d = false)
    (t : List Char) : trim (s ++ c :: t) = trim s ++ c :: trimEnd t := by
  rw [trim, dropWhile_append_cons hc, trimEnd_append_cons hc, trim_eq_dropWhile hs]

theorem isTrimmed_intercalate_iff (pieces : List (List Char)) :
    IsTrimmed ([c].intercalate pieces) ↔
      (∀ first ∈ pieces.head?, ∀ d ∈ first.head?, isBlank d = false) ∧
        ∀ last ∈ pieces.getLast?, ∀ d ∈ last.getLast?, isBlank d = false := by
  apply and_congr
  · match pieces with
    | [] => simp
    | [_] => simp
    | first :: _ :: _ => cases first <;> simp [List.intercalate_cons_cons, hc]
  · induction pieces with
    | nil => simp
    | cons piece pieces ih =>
        cases pieces with
        | nil => simp
        | cons next rest =>
            rw [List.intercalate_cons_cons, List.getLast?_cons_cons, ← ih, List.getLast?_append,
              List.getLast?_concat]
            cases ([c].intercalate (next :: rest)).getLast? <;> simp [hc]

end Plain

end VersionDispatch.Text
