import Mathlib.Data.Nat.Digits.Defs
import VersionDispatch.Proofs.Version.Places

/-!
# Versions of numbers

Where all fields are digit strings, versions compare as the numbers that these write, place by
place. A number that does not fit 64 bits is kept as a word and still sorts after every number that
does; only where two such numbers meet in one place is something else compared.
-/

namespace VersionDispatch

namespace Text

/-- The number that digits write, each by its place. -/
def placeValue (digits : List Char) : Nat :=
  Nat.ofDigits 10 (digits.reverse.map fun c => c.toNat - '0'.toNat)

theorem digitValue_eq_placeValue (digits : List Char) : digitValue digits = placeValue digits := by
  induction digits using List.reverseRecOn with
  | nil => rfl
  | append_singleton digits c ih =>
      have hstep : digitValue (digits ++ [c]) = 10 * digitValue digits + (c.toNat - '0'.toNat) := by
        rw [digitValue, Nat.ofDigitChars_append, Nat.ofDigitChars_cons, Nat.ofDigitChars_nil]
        rfl
      rw [hstep, ih, placeValue, placeValue, List.reverse_concat, List.map_cons, Nat.ofDigits_cons,
        Nat.add_comm]

end Text

namespace Field

open Text

private theorem read_of_fits {raw : List Char} (hdigits : isDigitString raw = true)
    (hfits : placeValue raw < 2 ^ 64) :
    ∃ value : UInt64, read raw = .number value ∧ value.toNat = placeValue raw := by
  rw [← digitValue_eq_placeValue] at hfits ⊢
  rw [read, dif_pos ⟨hdigits, hfits⟩]
  exact ⟨_, rfl, UInt64.toNat_ofNatLT⟩

private theorem read_of_large {raw : List Char} (hlarge : 2 ^ 64 ≤ placeValue raw) :
    read raw = .word (String.ofList raw) := by
  rw [← digitValue_eq_placeValue] at hlarge
  rw [read, dif_neg]
  rintro ⟨-, hfits⟩
  exact absurd hfits (Nat.not_lt.mpr hlarge)

private theorem compare_read_of_fits_of_large {small large : List Char}
    (hsmall : isDigitString small = true) (hfits : placeValue small < 2 ^ 64)
    (hlarge : 2 ^ 64 ≤ placeValue large) : compare (read small) (read large) = .lt := by
  obtain ⟨value, hread, -⟩ := read_of_fits hsmall hfits
  rw [hread, read_of_large hlarge]
  rfl

/-- Digit strings that do not both exceed 64 bits compare as numbers. -/
theorem compare_read {p q : List Char} (hp : isDigitString p = true) (hq : isDigitString q = true)
    (hfits : placeValue p < 2 ^ 64 ∨ placeValue q < 2 ^ 64) :
    compare (read p) (read q) = compare (placeValue p) (placeValue q) := by
  by_cases hpfits : placeValue p < 2 ^ 64
  · by_cases hqfits : placeValue q < 2 ^ 64
    · obtain ⟨m, hreadp, hm⟩ := read_of_fits hp hpfits
      obtain ⟨n, hreadq, hn⟩ := read_of_fits hq hqfits
      rw [hreadp, hreadq, ← hm, ← hn]
      exact UInt64.compare_eq_toNat_compare_toNat m n
    · have hlt : placeValue p < placeValue q := by omega
      rw [compare_read_of_fits_of_large hp hpfits (Nat.not_lt.mp hqfits)]
      exact (Nat.compare_eq_lt.mpr hlt).symm
  · have hqfits : placeValue q < 2 ^ 64 := by omega
    have hlt : placeValue q < placeValue p := by omega
    have hread := compare_read_of_fits_of_large hq hqfits (Nat.not_lt.mp hpfits)
    rw [Std.OrientedCmp.gt_of_lt hread]
    exact (Nat.compare_eq_gt.mpr hlt).symm

end Field

namespace Version

open Text

/-- The pieces of a text between its dots, without the blanks at its ends. -/
def dotted (text : String) : List (List Char) := (trim text.toList).splitOn '.'

/-- The number in a place of a text, zero past its last piece. -/
def numberAt (text : String) (i : Nat) : Nat := ((dotted text).map placeValue).getD i 0

/-- The piece in a place of a text, continued with zeros. -/
private def pieceAt (text : String) (i : Nat) : List Char := (dotted text).getD i ['0']

private theorem fieldAt_parse (text : String) (i : Nat) :
    (parse text).fieldAt i = Field.read (pieceAt text i) := by
  have hfields : (parse text).fields = (dotted text).map Field.read := fields_parse text
  have hzero : Field.zero = Field.read ['0'] := by decide
  rw [fieldAt, hfields, hzero, List.getD_map, pieceAt]

private theorem numberAt_eq (text : String) (i : Nat) :
    numberAt text i = placeValue (pieceAt text i) := by
  have hzero : 0 = placeValue ['0'] := by decide
  rw [numberAt, hzero, List.getD_map, pieceAt]

private theorem isDigitString_pieceAt {text : String}
    (hdigits : ∀ piece ∈ dotted text, isDigitString piece = true) (i : Nat) :
    isDigitString (pieceAt text i) = true := by
  rw [pieceAt]
  by_cases hi : i < (dotted text).length
  · rw [List.getD_eq_getElem _ _ hi]
    exact hdigits _ (List.getElem_mem hi)
  · rw [List.getD_eq_default _ _ (Nat.not_lt.mp hi)]
    decide

theorem compare_fieldAt {a b : String} (ha : ∀ piece ∈ dotted a, isDigitString piece = true)
    (hb : ∀ piece ∈ dotted b, isDigitString piece = true) {i : Nat}
    (hfits : numberAt a i < 2 ^ 64 ∨ numberAt b i < 2 ^ 64) :
    compare ((parse a).fieldAt i) ((parse b).fieldAt i) =
      compare (numberAt a i) (numberAt b i) := by
  rw [numberAt_eq, numberAt_eq] at hfits ⊢
  rw [fieldAt_parse, fieldAt_parse]
  exact Field.compare_read (isDigitString_pieceAt ha i) (isDigitString_pieceAt hb i) hfits

/-- Versions of digit strings compare as the numbers do in the first place where these differ, and
are equal if there is none, provided that no two numbers beyond 64 bits meet in one place. A number
beyond 64 bits comes after every one within. -/
theorem compare_parse_of_digits (a b : String)
    (ha : ∀ piece ∈ dotted a, isDigitString piece = true)
    (hb : ∀ piece ∈ dotted b, isDigitString piece = true)
    (hfits : ∀ i, numberAt a i < 2 ^ 64 ∨ numberAt b i < 2 ^ 64) :
    (compare (parse a) (parse b) = .lt ↔
        ∃ i, numberAt a i < numberAt b i ∧ ∀ j < i, numberAt a j = numberAt b j) ∧
      (compare (parse a) (parse b) = .eq ↔ ∀ i, numberAt a i = numberAt b i) ∧
      (compare (parse a) (parse b) = .gt ↔
        ∃ i, numberAt b i < numberAt a i ∧ ∀ j < i, numberAt a j = numberAt b j) ∧
      ∀ small large : List Char, isDigitString small = true → isDigitString large = true →
        placeValue small < 2 ^ 64 → 2 ^ 64 ≤ placeValue large →
          compare (Field.read small) (Field.read large) = .lt := by
  have hcompare (i : Nat) : compare ((parse a).fieldAt i) ((parse b).fieldAt i) =
      compare (numberAt a i) (numberAt b i) := compare_fieldAt ha hb (hfits i)
  have hsame (i : Nat) : (parse a).fieldAt i = (parse b).fieldAt i ↔
      numberAt a i = numberAt b i := by
    have hfield : compare ((parse a).fieldAt i) ((parse b).fieldAt i) = .eq ↔
        (parse a).fieldAt i = (parse b).fieldAt i := Std.LawfulEqCmp.compare_eq_iff_eq
    rw [← hfield, hcompare, Nat.compare_eq_eq]
  refine ⟨?_, ?_, ?_, ?_⟩
  · rw [compare_eq_lt_iff]
    simp only [hcompare, hsame, Nat.compare_eq_lt]
  · rw [compare_eq_eq_iff]
    simp only [hsame]
  · rw [compare_eq_gt_iff]
    simp only [hcompare, hsame, Nat.compare_eq_gt]
  · intro small large hsmall _ hfits hlarge
    exact Field.compare_read_of_fits_of_large hsmall hfits hlarge

/-- Leading zeros, blanks, a missing field, and the least number beyond 64 bits against the greatest
one within. -/
theorem compare_parse_of_digits_at_limit :
    let a := " 007.18446744073709551616 "
    let b := "7.00018446744073709551615.1"
    (∀ piece ∈ dotted a, isDigitString piece = true) ∧
      (∀ piece ∈ dotted b, isDigitString piece = true) ∧
      (∀ i, numberAt a i < 2 ^ 64 ∨ numberAt b i < 2 ^ 64) ∧
      numberAt b 1 < numberAt a 1 ∧ compare (parse a) (parse b) = .gt := by
  intro a b
  have ha : ∀ piece ∈ dotted a, isDigitString piece = true := by decide
  have hb : ∀ piece ∈ dotted b, isDigitString piece = true := by decide
  have hfits : ∀ i, numberAt a i < 2 ^ 64 ∨ numberAt b i < 2 ^ 64 := by
    intro i
    match i with
    | 0 => exact .inl (by decide)
    | 1 => exact .inr (by decide)
    | i + 2 =>
        have hlength : ((dotted a).map placeValue).length = 2 := by decide
        have hpast : numberAt a (i + 2) = 0 := List.getD_eq_default _ _ (by omega)
        exact .inl (by rw [hpast]; decide)
  have hplace : numberAt b 1 < numberAt a 1 := by decide
  refine ⟨ha, hb, hfits, hplace, ?_⟩
  apply (compare_parse_of_digits a b ha hb hfits).2.2.1.mpr
  refine ⟨1, hplace, ?_⟩
  intro j hj
  obtain rfl : j = 0 := by omega
  decide

end Version

end VersionDispatch
