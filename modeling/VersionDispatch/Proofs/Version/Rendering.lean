import VersionDispatch.Proofs.Text.Joined
import VersionDispatch.Proofs.Version.Order

namespace VersionDispatch

open Text

namespace Text

private theorem isBlank_of_isDigit {c : Char} (h : c.isDigit = true) : isBlank c = false := by
  have hdigit : 48 ≤ c.toNat ∧ c.toNat ≤ 57 := Char.isDigit_iff_toNat.mp h
  have hapart : ∀ range ∈ blankRanges, range.2 < 48 ∨ 57 < range.1 := by decide
  rw [isBlank, CharRanges.contains, List.any_eq_false]
  intro range hrange
  have hbounds := hapart range hrange
  simp only [Bool.and_eq_true, decide_eq_true_eq, not_and]
  omega

private theorem isDigit_of_mem_decimal {n : Nat} {c : Char} (h : c ∈ decimal n) :
    c.isDigit = true :=
  Nat.isDigit_of_mem_toDigits (by decide) (by decide) h

private theorem isDigitString_decimal (n : Nat) : isDigitString (decimal n) = true := by
  have hne : (decimal n).isEmpty = false := by simp [decimal]
  have hdigits : (decimal n).all Char.isDigit = true := by
    rw [List.all_eq_true]
    intro c hc
    exact isDigit_of_mem_decimal hc
  rw [isDigitString, hne, hdigits]
  rfl

private theorem digitValue_decimal (n : Nat) : digitValue (decimal n) = n :=
  Nat.ofDigitChars_ten_toDigits

end Text

namespace Field

theorem read_decimal (value : UInt64) : read (decimal value.toNat) = .number value := by
  have hvalue : digitValue (decimal value.toNat) = value.toNat := digitValue_decimal _
  have hfits : digitValue (decimal value.toNat) < UInt64.size := by
    rw [hvalue]
    exact value.toNat_lt
  rw [read, dif_pos ⟨isDigitString_decimal _, hfits⟩]
  simp [hvalue]

/-- A piece that is not a number, or is one that does not fit, is written as it stands. -/
theorem chars_read_cases (raw : List Char) :
    (∃ value, read raw = .number value) ∨ (read raw).chars = raw := by
  rw [read]
  split
  · exact .inl ⟨_, rfl⟩
  · exact .inr (by simp [chars])

theorem read_chars_read (raw : List Char) : read (read raw).chars = read raw := by
  rcases chars_read_cases raw with ⟨value, hvalue⟩ | hword
  · rw [hvalue]
    exact read_decimal value
  · rw [hword]

private theorem chars_read_eq_or_digits (raw : List Char) :
    (read raw).chars = raw ∨ ∀ c ∈ (read raw).chars, c.isDigit = true := by
  rcases chars_read_cases raw with ⟨value, hvalue⟩ | hword
  · right
    intro c hc
    rw [hvalue] at hc
    exact isDigit_of_mem_decimal hc
  · exact .inl hword

theorem dot_notMem_chars_read {raw : List Char} (h : '.' ∉ raw) : '.' ∉ (read raw).chars := by
  rcases chars_read_eq_or_digits raw with hword | hdigits
  · rwa [hword]
  · intro hdot
    have hdigit := hdigits '.' hdot
    contradiction

private theorem chars_read_ends (raw : List Char) :
    ((∀ c ∈ raw.head?, isBlank c = false) → ∀ c ∈ (read raw).chars.head?, isBlank c = false) ∧
      ((∀ c ∈ raw.getLast?, isBlank c = false) →
        ∀ c ∈ (read raw).chars.getLast?, isBlank c = false) := by
  rcases chars_read_eq_or_digits raw with hword | hdigits
  · rw [hword]
    exact ⟨id, id⟩
  · refine ⟨fun _ c hc => ?_, fun _ c hc => ?_⟩
    · exact isBlank_of_isDigit (hdigits c (List.mem_of_head? hc))
    · exact isBlank_of_isDigit (hdigits c (List.mem_of_getLast? hc))

end Field

namespace Version

/-- The fields of a version, written with dots between them. -/
def fieldText (v : Version) : String := ".".intercalate (v.fields.map Field.text)

/-- What is written for the pieces of a version. -/
private def writtenPieces (v : Version) : List (List Char) :=
  (v.text.toList.splitOn '.').map fun raw => (Field.read raw).chars

private theorem toList_fieldText (v : Version) :
    v.fieldText.toList = ['.'].intercalate (writtenPieces v) := by
  have hchars (raw : List Char) : (Field.read raw).text.toList = (Field.read raw).chars :=
    String.toList_ofList
  simp [fieldText, fields, writtenPieces, Function.comp_def, hchars]

private theorem isTrimmed_fieldText (v : Version) : IsTrimmed v.fieldText.toList := by
  have hdot : isBlank '.' = false := by decide
  have htext : IsTrimmed (['.'].intercalate (v.text.toList.splitOn '.')) := by
    rw [List.intercalate_splitOn]
    exact v.trimmed
  rw [isTrimmed_intercalate_iff hdot] at htext
  rw [toList_fieldText, isTrimmed_intercalate_iff hdot, writtenPieces, List.head?_map,
    List.getLast?_map]
  constructor
  · intro first hfirst
    obtain ⟨raw, hraw, rfl⟩ := Option.map_eq_some_iff.mp hfirst
    exact (Field.chars_read_ends raw).1 (htext.1 raw hraw)
  · intro last hlast
    obtain ⟨raw, hraw, rfl⟩ := Option.map_eq_some_iff.mp hlast
    exact (Field.chars_read_ends raw).2 (htext.2 raw hraw)

private theorem splitOn_fieldText (v : Version) :
    v.fieldText.toList.splitOn '.' = writtenPieces v := by
  rw [toList_fieldText]
  apply List.splitOn_intercalate
  · intro piece hpiece
    obtain ⟨raw, hraw, rfl⟩ := List.mem_map.mp hpiece
    exact Field.dot_notMem_chars_read (notMem_of_mem_splitOn hraw)
  · simp [writtenPieces]

theorem fields_parse_fieldText (v : Version) : (parse v.fieldText).fields = v.fields := by
  have htext : (parse v.fieldText).text.toList = v.fieldText.toList := by
    rw [toList_text_parse, trim_eq_self _ (isTrimmed_fieldText v)]
  rw [fields, htext, splitOn_fieldText, writtenPieces, List.map_map, fields]
  apply List.map_congr_left
  intro raw _
  exact Field.read_chars_read raw

theorem length_fields_parse (t : String) : (parse t).fields.length = t.toList.count '.' + 1 := by
  have hdot : isBlank '.' = false := by decide
  rw [fields_parse, List.length_map, length_splitOn, count_trim hdot]

/-- Nothing is lost in writing out the fields of a version: they are read back one by one, so that
the version read is equal to the first and hashed like it. There is a field more than there are dots
in the text. -/
theorem fields_read_back (t : String) :
    (parse (parse t).fieldText).fields = (parse t).fields ∧
      compare (parse (parse t).fieldText) (parse t) = .eq ∧
      (parse (parse t).fieldText).significantFields = (parse t).significantFields ∧
      hash (parse (parse t).fieldText) = hash (parse t) ∧
      (parse t).fields.length = t.toList.count '.' + 1 := by
  have hfields := fields_parse_fieldText (parse t)
  have hsignificant :
      (parse (parse t).fieldText).significantFields = (parse t).significantFields := by
    rw [significantFields, significantFields, hfields]
  have hequal : (parse (parse t).fieldText == parse t) = true :=
    (beq_iff_significantFields_eq _ _).mpr hsignificant
  refine ⟨hfields, (beq_iff_compare_eq _ _).mp hequal, hsignificant, ?_, length_fields_parse t⟩
  exact LawfulHashable.hash_eq _ _ hequal

/-- A leading zero and blanks go, an empty field, a sign and a number that is too long stay. -/
example : (parse " 007..+1.18446744073709551616 ").fieldText = "7..+1.18446744073709551616" := by
  decide

end Version

end VersionDispatch
