import VersionDispatch.Json.Lexeme

/-!
# Text that is written as a literal

A character is written in one of three ways. The reader and the skipper each take in a whole
character in one step whichever it is, so that a text which is spelled between quotes is read back,
is passed over up to its closing quote, and is one lexeme.
-/

namespace VersionDispatch.Json

/-- The ways a character stands in a literal that is written: as it is, by a letter, or, if it is a
control character, by the digits of its number. -/
inductive WrittenAs (c : Char) : List Char → Prop where
  | plain (hquote : c ≠ '"') (hescape : c ≠ '\\') (hcontrol : ¬c.toNat < 0x20) : WrittenAs c [c]
  | short (letter : Char) (hletter : letter ≠ 'u') (hshort : shortEscape? letter = some c) :
      WrittenAs c ['\\', letter]
  | unit (high low : Char) (hunit : hexUnit? '0' '0' high low = some c.toNat)
      (hcontrol : c.toNat < 0x20) : WrittenAs c ['\\', 'u', '0', '0', high, low]

private theorem hexDigit?_digitChar : ∀ n < 16, Text.hexDigit? (Nat.digitChar n) = some n := by
  decide

private theorem hexUnit?_digitChar {n : Nat} (h : n < 0x20) :
    hexUnit? '0' '0' (Nat.digitChar (n / 16)) (Nat.digitChar (n % 16)) = some n := by
  have hzero : Text.hexDigit? '0' = some 0 := rfl
  rw [hexUnit?, hzero, hexDigit?_digitChar _ (by omega), hexDigit?_digitChar _ (by omega)]
  exact congrArg some (by omega)

private theorem writtenAs_writeChar (c : Char) : WrittenAs c (writeChar c) := by
  unfold writeChar
  split
  case h_8 hquote hescape _ _ _ _ _ =>
    by_cases hcontrol : c.toNat < 0x20
    · rw [if_pos hcontrol]
      exact .unit _ _ (hexUnit?_digitChar hcontrol) hcontrol
    · rw [if_neg hcontrol]
      exact .plain hquote hescape hcontrol
  all_goals exact .short _ (by decide) rfl

section Escapes

variable {c : Char} (s : List Char)

private theorem readEscape_short {letter : Char} (hletter : letter ≠ 'u')
    (hshort : shortEscape? letter = some c) :
    readEscape (letter :: s) = .ok (c, (Rest.all s).cons letter) := by
  rw [readEscape, if_neg hletter, hshort]

private theorem readEscape_unit {high low : Char} (hunit : hexUnit? '0' '0' high low = some c.toNat)
    (hcontrol : c.toNat < 0x20) :
    ∃ h, readEscape ('u' :: '0' :: '0' :: high :: low :: s) = .ok (c, ⟨s, h⟩) := by
  have htrailing : ¬isTrailing c.toNat = true := by
    simp only [isTrailing, Bool.and_eq_true, decide_eq_true_eq]
    omega
  have hsingle : (!isLeading c.toNat) = true := by
    simp only [isLeading, Bool.not_eq_true', Bool.and_eq_false_iff, decide_eq_false_iff_not]
    omega
  refine ⟨by simp only [List.length_cons]; omega, ?_⟩
  rw [readEscape, if_pos rfl, readEscapedUnits, readUnit, hunit]
  dsimp only
  rw [if_neg htrailing, if_pos hsingle, Char.ofNat_toNat]
  rfl

end Escapes

/-- Reading after an opening quote gives these characters and leaves this rest. -/
def Reads (s cs rest : List Char) : Prop := ∃ h, readLiteral s = .ok (cs, ⟨rest, h⟩)

/-- Passing over what follows an opening quote leaves this rest. -/
def Skips (s rest : List Char) : Prop := ∃ h, skipLiteral s = .ok ⟨rest, h⟩

private theorem reads_quote (s : List Char) : Reads ('"' :: s) [] s := by
  refine ⟨Nat.le_succ _, ?_⟩
  rw [readLiteral, if_pos rfl]
  rfl

private theorem skips_quote (s : List Char) : Skips ('"' :: s) s := by
  have hescape : '"' ≠ '\\' := by decide
  refine ⟨Nat.le_succ _, ?_⟩
  rw [skipLiteral, if_pos rfl]
  · rfl
  · exact fun h => absurd h hescape
  · exact fun _ _ h => absurd h hescape

section Characters

variable {c : Char} {written s rest : List Char}

private theorem length_le_of_written (h : rest.length ≤ s.length) :
    rest.length ≤ (written ++ s).length := by
  rw [List.length_append]
  omega

theorem Reads.append {cs : List Char} (h : Reads s cs rest) (hwritten : WrittenAs c written) :
    Reads (written ++ s) (c :: cs) rest := by
  obtain ⟨hlength, hread⟩ := h
  refine ⟨length_le_of_written hlength, ?_⟩
  cases hwritten with
  | plain hquote hescape hcontrol =>
      show readLiteral (c :: s) = _
      rw [readLiteral, if_neg hquote, if_neg hescape, if_neg hcontrol, hread]
      rfl
  | short letter hletter hshort =>
      show readLiteral ('\\' :: letter :: s) = _
      rw [readLiteral, if_neg (by decide), if_pos rfl, readEscape_short s hletter hshort]
      simp only [Rest.cons, Rest.all, Rest.widen, hread]
      rfl
  | unit high low hunit hcontrol =>
      obtain ⟨_, hescape⟩ := readEscape_unit s hunit hcontrol
      show readLiteral ('\\' :: 'u' :: '0' :: '0' :: high :: low :: s) = _
      rw [readLiteral, if_neg (by decide), if_pos rfl, hescape]
      simp only [hread]
      rfl

theorem Skips.append (h : Skips s rest) (hwritten : WrittenAs c written) :
    Skips (written ++ s) rest := by
  obtain ⟨hlength, hskip⟩ := h
  refine ⟨length_le_of_written hlength, ?_⟩
  cases hwritten with
  | plain hquote hescape hcontrol =>
      show skipLiteral (c :: s) = _
      rw [skipLiteral, if_neg hquote, if_neg hcontrol, hskip]
      · rfl
      · exact fun h => absurd h hescape
      · exact fun _ _ h => absurd h hescape
  | short letter hletter hshort =>
      have hsome : (shortEscape? letter).isSome = true := by rw [hshort]; rfl
      show skipLiteral ('\\' :: letter :: s) = _
      rw [skipLiteral, if_neg hletter, if_pos hsome, hskip]
      rfl
  | unit high low hunit hcontrol =>
      show skipLiteral ('\\' :: 'u' :: '0' :: '0' :: high :: low :: s) = _
      rw [skipLiteral, if_pos rfl, readUnit, hunit]
      simp only [hskip]
      rfl

end Characters

/-- Characters one after the other, each in one of its ways. -/
inductive Spells : List Char → List Char → Prop where
  | nil : Spells [] []
  | cons {c : Char} {cs written more : List Char} (hwritten : WrittenAs c written)
      (hmore : Spells cs more) : Spells (c :: cs) (written ++ more)

namespace Spells

theorem flatMap_writeChar (s : List Char) : Spells s (s.flatMap writeChar) := by
  induction s with
  | nil => exact .nil
  | cons c s ih => exact .cons (writtenAs_writeChar c) ih

variable {s written : List Char}

/-- Characters that are spelled before a quote are read as these, in whatever ways. -/
theorem reads (h : Spells s written) (rest : List Char) :
    Reads (written ++ '"' :: rest) s rest := by
  induction h with
  | nil => exact reads_quote rest
  | cons hwritten _ ih =>
      rw [List.append_assoc]
      exact ih.append hwritten

theorem skips (h : Spells s written) (rest : List Char) : Skips (written ++ '"' :: rest) rest := by
  induction h with
  | nil => exact skips_quote rest
  | cons hwritten _ ih =>
      rw [List.append_assoc]
      exact ih.append hwritten

end Spells

/-- JSON of a text is its characters, spelled between quotes. -/
def IsLiteralOf (text json : String) : Prop :=
  ∃ written, Spells text.toList written ∧ json.toList = '"' :: written ++ ['"']

theorem isLiteralOf_writeText (text : String) : IsLiteralOf text (writeText text) := by
  refine ⟨_, .flatMap_writeChar text.toList, ?_⟩
  rw [writeText, String.toList_ofList, writeLiteral]

/-- The literal that the JSON of a text is read as. -/
def Literal.ofText (text : String) : Literal := ⟨.ok text, none⟩

theorem lexemes_literal {text json : String} (h : IsLiteralOf text json) (rest : List Char) :
    lexemes (json.toList ++ rest) = .literal (.ofText text) :: lexemes rest := by
  obtain ⟨written, hspells, hjson⟩ := h
  obtain ⟨_, hread⟩ := hspells.reads rest
  obtain ⟨_, hskip⟩ := hspells.skips rest
  have hopen : json.toList ++ rest = '"' :: (written ++ '"' :: rest) := by simp [hjson]
  rw [hopen, lexemes, if_neg (by decide), if_pos rfl, hread, hskip]
  simp only [Except.map, String.ofList_toList]
  rfl

theorem lexemes_mark {c : Char} {mark : Lexeme} (h : Lexeme.ofMark? c = some mark)
    (s : List Char) : lexemes (c :: s) = mark :: lexemes s := by
  have hspace : ¬isSpace c = true := by
    intro hc
    simp only [isSpace, Bool.or_eq_true, beq_iff_eq] at hc
    obtain ((rfl | rfl) | rfl) | rfl := hc <;> contradiction
  have hquote : c ≠ '"' := by
    rintro rfl
    contradiction
  rw [lexemes, if_neg hspace, if_neg hquote, h]

end VersionDispatch.Json
