import VersionDispatch.Text.Blank
import VersionDispatch.Text.Reading
import VersionDispatch.Text.Outline

namespace VersionDispatch

inductive Field where
  | number (value : UInt64)
  | word (text : String)
  deriving DecidableEq, Hashable

namespace Field

/-- The field that stands in for the parts a version does not write. -/
def zero : Field := .number 0

def read (raw : List Char) : Field :=
  if h : Text.isDigitString raw ∧ Text.digitValue raw < UInt64.size then
    .number (UInt64.ofNatLT (Text.digitValue raw) h.2)
  else
    .word (String.ofList raw)

def chars (field : Field) : List Char :=
  match field with
  | .number value => Text.decimal value.toNat
  | .word text => text.toList

def text (field : Field) : String := String.ofList field.chars

def outline (field : Field) : Text.Outline :=
  match field with
  | .number value => .tuple "Numeric" [.number value.toNat]
  | .word text => .tuple "Token" [.text text]

/-- Numbers by value, then words by code points. -/
instance : Ord Field where
  compare
    | .number m, .number n => compare m n
    | .number _, .word _ => .lt
    | .word _, .number _ => .gt
    | .word s, .word t => compare s t

end Field

end VersionDispatch

namespace VersionDispatch

@[ext] structure Version where
  text : String
  trimmed : Text.IsTrimmed text.toList

namespace Version

def ofChars (s : List Char) : Version where
  text := String.ofList (Text.trim s)
  trimmed := by simpa using Text.isTrimmed_trim s

/-- Reads a text as a version; blanks at its ends do not belong to it. -/
def parse (text : String) : Version := ofChars text.toList

def fields (v : Version) : List Field := (v.text.toList.splitOn '.').map Field.read

instance : ToString Version := ⟨text⟩

theorem parse_text (v : Version) : parse v.text = v := by
  apply Version.ext
  simp [parse, ofChars, Text.trim_eq_self _ v.trimmed]

theorem toList_text_parse (text : String) : (parse text).text.toList = Text.trim text.toList :=
  String.toList_ofList

theorem fields_parse (text : String) :
    (parse text).fields = ((Text.trim text.toList).splitOn '.').map Field.read := by
  rw [fields, toList_text_parse]

def outline (v : Version) : Text.Outline :=
  .record "Version" [("text", .text v.text), ("fields", .list (v.fields.map Field.outline))] false

end Version

end VersionDispatch

namespace VersionDispatch.Version

def extend (length : Nat) (fields : List Field) : List Field :=
  fields ++ List.replicate (length - fields.length) Field.zero

/-- Compares two lists of fields at the length of the longer one. -/
def compareFields (as bs : List Field) : Ordering :=
  List.compareLex compare (extend bs.length as) (extend as.length bs)

instance : Ord Version := ⟨fun v w => compareFields v.fields w.fields⟩

instance : LT Version := ltOfOrd

instance : LE Version := leOfOrd

/-- Equal versions may be written differently. -/
instance : BEq Version := ⟨fun v w => compare v w == .eq⟩

instance (v w : Version) : Decidable (v < w) := inferInstanceAs (Decidable (_ = _))

instance (v w : Version) : Decidable (v ≤ w) := inferInstanceAs (Decidable (_ = _))

/-- The fields up to the last one that is not zero. -/
def significantFields (v : Version) : List Field :=
  v.fields.take (v.fields.length - v.fields.reverse.findIdx (· != Field.zero))

instance : Hashable Version := ⟨fun v => hash v.significantFields⟩

end VersionDispatch.Version
