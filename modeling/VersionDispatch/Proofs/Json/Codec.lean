import VersionDispatch.Json.Codec
import VersionDispatch.Proofs.Criteria.RoundTrip
import VersionDispatch.Proofs.Lists
import VersionDispatch.Proofs.Json.Literal

namespace VersionDispatch

open Json

namespace Json

/-- The node that the JSON of a text is read as. -/
def Node.ofText (text : String) : Node := .literal (.ofText text)

private theorem Document.ofText_literal {text json : String} (h : IsLiteralOf text json) :
    Document.ofText json = ⟨.ofText text, false⟩ := by
  have hlexemes : lexemes json.toList = [.literal (.ofText text)] := by
    have hopen := lexemes_literal h []
    rwa [List.append_nil, lexemes] at hopen
  rw [Document.ofText, hlexemes]
  rfl

theorem decode_literal {α : Type} (read : Node → Except Fault α) {text json : String}
    (h : IsLiteralOf text json) : decode read json = read (.ofText text) := by
  rw [decode, Document.ofText_literal h]
  exact bind_pure _

end Json

namespace Version

private theorem isLiteralOf_toJson (v : Version) : IsLiteralOf v.text v.toJson :=
  isLiteralOf_writeText v.text

theorem ofJson_toJson (v : Version) : ofJson v.toJson = .ok v := by
  rw [ofJson, decode_literal ofNode v.isLiteralOf_toJson]
  show Except.ok (parse v.text) = .ok v
  rw [parse_text]

end Version

namespace Criteria

private theorem isLiteralOf_toJson (c : Criteria) : IsLiteralOf c.text c.toJson :=
  isLiteralOf_writeText c.text

theorem ofJson_toJson (c : Criteria) : ofJson c.toJson = .ok c := by
  rw [ofJson, decode_literal ofNode c.isLiteralOf_toJson, ofNode, bind_eq_ok_iff]
  refine ⟨c.text, rfl, ?_⟩
  rw [parse_text]
  rfl

end Criteria

namespace DispatchKey

/-- The object that the JSON of a key is read as. -/
def node (key : DispatchKey) : Node :=
  .object [(.ofText "scope", .ofText key.scope), (.ofText "name", .ofText key.name)] none

private theorem ofNode_node (key : DispatchKey) : ofNode key.node = .ok key := rfl

private theorem exists_literals_toJson (key : DispatchKey) :
    ∃ scope name, IsLiteralOf key.scope scope ∧ IsLiteralOf key.name name ∧
      key.toJson = "\x7b\"scope\":" ++ scope ++ ",\"name\":" ++ name ++ "\x7d" := by
  refine ⟨writeText key.scope, writeText key.name, isLiteralOf_writeText _,
    isLiteralOf_writeText _, ?_⟩
  have hscope : "\x7b" ++ writeText "scope" ++ ":" = "\x7b\"scope\":" := by decide
  have hname : "," ++ writeText "name" ++ ":" = ",\"name\":" := by decide
  rw [toJson, hscope, ← hname]
  simp only [String.append_assoc]

private theorem document_toJson (key : DispatchKey) :
    Document.ofText key.toJson = ⟨key.node, false⟩ := by
  have hchars : key.toJson.toList =
      '\x7b' :: ((writeText "scope").toList ++ ':' :: ((writeText key.scope).toList ++
        ',' :: ((writeText "name").toList ++ ':' :: ((writeText key.name).toList ++
          ['\x7d'])))) := by
    simp [toJson]
  have hlexemes : lexemes key.toJson.toList =
      [.openObject, .literal (.ofText "scope"), .colon, .literal (.ofText key.scope), .comma,
        .literal (.ofText "name"), .colon, .literal (.ofText key.name), .closeObject] := by
    have hliteral (text : String) := lexemes_literal (isLiteralOf_writeText text)
    rw [hchars, lexemes_mark rfl, hliteral, lexemes_mark rfl, hliteral, lexemes_mark rfl, hliteral,
      lexemes_mark rfl, hliteral, lexemes_mark rfl, lexemes]
  rw [Document.ofText, hlexemes]
  rfl

theorem ofJson_toJson (key : DispatchKey) : ofJson key.toJson = .ok key := by
  rw [ofJson, decode, key.document_toJson]
  show ofNode key.node >>= pure = .ok key
  rw [ofNode_node]
  rfl

end DispatchKey

/-- Versions and criteria are written as JSON of their texts, dispatch keys as an object of the JSON
of their scope and their name. They are read back from it with the same texts and fields, the same
operator and bounds, the same scope and name, and are written the same again. -/
theorem json_reads_back (v : Version) (c : Criteria) (key : DispatchKey) :
    (IsLiteralOf v.text v.toJson ∧
      ∃ w, Version.ofJson v.toJson = .ok w ∧
        w.text = v.text ∧ w.fields = v.fields ∧ w.toJson = v.toJson) ∧
    (IsLiteralOf c.text c.toJson ∧
      ∃ d, Criteria.ofJson c.toJson = .ok d ∧
        d.operator = c.operator ∧ d.bound.text = c.bound.text ∧
        d.upper.map Version.text = c.upper.map Version.text ∧ d.toJson = c.toJson) ∧
    (∃ scope name, IsLiteralOf key.scope scope ∧ IsLiteralOf key.name name ∧
      key.toJson = "\x7b\"scope\":" ++ scope ++ ",\"name\":" ++ name ++ "\x7d") ∧
    ∃ k, DispatchKey.ofJson key.toJson = .ok k ∧
      k.scope = key.scope ∧ k.name = key.name ∧ k.toJson = key.toJson := by
  refine ⟨⟨v.isLiteralOf_toJson, v, v.ofJson_toJson, ?_⟩,
    ⟨c.isLiteralOf_toJson, c, c.ofJson_toJson, ?_⟩,
    key.exists_literals_toJson, key, key.ofJson_toJson, ?_⟩
  · exact ⟨rfl, rfl, rfl⟩
  · exact ⟨rfl, rfl, rfl, rfl⟩
  · exact ⟨rfl, rfl, rfl⟩

end VersionDispatch
