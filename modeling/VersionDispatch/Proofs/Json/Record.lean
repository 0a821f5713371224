import VersionDispatch.Json.Decode
import VersionDispatch.Proofs.Lists

namespace VersionDispatch.Json

/-- A property of the record that no field undoes when it is filled. -/
def KeptByFields {τ : Type} (P : τ → Prop) (fields : List (RecordField τ)) : Prop :=
  ∀ field ∈ fields, ∀ node record filled,
    P record → field.fill node record = .ok filled → P filled

variable {τ : Type} {P : τ → Prop} {fields : List (RecordField τ)}

theorem KeptByFields.fillMembers (hkept : KeptByFields P fields)
    (members : List (Literal × Node)) {record filled : τ} (h : P record)
    (hfill : fillMembers fields record members = .ok filled) : P filled := by
  induction members generalizing record with
  | nil => exact Except.ok.inj hfill ▸ h
  | cons member members ih =>
      obtain ⟨key, node⟩ := member
      rw [Json.fillMembers] at hfill
      obtain ⟨name, -, hfill⟩ := (bind_eq_ok_iff _ _ _).mp hfill
      cases hfind : fields.find? fun field => field.name == name with
      | none =>
          -- A member without a field is passed over.
          simp only [hfind] at hfill
          obtain ⟨⟨⟩, -, hrest⟩ := (bind_eq_ok_iff _ _ _).mp hfill
          exact ih h hrest
      | some field =>
          simp only [hfind] at hfill
          split at hfill
          · contradiction
          · obtain ⟨next, hnext, hrest⟩ := (bind_eq_ok_iff _ _ _).mp hfill
            have hfield := List.mem_of_find?_eq_some hfind
            exact ih (hkept field hfield node record next h hnext) hrest

theorem KeptByFields.fillItems (hkept : KeptByFields P fields) (ending : Option Fault)
    (items : List Node) {record filled : τ} (h : P record)
    (hfill : fillItems record ending fields items = .ok filled) : P filled := by
  induction items generalizing record fields with
  | nil =>
      rw [Json.fillItems] at hfill
      obtain ⟨⟨⟩, -, hdone⟩ := (bind_eq_ok_iff _ _ _).mp hfill
      exact Except.ok.inj hdone ▸ h
  | cons node items ih =>
      cases fields with
      | nil => contradiction
      | cons field fields =>
          obtain ⟨hfield, hfields⟩ := List.forall_mem_cons.mp hkept
          obtain ⟨next, hnext, hrest⟩ := (bind_eq_ok_iff _ _ _).mp hfill
          exact ih hfields (hfield node record next h hnext) hrest

theorem KeptByFields.record (hkept : KeptByFields P fields) {unset filled : τ} (h : P unset)
    (node : Node) (hrecord : node.record fields unset = .ok filled) : P filled := by
  cases node with
  | object members ending =>
      obtain ⟨record, hfill, hrest⟩ := (bind_eq_ok_iff _ _ _).mp hrecord
      obtain ⟨⟨⟩, -, hdone⟩ := (bind_eq_ok_iff _ _ _).mp hrest
      exact Except.ok.inj hdone ▸ hkept.fillMembers members h hfill
  | list items ending => exact hkept.fillItems ending items h hrecord
  | literal content => contradiction
  | scalar content => contradiction
  | absent fault => contradiction

theorem Node.nodup_keys_of_tableOf {α : Type} {value : Node → Except Fault α} {node : Node}
    {table : Table String α} (h : node.tableOf value = .ok table) : table.keys.Nodup := by
  cases node with
  | object members ending =>
      obtain ⟨entries, -, hrest⟩ := (bind_eq_ok_iff _ _ _).mp h
      obtain ⟨⟨⟩, -, hdone⟩ := (bind_eq_ok_iff _ _ _).mp hrest
      exact Except.ok.inj hdone ▸ Table.nodup_keys_ofList entries
  | list items ending => contradiction
  | literal content => contradiction
  | scalar content => contradiction
  | absent fault => contradiction

theorem read_root_of_decode {α : Type} {read : Node → Except Fault α} {text : String} {value : α}
    (h : decode read text = .ok value) : read (Document.ofText text).root = .ok value := by
  obtain ⟨read, hread, hrest⟩ := (bind_eq_ok_iff _ _ _).mp h
  split at hrest
  · contradiction
  · exact hread.trans (congrArg Except.ok (Except.ok.inj hrest))

end VersionDispatch.Json
