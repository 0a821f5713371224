/-!
# Tables

A table holds one value a key, in the order in which the keys first came. A later value for a key
takes the place of the earlier one and keeps its position.
-/

namespace VersionDispatch

structure Table (κ ν : Type) where
  entries : List (κ × ν)

namespace Table

variable {κ ν : Type} [DecidableEq κ]

def empty : Table κ ν := ⟨[]⟩

instance : EmptyCollection (Table κ ν) := ⟨empty⟩

def get? (t : Table κ ν) (key : κ) : Option ν := t.entries.lookup key

def keys (t : Table κ ν) : List κ := t.entries.map Prod.fst

def size (t : Table κ ν) : Nat := t.entries.length

def alterEntries (key : κ) (change : Option ν → ν) : List (κ × ν) → List (κ × ν)
  | [] => [(key, change none)]
  | (k, v) :: entries =>
      if k = key then (k, change (some v)) :: entries
      else (k, v) :: alterEntries key change entries

/-- Puts in the value made from the one that the key has, if it has one. -/
def alter (t : Table κ ν) (key : κ) (change : Option ν → ν) : Table κ ν :=
  ⟨alterEntries key change t.entries⟩

def insert (t : Table κ ν) (key : κ) (value : ν) : Table κ ν := t.alter key fun _ => value

def ofList (entries : List (κ × ν)) : Table κ ν :=
  entries.foldl (fun t (key, value) => t.insert key value) empty

@[simp] theorem get?_empty (key : κ) : (∅ : Table κ ν).get? key = none := rfl

private theorem lookup_alterEntries_self (key : κ) (change : Option ν → ν)
    (entries : List (κ × ν)) :
    (alterEntries key change entries).lookup key = some (change (entries.lookup key)) := by
  induction entries with
  | nil => simp [alterEntries]
  | cons entry entries ih =>
      obtain ⟨k, v⟩ := entry
      by_cases hk : k = key
      · simp [alterEntries, hk]
      · have hne : (key == k) = false := by simpa using Ne.symm hk
        rw [alterEntries, if_neg hk, List.lookup_cons, List.lookup_cons, hne]
        exact ih

private theorem lookup_alterEntries_of_ne (key other : κ) (change : Option ν → ν)
    (entries : List (κ × ν)) (h : other ≠ key) :
    (alterEntries key change entries).lookup other = entries.lookup other := by
  induction entries with
  | nil => simp [alterEntries, h]
  | cons entry entries ih =>
      obtain ⟨k, v⟩ := entry
      by_cases hk : k = key
      · have hother : (other == k) = false := by simpa [hk] using h
        rw [alterEntries, if_pos hk, List.lookup_cons, List.lookup_cons, hother]
      · rw [alterEntries, if_neg hk, List.lookup_cons, List.lookup_cons, ih]

@[simp] theorem get?_alter_self (t : Table κ ν) (key : κ) (change : Option ν → ν) :
    (t.alter key change).get? key = some (change (t.get? key)) :=
  lookup_alterEntries_self key change t.entries

theorem get?_alter_of_ne (t : Table κ ν) (key other : κ) (change : Option ν → ν)
    (h : other ≠ key) : (t.alter key change).get? other = t.get? other :=
  lookup_alterEntries_of_ne key other change t.entries h

@[simp] theorem get?_insert_self (t : Table κ ν) (key : κ) (value : ν) :
    (t.insert key value).get? key = some value :=
  get?_alter_self t key fun _ => value

theorem get?_insert_of_ne (t : Table κ ν) (key other : κ) (value : ν) (h : other ≠ key) :
    (t.insert key value).get? other = t.get? other :=
  get?_alter_of_ne t key other (fun _ => value) h

private theorem get?_foldl_insert (entries : List (κ × ν)) (t : Table κ ν) (key : κ) :
    (entries.foldl (fun t (k, v) => t.insert k v) t).get? key =
      (entries.reverse.lookup key).or (t.get? key) := by
  induction entries generalizing t with
  | nil => simp
  | cons entry entries ih =>
      obtain ⟨k, v⟩ := entry
      rw [List.foldl_cons, ih, List.reverse_cons, List.lookup_append, Option.or_assoc]
      congr 1
      by_cases hk : key = k
      · subst hk
        simp
      · have hne : (key == k) = false := by simpa using hk
        rw [get?_insert_of_ne t k key v hk, List.lookup_cons, hne, List.lookup_nil, Option.none_or]

/-- Of several entries for a key the last one counts. -/
theorem get?_ofList (entries : List (κ × ν)) (key : κ) :
    (ofList entries).get? key = entries.reverse.lookup key := by
  have h := get?_foldl_insert entries empty key
  rwa [show (empty : Table κ ν).get? key = none from rfl, Option.or_none] at h

private theorem map_fst_alterEntries (key : κ) (change : Option ν → ν) (entries : List (κ × ν)) :
    (alterEntries key change entries).map Prod.fst =
      if key ∈ entries.map Prod.fst then entries.map Prod.fst
      else entries.map Prod.fst ++ [key] := by
  induction entries with
  | nil => simp [alterEntries]
  | cons entry entries ih =>
      obtain ⟨k, v⟩ := entry
      by_cases hk : k = key
      · simp [alterEntries, hk]
      · rw [alterEntries, if_neg hk, List.map_cons, ih, List.map_cons]
        simp only [List.mem_cons, Ne.symm hk, false_or]
        split <;> simp

theorem keys_alter (t : Table κ ν) (key : κ) (change : Option ν → ν) :
    (t.alter key change).keys = if key ∈ t.keys then t.keys else t.keys ++ [key] :=
  map_fst_alterEntries key change t.entries

theorem nodup_keys_alter (t : Table κ ν) (key : κ) (change : Option ν → ν) (h : t.keys.Nodup) :
    (t.alter key change).keys.Nodup := by
  rw [keys_alter]
  split
  · exact h
  next hnew =>
    rw [List.nodup_append]
    refine ⟨h, by simp, ?_⟩
    intro k hk l hl
    rw [List.mem_singleton.mp hl]
    exact fun hkey => hnew (hkey ▸ hk)

private theorem nodup_keys_foldl_insert (entries : List (κ × ν)) (t : Table κ ν)
    (h : t.keys.Nodup) : (entries.foldl (fun t (k, v) => t.insert k v) t).keys.Nodup := by
  induction entries generalizing t with
  | nil => exact h
  | cons entry entries ih => exact ih _ (t.nodup_keys_alter entry.1 (fun _ => entry.2) h)

theorem nodup_keys_ofList (entries : List (κ × ν)) : (ofList entries).keys.Nodup :=
  nodup_keys_foldl_insert entries empty List.nodup_nil

theorem mem_keys_of_get? (t : Table κ ν) (key : κ) (value : ν) (h : t.get? key = some value) :
    key ∈ t.keys := by
  obtain ⟨before, after, hentries, -⟩ := List.lookup_eq_some_iff.mp h
  rw [keys, hentries]
  simp

theorem get?_eq_some_iff_mem (t : Table κ ν) (h : t.keys.Nodup) (key : κ) (value : ν) :
    t.get? key = some value ↔ (key, value) ∈ t.entries := by
  rw [get?, List.lookup_eq_some_iff, List.mem_iff_append]
  constructor
  · rintro ⟨before, after, hentries, -⟩
    exact ⟨before, after, hentries⟩
  · rintro ⟨before, after, hentries⟩
    refine ⟨before, after, hentries, ?_⟩
    rw [keys, hentries, List.map_append, List.nodup_append] at h
    intro earlier hearlier
    have hne := h.2.2 earlier.1 (List.mem_map_of_mem hearlier) key (by simp)
    simpa using Ne.symm hne

theorem get?_eq_none_of_notMem (t : Table κ ν) (key : κ) (h : key ∉ t.keys) :
    t.get? key = none := by
  cases hget : t.get? key with
  | none => rfl
  | some value => exact absurd (t.mem_keys_of_get? key value hget) h

/-- Do two tables give the same value for every key, in whatever order they hold them? -/
def sameEntries [DecidableEq ν] (t u : Table κ ν) : Bool :=
  t.size == u.size && t.entries.all fun (key, value) => u.get? key == some value

end Table

end VersionDispatch
