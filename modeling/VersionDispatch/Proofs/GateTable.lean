import VersionDispatch.GateTable
import VersionDispatch.Proofs.Lists
import VersionDispatch.Proofs.Json.Record

namespace VersionDispatch.GateTable

theorem criteria_eq_ok_iff (table : GateTable) (path : String) (criteria : List Criteria) :
    table.criteria path = .ok criteria ↔
      List.Forall₂ (fun expr c => Criteria.parse expr = .ok c) (table.expressions path)
        criteria := by
  simp only [GateTable.criteria, mapM_eq_ok_iff, mapError_eq_ok_iff]

theorem checkAll_eq_ok_iff (table : GateTable) :
    table.checkAll = .ok () ↔
      ∀ path ∈ table.gates.keys, ∃ criteria, table.criteria path = .ok criteria := by
  have hmap (path : String) : (table.criteria path).map (fun _ => ()) = .ok () ↔
      ∃ criteria, table.criteria path = .ok criteria := by
    cases table.criteria path with
    | error e => exact ⟨fun h => (nomatch h), fun ⟨_, h⟩ => (nomatch h)⟩
    | ok criteria => exact ⟨fun _ => ⟨criteria, rfl⟩, fun _ => rfl⟩
  exact (forM_eq_ok_iff _ _).trans (forall₂_congr fun path _ => hmap path)

/-- The criteria under every path of a table that loads can be read, also under one that the table
does not have. -/
theorem exists_criteria_of_load {text : String} {table : GateTable} (h : load text = .ok table)
    (path : String) : ∃ criteria, table.criteria path = .ok criteria := by
  obtain ⟨read, -, hread⟩ := (bind_eq_ok_iff _ _ _).mp h
  obtain ⟨⟨⟩, hcheck, htable⟩ := (bind_eq_ok_iff _ _ _).mp hread
  obtain rfl : read = table := Except.ok.inj htable
  have hall := (checkAll_eq_ok_iff read).mp ((mapError_eq_ok_iff _ _ _).mp hcheck)
  cases hget : read.gates.get? path with
  | some exprs => exact hall path (read.gates.mem_keys_of_get? path exprs hget)
  | none =>
      have hexprs : read.expressions path = [] := by rw [expressions, hget, Option.getD_none]
      refine ⟨[], (criteria_eq_ok_iff read path []).mpr ?_⟩
      rw [hexprs]
      exact .nil

theorem expressionAt?_eq (table : GateTable) (path : String) (index : Nat)
    (h : index < (table.expressions path).length) :
    table.expressionAt? path index = some (table.expressions path)[index] := by
  cases hget : table.gates.get? path with
  | none => simp [expressions, hget] at h
  | some exprs =>
      have hexprs : table.expressions path = exprs := by rw [expressions, hget, Option.getD_some]
      simp only [expressionAt?, hget, Option.bind_some, hexprs]
      exact List.getElem?_eq_getElem (hexprs ▸ h)

theorem loadFile_eq_of_load {text : String} {table : GateTable} (h : load text = .ok table)
    (path : String) : loadFile path (.ok text.toUTF8) = .ok table := by
  have htext : String.fromUTF8? text.toUTF8 = some text := dif_pos text.isValidUTF8
  have hbytes : (Except.ok text.toUTF8 : Except ReadFault ByteArray).mapError
      (LoadFault.file path) = .ok text.toUTF8 := rfl
  rw [loadFile, hbytes]
  simp only [bind, Except.bind, htext, h]

/-- The expressions of all paths, each with its path, in the order of the table. -/
def listed (table : GateTable) : List (String × String) :=
  table.gates.entries.flatMap fun (path, exprs) => exprs.map fun expr => (path, expr)

/-- Checks one expression under a path. -/
def checkOne (path expr : String) : Except GateFault Unit :=
  ((Criteria.parse expr).mapError (GateFault.mk path)).map fun _ => ()

private theorem checkOne_eq_ok_iff (path expr : String) :
    checkOne path expr = .ok () ↔ ∃ c, Criteria.parse expr = .ok c := by
  rw [checkOne]
  cases Criteria.parse expr with
  | error source => exact ⟨fun h => (nomatch h), fun ⟨_, h⟩ => (nomatch h)⟩
  | ok c => exact ⟨fun _ => ⟨c, rfl⟩, fun _ => rfl⟩

private theorem checkOne_eq_error_iff (path expr : String) (fault : GateFault) :
    checkOne path expr = .error fault ↔
      ∃ source, Criteria.parse expr = .error source ∧ fault = ⟨path, source⟩ := by
  rw [checkOne]
  cases Criteria.parse expr with
  | error source =>
      constructor
      · intro h
        exact ⟨source, rfl, (Except.error.inj h).symm⟩
      · rintro ⟨source', hsource, rfl⟩
        rw [Except.error.inj hsource]
        rfl
  | ok c => exact ⟨fun h => (nomatch h), fun ⟨_, h, _⟩ => (nomatch h)⟩

private theorem expressions_of_mem (table : GateTable) (h : table.gates.keys.Nodup) {path : String}
    {exprs : List String} (hmem : (path, exprs) ∈ table.gates.entries) :
    table.expressions path = exprs := by
  rw [expressions, (table.gates.get?_eq_some_iff_mem h path exprs).mpr hmem, Option.getD_some]

private theorem expressions_of_notMem (table : GateTable) {path : String}
    (h : path ∉ table.gates.keys) : table.expressions path = [] := by
  rw [expressions, table.gates.get?_eq_none_of_notMem path h, Option.getD_none]

/-- Going through the paths, and through the expressions of each, is going through all
expressions as they are listed. -/
theorem checkAll_eq_forM_listed (table : GateTable) (h : table.gates.keys.Nodup) :
    table.checkAll = forM table.listed fun (path, expr) => checkOne path expr := by
  have hpath : ∀ entry ∈ table.gates.entries,
      (table.criteria entry.1).map (fun _ => ()) =
        forM (entry.2.map fun expr => (entry.1, expr)) fun (path, expr) => checkOne path expr := by
    intro entry hentry
    rw [criteria, table.expressions_of_mem h hentry, map_mapM_eq_forM, List.forM_map]
    rfl
  calc
    table.checkAll
      = forM table.gates.entries fun entry => (table.criteria entry.1).map fun _ => () :=
        List.forM_map
    _ = forM table.gates.entries fun entry =>
          forM (entry.2.map fun expr => (entry.1, expr)) fun (path, expr) => checkOne path expr :=
        forM_congr _ hpath
    _ = forM table.listed fun (path, expr) => checkOne path expr :=
        (forM_flatMap _ _ _).symm

private theorem checkAll_eq_ok_iff_listed (table : GateTable) (h : table.gates.keys.Nodup) :
    table.checkAll = .ok () ↔ ∀ entry ∈ table.listed, ∃ c, Criteria.parse entry.2 = .ok c := by
  rw [checkAll_eq_forM_listed table h, forM_eq_ok_iff]
  exact forall₂_congr fun entry _ => checkOne_eq_ok_iff entry.1 entry.2

private theorem checkAll_eq_error_iff (table : GateTable) (h : table.gates.keys.Nodup)
    (fault : GateFault) :
    table.checkAll = .error fault ↔
      ∃ before path expr after source, fault = ⟨path, source⟩ ∧
        table.listed = before ++ (path, expr) :: after ∧
        (∀ entry ∈ before, ∃ c, Criteria.parse entry.2 = .ok c) ∧
        Criteria.parse expr = .error source := by
  rw [checkAll_eq_forM_listed table h, forM_eq_error_iff]
  constructor
  · rintro ⟨before, ⟨path, expr⟩, after, hsplit, hbefore, hexpr⟩
    obtain ⟨source, hparse, hfault⟩ := (checkOne_eq_error_iff path expr fault).mp hexpr
    refine ⟨before, path, expr, after, source, hfault, hsplit, ?_, hparse⟩
    exact fun entry hentry => (checkOne_eq_ok_iff entry.1 entry.2).mp (hbefore entry hentry)
  · rintro ⟨before, path, expr, after, source, hfault, hsplit, hbefore, hparse⟩
    refine ⟨before, (path, expr), after, hsplit, ?_, ?_⟩
    · exact fun entry hentry => (checkOne_eq_ok_iff entry.1 entry.2).mpr (hbefore entry hentry)
    · exact (checkOne_eq_error_iff path expr fault).mpr ⟨source, hparse, hfault⟩

private theorem keptByFields_nodup_keys :
    Json.KeptByFields (fun draft : Draft => ∀ gates ∈ draft.gates, gates.keys.Nodup) fields := by
  intro field hfield node draft filled h hfill
  simp only [fields, List.mem_cons, List.not_mem_nil, or_false] at hfield
  rcases hfield with rfl | rfl
  · obtain ⟨gates, hgates, hdone⟩ := (bind_eq_ok_iff _ _ _).mp hfill
    obtain rfl := Except.ok.inj hdone
    intro gates' hgates'
    obtain rfl := Option.some.inj hgates'
    exact Json.Node.nodup_keys_of_tableOf hgates
  · obtain ⟨level, -, hdone⟩ := (bind_eq_ok_iff _ _ _).mp hfill
    exact Except.ok.inj hdone ▸ h

theorem nodup_keys_of_ofJson {text : String} {table : GateTable} (h : ofJson text = .ok table) :
    table.gates.keys.Nodup := by
  obtain ⟨draft, hdraft, hdone⟩ := (bind_eq_ok_iff _ _ _).mp (Json.read_root_of_decode h)
  have hkept := keptByFields_nodup_keys.record
    (fun gates hgates => absurd hgates (Option.not_mem_none gates)) _ hdraft
  obtain rfl := Except.ok.inj hdone
  cases hgates : draft.gates with
  | none => exact List.nodup_nil
  | some gates => exact hkept gates hgates

theorem load_eq_of_ofJson {text : String} {table : GateTable} (h : ofJson text = .ok table) :
    load text =
      match table.checkAll with
      | .ok () => .ok table
      | .error fault => .error (.gate fault) := by
  rw [load, h]
  cases hcheck : table.checkAll with
  | ok u => simp only [bind, Except.bind, Except.mapError, hcheck, pure, Except.pure]
  | error fault => simp only [bind, Except.bind, Except.mapError, hcheck]

private theorem load_eq_ok_iff {text : String} {table : GateTable} (h : ofJson text = .ok table)
    (loaded : GateTable) :
    load text = .ok loaded ↔ loaded = table ∧ table.checkAll = .ok () := by
  rw [load_eq_of_ofJson h]
  cases table.checkAll with
  | ok u => exact ⟨fun h => ⟨(Except.ok.inj h).symm, rfl⟩, fun ⟨h, _⟩ => congrArg Except.ok h.symm⟩
  | error fault => exact ⟨fun h => (nomatch h), fun ⟨_, h⟩ => (nomatch h)⟩

private theorem load_eq_error_iff {text : String} {table : GateTable} (h : ofJson text = .ok table)
    (fault : LoadFault) :
    load text = .error fault ↔
      ∃ gateFault, fault = .gate gateFault ∧ table.checkAll = .error gateFault := by
  rw [load_eq_of_ofJson h]
  cases table.checkAll with
  | ok u => exact ⟨fun h => (nomatch h), fun ⟨_, _, h⟩ => (nomatch h)⟩
  | error gateFault =>
      constructor
      · intro h
        exact ⟨gateFault, (Except.error.inj h).symm, rfl⟩
      · rintro ⟨gateFault', rfl, h⟩
        rw [Except.error.inj h]

/-- A table that is read loads if every expression it lists is a criteria. If not, it fails with the
fault of the first one that is none, and its path. In a table that loads the criteria can be read
under every string: under a path they are the expressions of the path read one by one, and under any
other string there are none. -/
theorem load_of_ofJson (text : String) (table : GateTable) (hread : ofJson text = .ok table) :
    (∀ loaded, load text = .ok loaded ↔
        loaded = table ∧ ∀ entry ∈ table.listed, ∃ c, Criteria.parse entry.2 = .ok c) ∧
      (∀ fault, load text = .error fault ↔
        ∃ before path expr after source, fault = .gate ⟨path, source⟩ ∧
          table.listed = before ++ (path, expr) :: after ∧
          (∀ entry ∈ before, ∃ c, Criteria.parse entry.2 = .ok c) ∧
          Criteria.parse expr = .error source) ∧
      (load text = .ok table → ∀ path, ∃ criteria, table.criteria path = .ok criteria ∧
        (∀ exprs, (path, exprs) ∈ table.gates.entries →
          List.Forall₂ (fun expr c => Criteria.parse expr = .ok c) exprs criteria) ∧
        (path ∉ table.gates.keys → criteria = [])) := by
  have hnodup : table.gates.keys.Nodup := nodup_keys_of_ofJson hread
  refine ⟨fun loaded => ?_, fun fault => ?_, fun hok path => ?_⟩
  · rw [load_eq_ok_iff hread, checkAll_eq_ok_iff_listed table hnodup]
  · rw [load_eq_error_iff hread]
    constructor
    · rintro ⟨gateFault, rfl, hcheck⟩
      obtain ⟨before, path, expr, after, source, rfl, hfirst⟩ :=
        (checkAll_eq_error_iff table hnodup gateFault).mp hcheck
      exact ⟨before, path, expr, after, source, rfl, hfirst⟩
    · rintro ⟨before, path, expr, after, source, rfl, hfirst⟩
      refine ⟨⟨path, source⟩, rfl, (checkAll_eq_error_iff table hnodup _).mpr ?_⟩
      exact ⟨before, path, expr, after, source, rfl, hfirst⟩
  · obtain ⟨criteria, hcriteria⟩ := exists_criteria_of_load hok path
    have hparsed := (table.criteria_eq_ok_iff path criteria).mp hcriteria
    refine ⟨criteria, hcriteria, fun exprs hexprs => ?_, fun hunknown => ?_⟩
    · rwa [table.expressions_of_mem hnodup hexprs] at hparsed
    · rwa [table.expressions_of_notMem hunknown, List.forall₂_nil_left_iff] at hparsed

/-- Two expressions are at fault under the second path, and the first of them is reported. Without
them the table loads, with the criteria of each path and none elsewhere. -/
theorem load_of_ofJson_two_faults :
    let faulty := "\x7b\"gates\": \x7b\"b\": [\">1\"], \"a\": [\"<2\", \"oops\", \"=\"]\x7d\x7d"
    let sound := "\x7b\"gates\": \x7b\"b\": [\">1\"], \"a\": [\"<2\"]\x7d\x7d"
    let faultyTable : GateTable := ⟨⟨[("b", [">1"]), ("a", ["<2", "oops", "="])]⟩, "warn"⟩
    let soundTable : GateTable := ⟨⟨[("b", [">1"]), ("a", ["<2"])]⟩, "warn"⟩
    ofJson faulty = .ok faultyTable ∧ load faulty = .error (.gate ⟨"a", .noToken "oops"⟩) ∧
      ofJson sound = .ok soundTable ∧ load sound = .ok soundTable ∧
      (∃ c, Criteria.parse ">1" = .ok c ∧ soundTable.criteria "b" = .ok [c]) ∧
      soundTable.criteria "missing" = .ok [] := by
  intro faulty sound faultyTable soundTable
  have hfaulty : ofJson faulty = .ok faultyTable := by
    simp only [faulty, faultyTable]
    with_unfolding_all rfl
  have hsound : ofJson sound = .ok soundTable := by
    simp only [sound, soundTable]
    with_unfolding_all rfl
  have hgood : ∀ entry ∈ soundTable.listed, ∃ c, Criteria.parse entry.2 = .ok c := by
    have hchecked := (forM_eq_ok_iff (fun entry => checkOne entry.1 entry.2) soundTable.listed).mp
      (by decide)
    exact fun entry hentry => (checkOne_eq_ok_iff entry.1 entry.2).mp (hchecked entry hentry)
  obtain ⟨-, hfails, -⟩ := load_of_ofJson faulty faultyTable hfaulty
  obtain ⟨hloads, -, hcriteria⟩ := load_of_ofJson sound soundTable hsound
  have hload : load sound = .ok soundTable := (hloads soundTable).mpr ⟨rfl, hgood⟩
  refine ⟨hfaulty, ?_, hsound, hload, ?_, ?_⟩
  · apply (hfails _).mpr
    exact ⟨soundTable.listed, "a", "oops", [("a", "=")], .noToken "oops", rfl, rfl, hgood, rfl⟩
  · obtain ⟨criteria, hb, hparsed, -⟩ := hcriteria hload "b"
    obtain ⟨c, rest, hc, hrest, rfl⟩ :=
      List.forall₂_cons_left_iff.mp (hparsed [">1"] List.mem_cons_self)
    rw [List.forall₂_nil_left_iff.mp hrest] at hb
    exact ⟨c, hc, hb⟩
  · obtain ⟨criteria, hmissing, -, hnone⟩ := hcriteria hload "missing"
    rw [hmissing, hnone (by decide)]

end VersionDispatch.GateTable
