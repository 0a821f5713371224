import VersionDispatch.Command.Run
import VersionDispatch.Proofs.Command.LogFilter
import VersionDispatch.Proofs.Dispatch.Log
import VersionDispatch.Proofs.GateTable

/-!
# Resolving against testing

The resolve command gives the last expression under a key that the test command passes. On its way
the choice is a place in the list of criteria, then an implementation in a registry under another
key, then a place in the table again; it stays the same place, so that the table has an expression
there.
-/

namespace VersionDispatch.Command

theorem Conclusion.status_report_eq_iff (conclusion : Conclusion) (notes : List String) :
    (conclusion.report notes).status = 101 ↔ conclusion = .crash := by
  cases conclusion with
  | answer line success => cases success <;> simp [report]
  | turnedDown message => simp [report]
  | failure message causes => simp [report]
  | crash => simp [report]

private theorem Conclusion.stdout_report (conclusion : Conclusion) (notes : List String) :
    (conclusion.report notes).stdout = (conclusion.report []).stdout := by
  cases conclusion <;> rfl

private theorem length_offersOf (key : DispatchKey) (criteria : List Criteria) :
    (offersOf key criteria).length = criteria.length := by
  simp [offersOf]

private theorem getElem_offersOf (key : DispatchKey) (criteria : List Criteria) (i : Nat)
    (hi : i < (offersOf key criteria).length) :
    (offersOf key criteria)[i] = ⟨key, criteria.get ⟨i, length_offersOf key criteria ▸ hi⟩, i⟩ := by
  simp [offersOf]

private theorem criteria_mem_of_mem_offersOf {key : DispatchKey} {criteria : List Criteria}
    {offer : Registration Nat} (h : offer ∈ offersOf key criteria) : offer.criteria ∈ criteria := by
  obtain ⟨⟨c, index⟩, hmem, rfl⟩ := List.mem_map.mp h
  exact List.fst_mem_of_mem_zipIdx hmem

private theorem resolve_offersOf_of_last (key : DispatchKey) {criteria : List Criteria}
    (version : Option String) {i : Nat} (hi : i < criteria.length)
    (haccepts : criteria[i].acceptsText version = true)
    (hrejected : ∀ j, ∀ hj : j < criteria.length, i < j → ¬criteria[j].acceptsText version = true) :
    (Registry.empty.registerAll (offersOf key criteria)).resolve key version = .ok i := by
  have hplace : i < (offersOf key criteria).length := by rwa [length_offersOf]
  have hoffer := getElem_offersOf key criteria i hplace
  have hlatest := isLatest_of_getElem (offersOf key criteria) key version hplace
    (by rw [hoffer]) (by rw [hoffer]; exact haccepts)
    (by
      intro j hj hlater _
      rw [getElem_offersOf, Bool.eq_false_iff]
      exact hrejected j _ hlater)
  rw [(Registry.reflects_registerAll _).resolve_eq_latest hlatest, hoffer]

private theorem resolve_offersOf_of_rejected (key : DispatchKey) {criteria : List Criteria}
    (version : Option String) (hne : criteria ≠ [])
    (hrejected : ∀ c ∈ criteria, ¬c.acceptsText version = true) :
    (Registry.empty.registerAll (offersOf key criteria)).resolve key version =
      .error (.unsupported key.path version) := by
  have hknown : offered (offersOf key criteria) key ≠ [] := by
    obtain ⟨c, rest, rfl⟩ := List.exists_cons_of_ne_nil hne
    exact (Registry.offered_ne_nil_iff _ _).mpr ⟨⟨key, c, 0⟩, by simp [offersOf], rfl⟩
  have hoffers : ∀ offer ∈ offersOf key criteria, offer.key = key →
      offer.criteria.acceptsText version = false := by
    intro offer hoffer _
    exact Bool.eq_false_iff.mpr (hrejected _ (criteria_mem_of_mem_offersOf hoffer))
  exact (Registry.reflects_registerAll _).resolve_eq_unsupported hknown version hoffers

private theorem resolve_offersOf_nil (key : DispatchKey) (version : Option String) :
    (Registry.empty.registerAll (offersOf key [])).resolve key version =
      .error (.unregistered key) := rfl

private theorem lt_length_of_resolve_offersOf {key : DispatchKey} {criteria : List Criteria}
    {version : Option String} {index : Nat}
    (h : (Registry.empty.registerAll (offersOf key criteria)).resolve key version = .ok index) :
    index < criteria.length := by
  rcases (Registry.reflects_registerAll (offersOf key criteria)).resolve_cases key version with
    ⟨-, hresolve⟩ | ⟨before, offer, after, hlatest, hresolve⟩ | ⟨-, -, hresolve⟩
  · rw [hresolve] at h
    contradiction
  · rw [hresolve] at h
    obtain rfl : offer.implementation = index := Except.ok.inj h
    obtain ⟨⟨c, index⟩, hindex, rfl⟩ := List.mem_map.mp hlatest.mem
    simpa using (List.mem_zipIdx hindex).2.1
  · rw [hresolve] at h
    contradiction

/-- The expression is a criteria that accepts the version. -/
def Passes (version : Option String) (expr : String) : Prop :=
  ∃ c, Criteria.parse expr = .ok c ∧ c.acceptsText version = true

section ResolveKey

variable {table : GateTable} {key : String} {criteria : List Criteria}
  (hcriteria : table.criteria key = .ok criteria)

include hcriteria

private theorem length_expressions : (table.expressions key).length = criteria.length :=
  ((table.criteria_eq_ok_iff key criteria).mp hcriteria).length_eq

private theorem passes_iff (version : Option String) {i : Nat}
    (hi : i < (table.expressions key).length) (hi' : i < criteria.length) :
    Passes version (table.expressions key)[i] ↔ criteria[i].acceptsText version = true := by
  have hparse := ((table.criteria_eq_ok_iff key criteria).mp hcriteria).get hi hi'
  constructor
  · rintro ⟨c, hc, haccepts⟩
    obtain rfl : criteria[i] = c := Except.ok.inj (hparse.symm.trans hc)
    exact haccepts
  · exact fun haccepts => ⟨_, hparse, haccepts⟩

/-- The table has an expression at the place that the registry chooses. -/
theorem resolveKey_ne_crash (version : Option String) :
    (resolveKey table key version).2 ≠ .crash := by
  simp only [resolveKey, hcriteria]
  split
  next index hresolve =>
    have hindex : index < (table.expressions key).length := by
      rw [length_expressions hcriteria]
      exact lt_length_of_resolve_offersOf hresolve
    rw [table.expressionAt?_eq key index hindex]
    exact fun h => (nomatch h)
  next => exact fun h => (nomatch h)
  next => exact fun h => (nomatch h)

theorem resolveKey_of_last (version : Option String) {i : Nat}
    (hi : i < (table.expressions key).length) (hpasses : Passes version (table.expressions key)[i])
    (hlast : ∀ j, ∀ hj : j < (table.expressions key).length, i < j →
      ¬Passes version (table.expressions key)[j]) :
    (resolveKey table key version).2 =
      .answer ("#" ++ toString i ++ " " ++ (table.expressions key)[i]) true := by
  have hlength := length_expressions hcriteria
  have haccepts := (passes_iff hcriteria version hi (hlength ▸ hi)).mp hpasses
  have hrejected : ∀ j, ∀ hj : j < criteria.length, i < j →
      ¬criteria[j].acceptsText version = true := by
    intro j hj hlater haccepts'
    exact hlast j (hlength ▸ hj) hlater ((passes_iff hcriteria version _ hj).mpr haccepts')
  have hresolve := resolve_offersOf_of_last (.ofPath key) version (hlength ▸ hi) haccepts hrejected
  simp only [resolveKey, hcriteria, hresolve, table.expressionAt?_eq key i hi]

theorem resolveKey_of_rejected (version : Option String) (hne : table.expressions key ≠ [])
    (hnone : ∀ expr ∈ table.expressions key, ¬Passes version expr) :
    (resolveKey table key version).2 =
      .turnedDown (Refusal.unsupported (DispatchKey.ofPath key).path version).message := by
  have hlength := length_expressions hcriteria
  have hcriteriaNe : criteria ≠ [] := by
    rw [← List.length_pos_iff, ← hlength, List.length_pos_iff]
    exact hne
  have hrejected : ∀ c ∈ criteria, ¬c.acceptsText version = true := by
    intro c hc haccepts
    obtain ⟨i, hi, rfl⟩ := List.mem_iff_getElem.mp hc
    have hplace : i < (table.expressions key).length := hlength ▸ hi
    exact hnone _ (List.getElem_mem hplace) ((passes_iff hcriteria version hplace hi).mpr haccepts)
  have hresolve := resolve_offersOf_of_rejected (.ofPath key) version hcriteriaNe hrejected
  simp only [resolveKey, hcriteria, hresolve]

theorem resolveKey_of_nil (version : Option String) (hnil : table.expressions key = []) :
    (resolveKey table key version).2 =
      .failure (Refusal.unregistered (.ofPath key)).message [] := by
  have hcriteriaNil : criteria = [] := by
    rw [← List.length_eq_zero_iff, ← length_expressions hcriteria, hnil, List.length_nil]
  subst hcriteriaNil
  have hresolve := resolve_offersOf_nil (.ofPath key) version
  simp only [resolveKey, hcriteria, hresolve]

end ResolveKey

namespace Invocation

theorem reader_returns_filterText {table : GateTable} (verbose : Bool)
    (hbytes : ∀ c ∈ table.logFilter.toList, c.utf8Size = 1) :
    LogFilter.reader.Returns none (filterText verbose table) := by
  refine LogFilter.reader_returns_of_bytes fun s hs => ?_
  obtain rfl := List.mem_singleton.mp hs
  cases verbose with
  | false => exact hbytes
  | true => simp [filterText, Char.utf8Size]

theorem runWith_of_returns (invocation : Invocation) {reader : FilterReader}
    {environment : Option String} {table : GateTable}
    (hreads : reader.Returns environment (filterText invocation.verbose table)) :
    ∃ notes, invocation.runWith reader environment table =
      (invocation.request.carryOut table).2.report notes := by
  obtain ⟨filter, hfilter⟩ := Option.isSome_iff_exists.mp hreads
  rw [runWith]
  split
  next hnone =>
    rw [hnone] at hfilter
    contradiction
  next => exact ⟨_, rfl⟩

private theorem runWith_of_not_returns (invocation : Invocation) {reader : FilterReader}
    {environment : Option String} {table : GateTable}
    (hbreaks : ¬reader.Returns environment (filterText invocation.verbose table)) :
    ∃ notes, invocation.runWith reader environment table = Conclusion.crash.report notes := by
  rw [runWith]
  split
  next => exact ⟨_, rfl⟩
  next filter hsome => exact absurd (by rw [FilterReader.Returns, hsome]; rfl) hbreaks

theorem run_resolve {text : String} {table : GateTable} (hload : GateTable.load text = .ok table)
    {path : String} {content : String → Except ReadFault ByteArray}
    (hcontent : content path = .ok text.toUTF8) (reader : FilterReader)
    (environment : Option String) (verbose : Bool) (key : String) (version : Option String) :
    Invocation.run ⟨verbose, .resolve path key version⟩ reader environment content =
      Invocation.runWith ⟨verbose, .resolve path key version⟩ reader environment table := by
  simp only [run, file?, hcontent, GateTable.loadFile_eq_of_load hload]

/-- Over a table that loads the resolve command breaks off only where reading the filter does. -/
theorem run_resolve_breaks_off_iff {text : String} {table : GateTable}
    (hload : GateTable.load text = .ok table) {path : String}
    {content : String → Except ReadFault ByteArray} (hcontent : content path = .ok text.toUTF8)
    (reader : FilterReader) (environment : Option String) (verbose : Bool) (key : String)
    (version : Option String) :
    (Invocation.run ⟨verbose, .resolve path key version⟩ reader environment content).status = 101 ↔
      ¬reader.Returns environment (filterText verbose table) := by
  obtain ⟨criteria, hcriteria⟩ := GateTable.exists_criteria_of_load hload key
  rw [run_resolve hload hcontent]
  constructor
  · intro hstatus hreads
    obtain ⟨notes, hrun⟩ := runWith_of_returns ⟨verbose, .resolve path key version⟩ hreads
    rw [hrun, Conclusion.status_report_eq_iff] at hstatus
    exact resolveKey_ne_crash hcriteria version hstatus
  · intro hbreaks
    obtain ⟨notes, hrun⟩ := runWith_of_not_returns ⟨verbose, .resolve path key version⟩ hbreaks
    rw [hrun, Conclusion.status_report_eq_iff]

theorem run_test {reader : FilterReader} {environment : Option String} {verbose : Bool}
    (hreads : reader.Returns environment (filterText verbose .empty))
    (content : String → Except ReadFault ByteArray) (expr : String) (version : Option String) :
    ∃ notes, Invocation.run ⟨verbose, .test expr version⟩ reader environment content =
      (testVersion expr version).report notes :=
  runWith_of_returns ⟨verbose, .test expr version⟩ hreads

theorem run_test_stdout_iff {reader : FilterReader} {environment : Option String} {verbose : Bool}
    (hreads : reader.Returns environment (filterText verbose .empty))
    (content : String → Except ReadFault ByteArray) (expr : String) (version : Option String) :
    (Invocation.run ⟨verbose, .test expr version⟩ reader environment content).stdout = "true\n" ↔
      Passes version expr := by
  obtain ⟨notes, hrun⟩ := run_test hreads content expr version
  rw [hrun, testVersion, Passes]
  cases Criteria.parse expr with
  | error e => simp [Conclusion.report]
  | ok c => cases haccepts : c.acceptsText version <;> simp [Conclusion.report, haccepts]

/-- For a table that loads, and provided that reading the log filter does not break off, the resolve
command prints the last expression under the key for which the test command prints `true`, with its
place. Without such an expression it prints nothing and fails: the version is not supported, or, if
there are no expressions at all, nothing is registered under the key. The place is always one in the
table, and the command does not break off. -/
theorem run_resolve_last_tested (reader : FilterReader) (text : String) (table : GateTable)
    (hload : GateTable.load text = .ok table) (path : String)
    (content : String → Except ReadFault ByteArray) (hcontent : content path = .ok text.toUTF8)
    (environment : Option String) (verbose : Bool)
    (hreads : ∀ t ∈ [table, .empty], reader.Returns environment (filterText verbose t))
    (key : String) (version : Option String) :
    let exprs := table.expressions key
    let run (request : Request) : Report :=
      Invocation.run ⟨verbose, request⟩ reader environment content
    let passes (expr : String) : Prop := (run (.test expr version)).stdout = "true\n"
    let report := run (.resolve path key version)
    (exprs = [] →
        report.stdout = "" ∧ report.status = 1 ∧
          ∃ notes, report =
            (Conclusion.failure (Refusal.unregistered (.ofPath key)).message []).report notes) ∧
      ((∃ expr ∈ exprs, passes expr) →
        ∃ i, ∃ hi : i < exprs.length, passes exprs[i] ∧
          (∀ j, ∀ hj : j < exprs.length, i < j → ¬passes exprs[j]) ∧
          report.stdout = "#" ++ toString i ++ " " ++ exprs[i] ++ "\n" ∧ report.status = 0) ∧
      (exprs ≠ [] → (∀ expr ∈ exprs, ¬passes expr) →
        report.stdout = "" ∧ report.status = 1 ∧
          ∃ notes, report =
            (Conclusion.turnedDown
              (Refusal.unsupported (DispatchKey.ofPath key).path version).message).report notes) ∧
      (resolveKey table key version).2 ≠ .crash ∧ report.status ≠ 101 := by
  intro exprs run passes report
  have hreadsTable : reader.Returns environment (filterText verbose table) := hreads table (by simp)
  have hreadsEmpty : reader.Returns environment (filterText verbose .empty) :=
    hreads .empty (by simp)
  obtain ⟨criteria, hcriteria⟩ := GateTable.exists_criteria_of_load hload key
  have hpasses (expr : String) : passes expr ↔ Passes version expr :=
    run_test_stdout_iff hreadsEmpty content expr version
  obtain ⟨notes, hreport⟩ : ∃ notes, report = (resolveKey table key version).2.report notes := by
    rw [show report = _ from run_resolve hload hcontent reader environment verbose key version]
    exact runWith_of_returns ⟨verbose, .resolve path key version⟩ hreadsTable
  have hstatus : report.status ≠ 101 := by
    rw [ne_eq, run_resolve_breaks_off_iff hload hcontent, not_not]
    exact hreadsTable
  refine ⟨?_, ?_, ?_, resolveKey_ne_crash hcriteria version, hstatus⟩
  · intro hnil
    rw [resolveKey_of_nil hcriteria version hnil] at hreport
    exact ⟨congrArg Report.stdout hreport, congrArg Report.status hreport, notes, hreport⟩
  · intro hsome
    obtain ⟨i, hi, hpass, hlast⟩ := exists_last_index passes exprs hsome
    have hlater : ∀ j, ∀ hj : j < exprs.length, i < j → ¬Passes version exprs[j] :=
      fun j hj hij h => hlast j hj hij ((hpasses _).mpr h)
    rw [resolveKey_of_last hcriteria version hi ((hpasses _).mp hpass) hlater] at hreport
    exact ⟨i, hi, hpass, hlast, congrArg Report.stdout hreport, congrArg Report.status hreport⟩
  · intro hne hnone
    have hrejected : ∀ expr ∈ exprs, ¬Passes version expr :=
      fun expr hexpr h => hnone expr hexpr ((hpasses expr).mpr h)
    rw [resolveKey_of_rejected hcriteria version hne hrejected] at hreport
    exact ⟨congrArg Report.stdout hreport, congrArg Report.status hreport, notes, hreport⟩

/-- The later of two expressions that say the same is given, though it is not the last one. -/
theorem run_resolve_last_tested_repeated :
    let text := "\x7b\"gates\": \x7b\"::x\": [\">=2\", \">=2.0\", \"<9\"]\x7d\x7d"
    let table : GateTable := ⟨⟨[("::x", [">=2", ">=2.0", "<9"])]⟩, "warn"⟩
    let run (request : Request) : Report :=
      Invocation.run ⟨false, request⟩ LogFilter.reader none fun _ => .ok text.toUTF8
    GateTable.load text = .ok table ∧
      (∀ t ∈ [table, .empty], LogFilter.reader.Returns none (filterText false t)) ∧
      (run (.test ">=2.0" (some "10"))).stdout = "true\n" ∧
      (run (.resolve "gates.json" "::x" (some "10"))).stdout = "#1 >=2.0\n" ∧
      (run (.resolve "gates.json" "::x" (some "10"))).status = 0 := by
  intro text table run
  have hload : GateTable.load text = .ok table := by
    simp only [text, table]
    with_unfolding_all rfl
  have hreads : ∀ t ∈ [table, .empty], LogFilter.reader.Returns none (filterText false t) := by
    simp only [List.forall_mem_cons, List.not_mem_nil, false_implies, implies_true, and_true]
    exact ⟨reader_returns_filterText false (by simp [table, Char.utf8Size]),
      reader_returns_filterText false (by simp [GateTable.empty, Char.utf8Size])⟩
  have htest (expr : String) : (run (.test expr (some "10"))).stdout =
      ((testVersion expr (some "10")).report []).stdout := by
    obtain ⟨notes, hrun⟩ := run_test (hreads .empty (by simp)) (fun _ => .ok text.toUTF8) expr
      (some "10")
    rw [show run _ = _ from hrun, Conclusion.stdout_report]
  have hequal : (run (.test ">=2.0" (some "10"))).stdout = "true\n" := by
    rw [htest]
    decide
  have hbelow : (run (.test "<9" (some "10"))).stdout ≠ "true\n" := by
    rw [htest]
    decide
  have hexprs : table.expressions "::x" = [">=2", ">=2.0", "<9"] := rfl
  obtain ⟨i, hi, hpasses, hlast, hstdout, hstatus⟩ :=
    (run_resolve_last_tested LogFilter.reader text table hload "gates.json"
      (fun _ => .ok text.toUTF8) rfl none false hreads "::x" (some "10")).2.1
      ⟨">=2.0", by simp [hexprs], hequal⟩
  obtain rfl : i = 1 := by
    rcases Nat.lt_trichotomy i 1 with hlt | heq | hgt
    · exact absurd hequal (hlast 1 (by decide) hlt)
    · exact heq
    · obtain rfl : i = 2 := Nat.le_antisymm (Nat.le_of_lt_succ hi) hgt
      exact absurd hpasses hbelow
  exact ⟨hload, hreads, hequal, hstdout, hstatus⟩

end Invocation

end VersionDispatch.Command
