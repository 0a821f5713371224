import VersionDispatch.Proofs.Command.Resolve
import VersionDispatch.Proofs.Criteria.Comparison
import VersionDispatch.Proofs.Criteria.Language

namespace VersionDispatch.Command

/-- The operator that two versions stand in when they compare in this way. -/
def orderToken (order : Ordering) : Token :=
  match order with
  | .lt => .less
  | .eq => .equal
  | .gt => .greater

private theorem text_orderToken (order : Ordering) :
    (orderToken order).text = orderSymbol order := by
  cases order <;> rfl

private theorem arity_orderToken (order : Ordering) : (orderToken order).operator.arity = 1 := by
  cases order <;> rfl

private theorem holds_orderToken (order order' : Ordering) :
    (orderToken order).operator.holds order' = decide (order = order') := by
  cases order <;> cases order' <;> rfl

private theorem mem_symbols_iff (symbol : String) :
    symbol ∈ ["<", "=", ">"] ↔ ∃ order, orderSymbol order = symbol := by
  simp only [List.mem_cons, List.not_mem_nil, or_false]
  constructor
  · rintro (rfl | rfl | rfl)
    · exact ⟨.lt, rfl⟩
    · exact ⟨.eq, rfl⟩
    · exact ⟨.gt, rfl⟩
  · rintro ⟨order, rfl⟩
    cases order <;> simp [orderSymbol]

private theorem orderSymbol_inj (order order' : Ordering) :
    orderSymbol order = orderSymbol order' ↔ order = order' := by
  cases order <;> cases order' <;> simp [orderSymbol]

theorem testVersion_token_append (token : Token) (hone : token.operator.arity = 1) (a : String)
    {b : String} (hbound : (Version.parse b).isBound = true) :
    let accepted := token.operator.holds (compare (Version.parse a) (Version.parse b))
    testVersion (token.text ++ b) (some a) =
      .answer (if accepted then "true" else "false") accepted := by
  intro accepted
  obtain ⟨c, hparse, hop, hcbound⟩ := Criteria.parse_token_append token hone b hbound
  have haccepts : c.acceptsText (some a) = accepted := by
    have h := c.accepts_some_eq_holds (Version.parse a) (hop ▸ hone)
    rwa [hop, hcbound] at h
  simp only [testVersion, hparse, haccepts]

namespace Invocation

section Returns

variable {reader : FilterReader} {environment : Option String} {verbose : Bool}
  (hreads : reader.Returns environment (filterText verbose .empty))
  (content : String → Except ReadFault ByteArray)

include hreads

private theorem stdout_run_compare (a b : String) :
    (Invocation.run ⟨verbose, .compare a b⟩ reader environment content).stdout =
      orderSymbol (compare (Version.parse a) (Version.parse b)) ++ "\n" := by
  obtain ⟨notes, hrun⟩ : ∃ notes,
      Invocation.run ⟨verbose, .compare a b⟩ reader environment content =
        (compareVersions a b).report notes :=
    runWith_of_returns ⟨verbose, .compare a b⟩ hreads
  rw [hrun]
  rfl

private theorem run_test_orderSymbol_append (order : Ordering) (a : String) {b : String}
    (hbound : (Version.parse b).isBound = true) :
    let holds := decide (order = compare (Version.parse a) (Version.parse b))
    ∃ notes,
      Invocation.run ⟨verbose, .test (orderSymbol order ++ b) (some a)⟩ reader environment content =
        (Conclusion.answer (if holds then "true" else "false") holds).report notes := by
  have htest := testVersion_token_append (orderToken order) (arity_orderToken order) a hbound
  rw [text_orderToken, holds_orderToken] at htest
  obtain ⟨notes, hrun⟩ := run_test hreads content (orderSymbol order ++ b) (some a)
  rw [htest] at hrun
  exact ⟨notes, hrun⟩

/-- Of three tests of a version against another one, with `<`, `=` and `>`, exactly one is passed:
the one with the symbol that comparing the two prints, which is that of their order. Compared the
other way round they print the mirrored symbol. -/
theorem run_compare_agrees_with_run_test :
    let run (request : Request) : Report :=
      Invocation.run ⟨verbose, request⟩ reader environment content
    (∀ a b : String, Text.trim b.toList ≠ [] →
        (∀ c ∈ Text.trim b.toList, c ∉ ['=', '!', '<', '>']) →
        ∃ symbol ∈ ["<", "=", ">"], (run (.compare a b)).stdout = symbol ++ "\n" ∧
          symbol = orderSymbol (compare (Version.parse a) (Version.parse b)) ∧
          ∀ other ∈ ["<", "=", ">"],
            let report := run (.test (other ++ b) (some a))
            (other = symbol → report.stdout = "true\n" ∧ report.status = 0) ∧
              (other ≠ symbol → report.stdout = "false\n" ∧ report.status = 1)) ∧
      ∀ a b : String, ((run (.compare a b)).stdout, (run (.compare b a)).stdout) ∈
        [("<\n", ">\n"), ("=\n", "=\n"), (">\n", "<\n")] := by
  refine ⟨?_, ?_⟩
  · intro a b hne hplain
    have hbound := Criteria.isBound_parse hne hplain
    let order := compare (Version.parse a) (Version.parse b)
    refine ⟨orderSymbol order, (mem_symbols_iff _).mpr ⟨order, rfl⟩, ?_, rfl, ?_⟩
    · exact stdout_run_compare hreads content a b
    · intro other hother report
      obtain ⟨order', rfl⟩ := (mem_symbols_iff other).mp hother
      obtain ⟨notes, hrun⟩ :=
        run_test_orderSymbol_append hreads content order' a hbound
      refine ⟨?_, ?_⟩
      · intro hsame
        have horder : order' = order := (orderSymbol_inj order' order).mp hsame
        rw [decide_eq_true horder] at hrun
        exact ⟨congrArg Report.stdout hrun, congrArg Report.status hrun⟩
      · intro hother
        have horder : order' ≠ order := mt (orderSymbol_inj order' order).mpr hother
        rw [decide_eq_false horder] at hrun
        exact ⟨congrArg Report.stdout hrun, congrArg Report.status hrun⟩
  · intro a b
    have hswap : compare (Version.parse b) (Version.parse a) =
        (compare (Version.parse a) (Version.parse b)).swap := Std.OrientedOrd.eq_swap
    rw [stdout_run_compare hreads, stdout_run_compare hreads, hswap]
    cases compare (Version.parse a) (Version.parse b) <;> decide

end Returns

theorem run_compare_agrees_with_run_test_padded :
    let run (request : Request) : Report :=
      Invocation.run ⟨false, request⟩ LogFilter.reader none fun _ => .error .notFound
    LogFilter.reader.Returns none (filterText false .empty) ∧ Text.trim " 1.0 ".toList ≠ [] ∧
      (∀ c ∈ Text.trim " 1.0 ".toList, c ∉ ['=', '!', '<', '>']) ∧
      (run (.compare "1.0.a" " 1.0 ")).stdout = ">\n" ∧
      (run (.test "> 1.0 " (some "1.0.a"))).stdout = "true\n" ∧
      (run (.test "= 1.0 " (some "1.0.a"))).stdout = "false\n" ∧
      (run (.test "< 1.0 " (some "1.0.a"))).stdout = "false\n" := by
  intro run
  have hreads : LogFilter.reader.Returns none (filterText false .empty) :=
    reader_returns_filterText false (by simp [GateTable.empty, Char.utf8Size])
  have htrim : Text.trim " 1.0 ".toList = ['1', '.', '0'] := by decide
  have hne : Text.trim " 1.0 ".toList ≠ [] := by decide
  have hplain : ∀ c ∈ Text.trim " 1.0 ".toList, c ∉ ['=', '!', '<', '>'] := by
    rw [htrim]
    simp
  have horder : compare (Version.parse "1.0.a") (Version.parse " 1.0 ") = .gt := by decide
  obtain ⟨symbol, -, hprinted, hsymbol, htests⟩ :=
    (run_compare_agrees_with_run_test hreads fun _ => .error .notFound).1 "1.0.a" " 1.0 " hne hplain
  obtain rfl : symbol = ">" := by
    rw [hsymbol, horder]
    rfl
  refine ⟨hreads, hne, hplain, hprinted, ?_, ?_, ?_⟩
  · exact ((htests ">" (by decide)).1 rfl).1
  · exact ((htests "=" (by decide)).2 (by decide)).1
  · exact ((htests "<" (by decide)).2 (by decide)).1

end Invocation

end VersionDispatch.Command
