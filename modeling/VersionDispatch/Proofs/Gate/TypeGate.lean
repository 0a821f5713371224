import VersionDispatch.Gate.TypeGate
import VersionDispatch.Proofs.Lists

namespace VersionDispatch

variable {σ S A R : Type}

namespace Gate

theorem value_check (gate : Gate σ S A) (kind : CallKind) (target : String) (subject : S) (args : A)
    (world : σ) :
    (gate.check kind target subject args world).value =
      let version := (gate.source.answer kind subject args world).1
      if gate.criteria.acceptsText version then .ok ()
      else .error (.unsupported target version) := by
  unfold check
  dsimp only
  split <;> rfl

private theorem check_of_accepts (gate : Gate σ S A) (kind : CallKind) (target : String)
    (subject : S) (args : A) (world : σ)
    (h : gate.criteria.acceptsText (gate.source.answer kind subject args world).1 = true) :
    gate.check kind target subject args world =
      ⟨.ok (), (gate.source.answer kind subject args world).2,
        [.asked gate.source.name kind subject args]⟩ :=
  if_pos h

private theorem check_of_rejects (gate : Gate σ S A) (kind : CallKind) (target : String)
    (subject : S) (args : A) (world : σ)
    (h : gate.criteria.acceptsText (gate.source.answer kind subject args world).1 = false) :
    gate.check kind target subject args world =
      let asked := gate.source.answer kind subject args world
      ⟨.error (.unsupported target asked.1), asked.2,
        [.asked gate.source.name kind subject args,
          .logged (gate.rejected kind target asked.1)]⟩ :=
  if_neg (Bool.eq_false_iff.mp h)

end Gate

/-- The declaration is of the member, and no later one is. -/
structure IsLastDeclaration (declarations : List Declaration) (member : String)
    (before : List Declaration) (d : Declaration) (after : List Declaration) : Prop where
  split : declarations = before ++ d :: after
  member_eq : d.member = member
  not_later : ∀ later ∈ after, later.member ≠ member

private theorem exists_isLastDeclaration (declarations : List Declaration) (member : String)
    (h : ∃ d ∈ declarations, d.member = member) :
    ∃ before d after, IsLastDeclaration declarations member before d after := by
  obtain ⟨before, d, after, hsplit, hmember, hafter⟩ :=
    exists_last_split (fun d => d.member = member) declarations h
  exact ⟨before, d, after, hsplit, hmember, hafter⟩

namespace TypeGate

theorem kindOf?_build (gate : Gate σ GatedType A) (type : GatedType)
    (declarations : List Declaration) (member : String) :
    (build gate type declarations).kindOf? member =
      (declarations.map fun d => (d.member, d.kind)).reverse.lookup member :=
  Table.get?_ofList _ member

private theorem kindOf?_build_eq_none (gate : Gate σ GatedType A) (type : GatedType)
    (declarations : List Declaration) (member : String)
    (h : ∀ d ∈ declarations, d.member ≠ member) :
    (build gate type declarations).kindOf? member = none := by
  rw [kindOf?_build, List.lookup_eq_none_iff]
  simpa using fun d hd => Ne.symm (h d hd)

private theorem kindOf?_build_of_isLast (gate : Gate σ GatedType A) (type : GatedType)
    {declarations before after : List Declaration} {member : String} {d : Declaration}
    (h : IsLastDeclaration declarations member before d after) :
    (build gate type declarations).kindOf? member = some d.kind := by
  rw [kindOf?_build, List.lookup_eq_some_iff]
  refine ⟨(after.map fun d => (d.member, d.kind)).reverse,
    (before.map fun d => (d.member, d.kind)).reverse, ?_, ?_⟩
  · simp [h.split, h.member_eq]
  · simpa using fun later hlater => Ne.symm (h.not_later later hlater)

theorem invoke_of_kindOf?_eq_none (g : TypeGate σ A) (member : String) (args : A) (label : String)
    (perform : A → σ → R × σ) (world : σ) (h : g.kindOf? member = none) :
    g.invoke member args label perform world =
      ⟨.error (.unguarded g.type.name member), world, []⟩ := by
  rw [invoke, h]

theorem invoke_of_accepts (g : TypeGate σ A) (member : String) (args : A) (label : String)
    (perform : A → σ → R × σ) (world : σ) {kind : CallKind} (hkind : g.kindOf? member = some kind)
    (h : g.gate.criteria.acceptsText (g.gate.source.answer kind g.type args world).1 = true) :
    g.invoke member args label perform world =
      let asked := g.gate.source.answer kind g.type args world
      let performed := perform args asked.2
      ⟨.ok performed.1, performed.2,
        [.asked g.gate.source.name kind g.type args, .ran label g.type args]⟩ := by
  simp only [invoke, hkind, g.gate.check_of_accepts kind _ g.type args world h]
  rfl

theorem invoke_of_rejects (g : TypeGate σ A) (member : String) (args : A) (label : String)
    (perform : A → σ → R × σ) (world : σ) {kind : CallKind} (hkind : g.kindOf? member = some kind)
    (h : g.gate.criteria.acceptsText (g.gate.source.answer kind g.type args world).1 = false) :
    g.invoke member args label perform world =
      let target := g.type.shortName ++ "::" ++ member
      let asked := g.gate.source.answer kind g.type args world
      ⟨.error (.unsupported target asked.1), asked.2,
        [.asked g.gate.source.name kind g.type args,
          .logged (g.gate.rejected kind target asked.1)]⟩ := by
  simp only [invoke, hkind, g.gate.check_of_rejects kind _ g.type args world h]

/-- A call through a type gate: a member without a declaration is refused with nothing done; for
one with, the source is asked once, with the kind that was declared last, and the body runs once
if the criteria accepts the answer and not at all if it does not. -/
theorem invoke_build (gate : Gate σ GatedType A) (type : GatedType)
    (declarations : List Declaration) (member : String) (args : A) (label : String)
    (perform : A → σ → R × σ) (world : σ) :
    let outcome := (build gate type declarations).invoke member args label perform world
    let target := type.shortName ++ "::" ++ member
    ((∀ d ∈ declarations, d.member ≠ member) →
        outcome = ⟨.error (.unguarded type.name member), world, []⟩) ∧
      ((∃ d ∈ declarations, d.member = member) →
        ∃ before d after, IsLastDeclaration declarations member before d after ∧
          let asked := gate.source.answer d.kind type args world
          let performed := perform args asked.2
          (gate.criteria.acceptsText asked.1 = true →
            outcome = ⟨.ok performed.1, performed.2,
              [.asked gate.source.name d.kind type args, .ran label type args]⟩) ∧
          (gate.criteria.acceptsText asked.1 = false →
            outcome = ⟨.error (.unsupported target asked.1), asked.2,
              [.asked gate.source.name d.kind type args,
                .logged (gate.rejected d.kind target asked.1)]⟩)) := by
  intro outcome target
  refine ⟨?_, ?_⟩
  · intro hundeclared
    apply invoke_of_kindOf?_eq_none
    exact kindOf?_build_eq_none gate type declarations member hundeclared
  · intro hdeclared
    obtain ⟨before, d, after, hlast⟩ := exists_isLastDeclaration declarations member hdeclared
    have hkind := kindOf?_build_of_isLast gate type hlast
    refine ⟨before, d, after, hlast, ?_, ?_⟩
    · intro haccepts
      exact invoke_of_accepts _ member args label perform world hkind haccepts
    · intro hrejects
      exact invoke_of_rejects _ member args label perform world hkind hrejects

theorem invoke_build_redeclared :
    let source : VersionSource Nat GatedType String :=
      ⟨"by kind", fun kind _ _ world => (some (if kind = .static then "4" else "3"), world + 1)⟩
    let gate : Gate Nat GatedType String :=
      ⟨⟨.greater, Version.parse "3.0", none, rfl, by decide⟩, source⟩
    let volume : GatedType := ⟨"storage::Volume"⟩
    let declarations : List Declaration :=
      [⟨.constructing, "new"⟩, ⟨.onType, "open"⟩, ⟨.static, "new"⟩]
    let invoke (member : String) : Outcome Nat GatedType String Nat :=
      (build gate volume declarations).invoke member "vol" "body"
        (fun args world => (args.length, world + 10)) 0
    invoke "new" =
        ⟨.ok 3, 11, [.asked "by kind" .static volume "vol", .ran "body" volume "vol"]⟩ ∧
      invoke "open" =
        ⟨.error (.unsupported "Volume::open" (some "3")), 1,
          [.asked "by kind" .onType volume "vol",
            .logged (gate.rejected .onType "Volume::open" (some "3"))]⟩ ∧
      invoke "resize" = ⟨.error (.unguarded "storage::Volume" "resize"), 0, []⟩ := by
  intro source gate volume declarations invoke
  let perform : String → Nat → Nat × Nat := fun args world => (args.length, world + 10)
  have hlaw (member : String) := invoke_build gate volume declarations member "vol" "body" perform 0
  have hkind {before after : List Declaration} {member : String} {d : Declaration}
      (h : IsLastDeclaration declarations member before d after) :
      some d.kind = (build gate volume declarations).kindOf? member :=
    (kindOf?_build_of_isLast gate volume h).symm
  refine ⟨?_, ?_, ?_⟩
  · obtain ⟨_, d, _, hlast, haccepts, -⟩ :=
      (hlaw "new").2 ⟨⟨.static, "new"⟩, by simp [declarations], rfl⟩
    have hd : d.kind = .static := Option.some.inj ((hkind hlast).trans (by decide))
    rw [hd] at haccepts
    exact haccepts (by decide)
  · obtain ⟨_, d, _, hlast, -, hrejects⟩ :=
      (hlaw "open").2 ⟨⟨.onType, "open"⟩, by simp [declarations], rfl⟩
    have hd : d.kind = .onType := Option.some.inj ((hkind hlast).trans (by decide))
    have htarget : volume.shortName ++ "::" ++ "open" = "Volume::open" := by decide
    rw [hd, htarget] at hrejects
    exact hrejects (by decide)
  · exact (hlaw "resize").1 (by simp [declarations])

end TypeGate

end VersionDispatch
