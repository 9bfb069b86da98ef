import ArchLint.Proofs.Imports
import Mathlib.Data.List.Flatten
import Mathlib.Data.Option.Basic

/-!
Rules about imports. Of the forbidden imports each is reported once, by the first rule that speaks of it
(`mem_forbidden_iff`). A rule about required imports reports the files that lack one, in the order in
which files were first seen (`forall₂_required`), and more dependencies can only make them fewer
(`required_sublist`).
-/

namespace ArchLint

/-! ### Forbidden imports -/

/-- The file and the dependency that a violation is about. -/
def Violation.ends (v : Violation) : String × Option String := (v.file, v.dependency)

/-- The violation of a rule by an import, with the roles of both files. -/
structure Violation.NamesImport (v : Violation) (head : RuleHead) (p source q target : String) :
    Prop where
  ruleName : v.ruleName = head.name
  severity : v.severity = head.severity
  file : v.file = p
  sourceRole : v.sourceRole = some source
  dependency : v.dependency = some q
  targetRole : v.targetRole = some target
  message : v.message = head.message
    (source ++ " '" ++ p ++ "' must not depend on " ++ target ++ " '" ++ q ++ "'")

/-- Which rule reports an edge does not show in what it is about. -/
theorem map_ends_reported (rules : List (Typed EdgeRule)) (edges : List (FileNode × FileNode)) :
    (edges.filterMap fun e => (rules.find? fun r => Check.EdgeRule.covers r.body e.1 e.2).map fun r =>
        Check.forbiddenViolation r.head e.1 e.2).map Violation.ends =
      (edges.filter fun e => rules.any fun r => Check.EdgeRule.covers r.body e.1 e.2).map fun e =>
        (e.1.path, some e.2.path) := by
  rw [List.map_filterMap, ← List.filterMap_eq_map, List.filterMap_filter]
  refine List.filterMap_congr fun e _ => ?_
  rw [← List.isSome_find?]
  cases rules.find? fun r => Check.EdgeRule.covers r.body e.1 e.2 with
  | none => rfl
  | some r => rfl

theorem Violation.NamesImport.eq_forbiddenViolation {v : Violation} {head : RuleHead}
    {p source q target : String} (h : v.NamesImport head p source q target) :
    Check.forbiddenViolation head ⟨p, source, []⟩ ⟨q, target, []⟩ = v := by
  change _ = Violation.mk v.ruleName v.severity v.file v.message v.sourceRole v.targetRole v.dependency
  rw [h.ruleName, h.severity, h.file, h.message, h.sourceRole, h.targetRole, h.dependency]
  rfl

section

variable {rules : List (Typed EdgeRule)} {symbols : List Symbol}

/-- What is reported, and by which rule. -/
theorem mem_forbidden_iff {v : Violation} :
    v ∈ Check.forbidden rules (.ofSymbols symbols) ↔
      ∃ p q source target r, Imports symbols p q ∧ fileRole? symbols p = some source ∧
        fileRole? symbols q = some target ∧
        rules.find? (fun r => r.body.source.selects source && r.body.target.selects target) = some r ∧
        v.NamesImport r.head p source q target := by
  rw [(forbidden_perm rules symbols).mem_iff, List.mem_filterMap]
  constructor
  · rintro ⟨⟨a, b⟩, edge, reported⟩
    obtain ⟨ha, hb, imports⟩ := mem_bareEdges.mp edge
    obtain ⟨r, first, rfl⟩ := Option.map_eq_some_iff.mp reported
    exact ⟨a.path, b.path, a.role, b.role, r, imports, (mem_bareNodes.mp ha).1,
      (mem_bareNodes.mp hb).1, first, rfl, rfl, rfl, rfl, rfl, rfl, rfl⟩
  · rintro ⟨p, q, source, target, r, imports, hp, hq, first, names⟩
    refine ⟨(⟨p, source, []⟩, ⟨q, target, []⟩), mem_bareEdges.mpr ⟨?_, ?_, imports⟩, ?_⟩
    · exact mem_bareNodes.mpr ⟨hp, rfl⟩
    · exact mem_bareNodes.mpr ⟨hq, rfl⟩
    · exact Option.map_eq_some_iff.mpr ⟨r, first, names.eq_forbiddenViolation⟩

theorem ends_forbidden_perm (rules : List (Typed EdgeRule)) (symbols : List Symbol) :
    ((Check.forbidden rules (.ofSymbols symbols)).map Violation.ends).Perm
      (((bareEdges symbols).filter fun e =>
        rules.any fun r => Check.EdgeRule.covers r.body e.1 e.2).map fun e =>
          (e.1.path, some e.2.path)) := by
  rw [← map_ends_reported]
  exact (forbidden_perm rules symbols).map _

theorem nodup_ends_forbidden (rules : List (Typed EdgeRule)) (symbols : List Symbol) :
    ((Check.forbidden rules (.ofSymbols symbols)).map Violation.ends).Nodup := by
  have joined := (nodup_paths_bareEdges symbols).map
    (Function.injective_id.prodMap (Option.some_injective String))
  rw [List.map_map] at joined
  exact (ends_forbidden_perm rules symbols).nodup_iff.mpr (joined.sublist (List.filter_sublist.map _))

/-- Between which files something is reported. -/
theorem mem_ends_forbidden_iff {p q : String} :
    (p, some q) ∈ (Check.forbidden rules (.ofSymbols symbols)).map Violation.ends ↔
      Imports symbols p q ∧ ∃ source ∈ fileRole? symbols p, ∃ target ∈ fileRole? symbols q,
        ∃ r ∈ rules, r.body.source.selects source = true ∧ r.body.target.selects target = true := by
  simp only [List.mem_map, mem_forbidden_iff]
  constructor
  · rintro ⟨v, ⟨p', q', source, target, r, imports, hp, hq, first, names⟩, ends⟩
    obtain ⟨rfl, same⟩ := Prod.mk.inj (ends.symm.trans (congrArg₂ Prod.mk names.file names.dependency))
    obtain rfl := Option.some.inj same
    have covers := List.find?_some first
    rw [Bool.and_eq_true] at covers
    exact ⟨imports, source, hp, target, hq, r, List.mem_of_find?_eq_some first, covers⟩
  · rintro ⟨imports, source, hp, target, hq, r, hr, covers⟩
    have found : (rules.find? fun r =>
        r.body.source.selects source && r.body.target.selects target).isSome = true :=
      List.find?_isSome.mpr ⟨r, hr, by rw [covers.1, covers.2]; rfl⟩
    obtain ⟨first, hfirst⟩ := Option.isSome_iff_exists.mp found
    exact ⟨Check.forbiddenViolation first.head ⟨p, source, []⟩ ⟨q, target, []⟩,
      ⟨p, q, source, target, first, imports, hp, hq, hfirst, rfl, rfl, rfl, rfl, rfl, rfl, rfl⟩, rfl⟩

end

/-- The reports of forbidden dependencies are one for each import between files whose roles some rule
speaks of. Each is made by the first such rule, and in which order the rules stand does not change what
is reported. -/
theorem forbidden_imports_are_reported_once (rules : List (Typed EdgeRule)) (symbols : List Symbol) :
    let reports := Check.forbidden rules (.ofSymbols symbols)
    (reports.map Violation.ends).Nodup ∧
    (∀ p q, (p, some q) ∈ reports.map Violation.ends ↔
      Imports symbols p q ∧ ∃ source ∈ fileRole? symbols p, ∃ target ∈ fileRole? symbols q,
        ∃ r ∈ rules, r.body.source.selects source = true ∧ r.body.target.selects target = true) ∧
    (∀ v, v ∈ reports ↔
      ∃ p q source target r, Imports symbols p q ∧ fileRole? symbols p = some source ∧
        fileRole? symbols q = some target ∧
        rules.find? (fun r => r.body.source.selects source && r.body.target.selects target) = some r ∧
        v.NamesImport r.head p source q target) ∧
    (∀ rules' : List (Typed EdgeRule), rules.Perm rules' →
      (Check.forbidden rules' (.ofSymbols symbols)).map Violation.ends =
        reports.map Violation.ends) ∧
    ∀ v ∈ reports, ∃ t ∈ symbols, v.dependency = some t.path := by
  refine ⟨nodup_ends_forbidden rules symbols, fun p q => mem_ends_forbidden_iff,
    fun v => mem_forbidden_iff, fun rules' reordered => ?_, fun v hv => ?_⟩
  · rw [forbidden_eq_edges, forbidden_eq_edges, map_ends_reported, map_ends_reported]
    simp only [reordered.any_eq]
  · obtain ⟨p, q, source, target, r, ⟨-, t, ht, rfl⟩, -, -, -, names⟩ := mem_forbidden_iff.mp hv
    exact ⟨t, ht, names.dependency⟩

/-- A file with two symbols imports itself and another, lists one file twice and one that is not there;
two rules speak of one of its imports. -/
theorem overlapping_rules_report_an_import_once :
    let noB : Typed EdgeRule := ⟨⟨"no-b", .error, none⟩, ⟨.one "A", .one "B"⟩⟩
    let closed : Typed EdgeRule := ⟨⟨"closed", .warning, some "ADR 3"⟩, ⟨.all, .any ["A", "B"]⟩⟩
    let symbols : List Symbol := [⟨"a.ts", "one", "A", ["b.ts", "gone.ts", "a.ts"], .classDecl⟩,
      ⟨"c.ts", "c", "C", ["b.ts"], .wholeFile⟩, ⟨"a.ts", "two", "C", ["c.ts", "b.ts"], .constDecl⟩,
      ⟨"b.ts", "b", "B", [], .wholeFile⟩]
    let own : Violation :=
      { ruleName := "closed"
        severity := .warning
        file := "a.ts"
        message := "[closed] A 'a.ts' must not depend on A 'a.ts' (ADR 3)"
        sourceRole := some "A"
        targetRole := some "A"
        dependency := some "a.ts" }
    let reports := Check.forbidden [noB, closed] (.ofSymbols symbols)
    reports.map Violation.ruleName = ["no-b", "closed", "closed"] ∧
    reports.map Violation.ends =
      [("a.ts", some "b.ts"), ("a.ts", some "a.ts"), ("c.ts", some "b.ts")] ∧
    (reports.map Violation.ends).Nodup ∧ Imports symbols "c.ts" "b.ts" ∧
    [noB, closed].Perm [closed, noB] ∧
    (Check.forbidden [closed, noB] (.ofSymbols symbols)).map Violation.ends =
      reports.map Violation.ends ∧
    own ∈ reports ∧ ∃ t ∈ symbols, own.dependency = some t.path := by
  intro noB closed symbols own reports
  obtain ⟨nodup, imports, -, reordered, known⟩ :=
    forbidden_imports_are_reported_once [noB, closed] symbols
  have ends : reports.map Violation.ends =
      [("a.ts", some "b.ts"), ("a.ts", some "a.ts"), ("c.ts", some "b.ts")] := by decide +kernel
  have swapped : [noB, closed].Perm [closed, noB] := .swap closed noB []
  have reported : own ∈ reports := by decide +kernel
  refine ⟨by decide +kernel, ends, nodup, ?_, swapped, reordered _ swapped, reported,
    known own reported⟩
  exact ((imports "c.ts" "b.ts").mp (ends ▸ by decide)).1

/-! ### Required imports -/

/-- The file has a role that the rule speaks of, and nothing that its symbols list is a file of a role
that the rule asks for. -/
def LacksImport (rule : EdgeRule) (symbols : List Symbol) (p : String) : Prop :=
  (∃ role ∈ fileRole? symbols p, rule.source.selects role = true) ∧
    ∀ s ∈ symbols, s.path = p → ∀ q ∈ s.dependencies, ∀ role ∈ fileRole? symbols q,
      rule.target.selects role = false

instance (rule : EdgeRule) (symbols : List Symbol) (p : String) :
    Decidable (LacksImport rule symbols p) :=
  inferInstanceAs (Decidable (_ ∧ _))

/-- The violation of a rule by a file of some role without the import that is asked for. -/
structure Violation.DemandsImport (v : Violation) (rule : Typed EdgeRule) (p role : String) :
    Prop where
  ruleName : v.ruleName = rule.head.name
  severity : v.severity = rule.head.severity
  file : v.file = p
  sourceRole : v.sourceRole = some role
  dependency : v.dependency = none
  targetRole : v.targetRole = some rule.body.target.describe
  message : v.message = rule.head.message
    (role ++ " '" ++ p ++ "' must depend on at least one " ++ rule.body.target.describe)

section

variable {symbols : List Symbol}

/-- What a file lacks shows in the files it mentions. -/
theorem lacksImport_iff {n : FileNode} (hn : n ∈ bareNodes symbols) (rule : EdgeRule) :
    LacksImport rule symbols n.path ↔
      (rule.source.selects n.role &&
        !(mentioned symbols n).any fun t => rule.target.selects t.role) = true := by
  obtain ⟨role, -⟩ := mem_bareNodes.mp hn
  rw [LacksImport, role, Bool.and_eq_true, Bool.not_eq_true', List.any_eq_false]
  refine and_congr (by simp) ⟨fun lacks t ht => ?_, fun lacks s hs hp q hq target known => ?_⟩
  · obtain ⟨known, lists⟩ := mem_mentioned.mp ht
    obtain ⟨s, hs, hp, hq⟩ := mem_mentions.mp lists
    exact Bool.eq_false_iff.mp (lacks s hs hp t.path hq t.role (mem_bareNodes.mp known).1)
  · have here : (⟨q, target, []⟩ : FileNode) ∈ mentioned symbols n :=
      mem_mentioned.mpr ⟨mem_bareNodes.mpr ⟨known, rfl⟩, mem_mentions.mpr ⟨s, hs, hp, hq⟩⟩
    exact Bool.eq_false_iff.mpr (lacks _ here)

/-- The files that lack an import are reported in the order in which they were first seen. -/
theorem forall₂_required (rule : Typed EdgeRule) (symbols : List Symbol) :
    List.Forall₂ (fun p v => ∃ role ∈ fileRole? symbols p, v.DemandsImport rule p role)
      ((distinct (symbols.map Symbol.path)).filter fun p => LacksImport rule.body symbols p)
      (Check.required rule (.ofSymbols symbols)) := by
  have lacking : (bareNodes symbols).filter (fun n => LacksImport rule.body symbols n.path) =
      (bareNodes symbols).filter fun n => rule.body.source.selects n.role &&
        !(mentioned symbols n).any fun t => rule.body.target.selects t.role :=
    List.filter_congr fun n hn => Bool.eq_iff_iff.mpr
      (decide_eq_true_iff.trans (lacksImport_iff hn rule.body))
  rw [required_eq_map_bareNodes, ← lacking, ← map_path_bareNodes, List.filter_map,
    List.forall₂_map_left_iff, List.forall₂_map_right_iff]
  refine List.forall₂_same.mpr fun n hn => ?_
  obtain ⟨role, -⟩ := mem_bareNodes.mp (List.mem_of_mem_filter hn)
  exact ⟨n.role, role, rfl, rfl, rfl, rfl, rfl, rfl, rfl⟩

theorem required_sublist {symbols' : List Symbol}
    (h : List.Forall₂ Symbol.DependsMore symbols symbols') (rule : Typed EdgeRule) :
    (Check.required rule (.ofSymbols symbols')).Sublist
      (Check.required rule (.ofSymbols symbols)) := by
  have embedded := List.sublistForall₂_iff.mpr ⟨symbols', h, List.Sublist.refl _⟩
  have more (n : FileNode) : mentioned symbols n ⊆ mentioned symbols' n := by
    intro t ht
    obtain ⟨known, lists⟩ := mem_mentioned.mp ht
    exact mem_mentioned.mpr
      ⟨bareNodes_eq_of_dependsMore h ▸ known, mentions_subset embedded n.path lists⟩
  rw [required_eq_map_bareNodes, required_eq_map_bareNodes, ← bareNodes_eq_of_dependsMore h]
  refine (List.monotone_filter_right _ fun n lacks => ?_).map _
  rw [Bool.and_eq_true, Bool.not_eq_true', List.any_eq_false] at lacks ⊢
  exact ⟨lacks.1, fun t ht => lacks.2 t (more n ht)⟩

end

/-- For each rule in turn, and for each file in the order in which files were first seen, one report if
the file lacks the import that the rule asks for, and else none. A dependency more never makes another
report. -/
theorem missing_imports_are_reported_in_order (rules : List (Typed EdgeRule))
    (symbols : List Symbol) :
    List.Forall₂ (fun d v => ∃ role ∈ fileRole? symbols d.2, v.DemandsImport d.1 d.2 role)
      (rules.flatMap fun r => ((distinct (symbols.map Symbol.path)).filter fun p =>
        LacksImport r.body symbols p).map fun p => (r, p))
      (rules.flatMap fun r => Check.required r (.ofSymbols symbols)) ∧
    ∀ symbols', List.Forall₂ Symbol.DependsMore symbols symbols' →
      (rules.flatMap fun r => Check.required r (.ofSymbols symbols')).Sublist
        (rules.flatMap fun r => Check.required r (.ofSymbols symbols)) := by
  constructor
  · refine List.rel_flatMap (List.forall₂_same.mpr fun _ _ => rfl) ?_
    rintro r _ rfl
    exact List.forall₂_map_left_iff.mpr (forall₂_required r symbols)
  · intro symbols' more
    exact List.Sublist.flatMap_right rules fun r _ => required_sublist more r

/-- Two files must import a gateway. The one does with its second symbol, the gateway being declared
later, and the other lists a file that is not there, until it lists the gateway too. -/
theorem import_of_second_symbol_is_not_missing :
    let needs : Typed EdgeRule := ⟨⟨"needs", .error, none⟩, ⟨.one "S", .any ["G", "R"]⟩⟩
    let symbols : List Symbol := [⟨"a.ts", "one", "S", ["b.ts"], .classDecl⟩,
      ⟨"b.ts", "b", "S", ["gone.ts"], .wholeFile⟩, ⟨"a.ts", "two", "S", ["g.ts"], .constDecl⟩,
      ⟨"g.ts", "g", "G", [], .wholeFile⟩]
    let later : List Symbol := [⟨"a.ts", "one", "S", ["b.ts"], .classDecl⟩,
      ⟨"b.ts", "b", "S", ["gone.ts", "g.ts"], .wholeFile⟩, ⟨"a.ts", "two", "S", ["g.ts"], .constDecl⟩,
      ⟨"g.ts", "g", "G", ["a.ts"], .wholeFile⟩]
    let reports (symbols : List Symbol) :=
      [needs].flatMap fun r => Check.required r (.ofSymbols symbols)
    (reports symbols).map (fun v => (v.file, v.message)) =
      [("b.ts", "[needs] S 'b.ts' must depend on at least one G or R")] ∧
    List.Forall₂ (fun d v => ∃ role ∈ fileRole? symbols d.2, v.DemandsImport d.1 d.2 role)
      [(needs, "b.ts")] (reports symbols) ∧
    List.Forall₂ Symbol.DependsMore symbols later ∧
    (reports later).Sublist (reports symbols) ∧ reports later = [] := by
  intro needs symbols later reports
  obtain ⟨each, fewer⟩ := missing_imports_are_reported_in_order [needs] symbols
  have more : List.Forall₂ Symbol.DependsMore symbols later := by
    simp [symbols, later, Symbol.DependsMore]
  have lacking : [needs].flatMap (fun r => ((distinct (symbols.map Symbol.path)).filter fun p =>
      LacksImport r.body symbols p).map fun p => (r, p)) = [(needs, "b.ts")] := by decide +kernel
  exact ⟨by decide +kernel, lacking ▸ each, more, fewer later more, by decide +kernel⟩

end ArchLint
