import ArchLint.Analysis
import ArchLint.Proofs.Finding

/-!
Where violations come from. Everything that a run reports is a finding of one of its rules, signed
by that rule (`RuleHead.Signs`), and the rule would report it alone (`mem_run_singleton`). So each
violation can be put down to a rule, whose name and weight it bears, whose comment its message ends
in, and whose kind says where it stands (`Rule.AccountsFor`).
-/

namespace ArchLint

/-- The violation bears name and weight of the rule and is worded by it. -/
structure RuleHead.Signs (h : RuleHead) (v : Violation) : Prop where
  ruleName : v.ruleName = h.name
  severity : v.severity = h.severity
  message : ∃ finding, v.message = h.message finding

/-- All of the violations are the rule's. -/
def RuleHead.SignsAll (h : RuleHead) (vs : List Violation) : Prop := ∀ v ∈ vs, h.Signs v

theorem RuleHead.signs_sign (h : RuleHead) (f : Finding) : h.Signs (h.sign f) :=
  ⟨rfl, rfl, f.text, rfl⟩

/-! ### Checks -/

/-- What a check reports for a rule is the rule's. -/
theorem signsAll_checkRule (b : Bucket) (r : Typed b.Body) (scene : Scene) :
    r.head.SignsAll (b.checkRule r scene) := by
  intro v hv
  obtain ⟨f, -, rfl⟩ := (signedAt_checkRule scene b r.body).exists_of_mem hv
  exact r.head.signs_sign f

/-- What is reported of forbidden dependencies is reported for one of the rules alone. -/
theorem exists_mem_forbidden_singleton {rules : List (Typed EdgeRule)} {g : FileGraph}
    {v : Violation} (hv : v ∈ Check.forbidden rules g) :
    ∃ r ∈ rules, v ∈ Check.forbidden [r] g := by
  obtain ⟨source, hs, hv⟩ := List.mem_flatMap.mp hv
  obtain ⟨target, ht, hv⟩ := List.mem_filterMap.mp hv
  obtain ⟨r, hr, rfl⟩ := Option.map_eq_some_iff.mp hv
  have covers : Check.EdgeRule.covers r.body source target = true := by
    simpa using List.find?_some hr
  refine ⟨r, List.mem_of_find?_eq_some hr, List.mem_flatMap.mpr ⟨source, hs, ?_⟩⟩
  refine List.mem_filterMap.mpr ⟨target, ht, ?_⟩
  rw [List.find?_singleton, covers, if_pos rfl, Option.map_some]

/-- What a check reports for rules it reports for one of them. -/
theorem exists_mem_checkRule_of_mem_check {b : Bucket} {rules : List (Typed b.Body)} {scene : Scene}
    {v : Violation} (hv : v ∈ b.check rules scene) : ∃ r ∈ rules, v ∈ b.checkRule r scene := by
  rcases eq_or_ne b .forbidden with rfl | hb
  · exact exists_mem_forbidden_singleton hv
  · rw [Bucket.check_eq_flatMap hb] at hv
    exact List.mem_flatMap.mp hv

theorem exists_signs_of_mem_check {b : Bucket} {rules : List (Typed b.Body)} {scene : Scene}
    {v : Violation} (hv : v ∈ b.check rules scene) : ∃ r ∈ rules, r.head.Signs v := by
  obtain ⟨r, hr, hv⟩ := exists_mem_checkRule_of_mem_check hv
  exact ⟨r, hr, signsAll_checkRule b r scene v hv⟩

/-! ### Runs -/

theorem Bucket.check_singleton (b : Bucket) (r : Typed b.Body) (scene : Scene) :
    b.check [r] scene = b.checkRule r scene := by
  rcases eq_or_ne b forbidden with rfl | hb
  · rfl
  · rw [check_eq_flatMap hb, List.flatMap_singleton]

/-- What a run reports, the check of one rule does. -/
theorem exists_checkRule_of_mem_run {rules : List Rule} {scene : Scene} {v : Violation}
    (hv : v ∈ (RuleSet.ofRules rules).run scene) :
    ∃ r ∈ rules, ∃ b ∈ Bucket.reported, ∃ body : b.Body, r.kind = b.kindOf body ∧
      v ∈ b.checkRule ⟨r.head, body⟩ scene := by
  rw [run_ofRules] at hv
  obtain ⟨b, hb, hv⟩ := List.mem_flatMap.mp hv
  obtain ⟨t, ht, hv⟩ := exists_mem_checkRule_of_mem_check hv
  obtain ⟨r, hr, ht⟩ := List.mem_filterMap.mp ht
  obtain ⟨body, hk, rfl⟩ := Option.map_eq_some_iff.mp ht
  exact ⟨r, hr, b, hb, body, kind_eq_kindOf hk, hv⟩

/-- What a check reports for a rule is reported by a run of the rule alone. -/
theorem mem_run_singleton {b : Bucket} (hb : b ∈ Bucket.reported) {r : Typed b.Body}
    {scene : Scene} {v : Violation} (hv : v ∈ b.checkRule r scene) :
    v ∈ (RuleSet.ofRules [⟨r.head, b.kindOf r.body⟩]).run scene := by
  have alone : rulesIn b [⟨r.head, b.kindOf r.body⟩] = [r] := by
    rw [rulesIn_singleton, Rule.typedIn?, bodyIn?_kindOf, Option.map_some, Option.toList_some]
  rw [run_ofRules, meaning]
  refine List.mem_flatMap.mpr ⟨b, hb, ?_⟩
  rwa [alone, Bucket.check_singleton]

/-! ### Accounts -/

/-- What a rule adds to its findings: its comment, if it has one. -/
def RuleHead.remark (h : RuleHead) : String :=
  match h.comment with
  | some c => " (" ++ c ++ ")"
  | none => ""

theorem RuleHead.message_eq (h : RuleHead) (finding : String) :
    h.message finding = "[" ++ h.name ++ "] " ++ finding ++ h.remark := by
  unfold message remark
  cases h.comment with
  | none => exact (String.append_empty ..).symm
  | some c => simp only [String.append_assoc]

/-- The finding at the same place, reported for another head. -/
def Violation.restated (v : Violation) (head : RuleHead) (finding : String) : Violation :=
  { v with ruleName := head.name, severity := head.severity, message := head.message finding }

/-- The violation is put down to the rule. Its message holds a finding that neither the rule's name
nor its comment has a part in: with whatever head, the rule alone reports the same finding. -/
structure Rule.AccountsFor (r : Rule) (scene : Scene) (v : Violation) : Prop where
  ruleName : v.ruleName = r.head.name
  severity : v.severity = r.head.severity
  message : ∃ finding, v.message = "[" ++ r.head.name ++ "] " ++ finding ++ r.head.remark ∧
    ∀ head, v.restated head finding ∈ (RuleSet.ofRules [⟨head, r.kind⟩]).run scene
  place : r.kind.Locates (scene.symbols.map Symbol.path) v.file v.dependency

theorem exists_accountsFor_of_mem_run {rules : List Rule} {scene : Scene} {v : Violation}
    (hv : v ∈ (RuleSet.ofRules rules).run scene) : ∃ r ∈ rules, r.AccountsFor scene v := by
  obtain ⟨r, hr, b, hb, body, kind, hv⟩ := exists_checkRule_of_mem_run hv
  obtain ⟨found, places, signed⟩ := exists_findings scene b body
  rw [signed r.head] at hv
  obtain ⟨f, hf, rfl⟩ := List.mem_map.mp hv
  have place := kind ▸ places f hf
  refine ⟨r, hr, rfl, rfl, ⟨f.text, r.head.message_eq f.text, fun head => ?_⟩, place⟩
  have reported : head.sign f ∈ b.checkRule ⟨head, body⟩ scene := by
    rw [signed head]
    exact List.mem_map_of_mem hf
  rw [kind]
  exact mem_run_singleton hb reported

theorem map_path_assignRoles (roles : List RoleDefinition) (symbols : List Symbol) :
    (assignRoles roles symbols).map Symbol.path = symbols.map Symbol.path := by
  rw [assignRoles, List.map_map]
  rfl

/-- Every violation of a run, and of the report of an analysis, can be put down to one of the rules
that were checked, and stands where rules of its kind may report. -/
theorem every_violation_has_its_rule :
    (∀ (rules : List Rule) (scene : Scene), ∀ v ∈ (RuleSet.ofRules rules).run scene,
      ∃ r ∈ rules, r.AccountsFor scene v) ∧
    ∀ (a : Analysis) (symbols : List Symbol), ∀ v ∈ (a.run symbols).violations,
      ∃ r ∈ a.activeRules,
        r.AccountsFor (a.scene (.ofRules a.activeRules) (assignRoles a.grammar.roles symbols)) v ∧
        r.kind.Locates (symbols.map Symbol.path) v.file v.dependency := by
  refine ⟨fun rules scene v hv => exists_accountsFor_of_mem_run hv, fun a symbols v hv => ?_⟩
  obtain ⟨r, hr, accounts⟩ := exists_accountsFor_of_mem_run (mem_of_mem_distinctBy hv)
  refine ⟨r, hr, accounts, ?_⟩
  have place := accounts.place
  rwa [Analysis.scene, map_path_assignRoles] at place

/-- Two files depend on each other, and there are neither documents nor tests: two dependencies, a
cycle with the comment of its rule, a directory and the project are reported. -/
theorem cycle_has_its_rule :
    let acyclic : Rule := ⟨⟨"acyclic", .error, some "ADR 7"⟩, .forbidden ⟨.all, .cycle⟩⟩
    let apart : Rule := ⟨⟨"apart", .warning, none⟩, .forbidden ⟨.all, .roles .all⟩⟩
    let docs : Rule := ⟨⟨"docs", .info, none⟩, .layout ⟨["docs"]⟩⟩
    let tested : Rule := ⟨⟨"tested", .warning, some "later"⟩, .testRatio ⟨.one⟩⟩
    let a : Analysis :=
      { grammar := ⟨"1.0", "typescript", [], [tested, docs, apart, acyclic]⟩
        files := ⟨fun _ => .ok "", fun _ => false⟩ }
    let symbols : List Symbol := [⟨"a.ts", "a", unknownRole, ["b.ts"], .wholeFile⟩,
      ⟨"b.ts", "b", unknownRole, ["a.ts"], .wholeFile⟩]
    let cycle : Violation :=
      { ruleName := "acyclic"
        severity := .error
        file := "a.ts"
        message := "[acyclic] circular dependency: a.ts -> b.ts -> a.ts (ADR 7)"
        sourceRole := some unknownRole
        dependency := some "a.ts -> b.ts -> a.ts" }
    cycle ∈ (a.run symbols).violations ∧
    (∃ r ∈ a.activeRules,
      r.AccountsFor (a.scene (.ofRules a.activeRules) (assignRoles [] symbols)) cycle ∧
      r.kind.Locates ["a.ts", "b.ts"] cycle.file cycle.dependency) ∧
    (a.run symbols).violations.map (fun v => (v.ruleName, v.file, v.dependency)) =
      [("apart", "a.ts", some "b.ts"), ("apart", "b.ts", some "a.ts"),
        ("acyclic", "a.ts", some "a.ts -> b.ts -> a.ts"), ("docs", "docs", none),
        ("tested", "PROJECT", none)] := by
  intro acyclic apart docs tested a symbols cycle
  have reported : cycle ∈ (a.run symbols).violations := by decide +kernel
  exact ⟨reported, every_violation_has_its_rule.2 a symbols cycle reported, by decide +kernel⟩

end ArchLint
