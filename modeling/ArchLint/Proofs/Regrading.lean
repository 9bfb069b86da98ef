import ArchLint.Proofs.Cache
import ArchLint.Proofs.Finding

/-!
Weights given by name. What a check finds is the same whatever its rule weighs, so another weight of
the rule is another weight of what is reported (`checkRule_regrade`), and repetitions are told
without it (`Violation.key_regrade`). So rules with other weights report the same violations with
other weights (`run_regrade`), and an analysis under overrides is the analysis without them of the
rules that are not switched off, its violations weighed afterwards.
-/

namespace ArchLint

/-- Weights for the rules of some names. -/
abbrev Grading := String → Option Severity

/-- The head with the weight for its name, if there is one. -/
def RuleHead.regrade (g : Grading) (h : RuleHead) : RuleHead :=
  { h with severity := (g h.name).getD h.severity }

def Rule.regrade (g : Grading) (r : Rule) : Rule := { r with head := r.head.regrade g }

def Typed.regrade {β : Type} (g : Grading) (r : Typed β) : Typed β :=
  { r with head := r.head.regrade g }

/-- The violation with the weight for the name of its rule, if there is one. -/
def Violation.regrade (g : Grading) (v : Violation) : Violation :=
  { v with severity := (g v.ruleName).getD v.severity }

variable {g : Grading}

theorem Violation.key_regrade (v : Violation) : (v.regrade g).key = v.key := rfl

/-! ### Checks -/

/-- The first rule that covers a dependency is the first whatever the rules weigh. -/
theorem forbidden_regrade (rules : List (Typed EdgeRule)) (graph : FileGraph) :
    Check.forbidden (rules.map (Typed.regrade g)) graph =
      (Check.forbidden rules graph).map (Violation.regrade g) := by
  rw [Check.forbidden, Check.forbidden, List.map_flatMap]
  refine List.flatMap_congr fun source _ => ?_
  rw [List.map_filterMap]
  refine List.filterMap_congr fun target _ => ?_
  rw [List.find?_map, Option.map_map, Option.map_map]
  rfl

/-- What is reported for a rule of another weight has that weight, and is the same otherwise. -/
theorem checkRule_regrade (b : Bucket) (r : Typed b.Body) (s : Scene) :
    b.checkRule (r.regrade g) s = (b.checkRule r s).map (Violation.regrade g) := by
  obtain ⟨found, -, signed⟩ := exists_findings s b r.body
  have own : b.checkRule r s = found.map r.head.sign := signed r.head
  have regraded : b.checkRule (r.regrade g) s = found.map (r.head.regrade g).sign :=
    signed (r.head.regrade g)
  rw [regraded, own, List.map_map]
  rfl

theorem check_regrade (b : Bucket) (rules : List (Typed b.Body)) (s : Scene) :
    b.check (rules.map (Typed.regrade g)) s = (b.check rules s).map (Violation.regrade g) := by
  rcases eq_or_ne b .forbidden with rfl | hb
  · exact forbidden_regrade rules _
  · rw [Bucket.check_eq_flatMap hb, Bucket.check_eq_flatMap hb, List.flatMap_map, List.map_flatMap]
    exact List.flatMap_congr fun r _ => checkRule_regrade b r s

/-! ### Runs -/

theorem rulesIn_map_regrade (b : Bucket) (rules : List Rule) :
    rulesIn b (rules.map (Rule.regrade g)) = (rulesIn b rules).map (Typed.regrade g) := by
  rw [rulesIn, rulesIn, List.filterMap_map, List.map_filterMap]
  refine List.filterMap_congr fun r _ => ?_
  rw [Rule.typedIn?, Option.map_map]
  rfl

theorem run_regrade (rules : List Rule) (s : Scene) :
    (RuleSet.ofRules (rules.map (Rule.regrade g))).run s =
      ((RuleSet.ofRules rules).run s).map (Violation.regrade g) := by
  rw [run_ofRules, run_ofRules, meaning, meaning, List.map_flatMap]
  refine List.flatMap_congr fun b _ => ?_
  rw [rulesIn_map_regrade, check_regrade]

/-- An analysis reports what its rules report on files that are read when they are needed. -/
theorem findings_eq_run (a : Analysis) (symbols : List Symbol) :
    a.findings symbols = (RuleSet.ofRules a.activeRules).run { symbols, files := a.files } := by
  have sameText : ∀ path, (a.scene (RuleSet.ofRules a.activeRules) symbols).text? path =
      Scene.text? { symbols, files := a.files } path := fun path => text?_scene a _ symbols path
  exact run_congr_text? sameText rfl (fun _ => rfl) _

theorem dedup_regrade (vs : List Violation) :
    Violation.dedup (vs.map (Violation.regrade g)) = (Violation.dedup vs).map (Violation.regrade g) :=
  freshBy_map Violation.key_regrade [] vs

/-! ### Overrides -/

namespace Config

/-- Are the rules of a name switched off? -/
def disables (c : Config) (name : String) : Bool :=
  (c.overrides.lookup name).any fun o => o.enabled = some false

/-- The weight that is set for the rules of a name. -/
def grading (c : Config) : Grading := fun name =>
  (c.overrides.lookup name).bind RuleOverride.severity

theorem apply_eq (c : Config) (r : Rule) :
    c.apply r = if c.disables r.head.name then none else some (r.regrade c.grading) := by
  unfold apply disables Rule.regrade RuleHead.regrade grading
  cases hl : c.overrides.lookup r.head.name with
  | none => rfl
  | some o =>
    simp only [RuleOverride.apply, Option.any_some, decide_eq_true_eq, Option.bind_some]
    cases o.severity <;> rfl

theorem activeRules_eq (c : Config) (rules : List Rule) :
    c.activeRules rules =
      (rules.filter fun r => !c.disables r.head.name).map (Rule.regrade c.grading) := by
  rw [activeRules, ← List.filterMap_eq_map, List.filterMap_filter]
  refine List.filterMap_congr fun r _ => ?_
  rw [apply_eq]
  cases c.disables r.head.name <;> rfl

end Config

namespace Analysis

/-- The rules that are not switched off, with the weights of the grammar. -/
def enabledRules (a : Analysis) : List Rule :=
  a.grammar.rules.filter fun r => !a.config.disables r.head.name

/-- The analysis without overrides of the rules that are not switched off. -/
def withoutOverrides (a : Analysis) : Analysis :=
  { a with
    grammar := { a.grammar with rules := a.enabledRules }
    config := { a.config with overrides := [] } }

theorem activeRules_withoutOverrides (a : Analysis) :
    a.withoutOverrides.activeRules = a.enabledRules :=
  List.filterMap_some

/-- Overrides are seen in the weights alone once the rules are chosen. -/
theorem violations_run (a : Analysis) (symbols : List Symbol) :
    (a.run symbols).violations =
      (Violation.dedup ((RuleSet.ofRules a.enabledRules).run
        { symbols := assignRoles a.grammar.roles symbols, files := a.files })).map
          (Violation.regrade a.config.grading) := by
  rw [← dedup_regrade, ← run_regrade, enabledRules, ← Config.activeRules_eq]
  exact congrArg Violation.dedup (findings_eq_run a _)

theorem violations_run_withoutOverrides (a : Analysis) (symbols : List Symbol) :
    (a.withoutOverrides.run symbols).violations =
      Violation.dedup ((RuleSet.ofRules a.enabledRules).run
        { symbols := assignRoles a.grammar.roles symbols, files := a.files }) := by
  rw [← activeRules_withoutOverrides]
  exact congrArg Violation.dedup (findings_eq_run a.withoutOverrides _)

end Analysis

/-- The violation under another weight. -/
def Violation.weighing (severity : Severity) (v : Violation) : Violation := { v with severity }

theorem map_weighing_map_regrade (severity : Severity) (vs : List Violation) :
    (vs.map (Violation.regrade g)).map (Violation.weighing severity) =
      vs.map (Violation.weighing severity) := by
  rw [List.map_map]
  rfl

/-- Overrides act on the report as on the grammar: rules that are switched off might as well not be
there, and what the others report gets the weights that are set for their names. So configurations
that switch off the same rules differ in the weights of what is reported and in nothing else. -/
theorem overrides_regrade_reports (a : Analysis) (symbols : List Symbol) :
    a.run symbols =
      { a.withoutOverrides.run symbols with
        violations :=
          (a.withoutOverrides.run symbols).violations.map (Violation.regrade a.config.grading) } ∧
    ∀ config : Config, (∀ name, config.disables name = a.config.disables name) →
      ∀ severity,
        ({ a with config : Analysis }.run symbols).violations.map (Violation.weighing severity) =
          (a.run symbols).violations.map (Violation.weighing severity) := by
  constructor
  · have violations : (a.run symbols).violations =
        (a.withoutOverrides.run symbols).violations.map (Violation.regrade a.config.grading) := by
      rw [a.violations_run, a.violations_run_withoutOverrides]
    exact congrArg (fun vs => Report.mk vs _ _) violations
  · intro config hd severity
    have sameRules : { a with config : Analysis }.enabledRules = a.enabledRules :=
      List.filter_congr fun r _ => congrArg not (hd r.head.name)
    rw [Analysis.violations_run, Analysis.violations_run, map_weighing_map_regrade,
      map_weighing_map_regrade, sameRules]

/-- Two rules of one name get its weight, and a rule that is switched off leaves the dependency it
would report to the next rule, whatever weight is set for it. -/
theorem regraded_rules_report_the_same :
    let closed : Rule := ⟨⟨"closed", .error, none⟩, .forbidden ⟨.all, .roles .all⟩⟩
    let noB : Rule := ⟨⟨"b", .error, none⟩, .forbidden ⟨.all, .roles (.one unknownRole)⟩⟩
    let small : Rule := ⟨⟨"b", .warning, some "short"⟩, .fileSize ⟨.all, 1⟩⟩
    let off : String × RuleOverride := ("closed", { enabled := some false, severity := some .info })
    let a : Analysis :=
      { grammar := ⟨"1.0", "typescript", [], [closed, noB, small]⟩
        config := { overrides := [off, ("b", { severity := some .info })] }
        files := ⟨fun _ => .ok "first\nsecond", fun _ => true⟩ }
    let config : Config := { preload := false, overrides := [off] }
    let symbols : List Symbol := [⟨"a.ts", "a", unknownRole, ["b.ts"], .wholeFile⟩,
      ⟨"b.ts", "b", unknownRole, [], .wholeFile⟩]
    (∀ name, config.disables name = a.config.disables name) ∧
    (a.run symbols).violations =
      (a.withoutOverrides.run symbols).violations.map (Violation.regrade a.config.grading) ∧
    ({ a with config : Analysis }.run symbols).violations.map (Violation.weighing .error) =
      (a.run symbols).violations.map (Violation.weighing .error) ∧
    (a.run symbols).violations.map (fun v => (v.ruleName, v.severity, v.file)) =
      [("b", .info, "a.ts"), ("b", .info, "a.ts"), ("b", .info, "b.ts")] ∧
    ({ a with config : Analysis }.run symbols).violations.map
        (fun v => (v.ruleName, v.severity, v.file)) =
      [("b", .error, "a.ts"), ("b", .warning, "a.ts"), ("b", .warning, "b.ts")] := by
  intro closed noB small off a config symbols
  have sameSwitches : ∀ name, config.disables name = a.config.disables name := by
    intro name
    rcases eq_or_ne name "closed" with rfl | hc
    · rfl
    rcases eq_or_ne name "b" with rfl | hb
    · rfl
    · simp [config, a, off, Config.disables, List.lookup_cons, beq_false_of_ne hc,
        beq_false_of_ne hb]
  obtain ⟨regraded, alike⟩ := overrides_regrade_reports a symbols
  refine ⟨sameSwitches, ?_, ?_, ?_, ?_⟩
  · rw [regraded]
  · exact alike config sameSwitches .error
  · decide +kernel
  · decide +kernel

end ArchLint
