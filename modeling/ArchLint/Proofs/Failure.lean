import ArchLint.CommandLine.Run
import ArchLint.Proofs.Provenance
import ArchLint.Proofs.Repetition

/-!
When a run fails. It fails when an error is left after repetitions were dropped, and what is dropped
is judged by file, rule name and message alone: an error behind a lighter violation that agrees in
these is lost (`hasErrors_dedup_iff`). Only rules of one name can agree so, and as long as these have
one weight every error counts. All this is said of keys that tell violations apart, as they do when
no text of the input that becomes a file or a rule name of a violation holds the separator of keys
(`keysApart_findings`).
-/

namespace ArchLint

open Violation (KeysApart)

/-- Rules of one name weigh the same. -/
def UniformSeverity (rules : List Rule) : Prop :=
  ∀ r ∈ rules, ∀ q ∈ rules, r.head.name = q.head.name → r.head.severity = q.head.severity

/-- No text that a violation shows as its file or as its rule's name holds the separator of keys. -/
structure PlainKeys (rules : List Rule) (symbols : List Symbol) : Prop where
  names : ∀ r ∈ rules, '\u001f' ∉ r.head.name.toList
  directories : ∀ r ∈ rules, ∀ d ∈ r.kind.directories, '\u001f' ∉ d.toList
  paths : ∀ x ∈ symbols, '\u001f' ∉ x.path.toList

/-! ### Errors that are left -/

theorem hasErrors_iff (r : Report) : r.hasErrors = true ↔ ∃ v ∈ r.violations, v.severity = .error := by
  simp [Report.hasErrors]

theorem exists_error_of_dedup {vs : List Violation} (h : ∃ v ∈ Violation.dedup vs, v.severity = .error) :
    ∃ v ∈ vs, v.severity = .error := by
  obtain ⟨v, hv, he⟩ := h
  exact ⟨v, mem_of_mem_distinctBy hv, he⟩

/-- An error before which only errors have its key leaves an error with that key. -/
theorem exists_error_dedup {before after : List Violation} {v : Violation} (hv : v.severity = .error)
    (hb : ∀ w ∈ before, w.key = v.key → w.severity = .error) :
    ∃ w ∈ Violation.dedup (before ++ v :: after), w.severity = .error := by
  have kept : v.key ∈ (distinctBy Violation.key (before ++ [v])).map Violation.key :=
    mem_keys_distinctBy.mpr (List.mem_map_of_mem (List.mem_append_right before List.mem_cons_self))
  obtain ⟨w, hw, hk⟩ := List.mem_map.mp kept
  refine ⟨w, ?_, ?_⟩
  · have split : before ++ v :: after = (before ++ [v]) ++ after := by simp
    rw [Violation.dedup, split]
    exact distinctBy_append_left_subset _ _ hw
  · rcases List.mem_append.mp (mem_of_mem_distinctBy hw) with hw | hw
    · exact hb w hw hk
    · rwa [List.mem_singleton.mp hw]

/-- An error that is kept stands before everything else of its key. -/
theorem exists_split_of_mem_dedup {vs : List Violation} {v : Violation}
    (h : v ∈ Violation.dedup vs) :
    ∃ before after, vs = before ++ v :: after ∧ ∀ w ∈ before, w.key ≠ v.key := by
  rw [Violation.dedup, distinctBy_eq_firstsBy] at h
  obtain ⟨p, hp, rfl⟩ := List.mem_map.mp h
  obtain ⟨hp, fresh⟩ := List.mem_filter.mp hp
  obtain ⟨-, hlt, hget⟩ := List.mem_zipIdx hp
  refine ⟨vs.take p.2, vs.drop (p.2 + 1), ?_, fun w hw hk => ?_⟩
  · simp only [Nat.sub_zero] at hget
    rw [hget, ← List.drop_eq_getElem_cons, List.take_append_drop]
  · exact of_decide_eq_true fresh (List.mem_map.mpr ⟨w, hw, hk⟩)

/-- Where keys tell violations apart, an error is left exactly when one has no lighter violation of
the same file, rule name and message before it. -/
theorem hasErrors_dedup_iff {vs : List Violation} (h : KeysApart vs) :
    (∃ v ∈ Violation.dedup vs, v.severity = .error) ↔
      ∃ before v after, vs = before ++ v :: after ∧ v.severity = .error ∧
        ∀ w ∈ before, w.triple = v.triple → w.severity = .error := by
  constructor
  · rintro ⟨v, hv, he⟩
    obtain ⟨before, after, rfl, hb⟩ := exists_split_of_mem_dedup hv
    exact ⟨before, v, after, rfl, he, fun w hw ht =>
      absurd (Violation.key_eq_of_triple_eq ht) (hb w hw)⟩
  · rintro ⟨before, v, after, rfl, he, hb⟩
    refine exists_error_dedup he fun w hw hk => hb w hw ?_
    exact h w (List.mem_append_left _ hw) v (List.mem_append_right _ List.mem_cons_self) hk

/-! ### Weights of rules -/

theorem severity_eq_of_triple_eq {rules : List Rule} {scene : Scene} (hu : UniformSeverity rules)
    {v w : Violation} (hv : v ∈ (RuleSet.ofRules rules).run scene)
    (hw : w ∈ (RuleSet.ofRules rules).run scene) (h : v.triple = w.triple) :
    v.severity = w.severity := by
  obtain ⟨r, hr, vr⟩ := exists_accountsFor_of_mem_run hv
  obtain ⟨q, hq, wq⟩ := exists_accountsFor_of_mem_run hw
  have names : v.ruleName = w.ruleName := congrArg (fun t => t.2.1) h
  rw [vr.severity, wq.severity]
  exact hu r hr q hq (by rw [← vr.ruleName, ← wq.ruleName, names])

/-! ### Keys of what is found -/

/-- A rule of a plain name finds what is plain, at plain paths and directories. -/
theorem Rule.AccountsFor.isPlain {rules : List Rule} {r : Rule} {scene : Scene} {v : Violation}
    (h : r.AccountsFor scene v) (hr : r ∈ rules) (plain : PlainKeys rules scene.symbols) :
    v.IsPlain := by
  refine ⟨?_, h.ruleName ▸ plain.names r hr⟩
  rcases h.place.file_cases with inProject | atProject | asked
  · obtain ⟨x, hx, path⟩ := List.mem_map.mp inProject
    exact path ▸ plain.paths x hx
  · rw [atProject]
    decide
  · exact plain.directories r hr v.file asked

theorem PlainKeys.assignRoles {rules : List Rule} {symbols : List Symbol}
    (plain : PlainKeys rules symbols) (roles : List RoleDefinition) :
    PlainKeys rules (assignRoles roles symbols) :=
  { plain with paths := List.forall_mem_map.mpr plain.paths }

theorem keysApart_findings {a : Analysis} {symbols : List Symbol}
    (plain : PlainKeys a.activeRules symbols) :
    KeysApart (a.findings (assignRoles a.grammar.roles symbols)) := by
  refine Violation.keysApart_of_isPlain fun v hv => ?_
  obtain ⟨r, hr, accounts⟩ := exists_accountsFor_of_mem_run hv
  exact accounts.isPlain hr (plain.assignRoles a.grammar.roles)

/-! ### Whole analyses -/

/-- The grammar that a check of a project goes by. -/
def Surroundings.grammarFor (s : Surroundings) (r : CheckRequest) (config : Config) :
    Except GrammarError Grammar :=
  match r.grammar with
  | some path => Project.readGrammar s.here path
  | none => Project.loadGrammar (s.here.within r.path) config

/-- A check that comes to a report ends with failure when an error is in it. -/
theorem exit_check_eq_failure_iff {s : Surroundings} {r : CheckRequest} {config : Config}
    {a : Analysis} {report : Report}
    (hc : s.config? (s.here.within r.path) r.config = some config)
    (hp : Project.check (s.here.within r.path) config (s.grammarFor r config) = .ok (a, report)) :
    (s.check r).exit = .failure ↔ report.hasErrors = true := by
  have outcome : s.check r = { exit := if report.hasErrors then .failure else .success
                               output := report.print r.format s.colored } := by
    simp only [Surroundings.check, hc]
    cases hg : r.grammar with
    | none => simp only [Surroundings.grammarFor, hg] at hp ⊢; rw [hp]
    | some path => simp only [Surroundings.grammarFor, hg] at hp ⊢; rw [hp]
  rw [outcome]
  simp

/-- The report that a check of a project comes to is that of an analysis of its symbols. -/
theorem exists_run_of_check {w : Workplace} {config : Config}
    {grammar : Except GrammarError Grammar} {a : Analysis} {report : Report}
    (h : Project.check w config grammar = .ok (a, report)) :
    ∃ symbols, report = a.run symbols := by
  unfold Project.check at h
  split at h
  · exact absurd h (by simp)
  · split at h
    · exact absurd h (by simp)
    · cases h
      exact ⟨_, rfl⟩

/-- A report has no errors of its own, and `check` fails on those that it has. Where keys tell
violations apart, as on inputs without the separator, an error of the checks is an error of the
report unless rules of one name have different weights: then what a lighter violation of the same
file, rule name and message precedes is lost. -/
theorem errors_survive_among_rules_of_one_weight :
    (∀ (a : Analysis) (symbols : List Symbol),
      let found := a.findings (assignRoles a.grammar.roles symbols)
      ((a.run symbols).hasErrors = true → ∃ v ∈ found, v.severity = .error) ∧
      (KeysApart found → ((a.run symbols).hasErrors = true ↔
        ∃ before v after, found = before ++ v :: after ∧ v.severity = .error ∧
          ∀ w ∈ before, w.triple = v.triple → w.severity = .error)) ∧
      (KeysApart found → UniformSeverity a.activeRules →
        ((a.run symbols).hasErrors = true ↔ ∃ v ∈ found, v.severity = .error)) ∧
      (PlainKeys a.activeRules symbols → KeysApart found)) ∧
    ∀ (s : Surroundings) (r : CheckRequest) (config : Config) (a : Analysis) (report : Report),
      s.config? (s.here.within r.path) r.config = some config →
      Project.check (s.here.within r.path) config (s.grammarFor r config) = .ok (a, report) →
      (∃ symbols, report = a.run symbols) ∧
        ((s.check r).exit = .failure ↔ report.hasErrors = true) := by
  constructor
  · intro a symbols found
    have left : (a.run symbols).hasErrors = true ↔
        ∃ v ∈ Violation.dedup found, v.severity = .error := hasErrors_iff _
    rw [left]
    refine ⟨exists_error_of_dedup, hasErrors_dedup_iff,
      fun hk hu => ⟨exists_error_of_dedup, ?_⟩, keysApart_findings⟩
    rintro ⟨v, hv, he⟩
    obtain ⟨before, after, split⟩ := List.append_of_mem hv
    refine (hasErrors_dedup_iff hk).mpr ⟨before, v, after, split, he, fun w hw ht => ?_⟩
    have found_w : w ∈ found := split ▸ List.mem_append_left _ hw
    rw [← he]
    exact severity_eq_of_triple_eq hu found_w hv ht
  · intro s r config a report hc hp
    exact ⟨exists_run_of_check hp, exit_check_eq_failure_iff hc hp⟩

/-- Two rules of one name and weight demand a folder that is missing, and one error of them is left. -/
theorem repeated_error_fails_check :
    let missing : Rule := ⟨⟨"lib", .error, none⟩, .layout ⟨["lib"]⟩⟩
    let a : Analysis :=
      { grammar := ⟨"1.0", "typescript", [], [missing, missing]⟩
        files := ⟨fun _ => .error .notFound, fun _ => false⟩ }
    let document := "\x7b\"rules\":[\x7b\"name\":\"lib\",\"kind\":\"required_structure\"," ++
      "\"directories\":[\"lib\"]\x7d]\x7d"
    let s : Surroundings := { here := { top := .folder [("g.json", .file (.text document))] } }
    let r : CheckRequest := { grammar := some "g.json" }
    (PlainKeys a.activeRules [] ∧ KeysApart (a.findings []) ∧ UniformSeverity a.activeRules ∧
      ((a.run []).hasErrors = true ↔ ∃ v ∈ a.findings [], v.severity = .error) ∧
      (a.run []).count .error = 1) ∧
    ∃ checked report, Project.check (s.here.within r.path) {} (s.grammarFor r {}) =
      .ok (checked, report) ∧ (s.check r).exit = .failure := by
  intro missing a document s r
  have plain : PlainKeys a.activeRules [] := ⟨by decide, by decide, by decide⟩
  have uniform : UniformSeverity a.activeRules := by unfold UniformSeverity; decide
  obtain ⟨ofAnalysis, ofCheck⟩ := errors_survive_among_rules_of_one_weight
  obtain ⟨-, -, ofUniform, ofPlain⟩ := ofAnalysis a []
  have apart : KeysApart (a.findings []) := ofPlain plain
  refine ⟨⟨plain, apart, uniform, ofUniform apart uniform, by decide⟩, ?_⟩
  have usual : s.config? (s.here.within r.path) r.config = some {} := by decide +kernel
  have failing : (Project.check (s.here.within r.path) {} (s.grammarFor r {})).toOption.map
      (fun outcome => outcome.2.hasErrors) = some true := by decide +kernel
  cases checks : Project.check (s.here.within r.path) {} (s.grammarFor r {}) with
  | error cause => rw [checks] at failing; cases failing
  | ok outcome =>
    rw [checks] at failing
    have errors : outcome.2.hasErrors = true := Option.some.inj failing
    exact ⟨outcome.1, outcome.2, rfl, (ofCheck s r {} _ _ usual checks).2.mpr errors⟩

/-- A grammar that loads, with a warning and an error of one name: the warning comes first, and of
two findings no error is left. -/
theorem error_lost_behind_warning_of_its_name :
    let draft (severity : String) : Draft.Rule :=
      { name := "small", severity, kind := "file_size", scope := some { role := some (.one "ALL") }
        maxLines := some 1 }
    let rule (severity : Severity) : Rule := ⟨⟨"small", severity, none⟩, .fileSize ⟨.all, 1⟩⟩
    let a : Analysis :=
      { grammar := ⟨"1.0", "typescript", [], [rule .warning, rule .error]⟩
        files := ⟨fun _ => .ok "first\nsecond", fun _ => true⟩ }
    let symbols : List Symbol := [⟨"a.ts", "a", unknownRole, [], .wholeFile⟩]
    Draft.Grammar.load { rules := [draft "warning", draft "error"] } = .ok a.grammar ∧
    KeysApart (a.findings (assignRoles a.grammar.roles symbols)) ∧
    (∃ v ∈ a.findings (assignRoles a.grammar.roles symbols), v.severity = .error) ∧
    (a.run symbols).hasErrors = false := by
  intro draft rule a symbols
  refine ⟨rfl, by unfold KeysApart; decide, by decide, by decide⟩

end ArchLint
