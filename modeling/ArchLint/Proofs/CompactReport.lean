import ArchLint.Grammar.Load
import ArchLint.Proofs.OneLine
import ArchLint.Proofs.Provenance
import ArchLint.Report.Printer

/-!
Reports with a line for each violation. Such a report is cut back into its violations' lines exactly
when each of these is one line (`Report.printsLines_iff`), which nothing in the printer sees to:
names and comments of rules, the texts that rules of some kinds quote, names of roles, and paths and
names of symbols all go into messages as they are. From texts of one line come findings of one line
(`oneLine_checkRule`), and from these violations (`oneLine_of_mem_run`).
-/

namespace ArchLint

/-! ### Texts that are quoted -/

/-- The roles that a selection names. -/
def RoleSelector.names : RoleSelector → List String
  | all => []
  | one role => [role]
  | any roles => roles

/-- The texts of a rule that its findings quote. -/
def RuleKind.quotes : RuleKind → List String
  | naming body => [body.pattern]
  | required body => body.target.names
  | keywords body => body.keywords
  | layout body => body.directories
  | content body => body.patterns
  | barrel body => body.patterns
  | _ => []

/-- The texts of a rule that its violations show. -/
def Rule.quotes (r : Rule) : List String := r.head.name :: r.head.comment.toList ++ r.kind.quotes

/-- The texts of a symbol that violations show. -/
structure Symbol.InOneLine (s : Symbol) : Prop where
  path : OneLine s.path
  name : OneLine s.name
  role : OneLine s.role

theorem oneLine_describe {scope : RoleSelector} (h : ∀ t ∈ scope.names, OneLine t) :
    OneLine scope.describe := by
  cases scope with
  | all => exact (by decide : OneLine RoleSelector.allWord)
  | one role => exact h role List.mem_cons_self
  | any roles => exact oneLine_intercalate (by decide) h

theorem oneLine_kind_name (k : SymbolKind) : OneLine k.name := by cases k <;> decide

theorem oneLine_severity_name (s : Severity) : OneLine s.name := by cases s <;> decide

/-! ### Findings -/

-- The two findings with decimals are unfolded, not rewritten: to derive the equations of their
-- definitions takes too long.

theorem oneLine_ratioFinding (rule : TestRatioRule) (counts : Check.FileCounts) :
    OneLine (Check.ratioFinding rule counts) := by
  unfold Check.ratioFinding
  simp only [oneLine_append, oneLine_renderFixed, oneLine_render, Nat.toString_eq_repr, oneLine_repr,
    and_true]
  decide

theorem oneLine_granularityFinding (rule : GranularityRule) (lines : List Nat) :
    OneLine (Check.granularityFinding rule lines) := by
  unfold Check.granularityFinding
  simp only [oneLine_append, oneLine_renderFixed, oneLine_render, Nat.toString_eq_repr, oneLine_repr,
    and_true]
  decide

section

variable {s : Scene} (hs : ∀ x ∈ s.symbols, x.InOneLine)

include hs

theorem oneLine_node {n : FileNode} (hn : n ∈ (FileGraph.ofSymbols s.symbols).nodes) :
    OneLine n.path ∧ OneLine n.role := by
  obtain ⟨x, hx, rfl⟩ := List.mem_map.mp hn
  have plain := hs x (mem_of_mem_distinctBy hx)
  exact ⟨plain.path, plain.role⟩

theorem oneLine_forbiddenFinding {source target : FileNode}
    (hsource : source ∈ (FileGraph.ofSymbols s.symbols).nodes)
    (htarget : target ∈ (FileGraph.ofSymbols s.symbols).nodes) :
    OneLine (Check.forbiddenFinding source target) := by
  obtain ⟨sourcePath, sourceRole⟩ := oneLine_node hs hsource
  obtain ⟨targetPath, targetRole⟩ := oneLine_node hs htarget
  simp +decide [Check.forbiddenFinding, sourcePath, sourceRole, targetPath, targetRole]

theorem oneLine_cycleText {entry : FileNode} {rest : List FileNode}
    (he : entry ∈ (FileGraph.ofSymbols s.symbols).nodes)
    (hr : rest ⊆ (FileGraph.ofSymbols s.symbols).nodes) :
    OneLine (Check.cycleText (entry :: rest) entry) := by
  refine oneLine_intercalate (by decide) (List.forall_mem_map.mpr fun n hn => ?_)
  have inGraph : n ∈ (FileGraph.ofSymbols s.symbols).nodes := by
    rcases List.mem_append.mp hn with hn | hn
    · rcases List.mem_cons.mp hn with rfl | hn
      · exact he
      · exact hr hn
    · exact List.mem_singleton.mp hn ▸ he
  exact (oneLine_node hs inGraph).1

theorem oneLine_unreferencedFinding {x : Symbol} (hx : x ∈ s.symbols) :
    OneLine (Check.unreferencedFinding x) := by
  have plain := hs x hx
  unfold Check.unreferencedFinding
  split
  · simp +decide [plain.path]
  · simp +decide [plain.path, plain.name, oneLine_kind_name]

/-- Files of the scope have paths of one line. -/
theorem oneLine_path_filesOf {scope : RoleSelector} {x : Symbol} (hx : x ∈ s.filesOf scope) :
    OneLine x.path :=
  (hs x (s.filesOf_subset scope hx)).path

theorem oneLine_keywords {body : KeywordRule} (hb : ∀ k ∈ body.keywords, OneLine k) :
    Signed (fun f => OneLine f.text) (Bucket.checkRule .keywords ⟨·, body⟩ s) := by
  simp only [Bucket.checkRule, Check.keywords]
  refine Signed.scan fun x hx text => ?_
  cases found : body.keywords.find? fun k => Text.occursIn k.toList text.toList with
  | none => exact Signed.nil
  | some k =>
    have keyword := hb k (List.mem_of_find?_eq_some found)
    refine Signed.singleton (f := .ofSymbol x _) ?_
    simp +decide [Finding.ofSymbol, oneLine_path_filesOf hs hx, keyword]

omit hs in
theorem oneLine_source_of_firstMatch? {patterns : List String} {text : String} {p : Pattern}
    (hb : ∀ t ∈ patterns, OneLine t)
    (h : Check.firstMatch? (validPatterns patterns) text = some p) : OneLine p.source := by
  obtain ⟨source, hs, made⟩ := List.mem_filterMap.mp (List.mem_of_find?_eq_some h)
  rw [Pattern.source_of_ofText? made]
  exact hb source hs

theorem oneLine_content {body : ContentRule} (hb : ∀ t ∈ body.patterns, OneLine t) :
    Signed (fun f => OneLine f.text) (Bucket.checkRule .content ⟨·, body⟩ s) := by
  simp only [Bucket.checkRule, Check.content]
  refine Signed.scan fun x hx text => ?_
  cases found : Check.firstMatch? (validPatterns body.patterns) text with
  | none => exact Signed.nil
  | some p =>
    have pattern := oneLine_source_of_firstMatch? hb found
    refine Signed.singleton (f := .ofSymbol x _) ?_
    simp +decide [Finding.ofSymbol, oneLine_path_filesOf hs hx, pattern]

theorem oneLine_barrel {body : BarrelRule} (hb : ∀ t ∈ body.patterns, OneLine t) :
    Signed (fun f => OneLine f.text) (Bucket.checkRule .barrel ⟨·, body⟩ s) := by
  simp only [Bucket.checkRule, Check.barrel]
  cases Pattern.ofText? body.filePattern with
  | none => exact Signed.nil
  | some pattern =>
    refine Signed.scan fun x hx text => ?_
    cases found : Check.firstMatch? (validPatterns body.patterns) text with
    | none => exact Signed.nil
    | some p =>
      have path := (hs x (s.filesMatching_subset _ hx)).path
      refine Signed.singleton (f := { file := x.path, text := _ }) ?_
      simp +decide [path, oneLine_source_of_firstMatch? hb found]

theorem oneLine_documentation (body : DocumentationRule) :
    Signed (fun f => OneLine f.text) (Bucket.checkRule .documentation ⟨·, body⟩ s) := by
  -- as a proposition the condition no longer speaks of the head
  simp only [Bucket.checkRule, Check.documentation, Bool.or_eq_true, decide_eq_true_eq]
  refine Signed.ite Signed.nil (Signed.scan fun x hx text => Signed.ite Signed.nil ?_)
  refine Signed.singleton (f := .ofSymbol x _) ?_
  simp +decide [Finding.ofSymbol, oneLine_path_filesOf hs hx]

theorem oneLine_tooMany {scope : RoleSelector} {x : Symbol} (hx : x ∈ s.filesOf scope)
    (count limit : Nat) {what : String} (hw : OneLine what) :
    Signed (fun f => OneLine f.text) fun head => Check.tooMany head x count limit what := by
  refine Signed.ite (Signed.singleton (f := .ofSymbol x _) ?_) Signed.nil
  simp +decide [Finding.ofSymbol, oneLine_path_filesOf hs hx, hw]

/-- From texts of one line come findings of one line. -/
theorem oneLine_checkRule {b : Bucket} {body : b.Body}
    (hb : ∀ t ∈ (b.kindOf body).quotes, OneLine t) :
    Signed (fun f => OneLine f.text) (b.checkRule ⟨·, body⟩ s) := by
  cases b with
  | naming =>
    have pattern : OneLine body.pattern := hb body.pattern List.mem_cons_self
    refine Signed.naming fun x hx => ?_
    simp +decide [Finding.ofSymbol, Check.namingFinding, (hs x hx).role, (hs x hx).path, pattern]
  | forbidden =>
    exact Signed.forbidden fun _ hsource _ htarget => oneLine_forbiddenFinding hs hsource htarget
  | required =>
    refine Signed.required fun n hn => ?_
    obtain ⟨path, role⟩ := oneLine_node hs hn
    simp +decide [Check.requiredFinding, path, role, oneLine_describe hb]
  | allowed => exact Signed.nil
  | circular =>
    refine Signed.circular fun _ he _ hr => ?_
    exact oneLine_append.mpr ⟨by decide, oneLine_cycleText hs he hr⟩
  | synonyms =>
    refine Signed.synonyms fun x hx y hy score => ?_
    simp +decide [Check.synonymFinding, (hs x hx).path, (hs y hy).path]
  | unreferenced => exact Signed.unreferenced fun x hx => oneLine_unreferencedFinding hs hx
  | fileSize =>
    simp only [Bucket.checkRule, Check.fileSize]
    refine Signed.scan fun x hx text => Signed.ite Signed.nil ?_
    refine Signed.singleton (f := .ofSymbol x _) ?_
    simp +decide [Finding.ofSymbol, oneLine_path_filesOf hs hx]
  | testCoverage =>
    simp only [Bucket.checkRule, Check.testCoverage]
    refine Signed.map (f := fun x => .ofSymbol x _) fun x hx => ?_
    have path := oneLine_path_filesOf hs (List.mem_of_mem_filter hx)
    have places : OneLine (", ".intercalate (testCandidates x.path)) :=
      oneLine_intercalate (by decide) fun _ ht => oneLine_of_mem_testCandidates path ht
    simp +decide [Finding.ofSymbol, path, places]
  | documentation => exact oneLine_documentation hs body
  | complexity =>
    simp only [Bucket.checkRule, Check.complexity]
    refine Signed.scan fun x hx text => Signed.append ?_ ?_
    · exact oneLine_tooMany hs hx _ _ (by decide)
    · exact oneLine_tooMany hs hx _ _ (by decide)
  | granularity => exact Signed.granularity fun lines => oneLine_granularityFinding body lines
  | keywords => exact oneLine_keywords hs hb
  | content => exact oneLine_content hs hb
  | barrel => exact oneLine_barrel hs hb
  | layout =>
    simp only [Bucket.checkRule, Check.layout]
    refine Signed.map (f := fun d => { file := d, text := _ }) fun d hd => ?_
    simp +decide [hb d (List.mem_of_mem_filter hd)]
  | testRatio => exact Signed.testRatio fun counts => oneLine_ratioFinding body counts

end

/-! ### Runs -/

theorem oneLine_message {h : RuleHead} {finding : String} (hn : OneLine h.name)
    (hc : ∀ c ∈ h.comment, OneLine c) (hf : OneLine finding) : OneLine (h.message finding) := by
  rw [RuleHead.message_eq, RuleHead.remark]
  cases comment : h.comment with
  | none => simp +decide [hn, hf]
  | some c => simp +decide [hn, hf, hc c comment]

theorem RuleKind.directories_subset_quotes (kind : RuleKind) : kind.directories ⊆ kind.quotes := by
  cases kind with
  | layout body => exact List.Subset.refl _
  | _ => exact List.nil_subset _

theorem oneLine_file_of_locates {kind : RuleKind} {paths : List String} {file : String}
    {dependency : Option String} (h : kind.Locates paths file dependency)
    (hp : ∀ p ∈ paths, OneLine p) (hq : ∀ t ∈ kind.quotes, OneLine t) : OneLine file := by
  rcases h.file_cases with inProject | rfl | asked
  · exact hp file inProject
  · decide
  · exact hq file (kind.directories_subset_quotes asked)

/-- From texts of one line come violations of one line. -/
theorem oneLine_of_mem_run {rules : List Rule} {scene : Scene} {v : Violation}
    (hr : ∀ r ∈ rules, ∀ t ∈ r.quotes, OneLine t) (hs : ∀ x ∈ scene.symbols, x.InOneLine)
    (hv : v ∈ (RuleSet.ofRules rules).run scene) : OneLine v.file ∧ OneLine v.message := by
  obtain ⟨r, hmem, b, -, body, kind, hv⟩ := exists_checkRule_of_mem_run hv
  have shown : ∀ t ∈ r.head.name :: r.head.comment.toList ++ (b.kindOf body).quotes, OneLine t :=
    kind ▸ hr r hmem
  simp only [List.forall_mem_append, List.forall_mem_cons, Option.mem_toList] at shown
  obtain ⟨⟨name, comment⟩, quotes⟩ := shown
  have paths : ∀ p ∈ scene.symbols.map Symbol.path, OneLine p :=
    List.forall_mem_map.mpr fun x hx => (hs x hx).path
  have file : OneLine v.file := by
    obtain ⟨f, place, rfl⟩ := (signedAt_checkRule scene b body).exists_of_mem hv
    exact oneLine_file_of_locates place paths quotes
  have message : OneLine v.message := by
    obtain ⟨f, text, rfl⟩ := (oneLine_checkRule hs quotes).exists_of_mem hv
    exact oneLine_message name comment text
  exact ⟨file, message⟩

theorem inOneLine_assignRoles {roles : List RoleDefinition} {symbols : List Symbol}
    (hroles : ∀ r ∈ roles, OneLine r.name)
    (hsymbols : ∀ x ∈ symbols, OneLine x.path ∧ OneLine x.name) :
    ∀ x ∈ assignRoles roles symbols, x.InOneLine := by
  refine List.forall_mem_map.mpr fun x hx => ?_
  obtain ⟨path, name⟩ := hsymbols x hx
  have role : OneLine (roleOf roles x.path) := by
    unfold roleOf
    split
    · rename_i r found
      exact hroles r (List.mem_of_find?_eq_some found)
    · decide
  exact ⟨path, name, role⟩

/-! ### Reports -/

/-- Cut at its line feeds, the printed report is file, weight and message of each violation, and
nothing after the last line feed. -/
def Report.PrintsLines (r : Report) (colored : Bool) : Prop :=
  (r.print .compact colored).toList.splitOn '\n' =
    r.violations.map (fun v => (v.file ++ ": " ++ v.severity.name ++ " " ++ v.message).toList) ++ [[]]

theorem Report.printsLines_iff {r : Report} {colored : Bool} :
    r.PrintsLines colored ↔ ∀ v ∈ r.violations, OneLine v.file ∧ OneLine v.message := by
  have printed : (r.print .compact colored).toList =
      (r.violations.map fun v => v.line.toList).flatMap fun l => l ++ ['\n'] := by
    simp [Report.print, Report.toLines, String.toList_join, List.flatMap_map]
  have line : ∀ v : Violation, OneLine v.line ↔ OneLine v.file ∧ OneLine v.message := by
    intro v
    simp +decide [Violation.line, oneLine_severity_name]
  simp only [← line]
  rw [PrintsLines, printed]
  exact splitOn_lines_iff.trans List.forall_mem_map

/-- A run is printed with a line for each violation exactly if no violation's file or message holds
a line feed. None does where no text that violations show does: name and comment of each rule that
is checked, what it quotes, the names of roles, and paths and names of symbols. -/
theorem compact_report_has_line_for_each_violation (a : Analysis) (symbols : List Symbol)
    (colored : Bool) :
    ((a.run symbols).PrintsLines colored ↔
      ∀ v ∈ (a.run symbols).violations, OneLine v.file ∧ OneLine v.message) ∧
    ((∀ r ∈ a.activeRules, ∀ t ∈ r.quotes, OneLine t) →
      (∀ r ∈ a.grammar.roles, OneLine r.name) →
      (∀ x ∈ symbols, OneLine x.path ∧ OneLine x.name) →
      (a.run symbols).PrintsLines colored) := by
  refine ⟨Report.printsLines_iff, fun hrules hroles hsymbols => ?_⟩
  refine Report.printsLines_iff.mpr fun v hv => ?_
  have plain := inOneLine_assignRoles hroles hsymbols
  exact oneLine_of_mem_run hrules plain (mem_of_mem_distinctBy hv)

/-- A file that is too long, and a comment that refers to a document. -/
theorem long_file_is_reported_on_a_line :
    let long : Rule := ⟨⟨"small", .warning, some "ADR 7"⟩, .fileSize ⟨.all, 1⟩⟩
    let a : Analysis :=
      { grammar := ⟨"1.0", "typescript", [], [long]⟩
        files := ⟨fun _ => .ok "first\nsecond", fun _ => true⟩ }
    let symbols : List Symbol := [⟨"a.ts", "a", unknownRole, [], .wholeFile⟩]
    let message := "[small] 'a.ts' has 2 lines (max 1) (ADR 7)"
    (a.run symbols).violations.map Violation.message = [message] ∧
      ((a.run symbols).print .compact false).toList.splitOn '\n' =
        [("a.ts: warning " ++ message).toList, []] := by
  intro long a symbols message
  have report : (a.run symbols).violations.map (fun v =>
      (v.file ++ ": " ++ v.severity.name ++ " " ++ v.message).toList) =
      [("a.ts: warning " ++ message).toList] := by decide +kernel
  have lines : (a.run symbols).PrintsLines false :=
    (compact_report_has_line_for_each_violation a symbols false).2 (by decide) (by decide) (by decide)
  refine ⟨by decide +kernel, ?_⟩
  rw [lines, report]
  rfl

/-- A grammar that loads, whose rule has a comment of two lines: one violation takes two lines. -/
theorem comment_of_two_lines_takes_two_lines :
    let draft : Draft.Rule :=
      { name := "small", severity := "warning", comment := some "see\nADR", kind := "file_size"
        scope := some { role := some (.one "ALL") }, maxLines := some 1 }
    let a : Analysis :=
      { grammar := ⟨"1.0", "typescript", [],
          [⟨⟨"small", .warning, some "see\nADR"⟩, .fileSize ⟨.all, 1⟩⟩]⟩
        files := ⟨fun _ => .ok "first\nsecond", fun _ => true⟩ }
    let symbols : List Symbol := [⟨"a.ts", "a", unknownRole, [], .wholeFile⟩]
    Draft.Grammar.load { rules := [draft] } = .ok a.grammar ∧
      (a.run symbols).violations.length = 1 ∧
      ((a.run symbols).print .compact false).toList.splitOn '\n' =
        ["a.ts: warning [small] 'a.ts' has 2 lines (max 1) (see".toList, "ADR)".toList, []] ∧
      ¬ (a.run symbols).PrintsLines false := by
  intro draft a symbols
  have cut : ((a.run symbols).print .compact false).toList.splitOn '\n' =
      ["a.ts: warning [small] 'a.ts' has 2 lines (max 1) (see".toList, "ADR)".toList, []] := by
    decide +kernel
  have one : (a.run symbols).violations.length = 1 := by decide +kernel
  refine ⟨rfl, one, cut, fun lines => ?_⟩
  have pieces := congrArg List.length (cut.symm.trans lines)
  simp [one] at pieces

end ArchLint
