import ArchLint.Proofs.Edges
import ArchLint.Proofs.PerFile

/-!
The order of symbols. A check takes the first symbol of a file for all of them, and the graph of
files numbers the files as they come; what is reported speaks of paths and roles only, so another
order of the symbols gives the same reports in another order (`Scene.Reordered.check`). Two checks
are left out: where a cycle is entered, and which of two similar names comes first, go by the order.
-/

namespace ArchLint

/-- The one scene is the other with its symbols in another order, where the symbols of each file
agree in their role. -/
structure Scene.Reordered (s t : Scene) : Prop where
  symbols : s.symbols.Perm t.symbols
  role : PerFile Symbol.role s.symbols
  text? : ∀ path, s.text? path = t.text? path
  isThere : ∀ path, s.isThere path = t.isThere path

/-! ### Graphs -/

section

variable {symbols symbols' : List Symbol}

theorem mentions_perm (h : symbols.Perm symbols') (path : String) :
    (FileGraph.mentions symbols path).Perm (FileGraph.mentions symbols' path) :=
  (h.filter _).flatMap_right _

theorem bareNodes_perm (h : symbols.Perm symbols') (hr : PerFile Symbol.role symbols) :
    (bareNodes symbols).Perm (bareNodes symbols') :=
  map_distinctBy_perm h (hr.of_role fun _ _ hp hr => by rw [hp, hr])

theorem mentioned_perm (h : symbols.Perm symbols') (hr : PerFile Symbol.role symbols)
    (n : FileNode) : (mentioned symbols n).Perm (mentioned symbols' n) := by
  have sameMentions : ∀ t : FileNode, decide (t.path ∈ FileGraph.mentions symbols' n.path) =
      decide (t.path ∈ FileGraph.mentions symbols n.path) :=
    fun t => decide_eq_decide.mpr (mentions_perm h n.path).mem_iff.symm
  rw [mentioned, mentioned, funext sameMentions]
  exact (bareNodes_perm h hr).filter _

theorem bareEdges_perm (h : symbols.Perm symbols') (hr : PerFile Symbol.role symbols) :
    (bareEdges symbols).Perm (bareEdges symbols') :=
  (bareNodes_perm h hr).flatMap fun n _ => (mentioned_perm h hr n).map _

end

/-! ### Averages -/

theorem average_perm {xs ys : List Nat} (h : xs.Perm ys) : Check.average xs = Check.average ys := by
  have total : xs.foldr (· + ·) 0 = ys.foldr (· + ·) 0 := h.sum_nat
  rw [Check.average, Check.average, total, h.length_eq]

theorem granularityFinding_perm {xs ys : List Nat} (h : xs.Perm ys) (rule : GranularityRule) :
    Check.granularityFinding rule xs = Check.granularityFinding rule ys := by
  unfold Check.granularityFinding
  rw [average_perm h, h.length_eq]

namespace Scene.Reordered

variable {s t : Scene}

/-! ### Files -/

/-- Whatever is said of files by path and role is said of the same files. -/
theorem flatMap_files {α : Type} (h : s.Reordered t) (p : Symbol → Bool) {f : Symbol → List α}
    (hf : ByFile f) :
    ((firstPerFile (s.symbols.filter p)).flatMap f).Perm
      ((firstPerFile (t.symbols.filter p)).flatMap f) := by
  have chosen : PerFile f (s.symbols.filter p) :=
    (h.role.of_role hf).mono fun _ hx => List.mem_of_mem_filter hx
  exact flatMap_distinctBy_perm (h.symbols.filter p) chosen

theorem filterMap_files {α : Type} (h : s.Reordered t) (p : Symbol → Bool)
    {f : Symbol → Option α} (hf : ByFile f) :
    ((firstPerFile (s.symbols.filter p)).filterMap f).Perm
      ((firstPerFile (t.symbols.filter p)).filterMap f) := by
  rw [List.filterMap_eq_flatMap_toList, List.filterMap_eq_flatMap_toList]
  exact h.flatMap_files p fun x y hp hr => by rw [hf x y hp hr]

theorem scan (h : s.Reordered t) (p : Symbol → Bool) {check : Symbol → String → List Violation}
    (hc : ByFile check) :
    (s.scan (firstPerFile (s.symbols.filter p)) check).Perm
      (t.scan (firstPerFile (t.symbols.filter p)) check) := by
  rw [Scene.scan, Scene.scan]
  simp only [h.text?]
  exact h.flatMap_files p fun x y hp hr => by simp only [hp, hc x y hp hr]

theorem lengths (h : s.Reordered t) (scope : RoleSelector) :
    (Check.lengths s scope).Perm (Check.lengths t scope) := by
  rw [Check.lengths, Check.lengths]
  simp only [h.text?]
  exact h.filterMap_files _ fun x y hp _ => by rw [hp]

theorem countFiles (h : s.Reordered t) :
    Check.countFiles s.symbols = Check.countFiles t.symbols := by
  have paths : ((firstPerFile s.symbols).map Symbol.path).Perm
      ((firstPerFile t.symbols).map Symbol.path) :=
    map_distinctBy_perm h.symbols fun _ _ _ _ hp => hp
  rw [Check.countFiles, Check.countFiles, (paths.filter _).length_eq, (paths.filter _).length_eq]

theorem isReferenced (h : s.Reordered t) (path : String) :
    Check.isReferenced s.symbols path = Check.isReferenced t.symbols path :=
  h.symbols.any_eq

/-! ### Checks -/

theorem naming (h : s.Reordered t) (rule : Typed NamingRule) :
    (Check.naming rule s).Perm (Check.naming rule t) := by
  unfold Check.naming
  split
  · exact List.Perm.refl _
  · exact (h.symbols.filter _).map _

theorem forbidden (h : s.Reordered t) (rules : List (Typed EdgeRule)) :
    (Check.forbidden rules (FileGraph.ofSymbols s.symbols)).Perm
      (Check.forbidden rules (FileGraph.ofSymbols t.symbols)) := by
  have edges := (bareEdges_perm h.symbols h.role).filterMap fun e =>
    (rules.find? fun r => Check.EdgeRule.covers r.body e.1 e.2).map fun r =>
      Check.forbiddenViolation r.head e.1 e.2
  exact (forbidden_perm rules s.symbols).trans (edges.trans (forbidden_perm rules t.symbols).symm)

theorem required (h : s.Reordered t) (rule : Typed EdgeRule) :
    (Check.required rule (FileGraph.ofSymbols s.symbols)).Perm
      (Check.required rule (FileGraph.ofSymbols t.symbols)) := by
  rw [required_eq_map_bareNodes, required_eq_map_bareNodes]
  simp only [(mentioned_perm h.symbols h.role _).any_eq]
  exact ((bareNodes_perm h.symbols h.role).filter _).map _

theorem unreferenced (h : s.Reordered t) (rule : Typed UnreferencedRule) :
    (Check.unreferenced rule s).Perm (Check.unreferenced rule t) := by
  unfold Check.unreferenced
  simp only [h.isReferenced]
  exact (h.symbols.filter _).map _

theorem testCoverage (h : s.Reordered t) (rule : Typed TestCoverageRule) :
    (Check.testCoverage rule s).Perm (Check.testCoverage rule t) := by
  rw [Check.testCoverage, Check.testCoverage, hasTest_congr h.isThere, ← List.filterMap_eq_map,
    List.filterMap_filter, List.filterMap_filter]
  exact h.filterMap_files _ fun x y hp hr => by
    simp only [Function.comp_apply, RuleHead.violationAt, hp, hr]

theorem documentation (h : s.Reordered t) (rule : Typed DocumentationRule) :
    (Check.documentation rule s).Perm (Check.documentation rule t) := by
  unfold Check.documentation
  split
  · exact List.Perm.refl _
  · exact h.scan _ fun x y hp hr => by simp only [RuleHead.violationAt, hp, hr]

theorem granularity (h : s.Reordered t) (rule : Typed GranularityRule) :
    Check.granularity rule s = Check.granularity rule t := by
  have lines := h.lengths rule.body.scope
  simp only [Check.granularity, lines.isEmpty_eq, average_perm lines,
    granularityFinding_perm lines]

theorem barrel (h : s.Reordered t) (rule : Typed BarrelRule) :
    (Check.barrel rule s).Perm (Check.barrel rule t) := by
  unfold Check.barrel
  split
  · exact List.Perm.refl _
  · exact h.scan _ fun x y hp _ => by simp only [hp]

/-- What a check reports for a rule does not depend on the order, cycles and similar names aside. -/
theorem checkRule (h : s.Reordered t) {b : Bucket} (hc : b ≠ .circular) (hs : b ≠ .synonyms)
    (r : Typed b.Body) : (b.checkRule r s).Perm (b.checkRule r t) := by
  cases b with
  | circular => exact absurd rfl hc
  | synonyms => exact absurd rfl hs
  | allowed => exact List.Perm.refl _
  | naming => exact h.naming r
  | forbidden => exact h.forbidden [r]
  | required => exact h.required r
  | unreferenced => exact h.unreferenced r
  | testCoverage => exact h.testCoverage r
  | granularity => exact List.Perm.of_eq (h.granularity r)
  | barrel => exact h.barrel r
  | fileSize =>
    exact h.scan _ fun x y hp hr => by simp only [RuleHead.violationAt, hp, hr]
  | documentation => exact h.documentation r
  | complexity =>
    exact h.scan _ fun x y hp hr => by simp only [Check.tooMany, RuleHead.violationAt, hp, hr]
  | keywords =>
    exact h.scan _ fun x y hp hr => by simp only [RuleHead.violationAt, hp, hr]
  | content =>
    exact h.scan _ fun x y hp hr => by simp only [RuleHead.violationAt, hp, hr]
  | layout =>
    simp only [Bucket.checkRule, Check.layout, h.isThere]
    exact List.Perm.refl _
  | testRatio =>
    simp only [Bucket.checkRule, Check.testRatio, h.countFiles]
    exact List.Perm.refl _

theorem check (h : s.Reordered t) {b : Bucket} (hc : b ≠ .circular) (hs : b ≠ .synonyms)
    (rules : List (Typed b.Body)) : (b.check rules s).Perm (b.check rules t) := by
  rcases eq_or_ne b .forbidden with rfl | hb
  · exact h.forbidden rules
  · rw [Bucket.check_eq_flatMap hb, Bucket.check_eq_flatMap hb]
    exact List.Perm.flatMap_left _ fun r _ => h.checkRule hc hs r

end Scene.Reordered

/-- The order of the symbols is only seen in the order of the reports, unless a rule asks for cycles
or for similar names. -/
theorem order_of_symbols_orders_reports (rules : List Rule) (scene : Scene) (symbols : List Symbol)
    (hp : scene.symbols.Perm symbols) (hr : PerFile Symbol.role scene.symbols)
    (hc : ∀ r ∈ rules, ∀ source, r.kind ≠ .forbidden ⟨source, .cycle⟩)
    (hs : ∀ r ∈ rules, ∀ body, r.kind ≠ .synonyms body) :
    ((RuleSet.ofRules rules).run scene).Perm
      ((RuleSet.ofRules rules).run { scene with symbols }) := by
  have reordered : scene.Reordered { scene with symbols } := ⟨hp, hr, fun _ => rfl, fun _ => rfl⟩
  have noCircular : rulesIn .circular rules = [] := rulesIn_eq_nil hc
  have noSynonyms : rulesIn .synonyms rules = [] := rulesIn_eq_nil hs
  rw [run_ofRules, run_ofRules]
  refine List.Perm.flatMap_left _ fun b _ => ?_
  rcases eq_or_ne b .circular with rfl | hb
  · rw [noCircular, Bucket.check_nil, Bucket.check_nil]
  rcases eq_or_ne b .synonyms with rfl | hb'
  · rw [noSynonyms, Bucket.check_nil, Bucket.check_nil]
  · exact reordered.check hb hb' _

/-- Two files, the one with two symbols, seen from either end. -/
theorem reversed_symbols_report_the_same :
    let noB : Rule := ⟨⟨"no-b", .error, none⟩, .forbidden ⟨.all, .roles (.one "B")⟩⟩
    let needsB : Rule := ⟨⟨"needs-b", .error, none⟩, .required ⟨.one "C", .one "B"⟩⟩
    let small : Rule := ⟨⟨"small", .warning, none⟩, .fileSize ⟨.all, 1⟩⟩
    let symbols : List Symbol := [⟨"a.ts", "one", "A", ["c.ts"], .classDecl⟩,
      ⟨"b.ts", "b", "B", [], .wholeFile⟩, ⟨"c.ts", "c", "C", ["b.ts"], .wholeFile⟩,
      ⟨"a.ts", "two", "A", ["b.ts"], .constDecl⟩]
    let files : FileView := ⟨fun _ => .ok "first\nsecond", fun _ => true⟩
    symbols.Perm symbols.reverse ∧ PerFile Symbol.role symbols ∧
    ((RuleSet.ofRules [noB, needsB, small]).run ⟨symbols, files, []⟩).map Violation.file =
      ["a.ts", "c.ts", "a.ts", "b.ts", "c.ts"] ∧
    ((RuleSet.ofRules [noB, needsB, small]).run ⟨symbols.reverse, files, []⟩).map Violation.file =
      ["a.ts", "c.ts", "a.ts", "c.ts", "b.ts"] ∧
    ((RuleSet.ofRules [noB, needsB, small]).run ⟨symbols, files, []⟩).Perm
      ((RuleSet.ofRules [noB, needsB, small]).run ⟨symbols.reverse, files, []⟩) := by
  intro noB needsB small symbols files
  have permuted : symbols.Perm symbols.reverse := (List.reverse_perm symbols).symm
  have role : PerFile Symbol.role symbols := by
    simp [Determined, symbols]
  refine ⟨permuted, role, by decide, by decide, ?_⟩
  refine order_of_symbols_orders_reports _ ⟨symbols, files, []⟩ _ permuted role ?_ ?_
  · simp [noB, needsB, small]
  · simp [noB, needsB, small]

end ArchLint
