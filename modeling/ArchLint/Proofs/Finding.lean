import ArchLint.Proofs.Edges
import ArchLint.Proofs.Pairs
import ArchLint.Proofs.View

/-!
What is found and who says it. A check finds the same whatever the name, the weight and the comment
of its rule are, and the rule signs what is found (`exists_findings`). Whatever is asked of findings
(`Signed`) is asked of the few forms that a check gives them (`Signed.forbidden` and those after it).
What rules of a kind find has its place: at a file of the project, at a directory that the rule lists,
or at the project as a whole (`RuleKind.Locates`).
-/

namespace ArchLint

/-- What a check finds: a violation without the name, the weight and the wording of a rule. -/
structure Finding where
  file : String
  text : String
  sourceRole : Option String := none
  targetRole : Option String := none
  dependency : Option String := none

/-- A finding as a violation of the rule. -/
def RuleHead.sign (h : RuleHead) (f : Finding) : Violation :=
  { h.violation f.file f.text with
    sourceRole := f.sourceRole
    targetRole := f.targetRole
    dependency := f.dependency }

/-- A finding in a symbol's file. -/
def Finding.ofSymbol (s : Symbol) (text : String) : Finding :=
  { file := s.path, text, sourceRole := some s.role }

/-- At which file rules of a kind may report, and which dependency they then name. A cycle is named
by the files on the way from the file back to it. -/
def RuleKind.Locates (paths : List String) (file : String) (dependency : Option String) :
    RuleKind → Prop
  | layout body => file ∈ body.directories ∧ dependency = none
  | testRatio _ | granularity _ => file = projectFile ∧ dependency = none
  | forbidden ⟨_, .roles _⟩ | synonyms _ => file ∈ paths ∧ ∃ q ∈ paths, dependency = some q
  | forbidden ⟨_, .cycle⟩ => file ∈ paths ∧ ∃ between ⊆ paths,
      dependency = some (" -> ".intercalate (file :: between ++ [file]))
  | _ => file ∈ paths ∧ dependency = none

/-- The directories that a rule asks for. -/
def RuleKind.directories : RuleKind → List String
  | layout body => body.directories
  | _ => []

/-- Rules report at files of the project, at the project, and at directories that they ask for. -/
theorem RuleKind.Locates.file_cases {kind : RuleKind} {paths : List String} {file : String}
    {dependency : Option String} (h : kind.Locates paths file dependency) :
    file ∈ paths ∨ file = projectFile ∨ file ∈ kind.directories := by
  cases kind with
  | layout body => exact .inr (.inr h.1)
  | testRatio body => exact .inr (.inl h.1)
  | granularity body => exact .inr (.inl h.1)
  | forbidden body =>
    obtain ⟨source, target⟩ := body
    cases target with
    | roles target => exact .inl h.1
    | cycle => exact .inl h.1
  | _ => exact .inl h.1

/-- The report is of the same findings for every head, and the head signs them. -/
def Signed (P : Finding → Prop) (report : RuleHead → List Violation) : Prop :=
  ∃ fs : List Finding, (∀ f ∈ fs, P f) ∧ ∀ head, report head = fs.map head.sign

namespace Signed

variable {P : Finding → Prop} {α : Type}

theorem exists_of_mem {report : RuleHead → List Violation} (h : Signed P report) {head : RuleHead}
    {v : Violation} (hv : v ∈ report head) : ∃ f, P f ∧ v = head.sign f := by
  obtain ⟨fs, hf, signed⟩ := h
  obtain ⟨f, mem, rfl⟩ := List.mem_map.mp (signed head ▸ hv)
  exact ⟨f, hf f mem, rfl⟩

theorem nil : Signed P fun _ => [] := ⟨[], List.forall_mem_nil P, fun _ => rfl⟩

theorem singleton {f : Finding} (hf : P f) : Signed P fun head => [head.sign f] :=
  ⟨[f], List.forall_mem_singleton.mpr hf, fun _ => rfl⟩

theorem append {report report' : RuleHead → List Violation} (h : Signed P report)
    (h' : Signed P report') : Signed P fun head => report head ++ report' head := by
  obtain ⟨fs, hf, hr⟩ := h
  obtain ⟨fs', hf', hr'⟩ := h'
  refine ⟨fs ++ fs', List.forall_mem_append.mpr ⟨hf, hf'⟩, fun head => ?_⟩
  simp only [hr, hr', List.map_append]

theorem ite {c : Prop} [Decidable c] {report report' : RuleHead → List Violation}
    (h : Signed P report) (h' : Signed P report') :
    Signed P fun head => if c then report head else report' head := by
  by_cases hc : c
  · simpa only [if_pos hc] using h
  · simpa only [if_neg hc] using h'

theorem flatMap {report : RuleHead → α → List Violation} : ∀ {xs : List α},
    (∀ x ∈ xs, Signed P fun head => report head x) → Signed P fun head => xs.flatMap (report head)
  | [], _ => nil
  | _ :: _, h => (h _ List.mem_cons_self).append (flatMap fun y hy => h y (List.mem_cons_of_mem _ hy))

theorem map {xs : List α} {f : α → Finding} (hf : ∀ x ∈ xs, P (f x)) :
    Signed P fun head => xs.map fun x => head.sign (f x) :=
  ⟨xs.map f, List.forall_mem_map.mpr hf, fun head => by rw [List.map_map]; rfl⟩

theorem filterMap {report : RuleHead → α → Option Violation} {xs : List α}
    (h : ∀ x ∈ xs, Signed P fun head => (report head x).toList) :
    Signed P fun head => xs.filterMap (report head) := by
  simp only [List.filterMap_eq_flatMap_toList]
  exact flatMap h

theorem scan {s : Scene} {files : List Symbol}
    {find : RuleHead → Symbol → String → List Violation}
    (h : ∀ x ∈ files, ∀ text, Signed P fun head => find head x text) :
    Signed P fun head => s.scan files (find head) := by
  refine flatMap fun x hx => ?_
  cases s.text? x.path with
  | none => exact nil
  | some text => exact h x hx text

end Signed

/-! ### Files of the project -/

theorem path_mem_of_mem_nodes {symbols : List Symbol} {n : FileNode}
    (hn : n ∈ (FileGraph.ofSymbols symbols).nodes) : n.path ∈ symbols.map Symbol.path := by
  have first : n.path ∈ (firstPerFile symbols).map Symbol.path :=
    map_path_nodes symbols ▸ List.mem_map_of_mem hn
  exact mem_keys_distinctBy.mp first

theorem mem_nodes_of_node? {g : FileGraph} {i : Nat} {n : FileNode} (h : g.node? i = some n) :
    n ∈ g.nodes :=
  List.mem_of_getElem? h

theorem mem_nodes_of_mem_targets {g : FileGraph} {n t : FileNode} (ht : t ∈ g.targets n) :
    t ∈ g.nodes := by
  obtain ⟨i, -, hi⟩ := List.mem_filterMap.mp ht
  exact mem_nodes_of_node? hi

/-! ### Checks -/

section

variable {P : Finding → Prop} {s : Scene}

/-- A rule that stands alone forbids all dependencies that it covers. -/
theorem Signed.forbidden {body : EdgeRule}
    (h : ∀ source ∈ (FileGraph.ofSymbols s.symbols).nodes,
      ∀ target ∈ (FileGraph.ofSymbols s.symbols).nodes,
      P ⟨source.path, Check.forbiddenFinding source target, source.role, target.role, target.path⟩) :
    Signed P (Bucket.checkRule .forbidden ⟨·, body⟩ s) := by
  refine Signed.flatMap fun source hs => Signed.filterMap fun target ht => ?_
  cases hc : Check.EdgeRule.covers body source target with
  | false => simpa [hc] using Signed.nil
  | true =>
    simp only [List.find?_singleton, hc, if_true, Option.map_some, Option.toList_some]
    exact Signed.singleton (f := ⟨source.path, Check.forbiddenFinding source target, source.role,
      target.role, target.path⟩) (h source hs target (mem_nodes_of_mem_targets ht))

theorem Signed.naming {body : NamingRule}
    (h : ∀ x ∈ s.symbols, P (.ofSymbol x (Check.namingFinding body x))) :
    Signed P (Bucket.checkRule .naming ⟨·, body⟩ s) := by
  simp only [Bucket.checkRule, Check.naming]
  cases Pattern.ofText? body.pattern with
  | none => exact Signed.nil
  | some pattern =>
    exact Signed.map (f := fun x => .ofSymbol x (Check.namingFinding body x))
      fun x hx => h x (List.mem_of_mem_filter hx)

theorem Signed.required {body : EdgeRule}
    (h : ∀ n ∈ (FileGraph.ofSymbols s.symbols).nodes,
      P ⟨n.path, Check.requiredFinding body n, n.role, body.target.describe, none⟩) :
    Signed P (Bucket.checkRule .required ⟨·, body⟩ s) := by
  simp only [Bucket.checkRule, Check.required]
  exact Signed.map (f := fun n => ⟨n.path, Check.requiredFinding body n, n.role,
    body.target.describe, none⟩) fun n hn => h n (List.mem_of_mem_filter hn)

/-- A cycle is written from its entry back to it. -/
theorem Signed.circular {scope : RoleSelector}
    (h : ∀ entry ∈ (FileGraph.ofSymbols s.symbols).nodes,
      ∀ rest ⊆ (FileGraph.ofSymbols s.symbols).nodes,
      P ⟨entry.path, "circular dependency: " ++ Check.cycleText (entry :: rest) entry, entry.role,
        none, Check.cycleText (entry :: rest) entry⟩) :
    Signed P (Bucket.checkRule .circular ⟨·, scope⟩ s) := by
  simp only [Bucket.checkRule, Check.circular]
  refine Signed.filterMap fun cycle _ => ?_
  have inGraph : cycle.filterMap (FileGraph.ofSymbols s.symbols).node? ⊆
      (FileGraph.ofSymbols s.symbols).nodes := by
    intro n hn
    obtain ⟨i, -, hi⟩ := List.mem_filterMap.mp hn
    exact mem_nodes_of_node? hi
  cases hc : cycle.filterMap (FileGraph.ofSymbols s.symbols).node? with
  | nil => exact Signed.nil
  | cons entry rest =>
    rw [hc] at inGraph
    exact Signed.singleton (f := ⟨entry.path,
      "circular dependency: " ++ Check.cycleText (entry :: rest) entry, entry.role, none,
      Check.cycleText (entry :: rest) entry⟩) (h entry (inGraph List.mem_cons_self) rest
        (List.subset_of_cons_subset inGraph))

theorem Signed.synonyms {body : SynonymRule}
    (h : ∀ x ∈ s.symbols, ∀ y ∈ s.symbols, ∀ score,
      P ⟨x.path, Check.synonymFinding x y score, none, none, y.path⟩) :
    Signed P (Bucket.checkRule .synonyms ⟨·, body⟩ s) := by
  simp only [Bucket.checkRule, Check.synonyms]
  refine Signed.filterMap fun p hp => ?_
  have inProject : ∀ q ∈ (s.filesOf body.scope).map fun x => (x, Check.comparedName body x),
      q.1 ∈ s.symbols := List.forall_mem_map.mpr fun x hx => s.filesOf_subset _ hx
  obtain ⟨first, second⟩ := Check.mem_of_mem_orderedPairs hp
  simp only [Check.synonym?]
  by_cases hr : Check.reaches body.threshold (Check.nameScore p.1.2 p.2.2) = true
  · simp only [if_pos hr]
    exact Signed.singleton (f := ⟨p.1.1.path,
      Check.synonymFinding p.1.1 p.2.1 (Check.nameScore p.1.2 p.2.2), none, none, p.2.1.path⟩)
      (h p.1.1 (inProject p.1 first) p.2.1 (inProject p.2 second) _)
  · simp only [if_neg hr]
    exact Signed.nil

theorem Signed.unreferenced {body : UnreferencedRule}
    (h : ∀ x ∈ s.symbols, P (.ofSymbol x (Check.unreferencedFinding x))) :
    Signed P (Bucket.checkRule .unreferenced ⟨·, body⟩ s) := by
  simp only [Bucket.checkRule, Check.unreferenced]
  exact Signed.map (f := fun x => .ofSymbol x (Check.unreferencedFinding x))
    fun x hx => h x (List.mem_of_mem_filter hx)

theorem Signed.granularity {body : GranularityRule}
    (h : ∀ lines, P { file := projectFile, text := Check.granularityFinding body lines }) :
    Signed P (Bucket.checkRule .granularity ⟨·, body⟩ s) := by
  simp only [Bucket.checkRule, Check.granularity]
  exact Signed.ite Signed.nil (Signed.singleton (f := { file := projectFile, text := _ }) (h _))

theorem Signed.testRatio {body : TestRatioRule}
    (h : ∀ counts, P { file := projectFile, text := Check.ratioFinding body counts }) :
    Signed P (Bucket.checkRule .testRatio ⟨·, body⟩ s) := by
  simp only [Bucket.checkRule, Check.testRatio]
  exact Signed.ite Signed.nil (Signed.singleton (f := { file := projectFile, text := _ }) (h _))

end

/-! ### Places -/

/-- What is found for a demand is the same for every head, and stands where rules of that kind may
report. -/
abbrev Bucket.SignedAt (b : Bucket) (body : b.Body) (s : Scene)
    (report : RuleHead → List Violation) : Prop :=
  Signed (fun f => (b.kindOf body).Locates (s.symbols.map Symbol.path) f.file f.dependency) report

section

variable {s : Scene}

/-- One finding in a file of the project. -/
theorem Signed.inFile {x : Symbol} (hx : x ∈ s.symbols) (text : String) :
    Signed (fun f => f.file ∈ s.symbols.map Symbol.path ∧ f.dependency = none)
      fun head => [head.violationAt x text] :=
  Signed.singleton (f := .ofSymbol x text) ⟨List.mem_map_of_mem hx, rfl⟩

/-- A finding in each of some files of the project. -/
theorem Signed.inFiles {xs : List Symbol} (hxs : xs ⊆ s.symbols) (text : Symbol → String) :
    Signed (fun f => f.file ∈ s.symbols.map Symbol.path ∧ f.dependency = none)
      fun head => xs.map fun x => head.violationAt x (text x) :=
  Signed.map (f := fun x => .ofSymbol x (text x)) fun _ hx => ⟨List.mem_map_of_mem (hxs hx), rfl⟩

variable (s)

theorem signedAt_circular (scope : RoleSelector) :
    Bucket.SignedAt .circular scope s (Bucket.checkRule .circular ⟨·, scope⟩ s) := by
  refine Signed.circular fun entry he rest hr => ⟨path_mem_of_mem_nodes he,
    rest.map FileNode.path, List.forall_mem_map.mpr fun n hn => path_mem_of_mem_nodes (hr hn), ?_⟩
  simp [Check.cycleText]

theorem signedAt_documentation (body : DocumentationRule) :
    Bucket.SignedAt .documentation body s (Bucket.checkRule .documentation ⟨·, body⟩ s) := by
  -- as a proposition the condition no longer speaks of the head
  simp only [Bucket.checkRule, Check.documentation, Bool.or_eq_true, decide_eq_true_eq]
  refine Signed.ite Signed.nil ?_
  refine Signed.scan fun x hx text => Signed.ite Signed.nil ?_
  exact Signed.inFile (s.filesOf_subset _ hx) _

theorem signedAt_barrel (body : BarrelRule) :
    Bucket.SignedAt .barrel body s (Bucket.checkRule .barrel ⟨·, body⟩ s) := by
  simp only [Bucket.checkRule, Check.barrel]
  cases Pattern.ofText? body.filePattern with
  | none => exact Signed.nil
  | some pattern =>
    refine Signed.scan fun x hx text => ?_
    cases Check.firstMatch? (validPatterns body.patterns) text with
    | none => exact Signed.nil
    | some p =>
      exact Signed.singleton (f := { file := x.path, text := _ })
        ⟨List.mem_map_of_mem (s.filesMatching_subset _ hx), rfl⟩

theorem signedAt_checkRule (b : Bucket) (body : b.Body) :
    b.SignedAt body s (b.checkRule ⟨·, body⟩ s) := by
  cases b with
  | naming => exact Signed.naming fun x hx => ⟨List.mem_map_of_mem hx, rfl⟩
  | forbidden =>
    exact Signed.forbidden fun source hs target ht =>
      ⟨path_mem_of_mem_nodes hs, target.path, path_mem_of_mem_nodes ht, rfl⟩
  | required => exact Signed.required fun n hn => ⟨path_mem_of_mem_nodes hn, rfl⟩
  | allowed => exact Signed.nil
  | circular => exact signedAt_circular s body
  | synonyms =>
    exact Signed.synonyms fun x hx y hy score =>
      ⟨List.mem_map_of_mem hx, y.path, List.mem_map_of_mem hy, rfl⟩
  | unreferenced => exact Signed.unreferenced fun x hx => ⟨List.mem_map_of_mem hx, rfl⟩
  | fileSize =>
    simp only [Bucket.checkRule, Check.fileSize]
    refine Signed.scan fun x hx text => Signed.ite Signed.nil ?_
    exact Signed.inFile (s.filesOf_subset _ hx) _
  | testCoverage =>
    simp only [Bucket.checkRule, Check.testCoverage]
    exact Signed.inFiles (fun x hx => s.filesOf_subset _ (List.mem_of_mem_filter hx)) _
  | documentation => exact signedAt_documentation s body
  | complexity =>
    simp only [Bucket.checkRule, Check.complexity]
    refine Signed.scan fun x hx text => Signed.append (Signed.ite ?_ Signed.nil)
      (Signed.ite ?_ Signed.nil)
    · exact Signed.inFile (s.filesOf_subset _ hx) _
    · exact Signed.inFile (s.filesOf_subset _ hx) _
  | granularity => exact Signed.granularity fun _ => ⟨rfl, rfl⟩
  | keywords =>
    simp only [Bucket.checkRule, Check.keywords]
    refine Signed.scan fun x hx text => ?_
    cases body.keywords.find? fun k => Text.occursIn k.toList text.toList with
    | none => exact Signed.nil
    | some k => exact Signed.inFile (s.filesOf_subset _ hx) _
  | content =>
    simp only [Bucket.checkRule, Check.content]
    refine Signed.scan fun x hx text => ?_
    cases Check.firstMatch? (validPatterns body.patterns) text with
    | none => exact Signed.nil
    | some p => exact Signed.inFile (s.filesOf_subset _ hx) _
  | barrel => exact signedAt_barrel s body
  | layout =>
    simp only [Bucket.checkRule, Check.layout]
    exact Signed.map (f := fun d => { file := d, text := _ }) fun d hd =>
      ⟨List.mem_of_mem_filter hd, rfl⟩
  | testRatio => exact Signed.testRatio fun _ => ⟨rfl, rfl⟩

/-- Every check finds the same for every head, at the places of its kind, and the head signs it. -/
theorem exists_findings (b : Bucket) (body : b.Body) :
    ∃ found : List Finding,
      (∀ f ∈ found, (b.kindOf body).Locates (s.symbols.map Symbol.path) f.file f.dependency) ∧
      ∀ head, b.checkRule ⟨head, body⟩ s = found.map head.sign :=
  signedAt_checkRule s b body

end

end ArchLint
