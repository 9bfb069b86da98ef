import ArchLint.Proofs.Imports
import ArchLint.Proofs.Reading
import ArchLint.Proofs.TestPlaces
import ArchLint.Proofs.ValidPatterns
import Mathlib.Data.List.Flatten
import Mathlib.Data.List.ProdSigma

/-!
Checks that go from file to file. They take one symbol for each path of their scope, the first, and
where the symbols of a file agree in their role it does not matter which. So a check that finds at
most one thing in a file reports the failing paths once each, in the order in which the symbols
mention them (`Scene.ReportsOnce`); the check of classes measures two things in a file and reports
them one after the other (`forall₂_complexity`).
-/

namespace ArchLint

/-- A violation about a file, with the role of the file. -/
def RuleHead.violationOn (h : RuleHead) (symbols : List Symbol) (path finding : String) :
    Violation :=
  { h.violation path finding with sourceRole := fileRole? symbols path }

/-- The reports are one for each path of the scope with something to be found there, in the order in
which the symbols first mention the paths. -/
structure Scene.ReportsOnce (scene : Scene) (head : RuleHead) (scope : RoleSelector)
    (finds : String → String → Prop) (reports : List Violation) : Prop where
  once : (reports.map Violation.file).Nodup
  inOrder : (reports.map Violation.file).Pairwise (SeenBefore scene.symbols)
  reported : ∀ v, v ∈ reports ↔ ∃ path finding, scene.Selects scope path ∧ finds path finding ∧
    v = head.violationOn scene.symbols path finding

variable {scene : Scene} {head : RuleHead} {scope : RoleSelector}

/-! ### One report at most -/

/-- Whichever symbol of a file is taken, the violation is the same. -/
theorem violationAt_eq (role : PerFile Symbol.role scene.symbols) {s : Symbol}
    (hs : s ∈ scene.symbols) (finding : String) :
    head.violationAt s finding = head.violationOn scene.symbols s.path finding := by
  have known : fileRole? scene.symbols s.path = some s.role := by
    obtain ⟨x, hx⟩ := exists_fileRole?_iff.mpr ⟨s, hs, rfl⟩
    obtain ⟨t, ht, path, rfl⟩ := fileRole?_eq_some_iff.mp hx
    rw [hx, role t (mem_of_mem_distinctBy ht) s hs path]
  rw [RuleHead.violationAt, RuleHead.violationOn, known]

/-- Where at most one thing is reported on a symbol, no path comes twice. -/
theorem map_file_flatMap_sublist {report : Symbol → List Violation}
    (single : ∀ s, (report s).length ≤ 1) (own : ∀ s, ∀ v ∈ report s, v.file = s.path) :
    ∀ files : List Symbol,
      ((files.flatMap report).map Violation.file).Sublist (files.map Symbol.path)
  | [] => List.Sublist.refl _
  | s :: files => by
    have rest := map_file_flatMap_sublist single own files
    have few := single s
    have file := own s
    rw [List.flatMap_cons, List.map_append, List.map_cons]
    match reported : report s with
    | [] => exact rest.cons _
    | [v] =>
      rw [List.map_singleton, file v (by simp [reported])]
      exact rest.cons_cons _
    | _ :: _ :: _ => simp [reported] at few

theorem reportsOnce_flatMap (role : PerFile Symbol.role scene.symbols)
    {report : Symbol → List Violation} {finds : String → String → Prop}
    (single : ∀ s, (report s).length ≤ 1)
    (found : ∀ s v, v ∈ report s ↔
      ∃ finding, finds s.path finding ∧ v = head.violationAt s finding) :
    scene.ReportsOnce head scope finds ((scene.filesOf scope).flatMap report) := by
  have own : ∀ s, ∀ v ∈ report s, v.file = s.path := by
    intro s v hv
    obtain ⟨finding, -, rfl⟩ := (found s v).mp hv
    rfl
  have places := map_file_flatMap_sublist single own (scene.filesOf scope)
  refine ⟨?_, ?_, fun v => ?_⟩
  · exact (Check.nodup_filePaths scene scope).sublist places
  · exact (Check.pairwise_filePaths role scope).sublist places
  · rw [List.mem_flatMap]
    constructor
    · rintro ⟨s, hs, hv⟩
      obtain ⟨finding, finds, rfl⟩ := (found s v).mp hv
      exact ⟨s.path, finding, Check.mem_filePaths.mp (List.mem_map_of_mem hs), finds,
        violationAt_eq role (selects_of_mem_filesOf hs).1 finding⟩
    · rintro ⟨path, finding, selected, finds, rfl⟩
      obtain ⟨s, hs, rfl⟩ := exists_mem_filesOf selected
      rw [← violationAt_eq role (selects_of_mem_filesOf hs).1]
      exact ⟨s, hs, (found s _).mpr ⟨finding, finds, rfl⟩⟩

/-- The same for what is found in texts. -/
theorem reportsOnce_scan (role : PerFile Symbol.role scene.symbols)
    {check : Symbol → String → List Violation} {finds : String → String → String → Prop}
    (single : ∀ s text, (check s text).length ≤ 1)
    (found : ∀ s text v, v ∈ check s text ↔
      ∃ finding, finds s.path text finding ∧ v = head.violationAt s finding) :
    scene.ReportsOnce head scope
      (fun path finding => ∃ text ∈ scene.text? path, finds path text finding)
      (scene.scan (scene.filesOf scope) check) := by
  refine reportsOnce_flatMap role (fun s => ?_) fun s v => ?_
  · cases scene.text? s.path with
    | none => exact Nat.zero_le 1
    | some text => exact single s text
  · cases scene.text? s.path with
    | none => simp
    | some text => simp [found]

/-- A check that finds less in every text reports less. -/
theorem map_scan_sublist {α : Type} {check check' : Symbol → String → List Violation}
    {f : Violation → α} (less : ∀ s text, ((check' s text).map f).Sublist ((check s text).map f))
    (files : List Symbol) :
    ((scene.scan files check').map f).Sublist ((scene.scan files check).map f) := by
  rw [Scene.scan, Scene.scan, List.map_flatMap, List.map_flatMap]
  refine List.Sublist.flatMap_right files fun s _ => ?_
  cases scene.text? s.path with
  | none => exact List.Sublist.refl _
  | some text => exact less s text

theorem scan_sublist {check check' : Symbol → String → List Violation}
    (less : ∀ s text, (check' s text).Sublist (check s text)) (files : List Symbol) :
    (scene.scan files check').Sublist (scene.scan files check) := by
  have mapped : ((scene.scan files check').map id).Sublist ((scene.scan files check).map id) :=
    map_scan_sublist (fun s text => (less s text).map id) files
  rwa [List.map_id, List.map_id] at mapped

/-! ### Sizes, comments, keywords and tests -/

namespace Check

/-- The text has more lines than the rule allows: line feeds, and one. -/
def IsTooLong (rule : FileSizeRule) (path text finding : String) : Prop :=
  let lines := text.toList.count '\n' + 1
  rule.maxLines < lines ∧
    finding = "'" ++ path ++ "' has " ++ toString lines ++ " lines (max " ++
      toString rule.maxLines ++ ")"

/-- The text has lines enough to need a comment, and no comment. -/
def IsUndocumented (rule : DocumentationRule) (path text finding : String) : Prop :=
  let lines := text.toList.count '\n' + 1
  rule.demandsComment = true ∧ rule.minLines ≤ lines ∧
    ¬ docOpening.toList <:+: text.toList ∧
    finding = "'" ++ path ++ "' has " ++ toString lines ++ " lines but no " ++
      docOpening ++ " documentation comment"

/-- The text contains a keyword, and none of those that stand before it. -/
def ContainsKeyword (rule : KeywordRule) (path text finding : String) : Prop :=
  ∃ before k after, rule.keywords = before ++ k :: after ∧ k.toList <:+: text.toList ∧
    (∀ j ∈ before, ¬ j.toList <:+: text.toList) ∧
    finding = "'" ++ path ++ "' contains forbidden keyword '" ++ k ++ "'"

/-- There is no test in any of the places. -/
def IsUntested (scene : Scene) (path finding : String) : Prop :=
  (∀ place ∈ testCandidates path, scene.isThere place = false) ∧
    finding = "'" ++ path ++ "' has no test file (looked for " ++
      ", ".intercalate (testCandidates path) ++ ")"

theorem reportsOnce_fileSize (role : PerFile Symbol.role scene.symbols)
    (rule : Typed FileSizeRule) :
    scene.ReportsOnce rule.head rule.body.scope
      (fun path finding => ∃ text ∈ scene.text? path, IsTooLong rule.body path text finding)
      (fileSize rule scene) := by
  refine reportsOnce_scan role (fun s text => ?_) fun s text v => ?_
  · simp only
    split_ifs <;> simp
  · simp only [IsTooLong, lineCount, ← not_le]
    split_ifs with short <;> simp [short]

theorem reportsOnce_documentation (role : PerFile Symbol.role scene.symbols)
    (rule : Typed DocumentationRule) :
    scene.ReportsOnce rule.head rule.body.scope
      (fun path finding => ∃ text ∈ scene.text? path, IsUndocumented rule.body path text finding)
      (documentation rule scene) := by
  unfold documentation
  cases demanded : rule.body.demandsComment with
  | false => constructor <;> simp [IsUndocumented, demanded]
  | true =>
    refine reportsOnce_scan role (fun s text => ?_) fun s text v => ?_
    · simp only
      split_ifs <;> simp
    · have long : ∀ lines, rule.body.minLines ≤ lines ∧ ¬ docOpening.toList <:+: text.toList ↔
          ¬ (lines < rule.body.minLines ∨
            Text.occursIn docOpening.toList text.toList = true) := by
        intro lines
        rw [not_or, not_lt, Text.occursIn_iff]
      simp only [Bool.or_eq_true, decide_eq_true_eq]
      simp only [IsUndocumented, lineCount, demanded, true_and, ← and_assoc, long]
      split_ifs with short <;> simp [short]

/-- The first keyword that occurs. -/
theorem find?_keyword_eq_some_iff {words : List String} {text k : String} :
    (words.find? fun k => Text.occursIn k.toList text.toList) = some k ↔
      ∃ before after, words = before ++ k :: after ∧ k.toList <:+: text.toList ∧
        ∀ j ∈ before, ¬ j.toList <:+: text.toList := by
  simp only [List.find?_eq_some_iff_append, Text.occursIn_iff, Bool.not_eq_true', ←
    Bool.not_eq_true]
  constructor
  · rintro ⟨occurs, before, after, split, absent⟩
    exact ⟨before, after, split, occurs, absent⟩
  · rintro ⟨before, after, split, occurs, absent⟩
    exact ⟨occurs, before, after, split, absent⟩

theorem reportsOnce_keywords (role : PerFile Symbol.role scene.symbols)
    (rule : Typed KeywordRule) :
    scene.ReportsOnce rule.head rule.body.scope
      (fun path finding => ∃ text ∈ scene.text? path, ContainsKeyword rule.body path text finding)
      (keywords rule scene) := by
  refine reportsOnce_scan role (fun s text => ?_) fun s text v => ?_
  · cases rule.body.keywords.find? fun k => Text.occursIn k.toList text.toList <;> simp
  · constructor
    · intro hv
      cases first : rule.body.keywords.find? fun k => Text.occursIn k.toList text.toList with
      | none => simp [first] at hv
      | some k =>
        obtain ⟨before, after, split, occurs, absent⟩ := find?_keyword_eq_some_iff.mp first
        exact ⟨_, ⟨before, k, after, split, occurs, absent, rfl⟩, by simpa [first] using hv⟩
    · rintro ⟨finding, ⟨before, k, after, split, occurs, absent, rfl⟩, rfl⟩
      have first := find?_keyword_eq_some_iff.mpr ⟨before, after, split, occurs, absent⟩
      simp [first]

theorem reportsOnce_testCoverage (role : PerFile Symbol.role scene.symbols)
    (rule : Typed TestCoverageRule) :
    scene.ReportsOnce rule.head rule.body.scope (IsUntested scene) (testCoverage rule scene) := by
  have byFile : testCoverage rule scene = (scene.filesOf rule.body.scope).flatMap fun s =>
      if hasTest scene s.path then []
      else [rule.head.violationAt s ("'" ++ s.path ++ "' has no test file (looked for " ++
        ", ".intercalate (testCandidates s.path) ++ ")")] := by
    rw [testCoverage, ← List.filterMap_eq_map, List.filterMap_filter,
      List.filterMap_eq_flatMap_toList]
    refine List.flatMap_congr fun s _ => ?_
    cases hasTest scene s.path <;> rfl
  rw [byFile]
  refine reportsOnce_flatMap role (fun s => ?_) fun s v => ?_
  · split_ifs <;> simp
  · have untested : (∀ place ∈ testCandidates s.path, scene.isThere place = false) ↔
        hasTest scene s.path = false := by
      simp [hasTest]
    simp only [IsUntested, untested]
    split_ifs with tested <;> simp [tested]

/-! ### Members of classes -/

/-- What is counted of the classes of a file, in the order in which it is reported. -/
inductive Measure where
  | methods
  | properties
  deriving DecidableEq, Repr

namespace Measure

def count : Measure → String → Nat
  | methods => Complexity.methods
  | properties => Complexity.properties

def limit (rule : ComplexityRule) : Measure → Nat
  | methods => rule.maxMethods
  | properties => rule.maxProperties

def noun : Measure → String
  | methods => "public methods"
  | properties => "properties"

def finding (rule : ComplexityRule) (m : Measure) (path text : String) : String :=
  "'" ++ path ++ "' has " ++ toString (m.count text) ++ " " ++ m.noun ++ " (max " ++
    toString (m.limit rule) ++ ")"

end Measure

/-- The file can be read, and the count is above its limit. -/
def Exceeds (rule : ComplexityRule) (scene : Scene) (e : String × Measure) : Prop :=
  ∃ text ∈ scene.text? e.1, e.2.limit rule < e.2.count text

instance (rule : ComplexityRule) (scene : Scene) (e : String × Measure) :
    Decidable (Exceeds rule scene e) :=
  inferInstanceAs (Decidable (∃ text ∈ scene.text? e.1, _))

/-- The counts that are above their limits, file by file. -/
def exceeded (rule : ComplexityRule) (scene : Scene) : List (String × Measure) :=
  (filePaths scene rule.scope ×ˢ [Measure.methods, Measure.properties]).filter
    fun e => Exceeds rule scene e

/-- The file is mentioned before the other, or it is the same and methods stand before properties. -/
def Precedes (symbols : List Symbol) (d e : String × Measure) : Prop :=
  SeenBefore symbols d.1 e.1 ∨ d.1 = e.1 ∧ d.2 = .methods ∧ e.2 = .properties

theorem mem_exceeded {rule : ComplexityRule} {path : String} {m : Measure} :
    (path, m) ∈ exceeded rule scene ↔
      scene.Selects rule.scope path ∧ ∃ text ∈ scene.text? path, m.limit rule < m.count text := by
  have every : m ∈ [Measure.methods, Measure.properties] := by cases m <;> decide
  rw [exceeded, List.mem_filter, List.mem_product, mem_filePaths, decide_eq_true_eq]
  exact and_congr_left' (and_iff_left every)

theorem pairwise_exceeded (role : PerFile Symbol.role scene.symbols) (rule : ComplexityRule) :
    (exceeded rule scene).Pairwise (Precedes scene.symbols) := by
  refine List.Pairwise.sublist List.filter_sublist ?_
  refine List.pairwise_flatMap.mpr ⟨fun path _ => ?_, ?_⟩
  · simp [Precedes]
  · refine (pairwise_filePaths role rule.scope).imp fun {p q} before d hd e he => ?_
    obtain ⟨m, -, rfl⟩ := List.mem_map.mp hd
    obtain ⟨n, -, rfl⟩ := List.mem_map.mp he
    exact Or.inl before

/-- Raised limits are exceeded by no more. -/
theorem exceeded_sublist {rule : ComplexityRule} {maxMethods maxProperties : Nat}
    (methods : rule.maxMethods ≤ maxMethods) (properties : rule.maxProperties ≤ maxProperties) :
    (exceeded { rule with maxMethods, maxProperties } scene).Sublist (exceeded rule scene) := by
  refine List.monotone_filter_right _ fun e he => ?_
  rw [decide_eq_true_eq] at he ⊢
  obtain ⟨text, read, above⟩ := he
  refine ⟨text, read, ?_⟩
  match e with
  | (path, .methods) => exact methods.trans_lt above
  | (path, .properties) => exact properties.trans_lt above

/-- The report of a count that is above its limit. -/
def ReportsCount (scene : Scene) (rule : Typed ComplexityRule) (e : String × Measure)
    (v : Violation) : Prop :=
  ∃ text ∈ scene.text? e.1,
    v = rule.head.violationOn scene.symbols e.1 (e.2.finding rule.body e.1 text)

theorem forall₂_tooMany (role : PerFile Symbol.role scene.symbols) (rule : Typed ComplexityRule)
    {s : Symbol} (hs : s ∈ scene.symbols) {text : String} (read : scene.text? s.path = some text)
    (m : Measure) :
    List.Forall₂ (ReportsCount scene rule)
      ([(s.path, m)].filter fun e => Exceeds rule.body scene e)
      (tooMany rule.head s (m.count text) (m.limit rule.body) m.noun) := by
  have exceeds : Exceeds rule.body scene (s.path, m) ↔ m.limit rule.body < m.count text := by
    simp [Exceeds, read]
  unfold tooMany
  by_cases above : m.limit rule.body < m.count text
  · have kept : [(s.path, m)].filter (fun e => Exceeds rule.body scene e) = [(s.path, m)] := by
      simp [exceeds, above]
    rw [kept, if_pos above, violationAt_eq role hs]
    exact .cons ⟨text, read, rfl⟩ .nil
  · have dropped : [(s.path, m)].filter (fun e => Exceeds rule.body scene e) = [] := by
      simp [exceeds, above]
    rw [dropped, if_neg above]
    exact .nil

/-- Each count above its limit is reported once, in order. -/
theorem forall₂_complexity (role : PerFile Symbol.role scene.symbols)
    (rule : Typed ComplexityRule) :
    List.Forall₂ (ReportsCount scene rule) (exceeded rule.body scene) (complexity rule scene) := by
  have byFile : exceeded rule.body scene = (scene.filesOf rule.body.scope).flatMap fun s =>
      [(s.path, .methods), (s.path, .properties)].filter fun e => Exceeds rule.body scene e := by
    simp only [exceeded, filePaths, SProd.sprod, List.product, List.filter_flatMap,
      List.flatMap_map]
    rfl
  rw [byFile, complexity, Scene.scan]
  refine List.rel_flatMap (R := fun s t => s = t ∧ s ∈ scene.symbols) ?_ ?_
  · exact List.forall₂_same.mpr fun s hs => ⟨rfl, (selects_of_mem_filesOf hs).1⟩
  · rintro s t ⟨rfl, hs⟩
    simp only
    cases read : scene.text? s.path with
    | none =>
      have dropped : [(s.path, .methods), (s.path, .properties)].filter
          (fun e => Exceeds rule.body scene e) = [] := by
        simp [Exceeds, read]
      rw [dropped]
      exact .nil
    | some text =>
      have both : [(s.path, Measure.methods), (s.path, .properties)] =
          [(s.path, .methods)] ++ [(s.path, .properties)] := rfl
      rw [both, List.filter_append]
      exact List.rel_append (forall₂_tooMany role rule hs read .methods)
        (forall₂_tooMany role rule hs read .properties)

/-! ### Raised limits -/

theorem fileSize_sublist (rule : Typed FileSizeRule) {maxLines : Nat}
    (raised : rule.body.maxLines ≤ maxLines) :
    ((fileSize ⟨rule.head, { rule.body with maxLines }⟩ scene).map Violation.file).Sublist
      ((fileSize rule scene).map Violation.file) := by
  refine map_scan_sublist (fun s text => ?_) _
  simp only
  by_cases short : lineCount text ≤ maxLines
  · rw [if_pos short]
    exact List.nil_sublist _
  · rw [if_neg short, if_neg fun lower => short (lower.trans raised)]
    exact List.Sublist.refl _

theorem documentation_sublist (rule : Typed DocumentationRule) {minLines : Nat}
    (raised : rule.body.minLines ≤ minLines) :
    (documentation ⟨rule.head, { rule.body with minLines }⟩ scene).Sublist
      (documentation rule scene) := by
  unfold documentation
  split_ifs
  · exact List.Sublist.refl _
  · refine scan_sublist (fun s text => ?_) _
    simp only [Bool.or_eq_true, decide_eq_true_eq]
    by_cases passed : lineCount text < minLines ∨
        Text.occursIn docOpening.toList text.toList = true
    · rw [if_pos passed]
      exact List.nil_sublist _
    · rw [if_neg passed, if_neg fun lower => passed (lower.imp_left fun h => h.trans_le raised)]

end Check

open Check in
/-- In a project whose symbols agree file by file in their role, the checks of sizes, comments,
keywords and tests report each failing path of their scope once, in the order in which the symbols
first mention the paths, and no other; the check of classes reports each count that is above its
limit once, methods before properties. With higher limits nothing is reported that was not. -/
theorem failing_files_are_reported_once_in_order {scene : Scene}
    (role : PerFile Symbol.role scene.symbols) :
    (∀ rule : Typed FileSizeRule,
      scene.ReportsOnce rule.head rule.body.scope
        (fun path finding => ∃ text ∈ scene.text? path, IsTooLong rule.body path text finding)
        (fileSize rule scene) ∧
      ∀ maxLines, rule.body.maxLines ≤ maxLines →
        ((fileSize ⟨rule.head, { rule.body with maxLines }⟩ scene).map Violation.file).Sublist
          ((fileSize rule scene).map Violation.file)) ∧
    (∀ rule : Typed DocumentationRule,
      scene.ReportsOnce rule.head rule.body.scope
        (fun path finding => ∃ text ∈ scene.text? path, IsUndocumented rule.body path text finding)
        (documentation rule scene) ∧
      ∀ minLines, rule.body.minLines ≤ minLines →
        (documentation ⟨rule.head, { rule.body with minLines }⟩ scene).Sublist
          (documentation rule scene)) ∧
    (∀ rule : Typed KeywordRule,
      scene.ReportsOnce rule.head rule.body.scope
        (fun path finding => ∃ text ∈ scene.text? path, ContainsKeyword rule.body path text finding)
        (keywords rule scene)) ∧
    (∀ rule : Typed TestCoverageRule,
      scene.ReportsOnce rule.head rule.body.scope (IsUntested scene) (testCoverage rule scene)) ∧
    (∀ path, (testCandidates path).length = 4) ∧
    ∀ rule : Typed ComplexityRule,
      List.Forall₂ (ReportsCount scene rule) (exceeded rule.body scene) (complexity rule scene) ∧
      (exceeded rule.body scene).Pairwise (Precedes scene.symbols) ∧
      (∀ path m, (path, m) ∈ exceeded rule.body scene ↔
        scene.Selects rule.body.scope path ∧
          ∃ text ∈ scene.text? path, m.limit rule.body < m.count text) ∧
      ∀ maxMethods maxProperties, rule.body.maxMethods ≤ maxMethods →
        rule.body.maxProperties ≤ maxProperties →
        (exceeded { rule.body with maxMethods, maxProperties } scene).Sublist
          (exceeded rule.body scene) := by
  refine ⟨fun rule => ⟨?_, ?_⟩, fun rule => ⟨?_, ?_⟩, ?_, ?_, ?_, fun rule => ⟨?_, ?_, ?_, ?_⟩⟩
  · exact reportsOnce_fileSize role rule
  · exact fun maxLines raised => fileSize_sublist rule raised
  · exact reportsOnce_documentation role rule
  · exact fun minLines raised => documentation_sublist rule raised
  · exact fun rule => reportsOnce_keywords role rule
  · exact fun rule => reportsOnce_testCoverage role rule
  · exact fun path => rfl
  · exact forall₂_complexity role rule
  · exact pairwise_exceeded role rule.body
  · exact fun path m => mem_exceeded
  · exact fun maxMethods maxProperties methods properties => exceeded_sublist methods properties

open Check in
/-- A class with two symbols in its file, a file that cannot be read and has a test, and a file of
another role. -/
theorem class_of_two_symbols_is_reported_once :
    let small : Typed FileSizeRule := ⟨⟨"small", .error, none⟩, ⟨.one "A", 5⟩⟩
    let words : Typed KeywordRule := ⟨⟨"words", .error, none⟩, ⟨.one "A", ["goto", "go", "class"]⟩⟩
    let tested : Typed TestCoverageRule := ⟨⟨"tested", .error, none⟩, ⟨.one "A"⟩⟩
    let lean : Typed ComplexityRule := ⟨⟨"lean", .error, none⟩, ⟨.one "A", 0, 0⟩⟩
    let symbols : List Symbol := [⟨"a.ts", "A", "A", [], .classDecl⟩,
      ⟨"b.ts", "b", "A", [], .constDecl⟩, ⟨"a.ts", "a", "A", [], .constDecl⟩,
      ⟨"c.ts", "c", "C", [], .wholeFile⟩]
    let text := "class A \x7b\n n: T;\n go() \x7b\n \x7d\n\x7d\n"
    let files : FileView :=
      ⟨fun path => if path = "b.ts" then .error .notFound else .ok text, fun path => path = "b.spec.ts"⟩
    let scene : Scene := ⟨symbols, files, []⟩
    PerFile Symbol.role scene.symbols ∧
    (fileSize small scene).map Violation.file = ["a.ts"] ∧
    ((fileSize ⟨small.head, { small.body with maxLines := 6 }⟩ scene).map Violation.file).Sublist
      ["a.ts"] ∧
    (keywords words scene).map Violation.message =
      ["[words] 'a.ts' contains forbidden keyword 'go'"] ∧
    (testCoverage tested scene).map Violation.file = ["a.ts"] ∧
    (complexity lean scene).map Violation.message =
      ["[lean] 'a.ts' has 1 public methods (max 0)", "[lean] 'a.ts' has 1 properties (max 0)"] ∧
    (exceeded lean.body scene).Pairwise (Precedes scene.symbols) ∧
    List.Forall₂ (ReportsCount scene lean) (exceeded lean.body scene) (complexity lean scene) := by
  intro small words tested lean symbols text files scene
  have role : PerFile Symbol.role scene.symbols := by
    simp [Determined, scene, symbols]
  obtain ⟨sizes, -, -, -, -, classes⟩ := failing_files_are_reported_once_in_order role
  have long : (fileSize small scene).map Violation.file = ["a.ts"] := by decide +kernel
  refine ⟨role, long, ?_, by decide +kernel, by decide +kernel, by decide +kernel, ?_, ?_⟩
  · exact long ▸ (sizes small).2 6 (by decide)
  · exact (classes lean).2.1
  · exact (classes lean).1

end ArchLint
