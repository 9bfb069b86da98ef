import ArchLint.Proofs.Finding
import ArchLint.Proofs.Reading
import ArchLint.Proofs.Synonyms

/-!
Rules with notations that are no patterns. Every check takes the patterns among its notations in
order, each with its own notation as its source, so that a run reports the same when the notations
that are no patterns are struck (`run_withValidPatterns`). A file is reported at most once by a
rule, for the first of its notations that is a pattern and matches.
-/

namespace ArchLint

/-- The notation is that of a pattern which matches the text. -/
def Matches (text source : String) : Prop := ∃ p ∈ Pattern.ofText? source, p.isMatch text = true

instance (text source : String) : Decidable (Matches text source) :=
  inferInstanceAs (Decidable (∃ p ∈ Pattern.ofText? source, _))

namespace RuleSet

/-- The rules without notations that are no patterns, wherever a rule has a list of them. -/
def withValidPatterns (s : RuleSet) : RuleSet :=
  { s with
    unreferenced := s.unreferenced.map fun r =>
      { r with body := { r.body with ignored := r.body.ignored.filter Pattern.isValid } }
    content := s.content.map fun r =>
      { r with body := { r.body with patterns := r.body.patterns.filter Pattern.isValid } }
    barrel := s.barrel.map fun r =>
      { r with body := { r.body with patterns := r.body.patterns.filter Pattern.isValid } } }

end RuleSet

/-! ### Striking what is no pattern -/

@[simp]
theorem validPatterns_filter_isValid (sources : List String) :
    validPatterns (sources.filter Pattern.isValid) = validPatterns sources := by
  rw [validPatterns, validPatterns, List.filterMap_filter]
  refine List.filterMap_congr fun source _ => ?_
  split
  · rfl
  · rename_i invalid
    rw [Pattern.isValid_iff_ofText?] at invalid
    exact (by simpa using invalid : Pattern.ofText? source = none).symm

theorem isActive_withValidPatterns (s : RuleSet) (f : Family) :
    f.isActive s.withValidPatterns = f.isActive s := by
  cases f with
  | hygiene => simp [Family.isActive, RuleSet.withValidPatterns, RuleSet.hasHygiene]
  | codePattern => simp [Family.isActive, RuleSet.withValidPatterns, RuleSet.hasCodePattern]
  | _ => rfl

theorem check_withValidPatterns (s : RuleSet) (scene : Scene) (f : Family) :
    f.check s.withValidPatterns scene = f.check s scene := by
  cases f with
  | hygiene =>
    simp [Family.check, RuleSet.withValidPatterns, List.flatMap_map, Check.unreferenced]
  | codePattern =>
    simp [Family.check, RuleSet.withValidPatterns, List.flatMap_map, Check.content, Check.barrel]
  | _ => rfl

theorem run_withValidPatterns (s : RuleSet) (scene : Scene) :
    s.withValidPatterns.run scene = s.run scene := by
  rw [RuleSet.run, RuleSet.run, RuleSet.families, RuleSet.families,
    funext (isActive_withValidPatterns s), funext (check_withValidPatterns s scene)]

/-! ### Reports about one file -/

section

variable {scene : Scene} {files : List Symbol} {find : Symbol → String → List Violation}
  (hf : AboutOwnFile find)
include hf

theorem filter_scan_eq_nil {path : String}
    (absent : ∀ s ∈ files, s.path = path → scene.text? path = none) :
    (scene.scan files find).filter (fun v => v.file = path) = [] := by
  refine List.filter_eq_nil_iff.mpr fun v hv here => ?_
  have here : v.file = path := by simpa using here
  obtain ⟨s, hs, text, read, found⟩ := Scene.mem_scan.mp hv
  have same : s.path = path := (hf s text v found).symm.trans here
  rw [same, absent s hs same] at read
  cases read

/-- Of files with different paths, what is reported about one is what is found in it. -/
theorem filter_scan_eq_find (apart : (files.map Symbol.path).Nodup) {s : Symbol} (hs : s ∈ files)
    {text : String} (read : scene.text? s.path = some text) :
    (scene.scan files find).filter (fun v => v.file = s.path) = find s text := by
  obtain ⟨before, after, rfl⟩ := List.append_of_mem hs
  have cut : scene.scan (before ++ s :: after) find =
      scene.scan before find ++ (find s text ++ scene.scan after find) := by
    simp only [Scene.scan, List.flatMap_append, List.flatMap_cons, read]
  -- what is found before and behind the file is about others
  have others : ∀ t ∈ before ++ after, t.path ≠ s.path := by
    rw [List.map_append, List.map_cons, List.nodup_middle, List.nodup_cons,
      ← List.map_append] at apart
    exact fun t ht same => apart.1 (same ▸ List.mem_map_of_mem ht)
  have own : (find s text).filter (fun v => v.file = s.path) = find s text :=
    List.filter_eq_self.mpr fun v hv => by simpa using hf s text v hv
  rw [cut, List.filter_append, List.filter_append, own,
    filter_scan_eq_nil hf fun t ht same => absurd same (others t (List.mem_append_left _ ht)),
    filter_scan_eq_nil hf fun t ht same => absurd same (others t (List.mem_append_right _ ht)),
    List.nil_append, List.append_nil]

end

/-! ### The first pattern that matches -/

theorem source_firstMatch? (sources : List String) (text : String) :
    (Check.firstMatch? (validPatterns sources) text).map Pattern.source =
      sources.find? fun source => Matches text source := by
  have test : (fun source => (Pattern.ofText? source).any fun p => p.isMatch text) =
      fun source => decide (Matches text source) := by
    funext source
    cases valid : Pattern.ofText? source with
    | none => simp [Matches, valid]
    | some p => simp [Matches, valid]
  rw [Check.firstMatch?, validPatterns, List.find?_filterMap, test]
  -- a notation that is found has a pattern, and the pattern has the notation as its source
  cases found : sources.find? fun source => Matches text source with
  | none => rfl
  | some source =>
    obtain ⟨p, valid, -⟩ : Matches text source := by simpa using List.find?_some found
    rw [Option.bind_some, Option.mem_def.mp valid, Option.map_some,
      Pattern.source_of_ofText? valid]

theorem content_eq_scan (rule : Typed ContentRule) (scene : Scene) :
    Check.content rule scene = scene.scan (scene.filesOf rule.body.scope) fun s text =>
      ((rule.body.patterns.find? fun source => Matches text source).map fun source =>
        rule.head.violationAt s
          ("'" ++ s.path ++ "' matches forbidden pattern `" ++ source ++ "`")).toList := by
  rw [Check.content]
  refine congrArg (scene.scan _) (funext fun s => funext fun text => ?_)
  rw [← source_firstMatch?]
  cases Check.firstMatch? (validPatterns rule.body.patterns) text with
  | none => rfl
  | some p => rfl

theorem barrel_eq_scan {rule : Typed BarrelRule} {files : Pattern}
    (valid : Pattern.ofText? rule.body.filePattern = some files) (scene : Scene) :
    Check.barrel rule scene = scene.scan (Check.filesMatching scene files) fun s text =>
      ((rule.body.patterns.find? fun source => Matches text source).map fun source =>
        rule.head.violation s.path ("barrel file '" ++ s.path ++
          "' should only re-export, but matches `" ++ source ++ "`")).toList := by
  rw [Check.barrel, valid]
  refine congrArg (scene.scan _) (funext fun s => funext fun text => ?_)
  rw [← source_firstMatch?]
  cases Check.firstMatch? (validPatterns rule.body.patterns) text with
  | none => rfl
  | some p => rfl

/-! ### Files that are looked at -/

theorem exists_mem_filesOf {scene : Scene} {scope : RoleSelector} {path : String}
    (h : scene.Selects scope path) : ∃ s ∈ scene.filesOf scope, s.path = path :=
  List.mem_map.mp (Check.mem_filePaths.mpr h)

theorem selects_of_mem_filesOf {scene : Scene} {scope : RoleSelector} {s : Symbol}
    (h : s ∈ scene.filesOf scope) : s ∈ scene.symbols ∧ scope.selects s.role = true :=
  List.mem_filter.mp (mem_of_mem_distinctBy h)

theorem mem_paths_filesMatching {scene : Scene} {files : Pattern} {path : String} :
    path ∈ (Check.filesMatching scene files).map Symbol.path ↔
      path ∈ scene.symbols.map Symbol.path ∧ files.isMatch path = true := by
  rw [Check.filesMatching, firstPerFile, mem_keys_distinctBy]
  simp only [List.mem_map, List.mem_filter]
  constructor
  · rintro ⟨s, ⟨hs, hit⟩, rfl⟩
    exact ⟨⟨s, hs, rfl⟩, hit⟩
  · rintro ⟨⟨s, hs, rfl⟩, hit⟩
    exact ⟨s, ⟨hs, hit⟩, rfl⟩

section

variable {rule : Typed ContentRule} {scene : Scene} {path : String}

theorem aboutOwnFile_contentFindings : AboutOwnFile fun s text =>
    ((rule.body.patterns.find? fun source => Matches text source).map fun source =>
      rule.head.violationAt s
        ("'" ++ s.path ++ "' matches forbidden pattern `" ++ source ++ "`")).toList := by
  intro s text v hv
  obtain ⟨source, -, rfl⟩ := by simpa using hv
  rfl

theorem filter_content {text : String} (chosen : scene.Selects rule.body.scope path)
    (read : scene.text? path = some text) :
    ∃ s ∈ scene.symbols, s.path = path ∧ rule.body.scope.selects s.role = true ∧
      (Check.content rule scene).filter (fun v => v.file = path) =
        ((rule.body.patterns.find? fun source => Matches text source).map fun source =>
          rule.head.violationAt s
            ("'" ++ path ++ "' matches forbidden pattern `" ++ source ++ "`")).toList := by
  obtain ⟨s, hs, rfl⟩ := exists_mem_filesOf chosen
  obtain ⟨listed, role⟩ := selects_of_mem_filesOf hs
  refine ⟨s, listed, rfl, role, ?_⟩
  rw [content_eq_scan]
  exact filter_scan_eq_find aboutOwnFile_contentFindings (Check.nodup_filePaths scene _) hs read

theorem filter_content_eq_nil
    (h : ¬ scene.Selects rule.body.scope path ∨ scene.text? path = none) :
    (Check.content rule scene).filter (fun v => v.file = path) = [] := by
  rw [content_eq_scan]
  refine filter_scan_eq_nil aboutOwnFile_contentFindings fun s hs same => ?_
  rcases h with unchosen | unread
  · exact absurd (Check.mem_filePaths.mp (same ▸ List.mem_map_of_mem hs)) unchosen
  · exact unread

end

section

variable {rule : Typed BarrelRule} {scene : Scene} {path : String}

theorem aboutOwnFile_barrelFindings : AboutOwnFile fun s text =>
    ((rule.body.patterns.find? fun source => Matches text source).map fun source =>
      rule.head.violation s.path ("barrel file '" ++ s.path ++
        "' should only re-export, but matches `" ++ source ++ "`")).toList := by
  intro s text v hv
  obtain ⟨source, -, rfl⟩ := by simpa using hv
  rfl

theorem filter_barrel {text : String} (listed : path ∈ scene.symbols.map Symbol.path)
    (chosen : Matches path rule.body.filePattern) (read : scene.text? path = some text) :
    (Check.barrel rule scene).filter (fun v => v.file = path) =
      ((rule.body.patterns.find? fun source => Matches text source).map fun source =>
        rule.head.violation path ("barrel file '" ++ path ++
          "' should only re-export, but matches `" ++ source ++ "`")).toList := by
  obtain ⟨files, valid, hit⟩ := chosen
  obtain ⟨s, hs, rfl⟩ := List.mem_map.mp (mem_paths_filesMatching.mpr ⟨listed, hit⟩)
  rw [barrel_eq_scan valid]
  exact filter_scan_eq_find aboutOwnFile_barrelFindings (nodup_keys_distinctBy _) hs read

theorem filter_barrel_eq_nil (h : path ∉ scene.symbols.map Symbol.path ∨
      ¬ Matches path rule.body.filePattern ∨ scene.text? path = none) :
    (Check.barrel rule scene).filter (fun v => v.file = path) = [] := by
  cases valid : Pattern.ofText? rule.body.filePattern with
  | none =>
    rw [Check.barrel, valid]
    rfl
  | some files =>
    rw [barrel_eq_scan valid]
    refine filter_scan_eq_nil aboutOwnFile_barrelFindings fun s hs same => ?_
    obtain ⟨listed, hit⟩ := mem_paths_filesMatching.mp (List.mem_map_of_mem hs)
    rw [same] at listed hit
    rcases h with unlisted | unchosen | unread
    · exact absurd listed unlisted
    · exact absurd ⟨files, valid, hit⟩ unchosen
    · exact unread

end

/-- Every run reports the same without the notations that are no patterns. A file that a rule looks
at and that can be read is reported once, for the first notation in the order of the rule that is a
pattern and matches the text, and not at all if there is none; other files are not reported. -/
theorem notations_that_are_no_patterns_count_for_nothing :
    (∀ (rules : RuleSet) (scene : Scene), rules.withValidPatterns.run scene = rules.run scene) ∧
    (∀ (rule : Typed ContentRule) (scene : Scene) (path : String),
      let reports := (Check.content rule scene).filter fun v => v.file = path
      (∀ text, scene.Selects rule.body.scope path → scene.text? path = some text →
        ∃ s ∈ scene.symbols, s.path = path ∧ rule.body.scope.selects s.role = true ∧
          reports = ((rule.body.patterns.find? fun source => Matches text source).map fun source =>
            rule.head.violationAt s
              ("'" ++ path ++ "' matches forbidden pattern `" ++ source ++ "`")).toList) ∧
      (¬ scene.Selects rule.body.scope path ∨ scene.text? path = none → reports = [])) ∧
    ∀ (rule : Typed BarrelRule) (scene : Scene) (path : String),
      let reports := (Check.barrel rule scene).filter fun v => v.file = path
      (∀ text, path ∈ scene.symbols.map Symbol.path → Matches path rule.body.filePattern →
        scene.text? path = some text →
          reports = ((rule.body.patterns.find? fun source => Matches text source).map fun source =>
            rule.head.violation path ("barrel file '" ++ path ++
              "' should only re-export, but matches `" ++ source ++ "`")).toList) ∧
      (path ∉ scene.symbols.map Symbol.path ∨ ¬ Matches path rule.body.filePattern ∨
        scene.text? path = none → reports = []) :=
  ⟨run_withValidPatterns,
    fun _ _ _ => ⟨fun _ => filter_content, filter_content_eq_nil⟩,
    fun _ _ _ => ⟨fun _ => filter_barrel, filter_barrel_eq_nil⟩⟩

/-- A file with two symbols, and notations of which the first is no pattern and the last would match
as well. -/
theorem first_pattern_that_matches_is_named :
    let content : Typed ContentRule := ⟨⟨"plain", .error, none⟩, ⟨.all, ["(", "z", "x", "y"]⟩⟩
    let barrel : Typed BarrelRule := ⟨⟨"barrels", .error, none⟩, ⟨"^a", ["(", "z", "x", "y"]⟩⟩
    let read (path : String) : Except ReadError String :=
      if path = "a.ts" then .ok "xy" else .error .notFound
    let scene : Scene := ⟨[⟨"a.ts", "one", "A", [], .classDecl⟩, ⟨"b.ts", "b", "A", [], .wholeFile⟩,
      ⟨"a.ts", "two", "A", [], .constDecl⟩], ⟨read, fun _ => true⟩, []⟩
    ((Check.content content scene).filter fun v => v.file = "a.ts").map Violation.message =
      ["[plain] 'a.ts' matches forbidden pattern `x`"] ∧
    ((Check.content content scene).filter fun v => v.file = "b.ts") = [] ∧
    ((Check.barrel barrel scene).filter fun v => v.file = "a.ts").map Violation.message =
      ["[barrels] barrel file 'a.ts' should only re-export, but matches `x`"] ∧
    ((Check.barrel barrel scene).filter fun v => v.file = "b.ts") = [] := by
  intro content barrel read scene
  obtain ⟨-, contents, barrels⟩ := notations_that_are_no_patterns_count_for_nothing
  have first : ["(", "z", "x", "y"].find? (fun source => Matches "xy" source) = some "x" := by
    decide +kernel
  have chosen : scene.Selects .all "a.ts" := ⟨scene.symbols[0], by decide, rfl, rfl⟩
  refine ⟨?_, (contents content scene "b.ts").2 (.inr rfl), ?_,
    (barrels barrel scene "b.ts").2 (.inr (.inl (by decide +kernel)))⟩
  · obtain ⟨s, -, -, -, reports⟩ := (contents content scene "a.ts").1 "xy" chosen rfl
    rw [reports, first]
    rfl
  · rw [(barrels barrel scene "a.ts").1 "xy" (by decide) (by decide +kernel) rfl, first]
    rfl

end ArchLint
