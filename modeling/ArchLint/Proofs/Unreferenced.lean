import ArchLint.Check.Hygiene
import ArchLint.Proofs.Imports

/-!
Symbols that nothing uses. Whether a symbol is reported goes by its role and its path alone: the role
is in scope, no pattern excuses the path, and no symbol of another file lists it (`Accuses`). Hence the
symbols of one role in one file are reported together, and since a project that grows only lists more,
what was used stays used (`IsUnused.anti`).
-/

namespace ArchLint

/-- No symbol of another file lists the path. -/
def IsUnused (symbols : List Symbol) (path : String) : Prop :=
  ∀ t ∈ symbols, t.path ≠ path → path ∉ t.dependencies

namespace UnreferencedRule

/-- One of the notations that the rule ignores is a pattern, and it matches the path. -/
def Excuses (rule : UnreferencedRule) (path : String) : Prop :=
  ∃ source ∈ rule.ignored, ∃ p ∈ Pattern.ofText? source, p.isMatch path = true

/-- The symbol is in scope, and neither excused nor used. -/
def Accuses (rule : UnreferencedRule) (symbols : List Symbol) (s : Symbol) : Prop :=
  rule.scope.selects s.role = true ∧ ¬ rule.Excuses s.path ∧ IsUnused symbols s.path

instance (rule : UnreferencedRule) (path : String) : Decidable (rule.Excuses path) :=
  inferInstanceAs (Decidable (∃ source ∈ rule.ignored, _))

instance (rule : UnreferencedRule) (symbols : List Symbol) (s : Symbol) :
    Decidable (rule.Accuses symbols s) :=
  inferInstanceAs (Decidable (_ ∧ ¬ _ ∧ ∀ t ∈ symbols, _))

end UnreferencedRule

/-- The violation of a rule by a symbol that nothing uses. -/
structure Violation.NamesSymbol (v : Violation) (head : RuleHead) (s : Symbol) : Prop where
  ruleName : v.ruleName = head.name
  severity : v.severity = head.severity
  file : v.file = s.path
  sourceRole : v.sourceRole = some s.role
  targetRole : v.targetRole = none
  dependency : v.dependency = none
  message : v.message = head.message
    (if s.kind = .wholeFile then "'" ++ s.path ++ "' is never imported (possibly dead code)"
    else s.kind.name ++ " '" ++ s.name ++ "' in '" ++ s.path ++
      "' is never imported (possibly dead code)")

/-! ### Uses -/

theorem isReferenced_eq_false_iff {symbols : List Symbol} {path : String} :
    Check.isReferenced symbols path = false ↔ IsUnused symbols path := by
  simp only [Check.isReferenced, IsUnused, List.any_eq_false, Bool.and_eq_true, decide_eq_true_eq,
    List.contains_iff_mem, not_and]

/-- Of a project that grows, no file falls out of use. -/
theorem IsUnused.anti {symbols symbols' : List Symbol}
    (h : List.SublistForall₂ Symbol.DependsMore symbols symbols') {path : String}
    (unused : IsUnused symbols' path) : IsUnused symbols path := by
  intro s hs other lists
  obtain ⟨t, ht, same, more⟩ := exists_dependsMore h hs
  have samePath : t.path = s.path := by rw [same]
  exact unused t ht (samePath ▸ other) (more lists)

namespace UnreferencedRule

variable {rule : UnreferencedRule} {symbols : List Symbol} {s t : Symbol}

theorem any_validPatterns_iff {path : String} :
    (validPatterns rule.ignored).any (fun p => p.isMatch path) = true ↔ rule.Excuses path := by
  simp only [validPatterns, List.any_eq_true, List.mem_filterMap, Excuses]
  constructor
  · rintro ⟨p, ⟨source, hs, valid⟩, matched⟩
    exact ⟨source, hs, p, valid, matched⟩
  · rintro ⟨source, hs, p, valid, matched⟩
    exact ⟨p, ⟨source, hs, valid⟩, matched⟩

/-- The symbols of one role in one file are accused together. -/
theorem accuses_congr (path : s.path = t.path) (role : s.role = t.role) :
    rule.Accuses symbols s ↔ rule.Accuses symbols t := by
  rw [Accuses, Accuses, path, role]

end UnreferencedRule

/-! ### Reports -/

section

variable {rule : Typed UnreferencedRule} {scene : Scene}

theorem unreferenced_eq_map_filter (rule : Typed UnreferencedRule) (scene : Scene) :
    Check.unreferenced rule scene =
      (scene.symbols.filter fun s => rule.body.Accuses scene.symbols s).map fun s =>
        rule.head.violationAt s (Check.unreferencedFinding s) := by
  refine congrArg _ (List.filter_congr fun s _ => Bool.eq_iff_iff.mpr ?_)
  rw [decide_eq_true_iff, UnreferencedRule.Accuses, ← isReferenced_eq_false_iff,
    ← UnreferencedRule.any_validPatterns_iff, Bool.and_eq_true, Bool.and_eq_true, Bool.not_eq_true',
    Bool.not_eq_true', Bool.not_eq_true, and_assoc, and_comm (b := _ = false)]

theorem namesSymbol_violationAt (head : RuleHead) (s : Symbol) :
    (head.violationAt s (Check.unreferencedFinding s)).NamesSymbol head s :=
  ⟨rfl, rfl, rfl, rfl, rfl, rfl, rfl⟩

/-- Whoever is named by a report is accused. -/
theorem accuses_of_namesSymbol {s : Symbol}
    (h : ∃ v ∈ Check.unreferenced rule scene, v.NamesSymbol rule.head s) :
    rule.body.Accuses scene.symbols s := by
  obtain ⟨v, hv, names⟩ := h
  rw [unreferenced_eq_map_filter] at hv
  obtain ⟨t, ht, rfl⟩ := List.mem_map.mp hv
  have accused := of_decide_eq_true (List.mem_filter.mp ht).2
  exact (UnreferencedRule.accuses_congr names.file (Option.some.inj names.sourceRole)).mp accused

theorem exists_namesSymbol_iff {s : Symbol} (hs : s ∈ scene.symbols) :
    (∃ v ∈ Check.unreferenced rule scene, v.NamesSymbol rule.head s) ↔
      rule.body.Accuses scene.symbols s := by
  refine ⟨accuses_of_namesSymbol, fun accused => ?_⟩
  have kept : s ∈ scene.symbols.filter fun s => rule.body.Accuses scene.symbols s :=
    List.mem_filter.mpr ⟨hs, decide_eq_true accused⟩
  rw [unreferenced_eq_map_filter]
  exact ⟨_, List.mem_map_of_mem kept, namesSymbol_violationAt rule.head s⟩

end

/-- In the order of the symbols, each of them is reported once that is in scope, not excused, and on
whose file no other depends, whether or not the file lists itself. The symbols of one role in one file
are reported all or none, and symbols or dependencies that are added, wherever, accuse no symbol that
was there before. -/
theorem unused_symbols_are_reported (rule : Typed UnreferencedRule) (scene : Scene) :
    List.Forall₂ (fun s v => v.NamesSymbol rule.head s)
      (scene.symbols.filter fun s => rule.body.Accuses scene.symbols s)
      (Check.unreferenced rule scene) ∧
    (∀ s ∈ scene.symbols, (∃ v ∈ Check.unreferenced rule scene, v.NamesSymbol rule.head s) ↔
      rule.body.scope.selects s.role = true ∧ ¬ rule.body.Excuses s.path ∧
        ∀ t ∈ scene.symbols, t.path ≠ s.path → s.path ∉ t.dependencies) ∧
    (∀ s ∈ scene.symbols, ∀ t ∈ scene.symbols, s.path = t.path → s.role = t.role →
      ((∃ v ∈ Check.unreferenced rule scene, v.NamesSymbol rule.head s) ↔
        ∃ v ∈ Check.unreferenced rule scene, v.NamesSymbol rule.head t)) ∧
    ∀ symbols', List.SublistForall₂ Symbol.DependsMore scene.symbols symbols' →
      ∀ s ∈ scene.symbols,
        (∃ v ∈ Check.unreferenced rule { scene with symbols := symbols' },
          v.NamesSymbol rule.head s) →
        ∃ v ∈ Check.unreferenced rule scene, v.NamesSymbol rule.head s := by
  refine ⟨?_, fun s hs => exists_namesSymbol_iff hs, fun s hs t ht path role => ?_,
    fun symbols' grown s hs reported => ?_⟩
  · rw [unreferenced_eq_map_filter, List.forall₂_map_right_iff]
    exact List.forall₂_same.mpr fun s _ => namesSymbol_violationAt rule.head s
  · rw [exists_namesSymbol_iff hs, exists_namesSymbol_iff ht]
    exact UnreferencedRule.accuses_congr path role
  · obtain ⟨inScope, free, unused⟩ := accuses_of_namesSymbol reported
    exact (exists_namesSymbol_iff hs).mpr ⟨inScope, free, unused.anti grown⟩

/-- A file with two symbols that only imports itself, beside one that it uses, one that is excused and
one out of scope. -/
theorem file_that_imports_itself_is_unused :
    let rule : Typed UnreferencedRule :=
      ⟨⟨"zombies", .info, none⟩, ⟨.one "DOMAIN", ["(", "x"]⟩⟩
    let one : Symbol := ⟨"a.ts", "one", "DOMAIN", ["b.ts", "a.ts"], .classDecl⟩
    let two : Symbol := ⟨"a.ts", "two", "DOMAIN", [], .constDecl⟩
    let main : Symbol := ⟨"main.ts", "m", "APP", ["gone.ts"], .wholeFile⟩
    let symbols : List Symbol := [one, ⟨"b.ts", "b", "DOMAIN", [], .wholeFile⟩,
      ⟨"index.ts", "i", "DOMAIN", [], .wholeFile⟩, two, main]
    let grown : List Symbol := [one, ⟨"b.ts", "b", "DOMAIN", ["index.ts"], .wholeFile⟩,
      ⟨"c.ts", "c", "DOMAIN", ["main.ts"], .wholeFile⟩, ⟨"index.ts", "i", "DOMAIN", [], .wholeFile⟩,
      two, main]
    let scene : Scene := ⟨symbols, ⟨fun _ => .error .notFound, fun _ => false⟩, []⟩
    (Check.unreferenced rule scene).map Violation.message =
      ["[zombies] class 'one' in 'a.ts' is never imported (possibly dead code)",
        "[zombies] const 'two' in 'a.ts' is never imported (possibly dead code)"] ∧
    (¬ ∃ v ∈ Check.unreferenced rule scene, v.NamesSymbol rule.head main) ∧
    List.SublistForall₂ Symbol.DependsMore symbols grown ∧
    (∃ v ∈ Check.unreferenced rule { scene with symbols := grown }, v.NamesSymbol rule.head two) ∧
    (∃ v ∈ Check.unreferenced rule scene, v.NamesSymbol rule.head two) ∧
    ∃ v ∈ Check.unreferenced rule scene, v.NamesSymbol rule.head one := by
  intro rule one two main symbols grown scene
  obtain ⟨-, named, together, before⟩ := unused_symbols_are_reported rule scene
  obtain ⟨-, namedLater, -, -⟩ := unused_symbols_are_reported rule { scene with symbols := grown }
  have more : List.SublistForall₂ Symbol.DependsMore symbols grown := by
    refine .cons ⟨rfl, List.Subset.refl _⟩ (.cons ⟨rfl, List.nil_subset _⟩ (.cons_right ?_))
    exact .cons ⟨rfl, List.Subset.refl _⟩ (.cons ⟨rfl, List.Subset.refl _⟩
      (.cons ⟨rfl, List.Subset.refl _⟩ .nil))
  have later : ∃ v ∈ Check.unreferenced rule { scene with symbols := grown },
      v.NamesSymbol rule.head two := (namedLater two (by decide)).mpr (by decide +kernel)
  have now := before grown more two (by decide) later
  refine ⟨by decide +kernel, fun reported => ?_, more, later, now, ?_⟩
  · exact absurd ((named main (by decide)).mp reported).1 (by decide)
  · exact (together two (by decide) one (by decide) rfl rfl).mp now

end ArchLint
