import ArchLint.Project
import ArchLint.Proofs.Dependencies
import Mathlib.Data.List.Basic

/-!
What the symbols of a project depend on. The source files of a project are listed by paths in normal
form (`isNormal_of_mem_sourcesAt?`), a symbol stands for each of them that can be read
(`exists_path_eq_iff`), and dependencies are among them, readable or not (`mem_of_mem_dependencies`).
So a symbol may depend on a file that no symbol stands for, but only if that file cannot be read.
-/

namespace ArchLint

open TypeScript (FileAnalysis Export)

/-- Every file that a symbol depends on has a symbol. -/
def IsClosed (symbols : List Symbol) : Prop :=
  ∀ s ∈ symbols, ∀ d ∈ s.dependencies, ∃ t ∈ symbols, t.path = d

open ArchLint.Path (IsNormal isNormal_normalize)

theorem mem_sourcesAmong_cons {f : SourceFilter} {scopes : List IgnoreScope} {trail : List String}
    {name : String} {e : Entry} {es : List (String × Entry)} {path : String}
    (h : path ∈ f.sourcesAmong scopes trail ((name, e) :: es)) :
    path ∈ f.sourcesIn scopes (trail ++ [name]) e ∨ path ∈ f.sourcesAmong scopes trail es := by
  -- files and folders are taken in the same way
  cases e
  all_goals
    rw [SourceFilter.sourcesAmong] at h
    refine (List.mem_append.mp h).imp_left fun h => ?_
    split at h
    · exact absurd h List.not_mem_nil
    · exact h

mutual

theorem isNormal_of_mem_sourcesIn (f : SourceFilter) (scopes : List IgnoreScope)
    (trail : List String) : ∀ e : Entry, ∀ path ∈ f.sourcesIn scopes trail e, IsNormal path
  | .file _, path, h => by
    rw [SourceFilter.sourcesIn] at h
    split at h
    · rw [List.mem_singleton.mp h]
      exact isNormal_normalize _
    · exact absurd h List.not_mem_nil
  | .folder es, path, h => by
    rw [SourceFilter.sourcesIn] at h
    exact isNormal_of_mem_sourcesAmong f _ trail es path h

theorem isNormal_of_mem_sourcesAmong (f : SourceFilter) (scopes : List IgnoreScope)
    (trail : List String) :
    ∀ es : List (String × Entry), ∀ path ∈ f.sourcesAmong scopes trail es, IsNormal path
  | [], path, h => absurd h (by simp [SourceFilter.sourcesAmong])
  | (name, e) :: es, path, h =>
    (mem_sourcesAmong_cons h).elim (isNormal_of_mem_sourcesIn f scopes _ e path)
      (isNormal_of_mem_sourcesAmong f scopes trail es path)

end

/-- The source files of a project are listed by normal paths. -/
theorem isNormal_of_mem_sourcesAt? {top : Entry} {links : List (List String)} {spot : Spot}
    {exclusions paths : List String} (h : sourcesAt? top links spot exclusions = some paths) : ∀ path ∈ paths, IsNormal path := by
  cases spot with
  | outside => exact nomatch h
  | inside root =>
    simp only [sourcesAt?, Option.bind_eq_bind, Option.bind_eq_some_iff] at h
    obtain ⟨patterns, -, e, -, h⟩ := h
    cases e with
    | file content =>
      cases h
      exact List.forall_mem_nil _
    | folder es =>
      dsimp only at h
      split at h
      · exact nomatch h
      · cases h
        exact isNormal_of_mem_sourcesIn _ _ _ _

/-! ### Symbols of a file -/

theorem mem_of_resolve {files : List String} {importer specifier path : String}
    (h : TypeScript.resolve files importer specifier = some path) : path ∈ files := by
  unfold TypeScript.resolve at h
  split at h
  · obtain ⟨joined, -, h⟩ := Option.bind_eq_some_iff.mp h
    simpa using List.find?_some h
  · exact nomatch h

theorem mem_of_mem_importedFiles {files imports : List String} {path d : String}
    (h : d ∈ importedFiles files path imports) : d ∈ files ∧ d ≠ path := by
  obtain ⟨resolved, other⟩ := List.mem_filter.mp h
  obtain ⟨specifier, -, resolved⟩ := List.mem_filterMap.mp resolved
  exact ⟨mem_of_resolve resolved, of_decide_eq_true other⟩

/-- The symbols of a file are declared in it and depend on other files. -/
theorem exists_declare_of_mem_fileSymbols {files : List String} {path : String} {a : FileAnalysis}
    {s : Symbol} (hs : s ∈ fileSymbols files path a) :
    ∃ name kind, s = (Symbol.declare path name kind).dependingOn
      (importedFiles files path a.imports) := by
  unfold fileSymbols at hs
  dsimp only at hs
  split at hs
  · exact ⟨_, _, List.mem_singleton.mp hs⟩
  · obtain ⟨e, -, rfl⟩ := List.mem_map.mp hs
    exact ⟨e.name, e.kind, rfl⟩

theorem fileSymbols_ne_nil (files : List String) (path : String) (a : FileAnalysis) :
    fileSymbols files path a ≠ [] := by
  unfold fileSymbols
  dsimp only
  split
  · exact List.cons_ne_nil _ _
  · rename_i h
    exact fun he => h (List.map_eq_nil_iff.mp he)

/-! ### The symbols of all files -/

section

variable {paths : List String} {analysis? : String → Option FileAnalysis}

theorem mem_sortedPaths {path : String} : path ∈ sortedPaths paths ↔ path ∈ paths :=
  (List.mergeSort_perm paths _).mem_iff

theorem mem_symbolTable {s : Symbol} :
    s ∈ symbolTable paths analysis? ↔
      ∃ path ∈ paths, ∃ a, analysis? path = some a ∧ s ∈ fileSymbols (sortedPaths paths) path a := by
  rw [symbolTable, List.mem_flatMap]
  refine exists_congr fun path => and_congr mem_sortedPaths ?_
  cases analysis? path <;> simp

/-- A symbol stands for each file that can be analyzed, and for no other. -/
theorem exists_path_eq_iff (hn : ∀ path ∈ paths, IsNormal path) {path : String} :
    (∃ s ∈ symbolTable paths analysis?, s.path = path) ↔
      path ∈ paths ∧ (analysis? path).isSome := by
  constructor
  · rintro ⟨s, hs, rfl⟩
    obtain ⟨path, hp, a, ha, hs⟩ := mem_symbolTable.mp hs
    obtain ⟨name, kind, rfl⟩ := exists_declare_of_mem_fileSymbols hs
    have own : (Symbol.declare path name kind).path = path := hn path hp
    rw [Symbol.path_dependingOn, own, ha]
    exact ⟨hp, rfl⟩
  · rintro ⟨hp, ha⟩
    obtain ⟨a, ha⟩ := Option.isSome_iff_exists.mp ha
    obtain ⟨s, hs⟩ := List.exists_mem_of_ne_nil _ (fileSymbols_ne_nil (sortedPaths paths) path a)
    refine ⟨s, mem_symbolTable.mpr ⟨path, hp, a, ha, hs⟩, ?_⟩
    obtain ⟨name, kind, rfl⟩ := exists_declare_of_mem_fileSymbols hs
    rw [Symbol.path_dependingOn]
    exact hn path hp

/-- Symbols depend on listed files, whether these can be analyzed or not. -/
theorem mem_of_mem_dependencies (hn : ∀ path ∈ paths, IsNormal path) {s : Symbol}
    (hs : s ∈ symbolTable paths analysis?) {d : String} (hd : d ∈ s.dependencies) :
    d ∈ paths ∧ d ≠ s.path := by
  obtain ⟨path, hp, a, -, hs⟩ := mem_symbolTable.mp hs
  obtain ⟨name, kind, rfl⟩ := exists_declare_of_mem_fileSymbols hs
  have lists := (listsMentions_declare path name kind).dependingOn
    (importedFiles (sortedPaths paths) path a.imports)
  obtain ⟨q, hq, rfl⟩ := (lists.mem_iff d).mp hd
  obtain ⟨listed, other⟩ := mem_of_mem_importedFiles hq
  rw [mem_sortedPaths] at listed
  have own : (Symbol.declare path name kind).path = path := hn path hp
  rw [Symbol.path_dependingOn, own, hn q listed]
  exact ⟨listed, other⟩

end

/-! ### The symbols of a project -/

namespace Project

/-- The source files of the project, unless they cannot be listed. -/
def sources? (w : Workplace) (exclusions : List String) : Option (List String) :=
  w.folder.toOption.bind fun spot => sourcesAt? w.top w.links spot exclusions

/-- What the text of a file declares and imports, if it can be read. -/
def analysis? (w : Workplace) (path : String) : Option FileAnalysis :=
  (w.view.text? path).map (TypeScript.analyze path)

theorem symbols?_eq (w : Workplace) (exclusions : List String) :
    symbols? w exclusions =
      (sources? w exclusions).map fun paths => symbolTable paths (analysis? w) := by
  rw [sources?, Option.map_bind]
  exact Option.bind_congr fun spot _ => (Option.map_eq_bind ..).symm

theorem symbols?_of_pairwise {w : Workplace} {exclusions paths : List String}
    (h : sources? w exclusions = some paths) (hp : paths.Pairwise (· ≤ ·)) :
    symbols? w exclusions =
      some (paths.flatMap fun path => ((analysis? w path).map (fileSymbols paths path)).getD []) := by
  have sorted : sortedPaths paths = paths := List.mergeSort_of_pairwise (by simpa using hp)
  rw [symbols?_eq, h, Option.map_some, symbolTable, sorted]

theorem isNormal_of_mem_sources? {w : Workplace} {exclusions paths : List String}
    (h : sources? w exclusions = some paths) : ∀ path ∈ paths, IsNormal path := by
  obtain ⟨spot, -, h⟩ := Option.bind_eq_some_iff.mp h
  exact isNormal_of_mem_sourcesAt? h

end Project

/-- The symbols of a project stand for its source files as far as these can be read, but what they
depend on are all of its source files. So every dependency has a symbol just when none is a file
that cannot be read, as when all source files can be. -/
theorem dependencies_are_sources {w : Workplace} {exclusions : List String} {symbols : List Symbol}
    (h : Project.symbols? w exclusions = some symbols) :
    ∃ sources, Project.sources? w exclusions = some sources ∧
      (∀ path, (∃ s ∈ symbols, s.path = path) ↔
        path ∈ sources ∧ (w.view.text? path).isSome) ∧
      (∀ s ∈ symbols, ∀ d ∈ s.dependencies, d ∈ sources ∧ d ≠ s.path) ∧
      (IsClosed symbols ↔ ∀ s ∈ symbols, ∀ d ∈ s.dependencies, (w.view.text? d).isSome) ∧
      ((∀ path ∈ sources, (w.view.text? path).isSome) → IsClosed symbols) := by
  rw [Project.symbols?_eq, Option.map_eq_some_iff] at h
  obtain ⟨sources, listed, rfl⟩ := h
  have normal := Project.isNormal_of_mem_sources? listed
  have paths : ∀ path, (∃ s ∈ symbolTable sources (Project.analysis? w), s.path = path) ↔
      path ∈ sources ∧ (w.view.text? path).isSome := by
    intro path
    rw [exists_path_eq_iff normal, Project.analysis?, Option.isSome_map]
  have among : ∀ s ∈ symbolTable sources (Project.analysis? w), ∀ d ∈ s.dependencies,
      d ∈ sources ∧ d ≠ s.path := fun s hs d hd => mem_of_mem_dependencies normal hs hd
  have closed : IsClosed (symbolTable sources (Project.analysis? w)) ↔
      ∀ s ∈ symbolTable sources (Project.analysis? w), ∀ d ∈ s.dependencies,
        (w.view.text? d).isSome := by
    refine forall₂_congr fun s hs => forall₂_congr fun d hd => ?_
    rw [paths, and_iff_right (among s hs d hd).1]
  exact ⟨sources, listed, paths, among, closed, fun readable =>
    closed.mpr fun s hs d hd => readable d (among s hs d hd).1⟩

/-- Two files that can be read: the one that is imported has a symbol. -/
theorem imported_file_has_symbol :
    let w : Workplace :=
      { top := .folder [("a.ts", .file (.text "import './b'")),
          ("b.ts", .file (.text "export class B \x7b\x7d"))] }
    let symbols : List Symbol := [⟨"a.ts", "a", unknownRole, ["b.ts"], .wholeFile⟩,
      ⟨"b.ts", "B", unknownRole, [], .classDecl⟩]
    Project.symbols? w [] = some symbols ∧ IsClosed symbols := by
  intro w symbols
  have listed : Project.sources? w [] = some ["a.ts", "b.ts"] := by decide +kernel
  have table : Project.symbols? w [] = some symbols := by
    rw [Project.symbols?_of_pairwise listed (by decide)]
    decide +kernel
  obtain ⟨sources, hs, -, -, -, closed⟩ := dependencies_are_sources table
  cases listed.symm.trans hs
  exact ⟨table, closed (by decide +kernel)⟩

/-- The imported file is no text: it has no symbol, and is a dependency all the same. -/
theorem unreadable_file_is_dependency :
    let w : Workplace :=
      { top := .folder [("a.ts", .file (.text "import './b'")),
          ("b.ts", .file (.binary [0xff, 0xfe]))] }
    let symbols : List Symbol := [⟨"a.ts", "a", unknownRole, ["b.ts"], .wholeFile⟩]
    Project.symbols? w [] = some symbols ∧ ¬ IsClosed symbols := by
  intro w symbols
  have listed : Project.sources? w [] = some ["a.ts", "b.ts"] := by decide +kernel
  have table : Project.symbols? w [] = some symbols := by
    rw [Project.symbols?_of_pairwise listed (by decide)]
    decide +kernel
  refine ⟨table, fun closed => ?_⟩
  have missing : ¬ ∃ t ∈ symbols, t.path = "b.ts" := by decide
  exact missing (closed _ List.mem_cons_self "b.ts" List.mem_cons_self)

end ArchLint
