import ArchLint.Proofs.Distinct
import ArchLint.Proofs.SymbolTable
import Mathlib.Data.String.Basic

/-!
What a table of symbols has of each file. The files stand one after the other in the order of their
paths, whatever order they were found in (`symbolTable_perm`). A file that can be analyzed has a
symbol for each name that it exports, or else one for itself (`fileSymbols_eq`), and all of them
depend on the files that its imports mean, each listed where it is first imported
(`listsImports_importedFiles`).
-/

namespace ArchLint

open TypeScript (FileAnalysis Export Syntax resolve)
open ArchLint.Path (IsNormal)

/-- The symbols of a table that are declared in a file. -/
def symbolsOf (table : List Symbol) (path : String) : List Symbol :=
  table.filter fun s => s.path = path

/-- What the statements of a file import and export. -/
def TypeScript.FileAnalysis.ofNodes (nodes : List Syntax) : FileAnalysis :=
  { imports := Syntax.moduleNames nodes, exports := Syntax.fileExports nodes }

/-- The place of the first import in a file that means another file. -/
def importPlace (paths : List String) (path : String) (specifiers : List String) (d : String) : Nat :=
  specifiers.findIdx fun spec => resolve paths path spec = some d

/-- The list has every file that an import means, other than the importing file, once and in the
order of the first import that means it. -/
structure ListsImports (paths : List String) (path : String) (specifiers ds : List String) :
    Prop where
  nodup : ds.Nodup
  mem_iff : ∀ d, d ∈ ds ↔ d ≠ path ∧ ∃ spec ∈ specifiers, resolve paths path spec = some d
  ordered : ds.Pairwise fun d e =>
    importPlace paths path specifiers d < importPlace paths path specifiers e
  listed : ∀ d ∈ ds, d ∈ paths

/-- The names and kinds of what a file declares: its exports, the first of each name, or the file. -/
def declarations (path : String) (nodes : List Syntax) : List (String × SymbolKind) :=
  match nodes.flatMap Syntax.exports with
  | [] => [(stem path, .wholeFile)]
  | exports => (distinctBy Export.name exports).map fun e => (e.name, e.kind)

/-- The table says of every file that could be analyzed what it declares and imports, and nothing
else. -/
structure Declares (paths : List String) (syntax? : String → Option (List Syntax))
    (table : List Symbol) : Prop where
  /-- The symbols of a file stand together, and the files are in the order of their paths. -/
  grouped : ∃ files : List String, files.Perm paths ∧ files.Pairwise (· < ·) ∧
    table = files.flatMap (symbolsOf table)
  distinct : (table.map fun s => (s.path, s.name)).Nodup
  skipped : ∀ path, path ∉ paths ∨ syntax? path = none → symbolsOf table path = []
  declared : ∀ path ∈ paths, ∀ nodes, syntax? path = some nodes →
    (symbolsOf table path).map (fun s => (s.name, s.kind)) = declarations path nodes
  dependencies : ∀ path ∈ paths, ∀ nodes, syntax? path = some nodes →
    ∃ ds, ListsImports paths path (Syntax.moduleNames nodes) ds ∧
      ∀ s ∈ symbolsOf table path, s.dependencies = ds

/-! ### Lists of blocks -/

section

variable {α β : Type} [DecidableEq α] {f : α → List β} {key : β → α}

/-- Where each block bears the key of its own, a key picks its block. -/
theorem filter_flatMap_of_key : ∀ {xs : List α}, xs.Nodup → (∀ x ∈ xs, ∀ b ∈ f x, key b = x) →
    ∀ x ∈ xs, (xs.flatMap f).filter (fun b => key b = x) = f x
  | [], _, _, x, hx => absurd hx List.not_mem_nil
  | y :: ys, hn, hk, x, hx => by
    obtain ⟨fresh, hn⟩ := List.nodup_cons.mp hn
    have own : ∀ b ∈ f y, key b = y := hk y List.mem_cons_self
    have others : ∀ z ∈ ys, ∀ b ∈ f z, key b = z := fun z hz => hk z (List.mem_cons_of_mem y hz)
    rw [List.flatMap_cons, List.filter_append]
    rcases eq_or_ne x y with rfl | hne
    · have block : (f x).filter (fun b => key b = x) = f x :=
        List.filter_eq_self.mpr fun b hb => decide_eq_true (own b hb)
      have rest : (ys.flatMap f).filter (fun b => key b = x) = [] := by
        refine List.filter_eq_nil_iff.mpr fun b hb he => ?_
        obtain ⟨z, hz, hb⟩ := List.mem_flatMap.mp hb
        exact fresh ((of_decide_eq_true he : key b = x) ▸ others z hz b hb ▸ hz)
      rw [block, rest, List.append_nil]
    · have block : (f y).filter (fun b => key b = x) = [] :=
        List.filter_eq_nil_iff.mpr fun b hb he =>
          hne ((of_decide_eq_true he : key b = x) ▸ own b hb)
      rw [block, List.nil_append]
      exact filter_flatMap_of_key hn others x ((List.mem_cons.mp hx).resolve_left hne)

end

section

variable {α β : Type} [DecidableEq β] {f : α → Option β} {d e : β}

/-- What comes first among the images has the first preimage. -/
theorem findIdx_lt_of_idxOf_lt : ∀ {xs : List α},
    (xs.filterMap f).idxOf d < (xs.filterMap f).idxOf e →
      xs.findIdx (fun x => f x = some d) < xs.findIdx (fun x => f x = some e)
  | [], h => absurd h (Nat.lt_irrefl 0)
  | x :: xs, h => by
    rw [List.findIdx_cons, List.findIdx_cons]
    cases hx : f x with
    | none =>
      rw [List.filterMap_cons_none hx] at h
      simpa using findIdx_lt_of_idxOf_lt h
    | some b =>
      rw [List.filterMap_cons_some hx] at h
      rcases eq_or_ne b e with rfl | he
      · rw [List.idxOf_cons_self] at h
        exact absurd h (Nat.not_lt_zero _)
      · rcases eq_or_ne b d with rfl | hd
        · simp [he]
        · rw [List.idxOf_cons_ne _ hd, List.idxOf_cons_ne _ he] at h
          simpa [hd, he] using findIdx_lt_of_idxOf_lt (Nat.lt_of_succ_lt_succ h)

end

/-! ### The symbols of a file -/

/-- What an import means depends on which files there are, not on their order. -/
theorem resolve_congr {files files' : List String} (h : ∀ path, path ∈ files ↔ path ∈ files')
    (importer specifier : String) :
    resolve files importer specifier = resolve files' importer specifier := by
  simp only [resolve, h]

theorem ListsImports.congr {files files' : List String} (h : ∀ path, path ∈ files ↔ path ∈ files')
    {path : String} {specifiers ds : List String} (hl : ListsImports files path specifiers ds) :
    ListsImports files' path specifiers ds := by
  have same : resolve files = resolve files' := funext₂ fun p spec => resolve_congr h p spec
  exact ⟨hl.nodup, same ▸ hl.mem_iff, by simpa only [importPlace, same] using hl.ordered,
    fun d hd => (h d).mp (hl.listed d hd)⟩

theorem listsImports_importedFiles (files : List String) (path : String) (specifiers : List String) :
    ListsImports files path specifiers (distinct (importedFiles files path specifiers)) where
  nodup := nodup_distinct _
  mem_iff := fun d => by
    rw [mem_distinct, importedFiles, List.mem_filter, List.mem_filterMap, decide_eq_true_iff,
      and_comm]
  ordered := by
    have places : (distinct (specifiers.filterMap (resolve files path))).Pairwise fun d e =>
        importPlace files path specifiers d < importPlace files path specifiers e := by
      refine (pairwise_idxOf_distinct _).imp ?_
      exact findIdx_lt_of_idxOf_lt
    have sifted : distinct (importedFiles files path specifiers) =
        (distinct (specifiers.filterMap (resolve files path))).filter (· ≠ path) :=
      distinctBy_filter fun d _ e _ (same : d = e) => same ▸ rfl
    rw [sifted]
    exact places.filter _
  listed := fun _ hd => (mem_of_mem_importedFiles (mem_distinct.mp hd)).1

theorem nodup_names_declarations (path : String) (nodes : List Syntax) :
    ((declarations path nodes).map Prod.fst).Nodup := by
  unfold declarations
  split
  · exact List.nodup_singleton _
  · rw [List.map_map]
    exact nodup_keys_distinctBy _

section

variable {files : List String} (hn : ∀ path ∈ files, IsNormal path) {path : String}
  (hp : path ∈ files)
include hn hp

/-- The symbols of a file are its declarations, each with everything that the file imports. -/
theorem fileSymbols_eq (nodes : List Syntax) :
    fileSymbols files path (.ofNodes nodes) = (declarations path nodes).map fun d =>
      { path, name := d.1, kind := d.2
        dependencies := distinct (importedFiles files path (Syntax.moduleNames nodes)) } := by
  have normal : (importedFiles files path (Syntax.moduleNames nodes)).map Path.normalize =
      importedFiles files path (Syntax.moduleNames nodes) := by
    refine (List.map_congr_left fun d hd => ?_).trans (List.map_id _)
    exact hn d (mem_of_mem_importedFiles hd).1
  have symbol : ∀ (name : String) (kind : SymbolKind),
      (Symbol.declare path name kind).dependingOn
        (importedFiles files path (Syntax.moduleNames nodes)) =
      { path, name, kind
        dependencies := distinct (importedFiles files path (Syntax.moduleNames nodes)) } := by
    intro name kind
    rw [Symbol.dependingOn_eq, normal, Symbol.declare, hn path hp]
    rfl
  unfold fileSymbols declarations FileAnalysis.ofNodes Syntax.fileExports
  simp only [symbol]
  cases nodes.flatMap Syntax.exports with
  | nil => rfl
  | cons e es =>
    have first : distinctBy Export.name (e :: es) = e :: freshBy Export.name [e.name] es := rfl
    rw [first, List.map_map]
    rfl

end

/-! ### The order of the files -/

theorem pairwise_sortedPaths (paths : List String) : (sortedPaths paths).Pairwise (· ≤ ·) := by
  have sorted : (sortedPaths paths).Pairwise fun a b => decide (a ≤ b) = true :=
    List.pairwise_mergeSort
      (fun a b c hab hbc => by simpa using le_trans (of_decide_eq_true hab) (of_decide_eq_true hbc))
      (fun a b => by simpa using le_total a b) paths
  exact sorted.imp of_decide_eq_true

theorem sortedPaths_perm {paths paths' : List String} (h : paths.Perm paths') :
    sortedPaths paths = sortedPaths paths' := by
  have same : (sortedPaths paths).Perm (sortedPaths paths') :=
    (List.mergeSort_perm paths _).trans (h.trans (List.mergeSort_perm paths' _).symm)
  exact same.eq_of_pairwise (fun _ _ _ _ => le_antisymm) (pairwise_sortedPaths paths)
    (pairwise_sortedPaths paths')

theorem symbolTable_perm {paths paths' : List String} (h : paths.Perm paths')
    (analysis? : String → Option FileAnalysis) :
    symbolTable paths analysis? = symbolTable paths' analysis? := by
  rw [symbolTable, symbolTable, sortedPaths_perm h]

/-! ### The symbols of all files -/

section

variable {paths : List String} (hd : paths.Nodup) (hn : ∀ path ∈ paths, IsNormal path)

theorem symbolsOf_eq_nil {analysis? : String → Option FileAnalysis} {path : String}
    (hn : ∀ path ∈ paths, IsNormal path) (hp : path ∉ paths) :
    symbolsOf (symbolTable paths analysis?) path = [] := by
  refine List.filter_eq_nil_iff.mpr fun s hs he => hp ?_
  have declared := (exists_path_eq_iff hn).mp ⟨s, hs, rfl⟩
  exact (of_decide_eq_true he : s.path = path) ▸ declared.1

include hd hn

/-- The symbols of a file in the table are those that the file has by itself. -/
theorem symbolsOf_symbolTable (analysis? : String → Option FileAnalysis) {path : String}
    (hp : path ∈ paths) :
    symbolsOf (symbolTable paths analysis?) path =
      ((analysis? path).map (fileSymbols (sortedPaths paths) path)).getD [] := by
  have sorted : (sortedPaths paths).Perm paths := List.mergeSort_perm paths _
  refine filter_flatMap_of_key (sorted.nodup_iff.mpr hd) (fun p hp s hs => ?_) path
    (mem_sortedPaths.mpr hp)
  cases ha : analysis? p with
  | none =>
    rw [ha] at hs
    exact absurd hs List.not_mem_nil
  | some a =>
    rw [ha] at hs
    obtain ⟨name, kind, rfl⟩ := exists_declare_of_mem_fileSymbols hs
    rw [Symbol.path_dependingOn]
    exact hn p (mem_sortedPaths.mp hp)

theorem grouped_symbolTable (analysis? : String → Option FileAnalysis) :
    symbolTable paths analysis? =
      (sortedPaths paths).flatMap (symbolsOf (symbolTable paths analysis?)) := by
  refine List.flatMap_congr fun path hp => ?_
  exact (symbolsOf_symbolTable hd hn analysis? (mem_sortedPaths.mp hp)).symm

variable (syntax? : String → Option (List Syntax)) {path : String} (hp : path ∈ paths)
  {nodes : List Syntax} (hs : syntax? path = some nodes)

include hp hs in
theorem symbolsOf_eq_map_declarations :
    symbolsOf (symbolTable paths fun path => (syntax? path).map .ofNodes) path =
      (declarations path nodes).map fun d =>
        { path, name := d.1, kind := d.2
          dependencies :=
            distinct (importedFiles (sortedPaths paths) path (Syntax.moduleNames nodes)) } := by
  rw [symbolsOf_symbolTable hd hn _ hp, hs]
  exact fileSymbols_eq (fun p hp => hn p (mem_sortedPaths.mp hp)) (mem_sortedPaths.mpr hp) nodes

/-- Symbols of one file differ in their names. -/
theorem nodup_path_name_symbolTable :
    ((symbolTable paths fun path => (syntax? path).map .ofNodes).map
      fun s => (s.path, s.name)).Nodup := by
  have sorted : (sortedPaths paths).Nodup := (List.mergeSort_perm paths _).nodup_iff.mpr hd
  have pathOf : ∀ path, ∀ s ∈ symbolsOf (symbolTable paths fun p => (syntax? p).map .ofNodes) path,
      s.path = path := fun path s hs => of_decide_eq_true (List.mem_filter.mp hs).2
  rw [grouped_symbolTable hd hn, List.Nodup, List.pairwise_map, List.pairwise_flatMap]
  constructor
  · intro path hp
    have listed := mem_sortedPaths.mp hp
    cases hs : syntax? path with
    | none =>
      rw [symbolsOf_symbolTable hd hn _ listed, hs]
      exact List.Pairwise.nil
    | some nodes =>
      rw [symbolsOf_eq_map_declarations hd hn syntax? listed hs, List.pairwise_map]
      have names := List.pairwise_map.mp (nodup_names_declarations path nodes)
      exact names.imp fun differ same => differ (Prod.mk.inj same).2
  · refine sorted.imp fun {p q} differ s hs t ht same => differ ?_
    rw [← pathOf p s hs, ← pathOf q t ht]
    exact (Prod.mk.inj same).1

theorem declares_symbolTable :
    Declares paths syntax? (symbolTable paths fun path => (syntax? path).map .ofNodes) where
  grouped := by
    have sorted : (sortedPaths paths).Perm paths := List.mergeSort_perm paths _
    refine ⟨sortedPaths paths, sorted, ?_, grouped_symbolTable hd hn _⟩
    exact ((pairwise_sortedPaths paths).and (sorted.nodup_iff.mpr hd)).imp fun h =>
      lt_of_le_of_ne h.1 h.2
  distinct := nodup_path_name_symbolTable hd hn syntax?
  skipped := by
    intro path h
    by_cases hp : path ∈ paths
    · rw [symbolsOf_symbolTable hd hn _ hp, h.resolve_left (not_not_intro hp)]
      rfl
    · exact symbolsOf_eq_nil hn hp
  declared := by
    intro path hp nodes hs
    rw [symbolsOf_eq_map_declarations hd hn syntax? hp hs, List.map_map]
    exact List.map_id _
  dependencies := by
    intro path hp nodes hs
    refine ⟨_, ListsImports.congr (fun _ => mem_sortedPaths)
      (listsImports_importedFiles _ path (Syntax.moduleNames nodes)), ?_⟩
    rw [symbolsOf_eq_map_declarations hd hn syntax? hp hs]
    exact List.forall_mem_map.mpr fun _ _ => rfl

end

/-! ### The symbols of a project -/

namespace Project

/-- The statements of a file, if it can be read. -/
def syntax? (w : Workplace) (path : String) : Option (List Syntax) :=
  (w.view.text? path).map fun text =>
    TypeScript.parse ((Path.extension? path).any (· ∈ TypeScript.markupExtensions)) text.toList

theorem analysis?_eq (w : Workplace) :
    analysis? w = fun path => (syntax? w path).map FileAnalysis.ofNodes := by
  funext path
  rw [analysis?, syntax?, Option.map_map]
  rfl

end Project

/-- A table goes through the files in the order of their paths, in whatever order they were found.
It declares what each file exports and lists with all symbols of a file what the file imports. The
symbols of a project are the table of its source files. -/
theorem symbols_stand_by_file :
    (∀ (paths : List String) (syntax? : String → Option (List Syntax)), paths.Nodup →
      (∀ path ∈ paths, IsNormal path) →
      let analysis? := fun path => (syntax? path).map FileAnalysis.ofNodes
      Declares paths syntax? (symbolTable paths analysis?) ∧
      ∀ found : List String, found.Perm paths →
        symbolTable found analysis? = symbolTable paths analysis?) ∧
    ∀ (w : Workplace) (exclusions : List String) (symbols : List Symbol),
      Project.symbols? w exclusions = some symbols →
      ∃ paths, Project.sources? w exclusions = some paths ∧ (∀ path ∈ paths, IsNormal path) ∧
        (paths.Nodup → Declares paths (Project.syntax? w) symbols) := by
  constructor
  · intro paths syntax? hd hn analysis?
    exact ⟨declares_symbolTable hd hn syntax?, fun found hp => symbolTable_perm hp analysis?⟩
  · intro w exclusions symbols h
    rw [Project.symbols?_eq, Option.map_eq_some_iff] at h
    obtain ⟨paths, listed, rfl⟩ := h
    have normal := Project.isNormal_of_mem_sources? listed
    refine ⟨paths, listed, normal, fun hd => ?_⟩
    rw [Project.analysis?_eq]
    exact declares_symbolTable hd normal (Project.syntax? w)

/-- A file that imports twice what two others declare, one with a repeated export and one that is no
text. -/
theorem files_found_backwards_stand_by_path :
    let w : Workplace :=
      { top := .folder [
          ("a.ts", .file (.text "import './b'; import './c'; import './b.js'; import './a'")),
          ("b.ts", .file (.text "export function f(x); export function f(); export class B \x7b\x7d")),
          ("c.ts", .file (.binary [0xff, 0xfe]))] }
    let symbols : List Symbol := [⟨"a.ts", "a", unknownRole, ["b.ts", "c.ts"], .wholeFile⟩,
      ⟨"b.ts", "f", unknownRole, [], .functionDecl⟩, ⟨"b.ts", "B", unknownRole, [], .classDecl⟩]
    Project.symbols? w [] = some symbols ∧
    Declares ["a.ts", "b.ts", "c.ts"] (Project.syntax? w) symbols ∧
    symbolTable ["c.ts", "a.ts", "b.ts"] (fun path => (Project.syntax? w path).map .ofNodes) =
      symbols := by
  intro w symbols
  have listed : Project.sources? w [] = some ["a.ts", "b.ts", "c.ts"] := by decide +kernel
  have table : Project.symbols? w [] = some symbols := by
    rw [Project.symbols?_of_pairwise listed (by decide)]
    decide +kernel
  obtain ⟨ofPaths, ofProject⟩ := symbols_stand_by_file
  obtain ⟨paths, hp, normal, declares⟩ := ofProject w [] symbols table
  cases listed.symm.trans hp
  refine ⟨table, declares (by decide), ?_⟩
  rw [(ofPaths _ (Project.syntax? w) (by decide) normal).2 _ (by decide)]
  rw [Project.symbols?_eq, listed, Project.analysis?_eq] at table
  exact Option.some.inj table

end ArchLint
