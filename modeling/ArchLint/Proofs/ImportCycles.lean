import ArchLint.Proofs.Finding
import ArchLint.Proofs.NotedCycles
import Mathlib.Data.List.Forall2

/-!
Cycles as they are reported. The nodes of a cycle are files of the scope, so none of them is lost on
the way from places to files (`map_node?_eq`), and every cycle that is found is reported, at its first
file (`forall₂_circular`). In the graph of a project the files of a cycle have different paths, and
each imports the next (`isImportCycle`). No cycle is reported twice, for the entry of a later one lies
off the earlier ones; but a file may be reported twice, where the later cycle leads into the entry of
the earlier.
-/

namespace ArchLint

open CycleSearch

/-- Paths of files in scope, no two of them the same, each of which imports the next, and the last the
first. -/
structure IsImportCycle (scope : RoleSelector) (symbols : List Symbol) (paths : List String) :
    Prop where
  ne_nil : paths ≠ []
  nodup : paths.Nodup
  inScope : ∀ path ∈ paths, ∃ s ∈ firstPerFile symbols, s.path = path ∧ scope.selects s.role = true
  chain : (paths ++ paths.take 1).IsChain fun a b => ∃ s ∈ symbols, s.path = a ∧ b ∈ s.dependencies

/-- The violation stands at the first of some paths and gives them in order, back to the first. -/
structure Violation.NamesCycle (v : Violation) (head : RuleHead) (entry : String)
    (rest : List String) : Prop where
  ruleName : v.ruleName = head.name
  severity : v.severity = head.severity
  file : v.file = entry
  dependency : v.dependency = some (" -> ".intercalate (entry :: rest ++ [entry]))
  message : v.message =
    head.message ("circular dependency: " ++ " -> ".intercalate (entry :: rest ++ [entry]))

/-! ### Files of a cycle -/

section

variable {scope : RoleSelector} {g : FileGraph} {c : List Nat}

theorem inScope_eq_true_iff {i : Nat} :
    (Check.cycleProblem scope g).inScope i = true ↔
      ∃ n, g.node? i = some n ∧ scope.selects n.role = true := by
  simp [Check.cycleProblem, Option.any_eq_true]

theorem countP_range_any {α : Type} (q : α → Bool) (xs : List α) :
    (List.range xs.length).countP (fun i => xs[i]?.any q) = xs.countP q := by
  induction xs with
  | nil => rfl
  | cons x xs ih =>
    rw [List.length_cons, List.range_succ_eq_map, List.countP_cons, List.countP_map, List.countP_cons,
      ← ih]
    simp [Function.comp_def]

theorem length_findCycles_cycleProblem_le (scope : RoleSelector) (g : FileGraph) :
    (findCycles (Check.cycleProblem scope g)).length ≤
      g.nodes.countP fun n => scope.selects n.role := by
  rw [← countP_range_any]
  refine length_findCycles_le fun i hi => ?_
  obtain ⟨n, hn, -⟩ := inScope_eq_true_iff.mp hi
  exact (List.getElem?_eq_some_iff.mp hn).1

/-- All nodes of a cycle are files. -/
theorem map_node?_eq (h : (Check.cycleProblem scope g).IsCycle c) :
    c.map g.node? = (c.filterMap g.node?).map some := by
  have files := h.inScope
  clear h
  induction c with
  | nil => rfl
  | cons i c ih =>
    obtain ⟨here, later⟩ := List.forall_mem_cons.mp files
    obtain ⟨n, hn, -⟩ := inScope_eq_true_iff.mp here
    rw [List.map_cons, List.filterMap_cons_some hn, List.map_cons, ih later, hn]

theorem mem_targets_of_mem_edges {i j : Nat} {a b : FileNode}
    (edge : j ∈ (Check.cycleProblem scope g).edges i) (ha : g.node? i = some a)
    (hb : g.node? j = some b) : b ∈ g.targets a := by
  have edges : (Check.cycleProblem scope g).edges i = a.edges := by
    have found : g.nodes[i]? = some a := ha
    simp [Problem.edges, Check.cycleProblem, FileGraph.successors, Array.getD_eq_getD_getElem?, found]
  exact List.mem_filterMap.mpr ⟨j, edges ▸ edge, hb⟩

/-- Along a cycle each file depends on the next. -/
theorem isChain_targets (h : (Check.cycleProblem scope g).IsCycle c) {files : List FileNode}
    (hf : c.map g.node? = files.map some) :
    (files ++ files.take 1).IsChain fun a b => b ∈ g.targets a := by
  have places : ((c ++ c.take 1).map g.node?).IsChain fun x y =>
      ∀ a ∈ x, ∀ b ∈ y, b ∈ g.targets a :=
    (List.isChain_map _).mpr (h.chain.imp fun _ _ edge _ ha _ hb =>
      mem_targets_of_mem_edges edge ha hb)
  rw [List.map_append, List.map_take, hf, ← List.map_take, ← List.map_append,
    List.isChain_map] at places
  exact places.imp fun a b targets => targets a rfl b rfl

theorem forall₂_filterMap {α β : Type} {f : α → Option β} {R : α → β → Prop} {xs : List α}
    (h : ∀ x ∈ xs, ∃ y, f x = some y ∧ R x y) : List.Forall₂ R xs (xs.filterMap f) := by
  induction xs with
  | nil => exact .nil
  | cons x xs ih =>
    obtain ⟨⟨y, hy, related⟩, later⟩ := List.forall_mem_cons.mp h
    rw [List.filterMap_cons_some hy]
    exact .cons related (ih later)

/-- A cycle is reported at its first file, with the files in its order. -/
theorem exists_cycleViolation? (h : (Check.cycleProblem scope g).IsCycle c) (head : RuleHead) :
    ∃ v, Check.cycleViolation? head (c.filterMap g.node?) = some v ∧
      ∃ entry rest, c.map g.node? = (entry :: rest).map some ∧
        v.NamesCycle head entry.path (rest.map FileNode.path) := by
  have files := map_node?_eq h
  cases hc : c.filterMap g.node? with
  | nil =>
    rw [hc] at files
    exact absurd (List.map_eq_nil_iff.mp files) h.ne_nil
  | cons entry rest =>
    have text : Check.cycleText (entry :: rest) entry =
        " -> ".intercalate (entry.path :: rest.map FileNode.path ++ [entry.path]) := by
      simp [Check.cycleText]
    refine ⟨_, rfl, entry, rest, hc ▸ files, rfl, rfl, rfl, ?_, ?_⟩
    · rw [← text]
    · rw [← text]
      rfl

/-- Every cycle that is found is reported. -/
theorem forall₂_circular (scope : RoleSelector) (g : FileGraph) (head : RuleHead) :
    List.Forall₂ (fun c v => ∃ entry rest, c.map g.node? = (entry :: rest).map some ∧
        v.NamesCycle head entry.path (rest.map FileNode.path))
      (findCycles (Check.cycleProblem scope g)) (Check.circular ⟨head, scope⟩ g) :=
  forall₂_filterMap fun _ hc => exists_cycleViolation? (isCycle_of_mem_findCycles hc) head

/-! ### Imports -/

theorem exists_import_of_mem_targets {symbols : List Symbol} {a b : FileNode}
    (ha : a ∈ (FileGraph.ofSymbols symbols).nodes)
    (hb : b ∈ (FileGraph.ofSymbols symbols).targets a) :
    ∃ s ∈ symbols, s.path = a.path ∧ b.path ∈ s.dependencies := by
  have mentioned := (List.mem_filter.mp ((targets_perm ha).mem_iff.mp hb)).2
  exact mem_mentions.mp (of_decide_eq_true mentioned)

theorem exists_first_of_mem_nodes {symbols : List Symbol} {n : FileNode}
    (hn : n ∈ (FileGraph.ofSymbols symbols).nodes) :
    ∃ s ∈ firstPerFile symbols, s.path = n.path ∧ s.role = n.role := by
  obtain ⟨s, hs, rfl⟩ := List.mem_map.mp hn
  exact ⟨s, hs, rfl, rfl⟩

/-- The files of a cycle are in the graph and in scope. -/
theorem mem_nodes_of_mem_cycle (h : (Check.cycleProblem scope g).IsCycle c) {files : List FileNode}
    (hf : c.map g.node? = files.map some) {n : FileNode} (hn : n ∈ files) :
    n ∈ g.nodes ∧ scope.selects n.role = true := by
  have place : some n ∈ c.map g.node? := hf ▸ List.mem_map_of_mem hn
  obtain ⟨i, hi, found⟩ := List.mem_map.mp place
  obtain ⟨m, hm, selected⟩ := inScope_eq_true_iff.mp (h.inScope i hi)
  obtain rfl := Option.some.inj (hm.symm.trans found)
  exact ⟨mem_nodes_of_node? hm, selected⟩

theorem nodup_files (h : (Check.cycleProblem scope g).IsCycle c) (nodup : g.nodes.Nodup)
    {files : List FileNode} (hf : c.map g.node? = files.map some) : files.Nodup := by
  have places : (c.map g.node?).Nodup := by
    refine h.nodup.map_on fun i hi j _ same => ?_
    obtain ⟨n, hn, -⟩ := inScope_eq_true_iff.mp (h.inScope i hi)
    obtain ⟨inside, -⟩ := List.getElem?_eq_some_iff.mp hn
    exact (List.getElem?_inj inside nodup).mp same
  exact (hf ▸ places).of_map some

/-- The paths of a cycle in the graph of a project. -/
theorem isImportCycle {symbols : List Symbol}
    (h : (Check.cycleProblem scope (.ofSymbols symbols)).IsCycle c) {files : List FileNode}
    (hf : c.map (FileGraph.ofSymbols symbols).node? = files.map some) :
    IsImportCycle scope symbols (files.map FileNode.path) where
  ne_nil none := by
    rw [List.map_eq_nil_iff.mp none] at hf
    exact h.ne_nil (List.map_eq_nil_iff.mp hf)
  nodup := by
    have paths := nodup_paths_nodes symbols
    refine (nodup_files h paths.of_map hf).map_on fun a ha b hb same => ?_
    exact List.inj_on_of_nodup_map paths (mem_nodes_of_mem_cycle h hf ha).1
      (mem_nodes_of_mem_cycle h hf hb).1 same
  inScope path hpath := by
    obtain ⟨n, hn, rfl⟩ := List.mem_map.mp hpath
    obtain ⟨inGraph, selected⟩ := mem_nodes_of_mem_cycle h hf hn
    obtain ⟨s, hs, same, role⟩ := exists_first_of_mem_nodes inGraph
    exact ⟨s, hs, same, role ▸ selected⟩
  chain := by
    rw [← List.map_take, ← List.map_append, List.isChain_map]
    refine (isChain_targets h hf).imp_of_mem_imp fun a b ha _ targets => ?_
    have inFiles : a ∈ files := (List.mem_append.mp ha).elim id List.mem_of_mem_take
    exact exists_import_of_mem_targets (mem_nodes_of_mem_cycle h hf inFiles).1 targets

/-- What is reported of the graph of a project is a cycle of imports. -/
theorem exists_isImportCycle {symbols : List Symbol} {head : RuleHead} {v : Violation}
    (hv : v ∈ Check.circular ⟨head, scope⟩ (.ofSymbols symbols)) :
    ∃ entry rest, IsImportCycle scope symbols (entry :: rest) ∧ v.NamesCycle head entry rest := by
  obtain ⟨c, hc, found⟩ := List.mem_filterMap.mp hv
  have cycle := isCycle_of_mem_findCycles hc
  obtain ⟨w, reported, entry, rest, files, names⟩ := exists_cycleViolation? cycle head
  obtain rfl := Option.some.inj (reported.symm.trans found)
  exact ⟨entry.path, rest.map FileNode.path, isImportCycle cycle files, names⟩

end

/-- In every graph of files, what is found are cycles in scope with different entries, at most one for
each file in scope, and each of them is reported. In the graph of a project every report names a cycle
of imports, at its first file. -/
theorem reported_cycles_are_import_cycles (scope : RoleSelector) :
    (∀ g : FileGraph,
      (∀ c ∈ findCycles (Check.cycleProblem scope g), (Check.cycleProblem scope g).IsCycle c) ∧
      ((findCycles (Check.cycleProblem scope g)).Pairwise fun earlier later =>
        (∀ n ∈ later.head?, n ∉ earlier) ∧ ¬ earlier.IsRotated later) ∧
      (findCycles (Check.cycleProblem scope g)).length ≤
        g.nodes.countP (fun n => scope.selects n.role) ∧
      ∀ head, List.Forall₂ (fun c v => ∃ entry rest, c.map g.node? = (entry :: rest).map some ∧
          v.NamesCycle head entry.path (rest.map FileNode.path))
        (findCycles (Check.cycleProblem scope g)) (Check.circular ⟨head, scope⟩ g)) ∧
    ∀ (head : RuleHead) (symbols : List Symbol),
      ∀ v ∈ Check.circular ⟨head, scope⟩ (.ofSymbols symbols),
        ∃ entry rest, IsImportCycle scope symbols (entry :: rest) ∧ v.NamesCycle head entry rest :=
  ⟨fun g => ⟨fun _ hc => isCycle_of_mem_findCycles hc, pairwise_findCycles _,
      length_findCycles_cycleProblem_le scope g, forall₂_circular scope g⟩,
    fun _ _ _ hv => exists_isImportCycle hv⟩

/-- A file that imports itself lies on a longer cycle, and another that is out of scope would close a
third. -/
theorem import_of_itself_is_import_cycle :
    let scope : RoleSelector := .one "CORE"
    let head : RuleHead := ⟨"acyclic", .error, some "ADR 7"⟩
    let symbols : List Symbol := [⟨"a.ts", "a", "CORE", ["b.ts"], .wholeFile⟩,
      ⟨"b.ts", "b", "CORE", ["ui.ts", "c.ts"], .classDecl⟩, ⟨"ui.ts", "v", "UI", ["a.ts"], .wholeFile⟩,
      ⟨"c.ts", "f", "CORE", ["c.ts"], .functionDecl⟩, ⟨"c.ts", "g", "UI", ["a.ts"], .functionDecl⟩]
    let g : FileGraph := .ofSymbols symbols
    let p := Check.cycleProblem scope g
    let cycle : Violation :=
      { ruleName := "acyclic"
        severity := .error
        file := "a.ts"
        message := "[acyclic] circular dependency: a.ts -> b.ts -> c.ts -> a.ts (ADR 7)"
        sourceRole := some "CORE"
        dependency := some "a.ts -> b.ts -> c.ts -> a.ts" }
    findCycles p = [[3], [0, 1, 3]] ∧ [3] ∈ findCycles p ∧ p.IsCycle [3] ∧
      (findCycles p).length ≤ g.nodes.countP (fun n => scope.selects n.role) ∧
      cycle ∈ Check.circular ⟨head, scope⟩ g ∧
      ∃ entry rest, IsImportCycle scope symbols (entry :: rest) ∧ cycle.NamesCycle head entry rest := by
  intro scope head symbols g p cycle
  have found : findCycles p = [[3], [0, 1, 3]] := by decide +kernel
  have itself : [3] ∈ findCycles p := found ▸ List.mem_cons_self
  have reported : cycle ∈ Check.circular ⟨head, scope⟩ g := by decide +kernel
  obtain ⟨cycles, -, few, -⟩ := (reported_cycles_are_import_cycles scope).1 g
  exact ⟨found, itself, cycles [3] itself, few, reported,
    (reported_cycles_are_import_cycles scope).2 head symbols cycle reported⟩

/-! ### Cycles with files in common -/

/-- The nodes of a cycle are done as soon as it is noted, but they stay on the path. A later cycle has
nothing in common with it, or an initial part of it, which it runs through from the entry on. -/
theorem cycles_share_only_the_start_of_the_earlier (scope : RoleSelector) (g : FileGraph) :
    (∀ s, Reached (Check.cycleProblem scope g) s →
      ∀ c ∈ s.cycles, ∀ n ∈ c, colorOf s n = .done) ∧
    ((findCycles (Check.cycleProblem scope g)).Pairwise fun earlier later =>
      (∀ n ∈ earlier, n ∉ later) ∨ Encloses later earlier) ∧
    ∀ c ∈ findCycles (Check.cycleProblem scope g), ∀ d ∈ findCycles (Check.cycleProblem scope g),
      c ≠ d → EntriesApart c d → ∀ n ∈ c, n ∉ d :=
  ⟨fun _ hs => hs.noted.done, (noted_search _).apart,
    fun _ hc _ hd => disjoint_of_entriesApart _ hc hd⟩

/-- A file leads into two that import each other, and the second of them leads back to it. A fourth
file imports itself. -/
def leadIn : FileGraph :=
  ⟨[⟨"a.ts", unknownRole, [1]⟩, ⟨"b.ts", unknownRole, [2]⟩, ⟨"c.ts", unknownRole, [1, 0]⟩,
    ⟨"d.ts", unknownRole, [3]⟩]⟩

theorem leadIn_cycles_share_the_start :
    let p := Check.cycleProblem .all leadIn
    findCycles p = [[1, 2], [0, 1, 2], [3]] ∧ Encloses [0, 1, 2] [1, 2] ∧
      colorOf (search p) 1 = .done ∧ EntriesApart [0, 1, 2] [3] ∧ ∀ n ∈ [0, 1, 2], n ∉ [3] := by
  intro p
  have found : findCycles p = [[1, 2], [0, 1, 2], [3]] := by decide +kernel
  obtain ⟨done, shared, apart⟩ := cycles_share_only_the_start_of_the_earlier .all leadIn
  have first : [1, 2] ∈ findCycles p := found ▸ List.mem_cons_self
  have encloses : Encloses [0, 1, 2] [1, 2] := by
    have pairs : [[1, 2], [0, 1, 2], [3]].Pairwise fun earlier later =>
      (∀ n ∈ earlier, n ∉ later) ∨ Encloses later earlier := found ▸ shared
    have either := (List.pairwise_cons.mp pairs).1 [0, 1, 2] List.mem_cons_self
    exact either.resolve_left (by decide)
  have entries : EntriesApart [0, 1, 2] [3] := by decide
  exact ⟨found, encloses, done _ (reached_search p) [1, 2] first 1 List.mem_cons_self, entries,
    apart [0, 1, 2] (found ▸ by decide) [3] (found ▸ by decide) (by decide) entries⟩

/-- Files of a cycle that was noted can be noted again in a later one. -/
theorem inner_cycle_is_reported_again :
    ¬ ∀ (scope : RoleSelector) (g : FileGraph), ∀ c ∈ findCycles (Check.cycleProblem scope g),
      ∀ d ∈ findCycles (Check.cycleProblem scope g), c ≠ d → ∀ n ∈ c, n ∉ d := by
  intro apart
  have found : findCycles (Check.cycleProblem .all leadIn) = [[1, 2], [0, 1, 2], [3]] := by
    decide +kernel
  exact apart .all leadIn [1, 2] (found ▸ by decide) [0, 1, 2] (found ▸ by decide) (by decide) 1
    (by decide) (by decide)

end ArchLint
