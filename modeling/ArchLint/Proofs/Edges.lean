import ArchLint.Check.Dependency
import ArchLint.Proofs.Distinct
import Mathlib.Data.List.Basic

/-!
The graph of files by its edges. Each file is one node, and its edges lead to the files that its
symbols mention, each once (`targets_perm`). The places in the list of nodes are only a way to write
this down: without them a graph is its files and which of them mentions which (`map_bare_nodes`,
`map_bare_edges_perm`), and the checks for forbidden and required dependencies see no more of it.
-/

namespace ArchLint

/-- The dependencies between files, source first, in the order of the nodes. -/
def FileGraph.edges (g : FileGraph) : List (FileNode × FileNode) :=
  g.nodes.flatMap fun n => (g.targets n).map fun t => (n, t)

/-- Every edge is looked at once, and the first rule that covers it reports it. -/
theorem forbidden_eq_edges (rules : List (Typed EdgeRule)) (g : FileGraph) :
    Check.forbidden rules g = g.edges.filterMap fun e =>
      (rules.find? fun r => Check.EdgeRule.covers r.body e.1 e.2).map fun r =>
        Check.forbiddenViolation r.head e.1 e.2 := by
  rw [FileGraph.edges, List.filterMap_flatMap, Check.forbidden]
  refine List.flatMap_congr fun n _ => ?_
  rw [List.filterMap_map]
  rfl

/-! ### Places in a list of distinct keys -/

section

variable {α κ : Type} [DecidableEq κ] {key : α → κ}

theorem idxOf?_eq_some_iff_of_nodup {ks : List κ} (hn : ks.Nodup) {k : κ} {i : Nat} :
    ks.idxOf? k = some i ↔ ks[i]? = some k := by
  rw [List.idxOf?_eq_some_iff, List.getElem?_eq_some_iff]
  constructor
  · rintro ⟨hi, hk, -⟩; exact ⟨hi, hk⟩
  · rintro ⟨hi, hk⟩
    refine ⟨hi, hk, fun j hj hj' => ?_⟩
    have same : j = i := hn.getElem_inj_iff.mp (hj'.trans hk.symm)
    exact absurd same (Nat.ne_of_lt hj)

/-- The places of keys lead to the elements of those keys, and to each of them once. -/
theorem filterMap_idxOf?_perm {xs : List α} (hn : (xs.map key).Nodup) (ks : List κ) :
    ((distinct (ks.filterMap fun k => (xs.map key).idxOf? k)).filterMap fun i => xs[i]?).Perm
      (xs.filter fun x => key x ∈ ks) := by
  have hx : xs.Nodup := hn.of_map key
  have places : ∀ (i j : Nat) (x : α), x ∈ xs[i]? → x ∈ xs[j]? → i = j := by
    intro i j x hi hj
    obtain ⟨hlt, -⟩ := List.getElem?_eq_some_iff.mp hi
    exact (List.getElem?_inj hlt hx).mp (hi.trans hj.symm)
  refine (List.perm_ext_iff_of_nodup ((nodup_distinct _).filterMap places) (hx.filter _)).mpr
    fun x => ?_
  simp only [List.mem_filterMap, mem_distinct, List.mem_filter, decide_eq_true_eq,
    idxOf?_eq_some_iff_of_nodup hn]
  constructor
  · rintro ⟨i, ⟨k, hk, hi⟩, hx⟩
    rw [List.getElem?_map, hx, Option.map_some, Option.some_inj] at hi
    exact ⟨List.mem_of_getElem? hx, hi ▸ hk⟩
  · rintro ⟨hx, hk⟩
    obtain ⟨i, hi⟩ := List.mem_iff_getElem?.mp hx
    exact ⟨i, ⟨key x, hk, by rw [List.getElem?_map, hi, Option.map_some]⟩, hi⟩

end

/-! ### Files and their edges -/

/-- The node without its edges. -/
def FileNode.bare (n : FileNode) : FileNode := { n with edges := [] }

/-- The files of the symbols, each with the role of its first symbol. -/
def bareNodes (symbols : List Symbol) : List FileNode :=
  (firstPerFile symbols).map fun s => ⟨s.path, s.role, []⟩

/-- The files that the symbols of a file mention. -/
def mentioned (symbols : List Symbol) (n : FileNode) : List FileNode :=
  (bareNodes symbols).filter fun t => t.path ∈ FileGraph.mentions symbols n.path

theorem mem_mentions {symbols : List Symbol} {p q : String} :
    q ∈ FileGraph.mentions symbols p ↔ ∃ s ∈ symbols, s.path = p ∧ q ∈ s.dependencies := by
  simp [FileGraph.mentions, and_assoc]

theorem mem_mentioned {symbols : List Symbol} {n t : FileNode} :
    t ∈ mentioned symbols n ↔ t ∈ bareNodes symbols ∧ t.path ∈ FileGraph.mentions symbols n.path := by
  simp [mentioned]

theorem map_path_bareNodes (symbols : List Symbol) :
    (bareNodes symbols).map FileNode.path = distinct (symbols.map Symbol.path) := by
  rw [bareNodes, List.map_map]
  exact map_distinctBy symbols

theorem nodup_paths_bareNodes (symbols : List Symbol) :
    ((bareNodes symbols).map FileNode.path).Nodup := by
  rw [map_path_bareNodes]
  exact nodup_distinct _

theorem map_bare_nodes (symbols : List Symbol) :
    (FileGraph.ofSymbols symbols).nodes.map FileNode.bare = bareNodes symbols := by
  rw [FileGraph.ofSymbols, List.map_map]
  rfl

theorem map_path_nodes (symbols : List Symbol) :
    (FileGraph.ofSymbols symbols).nodes.map FileNode.path =
      (firstPerFile symbols).map Symbol.path := by
  rw [FileGraph.ofSymbols, List.map_map]
  rfl

theorem nodup_paths_nodes (symbols : List Symbol) :
    ((FileGraph.ofSymbols symbols).nodes.map FileNode.path).Nodup := by
  rw [map_path_nodes]
  exact nodup_keys_distinctBy symbols

theorem edges_eq_distinct {symbols : List Symbol} {n : FileNode}
    (hn : n ∈ (FileGraph.ofSymbols symbols).nodes) :
    n.edges = distinct ((FileGraph.mentions symbols n.path).filterMap fun d =>
      ((FileGraph.ofSymbols symbols).nodes.map FileNode.path).idxOf? d) := by
  rw [map_path_nodes]
  obtain ⟨s, -, rfl⟩ := List.mem_map.mp hn
  rfl

/-- The edges of a file lead to the files it mentions, and to each of them once. -/
theorem targets_perm {symbols : List Symbol} {n : FileNode}
    (hn : n ∈ (FileGraph.ofSymbols symbols).nodes) :
    ((FileGraph.ofSymbols symbols).targets n).Perm
      ((FileGraph.ofSymbols symbols).nodes.filter fun t =>
        t.path ∈ FileGraph.mentions symbols n.path) := by
  rw [FileGraph.targets, edges_eq_distinct hn]
  exact filterMap_idxOf?_perm (nodup_paths_nodes symbols) _

theorem map_bare_targets_perm {symbols : List Symbol} {n : FileNode}
    (hn : n ∈ (FileGraph.ofSymbols symbols).nodes) :
    (((FileGraph.ofSymbols symbols).targets n).map FileNode.bare).Perm
      (mentioned symbols n.bare) := by
  rw [mentioned, ← map_bare_nodes, List.filter_map]
  exact (targets_perm hn).map FileNode.bare

/-- Which file mentions which. -/
def bareEdges (symbols : List Symbol) : List (FileNode × FileNode) :=
  (bareNodes symbols).flatMap fun n => (mentioned symbols n).map fun t => (n, t)

theorem map_bare_edges_perm (symbols : List Symbol) :
    ((FileGraph.ofSymbols symbols).edges.map fun e => (e.1.bare, e.2.bare)).Perm
      (bareEdges symbols) := by
  rw [FileGraph.edges, List.map_flatMap, bareEdges, ← map_bare_nodes, List.flatMap_map]
  refine List.Perm.flatMap_left _ fun n hn => ?_
  have targets := (map_bare_targets_perm hn).map fun t => (n.bare, t)
  simpa only [List.map_map, Function.comp_def] using targets

/-! ### Checks without places -/

theorem forbidden_perm (rules : List (Typed EdgeRule)) (symbols : List Symbol) :
    (Check.forbidden rules (FileGraph.ofSymbols symbols)).Perm
      ((bareEdges symbols).filterMap fun e =>
        (rules.find? fun r => Check.EdgeRule.covers r.body e.1 e.2).map fun r =>
          Check.forbiddenViolation r.head e.1 e.2) := by
  refine List.Perm.trans ?_ ((map_bare_edges_perm symbols).filterMap _)
  rw [forbidden_eq_edges, List.filterMap_map]
  exact List.Perm.refl _

theorem isSatisfied_eq_any_mentioned {symbols : List Symbol} {n : FileNode}
    (hn : n ∈ (FileGraph.ofSymbols symbols).nodes) (rule : EdgeRule) :
    Check.isSatisfied rule (FileGraph.ofSymbols symbols) n =
      (mentioned symbols n.bare).any fun t => rule.target.selects t.role := by
  rw [Check.isSatisfied, ← (map_bare_targets_perm hn).any_eq, List.any_map]
  rfl

theorem required_eq_map_bareNodes (rule : Typed EdgeRule) (symbols : List Symbol) :
    Check.required rule (FileGraph.ofSymbols symbols) =
      ((bareNodes symbols).filter fun n => rule.body.source.selects n.role &&
        !(mentioned symbols n).any fun t => rule.body.target.selects t.role).map fun n =>
          { rule.head.violation n.path (Check.requiredFinding rule.body n) with
            sourceRole := some n.role
            targetRole := some rule.body.target.describe } := by
  rw [← map_bare_nodes, List.filter_map, List.map_map, Check.required]
  refine congrArg _ (List.filter_congr fun n hn => ?_)
  rw [isSatisfied_eq_any_mentioned hn]
  rfl

end ArchLint
