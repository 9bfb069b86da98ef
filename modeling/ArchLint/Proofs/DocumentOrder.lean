import ArchLint.TypeScript.Syntax
import Mathlib.Data.List.Basic

/-!
The order in which the nodes of a tree are visited. The stack of `walk` owes what a recursion over
its trees would list (`walk_eq_flatMap`): a node's own name, then those of its parts. A node is
known by its address, the places of the parts that lead to it; `visits` notes the addresses that the
loop of `walk` goes through. There are as many as the tree has nodes (`length_nodes`), each node has
its own (`mem_nodes`), and they come in the order of the document, which is that of addresses
(`pairwise_nodes`).
-/

namespace ArchLint.TypeScript.Syntax

/-- A node and where it stands: the place of a part of the root, of a part of that, and so on. -/
abbrev Located := List Nat × Syntax

/-- The node at an address. -/
def nodeAt? (s : Syntax) : (address : List Nat) → Option Syntax
  | [] => some s
  | i :: address => s.parts[i]?.bind fun part => part.nodeAt? address

/-- The parts of a node, where they stand. -/
def located (v : Located) : List Located := v.2.parts.mapIdx fun i part => (v.1 ++ [i], part)

/-! ### Sizes -/

theorem size_le_sizes {s : Syntax} {ss : List Syntax} (h : s ∈ ss) : s.size ≤ sizes ss := by
  induction ss with
  | nil => exact absurd h List.not_mem_nil
  | cons t ss ih =>
    rw [sizes]
    rcases List.mem_cons.mp h with rfl | h
    · exact Nat.le_add_right _ _
    · exact Nat.le_trans (ih h) (Nat.le_add_left _ _)

theorem size_lt_of_mem_parts {s part : Syntax} (h : part ∈ s.parts) : part.size < s.size := by
  rw [size_eq s]
  exact Nat.lt_succ_of_le (size_le_sizes h)

@[simp]
theorem map_snd_located (v : Located) : (located v).map Prod.snd = v.2.parts := by
  apply List.ext_getElem?
  intro i
  simp [located, Function.comp_def]

theorem mem_located {v w : Located} :
    w ∈ located v ↔ ∃ i, w.1 = v.1 ++ [i] ∧ v.2.parts[i]? = some w.2 := by
  rw [located, List.mem_mapIdx]
  constructor
  · rintro ⟨i, hi, rfl⟩
    exact ⟨i, rfl, List.getElem?_eq_getElem hi⟩
  · rintro ⟨i, place, found⟩
    obtain ⟨hi, found⟩ := List.getElem?_eq_some_iff.mp found
    exact ⟨i, hi, Prod.ext place.symm found⟩

theorem size_lt_of_mem_located {v u : Located} (h : u ∈ located v) : u.2.size < v.2.size := by
  apply size_lt_of_mem_parts
  rw [← map_snd_located]
  exact List.mem_map_of_mem h

/-! ### The recursion and the loop -/

/-- The modules that a tree names: the node's own, then those of its parts. -/
def namesInside (s : Syntax) : List String :=
  s.moduleName?.toList ++ s.parts.attach.flatMap fun part => part.1.namesInside
termination_by s.size
decreasing_by exact size_lt_of_mem_parts part.2

/-- The nodes of a tree: the node itself, then those of its parts. -/
def nodes (v : Located) : List Located := v :: (located v).attach.flatMap fun u => nodes u.1
termination_by v.2.size
decreasing_by exact size_lt_of_mem_located u.2

/-- The loop of `walk`, noting the nodes that it visits. -/
def visits : (stack : List Located) → List Located
  | [] => []
  | v :: stack => v :: visits (located v ++ stack)
termination_by stack => sizes (stack.map Prod.snd)
decreasing_by
  rw [List.map_append, map_snd_located, sizes_append, List.map_cons, sizes, size_eq v.2]
  omega

theorem namesInside_eq (s : Syntax) :
    s.namesInside = s.moduleName?.toList ++ s.parts.flatMap namesInside := by
  rw [namesInside, List.flatMap_subtype, List.unattach_attach]
  exact fun _ _ => rfl

theorem nodes_eq (v : Located) : nodes v = v :: (located v).flatMap nodes := by
  rw [nodes, List.flatMap_subtype, List.unattach_attach]
  exact fun _ _ => rfl

/-- What holds of a node when it holds of its parts holds of all nodes. -/
@[elab_as_elim]
theorem located_induction {motive : Located → Prop}
    (step : ∀ v, (∀ u ∈ located v, motive u) → motive v) (v : Located) : motive v := by
  induction v using nodes.induct with
  | case1 v ih => exact step v fun u hu => ih ⟨u, hu⟩

/-- What the stack still owes: the names in its trees, from the top on. -/
theorem walk_eq_flatMap (stack : List Syntax) : walk stack = stack.flatMap namesInside := by
  induction stack using walk.induct with
  | case1 => rw [walk, List.flatMap_nil]
  | case2 s stack ih =>
    rw [walk, ih, List.flatMap_append, List.flatMap_cons, namesInside_eq, List.append_assoc]

/-- The loop emits the names of the nodes it visits. -/
theorem walk_eq_visits (stack : List Located) :
    walk (stack.map Prod.snd) = (visits stack).flatMap fun v => v.2.moduleName?.toList := by
  induction stack using visits.induct with
  | case1 => rw [visits, List.map_nil, walk, List.flatMap_nil]
  | case2 v stack ih =>
    rw [List.map_append, map_snd_located] at ih
    rw [visits, List.map_cons, walk, ih, List.flatMap_cons]

/-- The loop visits the nodes of the trees on its stack, from the top on. -/
theorem visits_eq_flatMap (stack : List Located) : visits stack = stack.flatMap nodes := by
  induction stack using visits.induct with
  | case1 => rw [visits, List.flatMap_nil]
  | case2 v stack ih =>
    rw [visits, ih, List.flatMap_append, List.flatMap_cons, nodes_eq, List.cons_append]

/-! ### Every node once, in order -/

theorem length_flatMap_nodes {stack : List Located}
    (h : ∀ v ∈ stack, (nodes v).length = v.2.size) :
    (stack.flatMap nodes).length = sizes (stack.map Prod.snd) := by
  induction stack with
  | nil => rfl
  | cons v stack ih =>
    rw [List.flatMap_cons, List.length_append, List.map_cons, sizes, h v List.mem_cons_self,
      ih fun u hu => h u (List.mem_cons_of_mem v hu)]

theorem length_nodes (v : Located) : (nodes v).length = v.2.size := by
  induction v using located_induction with
  | step v ih =>
    rw [nodes_eq, List.length_cons, length_flatMap_nodes ih, map_snd_located, size_eq]

/-- The nodes of a tree are what stands at its addresses. -/
theorem mem_nodes {v u : Located} :
    u ∈ nodes v ↔ ∃ address, u.1 = v.1 ++ address ∧ v.2.nodeAt? address = some u.2 := by
  induction v using located_induction with
  | step v ih =>
    rw [nodes_eq, List.mem_cons, List.mem_flatMap]
    constructor
    · rintro (rfl | ⟨w, hw, hu⟩)
      · exact ⟨[], (List.append_nil _).symm, rfl⟩
      · obtain ⟨address, below, found⟩ := (ih w hw).mp hu
        obtain ⟨i, place, part⟩ := mem_located.mp hw
        refine ⟨i :: address, ?_, ?_⟩
        · rw [below, place, List.append_assoc, List.singleton_append]
        · rw [nodeAt?, part, Option.bind_some]
          exact found
    · rintro ⟨address, below, found⟩
      cases address with
      | nil =>
        rw [List.append_nil] at below
        exact Or.inl (Prod.ext below (Option.some.inj found).symm)
      | cons i address =>
        obtain ⟨part, hp, found⟩ := Option.bind_eq_some_iff.mp found
        have hw : (v.1 ++ [i], part) ∈ located v := mem_located.mpr ⟨i, rfl, hp⟩
        refine Or.inr ⟨_, hw, (ih _ hw).mpr ⟨address, ?_, found⟩⟩
        rw [below, List.append_assoc, List.singleton_append]

/-- The nodes of a tree stand in the order of their addresses. -/
theorem pairwise_nodes (v : Located) : (nodes v).Pairwise fun u w => u.1 < w.1 := by
  induction v using located_induction with
  | step v ih =>
    rw [nodes_eq, List.pairwise_cons, List.pairwise_flatMap]
    refine ⟨?_, ih, ?_⟩
    · -- the address of a node starts those of the nodes inside it
      intro u hu
      obtain ⟨w, hw, hu⟩ := List.mem_flatMap.mp hu
      obtain ⟨address, below, -⟩ := mem_nodes.mp hu
      obtain ⟨i, place, -⟩ := mem_located.mp hw
      have later : v.1 ++ [] < v.1 ++ i :: address :=
        List.append_left_lt (List.nil_lt_cons i address)
      rw [below, place, List.append_assoc, List.singleton_append]
      rwa [List.append_nil] at later
    · rw [List.pairwise_iff_getElem]
      intro i j hi hj less u hu w hw
      simp only [located, List.getElem_mapIdx] at hu hw
      obtain ⟨address, below, -⟩ := mem_nodes.mp hu
      obtain ⟨address', below', -⟩ := mem_nodes.mp hw
      rw [below, below', List.append_assoc, List.append_assoc]
      exact List.append_left_lt (List.cons_lt_cons_iff.mpr (Or.inl less))

/-- The modules that a file imports are those its nodes name, each node being visited once and in
the order of the document, so that a node comes before the nodes inside it. -/
theorem imports_stand_in_document_order (root : Syntax) :
    walk [root] = root.namesInside ∧
    (∀ file, moduleNames file = (Syntax.other file).namesInside) ∧
    walk [root] = (visits [([], root)]).flatMap (fun v => v.2.moduleName?.toList) ∧
    (visits [([], root)]).length = root.size ∧
    (∀ address node, (address, node) ∈ visits [([], root)] ↔ root.nodeAt? address = some node) ∧
    ((visits [([], root)]).map Prod.fst).Pairwise (· < ·) := by
  have all : visits [([], root)] = nodes ([], root) := by
    rw [visits_eq_flatMap, List.flatMap_singleton]
  refine ⟨by simp [walk_eq_flatMap], ?_, walk_eq_visits [([], root)], ?_, ?_, ?_⟩
  · intro file
    rw [moduleNames, walk_eq_flatMap, namesInside_eq]
    rfl
  · rw [all, length_nodes]
  · intro address node
    rw [all, mem_nodes]
    simp
  · rw [all, List.pairwise_map]
    exact pairwise_nodes _

/-- A loader whose argument holds another loader, and an import after that. -/
theorem loader_comes_before_loader_in_its_argument :
    let inner : Syntax := .call true (some ['"', 'b', '"']) []
    let last : Syntax := .importing (some ['"', 'c', '"']) []
    let root : Syntax := .call true (some ['\'', 'a', '\'']) [.other [inner], last]
    walk [root] = ["a", "b", "c"] ∧
    (∀ address node, (address, node) ∈ visits [([], root)] ↔ root.nodeAt? address = some node) ∧
    ([0, 0], inner) ∈ visits [([], root)] ∧ (visits [([], root)]).length = 4 := by
  intro inner last root
  obtain ⟨names, -, -, length, places, -⟩ := imports_stand_in_document_order root
  refine ⟨?_, places, (places [0, 0] inner).mpr rfl, length.trans rfl⟩
  rw [names]
  cbv

end ArchLint.TypeScript.Syntax
