import ArchLint.Check.CycleSearch
import Mathlib.Algebra.BigOperators.Fin
import Mathlib.Algebra.Order.BigOperators.Group.Finset
import Mathlib.Data.List.Chain

/-!
The search for cycles as a walk from state to state. A step makes one of four moves (`Moves`): it
leaves a node, passes by an edge, descends along one, or closes a cycle. Between two moves the state
is coherent: the path is the nodes of the stack, each of them is a successor of the one before, and
what is colored as on the stack lies on the path (`Coherent`). Every move does one unit of the work
that is left (`Moves.work`), so the search from a node ends before its fuel does (`stack_run`), and
in the end all nodes in scope are done (`colorOf_search`).
-/

namespace ArchLint.CycleSearch

variable {p : Problem} {s s' : State}

/-! ### States and colors -/

namespace State

/-- The state with another stack. -/
def withStack (s : State) (stack : List Frame) : State := { s with stack }

/-- The state after the latest node is left. -/
def leaving (s : State) (node : Nat) (rest : List Frame) : State :=
  { s with color := s.color.setIfInBounds node .done, stack := rest, path := s.path.tail }

/-- The state after a cycle is noted. -/
def noting (s : State) (cycle : List Nat) : State :=
  { s with color := finish s.color cycle, cycles := s.cycles ++ [cycle] }

end State

/-- Only nodes of the graph have a color other than that of nodes that are done. -/
theorem lt_size_of_colorOf_ne_done {i : Nat} (h : colorOf s i ≠ .done) : i < s.color.size := by
  by_contra out
  exact h (by simp [colorOf, Array.getD, out])

@[simp]
theorem colorOf_withStack (stack : List Frame) (j : Nat) :
    colorOf (s.withStack stack) j = colorOf s j := rfl

@[simp]
theorem colorOf_leaving (node : Nat) (rest : List Frame) (j : Nat) :
    colorOf (s.leaving node rest) j = if j = node then .done else colorOf s j := by
  simp only [colorOf, State.leaving, Array.getD_eq_getD_getElem?, Array.getElem?_setIfInBounds]
  grind

theorem getD_finish (nodes : List Nat) (color : Array Color) (j : Nat) :
    (finish color nodes).getD j .done = if j ∈ nodes then .done else color.getD j .done := by
  unfold finish
  induction nodes generalizing color with
  | nil => simp
  | cons i nodes ih =>
    rw [List.foldl_cons, ih]
    simp only [Array.getD_eq_getD_getElem?, Array.getElem?_setIfInBounds]
    grind

theorem size_finish (nodes : List Nat) (color : Array Color) :
    (finish color nodes).size = color.size := by
  unfold finish
  induction nodes generalizing color with
  | nil => rfl
  | cons i nodes ih => rw [List.foldl_cons, ih, Array.size_setIfInBounds]

@[simp]
theorem colorOf_noting (cycle : List Nat) (j : Nat) :
    colorOf (s.noting cycle) j = if j ∈ cycle then .done else colorOf s j :=
  getD_finish cycle s.color j

theorem colorOf_enter {i : Nat} (fresh : colorOf s i = .unvisited) (j : Nat) :
    colorOf (enter p s i) j = if j = i then .onStack else colorOf s j := by
  have hi : i < s.color.size := lt_size_of_colorOf_ne_done (by simp [fresh])
  simp only [colorOf, enter, Array.getD_eq_getD_getElem?, Array.getElem?_setIfInBounds]
  grind

/-! ### Moves -/

/-- What a step can do to a state. -/
inductive Moves (p : Problem) (s : State) : State → Prop where
  /-- Back from a node whose edges have all been followed. -/
  | leave {node : Nat} {rest : List Frame} (top : s.stack = ⟨node, []⟩ :: rest) :
      Moves p s (s.leaving node rest)
  /-- Along an edge that leads out of scope or to a node that is done. -/
  | pass {node next : Nat} {more : List Nat} {rest : List Frame}
      (top : s.stack = ⟨node, next :: more⟩ :: rest)
      (shut : p.inScope next = false ∨ colorOf s next = .done) :
      Moves p s (s.withStack (⟨node, more⟩ :: rest))
  /-- Along an edge to a node that was not reached before. -/
  | descend {node next : Nat} {more : List Nat} {rest : List Frame}
      (top : s.stack = ⟨node, next :: more⟩ :: rest) (scope : p.inScope next = true)
      (fresh : colorOf s next = .unvisited) :
      Moves p s (enter p (s.withStack (⟨node, more⟩ :: rest)) next)
  /-- Along an edge back to a node of the path, which closes a cycle. -/
  | close {node next : Nat} {more : List Nat} {rest : List Frame}
      (top : s.stack = ⟨node, next :: more⟩ :: rest) (scope : p.inScope next = true)
      (back : colorOf s next = .onStack) {above below : List Nat}
      (split : s.path = above ++ next :: below) (first : next ∉ above) :
      Moves p s ((s.withStack (⟨node, more⟩ :: rest)).noting (next :: above.reverse))

theorem cycleFrom?_eq {above below : List Nat} {i : Nat} (first : i ∉ above) :
    cycleFrom? (above ++ i :: below) i = some (i :: above.reverse) := by
  have prefixed : (above ++ i :: below).takeWhile (· ≠ i) = above := by
    rw [List.takeWhile_append_of_pos fun j hj => decide_eq_true (ne_of_mem_of_not_mem hj first)]
    simp
  rw [cycleFrom?, if_pos (by simp), prefixed, List.reverse_append]
  rfl

theorem moves_follow (onPath : ∀ n, colorOf s n = .onStack → n ∈ s.path) {node next : Nat}
    {more : List Nat} {rest : List Frame} (top : s.stack = ⟨node, next :: more⟩ :: rest) :
    Moves p s (follow p (s.withStack (⟨node, more⟩ :: rest)) next) := by
  unfold follow
  split
  · rename_i out
    exact .pass top (.inl (by simpa using out))
  · rename_i scope
    have scope : p.inScope next = true := by simpa using scope
    rw [colorOf_withStack]
    cases hc : colorOf s next with
    | unvisited => exact .descend top scope hc
    | done => exact .pass top (.inr hc)
    | onStack =>
      obtain ⟨above, below, split, first⟩ := List.eq_append_cons_of_mem (onPath next hc)
      have cycle : cycleFrom? (s.withStack (⟨node, more⟩ :: rest)).path next =
          some (next :: above.reverse) := by
        rw [State.withStack, split, cycleFrom?_eq first]
      simp only [cycle]
      exact .close top scope hc split first

theorem moves_step (onPath : ∀ n, colorOf s n = .onStack → n ∈ s.path) (busy : s.stack ≠ []) :
    Moves p s (step p s) := by
  unfold step
  split
  · rename_i idle
    exact absurd idle busy
  · rename_i node rest top
    exact .leave top
  · rename_i node next more rest top
    exact moves_follow onPath top

/-- A node that was reached is never taken for one that was not. -/
theorem Moves.reached (m : Moves p s s') {n : Nat} (hn : colorOf s n ≠ .unvisited) :
    colorOf s' n ≠ .unvisited := by
  cases m with
  | leave | pass | close => grind [colorOf_leaving, colorOf_withStack, colorOf_noting]
  | descend top scope fresh => grind [colorOf_enter, colorOf_withStack]

/-- A node that is done stays so. -/
theorem Moves.done (m : Moves p s s') {n : Nat} (hn : colorOf s n = .done) :
    colorOf s' n = .done := by
  cases m with
  | leave | pass | close => grind [colorOf_leaving, colorOf_withStack, colorOf_noting]
  | descend top scope fresh => grind [colorOf_enter, colorOf_withStack]

/-! ### Coherence -/

/-- What holds of a state between two moves. -/
structure Coherent (p : Problem) (s : State) : Prop where
  size : s.color.size = p.size
  path : s.path = s.stack.map Frame.node
  nodup : s.path.Nodup
  inScope : ∀ n ∈ s.path, p.inScope n = true
  reached : ∀ n ∈ s.path, colorOf s n ≠ .unvisited
  onPath : ∀ n, colorOf s n = .onStack → n ∈ s.path
  chain : s.path.IsChain fun later earlier => later ∈ p.edges earlier
  pending : ∀ f ∈ s.stack, f.pending <:+ p.edges f.node

namespace Coherent

theorem path_eq_cons (h : Coherent p s) {f : Frame} {rest : List Frame} (top : s.stack = f :: rest) :
    s.path = f.node :: rest.map Frame.node := by
  rw [h.path, top, List.map_cons]

/-- An edge that is taken from its frame is one of the node. -/
theorem mem_edges (h : Coherent p s) {node next : Nat} {more : List Nat} {rest : List Frame}
    (top : s.stack = ⟨node, next :: more⟩ :: rest) : next ∈ p.edges node :=
  (h.pending _ (top ▸ List.mem_cons_self)).subset List.mem_cons_self

/-- Taking an edge from its frame leaves a state coherent. -/
theorem take (h : Coherent p s) {node next : Nat} {more : List Nat} {rest : List Frame}
    (top : s.stack = ⟨node, next :: more⟩ :: rest) :
    Coherent p (s.withStack (⟨node, more⟩ :: rest)) :=
  { h with
    path := (h.path_eq_cons top).trans rfl
    pending := by
      have pending := h.pending
      rw [top] at pending
      obtain ⟨first, others⟩ := List.forall_mem_cons.mp pending
      exact List.forall_mem_cons.mpr ⟨(List.suffix_cons next more).trans first, others⟩ }

theorem enter (h : Coherent p s) {i : Nat} (fresh : colorOf s i = .unvisited)
    (scope : p.inScope i = true) (edge : ∀ n ∈ s.path.head?, i ∈ p.edges n) :
    Coherent p (enter p s i) where
  size := by simpa [CycleSearch.enter] using h.size
  path := by simp [CycleSearch.enter, h.path]
  nodup := List.nodup_cons.mpr ⟨fun hi => h.reached i hi fresh, h.nodup⟩
  inScope := List.forall_mem_cons.mpr ⟨scope, h.inScope⟩
  reached := by
    intro n hn
    rw [colorOf_enter fresh]
    split
    · exact nofun
    · rename_i other
      exact h.reached n ((List.mem_cons.mp hn).resolve_left other)
  onPath := by
    intro n hn
    rw [colorOf_enter fresh] at hn
    split at hn
    · rename_i same
      exact same ▸ List.mem_cons_self
    · exact List.mem_cons_of_mem i (h.onPath n hn)
  chain := h.chain.cons edge
  pending := List.forall_mem_cons.mpr ⟨List.suffix_refl _, h.pending⟩

theorem leave (h : Coherent p s) {node : Nat} {rest : List Frame}
    (top : s.stack = ⟨node, []⟩ :: rest) : Coherent p (s.leaving node rest) where
  size := by simpa [State.leaving] using h.size
  path := by simp [State.leaving, h.path_eq_cons top]
  nodup := h.nodup.tail
  inScope n hn := h.inScope n (List.mem_of_mem_tail hn)
  reached := by
    intro n hn
    rw [colorOf_leaving]
    split
    · exact nofun
    · exact h.reached n (List.mem_of_mem_tail hn)
  onPath := by
    intro n hn
    rw [colorOf_leaving] at hn
    split at hn
    · cases hn
    · rename_i other
      have onPath := h.onPath n hn
      rw [h.path_eq_cons top] at onPath
      rw [State.leaving, h.path_eq_cons top]
      exact (List.mem_cons.mp onPath).resolve_left other
  chain := h.chain.tail
  pending f hf := h.pending f (top ▸ List.mem_cons_of_mem _ hf)

theorem noting (h : Coherent p s) (cycle : List Nat) : Coherent p (s.noting cycle) :=
  { h with
    size := by simpa [State.noting, size_finish] using h.size
    reached := by
      intro n hn
      rw [colorOf_noting]
      split
      · exact nofun
      · exact h.reached n hn
    onPath := by
      intro n hn
      rw [colorOf_noting] at hn
      split at hn
      · cases hn
      · exact h.onPath n hn }

theorem moves (h : Coherent p s) (m : Moves p s s') : Coherent p s' := by
  cases m with
  | leave top => exact h.leave top
  | pass top => exact h.take top
  | close top => exact (h.take top).noting _
  | @descend node next more rest top scope fresh =>
    refine (h.take top).enter fresh scope fun n hn => ?_
    rw [(h.take top).path_eq_cons rfl] at hn
    obtain rfl := Option.some.inj hn
    exact h.mem_edges top

theorem start : Coherent p { color := Array.replicate p.size .unvisited } where
  size := Array.size_replicate
  path := rfl
  nodup := List.nodup_nil
  inScope := nofun
  reached := nofun
  onPath := by
    intro n hn
    simp only [colorOf, Array.getD, Array.size_replicate, Array.getInternal_eq_getElem,
      Array.getElem_replicate] at hn
    split at hn <;> cases hn
  chain := .nil
  pending := nofun

theorem root (h : Coherent p s) (idle : s.stack = []) {i : Nat} (fresh : colorOf s i = .unvisited)
    (scope : p.inScope i = true) : Coherent p (CycleSearch.enter p s i) :=
  h.enter fresh scope (by simp [h.path, idle])

end Coherent

/-! ### States of the search -/

/-- The states that the search goes through: before it starts, when it begins at a node, and after
each step. -/
inductive Reached (p : Problem) : State → Prop where
  | start : Reached p { color := Array.replicate p.size .unvisited }
  | root {s : State} {i : Nat} (before : Reached p s) (idle : s.stack = [])
      (fresh : colorOf s i = .unvisited) (scope : p.inScope i = true) : Reached p (enter p s i)
  | step {s : State} (before : Reached p s) (busy : s.stack ≠ []) : Reached p (step p s)

theorem Reached.coherent (h : Reached p s) : Coherent p s := by
  induction h with
  | start => exact .start
  | root _ idle fresh scope ih => exact ih.root idle fresh scope
  | step _ busy ih => exact ih.moves (moves_step ih.onPath busy)

/-- What holds at the start, and is kept by beginning at a node and by every move, holds throughout
the search. -/
theorem Reached.induction {P : State → Prop}
    (start : P { color := Array.replicate p.size .unvisited })
    (root : ∀ {s i}, Coherent p s → s.stack = [] → colorOf s i = .unvisited →
      p.inScope i = true → P s → P (enter p s i))
    (move : ∀ {s s'}, Coherent p s → Moves p s s' → P s → P s') {s : State} (h : Reached p s) :
    P s := by
  induction h with
  | start => exact start
  | root before idle fresh scope ih => exact root before.coherent idle fresh scope ih
  | step before busy ih =>
    exact move before.coherent (moves_step before.coherent.onPath busy) ih

/-! ### The work that is left -/

/-- The nodes that were not reached yet. -/
def unreached (p : Problem) (s : State) : Finset Nat :=
  (Finset.range p.size).filter fun i => colorOf s i = .unvisited

/-- The edges still to be followed and the nodes still to be left, those of nodes that were not reached
included. -/
def work (p : Problem) (s : State) : Nat :=
  (s.stack.map fun f => f.pending.length + 1).sum + ∑ i ∈ unreached p s, ((p.edges i).length + 1)

theorem unreached_congr (h : ∀ i, colorOf s' i = .unvisited ↔ colorOf s i = .unvisited) :
    unreached p s' = unreached p s :=
  Finset.filter_congr fun i _ => h i

theorem work_enter (size : s.color.size = p.size) {i : Nat} (fresh : colorOf s i = .unvisited) :
    work p (enter p s i) = work p s := by
  have hi : i ∈ unreached p s :=
    Finset.mem_filter.mpr ⟨Finset.mem_range.mpr (size ▸ lt_size_of_colorOf_ne_done (by simp [fresh])),
      fresh⟩
  have left : unreached p (enter p s i) = (unreached p s).erase i := by
    ext j
    simp only [unreached, Finset.mem_filter, Finset.mem_erase, colorOf_enter fresh]
    grind
  have stack : ((enter p s i).stack.map fun f => f.pending.length + 1).sum =
      (p.edges i).length + 1 + (s.stack.map fun f => f.pending.length + 1).sum := rfl
  rw [work, work, left, stack, ← Finset.add_sum_erase _ _ hi]
  omega

theorem work_noting {cycle : List Nat} (h : ∀ n ∈ cycle, colorOf s n ≠ .unvisited) :
    work p (s.noting cycle) = work p s := by
  have same : unreached p (s.noting cycle) = unreached p s := unreached_congr fun i => by
    rw [colorOf_noting]
    grind
  rw [work, work, same]
  rfl

theorem work_leaving {node : Nat} {rest : List Frame} (top : s.stack = ⟨node, []⟩ :: rest)
    (h : colorOf s node ≠ .unvisited) : work p (s.leaving node rest) + 1 = work p s := by
  have same : unreached p (s.leaving node rest) = unreached p s := unreached_congr fun i => by
    rw [colorOf_leaving]
    grind
  rw [work, work, same, top]
  simp only [State.leaving, List.map_cons, List.sum_cons, List.length_nil]
  omega

theorem work_withStack {node next : Nat} {more : List Nat} {rest : List Frame}
    (top : s.stack = ⟨node, next :: more⟩ :: rest) :
    work p (s.withStack (⟨node, more⟩ :: rest)) + 1 = work p s := by
  have same : unreached p (s.withStack (⟨node, more⟩ :: rest)) = unreached p s :=
    unreached_congr fun _ => Iff.rfl
  rw [work, work, same, top]
  simp only [State.withStack, List.map_cons, List.sum_cons, List.length_cons]
  omega

/-- Every move follows one edge or leaves one node. -/
theorem Moves.work (h : Coherent p s) (m : Moves p s s') :
    CycleSearch.work p s' + 1 = CycleSearch.work p s := by
  cases m with
  | leave top => exact work_leaving top (h.reached _ (h.path_eq_cons top ▸ List.mem_cons_self))
  | pass top => exact work_withStack top
  | descend top scope fresh =>
    rw [work_enter (h.take top).size fresh]
    exact work_withStack top
  | @close node next more rest top scope back above below split first =>
    have onPath : ∀ n ∈ next :: above.reverse, n ∈ s.path := by
      intro n hn
      simp only [List.mem_cons, List.mem_reverse] at hn
      simp only [split, List.mem_append, List.mem_cons]
      tauto
    rw [work_noting (s := s.withStack (⟨node, more⟩ :: rest)) fun n hn => h.reached n (onPath n hn)]
    exact work_withStack top

theorem sum_length_getD (edges : List (List Nat)) :
    ∑ i ∈ Finset.range edges.length, (edges.getD i []).length = (edges.map List.length).sum := by
  induction edges with
  | nil => rfl
  | cons e edges ih =>
    rw [List.length_cons, Finset.sum_range_succ', List.map_cons, List.sum_cons, ← ih, Nat.add_comm]
    simp

theorem work_start : work p { color := Array.replicate p.size .unvisited } = enough p := by
  have all : unreached p { color := Array.replicate p.size .unvisited } = Finset.range p.size :=
    Finset.filter_true_of_mem fun i hi => by simp_all [colorOf, Array.getD]
  have edges : ∑ i ∈ Finset.range p.size, (p.edges i).length = p.edgeCount := by
    rw [Problem.edgeCount, ← List.sum_eq_foldr, ← sum_length_getD]
    simp [Problem.size, Problem.edges]
  rw [work, all, Finset.sum_add_distrib, edges]
  simp [enough]

theorem Reached.work_le (h : Reached p s) : work p s ≤ enough p := by
  refine h.induction (P := fun s => work p s ≤ enough p) work_start.le ?_ ?_
  · intro s i coherent idle fresh scope le
    rwa [work_enter coherent.size fresh]
  · intro s s' coherent m le
    have less := m.work coherent
    omega

/-! ### The whole search -/

theorem reached_run (h : Reached p s) (fuel : Nat) : Reached p (run p fuel s) := by
  induction fuel generalizing s with
  | zero => exact h
  | succ fuel ih =>
    unfold run
    split
    · exact h
    · rename_i busy
      exact ih (h.step (by simpa using busy))

/-- A search from a node ends if its fuel is as much as its work. -/
theorem stack_run (h : Reached p s) {fuel : Nat} (le : work p s ≤ fuel) :
    (run p fuel s).stack = [] := by
  induction fuel generalizing s with
  | zero =>
    cases hs : s.stack with
    | nil => exact hs
    | cons f rest => simp [work, hs] at le
  | succ fuel ih =>
    unfold run
    split
    · rename_i idle
      simpa using idle
    · rename_i busy
      have busy : s.stack ≠ [] := by simpa using busy
      have less := (moves_step h.coherent.onPath busy).work h.coherent
      exact ih (h.step busy) (by omega)

theorem colorOf_run_ne_unvisited (h : Reached p s) (fuel : Nat) {n : Nat}
    (hn : colorOf s n ≠ .unvisited) : colorOf (run p fuel s) n ≠ .unvisited := by
  induction fuel generalizing s with
  | zero => exact hn
  | succ fuel ih =>
    unfold run
    split
    · exact hn
    · rename_i busy
      have busy : s.stack ≠ [] := by simpa using busy
      exact ih (h.step busy) ((moves_step h.coherent.onPath busy).reached hn)

/-- Searching from some nodes ends, and reaches those of them that are in scope. -/
theorem foldl_visit (starts : List Nat) (h : Reached p s) (idle : s.stack = []) :
    Reached p (starts.foldl (visit p) s) ∧ (starts.foldl (visit p) s).stack = [] ∧
      (∀ i ∈ starts, p.inScope i = true → colorOf (starts.foldl (visit p) s) i ≠ .unvisited) ∧
      ∀ n, colorOf s n ≠ .unvisited → colorOf (starts.foldl (visit p) s) n ≠ .unvisited := by
  induction starts generalizing s with
  | nil => exact ⟨h, idle, nofun, fun _ hn => hn⟩
  | cons i starts ih =>
    rw [List.foldl_cons]
    unfold visit
    split
    · rename_i ready
      obtain ⟨fresh, scope⟩ := ready
      have entered : Reached p (enter p s i) := h.root idle fresh scope
      obtain ⟨reached, ended, all, kept⟩ :=
        ih (reached_run entered (enough p)) (stack_run entered entered.work_le)
      have before : ∀ n, colorOf (enter p s i) n ≠ .unvisited →
          colorOf (starts.foldl (visit p) (run p (enough p) (enter p s i))) n ≠ .unvisited :=
        fun n hn => kept n (colorOf_run_ne_unvisited entered _ hn)
      refine ⟨reached, ended, List.forall_mem_cons.mpr ⟨fun _ => before i ?_, all⟩,
        fun n hn => before n ?_⟩
      · simp [colorOf_enter fresh]
      · rw [colorOf_enter fresh]
        grind
    · rename_i shut
      obtain ⟨reached, ended, all, kept⟩ := ih h idle
      refine ⟨reached, ended, List.forall_mem_cons.mpr ⟨fun scope => kept i fun fresh => ?_, all⟩, kept⟩
      exact shut ⟨fresh, scope⟩

theorem reached_search (p : Problem) : Reached p (search p) :=
  (foldl_visit _ .start rfl).1

theorem stack_search (p : Problem) : (search p).stack = [] :=
  (foldl_visit _ .start rfl).2.1

theorem path_search (p : Problem) : (search p).path = [] := by
  rw [(reached_search p).coherent.path, stack_search, List.map_nil]

/-- In the end every node in scope is done. -/
theorem colorOf_search {i : Nat} (hi : i < p.size) (scope : p.inScope i = true) :
    colorOf (search p) i = .done := by
  cases hc : colorOf (search p) i with
  | done => rfl
  | unvisited =>
    obtain ⟨-, -, all, -⟩ := foldl_visit (p := p) (List.range p.size) .start rfl
    exact absurd hc (all i (List.mem_range.mpr hi) scope)
  | onStack =>
    have onPath := (reached_search p).coherent.onPath i hc
    rw [path_search] at onPath
    cases onPath

end ArchLint.CycleSearch
