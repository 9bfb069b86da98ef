import ArchLint.Check.Dependency
import ArchLint.Proofs.DepthFirst
import Mathlib.Logic.Function.Iterate

/-!
The history of a search for cycles: all states from the first to the last. Each follows from the one
before by a step or by beginning at a node (`isChain_history`), so whatever a move adds to a node and
takes from it can be summed up over the whole search. A node is pushed when it stops being unvisited
(`Next.awaits_eq`), and a node that was pushed is on top of the stack once with each of its edges next
(`Next.inStack_add`). As the stack is empty in the beginning and in the end, every node in scope is
pushed once and each of its edges followed once.
-/

namespace ArchLint.CycleSearch

variable {p : Problem} {s s' : State}

/-! ### States in order -/

/-- The state before the search. -/
def Problem.start (p : Problem) : State := { color := Array.replicate p.size .unvisited }

/-- The states in which a run makes its steps. -/
def trail (p : Problem) : (fuel : Nat) → State → List State
  | 0, _ => []
  | fuel + 1, s => if s.stack.isEmpty then [] else s :: trail p fuel (step p s)

/-- The states of a search from some nodes, from a state on. -/
def historyFrom (p : Problem) : (starts : List Nat) → State → List State
  | [], s => [s]
  | i :: starts, s =>
    if colorOf s i = .unvisited ∧ p.inScope i then
      s :: (trail p (enough p) (enter p s i) ++ historyFrom p starts (visit p s i))
    else historyFrom p starts s

/-- The states of the whole search. -/
def history (p : Problem) : List State := historyFrom p (List.range p.size) p.start

/-- From one state of a search to the next. -/
inductive Next (p : Problem) (s : State) : State → Prop where
  /-- A step, as long as the stack is not empty. -/
  | step (busy : s.stack ≠ []) : Next p s (step p s)
  /-- The beginning at a node. -/
  | root {i : Nat} (idle : s.stack = []) (fresh : colorOf s i = .unvisited)
      (scope : p.inScope i = true) : Next p s (enter p s i)

theorem Next.reached (h : Reached p s) (n : Next p s s') : Reached p s' := by
  cases n with
  | step busy => exact h.step busy
  | root idle fresh scope => exact h.root idle fresh scope

/-- A step is a move, so a state has gone over into the next by a move or by entering a first node. -/
theorem Next.moves_or_enter (h : Reached p s) (n : Next p s s') :
    Moves p s s' ∨ ∃ i, s.stack = [] ∧ colorOf s i = .unvisited ∧ s' = enter p s i := by
  cases n with
  | step busy => exact .inl (moves_step h.coherent.onPath busy)
  | root idle fresh scope => exact .inr ⟨_, idle, fresh, rfl⟩

theorem head?_trail_append {rest : List State} {fuel : Nat}
    (h : rest.head? = some (run p fuel s)) : (trail p fuel s ++ rest).head? = some s := by
  cases fuel with
  | zero => exact h
  | succ fuel =>
    rw [run] at h
    rw [trail]
    split at h
    · rename_i idle
      rwa [if_pos idle]
    · rename_i busy
      rw [if_neg busy]
      rfl

theorem isChain_trail_append {rest : List State} (chain : rest.IsChain (Next p)) {fuel : Nat}
    (h : rest.head? = some (run p fuel s)) : (trail p fuel s ++ rest).IsChain (Next p) := by
  induction fuel generalizing s with
  | zero => exact chain
  | succ fuel ih =>
    rw [run] at h
    rw [trail]
    split at h
    · rename_i idle
      rwa [if_pos idle]
    · rename_i busy
      rw [if_neg busy, List.cons_append]
      refine (ih h).cons fun y hy => ?_
      rw [head?_trail_append h] at hy
      obtain rfl := Option.some.inj hy
      exact .step (by simpa using busy)

theorem Reached.visit (h : Reached p s) (idle : s.stack = []) (i : Nat) :
    Reached p (visit p s i) ∧ (visit p s i).stack = [] := by
  obtain ⟨reached, ended, -⟩ := foldl_visit [i] h idle
  exact ⟨reached, ended⟩

theorem head?_historyFrom (starts : List Nat) (s : State) :
    (historyFrom p starts s).head? = some s := by
  induction starts with
  | nil => rfl
  | cons i starts ih =>
    rw [historyFrom]
    split
    · rfl
    · exact ih

theorem getLast?_historyFrom (starts : List Nat) (s : State) :
    (historyFrom p starts s).getLast? = some (starts.foldl (visit p) s) := by
  induction starts generalizing s with
  | nil => rfl
  | cons i starts ih =>
    rw [historyFrom, List.foldl_cons]
    split
    · rw [← List.cons_append, List.getLast?_append, ih, Option.some_or]
    · rename_i shut
      rw [ih, CycleSearch.visit, if_neg shut]

theorem isChain_historyFrom (starts : List Nat) (h : Reached p s) (idle : s.stack = []) :
    (historyFrom p starts s).IsChain (Next p) := by
  induction starts generalizing s with
  | nil => exact .singleton s
  | cons i starts ih =>
    rw [historyFrom]
    split
    · rename_i ready
      obtain ⟨visited, ended⟩ := h.visit idle i
      have first : (historyFrom p starts (CycleSearch.visit p s i)).head? =
          some (run p (enough p) (enter p s i)) := by
        rw [head?_historyFrom, CycleSearch.visit, if_pos ready]
      refine (isChain_trail_append (ih visited ended) first).cons fun y hy => ?_
      rw [head?_trail_append first] at hy
      obtain rfl := Option.some.inj hy
      exact .root idle ready.1 ready.2
    · exact ih h idle

theorem head?_history (p : Problem) : (history p).head? = some p.start :=
  head?_historyFrom _ _

theorem getLast?_history (p : Problem) : (history p).getLast? = some (search p) :=
  getLast?_historyFrom _ _

theorem isChain_history (p : Problem) : (history p).IsChain (Next p) :=
  isChain_historyFrom _ .start rfl

theorem reached_of_mem_history (hs : s ∈ history p) : Reached p s := by
  refine (isChain_history p).induction (Reached p) _ (fun _ _ next h => next.reached h) ?_ s hs
  intro ne
  have first : (history p).head ne = p.start :=
    Option.some.inj ((List.head?_eq_some_head ne).symm.trans (head?_history p))
  exact first ▸ .start

/-- The stack is empty whenever the search from a node has ended. -/
theorem stack_foldl_visit (p : Problem) (starts : List Nat) :
    (starts.foldl (visit p) p.start).stack = [] :=
  (foldl_visit starts .start rfl).2.1

/-- After so many steps, and not before, the stack is empty. -/
def EndsAfter (p : Problem) (s : State) (n : Nat) : Prop :=
  ((step p)^[n] s).stack = [] ∧ ∀ m < n, ((step p)^[m] s).stack ≠ []

/-- A run makes its steps as long as the stack is not empty, and no others. -/
theorem exists_iterate_run (p : Problem) (fuel : Nat) (s : State) :
    ∃ n, run p fuel s = (step p)^[n] s ∧ ∀ m < n, ((step p)^[m] s).stack ≠ [] := by
  induction fuel generalizing s with
  | zero => exact ⟨0, rfl, nofun⟩
  | succ fuel ih =>
    rw [run]
    split
    · exact ⟨0, rfl, nofun⟩
    · rename_i busy
      obtain ⟨n, run_eq, before⟩ := ih (step p s)
      refine ⟨n + 1, run_eq, fun m hm => ?_⟩
      cases m with
      | zero => simpa using busy
      | succ m => exact before m (Nat.lt_of_succ_lt_succ hm)

/-- The search from a node ends, and its outcome does not depend on fuel. -/
theorem exists_ends_visit (h : Reached p s) (idle : s.stack = []) {i : Nat}
    (fresh : colorOf s i = .unvisited) (scope : p.inScope i = true) :
    ∃ n, EndsAfter p (enter p s i) n ∧ visit p s i = (step p)^[n] (enter p s i) := by
  obtain ⟨n, run_eq, before⟩ := exists_iterate_run p (enough p) (enter p s i)
  have visit_eq : visit p s i = (step p)^[n] (enter p s i) := by
    rw [visit, if_pos ⟨fresh, scope⟩, run_eq]
  have ended := (h.visit idle i).2
  rw [visit_eq] at ended
  exact ⟨n, ⟨ended, before⟩, visit_eq⟩

/-- No node that was reached counts as unvisited later. -/
theorem pairwise_history (p : Problem) :
    (history p).Pairwise fun s s' => ∀ n, colorOf s n ≠ .unvisited → colorOf s' n ≠ .unvisited := by
  let Keeps : State → State → Prop := fun s s' =>
    ∀ n, colorOf s n ≠ .unvisited → colorOf s' n ≠ .unvisited
  have : Trans Keeps Keeps Keeps := ⟨fun h h' n hn => h' n (h n hn)⟩
  refine List.isChain_iff_pairwise.mp ((isChain_history p).imp_of_mem_imp ?_)
  intro s s' hs _ next n hn
  rcases next.moves_or_enter (reached_of_mem_history hs) with move | ⟨i, -, fresh, rfl⟩
  · exact move.reached hn
  · rw [colorOf_enter fresh]
    split
    · exact nofun
    · exact hn

/-- An edge back to a node that is on the stack is never passed over: it closes a cycle. -/
theorem cycles_step (h : Coherent p s) {node next : Nat} {more : List Nat} {rest : List Frame}
    (top : s.stack = ⟨node, next :: more⟩ :: rest) (scope : p.inScope next = true)
    (back : colorOf s next = .onStack) :
    ∃ cycle, cycleFrom? s.path next = some cycle ∧ (step p s).cycles = s.cycles ++ [cycle] := by
  obtain ⟨above, below, split, first⟩ := List.eq_append_cons_of_mem (h.onPath next back)
  have found : cycleFrom? s.path next = some (next :: above.reverse) := by
    rw [split, cycleFrom?_eq first]
  -- the edge is taken from its frame first, which changes neither colors nor path
  have color : colorOf (s.withStack (⟨node, more⟩ :: rest)) next = .onStack := back
  have foundThen : cycleFrom? (s.withStack (⟨node, more⟩ :: rest)).path next =
      some (next :: above.reverse) := found
  refine ⟨_, found, ?_⟩
  rw [step, top]
  show (follow p (s.withStack (⟨node, more⟩ :: rest)) next).cycles = _
  simp only [follow, scope, color, foundThen]
  rfl

/-! ### Pushes -/

@[simp]
theorem path_withStack (stack : List Frame) : (s.withStack stack).path = s.path := rfl

@[simp]
theorem path_leaving (node : Nat) (rest : List Frame) :
    (s.leaving node rest).path = s.path.tail := rfl

@[simp]
theorem path_noting (cycle : List Nat) : (s.noting cycle).path = s.path := rfl

/-- Whether a node is pushed between two states, as a number. -/
def pushed (s s' : State) (i : Nat) : Nat := if s'.path = i :: s.path then 1 else 0

theorem pushed_of_length_le (h : s'.path.length ≤ s.path.length) (i : Nat) : pushed s s' i = 0 :=
  if_neg fun same => by
    rw [same, List.length_cons] at h
    omega

theorem pushed_enter {t : State} (same : t.path = s.path) (j i : Nat) :
    pushed s (enter p t j) i = if j = i then 1 else 0 := by
  simp [pushed, enter, same]

/-- How often a node is pushed in a history. -/
def pushes (i : Nat) (h : List State) : Nat :=
  (h.zip h.tail).countP fun e => e.2.path = i :: e.1.path

theorem pushes_cons_cons (i : Nat) (s s' : State) (h : List State) :
    pushes i (s :: s' :: h) = pushed s s' i + pushes i (s' :: h) := by
  simp only [pushes, pushed, List.tail_cons, List.zip_cons_cons, List.countP_cons, decide_eq_true_eq]
  rw [Nat.add_comm]

/-- Whether a node is still to be pushed, as a number. -/
def awaits (s : State) (i : Nat) : Nat := if colorOf s i = .unvisited then 1 else 0

theorem awaits_congr {i : Nat} (h : colorOf s' i = .unvisited ↔ colorOf s i = .unvisited) :
    awaits s' i = awaits s i :=
  if_congr h rfl rfl

theorem awaits_enter {j : Nat} (fresh : colorOf s j = .unvisited) (i : Nat) :
    awaits s i = (if j = i then 1 else 0) + awaits (enter p s j) i := by
  rw [awaits, awaits, colorOf_enter fresh]
  by_cases same : i = j
  · simp [same, fresh]
  · simp [same, Ne.symm same]

/-- The nodes of a cycle that is closed lie on the path. -/
theorem mem_path_of_mem_cycle {above below : List Nat} {next n : Nat}
    (split : s.path = above ++ next :: below) (hn : n ∈ next :: above.reverse) : n ∈ s.path := by
  simp only [List.mem_cons, List.mem_reverse] at hn
  simp only [split, List.mem_append, List.mem_cons]
  tauto

/-- A node is pushed when it stops being unvisited. -/
theorem Next.awaits_eq (h : Reached p s) (n : Next p s s') (i : Nat) :
    awaits s i = pushed s s' i + awaits s' i := by
  have coherent := h.coherent
  rcases n.moves_or_enter h with move | ⟨j, -, fresh, rfl⟩
  · cases move with
    | @leave node rest top =>
      have reached := coherent.reached node (coherent.path_eq_cons top ▸ List.mem_cons_self)
      -- only the color of the node that is left changes, which was reached before
      rw [pushed_of_length_le (by simp), Nat.zero_add]
      exact (awaits_congr (by rw [colorOf_leaving]; grind)).symm
    | pass top =>
      rw [pushed_of_length_le (by simp), Nat.zero_add]
      rfl
    | @descend node next more rest top scope fresh =>
      rw [pushed_enter (path_withStack _)]
      exact awaits_enter (s := s.withStack (⟨node, more⟩ :: rest)) fresh i
    | @close node next more rest top scope back above below split first =>
      have reached : ∀ n ∈ next :: above.reverse, colorOf s n ≠ .unvisited := fun n hn =>
        coherent.reached n (mem_path_of_mem_cycle split hn)
      rw [pushed_of_length_le (by simp), Nat.zero_add]
      exact (awaits_congr (by rw [colorOf_noting]; grind [colorOf_withStack])).symm
  · rw [pushed_enter (t := s) rfl]
    exact awaits_enter fresh i

/-- Over a history, a node is pushed once if it stops being unvisited, and else not. -/
theorem pushes_add_awaits (i : Nat) : ∀ {h : List State} {s t : State}, h.head? = some s →
    h.getLast? = some t → h.IsChain (Next p) → Reached p s → pushes i h + awaits t i = awaits s i
  | [_], _, _, rfl, rfl, _, _ => by simp [pushes]
  | s :: s' :: h, _, t, rfl, last, chain, reached => by
    obtain ⟨next, chain⟩ := List.isChain_cons_cons.mp chain
    have rest := pushes_add_awaits i rfl (List.getLast?_cons_cons ▸ last) chain (next.reached reached)
    rw [pushes_cons_cons, next.awaits_eq reached, ← rest, Nat.add_assoc]

/-! ### Edges -/

/-- How often a node is on top of the stack in a history with the edges from the `k`-th on still to be
followed. The step from there follows the `k`-th edge, or leaves the node if it is behind the last. -/
def stands (p : Problem) (i k : Nat) (h : List State) : Nat :=
  h.countP fun s => s.stack.head? = some ⟨i, (p.edges i).drop k⟩

/-- With the edges from the `k`-th on to be followed, a step follows the `k`-th. -/
theorem step_eq_follow {i k next : Nat} (top : s.stack.head? = some ⟨i, (p.edges i).drop k⟩)
    (edge : (p.edges i)[k]? = some next) :
    step p s = follow p (s.withStack (⟨i, (p.edges i).drop (k + 1)⟩ :: s.stack.tail)) next := by
  obtain ⟨inside, rfl⟩ := List.getElem?_eq_some_iff.mp edge
  have stack := List.eq_cons_of_mem_head? top
  rw [List.drop_eq_getElem_cons inside] at stack
  rw [step, stack]
  rfl

/-- How often a node is on the stack with its `k`-th edge still to be followed. -/
def inStack (p : Problem) (stack : List Frame) (i k : Nat) : Nat :=
  stack.countP fun f => f.node = i ∧ (p.edges i).length ≤ f.pending.length + k

theorem suffix_eq_drop_iff {xs ys : List Nat} (h : xs <:+ ys) {k : Nat} (hk : k ≤ ys.length) :
    xs = ys.drop k ↔ xs.length + k = ys.length := by
  constructor
  · rintro rfl
    rw [List.length_drop]
    omega
  · intro len
    rw [List.suffix_iff_eq_drop.mp h]
    congr 1
    omega

/-- Taking an edge from the top frame takes it from its node. -/
theorem inStack_take {node next : Nat} {more : List Nat} (rest : List Frame)
    (edges : next :: more <:+ p.edges node) (i : Nat) {k : Nat} (hk : k ≤ (p.edges i).length) :
    inStack p (⟨node, next :: more⟩ :: rest) i k =
      (if (⟨node, next :: more⟩ : Frame) = ⟨i, (p.edges i).drop k⟩ then 1 else 0) +
        inStack p (⟨node, more⟩ :: rest) i k := by
  simp only [inStack, List.countP_cons, Frame.mk.injEq, decide_eq_true_eq, List.length_cons]
  by_cases same : node = i
  · subst same
    simp only [suffix_eq_drop_iff edges hk, List.length_cons, true_and]
    split_ifs <;> omega
  · simp [same]

theorem inStack_leave (node : Nat) (rest : List Frame) (i k : Nat) :
    inStack p (⟨node, []⟩ :: rest) i k =
      (if (⟨node, []⟩ : Frame) = ⟨i, (p.edges i).drop k⟩ then 1 else 0) + inStack p rest i k := by
  simp only [inStack, List.countP_cons, Frame.mk.injEq, decide_eq_true_eq, List.length_nil,
    Nat.zero_add, List.nil_eq, List.drop_eq_nil_iff]
  exact Nat.add_comm _ _

theorem inStack_enter (j : Nat) (stack : List Frame) (i k : Nat) :
    inStack p (⟨j, p.edges j⟩ :: stack) i k = (if j = i then 1 else 0) + inStack p stack i k := by
  simp only [inStack, List.countP_cons, decide_eq_true_eq]
  rw [Nat.add_comm]
  by_cases same : j = i
  · simp [same]
  · simp [same]

/-- A push puts all edges of a node on the stack, and a step from its top takes one away. -/
theorem Next.inStack_add (h : Reached p s) (n : Next p s s') (i : Nat) {k : Nat}
    (hk : k ≤ (p.edges i).length) :
    pushed s s' i + inStack p s.stack i k =
      (if s.stack.head? = some ⟨i, (p.edges i).drop k⟩ then 1 else 0) + inStack p s'.stack i k := by
  have pending : ∀ {node next : Nat} {more : List Nat} {rest : List Frame},
      s.stack = ⟨node, next :: more⟩ :: rest → next :: more <:+ p.edges node := fun top =>
    h.coherent.pending _ (top ▸ List.mem_cons_self)
  rcases n.moves_or_enter h with move | ⟨j, idle, -, rfl⟩
  · cases move with
    | @leave node rest top =>
      rw [pushed_of_length_le (by simp), Nat.zero_add, top, inStack_leave]
      simp only [State.leaving, List.head?_cons, Option.some_inj]
    | @pass node next more rest top shut =>
      rw [pushed_of_length_le (by simp), Nat.zero_add, top, inStack_take rest (pending top) i hk]
      simp only [State.withStack, List.head?_cons, Option.some_inj]
    | @descend node next more rest top scope fresh =>
      rw [pushed_enter (path_withStack _), top, inStack_take rest (pending top) i hk]
      simp only [enter, State.withStack, List.head?_cons, Option.some_inj, inStack_enter]
      omega
    | @close node next more rest top scope back above below split first =>
      rw [pushed_of_length_le (by simp), Nat.zero_add, top, inStack_take rest (pending top) i hk]
      simp only [State.noting, State.withStack, List.head?_cons, Option.some_inj]
  · rw [pushed_enter (t := s) rfl]
    simp [enter, idle, inStack_enter]

/-- Over a history, a node is on top with its `k`-th edge next as often as it is pushed, up to what is on
the stack in the beginning and in the end. -/
theorem pushes_add_inStack (i : Nat) {k : Nat} (hk : k ≤ (p.edges i).length) :
    ∀ {h : List State} {s t : State}, h.head? = some s → h.getLast? = some t → t.stack = [] →
      h.IsChain (Next p) → Reached p s → pushes i h + inStack p s.stack i k = stands p i k h
  | [s], _, _, rfl, rfl, idle, _, _ => by
    have idle : s.stack = [] := idle
    simp [pushes, stands, inStack, idle]
  | s :: s' :: h, _, t, rfl, last, idle, chain, reached => by
    obtain ⟨next, chain⟩ := List.isChain_cons_cons.mp chain
    have rest := pushes_add_inStack i hk rfl (List.getLast?_cons_cons ▸ last) idle chain
      (next.reached reached)
    have move := next.inStack_add reached i hk
    have first : stands p i k (s :: s' :: h) =
        (if s.stack.head? = some ⟨i, (p.edges i).drop k⟩ then 1 else 0) + stands p i k (s' :: h) := by
      rw [stands, List.countP_cons, Nat.add_comm]
      simp [stands]
    rw [pushes_cons_cons, first, ← rest]
    omega

/-! ### The whole search -/

theorem pushes_history {i : Nat} (hi : i < p.size) (scope : p.inScope i = true) :
    pushes i (history p) = 1 := by
  have total := pushes_add_awaits i (head?_history p) (getLast?_history p) (isChain_history p) .start
  have first : awaits p.start i = 1 := by
    simp [awaits, Problem.start, colorOf, Array.getD, hi]
  have last : awaits (search p) i = 0 := if_neg (by rw [colorOf_search hi scope]; decide)
  rwa [first, last] at total

/-- Nothing out of scope is pushed. -/
theorem pushes_history_of_not_inScope {i : Nat} (out : p.inScope i = false) :
    pushes i (history p) = 0 := by
  refine List.countP_eq_zero.mpr fun e he pushed => ?_
  have coherent := (reached_of_mem_history (List.mem_of_mem_tail (List.of_mem_zip he).2)).coherent
  have onPath : i ∈ e.2.path := of_decide_eq_true pushed ▸ List.mem_cons_self
  exact Bool.false_ne_true (out.symm.trans (coherent.inScope i onPath))

/-- A node is on top with each of its edges next as often as it is pushed. -/
theorem stands_history {i k : Nat} (hk : k ≤ (p.edges i).length) :
    stands p i k (history p) = pushes i (history p) := by
  rw [← pushes_add_inStack i hk (head?_history p) (getLast?_history p) (stack_search p)
    (isChain_history p) .start]
  rfl

end ArchLint.CycleSearch

namespace ArchLint

open CycleSearch

/-- The search for cycles among the files of a scope ends from every file it begins at. Over the whole
search, every file in scope is pushed once and no other is, and every one of its edges is followed once.
All along, the state is coherent, an edge to what is on the stack closes a cycle, and no file becomes
unvisited again. In the end, all files in scope are done. -/
theorem search_pushes_files_and_follows_edges_once (scope : RoleSelector) (g : FileGraph) :
    let p := Check.cycleProblem scope g
    (∀ i < p.size,
      let s := (List.range i).foldl (visit p) p.start
      s.stack = [] ∧ (colorOf s i = .unvisited → p.inScope i = true →
        ∃ n, EndsAfter p (enter p s i) n ∧ visit p s i = (step p)^[n] (enter p s i))) ∧
    ((history p).head? = some p.start ∧ (history p).getLast? = some (search p) ∧
      (history p).IsChain (Next p)) ∧
    (∀ i, pushes i (history p) = if p.inScope i then 1 else 0) ∧
    (∀ i, ∀ k ≤ (p.edges i).length, stands p i k (history p) = if p.inScope i then 1 else 0) ∧
    (∀ s ∈ history p, Coherent p s ∧
      (∀ i k next, s.stack.head? = some ⟨i, (p.edges i).drop k⟩ → (p.edges i)[k]? = some next →
        step p s = follow p (s.withStack (⟨i, (p.edges i).drop (k + 1)⟩ :: s.stack.tail)) next) ∧
      ∀ node next more rest, s.stack = ⟨node, next :: more⟩ :: rest → p.inScope next = true →
        colorOf s next = .onStack → ∃ cycle, cycleFrom? s.path next = some cycle ∧
          (step p s).cycles = s.cycles ++ [cycle]) ∧
    ((history p).Pairwise fun s s' =>
      ∀ n, colorOf s n ≠ .unvisited → colorOf s' n ≠ .unvisited) ∧
    (search p).stack = [] ∧ ∀ i, p.inScope i = true → colorOf (search p) i = .done := by
  intro p
  have inside : ∀ i, p.inScope i = true → i < p.size := by
    intro i hi
    obtain ⟨n, found, -⟩ := (Option.any_eq_true _ _).mp hi
    simpa [p, Problem.size, Check.cycleProblem, FileGraph.successors] using
      (List.getElem?_eq_some_iff.mp found).1
  have once : ∀ i, pushes i (history p) = if p.inScope i then 1 else 0 := by
    intro i
    split
    · rename_i hi
      exact pushes_history (inside i hi) hi
    · rename_i out
      exact pushes_history_of_not_inScope (by simpa using out)
  refine ⟨fun i _ => ?_, ⟨head?_history p, getLast?_history p, isChain_history p⟩, once,
    fun i k hk => (stands_history hk).trans (once i), fun s hs => ?_, pairwise_history p,
    stack_search p, fun i hi => colorOf_search (inside i hi) hi⟩
  · have reached : Reached p ((List.range i).foldl (visit p) p.start) :=
      (foldl_visit _ .start rfl).1
    have idle := stack_foldl_visit p (List.range i)
    exact ⟨idle, exists_ends_visit reached idle⟩
  · have coherent := (reached_of_mem_history hs).coherent
    exact ⟨coherent, fun i k next => step_eq_follow, fun node next more rest => cycles_step coherent⟩

/-- A cycle within another, and a file out of scope: from the third file the first edge closes the inner
cycle while both its files are on the stack. -/
theorem search_of_cycle_within_cycle :
    let g : FileGraph := ⟨[⟨"a.ts", "CORE", [1, 3]⟩, ⟨"b.ts", "CORE", [2]⟩,
      ⟨"c.ts", "CORE", [1, 0]⟩, ⟨"d.ts", "UI", [0]⟩]⟩
    let p := Check.cycleProblem (.one "CORE") g
    let s := (step p)^[2] (enter p p.start 0)
    (∃ n, EndsAfter p (enter p p.start 0) n ∧ visit p p.start 0 = (step p)^[n] (enter p p.start 0)) ∧
    pushes 2 (history p) = 1 ∧ pushes 3 (history p) = 0 ∧
    stands p 2 1 (history p) = 1 ∧
    s ∈ history p ∧ s.path = [2, 1, 0] ∧ s.path.Nodup ∧
    (∃ cycle, cycleFrom? s.path 1 = some cycle ∧ (step p s).cycles = s.cycles ++ [cycle]) ∧
    colorOf (search p) 2 = .done := by
  intro g p s
  obtain ⟨ends, -, pushed, followed, along, -, -, done⟩ :=
    search_pushes_files_and_follows_edges_once (.one "CORE") g
  have member : s ∈ history p := by decide
  obtain ⟨coherent, -, closes⟩ := along s member
  exact ⟨(ends 0 (by decide)).2 (by decide) (by decide), pushed 2, pushed 3,
    followed 2 1 (by decide), member, by decide, coherent.nodup,
    closes 2 1 [0] _ (by rfl) (by decide) (by decide), done 2 (by decide)⟩

end ArchLint
