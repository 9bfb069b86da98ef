import ArchLint.Check.Dependency
import ArchLint.Proofs.NotedCycles
import Mathlib.Data.Set.Subsingleton
import Mathlib.Logic.Relation

/-!
Every component with a cycle has one that is noted. As long as none is, no node of the component is
done before it is left, so an edge within the component never leads back along the path: its target
lies above its source or was left before (`Settled`). When a node is left, its edges within the
component therefore lead to nodes that were left earlier, and from none of these can one walk on
forever (`Quiet.ends`). In the end all nodes have been left, but on a cycle one can walk on forever.
-/

namespace ArchLint.CycleSearch

open Relation (ReflTransGen TransGen)

/-- An edge between nodes in scope. -/
def Problem.Leads (p : Problem) (a b : Nat) : Prop :=
  p.inScope a = true ∧ p.inScope b = true ∧ b ∈ p.edges a

instance (p : Problem) (a b : Nat) : Decidable (p.Leads a b) :=
  inferInstanceAs (Decidable (_ ∧ _ ∧ _))

/-- Edges lead from each of two nodes to the other. -/
def Problem.Linked (p : Problem) (a b : Nat) : Prop :=
  ReflTransGen p.Leads a b ∧ ReflTransGen p.Leads b a

/-- The nodes that are linked to one in scope. -/
def Problem.IsComponent (p : Problem) (component : Set Nat) : Prop :=
  ∃ a, p.inScope a = true ∧ component = {b | p.Linked a b}

/-- There is more than one node, or a node with an edge to itself. -/
def Problem.IsCyclic (p : Problem) (component : Set Nat) : Prop :=
  component.Nontrivial ∨ ∃ a ∈ component, p.Leads a a

variable {p : Problem} {s s' : State} {a : Nat}

/-! ### Components -/

theorem Problem.Linked.refl (p : Problem) (a : Nat) : p.Linked a a := ⟨.refl, .refl⟩

theorem Problem.Linked.symm {a b : Nat} (h : p.Linked a b) : p.Linked b a := ⟨h.2, h.1⟩

theorem Problem.Linked.trans {a b c : Nat} (h : p.Linked a b) (h' : p.Linked b c) : p.Linked a c :=
  ⟨h.1.trans h'.1, h'.2.trans h.2⟩

theorem Problem.Linked.transGen {a b : Nat} (h : p.Linked a b) (ne : a ≠ b) :
    TransGen p.Leads a a := by
  rcases Relation.reflTransGen_iff_eq_or_transGen.mp h.1 with same | out
  · exact absurd same.symm ne
  · exact out.trans_left h.2

theorem inScope_of_linked (scope : p.inScope a = true) {n : Nat} (h : p.Linked a n) :
    p.inScope n = true := by
  rcases h.1.cases_tail with rfl | ⟨m, -, leads⟩
  · exact scope
  · exact leads.2.1

theorem inScope_of_transGen (h : TransGen p.Leads a a) : p.inScope a = true := by
  obtain ⟨b, leads, -⟩ := TransGen.head'_iff.mp h
  exact leads.1

theorem Problem.IsCycle.leads {c : List Nat} (h : p.IsCycle c) :
    (c ++ c.take 1).IsChain p.Leads := by
  have inScope : ∀ n ∈ c ++ c.take 1, p.inScope n = true := by
    intro n hn
    rcases List.mem_append.mp hn with hn | hn
    · exact h.inScope n hn
    · exact h.inScope n (List.mem_of_mem_take hn)
  exact h.chain.imp_of_mem_imp fun x y hx hy edge => ⟨inScope x hx, inScope y hy, edge⟩

/-- The nodes of a cycle lie in one component. -/
theorem Problem.IsCycle.linked {c : List Nat} (h : p.IsCycle c) {m n : Nat} (hm : m ∈ c)
    (hn : n ∈ c) : p.Linked m n := by
  obtain ⟨entry, rest, rfl⟩ := List.exists_cons_of_ne_nil h.ne_nil
  have around : ((entry :: rest) ++ [entry]).IsChain p.Leads := h.leads
  have out : ∀ x ∈ (entry :: rest) ++ [entry], ReflTransGen p.Leads entry x :=
    around.concat_induction _ _ rfl (fun _ _ leads reach => reach.tail leads) .refl
  have back : ∀ x ∈ entry :: rest, ReflTransGen p.Leads x entry :=
    around.backwards_concat_induction _ _ (fun _ _ leads reach => reach.head leads) .refl
  have along : ∀ x ∈ entry :: rest, p.Linked entry x := fun x hx =>
    ⟨out x (List.mem_append_left _ hx), back x hx⟩
  exact (along m hm).symm.trans (along n hn)

/-- From the entry of a cycle edges lead back to it. -/
theorem Problem.IsCycle.exists_transGen {c : List Nat} (h : p.IsCycle c) :
    ∃ n ∈ c, TransGen p.Leads n n := by
  obtain ⟨entry, rest, rfl⟩ := List.exists_cons_of_ne_nil h.ne_nil
  refine ⟨entry, List.mem_cons_self, ?_⟩
  have around : (entry :: (rest ++ [entry])).IsChain p.Leads := h.leads
  cases rest with
  | nil => exact .single (List.isChain_cons_cons.mp around).1
  | cons next more =>
    have back : p.Linked next entry := h.linked (by simp) List.mem_cons_self
    exact .head' (List.isChain_cons_cons.mp around).1 back.1

/-- In a component with a cycle every node leads to another of it, or to itself. -/
theorem exists_leads_of_linked (h : TransGen p.Leads a a) {n : Nat} (hn : p.Linked a n) :
    ∃ m, p.Leads n m ∧ p.Linked a m := by
  obtain ⟨m, leads, back⟩ := TransGen.head'_iff.mp (TransGen.trans_right hn.2 h)
  exact ⟨m, leads, hn.1.tail leads, back⟩

/-! ### A component without noted cycle -/

/-- The node was left. -/
def Left (s : State) (n : Nat) : Prop := colorOf s n = .done ∧ n ∉ s.path

/-- The target of an edge was left or lies above its source. -/
def Settled (s : State) (source target : Nat) : Prop :=
  Left s target ∨ target ∈ s.path.takeWhile (· ≠ source)

/-- From the node one cannot walk on forever in its component. -/
abbrev Ends (p : Problem) (a n : Nat) : Prop := Acc (fun y x => p.Leads x y ∧ p.Linked a y) n

/-- What holds of the component of a node while none of its cycles is noted. Edges to one node, that of
an edge just taken, need not be settled. -/
structure Quiet (p : Problem) (a : Nat) (s : State) (but : Option Nat) : Prop where
  onStack : ∀ n ∈ s.path, p.Linked a n → colorOf s n = .onStack
  followed : ∀ f ∈ s.stack, ∀ m ∈ p.edges f.node, p.Linked a m →
    m ∈ f.pending ∨ Settled s f.node m ∨ but = some m
  ends : ∀ n, p.Linked a n → Left s n → Ends p a n

namespace Quiet

variable {but : Option Nat}

theorem start : Quiet p a { color := Array.replicate p.size .unvisited } none where
  onStack := nofun
  followed := nofun
  ends n _ left := by
    -- only what is no node of the graph counts as done, and no edge leads from there
    have out : p.size ≤ n := by
      by_contra inside
      simp [Left, colorOf, Array.getD, Nat.lt_of_not_le inside] at left
    refine .intro n fun m next => ?_
    have edge : m ∈ p.edges n := next.1.2.2
    rw [Problem.edges, Array.getD_eq_getD_getElem?, Array.getElem?_eq_none out] at edge
    cases edge

/-- After an edge was taken from its frame, only its target need not be settled. -/
theorem take (h : Quiet p a s none) {node next : Nat} {more : List Nat} {rest : List Frame}
    (top : s.stack = ⟨node, next :: more⟩ :: rest) :
    Quiet p a (s.withStack (⟨node, more⟩ :: rest)) (some next) where
  onStack := h.onStack
  followed := by
    have followed := h.followed
    rw [top] at followed
    obtain ⟨first, others⟩ := List.forall_mem_cons.mp followed
    refine List.forall_mem_cons.mpr ⟨fun m hm linked => ?_, fun f hf m hm linked => ?_⟩
    · rcases first m hm linked with pending | settled | none
      · rcases List.mem_cons.mp pending with rfl | later
        · exact .inr (.inr rfl)
        · exact .inl later
      · exact .inr (.inl settled)
      · cases none
    · exact (others f hf m hm linked).imp_right fun settled => settled.imp_right nofun
  ends := h.ends

theorem settle (h : Quiet p a s but) (settled : ∀ m ∈ but, p.Linked a m → Left s m) :
    Quiet p a s none :=
  { h with
    followed := fun f hf m hm linked =>
      (h.followed f hf m hm linked).imp_right fun known =>
        .inl (known.elim id fun taken => .inl (settled m taken linked)) }

theorem enter (h : Quiet p a s but) (coherent : Coherent p s) {i : Nat}
    (fresh : colorOf s i = .unvisited) (taken : ∀ m ∈ but, m = i) :
    Quiet p a (enter p s i) none where
  onStack := by
    refine List.forall_mem_cons.mpr ⟨fun _ => ?_, fun n hn linked => ?_⟩
    · rw [colorOf_enter fresh, if_pos rfl]
    · rw [colorOf_enter fresh]
      split
      · rfl
      · exact h.onStack n hn linked
  followed := by
    refine List.forall_mem_cons.mpr ⟨fun m hm _ => .inl hm, fun f hf m hm linked => ?_⟩
    have inPath : f.node ∈ s.path := coherent.path ▸ List.mem_map_of_mem hf
    have new : f.node ≠ i := fun same => coherent.reached f.node inPath (same ▸ fresh)
    -- the new node lies above every source, so what was above one still is
    have above : (i :: s.path).takeWhile (· ≠ f.node) = i :: s.path.takeWhile (· ≠ f.node) :=
      List.takeWhile_cons_of_pos (by simpa using new.symm)
    refine (h.followed f hf m hm linked).imp_right fun known => .inl ?_
    rcases known with (⟨done, off⟩ | between) | same
    · have other : m ≠ i := ne_of_apply_ne (colorOf s) (by simp [done, fresh])
      exact .inl ⟨by rw [colorOf_enter fresh, if_neg other, done],
        List.not_mem_cons_of_ne_of_not_mem other off⟩
    · exact .inr (above ▸ List.mem_cons_of_mem i between)
    · exact .inr (above ▸ taken m same ▸ List.mem_cons_self)
  ends n linked left := by
    obtain ⟨done, off⟩ := left
    obtain ⟨other, off⟩ := List.ne_and_not_mem_of_not_mem_cons off
    rw [colorOf_enter fresh, if_neg other] at done
    exact h.ends n linked ⟨done, off⟩

theorem leave (h : Quiet p a s none) (coherent : Coherent p s) {node : Nat} {rest : List Frame}
    (top : s.stack = ⟨node, []⟩ :: rest) : Quiet p a (s.leaving node rest) none := by
  have path := coherent.path_eq_cons top
  have off : node ∉ rest.map Frame.node := (List.nodup_cons.mp (path ▸ coherent.nodup)).1
  have left : ∀ {m}, Left s m → Left (s.leaving node rest) m := fun before =>
    ⟨(Moves.leave (p := p) top).done before.1, fun later => before.2 (List.mem_of_mem_tail later)⟩
  have leftNow : Left (s.leaving node rest) node := by
    refine ⟨by simp, ?_⟩
    rwa [State.leaving, path]
  have followed := h.followed
  rw [top] at followed
  obtain ⟨first, others⟩ := List.forall_mem_cons.mp followed
  refine ⟨fun n hn linked => ?_, fun f hf m hm linked => ?_, fun n linked hn => ?_⟩
  · have other : n ≠ node := fun same => leftNow.2 (same ▸ hn)
    rw [colorOf_leaving, if_neg other]
    exact h.onStack n (List.mem_of_mem_tail hn) linked
  · have below : f.node ≠ node := fun same => off (same ▸ List.mem_map_of_mem hf)
    refine (others f hf m hm linked).imp_right fun settled => .inl ?_
    rcases settled with (done | between) | none
    · exact .inl (left done)
    · rw [path, List.takeWhile_cons_of_pos (by simpa using below.symm)] at between
      rcases List.mem_cons.mp between with rfl | between
      · exact .inl leftNow
      · refine .inr ?_
        rwa [State.leaving, path]
    · cases none
  · by_cases same : n = node
    · subst same
      -- nothing lies above the node that is left, so its targets were left before it
      refine .intro n fun m next => ?_
      obtain ⟨leads, linked⟩ := next
      rcases first m leads.2.2 linked with pending | (done | between) | none
      · cases pending
      · exact h.ends m linked done
      · simp [path] at between
      · cases none
    · obtain ⟨done, hn⟩ := hn
      rw [colorOf_leaving, if_neg same] at done
      rw [State.leaving, path] at hn
      refine h.ends n linked ⟨done, ?_⟩
      rw [path]
      exact List.not_mem_cons_of_ne_of_not_mem same hn

/-- A cycle of another component leaves this one as it was. -/
theorem noting (h : Quiet p a s but) {cycle : List Nat} (apart : ∀ n ∈ cycle, ¬ p.Linked a n)
    (taken : ∀ m ∈ but, m ∈ cycle) : Quiet p a (s.noting cycle) none where
  onStack n hn linked := by
    rw [colorOf_noting, if_neg fun hc => apart n hc linked]
    exact h.onStack n hn linked
  followed f hf m hm linked := by
    refine (h.followed f hf m hm linked).imp_right fun known => .inl ?_
    rcases known with (⟨done, off⟩ | between) | same
    · exact .inl ⟨by rw [colorOf_noting, done, ite_self], off⟩
    · exact .inr between
    · exact absurd linked (apart m (taken m same))
  ends n linked left := by
    obtain ⟨done, off⟩ := left
    rw [colorOf_noting, if_neg fun hc => apart n hc linked] at done
    exact h.ends n linked ⟨done, off⟩

end Quiet

/-! ### Components with a cycle -/

/-- A cycle of the component of a node is noted. -/
def Covered (p : Problem) (a : Nat) (s : State) : Prop := ∃ c ∈ s.cycles, ∀ n ∈ c, p.Linked a n

theorem Covered.moves (h : Covered p a s) (m : Moves p s s') : Covered p a s' := by
  obtain ⟨c, hc, all⟩ := h
  cases m with
  | leave | pass | descend => exact ⟨c, hc, all⟩
  | close => exact ⟨c, List.mem_append_left _ hc, all⟩

theorem Quiet.moves (h : Quiet p a s none) (coherent : Coherent p s) (scope : p.inScope a = true)
    (m : Moves p s s') : Covered p a s' ∨ Quiet p a s' none := by
  cases m with
  | leave top => exact .inr (h.leave coherent top)
  | @pass node next more rest top shut =>
    refine .inr ((h.take top).settle ?_)
    rintro _ ⟨⟩ linked
    rcases shut with out | done
    · exact absurd (inScope_of_linked scope linked) (by simp [out])
    · -- a node of the path is not done
      exact ⟨done, fun inPath => absurd ((h.onStack next inPath linked).symm.trans done) nofun⟩
  | descend top _ fresh =>
    refine .inr ((h.take top).enter (coherent.take top) fresh ?_)
    rintro _ ⟨⟩
    rfl
  | @close node next more rest top _ _ above below split _ =>
    have cycle := isCycle_of_close coherent top split
    by_cases meets : ∃ n ∈ next :: above.reverse, p.Linked a n
    · obtain ⟨n, hn, linked⟩ := meets
      exact .inl ⟨_, List.mem_append_right _ (List.mem_singleton_self _),
        fun m hm => linked.trans (cycle.linked hn hm)⟩
    · refine .inr ((h.take top).noting (fun n hn linked => meets ⟨n, hn, linked⟩) ?_)
      rintro _ ⟨⟩
      exact List.mem_cons_self

theorem Reached.covered_or_quiet (h : Reached p s) (scope : p.inScope a = true) :
    Covered p a s ∨ Quiet p a s none := by
  refine h.induction (P := fun s => Covered p a s ∨ Quiet p a s none) (.inr .start) ?_ ?_
  · rintro s i coherent - fresh - (covered | quiet)
    · exact .inl covered
    · exact .inr (quiet.enter coherent fresh nofun)
  · rintro s s' coherent m (covered | quiet)
    · exact .inl (covered.moves m)
    · exact quiet.moves coherent scope m

theorem not_ends (h : TransGen p.Leads a a) {n : Nat} (linked : p.Linked a n) : ¬ Ends p a n := by
  intro ends
  induction ends with
  | intro n _ ih =>
    obtain ⟨m, leads, next⟩ := exists_leads_of_linked h linked
    exact ih m ⟨leads, next⟩ next

/-- What is in scope was left when the search is over. -/
theorem left_search {n : Nat} (scope : p.inScope n = true) : Left (search p) n := by
  refine ⟨?_, by simp [path_search]⟩
  by_cases inside : n < p.size
  · exact colorOf_search inside scope
  · by_contra notDone
    exact inside ((reached_search p).coherent.size ▸ lt_size_of_colorOf_ne_done notDone)

theorem exists_findCycles_of_transGen (h : TransGen p.Leads a a) :
    ∃ c ∈ findCycles p, ∀ n ∈ c, p.Linked a n := by
  have scope := inScope_of_transGen h
  refine ((reached_search p).covered_or_quiet scope).resolve_right fun quiet => ?_
  exact not_ends h (.refl p a) (quiet.ends a (.refl p a) (left_search scope))

theorem transGen_of_isCyclic {component : Set Nat} (h : p.IsComponent component)
    (cyclic : p.IsCyclic component) : ∃ b ∈ component, TransGen p.Leads b b := by
  obtain ⟨a, -, rfl⟩ := h
  rcases cyclic with ⟨x, hx, y, hy, ne⟩ | ⟨x, hx, itself⟩
  · exact ⟨x, hx, (hx.symm.trans hy).transGen ne⟩
  · exact ⟨x, hx, .single itself⟩

/-- A component with a cycle has one that is found. -/
theorem exists_findCycles_of_isCyclic {component : Set Nat} (h : p.IsComponent component)
    (cyclic : p.IsCyclic component) :
    ∃ c ∈ findCycles p, p.IsCycle c ∧ ∀ n ∈ c, n ∈ component := by
  obtain ⟨b, hb, around⟩ := transGen_of_isCyclic h cyclic
  obtain ⟨c, hc, all⟩ := exists_findCycles_of_transGen around
  obtain ⟨a, -, rfl⟩ := h
  exact ⟨c, hc, isCycle_of_mem_findCycles hc, fun n hn => hb.trans (all n hn)⟩

theorem findCycles_eq_nil_iff : findCycles p = [] ↔ ∀ a, ¬ TransGen p.Leads a a := by
  refine ⟨fun none a around => ?_, fun acyclic => List.eq_nil_iff_forall_not_mem.mpr fun c hc => ?_⟩
  · obtain ⟨c, hc, -⟩ := exists_findCycles_of_transGen around
    exact List.not_mem_nil (none ▸ hc)
  · obtain ⟨n, -, around⟩ := (isCycle_of_mem_findCycles hc).exists_transGen
    exact acyclic n around

end ArchLint.CycleSearch

namespace ArchLint

open CycleSearch

/-- Of every component of the files in scope that has a cycle, a cycle is found, and none is found
only if there is none. -/
theorem every_cyclic_component_is_reported (scope : RoleSelector) (g : FileGraph) :
    (∀ component, (Check.cycleProblem scope g).IsComponent component →
      (Check.cycleProblem scope g).IsCyclic component →
        ∃ c ∈ findCycles (Check.cycleProblem scope g),
          (Check.cycleProblem scope g).IsCycle c ∧ ∀ n ∈ c, n ∈ component) ∧
    (findCycles (Check.cycleProblem scope g) = [] ↔
      ∀ a, ¬ Relation.TransGen (Check.cycleProblem scope g).Leads a a) :=
  ⟨fun _ h cyclic => exists_findCycles_of_isCyclic h cyclic, findCycles_eq_nil_iff⟩

/-- A cycle within another, and a file outside the scope that would close a third. -/
theorem cycle_within_cycle_is_reported :
    let scope : RoleSelector := .one "CORE"
    let g : FileGraph := ⟨[⟨"a.ts", "CORE", [1, 3]⟩, ⟨"b.ts", "CORE", [2]⟩,
      ⟨"c.ts", "CORE", [1, 0]⟩, ⟨"d.ts", "UI", [0]⟩]⟩
    let p := Check.cycleProblem scope g
    p.IsComponent {n | p.Linked 0 n} ∧ p.IsCyclic {n | p.Linked 0 n} ∧
      ∃ c ∈ findCycles p, p.IsCycle c ∧ ∀ n ∈ c, p.Linked 0 n := by
  intro scope g p
  have leads : p.Leads 0 1 ∧ p.Leads 1 2 ∧ p.Leads 2 0 := by decide
  obtain ⟨first, second, third⟩ := leads
  have linked : p.Linked 0 1 := ⟨.single first, .head second (.single third)⟩
  have component : p.IsComponent {n | p.Linked 0 n} := ⟨0, by decide, rfl⟩
  have cyclic : p.IsCyclic {n | p.Linked 0 n} := .inl ⟨0, .refl p 0, 1, linked, by decide⟩
  exact ⟨component, cyclic, (every_cyclic_component_is_reported scope g).1 _ component cyclic⟩

end ArchLint
