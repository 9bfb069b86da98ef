import ArchLint.Proofs.DepthFirst
import Mathlib.Data.List.Rotate

/-!
What the search notes. A cycle is the part of the path from the node at which an edge leads back, and
its nodes are done from then on, so no later cycle is entered at one of them. They stay on the path
until they are left, though, and a later cycle may run through them again. What is left of a cycle on
the path is an initial part of it (`KeptOn`), and therefore a later cycle either has no node in common
with it or runs through its entry first (`Encloses`).
-/

namespace ArchLint.CycleSearch

variable {p : Problem} {s s' : State}

/-- Nodes in scope, no two of them the same, with an edge from each to the next and from the last to
the first. -/
structure Problem.IsCycle (p : Problem) (c : List Nat) : Prop where
  ne_nil : c ≠ []
  nodup : c.Nodup
  inScope : ∀ n ∈ c, p.inScope n = true
  chain : (c ++ c.take 1).IsChain fun a b => b ∈ p.edges a

/-- What two cycles have in common is an initial part of the earlier one, and the later one runs
through it without a break after it was entered elsewhere. -/
def Encloses (later earlier : List Nat) : Prop :=
  ∃ shared, shared ≠ [] ∧ shared <+: earlier ∧ shared <:+: later.tail ∧
    ∀ n ∈ earlier, n ∈ later → n ∈ shared

/-- Of a cycle an initial part lies on the path, without a break, and nothing else. The path has its
latest node first. -/
def KeptOn (path cycle : List Nat) : Prop :=
  ∃ kept, kept <+: cycle ∧ kept.reverse <:+: path ∧ ∀ n ∈ cycle, n ∈ path → n ∈ kept

/-! ### Cycles on the path -/

theorem KeptOn.cons {path cycle : List Nat} (h : KeptOn path cycle) {i : Nat} (hi : i ∉ cycle) :
    KeptOn (i :: path) cycle := by
  obtain ⟨kept, initial, inPath, all⟩ := h
  refine ⟨kept, initial, List.infix_cons_iff.mpr (.inr inPath), fun n hn onPath => ?_⟩
  exact all n hn ((List.mem_cons.mp onPath).resolve_left (ne_of_mem_of_not_mem hn hi))

theorem KeptOn.tail {path cycle : List Nat} (h : KeptOn path cycle) (nodup : path.Nodup) :
    KeptOn path.tail cycle := by
  cases path with
  | nil => exact h
  | cons node rest =>
    obtain ⟨kept, initial, inPath, all⟩ := h
    have node_notMem : node ∉ rest := (List.nodup_cons.mp nodup).1
    rcases List.infix_cons_iff.mp inPath with first | later
    · rcases List.prefix_cons_iff.mp first with none | ⟨t, ht, inRest⟩
      · refine ⟨kept, initial, by simp [none], fun n hn onPath => ?_⟩
        exact all n hn (List.mem_cons_of_mem node onPath)
      · -- the latest node ends the part, and the rest of the part stays
        have split : kept = t.reverse ++ [node] := by
          rw [← List.reverse_reverse kept, ht, List.reverse_cons]
        refine ⟨t.reverse, ?_, by simpa using inRest.isInfix, fun n hn onPath => ?_⟩
        · exact (split ▸ List.prefix_append _ _).trans initial
        · have inKept := all n hn (List.mem_cons_of_mem node onPath)
          rw [split] at inKept
          exact (List.mem_append.mp inKept).resolve_right fun last =>
            node_notMem (List.mem_singleton.mp last ▸ onPath)
    · exact ⟨kept, initial, later, fun n hn onPath => all n hn (List.mem_cons_of_mem node onPath)⟩

theorem keptOn_self (above below : List Nat) (i : Nat) :
    KeptOn (above ++ i :: below) (i :: above.reverse) := by
  refine ⟨i :: above.reverse, List.prefix_refl _, ?_, fun n hn _ => hn⟩
  exact ⟨[], below, by simp⟩

/-- A part of the path that lies above a node or below it, and not on it, lies above if one of its
nodes does. -/
theorem infix_above {above below part : List Nat} {i n : Nat} (nodup : (above ++ i :: below).Nodup)
    (inPath : part <:+: above ++ i :: below) (hi : i ∉ part) (hn : n ∈ part) (ha : n ∈ above) :
    part <:+: above := by
  obtain ⟨front, back, split⟩ := inPath
  rw [List.append_assoc] at split
  rcases List.append_eq_append_iff.mp split with ⟨as, rfl, rest⟩ | ⟨bs, rfl, rest⟩
  · rcases List.append_eq_append_iff.mp rest with ⟨bs, rfl, -⟩ | ⟨bs, rfl, meets⟩
    · exact ⟨front, bs, by simp⟩
    · cases bs with
      | nil => exact ⟨front, [], by simp⟩
      | cons j bs =>
        obtain ⟨rfl, -⟩ := List.cons.inj meets
        exact absurd (List.mem_append_right as List.mem_cons_self) hi
  · -- the part would lie at the node or below it
    have under : n ∈ i :: below := by
      rw [rest]
      simp [hn]
    exact absurd rfl ((List.nodup_append.mp nodup).2.2 n ha n under)

theorem KeptOn.disjoint_or_encloses {above below earlier : List Nat} {i : Nat}
    (h : KeptOn (above ++ i :: below) earlier) (nodup : (above ++ i :: below).Nodup)
    (hi : i ∉ earlier) :
    (∀ n ∈ earlier, n ∉ i :: above.reverse) ∨ Encloses (i :: above.reverse) earlier := by
  obtain ⟨kept, initial, inPath, all⟩ := h
  by_cases common : ∃ n ∈ earlier, n ∈ above
  · obtain ⟨n, hn, ha⟩ := common
    have hk : n ∈ kept := all n hn (List.mem_append_left _ ha)
    have inAbove : kept.reverse <:+: above := by
      refine infix_above nodup inPath (fun h => hi ?_) (List.mem_reverse.mpr hk) ha
      exact initial.subset (List.mem_reverse.mp h)
    refine .inr ⟨kept, List.ne_nil_of_mem hk, initial, ?_, fun m hm later => all m hm ?_⟩
    · rw [List.tail_cons, ← List.reverse_infix, List.reverse_reverse]
      exact inAbove
    · simp only [List.mem_cons, List.mem_reverse] at later
      simp only [List.mem_append, List.mem_cons]
      tauto
  · refine .inl fun n hn later => ?_
    rcases List.mem_cons.mp later with rfl | later
    · exact hi hn
    · exact common ⟨n, hn, List.mem_reverse.mp later⟩

/-! ### Noted cycles -/

/-- What holds of the cycles that have been noted. -/
structure Noted (p : Problem) (s : State) : Prop where
  cycles : ∀ c ∈ s.cycles, p.IsCycle c
  done : ∀ c ∈ s.cycles, ∀ n ∈ c, colorOf s n = .done
  kept : ∀ c ∈ s.cycles, KeptOn s.path c
  entries : s.cycles.Pairwise fun earlier later => ∀ n ∈ later.head?, n ∉ earlier
  apart : s.cycles.Pairwise fun earlier later =>
    (∀ n ∈ earlier, n ∉ later) ∨ Encloses later earlier

theorem isCycle_of_close (h : Coherent p s) {node next : Nat} {more : List Nat} {rest : List Frame}
    (top : s.stack = ⟨node, next :: more⟩ :: rest) {above below : List Nat}
    (split : s.path = above ++ next :: below) : p.IsCycle (next :: above.reverse) := by
  have part : above ++ [next] <+: s.path := ⟨below, by simp [split]⟩
  have part_subset : ∀ n ∈ next :: above.reverse, n ∈ above ++ [next] := by
    intro n hn
    simp only [List.mem_cons, List.mem_reverse] at hn
    simp only [List.mem_append, List.mem_singleton]
    tauto
  refine ⟨List.cons_ne_nil _ _, ?_, fun n hn => h.inScope n (part.subset (part_subset n hn)), ?_⟩
  · have nodup := part.sublist.nodup h.nodup
    rwa [← List.nodup_reverse, List.reverse_append] at nodup
  · have around : next :: above.reverse ++ (next :: above.reverse).take 1 =
        (next :: (above ++ [next])).reverse := by simp
    rw [around, List.isChain_reverse]
    have toNext := List.IsChain.prefix h.chain part
    refine toNext.cons fun y hy => ?_
    have latest : y ∈ s.path.head? := by
      obtain ⟨below, hb⟩ := part
      rw [← hb]
      exact List.mem_head?_append_of_mem_head? hy
    rw [h.path_eq_cons top] at latest
    obtain rfl := Option.some.inj latest
    exact h.mem_edges top

theorem Noted.moves (coherent : Coherent p s) (h : Noted p s) (m : Moves p s s') : Noted p s' := by
  have notDone : ∀ {i}, colorOf s i ≠ .done → ∀ c ∈ s.cycles, i ∉ c :=
    fun hi c hc mem => hi (h.done c hc _ mem)
  cases m with
  | leave top =>
    exact { h with
      done := fun c hc n hn => (Moves.leave (p := p) top).done (h.done c hc n hn)
      kept := fun c hc => (h.kept c hc).tail coherent.nodup }
  | pass top shut => exact { h with }
  | @descend node next more rest top scope fresh =>
    exact { h with
      done := fun c hc n hn => (Moves.descend top scope fresh).done (h.done c hc n hn)
      kept := fun c hc => (h.kept c hc).cons (notDone (by simp [fresh]) c hc) }
  | @close node next more rest top scope back above below split first =>
    have entry := notDone (i := next) (by simp [back])
    have nodup := coherent.nodup
    have kept := h.kept
    rw [split] at nodup kept
    exact {
      cycles := List.forall_mem_append.mpr ⟨h.cycles,
        List.forall_mem_singleton.mpr (isCycle_of_close coherent top split)⟩
      done := List.forall_mem_append.mpr
        ⟨fun c hc n hn => (Moves.close top scope back split first).done (h.done c hc n hn),
          List.forall_mem_singleton.mpr fun n hn => by rw [colorOf_noting, if_pos hn]⟩
      kept := by
        show ∀ c ∈ s.cycles ++ [next :: above.reverse], KeptOn s.path c
        rw [split]
        exact List.forall_mem_append.mpr ⟨kept,
          List.forall_mem_singleton.mpr (keptOn_self above below next)⟩
      entries := by
        refine List.pairwise_append.mpr ⟨h.entries, List.pairwise_singleton _ _, fun c hc d hd => ?_⟩
        obtain rfl := List.mem_singleton.mp hd
        rintro n ⟨⟩
        exact entry c hc
      apart := by
        refine List.pairwise_append.mpr ⟨h.apart, List.pairwise_singleton _ _, fun c hc d hd => ?_⟩
        obtain rfl := List.mem_singleton.mp hd
        exact (kept c hc).disjoint_or_encloses nodup (entry c hc) }

theorem Noted.enter (h : Noted p s) {i : Nat} (fresh : colorOf s i = .unvisited) :
    Noted p (enter p s i) := by
  have apart : ∀ c ∈ s.cycles, i ∉ c := fun c hc hi =>
    absurd (fresh.symm.trans (h.done c hc i hi)) nofun
  exact { h with
    done := fun c hc n hn => by
      rw [colorOf_enter fresh, if_neg (ne_of_mem_of_not_mem hn (apart c hc))]
      exact h.done c hc n hn
    kept := fun c hc => (h.kept c hc).cons (apart c hc) }

theorem Reached.noted (h : Reached p s) : Noted p s :=
  h.induction (P := Noted p) ⟨nofun, nofun, nofun, .nil, .nil⟩ (fun _ _ fresh _ ih => ih.enter fresh)
    (fun coherent m ih => ih.moves coherent m)

/-! ### Found cycles -/

theorem noted_search (p : Problem) : Noted p (search p) := (reached_search p).noted

theorem isCycle_of_mem_findCycles {c : List Nat} (hc : c ∈ findCycles p) : p.IsCycle c :=
  (noted_search p).cycles c hc

/-- The entry of a later cycle lies on no earlier one, which therefore is not the same, from wherever
one begins. -/
theorem pairwise_findCycles (p : Problem) :
    (findCycles p).Pairwise fun earlier later =>
      (∀ n ∈ later.head?, n ∉ earlier) ∧ ¬ earlier.IsRotated later := by
  refine (noted_search p).entries.imp_of_mem fun {earlier later} _ hl apart =>
    ⟨apart, fun rotated => ?_⟩
  obtain ⟨entry, rest, rfl⟩ := List.exists_cons_of_ne_nil (isCycle_of_mem_findCycles hl).ne_nil
  exact apart entry rfl (rotated.mem_iff.mpr List.mem_cons_self)

/-- There are no more cycles than nodes in scope: each has its own entry. -/
theorem length_findCycles_le {size : Nat} (inside : ∀ i, p.inScope i = true → i < size) :
    (findCycles p).length ≤ (List.range size).countP p.inScope := by
  have entries : ((findCycles p).map List.head?).Nodup := by
    refine List.pairwise_map.mpr ((noted_search p).entries.imp_of_mem fun {c d} hc _ apart same => ?_)
    obtain ⟨entry, rest, rfl⟩ := List.exists_cons_of_ne_nil (isCycle_of_mem_findCycles hc).ne_nil
    exact apart entry same.symm List.mem_cons_self
  have inScope : (findCycles p).map List.head? ⊆ ((List.range size).filter p.inScope).map some := by
    intro o ho
    obtain ⟨c, hc, rfl⟩ := List.mem_map.mp ho
    have cycle := isCycle_of_mem_findCycles hc
    obtain ⟨entry, rest, rfl⟩ := List.exists_cons_of_ne_nil cycle.ne_nil
    have scope := cycle.inScope entry List.mem_cons_self
    refine List.mem_map_of_mem (List.mem_filter.mpr ⟨List.mem_range.mpr (inside entry scope), scope⟩)
  simpa [List.countP_eq_length_filter] using entries.length_le_of_subset inScope

/-- The entry of the earlier cycle lies on the later one. -/
theorem Encloses.head?_mem {later earlier : List Nat} (h : Encloses later earlier) :
    ∃ n ∈ earlier.head?, n ∈ later := by
  obtain ⟨shared, ne, ⟨more, rfl⟩, inLater, -⟩ := h
  obtain ⟨n, shared, rfl⟩ := List.exists_cons_of_ne_nil ne
  exact ⟨n, rfl, List.mem_of_mem_tail (inLater.subset List.mem_cons_self)⟩

/-- Neither cycle runs through the entry of the other. -/
def EntriesApart (c d : List Nat) : Prop := (∀ n ∈ c.head?, n ∉ d) ∧ ∀ n ∈ d.head?, n ∉ c

instance (c d : List Nat) : Decidable (EntriesApart c d) :=
  inferInstanceAs (Decidable (_ ∧ _))

theorem EntriesApart.symm {c d : List Nat} (h : EntriesApart c d) : EntriesApart d c := ⟨h.2, h.1⟩

/-- Different cycles that are apart at their entries are apart everywhere. -/
theorem disjoint_of_entriesApart (p : Problem) {c d : List Nat} (hc : c ∈ findCycles p)
    (hd : d ∈ findCycles p) (ne : c ≠ d) (apart : EntriesApart c d) : ∀ n ∈ c, n ∉ d := by
  have either : (findCycles p).Pairwise fun c d => EntriesApart c d → ∀ n ∈ c, n ∉ d := by
    refine (noted_search p).apart.imp fun {earlier later} shares apart => ?_
    refine shares.resolve_right fun encloses => ?_
    obtain ⟨entry, first, inLater⟩ := encloses.head?_mem
    exact apart.1 entry first inLater
  have : Std.Symm fun c d : List Nat => EntriesApart c d → ∀ n ∈ c, n ∉ d :=
    ⟨fun _ _ h apart n hn hn' => h apart.symm n hn' hn⟩
  exact either.forall hc hd ne apart

end ArchLint.CycleSearch
