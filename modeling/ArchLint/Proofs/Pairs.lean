import ArchLint.Check.Hygiene
import Mathlib.Data.List.Nodup
import Mathlib.Data.Sym.Sym2

/-!
The pairs of a list, the earlier element first. Of two elements of a list that has none twice, just
one of the two pairs is among them.
-/

namespace ArchLint.Check

variable {α β : Type}

theorem orderedPairs_map (f : α → β) : ∀ xs : List α,
    orderedPairs (xs.map f) = (orderedPairs xs).map fun p => (f p.1, f p.2)
  | [] => rfl
  | x :: xs => by
    simp only [List.map_cons, orderedPairs, orderedPairs_map f xs, List.map_append, List.map_map,
      Function.comp_def]

theorem pairwise_iff_orderedPairs {r : α → α → Prop} : ∀ {xs : List α},
    xs.Pairwise r ↔ ∀ p ∈ orderedPairs xs, r p.1 p.2
  | [] => by simp [orderedPairs]
  | x :: xs => by
    rw [List.pairwise_cons, orderedPairs, List.forall_mem_append, List.forall_mem_map,
      pairwise_iff_orderedPairs]

theorem mem_of_mem_orderedPairs {x y : α} : ∀ {xs : List α}, (x, y) ∈ orderedPairs xs →
    x ∈ xs ∧ y ∈ xs
  | [], h => absurd h List.not_mem_nil
  | z :: xs, h => by
    rcases List.mem_append.mp h with h | h
    · obtain ⟨w, hw, same⟩ := List.mem_map.mp h
      obtain ⟨rfl, rfl⟩ := Prod.mk.inj same
      exact ⟨List.mem_cons_self, List.mem_cons_of_mem _ hw⟩
    · obtain ⟨hx, hy⟩ := mem_of_mem_orderedPairs h
      exact ⟨List.mem_cons_of_mem z hx, List.mem_cons_of_mem z hy⟩

/-- Of two elements the one comes first or the other. -/
theorem mem_orderedPairs_or {x y : α} (hne : x ≠ y) : ∀ {xs : List α}, x ∈ xs → y ∈ xs →
    (x, y) ∈ orderedPairs xs ∨ (y, x) ∈ orderedPairs xs
  | z :: xs, hx, hy => by
    rw [orderedPairs, List.mem_append, List.mem_append]
    rcases List.mem_cons.mp hx with rfl | hx'
    · have hy' := (List.mem_cons.mp hy).resolve_left hne.symm
      exact Or.inl (Or.inl (List.mem_map_of_mem hy'))
    rcases List.mem_cons.mp hy with rfl | hy'
    · exact Or.inr (Or.inl (List.mem_map_of_mem hx'))
    · rcases mem_orderedPairs_or hne hx' hy' with h | h
      · exact Or.inl (Or.inr h)
      · exact Or.inr (Or.inr h)

theorem nodup_unordered : ∀ {xs : List α}, xs.Nodup →
    ((orderedPairs xs).map fun p => s(p.1, p.2)).Nodup
  | [], _ => List.nodup_nil
  | x :: xs, h => by
    obtain ⟨hx, hxs⟩ := List.nodup_cons.mp h
    rw [orderedPairs, List.map_append, List.map_map, List.nodup_append]
    refine ⟨?_, nodup_unordered hxs, ?_⟩
    · exact hxs.map fun y z same => Sym2.congr_right.mp same
    · -- a later pair does not have `x`
      rintro _ he _ hf rfl
      obtain ⟨y, -, rfl⟩ := List.mem_map.mp he
      obtain ⟨⟨u, v⟩, hp, same⟩ := List.mem_map.mp hf
      obtain ⟨hu, hv⟩ := mem_of_mem_orderedPairs hp
      rcases Sym2.mem_iff.mp (same ▸ Sym2.mem_mk_left x y : x ∈ s(u, v)) with rfl | rfl
      · exact hx hu
      · exact hx hv

end ArchLint.Check
