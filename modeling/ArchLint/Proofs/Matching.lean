import ArchLint.Naming.Similarity
import Mathlib.Data.List.Nodup
import Mathlib.Data.List.Perm.Basic
import Mathlib.Data.List.Zip
import Mathlib.Data.Prod.Basic

/-!
The matching of two names. A near pair that a scan does not claim gave way to a pair with an earlier
place in one of the names (`Greedy`, `Stable`). That does not say which name was scanned, and there
is only one such matching (`Stable.mem_iff`), so the names may be exchanged (`pairs_comm`) and the
score of two names does not ask for their order, however it is rounded (`score_comm`).
-/

namespace ArchLint.Similarity

/-- The same character stands at both places, no farther apart than `w`. -/
def Near (w : Nat) (a b : List Char) (i j : Nat) : Prop :=
  i ≤ j + w ∧ j ≤ i + w ∧ ∃ c, a[i]? = some c ∧ b[j]? = some c

theorem Near.symm {w : Nat} {a b : List Char} {i j : Nat} (h : Near w a b i j) : Near w b a j i := by
  obtain ⟨low, high, c, hi, hj⟩ := h
  exact ⟨high, low, c, hj, hi⟩

/-! ### One claim -/

theorem mem_places {w i j : Nat} :
    j ∈ List.range' (i - w) (i + w + 1 - (i - w)) ↔ i ≤ j + w ∧ j ≤ i + w := by
  rw [List.mem_range'_1]
  omega

theorem claim?_eq_none {w : Nat} {b : List Char} {taken : List (Nat × Nat)} {i : Nat} {c : Char} :
    claim? w b taken i c = none ↔
      ∀ j, i ≤ j + w → j ≤ i + w → b[j]? = some c → j ∈ taken.map Prod.snd := by
  simp only [claim?, List.find?_eq_none, mem_places, decide_eq_true_eq, not_and, not_not]
  exact ⟨fun h j low high => h j ⟨low, high⟩, fun h j hj => h j hj.1 hj.2⟩

/-- A claimed place is near, free, and the first of that kind. -/
theorem claim?_eq_some {w : Nat} {b : List Char} {taken : List (Nat × Nat)} {i j : Nat} {c : Char}
    (h : claim? w b taken i c = some j) :
    (i ≤ j + w ∧ j ≤ i + w ∧ b[j]? = some c) ∧ j ∉ taken.map Prod.snd ∧
      ∀ k < j, i ≤ k + w → b[k]? = some c → k ∈ taken.map Prod.snd := by
  obtain ⟨holds, place, earlier⟩ := List.find?_range'_eq_some.mp h
  obtain ⟨low, high⟩ := mem_places.mp place
  simp only [decide_eq_true_eq] at holds
  refine ⟨⟨low, high, holds.1⟩, holds.2, fun k hk near hc => ?_⟩
  have passed := earlier k (by omega) hk
  simpa [hc] using passed

/-! ### A run of claims -/

/-- Pairs of near places, none of which is used twice. -/
structure Matching (near : Nat → Nat → Prop) (ps : List (Nat × Nat)) : Prop where
  areNear : ∀ p ∈ ps, near p.1 p.2
  lefts : (ps.map Prod.fst).Nodup
  rights : (ps.map Prod.snd).Nodup

/-- A near pair is matched, or gave way to a pair with an earlier place. -/
def SettledAt (ps : List (Nat × Nat)) (i j : Nat) : Prop :=
  (i, j) ∈ ps ∨ (∃ j' < j, (i, j') ∈ ps) ∨ ∃ i' < i, (i', j) ∈ ps

/-- A matching of the places before `n`, settled as far as that. -/
structure Greedy (near : Nat → Nat → Prop) (n : Nat) (ps : List (Nat × Nat)) : Prop extends
    Matching near ps where
  below : ∀ p ∈ ps, p.1 < n
  settled : ∀ i < n, ∀ j, near i j → SettledAt ps i j

/-- A matching in which all near pairs are settled. -/
structure Stable (near : Nat → Nat → Prop) (ps : List (Nat × Nat)) : Prop extends
    Matching near ps where
  settled : ∀ i j, near i j → SettledAt ps i j

theorem SettledAt.cons {ps : List (Nat × Nat)} {i j : Nat} (h : SettledAt ps i j) (p : Nat × Nat) :
    SettledAt (p :: ps) i j := by
  rcases h with this | ⟨j', hj', this⟩ | ⟨i', hi', this⟩
  · exact Or.inl (List.mem_cons_of_mem p this)
  · exact Or.inr (Or.inl ⟨j', hj', List.mem_cons_of_mem p this⟩)
  · exact Or.inr (Or.inr ⟨i', hi', List.mem_cons_of_mem p this⟩)

namespace Greedy

theorem nil (near : Nat → Nat → Prop) : Greedy near 0 [] where
  areNear := by simp
  lefts := List.nodup_nil
  rights := List.nodup_nil
  below := by simp
  settled := by simp

/-- A place that is used was used by a place before. -/
theorem settledAt_of_used {near : Nat → Nat → Prop} {n j : Nat} {ps : List (Nat × Nat)}
    (h : Greedy near n ps) (hj : j ∈ ps.map Prod.snd) : SettledAt ps n j := by
  obtain ⟨p, hp, rfl⟩ := List.mem_map.mp hj
  exact Or.inr (Or.inr ⟨p.1, h.below p hp, hp⟩)

variable {w : Nat} {a b : List Char} {i : Nat} {c : Char} {ps : List (Nat × Nat)}

theorem claimed {j : Nat} (h : Greedy (Near w a b) i ps) (hc : a[i]? = some c)
    (hj : claim? w b ps i c = some j) : Greedy (Near w a b) (i + 1) ((i, j) :: ps) := by
  obtain ⟨⟨low, high, hb⟩, free, first⟩ := claim?_eq_some hj
  refine ⟨⟨?_, ?_, List.nodup_cons.mpr ⟨free, h.rights⟩⟩, ?_, ?_⟩
  · exact List.forall_mem_cons.mpr ⟨⟨low, high, c, hc, hb⟩, h.areNear⟩
  · refine List.nodup_cons.mpr ⟨fun hi => ?_, h.lefts⟩
    obtain ⟨p, hp, rfl⟩ := List.mem_map.mp hi
    exact Nat.lt_irrefl _ (h.below p hp)
  · exact List.forall_mem_cons.mpr ⟨Nat.lt_succ_self i, fun p hp => Nat.lt_succ_of_lt (h.below p hp)⟩
  · intro i' hi' k hk
    rcases Nat.lt_succ_iff_lt_or_eq.mp hi' with before | rfl
    · exact (h.settled i' before k hk).cons _
    · obtain ⟨near, -, d, hd, hbk⟩ := hk
      obtain rfl : c = d := Option.some.inj (hc.symm.trans hd)
      rcases Nat.lt_trichotomy k j with less | rfl | more
      · -- an earlier place was passed over, so it was used
        exact (h.settledAt_of_used (first k less near hbk)).cons _
      · exact Or.inl List.mem_cons_self
      · exact Or.inr (Or.inl ⟨j, more, List.mem_cons_self⟩)

theorem unclaimed (h : Greedy (Near w a b) i ps) (hc : a[i]? = some c)
    (hj : claim? w b ps i c = none) : Greedy (Near w a b) (i + 1) ps where
  toMatching := h.toMatching
  below p hp := Nat.lt_succ_of_lt (h.below p hp)
  settled i' hi' k hk := by
    rcases Nat.lt_succ_iff_lt_or_eq.mp hi' with before | rfl
    · exact h.settled i' before k hk
    · obtain ⟨low, high, d, hd, hbk⟩ := hk
      obtain rfl : c = d := Option.some.inj (hc.symm.trans hd)
      exact h.settledAt_of_used (claim?_eq_none.mp hj k low high hbk)

/-- The scan of what is left of the first name. -/
theorem scan : ∀ {cs : List Char} {i : Nat} {ps : List (Nat × Nat)}, a.drop i = cs →
    Greedy (Near w a b) i ps → Greedy (Near w a b) (i + cs.length) (scanFrom w b i cs ps)
  | [], _, _, _, h => h
  | c :: cs, i, ps, hd, h => by
    have head : a[i]? = some c := by rw [← List.head?_drop, hd]; rfl
    have tail : a.drop (i + 1) = cs := by rw [← List.tail_drop, hd]; rfl
    rw [List.length_cons, Nat.add_comm cs.length, ← Nat.add_assoc, scanFrom]
    cases hj : claim? w b ps i c with
    | some j => exact scan tail (h.claimed head hj)
    | none => exact scan tail (h.unclaimed head hj)

end Greedy

/-! ### The matching -/

theorem Matching.nodup {near : Nat → Nat → Prop} {ps : List (Nat × Nat)} (h : Matching near ps) :
    ps.Nodup :=
  List.Nodup.of_map _ h.lefts

namespace Stable

variable {near : Nat → Nat → Prop} {ps qs : List (Nat × Nat)}

theorem mem_of_mem {i j : Nat} (hp : Stable near ps) (hq : Stable near qs) (h : (i, j) ∈ ps)
    (ih : ∀ i' j', i' + j' < i + j → (i', j') ∈ qs → (i', j') ∈ ps) : (i, j) ∈ qs := by
  rcases hq.settled i j (hp.areNear _ h) with this | ⟨j', hj', this⟩ | ⟨i', hi', this⟩
  · exact this
  · have other := ih i j' (by omega) this
    have same := List.inj_on_of_nodup_map hp.lefts other h rfl
    simp only [Prod.mk.injEq] at same
    omega
  · have other := ih i' j (by omega) this
    have same := List.inj_on_of_nodup_map hp.rights other h rfl
    simp only [Prod.mk.injEq] at same
    omega

/-- There is only one matching in which everything is settled. -/
theorem mem_iff (hp : Stable near ps) (hq : Stable near qs) (i j : Nat) :
    (i, j) ∈ ps ↔ (i, j) ∈ qs := by
  -- a pair that one has and the other not gave way to a pair with a smaller sum
  induction h : i + j using Nat.strongRecOn generalizing i j with
  | ind n ih =>
    subst h
    exact ⟨fun hi => mem_of_mem hp hq hi fun i' j' less => (ih _ less i' j' rfl).mpr,
      fun hi => mem_of_mem hq hp hi fun i' j' less => (ih _ less i' j' rfl).mp⟩

theorem perm (hp : Stable near ps) (hq : Stable near qs) : ps.Perm qs :=
  (List.perm_ext_iff_of_nodup hp.nodup hq.nodup).mpr fun p =>
    mem_iff hp hq p.1 p.2

theorem swap (h : Stable near ps) : Stable (fun i j => near j i) (ps.map Prod.swap) where
  areNear p hp := by
    obtain ⟨q, hq, rfl⟩ := List.mem_map.mp hp
    exact h.areNear q hq
  lefts := by simpa [Function.comp_def] using h.rights
  rights := by simpa [Function.comp_def] using h.lefts
  settled i j hn := by
    have mem : ∀ {i j : Nat}, (i, j) ∈ ps → (j, i) ∈ ps.map Prod.swap := fun hp =>
      List.mem_map_of_mem (f := Prod.swap) hp
    rcases h.settled j i hn with this | ⟨i', hi', this⟩ | ⟨j', hj', this⟩
    · exact Or.inl (mem this)
    · exact Or.inr (Or.inr ⟨i', hi', mem this⟩)
    · exact Or.inr (Or.inl ⟨j', hj', mem this⟩)

end Stable

theorem window_comm (a b : List Char) : window a b = window b a := by
  rw [window, window, Nat.max_comm]

variable (a b : List Char)

theorem stable_pairs : Stable (Near (window a b) a b) (pairs a b) := by
  have run : Greedy (Near (window a b) a b) (0 + a.length) (scanFrom (window a b) b 0 a []) :=
    Greedy.scan rfl (Greedy.nil _)
  rw [Nat.zero_add] at run
  have inside : ∀ i j, Near (window a b) a b i j → i < a.length := fun i j h => by
    obtain ⟨-, -, c, hc, -⟩ := h
    exact (List.getElem?_eq_some_iff.mp hc).1
  refine ⟨⟨?_, ?_, ?_⟩, ?_⟩
  · simpa [pairs] using run.areNear
  · simpa [pairs] using run.lefts
  · simpa [pairs] using run.rights
  · simpa [pairs, SettledAt] using fun i j h => run.settled i (inside i j h) j h

/-- The same places are matched, whichever name comes first. -/
theorem pairs_comm : (pairs b a).Perm ((pairs a b).map Prod.swap) := by
  have near : (fun i j => Near (window a b) a b j i) = Near (window b a) b a := by
    funext i j
    rw [window_comm a b]
    exact propext ⟨Near.symm, Near.symm⟩
  have swapped := (stable_pairs a b).swap
  rw [near] at swapped
  exact (stable_pairs b a).perm swapped

/-! ### The score -/

theorem length_pairs_comm : (pairs b a).length = (pairs a b).length := by
  rw [(pairs_comm a b).length_eq, List.length_map]

theorem pick_congr {cs : List Char} {is js : List Nat} (h : is.Perm js) :
    pick cs is = pick cs js := by
  simp only [pick, h.mem_iff]

theorem misplaced_comm : misplaced b a = misplaced a b := by
  have left : ((pairs b a).map Prod.fst).Perm ((pairs a b).map Prod.snd) := by
    simpa [Function.comp_def] using (pairs_comm a b).map Prod.fst
  have right : ((pairs b a).map Prod.snd).Perm ((pairs a b).map Prod.fst) := by
    simpa [Function.comp_def] using (pairs_comm a b).map Prod.snd
  rw [misplaced, misplaced, pick_congr left, pick_congr right]
  generalize pick b _ = xs
  generalize pick a _ = ys
  rw [← List.zip_swap, List.filter_map, List.length_map]
  simp only [Function.comp_def, Prod.fst_swap, Prod.snd_swap, ne_comm]

theorem commonHead_comm : commonHead b a = commonHead a b := by
  rw [commonHead, commonHead, ← List.zip_swap, ← List.map_take, List.takeWhile_map,
    List.length_map]
  simp only [Function.comp_def, Prod.fst_swap, Prod.snd_swap, eq_comm]

theorem jaro_comm (r : Rounding) : jaro r b a = jaro r a b := by
  simp only [jaro, length_pairs_comm a b, misplaced_comm a b,
    Rat.add_comm (r (_ / (b.length : Rat)))]

/-- Which of two names comes first does not matter, however the score is rounded. -/
theorem score_comm (r : Rounding) : score r b a = score r a b := by
  have boost : boosted r b a = boosted r a b := by
    simp only [boosted, jaro_comm a b, commonHead_comm a b]
  unfold score
  rw [boost]
  refine if_congr eq_comm rfl (if_congr or_comm rfl rfl)

/-- Whichever of two names is scanned, the same pairs of places are matched, and as many of the matched
characters are out of order. So the names score the same both ways, and rounding makes no difference. -/
theorem exchanged_names_score_the_same :
    (pairs b a).Perm ((pairs a b).map Prod.swap) ∧
    (pairs b a).length = (pairs a b).length ∧
    misplaced b a = misplaced a b ∧
    ∀ r : Rounding, jaro r b a = jaro r a b ∧ score r b a = score r a b :=
  ⟨pairs_comm a b, length_pairs_comm a b, misplaced_comm a b,
    fun r => ⟨jaro_comm a b r, score_comm a b r⟩⟩

end ArchLint.Similarity
