import ArchLint.Proofs.Matching
import Mathlib.Data.Finset.Card
import Mathlib.Logic.Equiv.Basic
import Mathlib.Order.Bounds.Basic

/-!
The scan of two names matches as much as can be matched. Of any other matching, what the scan has not
come to yet can be rearranged around its next claim at the cost of one pair (`Remaining.exchange`): if the
scanned place was matched farther along, whoever used the claimed place takes that one instead, which
is near enough because the window moves on with the place. So the rest of the scan makes up for every
pair of the rest (`Remaining.length_le_scan`). For the same reason equal characters are never matched
crosswise (`Stable.lt_of_lt`).
-/

namespace ArchLint.Similarity

variable {w : Nat} {a b : List Char}

/-! ### What is left to match -/

/-- A matching of places from `i` on with places that are not taken. -/
structure Remaining (near : Nat → Nat → Prop) (i : Nat) (taken qs : List (Nat × Nat)) : Prop extends
    Matching near qs where
  ahead : ∀ q ∈ qs, i ≤ q.1
  free : ∀ q ∈ qs, q.2 ∉ taken.map Prod.snd

theorem Matching.sublist {near : Nat → Nat → Prop} {ps qs : List (Nat × Nat)}
    (h : Matching near ps) (hs : qs.Sublist ps) : Matching near qs where
  areNear q hq := h.areNear q (hs.subset hq)
  lefts := (hs.map Prod.fst).nodup h.lefts
  rights := (hs.map Prod.snd).nodup h.rights

/-- Of pairs that differ in one place, at most one has a given place. -/
theorem length_le_length_filter_ne {f : Nat × Nat → Nat} {qs : List (Nat × Nat)}
    (nodup : (qs.map f).Nodup) (x : Nat) : qs.length ≤ (qs.filter fun q => f q ≠ x).length + 1 := by
  have once : qs.countP (fun q => f q = x) ≤ 1 := by
    have count := List.nodup_iff_count_le_one.mp nodup x
    rwa [List.count_eq_countP, List.countP_map] at count
  have split := List.length_eq_countP_add_countP (fun q => decide (f q = x)) (l := qs)
  simp only [List.countP_eq_length_filter, decide_eq_true_eq] at split once
  simp only [ne_eq]
  omega

namespace Remaining

variable {i : Nat} {taken qs : List (Nat × Nat)} {c : Char}

/-- A place that the scan can match has a free place near it. -/
theorem exists_claim?_le (h : Remaining (Near w a b) i taken qs) (hc : a[i]? = some c) {j : Nat}
    (hj : (i, j) ∈ qs) : ∃ k ≤ j, claim? w b taken i c = some k := by
  obtain ⟨low, high, d, hd, hb⟩ := h.areNear _ hj
  obtain rfl : c = d := Option.some.inj (hc.symm.trans hd)
  have unused : j ∉ taken.map Prod.snd := h.free _ hj
  cases hk : claim? w b taken i c with
  | none => exact absurd (claim?_eq_none.mp hk j low high hb) unused
  | some k =>
    obtain ⟨-, -, first⟩ := claim?_eq_some hk
    exact ⟨k, Nat.le_of_not_lt fun less => unused (first j less low hb), rfl⟩

/-- A place that cannot be matched is passed over. -/
theorem skip (h : Remaining (Near w a b) i taken qs) (hc : a[i]? = some c)
    (none : claim? w b taken i c = none) : Remaining (Near w a b) (i + 1) taken qs where
  toMatching := h.toMatching
  ahead q hq := by
    refine Nat.lt_of_le_of_ne (h.ahead q hq) fun same => ?_
    obtain ⟨k, -, claimed⟩ := h.exists_claim?_le hc (j := q.2) (same ▸ hq)
    exact nomatch none.symm.trans claimed
  free := h.free

/-- If the scanned place is not matched, the pair that uses the claimed place is given up. -/
theorem giveUp (h : Remaining (Near w a b) i taken qs) (unmatched : ∀ q ∈ qs, q.1 ≠ i) (j : Nat) :
    Remaining (Near w a b) (i + 1) ((i, j) :: taken) (qs.filter fun q => q.2 ≠ j) where
  toMatching := h.toMatching.sublist List.filter_sublist
  ahead q hq := by
    have hq := (List.mem_filter.mp hq).1
    exact Nat.lt_of_le_of_ne (h.ahead q hq) (unmatched q hq).symm
  free q hq := by
    obtain ⟨hq, other⟩ := List.mem_filter.mp hq
    rw [List.map_cons, List.mem_cons, not_or]
    exact ⟨of_decide_eq_true other, h.free q hq⟩

/-- If the scanned place is matched farther along, its pair is given up and its place goes to whoever
uses the claimed one. -/
theorem handOver (h : Remaining (Near w a b) i taken qs) (hc : a[i]? = some c) {j k : Nat}
    (claimed : claim? w b taken i c = some k) (hj : (i, j) ∈ qs) (le : k ≤ j) :
    Remaining (Near w a b) (i + 1) ((i, k) :: taken)
      ((qs.filter fun q => q.1 ≠ i).map (Prod.map id (Equiv.swap k j))) := by
  obtain ⟨⟨-, -, hbk⟩, unused, -⟩ := claim?_eq_some claimed
  obtain ⟨-, high, d, hd, hbj⟩ := h.areNear _ hj
  obtain rfl : c = d := Option.some.inj (hc.symm.trans hd)
  have rest := h.toMatching.sublist (List.filter_sublist (p := fun q => decide (q.1 ≠ i)))
  have notGiven : ∀ q ∈ qs.filter (fun q => q.1 ≠ i), q.2 ≠ j := by
    intro q hq same
    obtain ⟨hq, other⟩ := List.mem_filter.mp hq
    have := List.inj_on_of_nodup_map h.rights hq hj same
    exact of_decide_eq_true other (congrArg Prod.fst this)
  have later : ∀ q ∈ qs.filter (fun q => q.1 ≠ i), i < q.1 := by
    intro q hq
    obtain ⟨hq, other⟩ := List.mem_filter.mp hq
    exact Nat.lt_of_le_of_ne (h.ahead q hq) (Ne.symm (of_decide_eq_true other))
  refine ⟨⟨?_, ?_, ?_⟩, ?_, ?_⟩
  · -- the one pair that changes had the character of the claim, and its window reaches as far
    refine List.forall_mem_map.mpr fun q hq => ?_
    have near := rest.areNear q hq
    by_cases taker : q.2 = k
    · obtain ⟨low, -, e, he, hbe⟩ := near
      obtain rfl : c = e := Option.some.inj (hbk.symm.trans (taker ▸ hbe))
      have next := later q hq
      refine ⟨?_, ?_, c, he, ?_⟩ <;> simp only [Prod.map, id, taker, Equiv.swap_apply_left]
      · omega
      · omega
      · exact hbj
    · simpa only [Prod.map, id, Equiv.swap_apply_of_ne_of_ne taker (notGiven q hq)] using near
  · simpa [Function.comp_def] using rest.lefts
  · have rights := rest.rights.map (Equiv.swap k j).injective
    simpa [Function.comp_def] using rights
  · exact List.forall_mem_map.mpr fun q hq => later q hq
  · refine List.forall_mem_map.mpr fun q hq => ?_
    rw [List.map_cons, List.mem_cons, not_or]
    by_cases taker : q.2 = k
    · simp only [Prod.map, taker, Equiv.swap_apply_left]
      exact ⟨fun same => notGiven q hq (taker.trans same.symm), h.free _ hj⟩
    · simp only [Prod.map, Equiv.swap_apply_of_ne_of_ne taker (notGiven q hq)]
      exact ⟨taker, h.free q (List.mem_filter.mp hq).1⟩

/-- A claim costs what is left to match at most one pair. -/
theorem exchange (h : Remaining (Near w a b) i taken qs) (hc : a[i]? = some c) {k : Nat}
    (claimed : claim? w b taken i c = some k) :
    ∃ rest, Remaining (Near w a b) (i + 1) ((i, k) :: taken) rest ∧ qs.length ≤ rest.length + 1 := by
  by_cases matched : ∃ j, (i, j) ∈ qs
  · obtain ⟨j, hj⟩ := matched
    obtain ⟨k', le, same⟩ := h.exists_claim?_le hc hj
    obtain rfl : k = k' := Option.some.inj (claimed.symm.trans same)
    refine ⟨_, h.handOver hc claimed hj le, ?_⟩
    rw [List.length_map]
    exact length_le_length_filter_ne h.lefts i
  · have unmatched : ∀ q ∈ qs, q.1 ≠ i := fun q hq same => matched ⟨q.2, same ▸ hq⟩
    exact ⟨_, h.giveUp unmatched k, length_le_length_filter_ne h.rights k⟩

/-- The scan of what is left of the first name claims no fewer pairs than what is left to match. -/
theorem length_le_scan : ∀ {cs : List Char} {i : Nat} {taken qs : List (Nat × Nat)},
    a.drop i = cs → Remaining (Near w a b) i taken qs →
      qs.length + taken.length ≤ (scanFrom w b i cs taken).length
  | [], i, taken, qs, hd, h => by
    have none : qs = [] := List.eq_nil_iff_forall_not_mem.mpr fun q hq => by
      obtain ⟨-, -, c, hc, -⟩ := h.areNear q hq
      have inside := (List.getElem?_eq_some_iff.mp hc).1
      have outside := List.drop_eq_nil_iff.mp hd
      have ahead := h.ahead q hq
      omega
    simp [none, scanFrom]
  | c :: cs, i, taken, qs, hd, h => by
    have head : a[i]? = some c := by rw [← List.head?_drop, hd]; rfl
    have tail : a.drop (i + 1) = cs := by rw [← List.tail_drop, hd]; rfl
    rw [scanFrom]
    cases hk : claim? w b taken i c with
    | none => exact length_le_scan tail (h.skip head hk)
    | some k =>
      obtain ⟨rest, ahead, le⟩ := h.exchange head hk
      have scanned := length_le_scan tail ahead
      rw [List.length_cons] at scanned
      simp only
      omega

end Remaining

/-- No matching of near places has more pairs than the scan claims. -/
theorem Matching.length_le {qs : List (Nat × Nat)} (h : Matching (Near (window a b) a b) qs) :
    qs.length ≤ (pairs a b).length := by
  have start : Remaining (Near (window a b) a b) 0 [] qs :=
    { toMatching := h, ahead := fun _ _ => Nat.zero_le _, free := fun _ _ => List.not_mem_nil }
  have scanned := start.length_le_scan List.drop_zero
  rw [pairs, List.length_reverse]
  exact scanned

/-! ### Equal characters -/

/-- Of two pairs of one character, the earlier in one name is the earlier in the other. -/
theorem Stable.lt_of_lt {ps : List (Nat × Nat)} (h : Stable (Near w a b) ps) {i i' j j' : Nat}
    (hp : (i, j) ∈ ps) (hq : (i', j') ∈ ps) (same : a[i]? = a[i']?) (less : i < i') : j < j' := by
  obtain ⟨-, high, c, hi, -⟩ := h.areNear _ hp
  obtain ⟨low, -, c', hi', hj'⟩ := h.areNear _ hq
  by_contra crossed
  -- were they crossed, the earlier left place would be near the earlier right one
  have near : Near w a b i j' := by
    refine ⟨by omega, by omega, c, hi, ?_⟩
    obtain rfl : c = c' := Option.some.inj (hi.symm.trans (same.trans hi'))
    exact hj'
  have partner : ∀ k, (i, k) ∈ ps → k = j := fun k hk =>
    congrArg Prod.snd (List.inj_on_of_nodup_map h.lefts hk hp rfl)
  have owner : ∀ k, (k, j') ∈ ps → k = i' := fun k hk =>
    congrArg Prod.fst (List.inj_on_of_nodup_map h.rights hk hq rfl)
  rcases h.settled i j' near with itself | ⟨k, before, earlier⟩ | ⟨k, before, earlier⟩
  · have := owner i itself
    omega
  · have := partner k earlier
    omega
  · have := owner k earlier
    omega

/-! ### The maximum -/

/-- A set of pairs of near places, no place of either name used twice. -/
structure IsMatching (w : Nat) (a b : List Char) (m : Finset (Nat × Nat)) : Prop where
  areNear : ∀ p ∈ m, Near w a b p.1 p.2
  lefts : ∀ p ∈ m, ∀ q ∈ m, p.1 = q.1 → p = q
  rights : ∀ p ∈ m, ∀ q ∈ m, p.2 = q.2 → p = q

theorem Matching.isMatching {ps : List (Nat × Nat)} (h : Matching (Near w a b) ps) :
    IsMatching w a b ps.toFinset where
  areNear p hp := h.areNear p (List.mem_toFinset.mp hp)
  lefts _ hp _ hq :=
    List.inj_on_of_nodup_map h.lefts (List.mem_toFinset.mp hp) (List.mem_toFinset.mp hq)
  rights _ hp _ hq :=
    List.inj_on_of_nodup_map h.rights (List.mem_toFinset.mp hp) (List.mem_toFinset.mp hq)

theorem IsMatching.matching {m : Finset (Nat × Nat)} (h : IsMatching w a b m) :
    Matching (Near w a b) m.toList where
  areNear p hp := h.areNear p (Finset.mem_toList.mp hp)
  lefts := (List.nodup_map_iff_inj_on m.nodup_toList).mpr fun p hp q hq =>
    h.lefts p (Finset.mem_toList.mp hp) q (Finset.mem_toList.mp hq)
  rights := (List.nodup_map_iff_inj_on m.nodup_toList).mpr fun p hp q hq =>
    h.rights p (Finset.mem_toList.mp hp) q (Finset.mem_toList.mp hq)

/-- The scan matches as many characters as any choice of near pairs could that uses no place twice, and
it makes such a choice itself. Pairs of one character come in the same order in both names. -/
theorem scan_matches_as_much_as_possible (a b : List Char) :
    IsMatching (window a b) a b (pairs a b).toFinset ∧
    (pairs a b).toFinset.card = (pairs a b).length ∧
    IsGreatest {n | ∃ m, IsMatching (window a b) a b m ∧ m.card = n} (pairs a b).length ∧
    ∀ p ∈ pairs a b, ∀ q ∈ pairs a b, a[p.1]? = a[q.1]? → (p.1 < q.1 ↔ p.2 < q.2) := by
  have stable := stable_pairs a b
  have itself := stable.toMatching.isMatching
  have card := List.toFinset_card_of_nodup stable.toMatching.nodup
  refine ⟨itself, card, ⟨⟨_, itself, card⟩, ?_⟩, fun p hp q hq same => ⟨stable.lt_of_lt hp hq same, ?_⟩⟩
  · rintro n ⟨m, matching, rfl⟩
    rw [← Finset.length_toList]
    exact matching.matching.length_le
  · intro less
    rcases Nat.lt_trichotomy p.1 q.1 with before | equal | after
    · exact before
    · obtain rfl := List.inj_on_of_nodup_map stable.lefts hp hq equal
      exact absurd less (Nat.lt_irrefl _)
    · exact absurd (stable.lt_of_lt hq hp same.symm after) (Nat.lt_asymm less)

/-- The head of the first name stands too far from its only partner; all else is matched. -/
theorem five_characters_are_matched_in_order :
    let a := "banana".toList
    let b := "anabna".toList
    (1, 0) ∈ pairs a b ∧ (3, 2) ∈ pairs a b ∧ a[1]? = a[3]? ∧ (1 < 3 ↔ 0 < 2) ∧
      IsGreatest {n | ∃ m, IsMatching (window a b) a b m ∧ m.card = n} 5 := by
  intro a b
  have claimed : pairs a b = [(1, 0), (2, 1), (3, 2), (4, 4), (5, 5)] := by decide
  have first : (1, 0) ∈ pairs a b := by simp [claimed]
  have second : (3, 2) ∈ pairs a b := by simp [claimed]
  have same : a[1]? = a[3]? := by decide
  obtain ⟨-, -, greatest, ordered⟩ := scan_matches_as_much_as_possible a b
  rw [claimed] at greatest
  exact ⟨first, second, same, ordered _ first _ second same, greatest⟩

end ArchLint.Similarity
