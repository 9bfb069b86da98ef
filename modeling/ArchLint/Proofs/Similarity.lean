import ArchLint.Proofs.Matching
import Mathlib.Data.List.Range
import Mathlib.Data.Rat.Cast.Order
import Mathlib.Tactic.Linarith
import Mathlib.Tactic.Positivity

/-!
The range of the score, without rounding. Neither name is matched beyond its length, so every share
lies between zero and one (`jaro_nonneg`); when all three are one, both names are matched throughout
and in order, which only equal names are (`eq_of_complete`, `jaro_lt_one`). What the common head
adds is not all that is missing, so equal names have score one and no others (`score_eq_one`).
Different names have score zero exactly if nothing in them is matched (`score_eq_zero_iff`): a
common head would be.
-/

namespace ArchLint.Similarity

variable {a b : List Char}

/-! ### Counts -/

theorem places_lt {i j : Nat} (h : (i, j) ∈ pairs a b) : i < a.length ∧ j < b.length := by
  obtain ⟨-, -, c, hi, hj⟩ := (stable_pairs a b).areNear _ h
  exact ⟨(List.getElem?_eq_some_iff.mp hi).1, (List.getElem?_eq_some_iff.mp hj).1⟩

theorem lefts_subperm (a b : List Char) :
    ((pairs a b).map Prod.fst).Subperm (List.range a.length) := by
  refine (stable_pairs a b).lefts.subperm fun i hi => ?_
  obtain ⟨p, hp, rfl⟩ := List.mem_map.mp hi
  exact List.mem_range.mpr (places_lt hp).1

theorem rights_subperm (a b : List Char) :
    ((pairs a b).map Prod.snd).Subperm (List.range b.length) := by
  refine (stable_pairs a b).rights.subperm fun j hj => ?_
  obtain ⟨p, hp, rfl⟩ := List.mem_map.mp hj
  exact List.mem_range.mpr (places_lt hp).2

theorem length_pairs_le_left (a b : List Char) : (pairs a b).length ≤ a.length := by
  simpa using (lefts_subperm a b).length_le

theorem length_pairs_le_right (a b : List Char) : (pairs a b).length ≤ b.length := by
  simpa using (rights_subperm a b).length_le

theorem pick_eq_filterMap (cs : List Char) (places : List Nat) :
    pick cs places = ((List.range cs.length).filter (· ∈ places)).filterMap (cs[·]?) := by
  simp [pick, List.filterMap_filter]

theorem length_pick_le (cs : List Char) (places : List Nat) :
    (pick cs places).length ≤ places.length := by
  have chosen : ((List.range cs.length).filter (· ∈ places)).Subperm places :=
    (List.nodup_range.filter _).subperm fun i hi => by simpa using (List.mem_filter.mp hi).2
  rw [pick_eq_filterMap]
  exact (List.length_filterMap_le _ _).trans chosen.length_le

theorem misplaced_le (a b : List Char) : misplaced a b ≤ (pairs a b).length := by
  calc misplaced a b ≤ (List.zip _ _).length := List.length_filter_le _ _
    _ ≤ (pick a ((pairs a b).map Prod.fst)).length := by
        rw [List.length_zip]
        exact Nat.min_le_left _ _
    _ ≤ (pairs a b).length := by simpa using length_pick_le a ((pairs a b).map Prod.fst)

theorem commonHead_le (a b : List Char) : commonHead a b ≤ 4 := by
  refine (List.takeWhile_sublist _).length_le.trans ?_
  rw [List.length_take]
  exact Nat.min_le_left _ _

/-! ### Complete matchings -/

theorem filterMap_getElem?_range (cs : List Char) :
    (List.range cs.length).filterMap (cs[·]?) = cs := by
  induction cs with
  | nil => rfl
  | cons c cs ih => simpa [List.range_succ_eq_map, List.filterMap_map, Function.comp_def] using ih

theorem pick_of_perm {cs : List Char} {places : List Nat} (h : places.Perm (List.range cs.length)) :
    pick cs places = cs := by
  have all : (List.range cs.length).filter (· ∈ places) = List.range cs.length :=
    List.filter_eq_self.mpr fun i hi => by simpa using h.mem_iff.mpr hi
  rw [pick_eq_filterMap, all, filterMap_getElem?_range]

/-- Names that are matched throughout and in order are equal. -/
theorem eq_of_complete (ha : (pairs a b).length = a.length) (hb : (pairs a b).length = b.length)
    (ordered : misplaced a b = 0) : a = b := by
  have left : ((pairs a b).map Prod.fst).Perm (List.range a.length) :=
    (lefts_subperm a b).perm_of_length_le (by simp [ha])
  have right : ((pairs a b).map Prod.snd).Perm (List.range b.length) :=
    (rights_subperm a b).perm_of_length_le (by simp [hb])
  simp only [misplaced, pick_of_perm left, pick_of_perm right, List.length_eq_zero_iff,
    List.filter_eq_nil_iff, decide_eq_true_eq, not_not] at ordered
  refine List.ext_getElem (ha.symm.trans hb) fun i hi hj => ?_
  have place : i < (a.zip b).length := by simp only [List.length_zip]; omega
  simpa [List.getElem_zip] using ordered _ (List.getElem_mem place)

/-! ### Shares -/

theorem share_le_one {m n : Nat} (h : m ≤ n) : (m / n : ℚ) ≤ 1 :=
  div_le_one_of_le₀ (by exact_mod_cast h) (Nat.cast_nonneg n)

/-- Half of what is misplaced is not more than all that is matched. -/
theorem ordered_nonneg {m t : Nat} (ht : t ≤ m) : (0 : ℚ) ≤ m - (t : ℚ) / 2 := by
  have : (t : ℚ) ≤ m := by exact_mod_cast ht
  linarith [Nat.cast_nonneg (α := ℚ) t]

theorem ordered_le_one (m t : Nat) : ((m - (t : ℚ) / 2) / m : ℚ) ≤ 1 :=
  div_le_one_of_le₀ (by linarith [Nat.cast_nonneg (α := ℚ) t]) (Nat.cast_nonneg m)

theorem jaro_exact (h : (pairs a b).length ≠ 0) :
    jaro exact a b = ((pairs a b).length / a.length + (pairs a b).length / b.length +
      ((pairs a b).length - (misplaced a b : ℚ) / 2) / (pairs a b).length) / 3 := by
  rw [jaro]
  simp only [Nat.cast_eq_zero, if_neg h]
  rfl

theorem jaro_of_no_pairs (r : Rounding) (h : (pairs a b).length = 0) : jaro r a b = 0 := by
  simp [jaro, h]

theorem jaro_nonneg (a b : List Char) : 0 ≤ jaro exact a b := by
  by_cases h : (pairs a b).length = 0
  · rw [jaro_of_no_pairs exact h]
  · have ordered := ordered_nonneg (misplaced_le a b)
    rw [jaro_exact h]
    positivity

/-- Only equal names are matched in full. -/
theorem jaro_lt_one (h : a ≠ b) : jaro exact a b < 1 := by
  by_cases hm : (pairs a b).length = 0
  · rw [jaro_of_no_pairs exact hm]
    norm_num
  have left := length_pairs_le_left a b
  have right := length_pairs_le_right a b
  have hm' : (0 : ℚ) < (pairs a b).length := by exact_mod_cast Nat.pos_of_ne_zero hm
  have ha : (0 : ℚ) < a.length := by exact_mod_cast (Nat.pos_of_ne_zero hm).trans_le left
  have hb : (0 : ℚ) < b.length := by exact_mod_cast (Nat.pos_of_ne_zero hm).trans_le right
  have one := share_le_one left
  have two := share_le_one right
  have three := ordered_le_one (pairs a b).length (misplaced a b)
  rw [jaro_exact hm]
  -- no share can make up for what another lacks
  by_contra full
  have left' : ((pairs a b).length : ℚ) / a.length = 1 := by linarith
  have right' : ((pairs a b).length : ℚ) / b.length = 1 := by linarith
  have ordered' : (((pairs a b).length - (misplaced a b : ℚ) / 2) / (pairs a b).length : ℚ) = 1 := by
    linarith
  rw [div_eq_one_iff_eq ha.ne'] at left'
  rw [div_eq_one_iff_eq hb.ne'] at right'
  rw [div_eq_one_iff_eq hm'.ne'] at ordered'
  refine h (eq_of_complete (by exact_mod_cast left') (by exact_mod_cast right') ?_)
  have : (misplaced a b : ℚ) = 0 := by linarith
  exact_mod_cast this

/-! ### The score -/

theorem boosted_exact (a b : List Char) :
    boosted exact a b = jaro exact a b + commonHead a b * (1 / 10) * (1 - jaro exact a b) := rfl

theorem boosted_lt_one (h : a ≠ b) : boosted exact a b < 1 := by
  have missing : 0 < 1 - jaro exact a b := sub_pos.mpr (jaro_lt_one h)
  have head : (commonHead a b : ℚ) ≤ 4 := by exact_mod_cast commonHead_le a b
  rw [boosted_exact]
  nlinarith

theorem score_self (r : Rounding) (a : List Char) : score r a a = 1 := by simp [score]

theorem score_le_one (r : Rounding) (a b : List Char) : score r a b ≤ 1 := by
  unfold score
  split_ifs with equal empty small
  · exact le_rfl
  · exact zero_le_one
  · exact small
  · exact le_rfl

/-- Where the boosted score of different names stays below one, one is the score of equal names. -/
theorem score_eq_one_iff {r : Rounding} (less : a ≠ b → boosted r a b < 1) :
    score r a b = 1 ↔ a = b := by
  refine ⟨fun h => ?_, fun h => h ▸ score_self r a⟩
  by_contra different
  have less := less different
  rw [score, if_neg different, if_pos less.le] at h
  split at h
  · exact absurd h zero_ne_one
  · exact absurd h less.ne

/-- Without rounding, one is the score of equal names alone. -/
theorem score_eq_one : score exact a b = 1 ↔ a = b := score_eq_one_iff boosted_lt_one

/-! ### Names that share nothing -/

theorem length_pairs_eq_zero_iff :
    (pairs a b).length = 0 ↔ ∀ i j, ¬ Near (window a b) a b i j := by
  rw [List.length_eq_zero_iff]
  constructor
  · intro none i j near
    rcases (stable_pairs a b).settled i j near with h | ⟨j', -, h⟩ | ⟨i', -, h⟩
    all_goals
      rw [none] at h
      exact List.not_mem_nil h
  · intro far
    refine List.eq_nil_iff_forall_not_mem.mpr fun p hp => ?_
    exact far p.1 p.2 ((stable_pairs a b).areNear p hp)

/-- A character that both names begin with stands in the same place. -/
theorem near_of_commonHead {w : Nat} (h : commonHead a b ≠ 0) : Near w a b 0 0 := by
  cases a with
  | nil => exact absurd rfl h
  | cons c cs =>
    cases b with
    | nil => exact absurd rfl h
    | cons d ds =>
      by_cases same : c = d
      · exact ⟨Nat.zero_le _, Nat.zero_le _, c, rfl, by simp [same]⟩
      · simp [commonHead, same] at h

theorem commonHead_eq_zero (h : (pairs a b).length = 0) : commonHead a b = 0 := by
  by_contra head
  exact length_pairs_eq_zero_iff.mp h 0 0 (near_of_commonHead head)

theorem jaro_le_one (a b : List Char) : jaro exact a b ≤ 1 := by
  by_cases h : (pairs a b).length = 0
  · rw [jaro_of_no_pairs exact h]
    exact zero_le_one
  · have left := share_le_one (length_pairs_le_left a b)
    have right := share_le_one (length_pairs_le_right a b)
    have ordered := ordered_le_one (pairs a b).length (misplaced a b)
    rw [jaro_exact h]
    linarith

/-- Where something is matched, neither name is empty. -/
theorem lengths_ne_zero (h : (pairs a b).length ≠ 0) : a.length ≠ 0 ∧ b.length ≠ 0 := by
  have left := length_pairs_le_left a b
  have right := length_pairs_le_right a b
  omega

theorem jaro_pos (h : (pairs a b).length ≠ 0) : 0 < jaro exact a b := by
  obtain ⟨ha, hb⟩ := lengths_ne_zero h
  have matched : (0 : ℚ) < (pairs a b).length := by exact_mod_cast Nat.pos_of_ne_zero h
  have left : (0 : ℚ) < a.length := by exact_mod_cast Nat.pos_of_ne_zero ha
  have right : (0 : ℚ) < b.length := by exact_mod_cast Nat.pos_of_ne_zero hb
  have ordered := ordered_nonneg (misplaced_le a b)
  rw [jaro_exact h]
  positivity

theorem boosted_le_one (a b : List Char) : boosted exact a b ≤ 1 := by
  have missing : 0 ≤ 1 - jaro exact a b := sub_nonneg.mpr (jaro_le_one a b)
  have head : (commonHead a b : ℚ) ≤ 4 := by exact_mod_cast commonHead_le a b
  rw [boosted_exact]
  nlinarith

theorem jaro_le_boosted (a b : List Char) : jaro exact a b ≤ boosted exact a b := by
  have missing : 0 ≤ 1 - jaro exact a b := sub_nonneg.mpr (jaro_le_one a b)
  rw [boosted_exact]
  exact le_add_of_nonneg_right (by positivity)

theorem boosted_of_no_pairs (h : (pairs a b).length = 0) : boosted exact a b = 0 := by
  rw [boosted_exact, jaro_of_no_pairs exact h, commonHead_eq_zero h]
  norm_num

/-- Different names have the boosted score: there is nothing to cut off, and if one of them is empty
nothing is matched. -/
theorem score_of_ne (h : a ≠ b) : score exact a b = boosted exact a b := by
  unfold score
  rw [if_neg h]
  split
  · rename_i empty
    refine (boosted_of_no_pairs ?_).symm
    by_contra matched
    have lengths := lengths_ne_zero matched
    rcases empty with rfl | rfl
    · exact lengths.1 rfl
    · exact lengths.2 rfl
  · rw [if_pos (boosted_le_one a b)]

theorem jaro_le_score (a b : List Char) : jaro exact a b ≤ score exact a b := by
  rcases eq_or_ne a b with rfl | h
  · rw [score_self]
    exact jaro_le_one a a
  · rw [score_of_ne h]
    exact jaro_le_boosted a b

theorem score_eq_zero_iff (h : a ≠ b) :
    score exact a b = 0 ↔ ∀ i j, ¬ Near (window a b) a b i j := by
  rw [← length_pairs_eq_zero_iff, score_of_ne h]
  constructor
  · intro zero
    by_contra matched
    have more := (jaro_pos matched).trans_le (jaro_le_boosted a b)
    exact more.ne' zero
  · exact boosted_of_no_pairs

/-- Without rounding, scores lie between zero and one and are never below the share they start from,
so that there is nothing to cut off. One is the score of equal names; different names have score
zero exactly if no character of one stands near an equal one of the other. Where something is
matched, no name is empty, so the shares have numbers to divide by. -/
theorem scores_range_from_nothing_near_to_equal (a b : List Char) :
    0 ≤ jaro exact a b ∧ jaro exact a b ≤ score exact a b ∧ score exact a b ≤ 1 ∧
    boosted exact a b ≤ 1 ∧ (a ≠ b → score exact a b = boosted exact a b) ∧
    (score exact a b = 1 ↔ a = b) ∧
    (a ≠ b → (score exact a b = 0 ↔ ∀ i j, ¬ Near (window a b) a b i j)) ∧
    ((pairs a b).length ≠ 0 → a.length ≠ 0 ∧ b.length ≠ 0) :=
  ⟨jaro_nonneg a b, jaro_le_score a b, score_le_one exact a b, boosted_le_one a b, score_of_ne,
    score_eq_one, score_eq_zero_iff, lengths_ne_zero⟩

end ArchLint.Similarity
