import ArchLint.Proofs.Rounding
import ArchLint.Proofs.Similarity

/-!
The score as it is computed. Every operation is rounded to binary64, and rounding might make one of
a score that only comes near it. It does not for names of up to `2 ^ 48` characters: the share that
is not one misses it by `2 ^ -49` at least, which is far more than the last place, so what is missing
survives the sum (`jaro_binary64_le`) and is not made up by the common head
(`boosted_binary64_lt_one`).
-/

namespace ArchLint.Similarity

open Binary64 (nearest nearest_le nearest_nonneg)

variable {a b : List Char}

/-- Rounding does not leave the numbers up to one. -/
theorem nearest_le_one {q : ℚ} (h0 : 0 ≤ q) (h : q ≤ 1) : nearest q ≤ 1 := by
  simpa using nearest_le (m := 1) (k := 0) h0 (by norm_num) (by norm_num) (by simpa using h)

/-! ### Shares -/

/-- What a share is at most that is not one. -/
def nearlyOne : ℚ := (2 ^ 49 - 1 : Nat) / 2 ^ 49

theorem nearest_le_nearlyOne {q : ℚ} (h0 : 0 ≤ q) (h : q ≤ nearlyOne) : nearest q ≤ nearlyOne :=
  nearest_le h0 (by norm_num) (by norm_num) h

theorem share_le_nearlyOne {m n : Nat} (h : m < n) (hn : n ≤ 2 ^ 48) : (m / n : ℚ) ≤ nearlyOne := by
  have pos : (0 : ℚ) < n := by exact_mod_cast Nat.zero_lt_of_lt h
  have next : (m : ℚ) + 1 ≤ n := by exact_mod_cast h
  have bound : (n : ℚ) ≤ (2 ^ 48 : Nat) := by exact_mod_cast hn
  rw [nearlyOne, div_le_div_iff₀ pos (by norm_num)]
  push_cast at bound ⊢
  linarith

/-- The share of the matches in order, the half of what is misplaced taken off without rounding. -/
theorem nearest_ordered {m t : Nat} (ht : t ≤ m) (hm : m ≤ 2 ^ 48) :
    nearest (m - (t : ℚ) / 2) = m - (t : ℚ) / 2 := by
  have value : (m - (t : ℚ) / 2) = (2 * m - t : Nat) / 2 ^ 1 := by
    rw [Nat.cast_sub (by omega)]
    push_cast
    ring
  rw [value]
  exact (Binary64.nearest_div_two_pow (by omega) (by norm_num)).2

theorem ordered_le_nearlyOne {m t : Nat} (ht : t ≠ 0) (hm : 0 < m) (h : m ≤ 2 ^ 48) :
    ((m - (t : ℚ) / 2) / m : ℚ) ≤ nearlyOne := by
  have pos : (0 : ℚ) < m := by exact_mod_cast hm
  have some : (1 : ℚ) ≤ t := by exact_mod_cast Nat.pos_of_ne_zero ht
  have bound : (m : ℚ) ≤ (2 ^ 48 : Nat) := by exact_mod_cast h
  rw [nearlyOne, div_le_div_iff₀ pos (by norm_num)]
  push_cast at bound ⊢
  linarith

/-! ### The mean -/

/-- What one of three shares misses, their mean misses a third of. -/
theorem nearest_mean_le {x y z : ℚ} (hx : 0 ≤ x) (hy : 0 ≤ y) (hz : 0 ≤ z) (hx' : x ≤ 1)
    (hy' : y ≤ 1) (hz' : z ≤ 1) (miss : x ≤ nearlyOne ∨ y ≤ nearlyOne ∨ z ≤ nearlyOne) :
    nearest (nearest (nearest (nearest x + nearest y) + nearest z) / 3) ≤
      (2 ^ 51 - 1 : Nat) / 2 ^ 51 := by
  have x0 := nearest_nonneg hx
  have y0 := nearest_nonneg hy
  have z0 := nearest_nonneg hz
  have x1 := nearest_le_one hx hx'
  have y1 := nearest_le_one hy hy'
  have z1 := nearest_le_one hz hz'
  have two : nearest (nearest x + nearest y) ≤ (2 : Nat) / 2 ^ 0 :=
    nearest_le (add_nonneg x0 y0) (by norm_num) (by norm_num) (by norm_num; linarith)
  have s0 := nearest_nonneg (add_nonneg x0 y0)
  have three : nearest (nearest x + nearest y) + nearest z ≤ (3 * 2 ^ 49 - 1 : Nat) / 2 ^ 49 := by
    have short : nearest x + nearest y ≤ (2 ^ 50 - 1 : Nat) / 2 ^ 49 →
        nearest (nearest x + nearest y) ≤ (2 ^ 50 - 1 : Nat) / 2 ^ 49 :=
      nearest_le (add_nonneg x0 y0) (by norm_num) (by norm_num)
    rcases miss with miss | miss | miss
    · have := nearest_le_nearlyOne hx miss
      unfold nearlyOne at this
      norm_num at this short two ⊢
      linarith [short (by linarith)]
    · have := nearest_le_nearlyOne hy miss
      unfold nearlyOne at this
      norm_num at this short two ⊢
      linarith [short (by linarith)]
    · have := nearest_le_nearlyOne hz miss
      unfold nearlyOne at this
      norm_num at this two ⊢
      linarith
  have sum := nearest_le (add_nonneg s0 z0) (by norm_num) (by norm_num) three
  refine nearest_le (div_nonneg (nearest_nonneg (add_nonneg s0 z0)) (by norm_num)) (by norm_num)
    (by norm_num) ?_
  norm_num at sum ⊢
  linarith

theorem jaro_binary64 (h : (pairs a b).length ≠ 0) :
    jaro binary64 a b = nearest (nearest (nearest (nearest ((pairs a b).length / a.length) +
      nearest ((pairs a b).length / b.length)) +
        nearest (nearest ((pairs a b).length - (misplaced a b : ℚ) / 2) / (pairs a b).length)) / 3) := by
  rw [jaro]
  simp only [Nat.cast_eq_zero, if_neg h]
  rfl

theorem exists_nearest_eq_jaro (a b : List Char) :
    ∃ q, 0 ≤ q ∧ jaro binary64 a b = nearest q := by
  by_cases h : (pairs a b).length = 0
  · exact ⟨0, le_rfl, by rw [jaro_of_no_pairs binary64 h, Binary64.nearest_zero]⟩
  · refine ⟨_, ?_, jaro_binary64 h⟩
    have half := ordered_nonneg (misplaced_le a b)
    have shares := add_nonneg
      (nearest_nonneg (q := (pairs a b).length / a.length) (by positivity))
      (nearest_nonneg (q := (pairs a b).length / b.length) (by positivity))
    have ordered := nearest_nonneg (div_nonneg (nearest_nonneg half)
      (Nat.cast_nonneg (pairs a b).length))
    exact div_nonneg (nearest_nonneg (add_nonneg (nearest_nonneg shares) ordered)) (by norm_num)

/-- Names that are not equal are not matched in full, not even nearly. -/
theorem jaro_binary64_le (h : a ≠ b) (ha : a.length ≤ 2 ^ 48) (hb : b.length ≤ 2 ^ 48) :
    jaro binary64 a b ≤ (2 ^ 51 - 1 : Nat) / 2 ^ 51 := by
  by_cases hm : (pairs a b).length = 0
  · rw [jaro_of_no_pairs binary64 hm]
    positivity
  have left := length_pairs_le_left a b
  have right := length_pairs_le_right a b
  have order := misplaced_le a b
  rw [jaro_binary64 hm, nearest_ordered order (left.trans ha)]
  refine nearest_mean_le (by positivity) (by positivity)
    (div_nonneg (ordered_nonneg order) (Nat.cast_nonneg _)) (share_le_one left) (share_le_one right)
    (ordered_le_one _ _) ?_
  rcases left.lt_or_eq with less | all
  · exact Or.inl (share_le_nearlyOne less ha)
  rcases right.lt_or_eq with less | all'
  · exact Or.inr (Or.inl (share_le_nearlyOne less hb))
  · have disorder : misplaced a b ≠ 0 := fun ordered => h (eq_of_complete all all' ordered)
    exact Or.inr (Or.inr (ordered_le_nearlyOne disorder (Nat.pos_of_ne_zero hm) (left.trans ha)))

/-! ### The score -/

/-- The weight of the common head, less than one half. -/
theorem head_weight_le (a b : List Char) :
    nearest (commonHead a b * nearest (1 / 10)) ≤ (7 : Nat) / 2 ^ 4 := by
  have tenth : nearest (1 / 10) ≤ (7 : Nat) / 2 ^ 6 :=
    nearest_le (by norm_num) (by norm_num) (by norm_num) (by norm_num)
  have tenth0 : 0 ≤ nearest (1 / 10) := nearest_nonneg (by norm_num)
  have head : (commonHead a b : ℚ) ≤ 4 := by exact_mod_cast commonHead_le a b
  refine nearest_le (mul_nonneg (Nat.cast_nonneg _) tenth0) (by norm_num) (by norm_num) ?_
  calc (commonHead a b : ℚ) * nearest (1 / 10) ≤ 4 * ((7 : Nat) / 2 ^ 6) := by gcongr
    _ = (7 : Nat) / 2 ^ 4 := by norm_num

/-- Above one half, a number of the format and what it misses of one are so many last places each;
there are four missing at least if it is not next to one. -/
theorem exists_places {q : ℚ} (hq : 0 ≤ q) (high : 1 / 2 < nearest q)
    (h : nearest q ≤ (2 ^ 51 - 1 : Nat) / 2 ^ 51) :
    ∃ n k : Nat, n + k = 2 ^ 53 ∧ 4 ≤ k ∧ nearest q = n / 2 ^ 53 ∧
      nearest (1 - nearest q) = k / 2 ^ 53 := by
  obtain ⟨n, hn⟩ := Binary64.nearest_eq_div_of_half_lt hq high
  rw [hn] at h ⊢
  have few : n + 4 ≤ 2 ^ 53 := by
    have : (n : ℚ) + 4 ≤ (2 ^ 53 : Nat) := by
      rw [div_le_div_iff₀ (by norm_num) (by norm_num)] at h
      norm_num at h ⊢
      linarith
    exact_mod_cast this
  obtain ⟨k, hk⟩ := Nat.exists_eq_add_of_le (by omega : n ≤ 2 ^ 53)
  have missing : (1 - n / 2 ^ 53 : ℚ) = k / 2 ^ 53 := by
    have : (2 ^ 53 : ℚ) = n + k := by exact_mod_cast hk
    field_simp
    linarith
  refine ⟨n, k, hk.symm, by omega, rfl, ?_⟩
  rw [missing]
  exact (Binary64.nearest_div_two_pow (by omega) (by norm_num)).2

/-- What is missing is not made up by less than a half of it. -/
theorem nearest_boost_lt_one {q w : ℚ} (hq : 0 ≤ q) (hw : 0 ≤ w) (hw' : w ≤ (7 : Nat) / 2 ^ 4)
    (h : nearest q ≤ (2 ^ 51 - 1 : Nat) / 2 ^ 51) :
    nearest (nearest q + nearest (w * nearest (1 - nearest q))) < 1 := by
  have j0 := nearest_nonneg hq
  have j1 : nearest q ≤ 1 := by norm_num at h; linarith
  have d0 : 0 ≤ nearest (1 - nearest q) := nearest_nonneg (by linarith)
  have e0 := nearest_nonneg (mul_nonneg hw d0)
  rcases le_or_gt (nearest q) (1 / 2) with low | high
  · -- what is added stays clear of the other half
    have d1 : nearest (1 - nearest q) ≤ 1 := nearest_le_one (by linarith) (by linarith)
    have added : nearest (w * nearest (1 - nearest q)) ≤ (7 : Nat) / 2 ^ 4 := by
      refine nearest_le (mul_nonneg hw d0) (by norm_num) (by norm_num) ?_
      exact (mul_le_of_le_one_right hw d1).trans hw'
    have sum : nearest (nearest q + nearest (w * nearest (1 - nearest q))) ≤ (15 : Nat) / 2 ^ 4 :=
      nearest_le (add_nonneg j0 e0) (by norm_num) (by norm_num) (by norm_num at added ⊢; linarith)
    norm_num at sum
    linarith
  · -- half of the missing places stay missing, and these are two at least
    obtain ⟨n, k, places, four, hn, hk⟩ := exists_places hq high h
    rw [hk] at e0 ⊢
    have added : nearest (w * (k / 2 ^ 53)) ≤ k / 2 ^ 54 := by
      refine nearest_le (mul_nonneg hw (by positivity)) (by omega) (by norm_num) ?_
      have half : w ≤ 1 / 2 := by norm_num at hw' ⊢; linarith
      calc w * (k / 2 ^ 53 : ℚ) ≤ 1 / 2 * (k / 2 ^ 53) := by gcongr
        _ = k / 2 ^ 54 := by ring
    have total : nearest q + nearest (w * (k / 2 ^ 53)) ≤ (2 ^ 52 - 1 : Nat) / 2 ^ 52 := by
      have four' : (4 : ℚ) ≤ k := by exact_mod_cast four
      have places' : (n + k : ℚ) = (2 ^ 53 : Nat) := by exact_mod_cast places
      rw [hn]
      norm_num at places' added ⊢
      linarith
    have sum := nearest_le (add_nonneg j0 e0) (by norm_num) (by norm_num) total
    norm_num at sum ⊢
    linarith

theorem boosted_binary64_lt_one (h : a ≠ b) (ha : a.length ≤ 2 ^ 48) (hb : b.length ≤ 2 ^ 48) :
    boosted binary64 a b < 1 := by
  obtain ⟨q, hq, jaro⟩ := exists_nearest_eq_jaro a b
  have near := jaro_binary64_le h ha hb
  have tenth0 : 0 ≤ nearest (1 / 10) := nearest_nonneg (by norm_num)
  rw [boosted, jaro]
  rw [jaro] at near
  exact nearest_boost_lt_one hq (nearest_nonneg (mul_nonneg (Nat.cast_nonneg _) tenth0))
    (head_weight_le a b) near

/-- Rounding leaves one to equal names. -/
theorem score_binary64_eq_one (ha : a.length ≤ 2 ^ 48) (hb : b.length ≤ 2 ^ 48) :
    score binary64 a b = 1 ↔ a = b :=
  score_eq_one_iff fun h => boosted_binary64_lt_one h ha hb

end ArchLint.Similarity
