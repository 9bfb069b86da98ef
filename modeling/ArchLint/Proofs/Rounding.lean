import ArchLint.Number.Binary64
import Mathlib.Algebra.Order.Field.Power
import Mathlib.Data.Int.Log
import Mathlib.Data.Rat.Floor
import Mathlib.Tactic.FieldSimp
import Mathlib.Tactic.Linarith
import Mathlib.Tactic.Positivity
import Mathlib.Tactic.Ring

/-!
Rounding to binary64. A positive number is rounded to a multiple of a power of two, the step at its
magnitude, and at the half to the even multiple; only what then reaches `2 ^ 1024` leaves the format
(`nearest_eq`). Rounding keeps the order (`nearest_mono`), leaves a multiple of a step alone that
needs no more than 53 bits (`round_mul_zpow`), and done twice it changes nothing
(`ofRat_nearest`).
-/

namespace ArchLint

/-! ### Quotients -/

/-- No integer is nearer to `n / d` than `m`, and one as near is even only if `m` is. -/
structure IsNearestEven (n d m : Nat) : Prop where
  lower : 2 * m * d ≤ 2 * n + d
  upper : 2 * n ≤ (2 * m + 1) * d
  even_of_lower : 2 * m * d = 2 * n + d → m % 2 = 0
  even_of_upper : 2 * n = (2 * m + 1) * d → m % 2 = 0

theorem isNearestEven_roundDivEven (n : Nat) {d : Nat} (hd : 0 < d) :
    IsNearestEven n d (roundDivEven n d) := by
  have hn : d * (n / d) + n % d = n := Nat.div_add_mod n d
  have hr : n % d < d := Nat.mod_lt n hd
  unfold roundDivEven
  generalize n / d = q at *
  generalize n % d = r at *
  -- all products are multiples of the step, which leaves linear arithmetic
  have hq : (2 * q + 1) * d = 2 * (d * q) + d := by ring
  have hq' : 2 * q * d = 2 * (d * q) := by ring
  have hs : 2 * (q + 1) * d = 2 * (d * q) + 2 * d := by ring
  have hs' : (2 * (q + 1) + 1) * d = 2 * (d * q) + 3 * d := by ring
  generalize d * q = p at *
  simp only
  split
  · constructor <;> omega
  · constructor <;> omega

/-- A larger quotient is not rounded to a smaller integer. -/
theorem IsNearestEven.le {n d m n' d' m' : Nat} (h : IsNearestEven n d m)
    (h' : IsNearestEven n' d' m') (hd : 0 < d) (hd' : 0 < d') (hle : n * d' ≤ n' * d) : m ≤ m' := by
  by_contra hlt
  have hm : m' + 1 ≤ m := by omega
  -- in multiples of the product of both steps, all that is known is linear
  have low : 2 * (m * (d * d')) ≤ 2 * (n * d') + d * d' := by
    calc 2 * (m * (d * d')) = 2 * m * d * d' := by ring
      _ ≤ (2 * n + d) * d' := Nat.mul_le_mul_right d' h.lower
      _ = 2 * (n * d') + d * d' := by ring
  have high : 2 * (n' * d) ≤ 2 * (m' * (d * d')) + d * d' := by
    calc 2 * (n' * d) = 2 * n' * d := by ring
      _ ≤ (2 * m' + 1) * d' * d := Nat.mul_le_mul_right d h'.upper
      _ = 2 * (m' * (d * d')) + d * d' := by ring
  have step : m' * (d * d') + d * d' ≤ m * (d * d') := by
    calc m' * (d * d') + d * d' = (m' + 1) * (d * d') := by ring
      _ ≤ m * (d * d') := Nat.mul_le_mul_right _ hm
  -- both quotients lie in the middle between `m'` and `m`, which are neighbours
  have mid : 2 * m * d * d' = (2 * n + d) * d' := by linarith
  have mid' : 2 * n' * d = (2 * m' + 1) * d' * d := by linarith
  have next : (m' + 1) * (d * d') = m * (d * d') := by linarith
  have even : m % 2 = 0 := h.even_of_lower (Nat.eq_of_mul_eq_mul_right hd' mid)
  have even' : m' % 2 = 0 := h'.even_of_upper (Nat.eq_of_mul_eq_mul_right hd mid')
  have neighbours : m' + 1 = m := Nat.eq_of_mul_eq_mul_right (Nat.mul_pos hd hd') next
  omega

theorem roundDivEven_le {n d n' d' : Nat} (hd : 0 < d) (hd' : 0 < d') (hle : n * d' ≤ n' * d) :
    roundDivEven n d ≤ roundDivEven n' d' :=
  (isNearestEven_roundDivEven n hd).le (isNearestEven_roundDivEven n' hd') hd hd' hle

theorem roundDivEven_mul (m : Nat) {d : Nat} (hd : 0 < d) : roundDivEven (m * d) d = m := by
  unfold roundDivEven
  rw [Nat.mul_div_cancel m hd, Nat.mul_mod_left]
  simp only [ite_eq_right_iff]
  omega

/-- A number rounded to an integer. -/
def roundEven (x : Rat) : Nat := roundDivEven x.num.natAbs x.den

theorem roundDivEven_eq_roundEven (n : Nat) {d : Nat} (hd : 0 < d) :
    roundDivEven n d = roundEven (n / d) := by
  have hx : (n / d : ℚ) * d = n := by field_simp
  have num : ((n / d : ℚ).num.natAbs : ℚ) = (n / d : ℚ) * (n / d : ℚ).den := by
    have nonneg : 0 ≤ (n / d : ℚ).num := Rat.num_nonneg.mpr (by positivity)
    rw [Rat.mul_den_eq_num, ← Int.cast_natCast, Int.natAbs_of_nonneg nonneg]
  generalize hq : (n / d : ℚ) = q at *
  have cross : n * q.den = q.num.natAbs * d := by
    have : (n * q.den : ℚ) = q.num.natAbs * d := by rw [num, ← hx]; ring
    exact_mod_cast this
  exact Nat.le_antisymm (roundDivEven_le hd q.den_pos cross.le)
    (roundDivEven_le q.den_pos hd cross.ge)

theorem roundEven_mono {x y : ℚ} (hx : 0 ≤ x) (h : x ≤ y) : roundEven x ≤ roundEven y := by
  refine roundDivEven_le x.den_pos y.den_pos ?_
  have cross := Rat.le_iff x y |>.mp h
  have nx := Int.natAbs_of_nonneg (Rat.num_nonneg.mpr hx)
  have ny := Int.natAbs_of_nonneg (Rat.num_nonneg.mpr (hx.trans h))
  zify
  rw [← nx, ← ny] at cross
  simpa using cross

@[simp]
theorem roundEven_natCast (m : Nat) : roundEven m = m := by
  have : roundDivEven (m * 1) 1 = m := roundDivEven_mul m Nat.one_pos
  simpa [roundEven] using this

/-! ### Steps -/

theorem twoPow_eq_zpow (e : Int) : twoPow e = (2 : ℚ) ^ e := by
  unfold twoPow
  split
  · rename_i h
    obtain ⟨n, rfl⟩ := Int.eq_ofNat_of_zero_le h
    simp
  · rename_i h
    obtain ⟨n, hn⟩ := Int.eq_ofNat_of_zero_le (by omega : 0 ≤ -e)
    obtain rfl : e = -n := by omega
    simp [zpow_neg]

namespace Binary64

/-- The exponent of the step at a magnitude. -/
def stepExponent (q : ℚ) : Int := max (Int.log 2 q - 52) minExponent

theorem log_eq_of_bounds {q : ℚ} (hq : 0 < q) {e : Int} (hl : (2 : ℚ) ^ e ≤ q)
    (hu : q < (2 : ℚ) ^ (e + 1)) : Int.log 2 q = e := by
  have low : e ≤ Int.log 2 q := (Int.zpow_le_iff_le_log (by norm_num) hq).mp (by exact_mod_cast hl)
  have high : Int.log 2 q < e + 1 :=
    (Int.lt_zpow_iff_log_lt (by norm_num) hq).mp (by exact_mod_cast hu)
  omega

theorem gridExponent_eq {num den : Nat} (hn : 0 < num) (hd : 0 < den) :
    gridExponent num den = stepExponent (num / den) := by
  have two : (2 : ℚ) ≠ 0 := by norm_num
  have hnq : (0 : ℚ) < num := by exact_mod_cast hn
  have hdq : (0 : ℚ) < den := by exact_mod_cast hd
  have hq : (0 : ℚ) < num / den := by positivity
  have numLow : (2 : ℚ) ^ (num.log2 : Int) ≤ num := by
    exact_mod_cast Nat.log2_self_le hn.ne'
  have numHigh : (num : ℚ) < (2 : ℚ) ^ ((num.log2 : Int) + 1) := by
    exact_mod_cast Nat.lt_log2_self (n := num)
  have denLow : (2 : ℚ) ^ (den.log2 : Int) ≤ den := by
    exact_mod_cast Nat.log2_self_le hd.ne'
  have denHigh : (den : ℚ) < (2 : ℚ) ^ ((den.log2 : Int) + 1) := by
    exact_mod_cast Nat.lt_log2_self (n := den)
  unfold gridExponent stepExponent
  simp only [twoPow_eq_zpow, sub_add_cancel]
  refine congrArg (max · minExponent) ?_
  generalize (num.log2 : Int) = k at *
  generalize (den.log2 : Int) = l at *
  split <;> rename_i h
  · have low : (2 : ℚ) ^ (k - l) ≤ num / den := (le_div_iff₀ hdq).mpr h
    have high : (num / den : ℚ) < 2 ^ (k - l + 1) := by
      refine (div_lt_iff₀ hdq).mpr (numHigh.trans_le ?_)
      calc (2 : ℚ) ^ (k + 1) = 2 ^ (k - l + 1) * 2 ^ l := by rw [← zpow_add₀ two]; ring_nf
        _ ≤ 2 ^ (k - l + 1) * den := by gcongr
    rw [log_eq_of_bounds hq low high]
  · have low : (2 : ℚ) ^ (k - l - 1) ≤ num / den := by
      refine (le_div_iff₀ hdq).mpr (le_trans ?_ numLow)
      calc (2 : ℚ) ^ (k - l - 1) * den ≤ 2 ^ (k - l - 1) * 2 ^ (l + 1) := by gcongr
        _ = 2 ^ k := by rw [← zpow_add₀ two]; ring_nf
    have high : (num / den : ℚ) < 2 ^ (k - l - 1 + 1) := by
      rw [sub_add_cancel]
      exact (div_lt_iff₀ hdq).mpr (not_le.mp h)
    rw [log_eq_of_bounds hq low high]
    ring

/-- A number rounded to a multiple of its step, as if there were no largest exponent. -/
def round (q : ℚ) : ℚ := roundEven (q / 2 ^ stepExponent q) * 2 ^ stepExponent q

/-- The first power of two that is too large. -/
def top : ℚ := 2 ^ (1024 : Int)

/-- In steps of its magnitude, a number has 53 bits before the point. -/
theorem div_step_lt {q : ℚ} : q / 2 ^ stepExponent q < 2 ^ 53 := by
  have two : (0 : ℚ) < 2 := by norm_num
  refine (div_lt_iff₀ (zpow_pos two _)).mpr ?_
  calc q < 2 ^ (Int.log 2 q + 1) := by exact_mod_cast Int.lt_zpow_succ_log_self (by norm_num) q
    _ ≤ 2 ^ (53 + stepExponent q) := by
        refine zpow_le_zpow_right₀ (by norm_num) ?_
        have : Int.log 2 q - 52 ≤ stepExponent q := le_max_left _ _
        omega
    _ = 2 ^ 53 * 2 ^ stepExponent q := by rw [zpow_add₀ two.ne']; norm_num

theorem roundEven_div_step_le {q : ℚ} (hq : 0 ≤ q) :
    roundEven (q / 2 ^ stepExponent q) ≤ 2 ^ 53 := by
  have bound : q / 2 ^ stepExponent q ≤ ((2 ^ 53 : Nat) : ℚ) := by exact_mod_cast div_step_lt.le
  have := roundEven_mono (by positivity) bound
  rwa [roundEven_natCast] at this

/-- A number whose step is not the least has a bit in the highest place. -/
theorem le_roundEven_div_step {q : ℚ} (hq : 0 < q) (h : minExponent < stepExponent q) :
    2 ^ 52 ≤ roundEven (q / 2 ^ stepExponent q) := by
  have two : (2 : ℚ) ≠ 0 := by norm_num
  have exponent : stepExponent q = Int.log 2 q - 52 := by
    unfold stepExponent at h ⊢
    omega
  have bound : ((2 ^ 52 : Nat) : ℚ) ≤ q / 2 ^ stepExponent q := by
    refine (le_div_iff₀ (by positivity)).mpr ?_
    calc ((2 ^ 52 : Nat) : ℚ) * 2 ^ stepExponent q = 2 ^ (52 + stepExponent q) := by
          rw [zpow_add₀ two]; norm_num
      _ = 2 ^ Int.log 2 q := by rw [exponent]; ring_nf
      _ ≤ q := by exact_mod_cast Int.zpow_log_le_self (by norm_num) hq
  have := roundEven_mono (by positivity) bound
  rwa [roundEven_natCast] at this

/-! ### Order and fixed points -/

theorem round_zero : round 0 = 0 := by simp [round, roundEven, roundDivEven]

theorem round_nonneg (q : ℚ) : 0 ≤ round q := by
  unfold round
  positivity

theorem stepExponent_mono {p q : ℚ} (hp : 0 < p) (h : p ≤ q) : stepExponent p ≤ stepExponent q :=
  max_le_max (Int.sub_le_sub_right (Int.log_mono_right hp h) 52) le_rfl

theorem round_mono {p q : ℚ} (hp : 0 ≤ p) (h : p ≤ q) : round p ≤ round q := by
  rcases hp.eq_or_lt with rfl | hp
  · rw [round_zero]
    exact round_nonneg q
  have hq : 0 < q := hp.trans_le h
  unfold round
  rcases (stepExponent_mono hp h).eq_or_lt with same | finer
  · rw [same]
    have rounded := roundEven_mono (x := p / 2 ^ stepExponent q) (y := q / 2 ^ stepExponent q)
      (by positivity) (by gcongr)
    gcongr
  · -- a power of two lies between the results: the end of the one magnitude, at most the start of
    -- the other
    have low : roundEven (p / 2 ^ stepExponent p) ≤ 2 ^ 53 := roundEven_div_step_le hp.le
    have high : 2 ^ 52 ≤ roundEven (q / 2 ^ stepExponent q) :=
      le_roundEven_div_step hq ((le_max_right _ _).trans_lt finer)
    calc (roundEven (p / 2 ^ stepExponent p) : ℚ) * 2 ^ stepExponent p
        ≤ (2 ^ 53 : Nat) * 2 ^ stepExponent p := by gcongr
      _ = (2 ^ 52 : Nat) * 2 ^ (stepExponent p + 1) := by
          rw [zpow_add_one₀ (by norm_num)]; norm_num; ring
      _ ≤ roundEven (q / 2 ^ stepExponent q) * 2 ^ stepExponent q := by
          gcongr
          · norm_num
          · exact finer

/-- A multiple of a step that needs no more than 53 bits is a natural number of its own steps. -/
theorem div_step_eq_natCast {m : Nat} {e : Int} (hpos : 0 < m) (hm : m ≤ 2 ^ 53)
    (he : minExponent ≤ e) :
    ∃ n : Nat, (m * 2 ^ e : ℚ) / 2 ^ stepExponent (m * 2 ^ e) = n := by
  have two : (2 : ℚ) ≠ 0 := by norm_num
  rcases hm.eq_or_lt with rfl | hlt
  · have value : ((2 ^ 53 : Nat) * 2 ^ e : ℚ) = 2 ^ (e + 53) := by
      rw [zpow_add₀ two]; norm_num; ring
    have log : Int.log 2 ((2 : ℚ) ^ (e + 53)) = e + 53 := by
      exact_mod_cast Int.log_zpow (R := ℚ) (b := 2) (by norm_num) (e + 53)
    have step : stepExponent ((2 : ℚ) ^ (e + 53)) = e + 1 := by
      rw [stepExponent, log]
      omega
    refine ⟨2 ^ 52, ?_⟩
    rw [value, step, ← zpow_sub₀ two]
    norm_num
  · have magnitude : Int.log 2 (m * 2 ^ e : ℚ) < 53 + e := by
      refine (Int.lt_zpow_iff_log_lt (by norm_num) (by positivity)).mp ?_
      have bits : (m : ℚ) < 2 ^ 53 := by exact_mod_cast hlt
      calc (m * 2 ^ e : ℚ) < 2 ^ 53 * 2 ^ e := by gcongr
        _ = ((2 : Nat) : ℚ) ^ (53 + e) := by push_cast; rw [zpow_add₀ two]; norm_num
    have step : stepExponent (m * 2 ^ e : ℚ) ≤ e := by
      unfold stepExponent
      omega
    generalize stepExponent (m * 2 ^ e : ℚ) = s at step
    obtain ⟨k, hk⟩ := Int.eq_ofNat_of_zero_le (by omega : 0 ≤ e - s)
    obtain rfl : e = s + k := by omega
    refine ⟨m * 2 ^ k, ?_⟩
    rw [zpow_add₀ two]
    push_cast
    field_simp
    norm_num

theorem round_mul_zpow {m : Nat} {e : Int} (hm : m ≤ 2 ^ 53) (he : minExponent ≤ e) :
    round (m * 2 ^ e) = m * 2 ^ e := by
  rcases Nat.eq_zero_or_pos m with rfl | hpos
  · rw [Nat.cast_zero, zero_mul, round_zero]
  · obtain ⟨n, hn⟩ := div_step_eq_natCast hpos hm he
    rw [round, hn, roundEven_natCast, ← hn]
    exact div_mul_cancel₀ _ (by positivity)

theorem round_round {q : ℚ} (hq : 0 ≤ q) : round (round q) = round q :=
  round_mul_zpow (roundEven_div_step_le hq) (le_max_right _ _)

/-! ### The format -/

/-- What is rounded to significand and exponent. -/
theorem nearestParts_eq {q : ℚ} (hq : 0 < q) :
    nearestParts q.num.natAbs q.den =
      if roundEven (q / 2 ^ stepExponent q) = 2 ^ 53 then (2 ^ 52, stepExponent q + 1)
      else (roundEven (q / 2 ^ stepExponent q), stepExponent q) := by
  have hn : 0 < q.num.natAbs := Int.natAbs_pos.mpr (Rat.num_pos.mpr hq).ne'
  have value : (q.num.natAbs / q.den : ℚ) = q := by
    have : ((q.num.natAbs : Int) : ℚ) = q.num := by
      rw [Int.natAbs_of_nonneg (Rat.num_pos.mpr hq).le]
    rw [← Int.cast_natCast, this, Rat.num_div_den]
  unfold nearestParts
  rw [gridExponent_eq hn q.den_pos, value]
  generalize stepExponent q = e
  have significand : (if 0 ≤ e then roundDivEven q.num.natAbs (q.den * Nat.pow 2 e.toNat)
      else roundDivEven (q.num.natAbs * Nat.pow 2 (-e).toNat) q.den) = roundEven (q / 2 ^ e) := by
    split <;> rename_i h
    · obtain ⟨n, rfl⟩ := Int.eq_ofNat_of_zero_le h
      simp only [Int.toNat_natCast, Nat.pow_eq]
      rw [roundDivEven_eq_roundEven _ (Nat.mul_pos q.den_pos (Nat.two_pow_pos n))]
      congr 1
      rw [Nat.cast_mul, ← div_div, value]
      norm_num
    · obtain ⟨n, hn⟩ := Int.eq_ofNat_of_zero_le (by omega : 0 ≤ -e)
      obtain rfl : e = -n := by omega
      rw [roundDivEven_eq_roundEven _ q.den_pos]
      congr 1
      simp only [neg_neg, Int.toNat_natCast, Nat.pow_eq, zpow_neg, zpow_natCast, div_inv_eq_mul]
      rw [Nat.cast_mul, mul_div_right_comm, value]
      norm_num
  simp only [significand]
  rfl

/-- Significand and exponent stand for the rounded number, and nothing is left only at the least
exponent. -/
theorem nearestParts_value {q : ℚ} (hq : 0 < q) {m : Nat} {e : Int}
    (h : nearestParts q.num.natAbs q.den = (m, e)) :
    (m * 2 ^ e : ℚ) = round q ∧ (m = 0 → e = minExponent) := by
  rw [nearestParts_eq hq] at h
  split at h <;> rename_i carry <;> obtain ⟨rfl, rfl⟩ := Prod.mk.inj h
  · refine ⟨?_, fun h => absurd h (by norm_num)⟩
    rw [round, carry, zpow_add_one₀ (by norm_num)]
    norm_num
    ring
  · refine ⟨rfl, fun zero => ?_⟩
    rcases (le_max_right _ _ : minExponent ≤ stepExponent q).eq_or_lt with least | more
    · exact least.symm
    · have := le_roundEven_div_step hq more
      omega

/-- The test for what is too large. -/
theorem log2_add_lt_iff {m : Nat} (hm : 0 < m) (e k : Int) :
    (m.log2 : Int) + e < k ↔ (m * 2 ^ e : ℚ) < 2 ^ k := by
  have two : (1 : ℚ) < 2 := by norm_num
  have low : (2 : ℚ) ^ (m.log2 : Int) ≤ m := by exact_mod_cast Nat.log2_self_le hm.ne'
  have high : (m : ℚ) < 2 ^ ((m.log2 : Int) + 1) := by exact_mod_cast Nat.lt_log2_self
  constructor
  · intro h
    calc (m * 2 ^ e : ℚ) < 2 ^ ((m.log2 : Int) + 1) * 2 ^ e := by gcongr
      _ = 2 ^ ((m.log2 : Int) + 1 + e) := (zpow_add₀ (by norm_num) _ _).symm
      _ ≤ 2 ^ k := zpow_le_zpow_right₀ two.le (by omega)
  · intro h
    refine (zpow_lt_zpow_iff_right₀ two).mp ?_
    calc (2 : ℚ) ^ ((m.log2 : Int) + e) = 2 ^ (m.log2 : Int) * 2 ^ e := zpow_add₀ (by norm_num) _ _
      _ ≤ m * 2 ^ e := by gcongr
      _ < 2 ^ k := h

theorem ofRat_of_pos {q : ℚ} (hq : 0 < q) :
    (round q < top → (ofRat q).isFinite = true ∧ nearest q = round q) ∧
      (top ≤ round q → ofRat q = infinite false) := by
  have positive : decide (q.num < 0) = false := by
    simpa using (Rat.num_pos.mpr hq).le
  unfold nearest ofRat
  rw [positive]
  cases parts : nearestParts q.num.natAbs q.den with
  | mk m e =>
    obtain ⟨value, least⟩ := nearestParts_value hq parts
    rw [← value]
    rcases Nat.eq_zero_or_pos m with rfl | hm
    · obtain rfl := least rfl
      have inside : ¬ 1024 < ((0 : Nat).log2 : Int) + minExponent + 1 := by decide
      have small : (((0 : Nat) : ℚ) * 2 ^ minExponent) < top := by
        rw [Nat.cast_zero, zero_mul]
        exact zpow_pos (by norm_num) _
      simp only [if_neg inside, if_true]
      exact ⟨fun _ => ⟨rfl, by simp [toRat]⟩, fun h => absurd small h.not_gt⟩
    · have test : 1024 < (m.log2 : Int) + e + 1 ↔ ¬ (m * 2 ^ e : ℚ) < top := by
        rw [top, ← log2_add_lt_iff hm]
        omega
      simp only [test, if_neg hm.ne']
      constructor
      · intro h
        rw [if_neg (not_not.mpr h)]
        exact ⟨rfl, by simp [toRat, twoPow_eq_zpow]⟩
      · intro h
        rw [if_pos h.not_gt]

theorem nearestParts_zero : nearestParts 0 1 = (0, gridExponent 0 1) := by
  have none (d : Nat) : roundDivEven 0 d = 0 := by simp [roundDivEven]
  simp [nearestParts, none]

theorem ofRat_zero : ofRat 0 = zero := by
  have inside : gridExponent 0 1 < 1024 := by
    have one : Nat.log2 1 = 0 := by decide
    simp only [gridExponent, minExponent, Nat.log2_zero, one]
    split <;> omega
  have fits : ¬ 1024 < ((0 : Nat) : Int) + gridExponent 0 1 + 1 := by omega
  unfold ofRat
  rw [Rat.num_zero, Rat.den_zero, Int.natAbs_zero, nearestParts_zero]
  simp only [Nat.log2_zero, if_neg fits]
  rfl

theorem isFinite_ofRat_zero : (ofRat 0).isFinite = true := by
  rw [ofRat_zero]
  rfl

theorem nearest_zero : nearest 0 = 0 := by
  rw [nearest, ofRat_zero]
  simp [zero, toRat]

theorem isFinite_ofRat {q : ℚ} (h0 : 0 ≤ q) (h : round q < top) : (ofRat q).isFinite = true := by
  rcases h0.eq_or_lt with rfl | h0
  · exact isFinite_ofRat_zero
  · exact ((ofRat_of_pos h0).1 h).1

theorem nearest_eq {q : ℚ} (h0 : 0 ≤ q) (h : round q < top) : nearest q = round q := by
  rcases h0.eq_or_lt with rfl | h0
  · rw [nearest_zero, round_zero]
  · exact ((ofRat_of_pos h0).1 h).2

/-- Rounding keeps the order inside the format. -/
theorem nearest_mono {p q : ℚ} (hp : 0 ≤ p) (h : p ≤ q) (hq : round q < top) :
    nearest p ≤ nearest q := by
  have le := round_mono hp h
  rw [nearest_eq hp (le.trans_lt hq), nearest_eq (hp.trans h) hq]
  exact le

/-- A number with at most 53 bits is left alone, wherever the point stands among them or before. -/
theorem nearest_div_two_pow {m k : Nat} (hm : m ≤ 2 ^ 53) (hk : k ≤ 1000) :
    round (m / 2 ^ k) < top ∧ nearest (m / 2 ^ k) = m / 2 ^ k := by
  have nonneg : (0 : ℚ) ≤ m / 2 ^ k := by positivity
  have value : (m / 2 ^ k : ℚ) = m * 2 ^ (-k : Int) := by
    rw [zpow_neg, zpow_natCast, div_eq_mul_inv]
  have fixed : round (m / 2 ^ k) = m / 2 ^ k := by
    rw [value]
    exact round_mul_zpow hm (by unfold minExponent; omega)
  have inside : round (m / 2 ^ k) < top := by
    have bits : (m : ℚ) ≤ 2 ^ 53 := by exact_mod_cast hm
    calc round (m / 2 ^ k) = m / 2 ^ k := fixed
      _ ≤ m := div_le_self (Nat.cast_nonneg m) (one_le_pow₀ (by norm_num))
      _ ≤ 2 ^ (53 : Int) := bits
      _ < top := zpow_lt_zpow_right₀ (by norm_num) (by norm_num)
  exact ⟨inside, by rw [nearest_eq nonneg inside, fixed]⟩

theorem nearest_natCast {n : Nat} (h : n ≤ 2 ^ 53) : nearest n = n := by
  simpa using (nearest_div_two_pow (k := 0) h (Nat.zero_le _)).2

/-- What does not exceed a number of the format does not exceed it when rounded. -/
theorem nearest_le {q : ℚ} {m k : Nat} (h0 : 0 ≤ q) (hm : m ≤ 2 ^ 53) (hk : k ≤ 1000)
    (h : q ≤ m / 2 ^ k) : nearest q ≤ m / 2 ^ k := by
  obtain ⟨inside, fixed⟩ := nearest_div_two_pow hm hk
  exact (nearest_mono h0 h inside).trans_eq fixed

/-! ### Numbers of the format -/

theorem ofRat_neg {q : ℚ} (hq : q ≠ 0) : ofRat (-q) = neg (ofRat q) := by
  have sign : decide (-q.num < 0) = !decide (q.num < 0) := by
    have nonzero : q.num ≠ 0 := Rat.num_ne_zero.mpr hq
    rw [← decide_not, decide_eq_decide]
    omega
  unfold ofRat
  rw [Rat.num_neg_eq_neg_num, Rat.den_neg_eq_den, Int.natAbs_neg, sign]
  cases nearestParts q.num.natAbs q.den with
  | mk m e =>
    simp only
    split
    · rfl
    · split <;> rfl

theorem toRat_neg (x : Binary64) : (neg x).toRat = -x.toRat := by
  match x with
  | nan | infinite _ => simp [neg, toRat]
  | finite true m e | finite false m e => simp [neg, toRat]

theorem isFinite_neg (x : Binary64) : (neg x).isFinite = x.isFinite := by
  cases x <;> rfl

theorem nearest_neg (q : ℚ) : nearest (-q) = -nearest q := by
  rcases eq_or_ne q 0 with rfl | hq
  · rw [neg_zero, nearest_zero, neg_zero]
  · rw [nearest, ofRat_neg hq, toRat_neg, nearest]

theorem nearest_of_le_round {q : ℚ} (hq : 0 ≤ q) (h : top ≤ round q) : nearest q = 0 := by
  have pos : 0 < q := by
    refine hq.lt_of_ne fun zero => ?_
    rw [← zero, round_zero] at h
    exact absurd (zpow_pos (by norm_num) _) h.not_gt
  rw [nearest, (ofRat_of_pos pos).2 h, toRat]
  simp

theorem nearest_nonneg {q : ℚ} (hq : 0 ≤ q) : 0 ≤ nearest q := by
  rcases lt_or_ge (round q) top with inside | outside
  · rw [nearest_eq hq inside]
    exact round_nonneg q
  · rw [nearest_of_le_round hq outside]

/-- From one half to one, the numbers of the format are multiples of `2 ^ -53`. -/
theorem nearest_eq_div_of_half_lt {q : ℚ} (hq : 0 ≤ q) (h : 1 / 2 < nearest q) :
    ∃ n : Nat, nearest q = n / 2 ^ 53 := by
  have inside : round q < top := by
    by_contra outside
    rw [nearest_of_le_round hq (not_lt.mp outside)] at h
    norm_num at h
  rw [nearest_eq hq inside] at h ⊢
  have bits : (roundEven (q / 2 ^ stepExponent q) : ℚ) ≤ 2 ^ 53 := by
    exact_mod_cast roundEven_div_step_le hq
  unfold round at h ⊢
  generalize (roundEven (q / 2 ^ stepExponent q)) = m at *
  generalize stepExponent q = e at *
  have coarse : -53 ≤ e := by
    by_contra fine
    have step : (2 : ℚ) ^ e ≤ 2 ^ (-54 : Int) := zpow_le_zpow_right₀ (by norm_num) (by omega)
    have small : (m * 2 ^ e : ℚ) ≤ 2 ^ 53 * 2 ^ (-54 : Int) := by gcongr
    norm_num at small
    linarith
  obtain ⟨k, hk⟩ := Int.eq_ofNat_of_zero_le (by omega : 0 ≤ e + 53)
  obtain rfl : e = k - 53 := by omega
  refine ⟨m * 2 ^ k, ?_⟩
  rw [zpow_sub₀ (by norm_num), zpow_natCast]
  push_cast
  norm_num
  ring

/-- A number that came out of rounding is left alone by it. -/
theorem ofRat_nearest (q : ℚ) :
    (ofRat (nearest q)).isFinite = true ∧ nearest (nearest q) = nearest q := by
  have nonneg : ∀ p : ℚ, 0 ≤ p →
      (ofRat (nearest p)).isFinite = true ∧ nearest (nearest p) = nearest p := by
    intro p hp
    rcases lt_or_ge (round p) top with inside | outside
    · have again : round (round p) < top := by rwa [round_round hp]
      rw [nearest_eq hp inside, nearest_eq (round_nonneg p) again, round_round hp]
      exact ⟨isFinite_ofRat (round_nonneg p) again, rfl⟩
    · rw [nearest_of_le_round hp outside, nearest_zero]
      exact ⟨isFinite_ofRat_zero, rfl⟩
  rcases le_total 0 q with hq | hq
  · exact nonneg q hq
  · obtain ⟨finite, fixed⟩ := nonneg (-q) (neg_nonneg.mpr hq)
    rw [nearest_neg, nearest_neg, neg_inj] at fixed
    refine ⟨?_, fixed⟩
    rw [nearest_neg] at finite
    rcases eq_or_ne (nearest q) 0 with h | h
    · rw [h]
      exact isFinite_ofRat_zero
    · rw [ofRat_neg h, isFinite_neg] at finite
      exact finite

theorem toRat_zero : zero.toRat = 0 := by simp [zero, toRat]

theorem toRat_one : one.toRat = 1 := by
  simpa [nearest, one, ofNat] using nearest_natCast (n := 1) (by norm_num)

theorem isFinite_one : one.isFinite = true := by
  have fixed : nearest (1 : ℚ) = 1 := toRat_one
  have finite := (ofRat_nearest 1).1
  rwa [fixed] at finite

/-- Between finite values the order of the format is the order of the numbers. -/
theorem lt_iff {x y : Binary64} (hx : x.isFinite = true) (hy : y.isFinite = true) :
    lt x y = true ↔ x.toRat < y.toRat := by
  match x, y, hx, hy with
  | finite .., finite .., _, _ => simp [lt]

theorem le_iff {x y : Binary64} (hx : x.isFinite = true) (hy : y.isFinite = true) :
    le x y = true ↔ x.toRat ≤ y.toRat := by
  match x, y, hx, hy with
  | finite .., finite .., _, _ => simp [le, lt, eqv, le_iff_lt_or_eq]

theorem infinite_le {s : Bool} {y : Binary64} (hy : y.isFinite = true) :
    le (infinite s) y = s := by
  match y, hy with
  | finite .., _ => simp [le, lt, eqv]

theorem le_infinite {x : Binary64} {s : Bool} (hx : x.isFinite = true) :
    le x (infinite s) = !s := by
  match x, hx with
  | finite .., _ => simp [le, lt, eqv]

end Binary64

end ArchLint
