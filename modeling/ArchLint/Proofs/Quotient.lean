import ArchLint.Proofs.Rounding

/-!
Quotients of counts. Counts below `2 ^ 64` are numbers of the format up to rounding, and so is what
they give when the one is divided by the other (`toRat_div_ofNat`). The quotient that is computed
grows with its dividend and shrinks with its divisor (`quotient_mono`), as the exact one does, and
up to `2 ^ 53` it is the exact one, rounded once (`quotient_eq_round`).
-/

namespace ArchLint.Binary64

/-! ### Counts -/

theorem round_natCast {n : Nat} (h : n ≤ 2 ^ 53) : round n = n := by
  simpa using round_mul_zpow (e := 0) h (by decide)

theorem one_le_round {n : Nat} (h : 0 < n) : 1 ≤ round n := by
  have one : (1 : ℚ) ≤ n := by exact_mod_cast h
  have fixed : round 1 = 1 := by simpa using round_natCast (n := 1) (by norm_num)
  simpa [fixed] using round_mono zero_le_one one

theorem round_le_two_pow {q : ℚ} (h0 : 0 ≤ q) (h : q ≤ 2 ^ 64) : round q ≤ 2 ^ 64 := by
  have fixed : round (2 ^ 64) = 2 ^ 64 := by
    have power : round ((1 : Nat) * 2 ^ (64 : Int)) = (1 : Nat) * 2 ^ (64 : Int) :=
      round_mul_zpow (by norm_num) (by decide)
    rwa [Nat.cast_one, one_mul] at power
  exact (round_mono h0 h).trans_eq fixed

theorem round_lt_top {q : ℚ} (h0 : 0 ≤ q) (h : q ≤ 2 ^ 64) : round q < top := by
  calc round q ≤ 2 ^ (64 : Int) := round_le_two_pow h0 h
    _ < top := zpow_lt_zpow_right₀ (by norm_num) (by norm_num)

theorem ofNat_eq_finite {n : Nat} (h : n < 2 ^ 64) :
    (ofNat n).isFinite = true ∧ (ofNat n).toRat = round n := by
  have nonneg : (0 : ℚ) ≤ n := n.cast_nonneg
  have inside : round n < top := round_lt_top nonneg (by exact_mod_cast h.le)
  exact ⟨isFinite_ofRat nonneg inside, nearest_eq nonneg inside⟩

/-- A count that is not zero is not taken for zero, however large it is. -/
theorem isZero_ofNat {n : Nat} (h : 0 < n) : (ofNat n).isZero = false := by
  have pos : (0 : ℚ) < n := by exact_mod_cast h
  rcases lt_or_ge (round n) top with inside | outside
  · obtain ⟨finite, value⟩ := (ofRat_of_pos pos).1 inside
    rw [nearest] at value
    unfold ofNat
    cases hx : ofRat n with
    | nan | infinite s => rfl
    | finite s m e =>
      simp only [isZero, decide_eq_false_iff_not]
      rintro rfl
      rw [hx, toRat, Nat.cast_zero, zero_mul, mul_zero] at value
      linarith [one_le_round h]
  · rw [ofNat, (ofRat_of_pos pos).2 outside]
    rfl

/-- Rounding keeps the order of what it does not make equal. -/
theorem round_lt_round_iff {p q : ℚ} (hp : 0 ≤ p) (hq : 0 ≤ q) :
    round p < round q ↔ p < q ∧ round p ≠ round q := by
  constructor
  · intro less
    refine ⟨?_, less.ne⟩
    by_contra h
    exact (round_mono hq (not_lt.mp h)).not_gt less
  · rintro ⟨less, apart⟩
    exact (round_mono hp less.le).lt_of_ne apart

/-! ### Signs -/

theorem isNegative_ofRat {q : ℚ} (h : 0 ≤ q) : (ofRat q).isNegative = false := by
  have sign : decide (q.num < 0) = false := by simpa using Rat.num_nonneg.mpr h
  unfold ofRat
  rw [sign]
  cases nearestParts q.num.natAbs q.den with
  | mk m e =>
    simp only
    split_ifs <;> rfl

theorem withSign_false {x : Binary64} (h : x.isNegative = false) : withSign false x = x := by
  cases x <;> simp_all [withSign, isNegative]

/-- What is divided here is neither negative nor infinite, and not divided by zero. -/
theorem div_eq_ofRat {x y : Binary64} (hx : x.isFinite = true) (hy : y.isFinite = true)
    (sx : x.isNegative = false) (sy : y.isNegative = false) (nonneg : 0 ≤ x.toRat)
    (pos : 0 < y.toRat) : x.div y = ofRat (x.toRat / y.toRat) := by
  have quotient : 0 ≤ x.toRat / y.toRat := div_nonneg nonneg pos.le
  match x, y, hx, hy with
  | finite s m e, finite t k f, _, _ =>
    have divisor : (finite t k f).isZero = false := by
      simp only [isZero, decide_eq_false_iff_not]
      rintro rfl
      simp [toRat] at pos
    simp only [div, sx, sy, divisor, bne_self_eq_false]
    exact withSign_false (isNegative_ofRat quotient)

/-- Neither factor is negative or infinite. -/
theorem mul_eq_ofRat {x y : Binary64} (hx : x.isFinite = true) (hy : y.isFinite = true)
    (sx : x.isNegative = false) (sy : y.isNegative = false) (nonneg : 0 ≤ x.toRat * y.toRat) :
    x.mul y = ofRat (x.toRat * y.toRat) := by
  match x, y, hx, hy with
  | finite s m e, finite t k f, _, _ =>
    -- the cases of a product overlap, and on two finite factors the last of them computes
    have signed : (finite s m e).mul (finite t k f) =
        withSign ((finite s m e).isNegative != (finite t k f).isNegative)
          (ofRat ((finite s m e).toRat * (finite t k f).toRat)) := rfl
    rw [signed, sx, sy, bne_self_eq_false, withSign_false (isNegative_ofRat nonneg)]

/-! ### Quotients -/

/-- The quotient of two counts as it is computed: both are rounded, and so is what they give. -/
def quotient (m n : Nat) : ℚ := round (round m / round n)

theorem quotient_mono {m m' n n' : Nat} (hm : m ≤ m') (hn : n' ≤ n) (pos : 0 < n') :
    quotient m n ≤ quotient m' n' := by
  have dividend : round m ≤ round m' := round_mono m.cast_nonneg (by exact_mod_cast hm)
  have divisor : round n' ≤ round n := round_mono n'.cast_nonneg (by exact_mod_cast hn)
  have one := one_le_round pos
  refine round_mono (div_nonneg (round_nonneg _) (round_nonneg _)) ?_
  exact div_le_div₀ (round_nonneg _) dividend (by linarith) divisor

theorem quotient_eq_round {m n : Nat} (hm : m ≤ 2 ^ 53) (hn : n ≤ 2 ^ 53) :
    quotient m n = round (m / n) := by
  rw [quotient, round_natCast hm, round_natCast hn]

/-- A quotient of counts stays in the format. -/
theorem round_div_round_le {m n : Nat} (hm : m < 2 ^ 64) (pos : 0 < n) :
    0 ≤ round m / round n ∧ round m / round n ≤ 2 ^ 64 := by
  constructor
  · exact div_nonneg (round_nonneg _) (round_nonneg _)
  · calc round m / round n ≤ round m := div_le_self (round_nonneg _) (one_le_round pos)
      _ ≤ 2 ^ 64 := round_le_two_pow m.cast_nonneg (by exact_mod_cast hm.le)

theorem quotient_lt_top {m n : Nat} (hm : m < 2 ^ 64) (pos : 0 < n) : quotient m n < top := by
  obtain ⟨nonneg, bound⟩ := round_div_round_le hm pos
  exact round_lt_top nonneg bound

theorem toRat_div_ofNat {m n : Nat} (hm : m < 2 ^ 64) (hn : n < 2 ^ 64) (pos : 0 < n) :
    ((ofNat m).div (ofNat n)).isFinite = true ∧ ((ofNat m).div (ofNat n)).toRat = quotient m n := by
  obtain ⟨finite, value⟩ := ofNat_eq_finite hm
  obtain ⟨finite', value'⟩ := ofNat_eq_finite hn
  have one := one_le_round pos
  have nonneg : 0 ≤ round m / round n := (round_div_round_le hm pos).1
  have inside : round (round m / round n) < top := quotient_lt_top hm pos
  have computed : (ofNat m).div (ofNat n) = ofRat (round m / round n) := by
    rw [← value, ← value']
    refine div_eq_ofRat finite finite' (isNegative_ofRat m.cast_nonneg)
      (isNegative_ofRat n.cast_nonneg) ?_ ?_
    · rw [value]
      exact round_nonneg _
    · rw [value']
      linarith
  rw [computed]
  exact ⟨isFinite_ofRat nonneg inside, nearest_eq nonneg inside⟩

end ArchLint.Binary64
