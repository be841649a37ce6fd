/-
Bricklib2/Library/Rounding.lean

Quotients of integers, rounded to the nearest integer with halves away from zero.
`Rounds` says what the result has to be; that half of the divisor is added or
subtracted before a truncating division computes it, is `rounds_add_half` and
`rounds_sub_half`.  `rounds_add_half_neg_iff` is about half of the divisor that is added
to a negative number.
-/
import Mathlib.Algebra.Order.Ring.Int
import Mathlib.Data.Int.Order.Basic
import Mathlib.Tactic.Linarith
import Mathlib.Tactic.Ring

namespace Rounding

variable {n d q r r' : ℤ}

/-- `r` is nearest to `n / d`, and of two nearest integers the one away from zero. -/
def Rounds (n d r : ℤ) : Prop :=
  2 * |n - r * d| < d ∨ 2 * |n - r * d| = d ∧ |n| < |r| * d

theorem Rounds.neg (h : Rounds n d r) : Rounds (-n) d (-r) := by
  have hdist : |(-n) - (-r) * d| = |n - r * d| := by
    rw [← abs_neg]
    congr 1
    ring
  rwa [Rounds, hdist, abs_neg, abs_neg]

theorem rounds_neg_iff : Rounds (-n) d r ↔ Rounds n d (-r) := by
  constructor
  · intro h
    simpa only [neg_neg] using h.neg
  · intro h
    simpa only [neg_neg] using h.neg

/-- A multiple of the divisor. -/
theorem rounds_mul (hd : 0 < d) (r : ℤ) : Rounds (r * d) d r := by
  left
  rwa [sub_self, abs_zero, mul_zero]

theorem Rounds.le (h : Rounds n d r) : 2 * |n - r * d| ≤ d := by
  rcases h with h | h
  · exact h.le
  · exact h.1.le

/-- The nearest integers differ only where the quotient is a half, and there the one away
from zero counts. -/
theorem Rounds.largest (hd : 0 < d) (h : Rounds n d r) (h' : Rounds n d r') : r' ≤ r := by
  by_contra hgt
  have hlt : r < r' := not_le.mp hgt
  have hstep : r * d + d ≤ r' * d := by
    have hmul := mul_le_mul_of_nonneg_right (Int.add_one_le_of_lt hlt) hd.le
    linarith
  have hup := (abs_le.mp (le_refl |n - r * d|)).2
  have hdown := (abs_le.mp (le_refl |n - r' * d|)).1
  have hle := h.le
  have hle' := h'.le
  -- both are at the distance of half of `d`
  have htie : 2 * (n - r * d) = d := by omega
  have htie' : 2 * (n - r' * d) = -d := by omega
  have hfar : |n| < |r| * d := by
    rcases h with h | h
    · omega
    · exact h.2
  have hfar' : |n| < |r'| * d := by
    rcases h' with h' | h'
    · omega
    · exact h'.2
  rcases lt_or_ge r 0 with hneg | hnonneg
  · have hr' : r' ≤ 0 := by
      by_contra hpos
      have hmul : d ≤ r' * d := le_mul_of_one_le_left hd.le (by omega)
      have hmul' : r * d ≤ -d := by
        have := mul_le_mul_of_nonneg_right (show r ≤ -1 by omega) hd.le
        linarith
      omega
    rw [abs_of_nonpos hr', neg_mul] at hfar'
    have := neg_abs_le n
    omega
  · rw [abs_of_nonneg hnonneg] at hfar
    have := le_abs_self n
    omega

/-- **The rounded quotient is unique.** -/
theorem Rounds.unique (hd : 0 < d) (h : Rounds n d r) (h' : Rounds n d r') : r = r' :=
  le_antisymm (h'.largest hd h) (h.largest hd h')

/-! ### Division behind half of the divisor -/

/-- A quotient from its bounds. -/
theorem ediv_eq_of_le_of_lt (hd : 0 < d) (hle : q * d ≤ n) (hlt : n < q * d + d) : n / d = q := by
  refine le_antisymm ?_ ?_
  · rw [← Int.lt_add_one_iff, Int.ediv_lt_iff_lt_mul hd]
    linarith
  · rwa [Int.le_ediv_iff_mul_le hd]

/-- Truncation is towards zero. -/
theorem tdiv_of_nonpos (hn : n ≤ 0) : n.tdiv d = -(-n / d) := by
  rw [← Int.tdiv_eq_ediv_of_nonneg (neg_nonneg.mpr hn), Int.neg_tdiv, neg_neg]

/-- **Half of the divisor is added** to a number that is not negative. -/
theorem rounds_add_half (hd : 0 < d) (hn : 0 ≤ n) : Rounds n d ((n + d / 2) / d) := by
  have hmul : d * (n / d) + n % d = n := Int.mul_ediv_add_emod n d
  have hmod := Int.emod_nonneg n hd.ne'
  have hmod' := Int.emod_lt_of_pos n hd
  rw [mul_comm] at hmul
  have hq : 0 ≤ n / d := Int.ediv_nonneg hn hd.le
  generalize n / d = q at hmul hq
  generalize n % d = m at hmul hmod hmod'
  rcases lt_or_ge (m + d / 2) d with hlt | hge
  · rw [ediv_eq_of_le_of_lt hd (show q * d ≤ n + d / 2 by omega) (by omega)]
    left
    rw [abs_of_nonneg (by omega)]
    omega
  · have hsucc : (q + 1) * d = q * d + d := by ring
    rw [ediv_eq_of_le_of_lt hd (show (q + 1) * d ≤ n + d / 2 by omega) (by omega)]
    have hdist : |n - (q + 1) * d| = d - m := by
      rw [hsucc, abs_of_nonpos (by omega)]
      omega
    rw [Rounds, hdist]
    rcases lt_or_eq_of_le (show 2 * (d - m) ≤ d by omega) with h | h
    · exact .inl h
    · right
      rw [abs_of_nonneg hn, abs_of_nonneg (by omega : 0 ≤ q + 1), hsucc]
      exact ⟨h, by omega⟩

/-- **Half of the divisor is subtracted** from a number that is not positive. -/
theorem rounds_sub_half (hd : 0 < d) (hn : n ≤ 0) : Rounds n d ((n - d / 2).tdiv d) := by
  have hhalf : -(n - d / 2) = -n + d / 2 := by ring
  rw [tdiv_of_nonpos (by omega), ← rounds_neg_iff, hhalf]
  exact rounds_add_half hd (by omega)

/-- The rounded quotient. -/
def roundDiv (n d : ℤ) : ℤ := if n < 0 then (n - d / 2).tdiv d else (n + d / 2).tdiv d

theorem rounds_roundDiv (hd : 0 < d) (n : ℤ) : Rounds n d (roundDiv n d) := by
  unfold roundDiv
  split_ifs with hn
  · exact rounds_sub_half hd hn.le
  · rw [Int.tdiv_eq_ediv_of_nonneg (by omega)]
    exact rounds_add_half hd (by omega)

theorem rounds_iff (hd : 0 < d) : Rounds n d r ↔ r = roundDiv n d := by
  constructor
  · exact fun h => h.unique hd (rounds_roundDiv hd n)
  · rintro rfl
    exact rounds_roundDiv hd n

theorem roundDiv_neg (hd : 0 < d) : roundDiv (-n) d = -roundDiv n d :=
  ((rounds_iff hd).mp (rounds_roundDiv hd n).neg).symm

theorem roundDiv_mul (hd : 0 < d) (r : ℤ) : roundDiv (r * d) d = r :=
  ((rounds_iff hd).mp (rounds_mul hd r)).symm

/-- **Half of the divisor is added to a negative number**: that is right only where the
quotient is rounded to zero, and for the largest odd remainder that is rounded towards
zero. -/
theorem rounds_add_half_neg_iff (hd : 0 < d) (hn : n < 0) :
    Rounds n d ((n + d / 2).tdiv d) ↔ -n < d - d / 2 ∨ d % 2 = 1 ∧ -n % d = d / 2 := by
  obtain ⟨m, rfl⟩ : ∃ m, n = -m := ⟨-n, (neg_neg n).symm⟩
  have hm : 0 < m := Int.neg_lt_zero_iff.mp hn
  have hright : roundDiv (-m) d = -((m + d / 2) / d) := by
    rw [roundDiv, if_pos hn, tdiv_of_nonpos (by omega)]
    congr 2
    ring
  rw [rounds_iff hd, hright, neg_neg]
  have hmod := Int.emod_nonneg m hd.ne'
  have hmod' := Int.emod_lt_of_pos m hd
  have hmul : m / d * d + m % d = m := Int.ediv_mul_add_emod m d
  rcases le_or_gt m (d / 2) with hsmall | hlarge
  · -- the sum is not negative, and its quotient is zero
    rw [Int.tdiv_eq_zero_of_lt (by omega) (by omega)]
    have hzero : m / d = 0 := Int.ediv_eq_zero_of_lt hm.le (by omega)
    rw [hzero, zero_mul, zero_add] at hmul
    rw [hmul]
    rcases lt_or_ge (m + d / 2) d with hlt | hge
    · rw [Int.ediv_eq_zero_of_lt (by omega) hlt]
      exact iff_of_true rfl (.inl (by omega))
    · rw [ediv_eq_of_le_of_lt hd (show 1 * d ≤ m + d / 2 by omega) (by omega)]
      exact iff_of_false (by decide) (by omega)
  · have hcode : (-m + d / 2).tdiv d = -((m - d / 2) / d) := by
      rw [tdiv_of_nonpos (by omega)]
      congr 2
      ring
    rw [hcode, neg_inj]
    generalize m / d = q at hmul
    have hsucc : (q + 1) * d = q * d + d := by ring
    have hpred : (q - 1) * d = q * d - d := by ring
    rcases lt_or_ge (m % d) (d / 2) with hlow | hhigh
    · have hle : q ≤ (m + d / 2) / d := (Int.le_ediv_iff_mul_le hd).mpr (by omega)
      rw [ediv_eq_of_le_of_lt hd (show (q - 1) * d ≤ m - d / 2 by omega) (by omega)]
      exact iff_of_false (by omega) (by omega)
    · rw [ediv_eq_of_le_of_lt hd (show q * d ≤ m - d / 2 by omega) (by omega)]
      rcases lt_or_ge (m % d + d / 2) d with hlt | hge
      · rw [ediv_eq_of_le_of_lt hd (show q * d ≤ m + d / 2 by omega) (by omega)]
        exact iff_of_true rfl (.inr (by omega))
      · rw [ediv_eq_of_le_of_lt hd (show (q + 1) * d ≤ m + d / 2 by omega) (by omega)]
        exact iff_of_false (by omega) (by omega)

/-- Otherwise the result is one too large. -/
theorem add_half_near (hd : 0 < d) (hn : n < 0) :
    roundDiv n d ≤ (n + d / 2).tdiv d ∧ (n + d / 2).tdiv d ≤ roundDiv n d + 1 := by
  rw [roundDiv, if_pos hn]
  refine ⟨Int.tdiv_le_tdiv hd (by omega), ?_⟩
  have hlow : (n - d / 2).tdiv d = -(-(n - d / 2) / d) := tdiv_of_nonpos (by omega)
  rcases lt_or_ge 0 (n + d / 2) with hpos | hneg
  · have hle : -(n - d / 2) / d ≤ 1 :=
      Int.lt_add_one_iff.mp ((Int.ediv_lt_iff_lt_mul hd).mpr (by omega))
    rw [Int.tdiv_eq_zero_of_lt hpos.le (by omega), hlow]
    omega
  · have hstep : -(n - d / 2) / d ≤ (-(n + d / 2) + d) / d := Int.ediv_le_ediv hd (by omega)
    rw [Int.add_ediv_of_dvd_right (dvd_refl d), Int.ediv_self hd.ne'] at hstep
    rw [tdiv_of_nonpos hneg, hlow]
    omega

end Rounding
