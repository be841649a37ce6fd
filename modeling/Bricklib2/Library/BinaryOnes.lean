/-
Bricklib2/Library/BinaryOnes.lean

The ones and the trailing zeros of a binary number.  Counting up by one turns the
trailing ones into zeros and one zero into a one (`ones_succ`).

The counts of the machine instructions, on bit vectors, are these (`toNat_cpop`,
`toNat_ctz`, `width_sub_clz`).
-/
import Mathlib.Algebra.BigOperators.Intervals
import Mathlib.Data.Nat.Digits.Lemmas
import Mathlib.Data.Nat.Size
import Mathlib.NumberTheory.Padics.PadicVal.Basic

open Finset

namespace BinaryOnes

variable {n k w : ℕ}

/-- The ones in the binary representation. -/
def ones (n : ℕ) : ℕ := (Nat.digits 2 n).sum

/-- The zeros behind the last one; zero has none. -/
abbrev trailingZeros (n : ℕ) : ℕ := padicValNat 2 n

@[simp] theorem ones_zero : ones 0 = 0 := by simp [ones]

@[simp] theorem ones_two_mul (n : ℕ) : ones (2 * n) = ones n := by
  rcases Nat.eq_zero_or_pos n with rfl | h
  · rfl
  · rw [ones, ones, Nat.digits_base_mul (by simp) h, List.sum_cons, zero_add]

@[simp] theorem ones_two_mul_add_one (n : ℕ) : ones (2 * n + 1) = ones n + 1 := by
  rw [ones, add_comm, Nat.digits_add 2 one_lt_two 1 n one_lt_two (Or.inl one_ne_zero),
    List.sum_cons, add_comm, ones]

theorem trailingZeros_two_mul (h : n ≠ 0) : trailingZeros (2 * n) = trailingZeros n + 1 := by
  rw [trailingZeros, padicValNat.mul two_ne_zero h, padicValNat_self, add_comm]

theorem trailingZeros_odd (n : ℕ) : trailingZeros (2 * n + 1) = 0 :=
  padicValNat.eq_zero_of_not_dvd (by omega)

/-- **Counting up.**  The number of zeros that end up behind the last one is the number of ones lost, and one is
gained. -/
theorem ones_succ (n : ℕ) : ones (n + 1) + trailingZeros (n + 1) = ones n + 1 := by
  induction n using Nat.strong_induction_on with
  | _ n ih =>
    rcases Nat.even_or_odd' n with ⟨m, rfl | rfl⟩
    · rw [ones_two_mul_add_one, trailingZeros_odd, ones_two_mul]
    · have hcarry := ih m (by omega)
      have hdouble : 2 * m + 1 + 1 = 2 * (m + 1) := by ring
      rw [hdouble, ones_two_mul, trailingZeros_two_mul (by omega), ones_two_mul_add_one]
      omega

theorem trailingZeros_lt (hn : n ≠ 0) (h : n < 2 ^ k) : trailingZeros n < k :=
  (Nat.pow_lt_pow_iff_right one_lt_two).mp
    ((Nat.le_of_dvd (Nat.pos_of_ne_zero hn) pow_padicValNat_dvd).trans_lt h)

theorem ones_le_of_lt (h : n < 2 ^ k) : ones n ≤ k := by
  induction k generalizing n with
  | zero =>
    obtain rfl : n = 0 := by simpa using h
    simp
  | succ k ih =>
    rw [pow_succ] at h
    rcases Nat.even_or_odd' n with ⟨m, rfl | rfl⟩
    · have hm := ih (n := m) (by omega)
      rw [ones_two_mul]
      omega
    · have hm := ih (n := m) (by omega)
      rw [ones_two_mul_add_one]
      omega

/-! ### Instructions -/

theorem ones_eq_sum_testBit (h : n < 2 ^ k) :
    ones n = ∑ i ∈ range k, (n.testBit i).toNat := by
  induction k generalizing n with
  | zero =>
    obtain rfl : n = 0 := by simpa using h
    simp
  | succ k ih =>
    rw [pow_succ] at h
    have hhalf := ih (n := n / 2) (by omega)
    simp only [Nat.testBit_div_two] at hhalf
    rw [sum_range_succ', ← hhalf]
    rcases Nat.even_or_odd' n with ⟨m, rfl | rfl⟩
    · simp
    · have hdiv : (2 * m + 1) / 2 = m := by omega
      simp [hdiv]

theorem toNat_cpop (x : BitVec w) : x.cpop.toNat = ones x.toNat := by
  have hrec (k : ℕ) : x.cpopNatRec k 0 = ∑ i ∈ range k, (x.getLsbD i).toNat := by
    induction k with
    | zero => rfl
    | succ k ih => rw [BitVec.cpopNatRec_succ, BitVec.cpopNatRec_eq, ih, sum_range_succ, zero_add]
  rw [BitVec.toNat_cpop, hrec, ones_eq_sum_testBit x.isLt]
  rfl

theorem toNat_ctz {x : BitVec w} (h : x ≠ 0) : x.ctz.toNat = trailingZeros x.toNat := by
  have hne : x.toNat ≠ 0 := fun h0 => h (BitVec.eq_of_toNat_eq h0)
  have hlow : 2 ^ x.ctz.toNat ∣ x.toNat := by
    apply Nat.dvd_of_mod_eq_zero
    apply Nat.eq_of_testBit_eq
    intro i
    rw [Nat.testBit_mod_two_pow, Nat.zero_testBit]
    by_cases hi : i < x.ctz.toNat
    · have hbit : x.toNat.testBit i = false := BitVec.getLsbD_false_of_lt_ctz hi
      rw [hbit, Bool.and_false]
    · rw [decide_eq_false hi, Bool.false_and]
  have hhigh : ¬ 2 ^ (x.ctz.toNat + 1) ∣ x.toNat := by
    rintro ⟨m, hm⟩
    have hbit : x.toNat.testBit x.ctz.toNat = true := BitVec.getLsbD_true_ctz_of_ne_zero h
    rw [hm, Nat.testBit_two_pow_mul] at hbit
    simp at hbit
  rw [padicValNat_dvd_iff_le hne] at hlow hhigh
  exact le_antisymm hlow (Nat.le_of_lt_succ (not_le.mp hhigh))

theorem width_sub_clz (x : BitVec w) : w - x.clz.toNat = Nat.size x.toNat := by
  apply le_antisymm
  · rcases eq_or_ne x 0 with rfl | hx
    · simp [BitVec.clz_eq_iff_eq_zero.mpr]
    rcases Nat.eq_zero_or_pos w with rfl | hw
    · simp
    have hge := BitVec.two_pow_sub_clz_le_toNat_of_ne_zero hw hx
    have hlt := (Nat.pow_lt_pow_iff_right one_lt_two).mp (hge.trans_lt (Nat.lt_size_self x.toNat))
    omega
  · exact Nat.size_le.mpr BitVec.toNat_lt_two_pow_sub_clz

end BinaryOnes
