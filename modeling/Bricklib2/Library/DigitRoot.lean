/-
Bricklib2/Library/DigitRoot.lean

Square roots, one binary digit after the other.  `RootAt n q a` says that `a` is the root
of `n` as far as multiples of `q` are concerned; going from `4 * q` to `q` appends a digit
to `a` (`RootAt.digit_one`, `RootAt.digit_zero`), and at `q = 1` the last comparison
rounds (`RootAt.nearest_up`, `RootAt.nearest_down`).
-/
import Mathlib.Tactic.Linarith
import Mathlib.Tactic.Ring

namespace DigitRoot

variable {n q a : ℕ}

/-- `a` is the largest number with `a * a * q ≤ n`. -/
structure RootAt (n q a : ℕ) : Prop where
  le : a * a * q ≤ n
  lt : n < (a + 1) * (a + 1) * q

/-- `r` is nearest to the square root of `n`. -/
def Nearest (n r : ℕ) : Prop := (r : ℤ) * r - r < n ∧ (n : ℤ) ≤ r * r + r

theorem rootAt_zero (h : n < q) : RootAt n q 0 := ⟨by omega, by omega⟩

/-- The next digit is a one if what is left of `n` has room for it. -/
theorem RootAt.digit_one (h : RootAt n (4 * q) a) (hroom : (4 * a + 1) * q ≤ n - a * a * (4 * q)) :
    RootAt n q (2 * a + 1) := by
  have hle := h.le
  constructor
  · calc (2 * a + 1) * (2 * a + 1) * q = a * a * (4 * q) + (4 * a + 1) * q := by ring
      _ ≤ n := by omega
  · calc n < (a + 1) * (a + 1) * (4 * q) := h.lt
      _ = (2 * a + 1 + 1) * (2 * a + 1 + 1) * q := by ring

/-- Otherwise it is a zero. -/
theorem RootAt.digit_zero (h : RootAt n (4 * q) a)
    (hroom : n - a * a * (4 * q) < (4 * a + 1) * q) : RootAt n q (2 * a) := by
  have hle := h.le
  constructor
  · calc 2 * a * (2 * a) * q = a * a * (4 * q) := by ring
      _ ≤ n := hle
  · calc n < a * a * (4 * q) + (4 * a + 1) * q := by omega
      _ = (2 * a + 1) * (2 * a + 1) * q := by ring

/-- Behind the last digit, more than half of the way to the next square. -/
theorem RootAt.nearest_up (h : RootAt n 1 a) (hrest : a < n - a * a) : Nearest n (a + 1) := by
  have hlt := h.lt
  have hsquare : (a + 1) * (a + 1) = a * a + 2 * a + 1 := by ring
  rw [mul_one, hsquare] at hlt
  have hcast : ((a + 1 : ℕ) : ℤ) * (a + 1 : ℕ) = ((a * a + 2 * a + 1 : ℕ) : ℤ) := by
    rw [← hsquare]
    exact (Nat.cast_mul _ _).symm
  rw [Nearest, hcast]
  omega

/-- At most half of the way. -/
theorem RootAt.nearest_down (h : RootAt n 1 a) (hrest : n - a * a ≤ a) (hpos : 0 < n) :
    Nearest n a := by
  have hle := h.le
  rw [mul_one] at hle
  have ha : 0 < a := by
    by_contra hzero
    obtain rfl : a = 0 := by omega
    omega
  have hcast : (a : ℤ) * a = ((a * a : ℕ) : ℤ) := (Nat.cast_mul a a).symm
  rw [Nearest, hcast]
  omega

end DigitRoot
