/-
Bricklib2/Utility/Sqrt.lean

The rounded integer square root (sqrt.c).  The loop keeps the root in `xr` times the scan
bit `q2`, which goes down by one digit in each round; at the end `xr` is the root and `x`
what is left of the argument.

Main result: `sqrtIntegerPrecise_nearest`.
-/
import Bricklib2.Library.DigitRoot
import Bricklib2.Library.Program
import Mathlib.Algebra.Group.Nat.Defs

namespace Bricklib2

open DigitRoot Program

/-- The variables of `sqrt_integer_precise`.  For the proofs: the exact values of the sums
the loop has computed. -/
structure SqrtState where
  x : UInt32
  xr : UInt32
  q2 : UInt32
  sums : List ℕ

/-- One round of the loop; the flag `f` is the value of the first test. -/
def sqrtRound (s : SqrtState) : SqrtState :=
  if s.xr + s.q2 ≤ s.x then
    { x := s.x - (s.xr + s.q2)
      xr := (s.xr >>> 1) + s.q2
      q2 := s.q2 >>> 2
      sums := ((s.xr >>> 1).toNat + s.q2.toNat) :: (s.xr.toNat + s.q2.toNat) :: s.sums }
  else
    { x := s.x
      xr := s.xr >>> 1
      q2 := s.q2 >>> 2
      sums := (s.xr.toNat + s.q2.toNat) :: s.sums }

/-- The round, and `while(q2 >>= 2)`. -/
def sqrtBody : Program SqrtState (Option Unit) :=
  state fun s => (if (sqrtRound s).q2 = 0 then some () else none, sqrtRound s)

/-- The digits from the highest to the lowest, and then the rounding. -/
def sqrtIntegerPrecise (x : UInt32) : Program SqrtState UInt32 := do
  modify fun _ => { x := x, xr := 0, q2 := 0x40000000, sums := [] }
  loop sqrtBody
  let s ← get
  return if s.xr < s.x then s.xr + 1 else s.xr

/-! ### The invariant -/

/-- In front of a round for the digit of weight `4 ^ k` the root has the `m` digits before
it, and no sum was too large. -/
structure SqrtInv (n k m a : ℕ) (s : SqrtState) : Prop where
  digits : k + m = 15
  root_lt : a < 2 ^ m
  q2_eq : s.q2.toNat = 4 ^ k
  xr_eq : s.xr.toNat = 4 * a * 4 ^ k
  x_eq : s.x.toNat = n - a * a * (4 * 4 ^ k)
  root : RootAt n (4 * 4 ^ k) a
  sums_lt : ∀ sum ∈ s.sums, sum < 2 ^ 32

/-- Behind a round, with the digit in `a`. -/
structure SqrtRounded (n k a : ℕ) (s : SqrtState) : Prop where
  xr_eq : s.xr.toNat = a * 4 ^ k
  x_eq : s.x.toNat = n - a * a * 4 ^ k
  root : RootAt n (4 ^ k) a
  sums_lt : ∀ sum ∈ s.sums, sum < 2 ^ 32

variable {n k m a : ℕ} {s : SqrtState}

theorem sqrtInv_init (x : UInt32) :
    SqrtInv x.toNat 15 0 0 { x := x, xr := 0, q2 := 0x40000000, sums := [] } where
  digits := rfl
  root_lt := by decide
  q2_eq := rfl
  xr_eq := rfl
  x_eq := by rw [Nat.zero_mul, Nat.sub_zero]
  root := rootAt_zero x.toNat_lt
  sums_lt _ hmem := absurd hmem List.not_mem_nil

/-- **The sums fit** into 32 bits. -/
theorem SqrtInv.sum_lt (h : SqrtInv n k m a s) : s.xr.toNat + s.q2.toNat < 2 ^ 32 := by
  have hpos : 0 < 4 ^ k := Nat.pow_pos (by decide)
  have hk : 2 ^ k ≤ 2 ^ 15 := Nat.pow_le_pow_right (by decide) (by have := h.digits; omega)
  have hfour : (4 : ℕ) ^ k = 2 ^ k * 2 ^ k := by
    rw [← Nat.mul_pow]
  rw [h.xr_eq, h.q2_eq]
  calc 4 * a * 4 ^ k + 4 ^ k < (4 * (a + 1)) * 4 ^ k := by linarith
    _ ≤ (4 * 2 ^ m) * 4 ^ k := by
      exact Nat.mul_le_mul_right _ (Nat.mul_le_mul_left 4 h.root_lt)
    _ = 4 * 2 ^ (k + m) * 2 ^ k := by
      rw [hfour, Nat.pow_add]
      ring
    _ ≤ 4 * 2 ^ (k + m) * 2 ^ 15 := Nat.mul_le_mul_left _ hk
    _ = 2 ^ 32 := by
      rw [h.digits]
      norm_num

/-- **A round** appends a digit. -/
theorem SqrtInv.round (h : SqrtInv n k m a s) :
    ∃ a', a' < 2 ^ (m + 1) ∧ SqrtRounded n k a' (sqrtRound s) := by
  have hlt := h.sum_lt
  have hroot := h.root_lt
  have hsum : (s.xr + s.q2).toNat = (4 * a + 1) * 4 ^ k := by
    rw [UInt32.toNat_add, Nat.mod_eq_of_lt hlt, h.xr_eq, h.q2_eq]
    ring
  have hshift : (s.xr >>> 1).toNat = 2 * a * 4 ^ k := by
    rw [UInt32.toNat_shiftRight, h.xr_eq, Nat.shiftRight_eq_div_pow]
    show 4 * a * 4 ^ k / 2 = _
    have hhalf : 4 * a * 4 ^ k = 2 * a * 4 ^ k * 2 := by ring
    rw [hhalf, Nat.mul_div_cancel _ (by decide)]
  have hle : (s.xr >>> 1).toNat ≤ s.xr.toNat := by
    rw [hshift, h.xr_eq]
    exact Nat.mul_le_mul_right _ (Nat.mul_le_mul_right _ (by decide))
  unfold sqrtRound
  split_ifs with hbit
  · have hroom : (4 * a + 1) * 4 ^ k ≤ n - a * a * (4 * 4 ^ k) := by
      rw [← hsum, ← h.x_eq]
      exact UInt32.le_iff_toNat_le.mp hbit
    refine ⟨2 * a + 1, by omega, ?_, ?_, h.root.digit_one hroom, ?_⟩
    · show ((s.xr >>> 1) + s.q2).toNat = _
      rw [UInt32.toNat_add, Nat.mod_eq_of_lt (by omega), hshift, h.q2_eq]
      ring
    · show (s.x - (s.xr + s.q2)).toNat = _
      rw [UInt32.toNat_sub_of_le _ _ hbit, hsum, h.x_eq, Nat.sub_sub]
      congr 1
      ring
    · intro sum hmem
      rcases List.mem_cons.mp hmem with rfl | hmem
      · omega
      rcases List.mem_cons.mp hmem with rfl | hmem
      · exact hlt
      · exact h.sums_lt sum hmem
  · have hroom : n - a * a * (4 * 4 ^ k) < (4 * a + 1) * 4 ^ k := by
      rw [← hsum, ← h.x_eq]
      exact UInt32.lt_iff_toNat_lt.mp (UInt32.not_le.mp hbit)
    refine ⟨2 * a, by omega, hshift, ?_, h.root.digit_zero hroom, ?_⟩
    · show s.x.toNat = _
      rw [h.x_eq]
      congr 1
      ring
    · intro sum hmem
      rcases List.mem_cons.mp hmem with rfl | hmem
      · exact hlt
      · exact h.sums_lt sum hmem

theorem toNat_q2_sqrtRound (h : s.q2.toNat = 4 ^ k) : (sqrtRound s).q2.toNat = 4 ^ k / 4 := by
  have hq2 : (sqrtRound s).q2 = s.q2 >>> 2 := by
    unfold sqrtRound
    split_ifs <;> rfl
  rw [hq2, UInt32.toNat_shiftRight, h, Nat.shiftRight_eq_div_pow]
  rfl

/-! ### The loop -/

/-- The loop ends with the root of its argument. -/
theorem returns_sqrtLoop (h : SqrtInv n k m a s) :
    ∃ u s', (loop sqrtBody).Returns s (u, s') ∧ ∃ a', SqrtRounded n 0 a' s' := by
  refine returns_loop (I := fun s => ∃ k m a, SqrtInv n k m a s)
    (Q := fun _ s' => ∃ a', SqrtRounded n 0 a' s') (fun s => s.q2.toNat) ?_ ⟨k, m, a, h⟩
  rintro s ⟨k, m, a, h⟩
  obtain ⟨a', hlt, hrounded⟩ := h.round
  have hq2 := toNat_q2_sqrtRound h.q2_eq
  refine ⟨_, _, returns_state.mpr rfl, ?_⟩
  cases k with
  | zero =>
    have hzero : (sqrtRound s).q2 = 0 := UInt32.toNat.inj hq2
    rw [if_pos hzero]
    exact ⟨a', hrounded⟩
  | succ k =>
    have hfour : 4 ^ (k + 1) = 4 * 4 ^ k := Nat.pow_succ'
    have hnext : (sqrtRound s).q2.toNat = 4 ^ k := by
      rw [hq2, hfour, Nat.mul_div_cancel_left _ (by decide)]
    have hpos : 0 < 4 ^ k := Nat.pow_pos (by decide)
    have hne : (sqrtRound s).q2 ≠ 0 := by
      intro hzero
      rw [hzero] at hnext
      exact absurd hnext hpos.ne
    have hdigits : k + (m + 1) = 15 := by
      have := h.digits
      omega
    rw [if_neg hne]
    refine ⟨⟨k, m + 1, a', hdigits, hlt, hnext, ?_, ?_, ?_, hrounded.sums_lt⟩, ?_⟩
    · rw [hrounded.xr_eq, hfour]
      ring
    · rw [hrounded.x_eq, hfour]
    · rw [← hfour]
      exact hrounded.root
    · rw [hnext, h.q2_eq, hfour]
      omega

/-- **The square root is rounded to the nearest integer**, and the sums of the loop do not
overflow. -/
theorem sqrtIntegerPrecise_nearest (x : UInt32) (s : SqrtState) :
    ∃ r s', (sqrtIntegerPrecise x).Returns s (r, s') ∧
      (x = 0 → r = 0) ∧
      (x ≠ 0 → (r.toNat : ℤ) * r.toNat - r.toNat < x.toNat) ∧
      (x.toNat : ℤ) ≤ r.toNat * r.toNat + r.toNat ∧
      ∀ sum ∈ s'.sums, sum < 2 ^ 32 := by
  obtain ⟨⟨⟩, s', hloop, a, hend⟩ := returns_sqrtLoop (sqrtInv_init x)
  have hxr : s'.xr.toNat = a := by rw [hend.xr_eq, Nat.pow_zero, Nat.mul_one]
  have hx : s'.x.toNat = x.toNat - a * a := by rw [hend.x_eq, Nat.pow_zero, Nat.mul_one]
  have hroot : RootAt x.toNat 1 a := hend.root
  have hsquare := hroot.le
  have hlt := x.toNat_lt
  rw [Nat.mul_one] at hsquare
  refine ⟨if s'.xr < s'.x then s'.xr + 1 else s'.xr, s',
    returns_bind.mpr ⟨(), _, returns_state.mpr rfl, returns_bind.mpr ⟨(), s', hloop,
      returns_bind.mpr ⟨s', s', returns_get, returns_pure.mpr rfl⟩⟩⟩, ?_⟩
  split_ifs with hup
  · have hrest : a < x.toNat - a * a := by
      rw [← hx, ← hxr]
      exact UInt32.lt_iff_toNat_lt.mp hup
    have ha : a < 2 ^ 16 := by
      by_contra hge
      have hmul := Nat.mul_le_mul (Nat.not_lt.mp hge) (Nat.not_lt.mp hge)
      omega
    have hr : (s'.xr + 1).toNat = a + 1 := by
      rw [UInt32.toNat_add, hxr]
      exact Nat.mod_eq_of_lt (by show a + 1 < _; omega)
    obtain ⟨hlow, hhigh⟩ := hroot.nearest_up hrest
    rw [hr]
    refine ⟨fun hzero => ?_, fun _ => hlow, hhigh, hend.sums_lt⟩
    rw [hzero] at hrest
    exact absurd hrest (by simp)
  · have hrest : x.toNat - a * a ≤ a := by
      rw [← hx, ← hxr]
      exact UInt32.le_iff_toNat_le.mp (UInt32.not_lt.mp hup)
    rw [hxr]
    rcases Nat.eq_zero_or_pos x.toNat with hzero | hpos
    · have ha : a = 0 := by
        rw [hzero] at hsquare
        exact mul_self_eq_zero.mp (Nat.le_zero.mp hsquare)
      have hxzero : x = 0 := UInt32.toNat.inj hzero
      rw [hzero, ha]
      exact ⟨fun _ => UInt32.toNat.inj (hxr.trans ha), fun hne => absurd hxzero hne, by simp,
        hend.sums_lt⟩
    · obtain ⟨hlow, hhigh⟩ := hroot.nearest_down hrest hpos
      refine ⟨fun hzero => ?_, fun _ => hlow, hhigh, hend.sums_lt⟩
      rw [hzero] at hpos
      exact absurd hpos (by decide)

end Bricklib2
