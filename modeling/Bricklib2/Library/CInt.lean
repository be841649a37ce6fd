/-
Bricklib2/Library/CInt.lean

The integer types of C on a machine with an `int` of 32 bits: their ranges, the
conversion to a type, which keeps the value modulo two to the number of bits, and the
type in which two operands are put together.  Overflow of a signed type is wrapped like
the conversion.
-/
import Mathlib.Algebra.Order.Group.Unbundled.Int
import Mathlib.Algebra.Order.Ring.Int
import Mathlib.Data.Int.Order.Basic
import Mathlib.Tactic.Linarith

/-- `int8_t` to `uint64_t` -/
inductive CInt
  | int8
  | uint8
  | int16
  | uint16
  | int32
  | uint32
  | int64
  | uint64
  deriving DecidableEq

namespace CInt

variable {t : CInt} {x y : ℤ}

/-- The bits of a type. -/
def width : CInt → ℕ
  | int8 | uint8 => 8
  | int16 | uint16 => 16
  | int32 | uint32 => 32
  | int64 | uint64 => 64

/-- The type has negative values. -/
def signed : CInt → Bool
  | int8 | int16 | int32 | int64 => true
  | uint8 | uint16 | uint32 | uint64 => false

/-- The least value. -/
def min (t : CInt) : ℤ := if t.signed then -2 ^ (t.width - 1) else 0

/-- The greatest value. -/
def max (t : CInt) : ℤ := t.min + 2 ^ t.width - 1

/-- The value is one of the type. -/
def InRange (t : CInt) (x : ℤ) : Prop := t.min ≤ x ∧ x ≤ t.max

instance (t : CInt) (x : ℤ) : Decidable (t.InRange x) := inferInstanceAs (Decidable (_ ∧ _))

/-! ### Conversions -/

/-- The conversion of a value to the type. -/
def conv (t : CInt) (x : ℤ) : ℤ := t.min + (x - t.min) % 2 ^ t.width

theorem conv_of_inRange (h : t.InRange x) : t.conv x = x := by
  obtain ⟨hmin, hmax⟩ := h
  rw [max] at hmax
  rw [conv, Int.emod_eq_of_lt (by omega) (by omega)]
  omega

theorem inRange_conv (t : CInt) (x : ℤ) : t.InRange (t.conv x) := by
  have hpos : (0 : ℤ) < 2 ^ t.width := by positivity
  have hnonneg := Int.emod_nonneg (x - t.min) hpos.ne'
  have hlt := Int.emod_lt_of_pos (x - t.min) hpos
  rw [InRange, conv, max]
  omega

theorem conv_eq_self_iff : t.conv x = x ↔ t.InRange x :=
  ⟨fun h => h ▸ inRange_conv t x, conv_of_inRange⟩

/-- A value that is closer than two to the number of bits is not mistaken for another one. -/
theorem conv_eq_iff (h : |x - y| < 2 ^ t.width) : t.conv x = y ↔ x = y ∧ t.InRange y := by
  constructor
  · intro heq
    refine ⟨?_, heq ▸ inRange_conv t x⟩
    have hdvd : (2 : ℤ) ^ t.width ∣ x - y := by
      refine ⟨(x - t.min) / 2 ^ t.width, ?_⟩
      have hdiv := Int.mul_ediv_add_emod (x - t.min) (2 ^ t.width)
      rw [← heq, conv]
      linarith
    exact sub_eq_zero.mp (Int.eq_zero_of_abs_lt_dvd hdvd h)
  · rintro ⟨rfl, hx⟩
    exact conv_of_inRange hx

/-- The smallest and the largest value are on both sides of zero. -/
theorem min_nonpos (t : CInt) : t.min ≤ 0 := by cases t <;> decide

theorem max_pos (t : CInt) : 0 < t.max := by cases t <;> decide

theorem inRange_zero (t : CInt) : t.InRange 0 := ⟨t.min_nonpos, t.max_pos.le⟩

theorem InRange.of_between {z : ℤ} (hx : t.InRange x) (hy : t.InRange y) (hle : x ≤ z)
    (hle' : z ≤ y) : t.InRange z :=
  ⟨hx.1.trans hle, hle'.trans hy.2⟩

theorem inRange_min (t : CInt) : t.InRange t.min := ⟨le_rfl, t.min_nonpos.trans t.max_pos.le⟩

theorem inRange_max (t : CInt) : t.InRange t.max := ⟨t.min_nonpos.trans t.max_pos.le, le_rfl⟩

/-- The values of a type. -/
abbrev Value (t : CInt) : Type := { x : ℤ // t.InRange x }

/-- A value converted to the type. -/
def cast (t : CInt) (x : ℤ) : t.Value := ⟨t.conv x, inRange_conv t x⟩

instance : Inhabited t.Value := ⟨0, t.inRange_zero⟩

theorem cast_of_inRange (h : t.InRange x) : (t.cast x).val = x := conv_of_inRange h

/-! ### Operands -/

/-- The integer promotion. -/
def promote (t : CInt) : CInt := if t.width < 32 then int32 else t

/-- The usual arithmetic conversions: the wider type, of two types of one width the unsigned
one. -/
def common (t u : CInt) : CInt :=
  if t.promote.width < u.promote.width then u.promote
  else if u.promote.width < t.promote.width then t.promote
  else if t.promote.signed then u.promote
  else t.promote

/-- The sum in the common type of two operands. -/
def add (t u : CInt) (x y : ℤ) : ℤ := (t.common u).conv ((t.common u).conv x + (t.common u).conv y)

/-- The difference in the common type of two operands. -/
def sub (t u : CInt) (x y : ℤ) : ℤ := (t.common u).conv ((t.common u).conv x - (t.common u).conv y)

/-- The product in the common type of two operands. -/
def mul (t u : CInt) (x y : ℤ) : ℤ := (t.common u).conv ((t.common u).conv x * (t.common u).conv y)

/-- Division truncates. -/
def div (t u : CInt) (x y : ℤ) : ℤ :=
  (t.common u).conv (((t.common u).conv x).tdiv ((t.common u).conv y))

section Exact

variable {u : CInt} (hx : (t.common u).InRange x) (hy : (t.common u).InRange y)

include hx hy

theorem add_eq (h : (t.common u).InRange (x + y)) : add t u x y = x + y := by
  rw [add, conv_of_inRange hx, conv_of_inRange hy, conv_of_inRange h]

theorem sub_eq (h : (t.common u).InRange (x - y)) : sub t u x y = x - y := by
  rw [sub, conv_of_inRange hx, conv_of_inRange hy, conv_of_inRange h]

/-- A product is exact where the type has it. -/
theorem mul_eq_iff : mul t u x y = x * y ↔ (t.common u).InRange (x * y) := by
  rw [mul, conv_of_inRange hx, conv_of_inRange hy, conv_eq_self_iff]

/-- The quotient of a positive number is not farther from zero. -/
theorem div_eq (hpos : 0 < y) : div t u x y = x.tdiv y := by
  have hle : |x.tdiv y| ≤ |x| := by
    have hnat := Int.natAbs_tdiv_le_natAbs x y
    rwa [Int.abs_eq_natAbs, Int.abs_eq_natAbs, Int.ofNat_le]
  have hmin := (t.common u).min_nonpos
  have hmax := (t.common u).max_pos
  have hquotient : (t.common u).InRange (x.tdiv y) := by
    rcases le_or_gt 0 x with hnonneg | hneg
    · have hquot := Int.tdiv_nonneg hnonneg hpos.le
      rw [abs_of_nonneg hquot, abs_of_nonneg hnonneg] at hle
      exact ⟨hmin.trans hquot, hle.trans hx.2⟩
    · have hquot : x.tdiv y ≤ 0 := by
        have hneg' := Int.tdiv_nonneg (neg_nonneg.mpr hneg.le) hpos.le
        rw [Int.neg_tdiv] at hneg'
        exact neg_nonneg.mp hneg'
      rw [abs_of_nonpos hquot, abs_of_neg hneg] at hle
      exact ⟨hx.1.trans (neg_le_neg_iff.mp hle), hquot.trans hmax.le⟩
  rw [div, conv_of_inRange hx, conv_of_inRange hy, conv_of_inRange hquotient]

end Exact

/-- The second operand does not take values away from a type that has all of its values. -/
theorem InRange.common {u : CInt} (hmin : t.min ≤ u.min) (hmax : u.max ≤ t.max)
    (h : t.InRange x) : (t.common u).InRange x := by
  have hle : (t.common u).min ≤ t.min ∧ t.max ≤ (t.common u).max := by
    revert hmin hmax
    cases t <;> cases u <;> decide
  exact ⟨hle.1.trans h.1, h.2.trans hle.2⟩

/-- An `int32_t` operand does not take values away either. -/
theorem InRange.common_int32 (h : t.InRange x) : (t.common int32).InRange x := by
  have hle : (t.common int32).min ≤ t.min ∧ t.max ≤ (t.common int32).max := by
    cases t <;> decide
  exact ⟨hle.1.trans h.1, h.2.trans hle.2⟩

/-- Small numbers that are not negative are in each promoted type. -/
theorem inRange_common_int32 (t : CInt) (hnonneg : 0 ≤ x) (hlt : x < 2 ^ 31) :
    (t.common int32).InRange x := by
  have hmin := (t.common int32).min_nonpos
  have hmax : 2 ^ 31 ≤ (t.common int32).max + 1 := by cases t <;> decide
  exact ⟨hmin.trans hnonneg, by omega⟩

end CInt
