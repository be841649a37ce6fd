/-
Bricklib2/Warp/ExactFloat.lean

Floats that do not round: rational numbers and NaN.  Concrete runs of the meter
stack use them.
-/
import Mathlib.Data.Rat.Floor
import Mathlib.Data.Nat.Sqrt
import Bricklib2.Warp.MeterTypes

namespace Bricklib2

/-- `none` is NaN, and stands for the infinities too. -/
structure ExactFloat where
  value : Option ℚ
  deriving DecidableEq

namespace ExactFloat

/-- An operation on a number that may have no result. -/
def lift (f : ℚ → Option ℚ) (x : ExactFloat) : ExactFloat := ⟨x.value.bind f⟩

/-- An operation on two numbers that may have no result. -/
def lift₂ (f : ℚ → ℚ → Option ℚ) (x y : ExactFloat) : ExactFloat :=
  ⟨x.value.bind fun p => y.value.bind (f p)⟩

/-- A comparison, which is false for NaN. -/
def compare (f : ℚ → ℚ → Bool) (x y : ExactFloat) : Bool :=
  match x.value, y.value with
  | some p, some q => f p q
  | _, _ => false

/-- The value of an IEEE 754 single, whose exponent field is 255 for infinities
and NaN and 0 for subnormal numbers. -/
def ofSingle (bits : BitVec 32) : Option ℚ :=
  let sign : ℚ := if bits.msb then -1 else 1
  let exponent := bits.toNat / 2 ^ 23 % 2 ^ 8
  let fraction : ℕ := bits.toNat % 2 ^ 23
  if exponent = 255 then
    none
  else if exponent = 0 then
    some (sign * fraction / 2 ^ 149)
  else
    some (sign * (2 ^ 23 + fraction) * 2 ^ exponent / 2 ^ 150)

/-- `simple_sqrtf` to a millionth. -/
def sqrt (x : ℚ) : ℚ := if x ≤ 0 then 0 else Nat.sqrt (⌊x * 10 ^ 12⌋₊) / 10 ^ 6

/-- The polynomial of `simple_acosf`. -/
def acos (x : ℚ) : ℚ :=
  if x ≤ -1 then
    3.14159265
  else if 1 ≤ x then
    0
  else
    sqrt (1 - x) * (1.5707963 - 0.2146018 * x + 0.0865667 * x * x)

instance : CFloat ExactFloat where
  add := lift₂ fun p q => some (p + q)
  sub := lift₂ fun p q => some (p - q)
  mul := lift₂ fun p q => some (p * q)
  div := lift₂ fun p q => if q = 0 then none else some (p / q)
  neg := lift fun p => some (-p)
  nan := ⟨none⟩
  ofBits bits := ⟨ofSingle bits⟩
  ofInt n := ⟨some n⟩
  ofRat q := ⟨some q⟩
  fabsf := lift fun p => some |p|
  simpleSqrtf := lift fun p => some (sqrt p)
  simpleAcosf := lift fun p => some (acos p)
  lt := compare fun p q => p < q
  eq := compare fun p q => p = q

end ExactFloat

end Bricklib2
