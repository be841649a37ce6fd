/-
Bricklib2/Utility/MovingAverage.lean

The moving average (moving_average.c) for every choice of its value type, its sum type
and its maximal length, in the arithmetic of C.

Main result: `movingAverageGet_rounds`.  The reported value is the rounded average, except
for negative sums of type `int64_t`, which the compile-time case split leaves out.
-/
import Bricklib2.Library.CInt
import Bricklib2.Library.Rounding

namespace Bricklib2

open CInt Rounding

/-! ### Data -/

/-- `MOVING_AVERAGE_TYPE`, `MOVING_AVERAGE_SUM_TYPE` and `MOVING_AVERAGE_MAX_LENGTH`; no
array has 2^31 entries. -/
structure MovingAverageConfig where
  valueType : CInt := .int16
  sumType : CInt := .int32
  maxLength : ℕ := 100
  maxLength_pos : 1 ≤ maxLength := by decide
  maxLength_lt : maxLength < 2 ^ 31 := by decide

/-- The last values, the place of the next one and their sum. -/
structure MovingAverage (c : MovingAverageConfig) where
  length : ℕ
  index : ℕ
  sum : c.sumType.Value
  values : Vector c.valueType.Value c.maxLength

variable {c : MovingAverageConfig}

/-- `BETWEEN(1, length, MOVING_AVERAGE_MAX_LENGTH)` -/
def MovingAverageConfig.newLength (c : MovingAverageConfig) (length : UInt32) : ℕ :=
  Min.min c.maxLength (Max.max length.toNat 1)

/-- The sum types for which the negative case is compiled. -/
def MovingAverageConfig.handlesNegative (c : MovingAverageConfig) : Bool :=
  c.sumType = .int8 || c.sumType = .int16 || c.sumType = .int32

/-! ### Functions -/

/-- The sum divided by the length, rounded. -/
def movingAverageGet (m : MovingAverage c) : c.valueType.Value :=
  let length := CInt.int32.conv m.length
  let half := CInt.div .int32 .int32 length 2
  let t := c.sumType.common .int32
  if c.handlesNegative ∧ m.sum.val < 0 then
    c.valueType.cast (t.div .int32 (c.sumType.sub .int32 m.sum.val half) length)
  else
    c.valueType.cast (t.div .int32 (c.sumType.add .int32 m.sum.val half) length)

/-- The average starts as if `start_value` had always been there. -/
def movingAverageInit (m : MovingAverage c) (startValue : c.valueType.Value) (length : UInt32) :
    MovingAverage c :=
  let newLength := c.newLength length
  { length := newLength
    index := 0
    sum := c.sumType.cast (c.valueType.mul .int32 startValue.val (CInt.int32.conv newLength))
    values := Vector.ofFn fun i => if i < newLength then startValue else m.values[i] }

/-- Another length makes the average start again from where it is. -/
def movingAverageNewLength (m : MovingAverage c) (length : UInt32) : MovingAverage c :=
  if c.newLength length = m.length then m
  else movingAverageInit m (movingAverageGet m) length

/-- The state behind `moving_average_handle_value`; it returns the new average. -/
def movingAverageHandleValue (m : MovingAverage c) (newValue : c.valueType.Value) :
    MovingAverage c :=
  let sum := c.sumType.cast (c.sumType.sub c.valueType m.sum.val (m.values.getD m.index default).val)
  let values := m.values.setIfInBounds m.index newValue
  let sum := c.sumType.cast (c.sumType.add c.valueType sum.val newValue.val)
  let index := (m.index + 1) % 2 ^ 32
  { m with index := if m.length ≤ index then 0 else index, sum := sum, values := values }

/-! ### The reported value -/

namespace MovingAverage

variable (m : MovingAverage c)

/-- What the function divides by the length. -/
def numerator : ℤ :=
  if c.handlesNegative ∧ m.sum.val < 0 then m.sum.val - m.length / 2 else m.sum.val + m.length / 2

end MovingAverage

variable {m : MovingAverage c}

/-- **The reported value** is a truncated quotient, where half of the length does not lead
out of the type of the computation. -/
theorem movingAverageGet_eq (hpos : 1 ≤ m.length) (hle : m.length ≤ c.maxLength)
    (hfits : (c.sumType.common .int32).InRange m.numerator) :
    movingAverageGet m = c.valueType.cast (m.numerator.tdiv m.length) := by
  have hlt := hle.trans_lt c.maxLength_lt
  have hlength : CInt.int32.conv m.length = m.length :=
    conv_of_inRange (inRange_common_int32 .int32 (by omega) (by omega))
  have hhalf : CInt.div .int32 .int32 m.length 2 = (m.length : ℤ) / 2 := by
    rw [CInt.div_eq (inRange_common_int32 .int32 (by omega) (by omega)) (by decide) (by decide),
      Int.tdiv_eq_ediv_of_nonneg (by omega)]
  have hsum := m.sum.property.common_int32
  have hhalf' := inRange_common_int32 c.sumType (show 0 ≤ (m.length : ℤ) / 2 by omega) (by omega)
  have hdiv (x : ℤ) (hx : (c.sumType.common .int32).InRange x) :
      (c.sumType.common .int32).div .int32 x m.length = x.tdiv m.length :=
    CInt.div_eq hx.common_int32 (inRange_common_int32 _ (by omega) (by omega)) (by omega)
  unfold movingAverageGet
  dsimp only
  rw [hlength, hhalf]
  rw [MovingAverage.numerator] at hfits ⊢
  split_ifs at hfits ⊢
  · rw [CInt.sub_eq hsum hhalf' hfits, hdiv _ hfits]
  · rw [CInt.add_eq hsum hhalf' hfits, hdiv _ hfits]

/-! ### Rounding -/

/-- Half of the length can be added to the sum, or subtracted from it, away from zero. -/
def MovingAverage.HalfFits (m : MovingAverage c) : Prop :=
  c.sumType.InRange (if m.sum.val < 0 then m.sum.val - m.length / 2 else m.sum.val + m.length / 2)

/-- The sum is not a negative one that the case split leaves out, or half of the length does
not matter for its quotient; and the value type has the average. -/
def MovingAverage.RoundsRight (m : MovingAverage c) : Prop :=
  (c.sumType ≠ .int64 ∨ 0 ≤ m.sum.val ∨ -m.sum.val < m.length - m.length / 2 ∨
      m.length % 2 = 1 ∧ -m.sum.val % m.length = m.length / 2) ∧
    c.valueType.InRange (roundDiv m.sum.val m.length)

/-- Signed types but `int64_t` have their negative case. -/
theorem handlesNegative_iff (hsigned : c.sumType.signed = true) :
    c.handlesNegative = true ↔ c.sumType ≠ .int64 := by
  unfold MovingAverageConfig.handlesNegative
  revert hsigned
  cases c.sumType <;> decide

/-- For signed types the numerator stays in the type of the computation. -/
theorem numerator_inRange (hlt : m.length < 2 ^ 31)
    (hhalf : m.HalfFits) : (c.sumType.common .int32).InRange m.numerator := by
  rw [MovingAverage.HalfFits] at hhalf
  rw [MovingAverage.numerator]
  by_cases hneg : m.sum.val < 0
  · rw [if_pos hneg] at hhalf
    split_ifs with hhandles
    · exact hhalf.common_int32
    · refine m.sum.property.common_int32.of_between
        (inRange_common_int32 _ (show 0 ≤ (m.length : ℤ) / 2 by omega) (by omega)) ?_ ?_
      · omega
      · omega
  · rw [if_neg hneg] at hhalf
    rw [if_neg fun h => hneg h.2]
    exact hhalf.common_int32

/-- The quotient that the function returns is the rounded average exactly under the first
condition of `RoundsRight`. -/
theorem rounds_numerator_iff (hsigned : c.sumType.signed = true) (hpos : 1 ≤ m.length) :
    m.numerator.tdiv m.length = roundDiv m.sum.val m.length ↔
      c.sumType ≠ .int64 ∨ 0 ≤ m.sum.val ∨ -m.sum.val < m.length - m.length / 2 ∨
        m.length % 2 = 1 ∧ -m.sum.val % m.length = m.length / 2 := by
  have hd : 0 < (m.length : ℤ) := by omega
  have hhandles := handlesNegative_iff hsigned
  rw [MovingAverage.numerator]
  by_cases hneg : m.sum.val < 0
  · by_cases hint64 : c.sumType = .int64
    · have hno : ¬ (c.handlesNegative = true ∧ m.sum.val < 0) := fun h => hhandles.mp h.1 hint64
      rw [if_neg hno, ← rounds_iff hd, rounds_add_half_neg_iff hd hneg]
      constructor
      · rintro (h | ⟨hodd, h⟩)
        · exact .inr (.inr (.inl h))
        · exact .inr (.inr (.inr ⟨by omega, h⟩))
      · rintro (h | h | h | ⟨hodd, h⟩)
        · exact absurd hint64 h
        · omega
        · exact .inl h
        · exact .inr ⟨by omega, h⟩
    · rw [if_pos ⟨hhandles.mpr hint64, hneg⟩, roundDiv, if_pos hneg]
      exact iff_of_true rfl (.inl hint64)
  · rw [if_neg fun h => hneg h.2, roundDiv, if_neg hneg]
    exact iff_of_true rfl (.inr (.inl (not_lt.mp hneg)))

/-- A wrong quotient is one too large, so the conversion to the value type does not hide it. -/
theorem numerator_near (hpos : 1 ≤ m.length) :
    |m.numerator.tdiv m.length - roundDiv m.sum.val m.length| < 2 ^ c.valueType.width := by
  have hd : 0 < (m.length : ℤ) := by omega
  have hwidth : (1 : ℤ) < 2 ^ c.valueType.width := by cases c.valueType <;> decide
  have hnear : |m.numerator.tdiv m.length - roundDiv m.sum.val m.length| ≤ 1 := by
    rw [MovingAverage.numerator]
    split_ifs with hhandles
    · rw [roundDiv, if_pos hhandles.2, sub_self, abs_zero]
      exact zero_le_one
    · rcases lt_or_ge m.sum.val 0 with hneg | hnonneg
      · obtain ⟨hlow, hhigh⟩ := add_half_near hd hneg
        exact abs_le.mpr ⟨by omega, by omega⟩
      · rw [roundDiv, if_neg (not_lt.mpr hnonneg), sub_self, abs_zero]
        exact zero_le_one
  exact hnear.trans_lt hwidth

/-- The reported value is the rounded average exactly under `RoundsRight`. -/
theorem movingAverageGet_eq_iff (hsigned : c.sumType.signed = true) (hpos : 1 ≤ m.length)
    (hle : m.length ≤ c.maxLength) (hhalf : m.HalfFits) :
    (movingAverageGet m).val = roundDiv m.sum.val m.length ↔ m.RoundsRight := by
  have hfits := numerator_inRange (hle.trans_lt c.maxLength_lt) hhalf
  rw [movingAverageGet_eq hpos hle hfits, MovingAverage.RoundsRight,
    ← rounds_numerator_iff hsigned hpos]
  exact conv_eq_iff (numerator_near hpos)

/-- **The reported value is the average, rounded to the nearest value with halves away from
zero**, exactly under `RoundsRight`; and a negated sum has the negated average exactly if
both are right. -/
theorem movingAverageGet_rounds (c : MovingAverageConfig) (hsigned : c.sumType.signed = true)
    (m : MovingAverage c) (hpos : 1 ≤ m.length) (hle : m.length ≤ c.maxLength)
    (hhalf : m.HalfFits) :
    (Rounds m.sum.val m.length (movingAverageGet m).val ↔ m.RoundsRight) ∧
      ∀ m' : MovingAverage c, m'.length = m.length → m'.sum.val = -m.sum.val → m'.HalfFits →
        c.valueType.InRange (roundDiv m.sum.val m.length) →
        c.valueType.InRange (-roundDiv m.sum.val m.length) →
        ((movingAverageGet m').val = -(movingAverageGet m).val ↔
          m.RoundsRight ∧ m'.RoundsRight) := by
  have hd : 0 < (m.length : ℤ) := by omega
  have hiff := movingAverageGet_eq_iff hsigned hpos hle hhalf
  refine ⟨(rounds_iff hd).trans hiff, fun m' hlength hsum hhalf' hrange hrange' => ?_⟩
  have hiff' := movingAverageGet_eq_iff hsigned (hlength ▸ hpos) (hlength ▸ hle) hhalf'
  rw [hlength, hsum, roundDiv_neg hd] at hiff'
  -- one of the two sums is not negative, and its average is right
  have hone : m.RoundsRight ∨ m'.RoundsRight := by
    rcases le_total 0 m.sum.val with hnonneg | hnonpos
    · exact .inl ⟨.inr (.inl hnonneg), hrange⟩
    · refine .inr ⟨.inr (.inl ?_), ?_⟩
      · rw [hsum]
        exact neg_nonneg.mpr hnonpos
      · rwa [hlength, hsum, roundDiv_neg hd]
  rw [← hiff, ← hiff'] at hone ⊢
  omega

/-- The header with none of its macros defined. -/
def movingAverageDefaults : MovingAverageConfig := {}

/-- Four entries of the default types, with the given sum. -/
def fourEntries (sum : CInt.int32.Value) : MovingAverage {} :=
  { length := 4, index := 0, sum := sum, values := Vector.replicate 100 default }

/-- An average of -1.5 is reported as -2, and one of 1.5 as 2. -/
theorem movingAverageGet_rounds_fourEntries :
    Rounds (-6) 4 (movingAverageGet (fourEntries ⟨-6, by decide⟩)).val ∧
      (movingAverageGet (fourEntries ⟨6, by decide⟩)).val =
        -(movingAverageGet (fourEntries ⟨-6, by decide⟩)).val := by
  have hright : (fourEntries ⟨-6, by decide⟩).RoundsRight := ⟨.inl (by decide), by decide⟩
  have hright' : (fourEntries ⟨6, by decide⟩).RoundsRight := ⟨.inl (by decide), by decide⟩
  have hrounds := movingAverageGet_rounds {} rfl (fourEntries ⟨-6, by decide⟩) (by decide)
    (by decide) (show CInt.InRange _ _ by decide)
  exact ⟨hrounds.1.mpr hright, (hrounds.2 (fourEntries ⟨6, by decide⟩) rfl rfl
    (show CInt.InRange _ _ by decide) (by decide) (by decide)).mpr ⟨hright, hright'⟩⟩

/-- A sum of 64 bits and values of 32. -/
def longSums : MovingAverageConfig := { valueType := .int32, sumType := .int64 }

/-- Two entries with the value -1 have the average 0. -/
theorem movingAverageGet_towards_zero : ¬ ∀ (c : MovingAverageConfig) (m : MovingAverage c),
    c.sumType.signed = true → 1 ≤ m.length → m.length ≤ c.maxLength → m.HalfFits →
    Rounds m.sum.val m.length (movingAverageGet m).val := by
  intro hrounds
  let m : MovingAverage longSums := movingAverageInit
    { length := 0, index := 0, sum := default, values := Vector.replicate 100 default }
    ⟨-1, by decide⟩ 2
  have hm := hrounds longSums m rfl (by decide) (by decide) (show CInt.InRange _ _ by decide)
  rw [rounds_iff (by decide)] at hm
  revert hm
  decide

end Bricklib2
