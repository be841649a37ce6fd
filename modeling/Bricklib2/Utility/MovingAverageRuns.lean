/-
Bricklib2/Utility/MovingAverageRuns.lean

The moving average over whole runs.  A run begins with an initialisation; its inputs are
the values handled and, for each initialisation, as many start values as the average is
long.  Main result: `movingAverage_correct`.  The sum is the exact sum of the last inputs,
as long as no start value is too large for the product that begins the sum.
-/
import Bricklib2.Library.LastInputs
import Bricklib2.Utility.MovingAverage
import Mathlib.Algebra.Order.BigOperators.Group.List

namespace Bricklib2

open CInt LastInputs Rounding

variable {c : MovingAverageConfig} {m : MovingAverage c}

/-! ### Runs -/

/-- The sum type has `MOVING_AVERAGE_MAX_LENGTH` times every value. -/
def MovingAverageConfig.SumFits (c : MovingAverageConfig) : Prop :=
  ∀ x : c.valueType.Value, c.sumType.InRange (c.maxLength * x.val)

/-- The calls of the module. -/
inductive MovingAverageOp (c : MovingAverageConfig)
  | init (startValue : c.valueType.Value) (length : UInt32)
  | newLength (length : UInt32)
  | handleValue (newValue : c.valueType.Value)

namespace MovingAverageOp

/-- The average after a call. -/
def step (m : MovingAverage c) : MovingAverageOp c → MovingAverage c
  | init startValue length => movingAverageInit m startValue length
  | newLength length => movingAverageNewLength m length
  | handleValue newValue => movingAverageHandleValue m newValue

/-- What the operation adds to the inputs; a new length goes on with the average. -/
def inputs (m : MovingAverage c) : MovingAverageOp c → List c.valueType.Value
  | init startValue length => List.replicate (c.newLength length) startValue
  | newLength length =>
    if c.newLength length = m.length then []
    else List.replicate (c.newLength length) (movingAverageGet m)
  | handleValue newValue => [newValue]

end MovingAverageOp

/-- The states of the runs whose steps are all allowed, with their inputs. -/
inductive MovingAverageRun (c : MovingAverageConfig)
    (Allowed : MovingAverage c → MovingAverageOp c → Prop) :
    MovingAverage c → List c.valueType.Value → Prop
  | init (m : MovingAverage c) (startValue : c.valueType.Value) (length : UInt32)
      (h : Allowed m (.init startValue length)) :
      MovingAverageRun c Allowed (MovingAverageOp.step m (.init startValue length))
        (MovingAverageOp.inputs m (.init startValue length))
  | step {m : MovingAverage c} {inputs : List c.valueType.Value} (op : MovingAverageOp c)
      (run : MovingAverageRun c Allowed m inputs) (h : Allowed m op) :
      MovingAverageRun c Allowed (op.step m) (inputs ++ op.inputs m)

/-! ### The invariant -/

/-- The first `length` entries of `values`. -/
def MovingAverage.entries (m : MovingAverage c) : List c.valueType.Value :=
  m.values.toList.take m.length

/-- The entries are the last inputs, and the sum is theirs. -/
structure MovingAverage.Correct (m : MovingAverage c) (inputs : List c.valueType.Value) :
    Prop where
  length_pos : 1 ≤ m.length
  length_le : m.length ≤ c.maxLength
  index_lt : m.index < m.length
  sum_eq : m.sum.val = (m.entries.map Subtype.val).sum
  last : window m.entries m.index <:+ inputs

theorem length_entries (hle : m.length ≤ c.maxLength) : m.entries.length = m.length := by
  rw [MovingAverage.entries, List.length_take, Vector.length_toList]
  exact Nat.min_eq_left hle

section Fits

variable (hfits : c.SumFits)

include hfits

/-- The sum type has a value as often as there may be entries. -/
theorem inRange_mul {x : ℤ} (hx : c.valueType.InRange x) {n : ℕ} (hn : n ≤ c.maxLength) :
    c.sumType.InRange (x * n) := by
  have hmax := hfits ⟨x, hx⟩
  rw [mul_comm] at hmax
  have hcast : (n : ℤ) ≤ c.maxLength := Int.ofNat_le.mpr hn
  rcases le_total 0 x with hnonneg | hnonpos
  · exact c.sumType.inRange_zero.of_between hmax (mul_nonneg hnonneg (Int.natCast_nonneg n))
      (mul_le_mul_of_nonneg_left hcast hnonneg)
  · exact hmax.of_between c.sumType.inRange_zero (mul_le_mul_of_nonpos_left hcast hnonpos)
      (mul_nonpos_of_nonpos_of_nonneg hnonpos (Int.natCast_nonneg n))

/-- The sum type has each value. -/
theorem sumType_inRange {x : ℤ} (hx : c.valueType.InRange x) : c.sumType.InRange x := by
  have hone := inRange_mul hfits hx c.maxLength_pos
  rwa [Nat.cast_one, mul_one] at hone

/-- The sum type has the sum of as many values as there may be entries. -/
theorem inRange_sum (xs : List c.valueType.Value) (hle : xs.length ≤ c.maxLength) :
    c.sumType.InRange (xs.map Subtype.val).sum := by
  have hmin := (inRange_mul hfits c.valueType.inRange_min hle).1
  have hmax := (inRange_mul hfits c.valueType.inRange_max hle).2
  have hlow := List.card_nsmul_le_sum (xs.map Subtype.val) c.valueType.min fun x hx => by
    obtain ⟨y, -, rfl⟩ := List.mem_map.mp hx
    exact y.property.1
  have hhigh := List.sum_le_card_nsmul (xs.map Subtype.val) c.valueType.max fun x hx => by
    obtain ⟨y, -, rfl⟩ := List.mem_map.mp hx
    exact y.property.2
  rw [List.length_map, nsmul_eq_mul, mul_comm] at hlow hhigh
  exact ⟨hmin.trans hlow, hhigh.trans hmax⟩

/-- The type of a sum of a sum and a value has the sums. -/
theorem inRange_common {x : ℤ} (hx : c.sumType.InRange x) :
    (c.sumType.common c.valueType).InRange x :=
  hx.common (sumType_inRange hfits c.valueType.inRange_min).1
    (sumType_inRange hfits c.valueType.inRange_max).2

end Fits

/-! ### Initialisation -/

/-- The product with which a sum begins is exact. -/
def MovingAverageConfig.ProductFits (c : MovingAverageConfig) (startValue : c.valueType.Value)
    (length : UInt32) : Prop :=
  (c.valueType.common .int32).InRange (startValue.val * c.newLength length)

theorem newLength_pos (c : MovingAverageConfig) (length : UInt32) : 1 ≤ c.newLength length :=
  le_min c.maxLength_pos (le_max_right _ _)

theorem newLength_le (c : MovingAverageConfig) (length : UInt32) :
    c.newLength length ≤ c.maxLength :=
  min_le_left _ _

/-- The start values. -/
theorem entries_init (m : MovingAverage c) (startValue : c.valueType.Value) (length : UInt32) :
    (movingAverageInit m startValue length).entries =
      List.replicate (c.newLength length) startValue := by
  have hle := newLength_le c length
  apply List.ext_getElem
  · rw [length_entries hle, List.length_replicate]
    rfl
  · intro i hi hi'
    rw [List.length_replicate] at hi'
    rw [List.getElem_replicate]
    simp only [MovingAverage.entries, List.getElem_take, Vector.getElem_toList, movingAverageInit,
      Vector.getElem_ofFn, if_pos hi']

/-- **The sum begins exact** where the product is. -/
theorem sum_init (hfits : c.SumFits) (m : MovingAverage c) {startValue : c.valueType.Value}
    {length : UInt32} (hproduct : c.ProductFits startValue length) :
    (movingAverageInit m startValue length).sum.val = startValue.val * c.newLength length := by
  have hle := newLength_le c length
  have hlt := hle.trans_lt c.maxLength_lt
  have hlength : CInt.int32.conv (c.newLength length) = c.newLength length :=
    conv_of_inRange (inRange_common_int32 .int32 (by omega) (by omega))
  have hmul := (mul_eq_iff startValue.property.common_int32
    (inRange_common_int32 c.valueType (Int.natCast_nonneg (c.newLength length))
      (by omega))).mpr hproduct
  show (c.sumType.cast _).val = _
  rw [hlength, hmul]
  exact cast_of_inRange (inRange_mul hfits startValue.property hle)

theorem correct_init (hfits : c.SumFits) (m : MovingAverage c) {startValue : c.valueType.Value}
    {length : UInt32} (hproduct : c.ProductFits startValue length)
    (inputs : List c.valueType.Value) :
    (movingAverageInit m startValue length).Correct
      (inputs ++ List.replicate (c.newLength length) startValue) where
  length_pos := newLength_pos c length
  length_le := newLength_le c length
  index_lt := newLength_pos c length
  sum_eq := by
    rw [sum_init hfits m hproduct, entries_init, List.map_replicate, List.sum_replicate,
      nsmul_eq_mul, mul_comm]
  last := by
    rw [entries_init]
    show window _ 0 <:+ _
    rw [window, List.drop_zero, List.take_zero, List.append_nil]
    exact List.suffix_append inputs _

/-! ### New values -/

section HandleValue

variable {inputs : List c.valueType.Value}

theorem entries_handleValue (m : MovingAverage c) (newValue : c.valueType.Value) :
    (movingAverageHandleValue m newValue).entries = m.entries.set m.index newValue := by
  show (m.values.setIfInBounds m.index newValue).toList.take m.length = _
  rw [Vector.toList_setIfInBounds, List.take_set]
  rfl

/-- The value that is taken off the sum. -/
theorem getD_index (hle : m.length ≤ c.maxLength) (hlt : m.index < m.entries.length) :
    m.values.getD m.index default = m.entries[m.index] := by
  have hindex : m.index < c.maxLength := by
    rw [length_entries hle] at hlt
    omega
  simp [MovingAverage.entries, Vector.getD, hindex]

/-- What is left of the sum is the sum of the other entries. -/
theorem sum_others (hlt : m.index < m.entries.length) :
    (m.entries.map Subtype.val).sum - m.entries[m.index].val =
      ((window m.entries m.index).tail.map Subtype.val).sum := by
  have hsum := sum_window (m.entries.map Subtype.val) m.index
  rw [window, ← List.map_drop, ← List.map_take, ← List.map_append] at hsum
  rw [← hsum, ← window, window_eq_cons hlt, List.tail_cons, List.map_cons, List.sum_cons,
    add_sub_cancel_left]

/-- **The sum stays exact.** -/
theorem sum_handleValue (hfits : c.SumFits) (h : m.Correct inputs)
    (newValue : c.valueType.Value) :
    (movingAverageHandleValue m newValue).sum.val =
      ((m.entries.set m.index newValue).map Subtype.val).sum := by
  have hlength := length_entries h.length_le
  have hlt : m.index < m.entries.length := hlength ▸ h.index_lt
  have hothers : c.sumType.InRange (m.sum.val - m.entries[m.index].val) := by
    rw [h.sum_eq, sum_others hlt]
    refine inRange_sum hfits _ ?_
    rw [List.length_tail, length_window, hlength]
    exact (Nat.sub_le _ _).trans h.length_le
  have hset : ((m.entries.set m.index newValue).map Subtype.val).sum =
      m.sum.val - m.entries[m.index].val + newValue.val := by
    rw [List.map_set, LastInputs.sum_set (by rwa [List.length_map]), List.getElem_map, h.sum_eq]
  have hnew : c.sumType.InRange (m.sum.val - m.entries[m.index].val + newValue.val) := by
    rw [← hset]
    exact inRange_sum hfits _ (by rw [List.length_set, hlength]; exact h.length_le)
  have hvalue (x : c.valueType.Value) : (c.sumType.common c.valueType).InRange x.val :=
    inRange_common hfits (sumType_inRange hfits x.property)
  have hsub := sub_eq (inRange_common hfits m.sum.property) (hvalue m.entries[m.index])
    (inRange_common hfits hothers)
  have hadd := add_eq (inRange_common hfits hothers) (hvalue newValue) (inRange_common hfits hnew)
  show (c.sumType.cast (c.sumType.add c.valueType (c.sumType.cast (c.sumType.sub c.valueType
    m.sum.val (m.values.getD m.index default).val)).val newValue.val)).val = _
  rw [getD_index h.length_le hlt, hsub, cast_of_inRange hothers, hadd, cast_of_inRange hnew, hset]

/-- **A new value** takes the place of the oldest one. -/
theorem correct_handleValue (hfits : c.SumFits) (h : m.Correct inputs)
    (newValue : c.valueType.Value) :
    (movingAverageHandleValue m newValue).Correct (inputs ++ [newValue]) := by
  have hlength := length_entries h.length_le
  have hlt : m.index < m.entries.length := hlength ▸ h.index_lt
  have hbound := h.length_le.trans_lt c.maxLength_lt
  have hnext : (movingAverageHandleValue m newValue).index = next m.entries m.index := by
    have hindex : (m.index + 1) % 2 ^ 32 = m.index + 1 := Nat.mod_eq_of_lt (by omega)
    show (if m.length ≤ (m.index + 1) % 2 ^ 32 then 0 else (m.index + 1) % 2 ^ 32) = _
    rw [hindex, next, hlength]
  refine ⟨h.length_pos, h.length_le, ?_, ?_, ?_⟩
  · rw [hnext]
    exact hlength ▸ next_lt hlt
  · rw [entries_handleValue, sum_handleValue hfits h]
  · rw [entries_handleValue, hnext]
    exact suffix_push h.last hlt newValue

end HandleValue

/-! ### New lengths -/

/-- A new length keeps the average: the negative case is compiled or does not matter, and half
of the length does not lead out of the type of the computation. -/
def MovingAverageConfig.KeepsRounding (c : MovingAverageConfig) (average : ℤ) (length : ℕ) :
    Prop :=
  (c.sumType ≠ .int64 ∨ 0 ≤ average ∨ length = 1) ∧
    (c.sumType.common .int32).InRange (if c.handlesNegative ∧ average < 0
      then average * length - length / 2 else average * length + length / 2)

/-- What keeps a run correct: no product overflows, and a new length keeps the average. -/
def MovingAverageOp.Right (m : MovingAverage c) : MovingAverageOp c → Prop
  | .init startValue length => c.ProductFits startValue length
  | .newLength length => c.newLength length = m.length ∨
      c.ProductFits (movingAverageGet m) length ∧
        c.KeepsRounding (movingAverageGet m).val (c.newLength length)
  | .handleValue _ => True

/-- A type without a negative case that is not `int64_t` has no negative values. -/
theorem sum_nonneg_of_not_handlesNegative (hhandles : ¬ c.handlesNegative = true)
    (hint64 : c.sumType ≠ .int64) {x : ℤ} (hx : c.sumType.InRange x) : 0 ≤ x := by
  have hmin : c.sumType.min = 0 := by
    unfold MovingAverageConfig.handlesNegative at hhandles
    revert hhandles hint64
    cases c.sumType <;> decide
  exact hmin ▸ hx.1

/-- **An average that begins anew is reported unchanged.** -/
theorem get_init (hfits : c.SumFits) (m : MovingAverage c) {average : c.valueType.Value}
    {length : UInt32} (hproduct : c.ProductFits average length)
    (hkeeps : c.KeepsRounding average.val (c.newLength length)) :
    movingAverageGet (movingAverageInit m average length) = average := by
  obtain ⟨hrounding, hfit⟩ := hkeeps
  have hsum := sum_init hfits m hproduct
  have hd : 0 < (c.newLength length : ℤ) := by
    have := newLength_pos c length
    omega
  have hneg : average.val * c.newLength length < 0 ↔ average.val < 0 :=
    ⟨fun h => neg_of_mul_neg_left h hd.le, fun h => mul_neg_of_neg_of_pos h hd⟩
  have hnumerator : (movingAverageInit m average length).numerator =
      if c.handlesNegative ∧ average.val < 0
      then average.val * c.newLength length - c.newLength length / 2
      else average.val * c.newLength length + c.newLength length / 2 := by
    rw [MovingAverage.numerator, hsum, if_congr (and_congr_right fun _ => hneg) rfl rfl]
    rfl
  have hquotient := roundDiv_mul hd average.val
  rw [roundDiv, if_congr hneg rfl rfl] at hquotient
  rw [movingAverageGet_eq (newLength_pos c length) (newLength_le c length) (hnumerator ▸ hfit),
    hnumerator]
  apply Subtype.ext
  refine (congrArg c.valueType.conv ?_).trans (conv_of_inRange average.property)
  show Int.tdiv _ (c.newLength length : ℤ) = average.val
  rcases lt_or_ge average.val 0 with hlt | hge
  · rw [if_pos hlt] at hquotient
    by_cases hhandles : c.handlesNegative = true
    · rwa [if_pos ⟨hhandles, hlt⟩]
    · rw [if_neg fun h => hhandles h.1]
      rcases hrounding with hint64 | hnonneg | hone
      · have hnonneg := sum_nonneg_of_not_handlesNegative hhandles hint64
          (sumType_inRange hfits average.property)
        omega
      · omega
      · have hhalf : (1 : ℤ) / 2 = 0 := by decide
        rw [hone, Nat.cast_one, mul_one, hhalf, add_zero, Int.tdiv_one]
  · rw [if_neg (not_lt.mpr hge)] at hquotient
    rwa [if_neg fun h => not_lt.mpr hge h.2]

/-! ### Whole runs -/

/-- **One step** keeps the invariant. -/
theorem correct_step (hfits : c.SumFits) {inputs : List c.valueType.Value} (h : m.Correct inputs)
    (op : MovingAverageOp c) (hright : op.Right m) :
    (op.step m).Correct (inputs ++ op.inputs m) := by
  cases op with
  | init startValue length => exact correct_init hfits m hright inputs
  | newLength length =>
    show (if _ then m else _ : MovingAverage c).Correct (inputs ++ if _ then [] else _)
    split_ifs with hsame
    · rwa [List.append_nil]
    · exact correct_init hfits m (hright.resolve_left hsame).1 inputs
  | handleValue newValue => exact correct_handleValue hfits h newValue

theorem get_newLength (hfits : c.SumFits) (m : MovingAverage c) (length : UInt32)
    (hright : (MovingAverageOp.newLength length).Right m) :
    movingAverageGet (movingAverageNewLength m length) = movingAverageGet m := by
  rw [movingAverageNewLength]
  split_ifs with hsame
  · rfl
  · obtain ⟨hproduct, hkeeps⟩ := hright.resolve_left hsame
    exact get_init hfits m hproduct hkeeps

/-- **The moving average of a run** whose steps are all right: the entries are the last inputs,
the sum is their sum, and a new length does not change the reported value. -/
theorem movingAverage_correct (c : MovingAverageConfig) (hfits : c.SumFits)
    (m : MovingAverage c) (inputs : List c.valueType.Value)
    (run : MovingAverageRun c (fun m op => op.Right m) m inputs) :
    m.Correct inputs ∧ ∀ length, (MovingAverageOp.newLength length).Right m →
      movingAverageGet (movingAverageNewLength m length) = movingAverageGet m := by
  refine ⟨?_, get_newLength hfits m⟩
  induction run with
  | init m startValue length hright => exact correct_init hfits m hright []
  | step op _ hright ih => exact correct_step hfits ih op hright

/-- Memory before the first initialisation. -/
def unused (c : MovingAverageConfig) : MovingAverage c :=
  { length := 0, index := 0, sum := default, values := Vector.replicate _ default }

/-- Ten times 5 and then 7, in the default types. -/
def tenFives : MovingAverage movingAverageDefaults :=
  movingAverageHandleValue (movingAverageInit (unused movingAverageDefaults) ⟨5, by decide⟩ 10) ⟨7, by decide⟩

theorem movingAverage_correct_tenFives :
    tenFives.Correct (List.replicate 10 ⟨5, by decide⟩ ++ [⟨7, by decide⟩]) ∧
      movingAverageGet (movingAverageNewLength tenFives 4) = movingAverageGet tenFives := by
  have hfits : MovingAverageConfig.SumFits {} := fun x => by
    have hmin : (-32768 : ℤ) ≤ x.val := x.property.1
    have hmax : x.val ≤ (32767 : ℤ) := x.property.2
    have hlow : (-2147483648 : ℤ) ≤ 100 * x.val := by omega
    have hhigh : 100 * x.val ≤ (2147483647 : ℤ) := by omega
    exact ⟨hlow, hhigh⟩
  have hstart : movingAverageDefaults.ProductFits ⟨5, by decide⟩ 10 :=
    show CInt.InRange _ _ by decide
  have hproduct : movingAverageDefaults.ProductFits (movingAverageGet tenFives) 4 :=
    show CInt.InRange _ _ by decide +kernel
  obtain ⟨hcorrect, hget⟩ := movingAverage_correct movingAverageDefaults hfits tenFives _
    ((MovingAverageRun.init (unused movingAverageDefaults) ⟨5, by decide⟩ 10 hstart).step
      (.handleValue ⟨7, by decide⟩) trivial)
  exact ⟨hcorrect, hget 4 (.inr ⟨hproduct, .inl (by decide),
    show CInt.InRange _ _ by decide +kernel⟩)⟩

/-- Values of 32 bits without a sign and a sum of 64 bits. -/
def wideSums : MovingAverageConfig :=
  { movingAverageDefaults with valueType := .uint32, sumType := .uint64 }

/-- Two start values of 2^31 have the sum 0. -/
theorem movingAverage_overflow : ¬ ∀ c : MovingAverageConfig, c.SumFits →
    ∀ (m : MovingAverage c) (inputs : List c.valueType.Value),
      MovingAverageRun c (fun _ _ => True) m inputs →
      m.Correct inputs ∧
        ∀ length, movingAverageGet (movingAverageNewLength m length) = movingAverageGet m := by
  intro hcorrect
  have hfits : wideSums.SumFits := fun x => by
    have hmin : (0 : ℤ) ≤ x.val := x.property.1
    have hmax : x.val ≤ (4294967295 : ℤ) := x.property.2
    have hlow : (0 : ℤ) ≤ 100 * x.val := by omega
    have hhigh : 100 * x.val ≤ (18446744073709551615 : ℤ) := by omega
    exact ⟨hlow, hhigh⟩
  have hsum := (hcorrect wideSums hfits _ _
    (.init (unused wideSums) ⟨2 ^ 31, by decide⟩ 2 trivial)).1.sum_eq
  change (movingAverageInit (unused wideSums) _ 2).sum.val = _ at hsum
  rw [MovingAverageOp.step, entries_init] at hsum
  revert hsum
  decide

end Bricklib2
