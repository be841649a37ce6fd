/-
Bricklib2/Warp/MeterDecode.lean

The values of meter_handle_new_data.  A register of type T5 or T6 carries a
decimal exponent, and the loop that applies it counts with an `int8_t` up to the
negated exponent: for -128 that is 128, a number the counter never reaches.

Main result: `newData_exact`, with floats that do not round.
-/
import Mathlib.Algebra.Order.Field.Power
import Mathlib.Algebra.Order.Ring.Rat
import Bricklib2.Warp.ExactFloat
import Bricklib2.Warp.MeterTick

namespace Bricklib2

/-! ### The loops -/

section Loops

variable {F : Type} [CFloat F]

/-- `for(int8_t i = 0; i < bound; i++) scale *= factor`, from `i` on. -/
def scaleLoop (factor : F) (bound : ℤ) : (fuel : ℕ) → (i : BitVec 8) → F → Option F
  | 0, _, _ => none
  | fuel + 1, i, scale =>
    if i.toInt < bound then scaleLoop factor bound fuel (i + 1) (scale * factor) else some scale

/-- The scale of T5 and T6, by the loop that their exponent selects. -/
def scaleLoops (fuel : ℕ) (exponent : BitVec 8) : Option F :=
  if exponent.toInt < 0 then
    scaleLoop (CFloat.ofRat (1 / 10)) (-exponent.toInt) fuel 0 (CFloat.ofRat 1)
  else
    scaleLoop (CFloat.ofRat 10) exponent.toInt fuel 0 (CFloat.ofRat 1)

theorem scaleLoop_endless (factor : F) (fuel : ℕ) (i : BitVec 8) (scale : F) :
    scaleLoop factor 128 fuel i scale = none := by
  induction fuel generalizing i scale with
  | zero => rfl
  | succ fuel ih =>
    have hlt : i.toInt < 128 := BitVec.toInt_lt (w := 8)
    rw [scaleLoop, if_pos hlt]
    exact ih (i + 1) (scale * factor)

/-- The loop multiplies as often as is left up to its bound. -/
theorem scaleLoop_eq (factor : F) {n k : ℕ} (hn : n < 128) (hk : k ≤ n) (fuel : ℕ) (scale : F) :
    scaleLoop factor n fuel (BitVec.ofNat 8 k) scale =
      if n < k + fuel then some ((· * factor)^[n - k] scale) else none := by
  induction fuel generalizing k scale with
  | zero => rw [if_neg (by omega)]; rfl
  | succ fuel ih =>
    have hcounter : (BitVec.ofNat 8 k).toInt = k := by
      have hnat : (BitVec.ofNat 8 k).toNat = k := Nat.mod_eq_of_lt (by omega)
      rw [BitVec.toInt_eq_toNat_of_lt (by omega), hnat]
    rw [scaleLoop, hcounter]
    by_cases hlt : k < n
    · have hnext : BitVec.ofNat 8 k + 1 = BitVec.ofNat 8 (k + 1) := (BitVec.ofNat_add k 1).symm
      rw [if_pos (by omega), hnext, ih hlt, show n - k = n - (k + 1) + 1 by omega,
        Function.iterate_succ_apply, Nat.add_right_comm k 1 fuel]
      rfl
    · rw [if_neg (by omega), if_pos (by omega), show n - k = 0 by omega, Function.iterate_zero_apply]

/-- The whole loop, up to a bound below 128. -/
theorem scaleLoop_eq_some (factor : F) {n : ℕ} (hn : n < 128) (scale value : F) :
    (∃ fuel, scaleLoop factor n fuel 0 scale = some value) ↔ (· * factor)^[n] scale = value := by
  have hloop (fuel : ℕ) := scaleLoop_eq factor hn (Nat.zero_le n) fuel scale
  constructor
  · rintro ⟨fuel, h⟩
    have heq := (hloop fuel).symm.trans h
    split_ifs at heq
    exact Option.some.inj heq
  · rintro rfl
    exact ⟨n + 1, (hloop (n + 1)).trans (if_pos (by omega))⟩

/-- **The loops** end with the power of ten, or not at all. -/
theorem decadeScale_eq_some (exponent : BitVec 8) (scale : F) :
    decadeScale exponent.toInt = some scale ↔ ∃ fuel, scaleLoops fuel exponent = some scale := by
  have hlow : -128 ≤ exponent.toInt := BitVec.le_toInt exponent
  have hhigh : exponent.toInt < 128 := BitVec.toInt_lt (w := 8)
  unfold decadeScale scaleLoops
  by_cases hmin : exponent.toInt = -128
  · rw [if_pos hmin, hmin]
    refine iff_of_false (by rintro ⟨⟩) ?_
    rintro ⟨fuel, h⟩
    cases (scaleLoop_endless _ fuel _ _).symm.trans h
  rw [if_neg hmin]
  by_cases hneg : exponent.toInt < 0
  · have hbound : -exponent.toInt = ((-exponent.toInt).toNat : ℤ) := by omega
    simp only [if_pos hneg]
    rw [Option.some_inj, hbound, scaleLoop_eq_some _ (by omega), Int.toNat_natCast]
  · have hbound : exponent.toInt = (exponent.toInt.toNat : ℤ) := by omega
    simp only [if_neg hneg]
    rw [Option.some_inj, hbound, scaleLoop_eq_some _ (by omega), Int.toNat_natCast]

end Loops

/-! ### The values -/

/-- The signed top byte. -/
def registerExponent (data : BitVec 32) : ℤ :=
  let byte : ℤ := data.toNat / 2 ^ 24
  if byte < 2 ^ 7 then byte else byte - 2 ^ 8

/-- The low 24 bits, for T6 with their sign. -/
def registerMantissa (type : MeterRegisterDataType) (data : BitVec 32) : ℤ :=
  let low : ℤ := data.toNat % 2 ^ 24
  if type = .t6 ∧ 2 ^ 23 ≤ low then low - 2 ^ 24 else low

/-- The types that carry a decimal exponent. -/
def MeterRegisterDataType.scaled (type : MeterRegisterDataType) : Prop := type = .t5 ∨ type = .t6

instance : DecidablePred MeterRegisterDataType.scaled := fun _ => inferInstanceAs (Decidable (_ ∨ _))

theorem toInt_exponent (data : BitVec 32) :
    ((data >>> 24).setWidth 8).toInt = registerExponent data := by
  have hbyte : data.toNat / 2 ^ 24 < 2 ^ 8 := by
    have hlt := data.isLt
    omega
  have hnat : ((data >>> 24).setWidth 8).toNat = data.toNat / 2 ^ 24 := by
    rw [BitVec.toNat_setWidth, BitVec.toNat_ushiftRight, Nat.shiftRight_eq_div_pow,
      Nat.mod_eq_of_lt hbyte]
  have hsigned (byte : ℕ) : (if 2 * byte < 2 ^ 8 then (byte : ℤ) else byte - (2 ^ 8 : ℕ)) =
      if (byte : ℤ) < 2 ^ 7 then (byte : ℤ) else byte - 2 ^ 8 := by
    split_ifs <;> omega
  unfold registerExponent
  rw [BitVec.toInt_eq_toNat_cond, hnat, hsigned]
  push_cast
  rfl

theorem toNat_mantissa (data : BitVec 32) :
    ((data.setWidth 24).toNat : ℤ) = registerMantissa .t5 data := by
  rw [registerMantissa, if_neg (by simp), BitVec.toNat_setWidth]
  push_cast
  rfl

theorem toInt_mantissa (data : BitVec 32) :
    (data.setWidth 24).toInt = registerMantissa .t6 data := by
  rw [BitVec.toInt_eq_toNat_cond, BitVec.toNat_setWidth, registerMantissa]
  push_cast
  split_ifs with h h' <;> simp only [true_and] at * <;> omega

theorem iterate_mul (factor : ℚ) (n : ℕ) (x : ℚ) :
    (· * (CFloat.ofRat factor : ExactFloat))^[n] (CFloat.ofRat x) = CFloat.ofRat (x * factor ^ n) := by
  induction n generalizing x with
  | zero => rw [pow_zero, mul_one]; rfl
  | succ n ih =>
    rw [Function.iterate_succ_apply, pow_succ', ← mul_assoc, ← ih]
    rfl

theorem decadeScale_exact {exponent : ℤ} (h : exponent ≠ -128) :
    decadeScale exponent = some (CFloat.ofRat (10 ^ exponent) : ExactFloat) := by
  unfold decadeScale
  rw [if_neg h]
  split_ifs with hneg
  · obtain ⟨n, hn⟩ : ∃ n : ℕ, exponent = -n := ⟨(-exponent).toNat, by omega⟩
    rw [iterate_mul, hn, neg_neg, Int.toNat_natCast, one_mul, zpow_neg, zpow_natCast, one_div, inv_pow]
  · obtain ⟨n, hn⟩ : ∃ n : ℕ, exponent = n := ⟨exponent.toNat, by omega⟩
    rw [iterate_mul, hn, Int.toNat_natCast, one_mul, zpow_natCast]

theorem meterDecode_scaled {F : Type} [CFloat F] (data : BitVec 32) {definition : MeterDefinition}
    (h : definition.registerDataType.scaled) :
    meterDecode (F := F) data definition =
      (decadeScale (registerExponent data)).map fun scale =>
        CFloat.ofInt (registerMantissa definition.registerDataType data) * scale *
          CFloat.ofRat definition.scaleFactor := by
  unfold meterDecode
  rcases h with htype | htype
  · rw [htype]
    dsimp only
    rw [toInt_exponent, toNat_mantissa]
    cases decadeScale (F := F) (registerExponent data) <;> rfl
  · rw [htype]
    dsimp only
    rw [toInt_exponent, toInt_mantissa]
    cases decadeScale (F := F) (registerExponent data) <;> rfl

theorem meterDecode_unscaled {F : Type} [CFloat F] (data : BitVec 32) {definition : MeterDefinition}
    (h : ¬ definition.registerDataType.scaled) :
    ∃ value : F, meterDecode data definition = some value := by
  unfold meterDecode
  cases htype : definition.registerDataType with
  | t5 => exact absurd (Or.inl htype) h
  | t6 => exact absurd (Or.inr htype) h
  | _ => exact ⟨_, rfl⟩

/-- **Register values.**  The loops for the exponent end unless it is -128; with that
exponent a value of type T5 or T6 is never stored.  All others are stored, those of T5 and T6
as mantissa times power of ten times scale factor. -/
theorem newData_exact (data : BitVec 32) (definition : MeterDefinition) (s : Stack ExactFloat)
    {address : RegisterAddress} (haddress : definition.registerSetAddress = some address) :
    (∀ {F : Type} [CFloat F], ∀ exponent : BitVec 8, ∀ scale : F,
      decadeScale exponent.toInt = some scale ↔ ∃ fuel, scaleLoops fuel exponent = some scale) ∧
    ((∃ s', meterHandleNewData data definition s = some s' ∧
        (definition.registerDataType.scaled →
          s' = s.store address ⟨some (registerMantissa definition.registerDataType data *
            10 ^ registerExponent data * definition.scaleFactor)⟩)) ↔
      ¬ (definition.registerDataType.scaled ∧ registerExponent data = -128)) := by
  refine ⟨decadeScale_eq_some, ?_⟩
  by_cases hscaled : definition.registerDataType.scaled
  · have hdecode := meterDecode_scaled (F := ExactFloat) data hscaled
    by_cases hmin : registerExponent data = -128
    · refine iff_of_false ?_ (not_not.mpr ⟨hscaled, hmin⟩)
      rintro ⟨s', hstored, -⟩
      rw [meterHandleNewData, hdecode, hmin] at hstored
      cases hstored
    · refine iff_of_true ⟨_, ?_, fun _ => rfl⟩ fun h => hmin h.2
      rw [meterHandleNewData, hdecode, decadeScale_exact hmin, haddress]
      rfl
  · refine iff_of_true ?_ fun h => hscaled h.1
    obtain ⟨value, hvalue⟩ := meterDecode_unscaled (F := ExactFloat) data hscaled
    refine ⟨s.store address value, ?_, fun h => absurd h hscaled⟩
    rw [meterHandleNewData, hvalue, haddress]
    rfl

/-- -123456 * 10^(-3), the example of the source, as a register of type T6. -/
def minusDefinition : MeterDefinition := register 1 (.registerSet .voltageL1N) 1 .t6 false

/-- The example is stored as it reads. -/
theorem newData_exact_minus :
    meterHandleNewData 0xFDFE1DC0 minusDefinition (stackInit 64 16 0) =
      some ((stackInit (F := ExactFloat) 64 16 0).store (.registerSet .voltageL1N)
        ⟨some (-123456 * 10 ^ (-3 : ℤ) * 1)⟩) := by
  obtain ⟨s', hstored, hvalue⟩ :=
    (newData_exact 0xFDFE1DC0 minusDefinition (stackInit 64 16 0) rfl).2.mpr (by decide)
  have hexponent : registerExponent 0xFDFE1DC0 = -3 := by decide
  have hmantissa : registerMantissa minusDefinition.registerDataType 0xFDFE1DC0 = -123456 := by decide
  rw [hstored, hvalue (by decide), hexponent, hmantissa]
  simp [minusDefinition, register]

/-- One register value with the top byte 0x80 stops the meter driver for good. -/
theorem newData_endless : ¬ ∀ data : BitVec 32, ∀ s : Stack ExactFloat,
    (meterHandleNewData data minusDefinition s).isSome = true := by
  intro h
  have hdecode := h 0x80000001 (stackInit 64 16 0)
  revert hdecode
  decide +kernel

end Bricklib2
