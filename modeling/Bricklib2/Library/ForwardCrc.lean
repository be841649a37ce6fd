/-
Bricklib2/Library/ForwardCrc.lean

Cyclic redundancy checks over registers of any width that divide out the most
significant bit first, where a byte enters at the high end of the register.
`bytesStep` is the plain definition; `byteStep_table` is the step of code with a
table of the remainders of all bytes, for the reason that a division step is
linear and that zeros above a value are only shifted out.
-/
import Mathlib.Data.BitVec

namespace ForwardCrc

variable {w : ℕ} {poly c c' : BitVec w}

/-- Divide one bit out of the register. -/
def bitStep (poly c : BitVec w) : BitVec w :=
  if c.msb then c <<< 1 ^^^ poly else c <<< 1

/-- Some bits, one after the other. -/
def bitSteps (poly : BitVec w) : (bits : ℕ) → BitVec w → BitVec w
  | 0, c => c
  | bits + 1, c => bitSteps poly bits (bitStep poly c)

/-- A byte enters at the high end. -/
def byteStep (poly c : BitVec w) (b : UInt8) : BitVec w :=
  bitSteps poly 8 (c ^^^ b.toBitVec.setWidth w <<< (w - 8))

/-- The register after some bytes. -/
def bytesStep (poly c : BitVec w) (bytes : List UInt8) : BitVec w :=
  bytes.foldl (byteStep poly) c

theorem bitStep_xor (poly c c' : BitVec w) :
    bitStep poly (c ^^^ c') = bitStep poly c ^^^ bitStep poly c' := by
  unfold bitStep
  rw [BitVec.msb_xor, BitVec.shiftLeft_xor_distrib]
  cases c.msb <;> cases c'.msb
  · rfl
  · simp only [Bool.false_xor, if_true, Bool.false_eq_true, if_false, BitVec.xor_assoc]
  · simp only [Bool.true_xor, Bool.not_false, if_true, Bool.false_eq_true, if_false]
    ac_rfl
  · simp only [Bool.true_xor, Bool.not_true, if_true, Bool.false_eq_true, if_false]
    calc c <<< 1 ^^^ c' <<< 1 = c <<< 1 ^^^ c' <<< 1 ^^^ (poly ^^^ poly) := by
          rw [BitVec.xor_self, BitVec.xor_zero]
      _ = _ := by ac_rfl

theorem bitSteps_xor (poly : BitVec w) (bits : ℕ) (c c' : BitVec w) :
    bitSteps poly bits (c ^^^ c') = bitSteps poly bits c ^^^ bitSteps poly bits c' := by
  induction bits generalizing c c' with
  | zero => rfl
  | succ bits ih =>
    show bitSteps poly bits (bitStep poly (c ^^^ c')) = _
    rw [bitStep_xor, ih]
    rfl

/-- Where the high bits are zero, the register is only shifted. -/
theorem bitSteps_shift (poly : BitVec w) {bits : ℕ} (hbits : bits ≤ w)
    (h : ∀ i, w ≤ i + bits → c.getLsbD i = false) : bitSteps poly bits c = c <<< bits := by
  induction bits generalizing c with
  | zero => exact (BitVec.shiftLeft_zero c).symm
  | succ bits ih =>
    have htop : c.msb ≠ true := by
      rw [BitVec.msb_eq_getLsbD_last, h (w - 1) (by omega)]
      exact Bool.false_ne_true
    have hstep : bitStep poly c = c <<< 1 := if_neg htop
    show bitSteps poly bits (bitStep poly c) = _
    rw [hstep, ih (by omega), Nat.add_comm, BitVec.shiftLeft_add]
    intro i hi
    rw [BitVec.getLsbD_shiftLeft]
    by_cases hzero : i < 1
    · rw [decide_eq_true hzero, Bool.not_true, Bool.and_false, Bool.false_and]
    · rw [h (i - 1) (by omega), Bool.and_false]

/-- **Tables.**  The remainders of the 256 bytes, at the high end of the register,
are all a byte step needs. -/
theorem byteStep_table (hw : 8 ≤ w) (poly c : BitVec w) (b : UInt8) :
    byteStep poly c b =
      c <<< 8 ^^^
        bitSteps poly 8 (((c >>> (w - 8)).setWidth 8 ^^^ b.toBitVec).setWidth w <<< (w - 8)) := by
  have hsplit : c ^^^ b.toBitVec.setWidth w <<< (w - 8) =
      (c ^^^ ((c >>> (w - 8)).setWidth 8).setWidth w <<< (w - 8)) ^^^
        ((c >>> (w - 8)).setWidth 8 ^^^ b.toBitVec).setWidth w <<< (w - 8) := by
    rw [BitVec.setWidth_xor, BitVec.shiftLeft_xor_distrib, ← BitVec.xor_assoc, BitVec.xor_assoc c,
      BitVec.xor_self, BitVec.xor_zero]
  have htop (i : ℕ) : (((c >>> (w - 8)).setWidth 8).setWidth w <<< (w - 8)).getLsbD i =
      (decide (w - 8 ≤ i) && c.getLsbD i) := by
    rw [BitVec.getLsbD_shiftLeft, BitVec.getLsbD_setWidth, BitVec.getLsbD_setWidth,
      BitVec.getLsbD_ushiftRight]
    by_cases hi : w - 8 ≤ i
    · rw [decide_eq_true hi, decide_eq_false (show ¬ i < w - 8 by omega), Nat.add_sub_cancel' hi]
      by_cases hin : i < w
      · rw [decide_eq_true hin, decide_eq_true (show i - (w - 8) < w by omega),
          decide_eq_true (show i - (w - 8) < 8 by omega)]
        rfl
      · rw [decide_eq_false hin, BitVec.getLsbD_of_ge c i (by omega)]
        rfl
    · rw [decide_eq_false hi, decide_eq_true (show i < w - 8 by omega), Bool.not_true,
        Bool.and_false, Bool.false_and, Bool.false_and]
  -- what is left of the register below the byte is only shifted
  have hlow : bitSteps poly 8 (c ^^^ ((c >>> (w - 8)).setWidth 8).setWidth w <<< (w - 8)) =
      c <<< 8 := by
    rw [bitSteps_shift poly hw]
    · apply BitVec.eq_of_getLsbD_eq
      intro i hi
      rw [BitVec.getLsbD_shiftLeft, BitVec.getLsbD_shiftLeft, BitVec.getLsbD_xor, htop]
      by_cases h8 : i < 8
      · rw [decide_eq_true h8, Bool.not_true, Bool.and_false, Bool.false_and, Bool.false_and]
      · rw [decide_eq_false (show ¬ w - 8 ≤ i - 8 by omega), Bool.false_and, Bool.xor_false]
    · intro i hi
      rw [BitVec.getLsbD_xor, htop, decide_eq_true (by omega), Bool.true_and, Bool.xor_self]
  rw [byteStep, hsplit, bitSteps_xor, hlow]

end ForwardCrc
