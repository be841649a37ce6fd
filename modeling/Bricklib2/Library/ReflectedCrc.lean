/-
Bricklib2/Library/ReflectedCrc.lean

Reflected cyclic redundancy checks over registers of any width: the least
significant bit is divided out first, and a byte enters at the low end of the
register.  `bytesStep` is the plain definition, one byte after the other.

* `bitSteps_word`: a whole word may be taken at once (for code that reads words);
* `byteStep_table`: the step of code with a table of the remainders of all bytes;
* `bytesStep_inj`, `bytesStep_single`: which errors a remainder detects.

A division step is linear, and it can be undone when the top bit of the
polynomial is set.
-/
import Mathlib.Data.BitVec
import Mathlib.Data.List.Basic

namespace ReflectedCrc

variable {w : ℕ}

/-- Divide one bit out of the register. -/
def bitStep (poly c : BitVec w) : BitVec w :=
  if c.getLsbD 0 then c >>> 1 ^^^ poly else c >>> 1

/-- Some bits, one after the other. -/
def bitSteps (poly : BitVec w) : (bits : ℕ) → BitVec w → BitVec w
  | 0, c => c
  | bits + 1, c => bitSteps poly bits (bitStep poly c)

/-- A byte enters at the low end. -/
def byteStep (poly c : BitVec w) (b : UInt8) : BitVec w :=
  bitSteps poly 8 (c ^^^ b.toBitVec.setWidth w)

/-- The register after some bytes. -/
def bytesStep (poly c : BitVec w) (bytes : List UInt8) : BitVec w :=
  bytes.foldl (byteStep poly) c

/-- The bytes side by side, the first one lowest. -/
def word (w : ℕ) : List UInt8 → BitVec w
  | [] => 0
  | b :: bytes => b.toBitVec.setWidth w ^^^ word w bytes <<< 8

variable {poly c c' : BitVec w}

theorem bitStep_xor (poly c c' : BitVec w) :
    bitStep poly (c ^^^ c') = bitStep poly c ^^^ bitStep poly c' := by
  unfold bitStep
  simp only [BitVec.getLsbD_xor, BitVec.ushiftRight_xor_distrib]
  cases c.getLsbD 0 <;> cases c'.getLsbD 0
  · rfl
  · simp only [Bool.false_xor, if_true, Bool.false_eq_true, if_false, BitVec.xor_assoc]
  · simp only [Bool.true_xor, Bool.not_false, if_true, Bool.false_eq_true, if_false]
    ac_rfl
  · simp only [Bool.true_xor, Bool.not_true, if_true, Bool.false_eq_true, if_false]
    calc c >>> 1 ^^^ c' >>> 1 = c >>> 1 ^^^ c' >>> 1 ^^^ (poly ^^^ poly) := by
          rw [BitVec.xor_self, BitVec.xor_zero]
      _ = _ := by ac_rfl

theorem bitSteps_xor (poly : BitVec w) (bits : ℕ) (c c' : BitVec w) :
    bitSteps poly bits (c ^^^ c') = bitSteps poly bits c ^^^ bitSteps poly bits c' := by
  induction bits generalizing c c' with
  | zero => rfl
  | succ bits ih =>
    show bitSteps poly bits (bitStep poly (c ^^^ c')) = _
    rw [bitStep_xor, ih]
    rfl

theorem bitSteps_add (poly : BitVec w) (m n : ℕ) (c : BitVec w) :
    bitSteps poly (m + n) c = bitSteps poly n (bitSteps poly m c) := by
  induction m generalizing c with
  | zero => rw [Nat.zero_add]; rfl
  | succ m ih =>
    rw [Nat.add_right_comm]
    exact ih _

/-- Where the low bits are zero, the register is only shifted. -/
theorem bitSteps_shift (poly : BitVec w) {bits : ℕ} (h : ∀ i < bits, c.getLsbD i = false) :
    bitSteps poly bits c = c >>> bits := by
  induction bits generalizing c with
  | zero => exact (BitVec.ushiftRight_zero c).symm
  | succ bits ih =>
    have hstep : bitStep poly c = c >>> 1 := if_neg (by rw [h 0 bits.succ_pos]; exact Bool.false_ne_true)
    show bitSteps poly bits (bitStep poly c) = _
    rw [hstep, ih, Nat.add_comm, BitVec.shiftRight_add]
    intro i hi
    rw [BitVec.getLsbD_ushiftRight]
    exact h (1 + i) (by omega)

theorem word_getLsbD_ge {bytes : List UInt8} {i : ℕ} (h : 8 * bytes.length ≤ i) :
    (word w bytes).getLsbD i = false := by
  induction bytes generalizing i with
  | nil => exact BitVec.getLsbD_zero
  | cons b bytes ih =>
    rw [List.length_cons] at h
    have hb : b.toBitVec.getLsbD i = false := BitVec.getLsbD_of_ge _ _ (by omega)
    have hrest : (word w bytes).getLsbD (i - 8) = false := ih (by omega)
    rw [word, BitVec.getLsbD_xor, BitVec.getLsbD_setWidth, BitVec.getLsbD_shiftLeft, hb, hrest,
      Bool.and_false, Bool.and_false, Bool.xor_self]

/-- Whole bytes above a byte that has been divided out are only shifted. -/
theorem bitSteps_word_shift (poly : BitVec w) {bytes : List UInt8}
    (h : 8 * (bytes.length + 1) ≤ w) :
    bitSteps poly 8 (word w bytes <<< 8) = word w bytes := by
  rw [bitSteps_shift]
  · apply BitVec.eq_of_getLsbD_eq
    intro i hi
    rw [BitVec.getLsbD_ushiftRight, BitVec.getLsbD_shiftLeft, Nat.add_sub_cancel_left]
    by_cases hlow : 8 + i < w
    · rw [decide_eq_true hlow, decide_eq_false (by omega), Bool.not_false, Bool.true_and,
        Bool.true_and]
    · rw [word_getLsbD_ge (by omega), Bool.and_false]
  · intro i hi
    rw [BitVec.getLsbD_shiftLeft, decide_eq_true hi, Bool.not_true, Bool.and_false, Bool.false_and]

/-- **Words.**  A word takes as many bit steps as its bytes one after the other. -/
theorem bitSteps_word (poly c : BitVec w) (bytes : List UInt8) (h : 8 * bytes.length ≤ w) :
    bitSteps poly (8 * bytes.length) (c ^^^ word w bytes) = bytesStep poly c bytes := by
  induction bytes generalizing c with
  | nil => exact BitVec.xor_zero
  | cons b bytes ih =>
    rw [List.length_cons] at h
    calc bitSteps poly (8 * (bytes.length + 1)) (c ^^^ word w (b :: bytes))
        = bitSteps poly (8 * bytes.length) (bitSteps poly 8
            ((c ^^^ b.toBitVec.setWidth w) ^^^ word w bytes <<< 8)) := by
          rw [Nat.mul_add, Nat.add_comm, bitSteps_add, word, BitVec.xor_assoc]
      _ = bitSteps poly (8 * bytes.length) (byteStep poly c b ^^^ word w bytes) := by
          rw [bitSteps_xor, bitSteps_word_shift poly h, byteStep]
      _ = bytesStep poly c (b :: bytes) := ih _ (by omega)

theorem word_append (xs ys : List UInt8) :
    word w (xs ++ ys) = word w xs ^^^ word w ys <<< (8 * xs.length) := by
  induction xs with
  | nil =>
    show word w ys = 0#w ^^^ word w ys <<< 0
    rw [BitVec.shiftLeft_zero, BitVec.zero_xor]
  | cons x xs ih =>
    show x.toBitVec.setWidth w ^^^ word w (xs ++ ys) <<< 8 = _
    rw [ih, BitVec.shiftLeft_xor_distrib, ← BitVec.shiftLeft_add, ← BitVec.xor_assoc,
      List.length_cons, Nat.mul_add]
    rfl

/-- The bytes above the first ones. -/
theorem word_shiftRight (xs ys : List UInt8) (h : 8 * (xs.length + ys.length) ≤ w) :
    word w (xs ++ ys) >>> (8 * xs.length) = word w ys := by
  rw [word_append]
  apply BitVec.eq_of_getLsbD_eq
  intro i hi
  rw [BitVec.getLsbD_ushiftRight, BitVec.getLsbD_xor, word_getLsbD_ge (by omega), Bool.false_xor,
    BitVec.getLsbD_shiftLeft, decide_eq_false (show ¬ 8 * xs.length + i < 8 * xs.length by omega),
    Bool.not_false, Nat.add_sub_cancel_left]
  by_cases hin : 8 * xs.length + i < w
  · rw [decide_eq_true hin, Bool.and_self, Bool.true_and]
  · rw [word_getLsbD_ge (by omega), Bool.and_false]

/-- The first bytes, cut out by a mask. -/
theorem word_mask (xs ys : List UInt8) :
    word w (xs ++ ys) &&& BitVec.allOnes w >>> (w - 8 * xs.length) = word w xs := by
  rw [word_append]
  apply BitVec.eq_of_getLsbD_eq
  intro i hi
  rw [BitVec.getLsbD_and, BitVec.getLsbD_xor, BitVec.getLsbD_shiftLeft, BitVec.getLsbD_ushiftRight,
    BitVec.getLsbD_allOnes]
  by_cases hin : i < 8 * xs.length
  · rw [decide_eq_true hin, Bool.not_true, Bool.and_false, Bool.false_and, Bool.xor_false,
      decide_eq_true (by omega), Bool.and_true]
  · rw [decide_eq_false (show ¬ w - 8 * xs.length + i < w by omega), Bool.and_false,
      word_getLsbD_ge (by omega)]

theorem bytesStep_append (poly c : BitVec w) (xs ys : List UInt8) :
    bytesStep poly c (xs ++ ys) = bytesStep poly (bytesStep poly c xs) ys := List.foldl_append

/-! ### Tables -/

/-- **Tables.**  The remainders of the 256 bytes are all a byte step needs. -/
theorem byteStep_table (poly c : BitVec w) (b : UInt8) :
    byteStep poly c b =
      c >>> 8 ^^^ bitSteps poly 8 ((b.toBitVec ^^^ c.setWidth 8).setWidth w) := by
  have hsplit : c ^^^ b.toBitVec.setWidth w =
      (c ^^^ (c.setWidth 8).setWidth w) ^^^ (b.toBitVec ^^^ c.setWidth 8).setWidth w := by
    rw [BitVec.setWidth_xor]
    calc c ^^^ b.toBitVec.setWidth w
        = c ^^^ b.toBitVec.setWidth w ^^^ ((c.setWidth 8).setWidth w ^^^ (c.setWidth 8).setWidth w) := by
          rw [BitVec.xor_self, BitVec.xor_zero]
      _ = _ := by ac_rfl
  -- what is left of the register above the byte is only shifted
  have hhigh : bitSteps poly 8 (c ^^^ (c.setWidth 8).setWidth w) = c >>> 8 := by
    rw [bitSteps_shift]
    · apply BitVec.eq_of_getLsbD_eq
      intro i hi
      rw [BitVec.getLsbD_ushiftRight, BitVec.getLsbD_xor, BitVec.getLsbD_setWidth,
        BitVec.getLsbD_setWidth, decide_eq_false (show ¬ 8 + i < 8 by omega), Bool.false_and,
        Bool.and_false, Bool.xor_false, BitVec.getLsbD_ushiftRight]
    · intro i hi
      rw [BitVec.getLsbD_xor, BitVec.getLsbD_setWidth, BitVec.getLsbD_setWidth, decide_eq_true hi,
        Bool.true_and]
      by_cases hw : i < w
      · rw [decide_eq_true hw, Bool.true_and, Bool.xor_self]
      · rw [BitVec.getLsbD_of_ge c i (by omega), Bool.and_false, Bool.xor_self]
  rw [byteStep, hsplit, bitSteps_xor, hhigh]

/-! ### Error detection -/

/-- The register can be run backwards: the top bit tells whether the polynomial
has been added. -/
theorem bitStep_injective (hpoly : poly.msb = true) : Function.Injective (bitStep poly) := by
  have hw : 0 < w := by
    rcases Nat.eq_zero_or_pos w with hzero | hw
    · rw [BitVec.msb_of_zero_length hzero] at hpoly
      cases hpoly
    · exact hw
  -- what was shifted out is the new top bit, since the shift has left that one free
  have hmsb (c : BitVec w) : (bitStep poly c).getLsbD (w - 1) = c.getLsbD 0 := by
    have htop : poly.getLsbD (w - 1) = true := by
      rwa [BitVec.msb_eq_getLsbD_last] at hpoly
    have hshift : (c >>> 1).getLsbD (w - 1) = false := by
      rw [BitVec.getLsbD_ushiftRight]
      exact BitVec.getLsbD_of_ge _ _ (by omega)
    unfold bitStep
    split
    · rename_i hlow
      rw [BitVec.getLsbD_xor, hshift, htop, hlow]
      rfl
    · rename_i hlow
      rw [hshift, Bool.eq_false_of_not_eq_true hlow]
  intro c c' h
  have hlow : c.getLsbD 0 = c'.getLsbD 0 := by
    rw [← hmsb c, ← hmsb c', h]
  -- with the polynomial added on both sides or on none, the rest can be compared
  have hhigh : c >>> 1 = c' >>> 1 := by
    unfold bitStep at h
    rw [hlow] at h
    split at h
    · exact (BitVec.xor_left_inj poly).mp h
    · exact h
  apply BitVec.eq_of_getLsbD_eq
  intro i hi
  cases i with
  | zero => exact hlow
  | succ i =>
    have hbit := congrArg (fun x : BitVec w => x.getLsbD i) hhigh
    simp only [BitVec.getLsbD_ushiftRight] at hbit
    rwa [Nat.add_comm]

theorem bitSteps_injective (hpoly : poly.msb = true) (bits : ℕ) :
    Function.Injective (bitSteps poly bits) := by
  induction bits with
  | zero => exact fun _ _ h => h
  | succ bits ih => exact ih.comp (bitStep_injective hpoly)

/-- Different registers stay different. -/
theorem bytesStep_injective (hpoly : poly.msb = true) (bytes : List UInt8) :
    Function.Injective fun c : BitVec w => bytesStep poly c bytes := by
  induction bytes with
  | nil => exact fun _ _ h => h
  | cons b bytes ih =>
    intro c c' h
    have hstep : byteStep poly c b = byteStep poly c' b := ih h
    exact (BitVec.xor_left_inj _).mp (bitSteps_injective hpoly 8 hstep)

theorem word_injective {xs ys : List UInt8} (hw : 8 * xs.length ≤ w)
    (hlength : xs.length = ys.length) (h : word w xs = word w ys) : xs = ys := by
  induction xs generalizing ys with
  | nil => exact (List.length_eq_zero_iff.mp hlength.symm).symm
  | cons x xs ih =>
    obtain - | ⟨y, ys⟩ := ys
    · cases hlength
    rw [List.length_cons] at hw
    rw [List.length_cons, List.length_cons, Nat.add_right_cancel_iff] at hlength
    have hbit (i : ℕ) : (word w (x :: xs)).getLsbD i = (word w (y :: ys)).getLsbD i := by rw [h]
    simp only [word, BitVec.getLsbD_xor, BitVec.getLsbD_setWidth, BitVec.getLsbD_shiftLeft] at hbit
    -- the low byte is the first one, and the bits above are those of the rest
    have hfirst : x = y := by
      apply UInt8.toBitVec_inj.mp
      apply BitVec.eq_of_getLsbD_eq
      intro i hi
      have hthis := hbit i
      rwa [decide_eq_true hi, decide_eq_true (show i < w by omega), Bool.not_true, Bool.and_false,
        Bool.false_and, Bool.false_and, Bool.xor_false, Bool.xor_false, Bool.true_and,
        Bool.true_and] at hthis
    have hrest : word w xs = word w ys := by
      apply BitVec.eq_of_getLsbD_eq
      intro i hi
      by_cases hin : 8 + i < w
      · have hthis := hbit (8 + i)
        have hx : x.toBitVec.getLsbD (8 + i) = false := BitVec.getLsbD_of_ge _ _ (by omega)
        have hy : y.toBitVec.getLsbD (8 + i) = false := BitVec.getLsbD_of_ge _ _ (by omega)
        rwa [hx, hy, Bool.and_false, Bool.false_xor, Bool.false_xor, decide_eq_true hin,
          decide_eq_false (by omega), Bool.not_false, Bool.true_and, Bool.true_and, Bool.true_and,
          Nat.add_sub_cancel_left] at hthis
      · rw [word_getLsbD_ge (by omega), word_getLsbD_ge (by omega)]
    rw [hfirst, ih (by omega) hlength hrest]

/-- Blocks that fit in the register are told apart. -/
theorem bytesStep_inj (hpoly : poly.msb = true) {xs ys : List UInt8} (hw : 8 * xs.length ≤ w)
    (hlength : xs.length = ys.length) (h : bytesStep poly c xs = bytesStep poly c ys) :
    xs = ys := by
  rw [← bitSteps_word poly c xs hw, ← bitSteps_word poly c ys (hlength ▸ hw), hlength] at h
  have hxor := bitSteps_injective hpoly _ h
  exact word_injective hw hlength ((BitVec.xor_right_inj c).mp hxor)

/-- Two messages that differ in a single byte have different remainders. -/
theorem bytesStep_single (hpoly : poly.msb = true) (hw : 8 ≤ w) {xs ys : List UInt8}
    {b b' : UInt8}
    (h : bytesStep poly c (xs ++ b :: ys) = bytesStep poly c (xs ++ b' :: ys)) : b = b' := by
  rw [bytesStep_append, bytesStep_append] at h
  have hbyte : bytesStep poly (bytesStep poly c xs) [b] = bytesStep poly (bytesStep poly c xs) [b'] :=
    bytesStep_injective hpoly ys h
  exact List.singleton_inj.mp (bytesStep_inj hpoly hw rfl hbyte)

end ReflectedCrc
