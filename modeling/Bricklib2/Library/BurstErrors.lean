/-
Bricklib2/Library/BurstErrors.lean

Reflected cyclic redundancy checks bit by bit.  A message is divided in the order
in which a serial line sends it, the least significant bit of each byte first
(`feed_bitsOf`), so an error that is a burst on the line is a short run of bits
here, and a register detects every burst that it could hold (`bytesStep_burst`).
-/
import Mathlib.Data.List.GetD
import Bricklib2.Library.ReflectedCrc

namespace ReflectedCrc

variable {w : ℕ} {poly c c' : BitVec w}

/-- The bits of a message in the order in which they are divided out. -/
def bitsOf (bytes : List UInt8) : List Bool :=
  bytes.flatMap fun b => (List.range 8).map b.toBitVec.getLsbD

/-- The bits side by side, the first one lowest. -/
def bitWord (w : ℕ) : List Bool → BitVec w
  | [] => 0
  | b :: bits => (BitVec.ofBool b).setWidth w ^^^ bitWord w bits <<< 1

/-- The message bit by bit. -/
def feed (poly c : BitVec w) (bits : List Bool) : BitVec w :=
  bits.foldl (fun c b => bitStep poly (c ^^^ (BitVec.ofBool b).setWidth w)) c

/-! ### Bits and bytes -/

theorem bitStep_zero (poly : BitVec w) : bitStep poly 0 = 0 := by
  have hzero : (0#w).getLsbD 0 ≠ true := by
    rw [BitVec.getLsbD_zero]
    exact Bool.false_ne_true
  exact (if_neg hzero).trans BitVec.zero_ushiftRight

theorem bitSteps_zero (poly : BitVec w) (n : ℕ) : bitSteps poly n 0 = 0 := by
  induction n with
  | zero => rfl
  | succ n ih =>
    show bitSteps poly n (bitStep poly 0) = 0
    rw [bitStep_zero, ih]

theorem bitWord_getLsbD (bits : List Bool) (i : ℕ) :
    (bitWord w bits).getLsbD i = (decide (i < w) && bits.getD i false) := by
  induction bits generalizing i with
  | nil => simp [bitWord]
  | cons b bits ih =>
    rw [bitWord, BitVec.getLsbD_xor, BitVec.getLsbD_setWidth, BitVec.getLsbD_shiftLeft, ih]
    cases i with
    | zero => simp
    | succ i =>
      have hb : (BitVec.ofBool b).getLsbD (i + 1) = false := BitVec.getLsbD_of_ge _ _ (by omega)
      rw [hb, Bool.and_false, Bool.false_xor, decide_eq_false (show ¬ i + 1 < 1 by omega),
        Bool.not_false, Bool.and_true, Nat.add_sub_cancel, List.getD_cons_succ]
      by_cases hi : i + 1 < w
      · rw [decide_eq_true hi, decide_eq_true (by omega), Bool.true_and, Bool.true_and]
      · rw [decide_eq_false hi, Bool.false_and, Bool.false_and]

theorem feed_cons (poly c : BitVec w) (b : Bool) (bits : List Bool) :
    feed poly c (b :: bits) = feed poly (bitStep poly (c ^^^ (BitVec.ofBool b).setWidth w)) bits :=
  rfl

theorem feed_append (poly c : BitVec w) (xs ys : List Bool) :
    feed poly c (xs ++ ys) = feed poly (feed poly c xs) ys := List.foldl_append

/-- As many bits as the register holds may be taken at once. -/
theorem bitSteps_bitWord (poly c : BitVec w) (bits : List Bool) (h : bits.length ≤ w) :
    bitSteps poly bits.length (c ^^^ bitWord w bits) = feed poly c bits := by
  induction bits generalizing c with
  | nil => exact BitVec.xor_zero
  | cons b bits ih =>
    rw [List.length_cons] at h
    have hshift : bitStep poly (bitWord w bits <<< 1) = bitWord w bits := by
      show bitSteps poly 1 (bitWord w bits <<< 1) = _
      rw [bitSteps_shift]
      · apply BitVec.eq_of_getLsbD_eq
        intro i hi
        rw [BitVec.getLsbD_ushiftRight, BitVec.getLsbD_shiftLeft, Nat.add_sub_cancel_left,
          decide_eq_false (show ¬ 1 + i < 1 by omega), Bool.not_false, Bool.and_true]
        by_cases hin : 1 + i < w
        · rw [decide_eq_true hin, Bool.true_and]
        · rw [bitWord_getLsbD, List.getD_eq_default _ _ (by omega), Bool.and_false, Bool.and_false]
      · intro i hi
        rw [BitVec.getLsbD_shiftLeft, decide_eq_true hi, Bool.not_true, Bool.and_false,
          Bool.false_and]
    calc bitSteps poly (bits.length + 1) (c ^^^ bitWord w (b :: bits))
        = bitSteps poly bits.length (bitStep poly
            ((c ^^^ (BitVec.ofBool b).setWidth w) ^^^ bitWord w bits <<< 1)) := by
          rw [bitWord, BitVec.xor_assoc]
          rfl
      _ = bitSteps poly bits.length
            (bitStep poly (c ^^^ (BitVec.ofBool b).setWidth w) ^^^ bitWord w bits) := by
          rw [bitStep_xor, hshift]
      _ = feed poly c (b :: bits) := ih _ (by omega)

theorem feed_bitsOf (hw : 8 ≤ w) (poly c : BitVec w) (bytes : List UInt8) :
    feed poly c (bitsOf bytes) = bytesStep poly c bytes := by
  induction bytes generalizing c with
  | nil => rfl
  | cons b bytes ih =>
    have hbyte : feed poly c ((List.range 8).map b.toBitVec.getLsbD) = byteStep poly c b := by
      rw [← bitSteps_bitWord poly c _ (by simpa using hw), List.length_map, List.length_range,
        byteStep]
      refine congrArg (fun x => bitSteps poly 8 (c ^^^ x)) ?_
      apply BitVec.eq_of_getLsbD_eq
      intro i hi
      rw [bitWord_getLsbD, BitVec.getLsbD_setWidth]
      by_cases h8 : i < 8
      · rw [List.getD_eq_getElem _ _ (by simpa using h8), List.getElem_map, List.getElem_range]
      · rw [List.getD_eq_default _ _ (by simpa using h8), BitVec.getLsbD_of_ge _ _ (by omega)]
    show feed poly c (_ ++ bitsOf bytes) = _
    rw [feed_append, hbyte, ih]
    rfl

/-- Zeros only divide the register on. -/
theorem feed_zeros (poly c : BitVec w) {bits : List Bool} (h : ∀ b ∈ bits, b = false) :
    feed poly c bits = bitSteps poly bits.length c := by
  induction bits generalizing c with
  | nil => rfl
  | cons b bits ih =>
    obtain ⟨rfl, hbits⟩ := List.forall_mem_cons.mp h
    rw [feed_cons, ih _ hbits]
    have hzero : (BitVec.ofBool false).setWidth w = 0#w := BitVec.setWidth_zero ..
    rw [hzero, BitVec.xor_zero]
    rfl

/-! ### Detection -/

/-- **Bursts.**  A stream whose ones are within a register's width leaves a remainder. -/
theorem feed_burst (hpoly : poly.msb = true) {bits : List Bool} {start : ℕ}
    (hburst : ∀ p, bits.getD p false = true → start ≤ p ∧ p < start + w)
    (hone : true ∈ bits) : feed poly 0 bits ≠ 0 := by
  have hfalse {p : ℕ} {b : Bool} (hb : bits[p]? = some b) (hp : ¬ (start ≤ p ∧ p < start + w)) :
      b = false := by
    apply Bool.eq_false_of_not_eq_true
    rintro rfl
    exact hp (hburst p (by rw [List.getD_eq_getElem?_getD, hb, Option.getD_some]))
  -- zeros, at most `w` bits with a one among them, and zeros again
  have hsplit : bits = bits.take start ++ ((bits.drop start).take w ++ (bits.drop start).drop w) := by
    rw [List.take_append_drop, List.take_append_drop]
  have hbefore : ∀ b ∈ bits.take start, b = false := by
    intro b hb
    obtain ⟨p, hp, hget⟩ := List.mem_iff_getElem.mp hb
    rw [List.length_take] at hp
    rw [List.getElem_take] at hget
    exact hfalse (p := p) (by rw [List.getElem?_eq_getElem (by omega), hget]) (by omega)
  have hafter : ∀ b ∈ (bits.drop start).drop w, b = false := by
    intro b hb
    obtain ⟨p, hp, hget⟩ := List.mem_iff_getElem.mp hb
    rw [List.drop_drop, List.length_drop] at hp
    rw [List.getElem_drop, List.getElem_drop] at hget
    exact hfalse (p := start + (w + p))
      (by rw [List.getElem?_eq_getElem (by omega), hget]) (by omega)
  -- the one is in the middle part, whose word is not zero then
  have hmid : true ∈ (bits.drop start).take w := by
    rw [hsplit, List.mem_append, List.mem_append] at hone
    rcases hone with h | h | h
    · cases hbefore _ h
    · exact h
    · cases hafter _ h
  have hword : bitWord w ((bits.drop start).take w) ≠ 0#w := by
    obtain ⟨p, hp, hget⟩ := List.mem_iff_getElem.mp hmid
    intro hzero
    have hbit := bitWord_getLsbD (w := w) ((bits.drop start).take w) p
    rw [hzero, List.getD_eq_getElem _ _ hp, hget] at hbit
    rw [List.length_take] at hp
    rw [BitVec.getLsbD_zero, decide_eq_true (by omega)] at hbit
    cases hbit
  intro h
  -- zeros in front change nothing, and those behind run the register on, one to one
  rw [hsplit, feed_append, feed_append, feed_zeros poly _ hafter, feed_zeros poly _ hbefore,
    bitSteps_zero, ← bitSteps_bitWord poly 0 _ (List.length_take_le _ _)] at h
  rw [show (0 : BitVec w) ^^^ _ = _ from BitVec.zero_xor] at h
  have hinner := bitSteps_injective hpoly _ (h.trans (bitSteps_zero poly _).symm)
  exact hword (bitSteps_injective hpoly _ (hinner.trans (bitSteps_zero poly _).symm))

/-- The remainder of a message with an error on it. -/
theorem bytesStep_zipWith_xor (poly c c' : BitVec w) {xs es : List UInt8}
    (h : es.length = xs.length) :
    bytesStep poly (c ^^^ c') (List.zipWith (· ^^^ ·) xs es) =
      bytesStep poly c xs ^^^ bytesStep poly c' es := by
  induction xs generalizing es c c' with
  | nil =>
    obtain rfl := List.length_eq_zero_iff.mp h
    rfl
  | cons x xs ih =>
    obtain - | ⟨e, es⟩ := es
    · cases h
    have hstep : byteStep poly (c ^^^ c') (x ^^^ e) = byteStep poly c x ^^^ byteStep poly c' e := by
      rw [byteStep, byteStep, byteStep, ← bitSteps_xor, UInt8.toBitVec_xor, BitVec.setWidth_xor]
      refine congrArg _ ?_
      ac_rfl
    show bytesStep poly (byteStep poly (c ^^^ c') (x ^^^ e)) (List.zipWith (· ^^^ ·) xs es) = _
    rw [hstep, ih _ _ (Nat.succ.inj h)]
    rfl

/-- **Burst errors.**  An error within a register's width changes the remainder. -/
theorem bytesStep_burst (hpoly : poly.msb = true) (hw : 8 ≤ w) {xs es : List UInt8}
    (h : es.length = xs.length) {start : ℕ}
    (hburst : ∀ p, (bitsOf es).getD p false = true → start ≤ p ∧ p < start + w)
    (hone : true ∈ bitsOf es) :
    bytesStep poly c (List.zipWith (· ^^^ ·) xs es) ≠ bytesStep poly c xs := by
  have hxor := bytesStep_zipWith_xor poly c 0 h
  rw [show c ^^^ 0 = c from BitVec.xor_zero, ← feed_bitsOf hw poly 0 es] at hxor
  rw [hxor]
  intro heq
  have hzero := (BitVec.xor_right_inj (bytesStep poly c xs)).mp (heq.trans BitVec.xor_zero.symm)
  exact feed_burst hpoly hburst hone hzero

end ReflectedCrc
