/-
Bricklib2/Warp/FrameErrors.lean

What the checksum of a Modbus frame detects on the line.  The bits of a byte go
out least significant first, the order in which the CRC divides them out, and the
CRC follows the payload low byte first, so that an accepted frame as a whole has
the remainder 0 and the CRC bytes are no place where an error could hide.

Main result: `burst_rejected`.
-/
import Bricklib2.Library.BurstErrors
import Bricklib2.Utility.CrcTables
import Bricklib2.Warp.Modbus

namespace Bricklib2

open ReflectedCrc

/-! ### The remainder of a frame -/

theorem word_crc (checksum : BitVec 16) : word 16 [crcLow checksum, crcHigh checksum] = checksum := by
  have hlow : (crcLow checksum).toBitVec = checksum.setWidth 8 := by
    apply BitVec.eq_of_toNat_eq
    show checksum.toNat % 256 % 2 ^ 8 = checksum.toNat % 2 ^ 8
    omega
  have hhigh : (crcHigh checksum).toBitVec = (checksum >>> 8).setWidth 8 := by
    apply BitVec.eq_of_toNat_eq
    rw [BitVec.toNat_setWidth, BitVec.toNat_ushiftRight, Nat.shiftRight_eq_div_pow]
    rfl
  apply BitVec.eq_of_getLsbD_eq
  intro i hi
  simp only [word, hlow, hhigh, BitVec.getLsbD_xor, BitVec.getLsbD_setWidth,
    BitVec.getLsbD_shiftLeft, BitVec.getLsbD_ushiftRight]
  by_cases h8 : i < 8
  · simp [h8, hi]
  · simp [h8, hi, show i - 8 < 16 by omega, show i - 8 < 8 by omega, show 8 + (i - 8) = i by omega]

/-- **Accepted frames have no remainder.** -/
theorem frameChecksumOk_iff (frame : List UInt8) :
    frameChecksumOk frame = true ↔ 2 ≤ frame.length ∧ crc16Modbus frame = 0 := by
  rw [frameChecksumOk, Bool.and_eq_true, decide_eq_true_iff, beq_iff_eq]
  refine and_congr_right fun hlength => ?_
  have hsplit : bytesStep crc16ModbusPolynomial (crc16Modbus (frame.take (frame.length - 2)))
      (frame.drop (frame.length - 2)) = crc16Modbus frame := by
    rw [crc16Modbus_eq, crc16Modbus_eq, ← bytesStep_append, List.take_append_drop]
  have hlast : (frame.drop (frame.length - 2)).length = 2 := by
    rw [List.length_drop]
    omega
  generalize crc16Modbus (frame.take (frame.length - 2)) = checksum at hsplit ⊢
  generalize frame.drop (frame.length - 2) = last at hsplit hlast ⊢
  have hwords (bytes : List UInt8) (hbytes : bytes.length = 2) :
      bytesStep crc16ModbusPolynomial checksum bytes =
        bitSteps crc16ModbusPolynomial 16 (checksum ^^^ word 16 bytes) := by
    rw [← bitSteps_word _ _ _ (by omega), hbytes]
  have hzero : bytesStep crc16ModbusPolynomial checksum [crcLow checksum, crcHigh checksum] = 0 := by
    rw [hwords _ rfl, word_crc, BitVec.xor_self]
    exact bitSteps_zero _ _
  rw [← hsplit]
  constructor
  · rintro rfl
    exact hzero
  · intro h
    exact bytesStep_inj (by decide) (by omega) (by rw [hlast]; rfl) (h.trans hzero.symm)

/-! ### Bursts -/

/-- An error that inverts at least one bit, and none but `width` consecutive ones. -/
structure Burst (width : ℕ) (error : List UInt8) : Prop where
  nonzero : true ∈ bitsOf error
  confined : ∃ start, ∀ p, (bitsOf error).getD p false = true → start ≤ p ∧ p < start + width

/-- What arrives of a frame where `error` inverts its bits. -/
def corrupted (frame error : List UInt8) : List UInt8 := List.zipWith (· ^^^ ·) frame error

theorem frameChecksumOk_corrupted {frame error : List UInt8} (h : frameChecksumOk frame = true)
    (hlength : error.length = frame.length) (hburst : Burst 16 error) :
    frameChecksumOk (corrupted frame error) = false := by
  obtain ⟨start, hconfined⟩ := hburst.confined
  apply Bool.eq_false_of_not_eq_true
  intro hcorrupted
  have hframe := ((frameChecksumOk_iff frame).mp h).2
  have hother := ((frameChecksumOk_iff _).mp hcorrupted).2
  rw [crc16Modbus_eq] at hframe hother
  exact bytesStep_burst (by decide) (by decide) hlength hconfined hburst.nonzero
    (hother.trans hframe.symm)

/-- **Burst errors.**  No burst of up to 16 bits gets past the check of a received
frame, wherever in the frame it is. -/
theorem burst_rejected {r r' : RS485} {error : List UInt8}
    (h : modbusCheckFrameChecksum r = true) (hlength : error.length = r.receivedFrame.length)
    (hburst : Burst 16 error) (hreceived : r'.receivedFrame = corrupted r.receivedFrame error) :
    modbusCheckFrameChecksum r' = false := by
  rw [modbusCheckFrameChecksum, hreceived]
  exact frameChecksumOk_corrupted h hlength hburst

/-- The driver with a frame in its receive buffer. -/
def holding (frame : List UInt8) : RS485 :=
  let r := rs485InitBuffer 512 16
  { r with
    rxRbLastLength := frame.length
    ringbufferRx := { r.ringbufferRx with buffer := frame.map fun b => ⟨b, 0, none⟩ } }

/-- The answer of a meter with a voltage of 230.2 V. -/
def voltageFrame : List UInt8 := [0x01, 0x04, 0x04, 0x43, 0x66, 0x33, 0x33, 0x5A, 0xFA]

/-- A burst of ten bits, from the end of the payload into the second byte of the CRC. -/
theorem burst_rejected_voltage :
    modbusCheckFrameChecksum (holding voltageFrame) = true ∧
      modbusCheckFrameChecksum
        (holding (corrupted voltageFrame [0, 0, 0, 0, 0, 0, 0x80, 0xA5, 0x01])) = false := by
  have hburst : Burst 16 [0, 0, 0, 0, 0, 0, 0x80, 0xA5, 0x01] := by
    have hinside : ∀ p < 72, (bitsOf [0, 0, 0, 0, 0, 0, 0x80, 0xA5, 0x01]).getD p false = true →
        55 ≤ p ∧ p < 55 + 16 := by decide
    refine ⟨by decide, 55, fun p hp => ?_⟩
    by_cases hin : p < 72
    · exact hinside p hin hp
    · rw [List.getD_eq_default _ _ (by simpa [bitsOf] using hin)] at hp
      cases hp
  have hok : modbusCheckFrameChecksum (holding voltageFrame) = true := by decide +kernel
  exact ⟨hok, burst_rejected hok (by decide) hburst (by decide +kernel)⟩

end Bricklib2
