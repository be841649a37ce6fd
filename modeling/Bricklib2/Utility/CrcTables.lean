/-
Bricklib2/Utility/CrcTables.lean

The tables of crc16.c and crc8.c hold the remainders of the 256 bytes, and so the
loops over them compute the CRCs of their polynomials.

Main result: `crc_polynomials`.
-/
import Bricklib2.Library.ReflectedCrc
import Bricklib2.Utility.Crc16
import Bricklib2.Utility.Crc8

namespace Bricklib2

/-! ### Modbus -/

/-- The polynomial of Modbus RTU, least significant bit first. -/
def crc16ModbusPolynomial : BitVec 16 := 0xA001

theorem crc16ModbusTable_getD (b : BitVec 8) :
    crc16ModbusTable.getD b.toNat 0 =
      ReflectedCrc.bitSteps crc16ModbusPolynomial 8 (b.setWidth 16) :=
  Bytes.table_getD
    (f := fun b => ReflectedCrc.bitSteps crc16ModbusPolynomial 8 (b.setWidth 16))
    (by decide +kernel) b

theorem crc16ModbusStep_eq (crc : BitVec 16) (data : UInt8) :
    crc16ModbusStep crc data = ReflectedCrc.byteStep crc16ModbusPolynomial crc data := by
  rw [ReflectedCrc.byteStep_table, ← crc16ModbusTable_getD]
  rfl

theorem crc16Modbus_eq (buffer : List UInt8) :
    crc16Modbus buffer = ReflectedCrc.bytesStep crc16ModbusPolynomial 0xFFFF buffer := by
  apply congrArg (fun step => buffer.foldl step 0xFFFF)
  funext crc data
  exact crc16ModbusStep_eq crc data

/-! ### CCITT -/

/-- x¹⁶ + x¹² + x⁵ + 1 -/
def crc16CcittPolynomial : BitVec 16 := 0x1021

theorem crc16CcittTable_getD (b : BitVec 8) :
    crc16CcittTable.getD b.toNat 0 =
      ForwardCrc.bitSteps crc16CcittPolynomial 8 (b.setWidth 16 <<< 8) :=
  Bytes.table_getD
    (f := fun b => ForwardCrc.bitSteps crc16CcittPolynomial 8 (b.setWidth 16 <<< 8))
    (by decide +kernel) b

/-- The mask and the cast to a byte cut out the same index. -/
theorem toNat_and_low (x : BitVec 16) : (x &&& 0xFF).toNat = (x.setWidth 8).toNat := by
  rw [BitVec.toNat_and, BitVec.toNat_setWidth]
  exact Nat.and_two_pow_sub_one_eq_mod x.toNat 8

theorem crc16CcittStep_eq (crc : BitVec 16) (value : UInt8) :
    crc16CcittStep crc (value.toBitVec.setWidth 16) =
      ForwardCrc.byteStep crc16CcittPolynomial crc value := by
  have hindex : (crc >>> 8 ^^^ value.toBitVec.setWidth 16).setWidth 8 =
      (crc >>> 8).setWidth 8 ^^^ value.toBitVec := by
    rw [BitVec.setWidth_xor, BitVec.setWidth_setWidth_of_le _ (by decide), BitVec.setWidth_eq]
  rw [crc16CcittStep, toNat_and_low, hindex, crc16CcittTable_getD,
    ForwardCrc.byteStep_table (by decide)]

theorem crc16Ccitt8in_eq (buffer : List UInt8) :
    crc16Ccitt8in buffer = ForwardCrc.bytesStep crc16CcittPolynomial 0 buffer := by
  apply congrArg (fun step => buffer.foldl step 0)
  funext crc value
  exact crc16CcittStep_eq crc value

/-- The bytes of words, the high byte of each word first. -/
def wordBytes (words : List (BitVec 16)) : List UInt8 :=
  words.flatMap fun (value : BitVec 16) => [⟨(value >>> 8).setWidth 8⟩, ⟨value.setWidth 8⟩]

theorem crc16Ccitt16in_eq (words : List (BitVec 16)) :
    crc16Ccitt16in words = crc16Ccitt8in (wordBytes words) := by
  have hhigh (value : BitVec 16) : ((value >>> 8).setWidth 8).setWidth 16 = value >>> 8 := by
    apply BitVec.eq_of_toNat_eq
    simp only [BitVec.toNat_setWidth, BitVec.toNat_ushiftRight, Nat.shiftRight_eq_div_pow]
    omega
  have hlow (value : BitVec 16) : (value.setWidth 8).setWidth 16 = value &&& 0xFF := by
    apply BitVec.eq_of_toNat_eq
    rw [toNat_and_low]
    simp only [BitVec.toNat_setWidth]
    omega
  have hfold (crc : BitVec 16) :
      words.foldl (fun crc (value : BitVec 16) =>
          crc16CcittStep (crc16CcittStep crc (value >>> 8)) (value &&& 0xFF)) crc =
        (wordBytes words).foldl
          (fun crc value => crc16CcittStep crc (value.toBitVec.setWidth 16)) crc := by
    induction words generalizing crc with
    | nil => rfl
    | cons value words ih =>
      have hbytes : wordBytes (value :: words) =
          ⟨(value >>> 8).setWidth 8⟩ :: ⟨value.setWidth 8⟩ :: wordBytes words := rfl
      rw [List.foldl_cons, ih, hbytes, List.foldl_cons, List.foldl_cons, hhigh, hlow]
  exact hfold 0

/-- **The tables hold their polynomials.** -/
theorem crc_polynomials :
    (∀ buffer : List UInt8,
      crc16Modbus buffer = ReflectedCrc.bytesStep 0xA001 0xFFFF buffer) ∧
    (∀ buffer : List UInt8, crc16Ccitt8in buffer = ForwardCrc.bytesStep 0x1021 0 buffer) ∧
    (∀ type startValue, ∀ buffer : List UInt8,
      crc8 type startValue buffer = ForwardCrc.bytesStep type.polynomial startValue buffer) ∧
    ∀ words : List (BitVec 16), crc16Ccitt16in words = crc16Ccitt8in (wordBytes words) :=
  ⟨crc16Modbus_eq, crc16Ccitt8in_eq, crc8_eq, crc16Ccitt16in_eq⟩

end Bricklib2
