/-
Bricklib2/Warp/Wem/CardCapacity.lean

How large a card the file system is told to be: from the CSD register, which the
driver stores with its bytes reversed, through the bit fields of `SDMMC_CSD_V2` to
the block count of `sd_init_task`.  Main result: `sdSectorCount_eq_iff`, the count is
right exactly for cards of up to 32 GiB.
-/
import Bricklib2.Library.Bytes
import Bricklib2.Warp.Wem.Sdmmc

namespace Bricklib2

open Bytes Program

/-! ### Bit fields -/

/-- The members of `SDMMC_CSD_V2`; the reserved ones are numbered. -/
inductive CsdV2Field
  | fixed
  | crc
  | reserved1
  | fileFmt
  | tempWriteProt
  | permWriteProt
  | copy
  | fileFmtGrp
  | reserved2
  | writeBlkPartial
  | writeBlkLen
  | writeSpeedFactor
  | reserved3
  | writeProtGrpEn
  | writeProtGrpSize
  | eraseSectorSize
  | eraseBlkEn
  | reserved4
  | devSizeLow
  | devSizeHigh
  | reserved5
  | dsrImp
  | readBlkMisalign
  | writeBlkMisalign
  | readBlkPartial
  | readBlkLen
  | ccc
  | tranSpeed
  | nsac
  | taac
  | reserved6
  | csdStruct
  deriving DecidableEq

/-- The members in their order, each with its bits. -/
def sdmmcCsdV2 : List (CsdV2Field × ℕ) :=
  [(.fixed, 1), (.crc, 7), (.reserved1, 2), (.fileFmt, 2), (.tempWriteProt, 1),
    (.permWriteProt, 1), (.copy, 1), (.fileFmtGrp, 1), (.reserved2, 5), (.writeBlkPartial, 1),
    (.writeBlkLen, 4), (.writeSpeedFactor, 3), (.reserved3, 2), (.writeProtGrpEn, 1),
    (.writeProtGrpSize, 7), (.eraseSectorSize, 7), (.eraseBlkEn, 1), (.reserved4, 1),
    (.devSizeLow, 16), (.devSizeHigh, 6), (.reserved5, 6), (.dsrImp, 1), (.readBlkMisalign, 1),
    (.writeBlkMisalign, 1), (.readBlkPartial, 1), (.readBlkLen, 4), (.ccc, 12), (.tranSpeed, 8),
    (.nsac, 8), (.taac, 8), (.reserved6, 6), (.csdStruct, 2)]

/-- Bits are given out from the lowest one on. -/
def CsdV2Field.offset (field : CsdV2Field) : ℕ :=
  ((sdmmcCsdV2.takeWhile fun member => member.1 ≠ field).map Prod.snd).sum

/-- The bits of a field. -/
def CsdV2Field.width (field : CsdV2Field) : ℕ := (sdmmcCsdV2.lookup field).getD 0

/-- No member lies across the end of a 32 bit unit, so there is no padding in between. -/
theorem csdV2_units (field : CsdV2Field) : field.offset % 32 + field.width ≤ 32 := by
  cases field <;> decide

/-- A member of `sdmmc.csd_v2`. -/
def Sdmmc.csd (sdmmc : Sdmmc) (field : CsdV2Field) : ℕ :=
  Bytes.littleEndian sdmmc.csdV2 / 2 ^ field.offset % 2 ^ field.width

/-- The block count that `sd_init_task` computes, in 32 bits without overflow. -/
def sdSectorCount (sdmmc : Sdmmc) : ℕ :=
  sdmmc.csd .devSizeHigh <<< 16 ||| (sdmmc.csd .devSizeLow + 1) <<< 10

/-! ### The register -/

/-- `C_SIZE`, bits 48 to 69 of the register, which is sent high byte first. -/
def cSize (register : Vector UInt8 16) : ℕ := Bytes.bigEndian register.toList / 2 ^ 48 % 2 ^ 22

/-- The driver behind `sdmmc_init_csd`, which received the register and two bytes of
checksum. -/
def Sdmmc.withCsd (sdmmc : Sdmmc) (register : Vector UInt8 16) (crc : Vector UInt8 2) : Sdmmc :=
  { sdmmc with csdV2 := csdOfBuffer (register.toList ++ crc.toList) }

variable {card : SdCard} {s s' : SdmmcBus} (sdmmc : Sdmmc) (register : Vector UInt8 16)
  (crc : Vector UInt8 2)

/-- **Where the structure comes from**: the register and the checksum are the last bytes that
`sdmmc_init_csd` receives before it releases the card. -/
theorem withCsd_of_sdmmcInitCsd (h : (sdmmcInitCsd card).Returns s (.ok, s')) :
    ∃ (sdmmc : Sdmmc) (register : Vector UInt8 16) (crc : Vector UInt8 2) (n : ℕ),
      s'.sdmmc = sdmmc.withCsd register crc ∧ s'.transferred = n + 20 ∧
      register.toList ++ crc.toList = (List.range 18).map fun i => card.answer (n + i) := by
  obtain ⟨_, s₁, -, h⟩ := returns_bind.mp h
  obtain ⟨response, s₂, -, h⟩ := returns_bind.mp h
  split_ifs at h with hresponse
  · obtain ⟨start, s₃, -, h⟩ := returns_bind.mp h
    split_ifs at h with hstart
    · obtain ⟨buffer, s₄, hread, h⟩ := returns_bind.mp h
      obtain ⟨_, s₅, hstore, h⟩ := returns_bind.mp h
      obtain ⟨_, s₆, hdeselect, h⟩ := returns_bind.mp h
      obtain ⟨rfl, rfl⟩ := Prod.mk.inj (returns_state.mp hread)
      obtain ⟨-, rfl⟩ := Prod.mk.inj (returns_state.mp hstore)
      obtain ⟨-, rfl⟩ := Prod.mk.inj (returns_pure.mp h)
      obtain ⟨_, s₇, hfirst, hdeselect⟩ := returns_bind.mp hdeselect
      obtain ⟨-, rfl⟩ := Prod.mk.inj (returns_state.mp hfirst)
      obtain ⟨_, s₈, hsecond, hdeselect⟩ := returns_bind.mp hdeselect
      obtain ⟨-, rfl⟩ := Prod.mk.inj (returns_state.mp hsecond)
      obtain ⟨-, rfl⟩ := Prod.mk.inj (returns_pure.mp hdeselect)
      have hbytes := List.take_append_drop 16
        ((List.range 18).map fun i => card.answer (s₃.transferred + i))
      refine ⟨s₃.sdmmc, ⟨⟨_⟩, rfl⟩, ⟨⟨_⟩, rfl⟩, s₃.transferred, ?_, rfl, hbytes⟩
      exact congrArg (fun buffer => { s₃.sdmmc with csdV2 := csdOfBuffer buffer }) hbytes.symm
    · obtain ⟨_, s₄, -, h⟩ := returns_bind.mp h
      cases returns_pure.mp h
  · obtain ⟨_, s₃, -, h⟩ := returns_bind.mp h
    cases returns_pure.mp h

/-- The stored structure has the value of the register. -/
theorem littleEndian_withCsd :
    Bytes.littleEndian (sdmmc.withCsd register crc).csdV2 = Bytes.bigEndian register.toList := by
  have hlength : register.toList.length = 16 := register.length_toList
  have hreverse : csdOfBuffer (register.toList ++ crc.toList) = register.toList.reverse := by
    refine (map_range_backwards 0 ?_).trans ?_
    · rw [List.length_append, hlength]
      exact Nat.le_add_right 16 _
    · exact congrArg List.reverse (List.take_left' hlength)
  rw [Sdmmc.withCsd, hreverse, Bytes.littleEndian_reverse]

theorem csd_devSizeLow :
    (sdmmc.withCsd register crc).csd .devSizeLow = cSize register % 2 ^ 16 := by
  have hoffset : CsdV2Field.devSizeLow.offset = 48 := by decide
  have hwidth : CsdV2Field.devSizeLow.width = 16 := by decide
  rw [Sdmmc.csd, littleEndian_withCsd, hoffset, hwidth, cSize]
  omega

theorem csd_devSizeHigh :
    (sdmmc.withCsd register crc).csd .devSizeHigh = cSize register / 2 ^ 16 := by
  have hoffset : CsdV2Field.devSizeHigh.offset = 48 + 16 := by decide
  have hwidth : CsdV2Field.devSizeHigh.width = 6 := by decide
  rw [Sdmmc.csd, littleEndian_withCsd, hoffset, hwidth, cSize, Nat.pow_add,
    ← Nat.div_div_eq_div_mul]
  omega

/-- **The block count** has the high part of `C_SIZE` ten bits too low. -/
theorem sdSectorCount_withCsd :
    sdSectorCount (sdmmc.withCsd register crc) =
      cSize register / 2 ^ 16 * 2 ^ 16 ||| (cSize register % 2 ^ 16 + 1) * 1024 := by
  rw [sdSectorCount, csd_devSizeLow, csd_devSizeHigh, Nat.shiftLeft_eq, Nat.shiftLeft_eq]

theorem cSize_lt : cSize register < 2 ^ 22 := Nat.mod_lt _ (by decide)

/-- **The block count is right exactly for cards of up to 2^16 units of 512 KiB**, that is
32 GiB. -/
theorem sdSectorCount_eq_iff (sdmmc : Sdmmc) (register : Vector UInt8 16)
    (crc : Vector UInt8 2) :
    sdSectorCount (sdmmc.withCsd register crc) = (cSize register + 1) * 1024 ↔
      cSize register < 2 ^ 16 := by
  have hlt := cSize_lt register
  rw [sdSectorCount_withCsd]
  generalize cSize register = size at hlt ⊢
  constructor
  · intro hcount
    by_contra hlarge
    have hhigh : size / 2 ^ 16 * 2 ^ 16 < 2 ^ 26 := by omega
    rcases Nat.lt_or_ge (size % 2 ^ 16 + 1) (2 ^ 16) with hlow | hlow
    · -- the low part does not reach 2^26, which the right count does
      have hlow' : (size % 2 ^ 16 + 1) * 1024 < 2 ^ 16 * 1024 :=
        Nat.mul_lt_mul_of_pos_right hlow (by decide)
      have hor := Nat.or_lt_two_pow hhigh (hlow'.trans_eq (by norm_num))
      rw [hcount] at hor
      omega
    · have hlow' : (size % 2 ^ 16 + 1) * 1024 = 2 ^ 26 := by omega
      rw [hlow', Nat.or_two_pow_eq_add_of_lt hhigh] at hcount
      omega
  · intro hsmall
    rw [Nat.div_eq_of_lt hsmall, Nat.mod_eq_of_lt hsmall, Nat.zero_mul, Nat.zero_or]

/-- The register of a card of 32 GiB and 512 KiB, which has `C_SIZE` 2^16. -/
def largeCard : Vector UInt8 16 :=
  #v[0x40, 0x0E, 0x00, 0x32, 0x5B, 0x59, 0x00, 0x01, 0x00, 0x00, 0x7F, 0x80, 0x0A, 0x40, 0x00, 0x01]

/-- `largeCard` is taken for a card of 32.5 MiB. -/
theorem sdSectorCount_largeCard : ¬ ∀ (sdmmc : Sdmmc) (register : Vector UInt8 16)
    (crc : Vector UInt8 2), (sdmmc.withCsd register crc).csd .csdStruct = 1 →
    cSize register < 2 ^ 22 - 1 →
    sdSectorCount (sdmmc.withCsd register crc) = (cSize register + 1) * 1024 := by
  intro hcount
  have hlarge := hcount {} largeCard #v[0, 0] (by decide) (by decide)
  have hfalse : sdSectorCount (({} : Sdmmc).withCsd largeCard #v[0, 0]) = 66560 := by decide
  rw [hfalse] at hlarge
  revert hlarge
  decide

end Bricklib2
