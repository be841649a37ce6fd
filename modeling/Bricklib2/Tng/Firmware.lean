/-
Bricklib2/Tng/Firmware.lean

The check of a new firmware before it is copied (tng_firmware.c), and the program
that builds the image (tng_build.py).  An image starts with its CRC and its length;
the CRC covers what follows these eight bytes.

The length comes from the host.  It is only checked against the size of the region,
so that for less than eight bytes `length - 8` wraps around and the CRC is taken
over almost the whole address space; and for 9 to 11 bytes the CRC is taken over a
block of less than a word, which `crc32.c` reads at the end of its word.

Main results: `firmwareCheck_contained` and `tngBuild_accepted`.
-/
import Bricklib2.Tng.Communication
import Bricklib2.Utility.Crc32

namespace Bricklib2

open ReflectedCrc

/-! ### Positions (config_stm32f0_128kb.h) -/

/-- What the third word of a firmware has to be. -/
def stm32f0MagicNumber : BitVec 32 := 0xDEADBEEF

/-- Checksum, length, magic number and device identifier. -/
def stm32f0FirmwarePreambleSize : ℕ := 4 * 4

/-- The device identifier of the firmware that runs. -/
def stm32f0ActiveDeviceIdentifierPosition : ℕ := stm32f0FirmwareActivePosStart + 12

/-- The checksum of the new firmware. -/
def stm32f0NewCrcPosition : ℕ := stm32f0FirmwareActivePosStart + stm32f0FirmwareSize

/-- The length of the new firmware. -/
def stm32f0NewLengthPosition : ℕ := stm32f0FirmwareActivePosStart + 4 + stm32f0FirmwareSize

/-- The magic number of the new firmware. -/
def stm32f0NewMagicNumberPosition : ℕ := stm32f0FirmwareActivePosStart + 8 + stm32f0FirmwareSize

/-- The device identifier of the new firmware. -/
def stm32f0NewDeviceIdentifierPosition : ℕ :=
  stm32f0ActiveDeviceIdentifierPosition + stm32f0FirmwareSize

/-- A position as a pointer. -/
def flashAddress (position : ℕ) : BitVec 32 := BitVec.ofNat 32 position

/-! ### The check -/

/-- The checksum that came with the new firmware. -/
def tngFirmwareGetCrc (m : Memory) : BitVec 32 := m.loadWord (flashAddress stm32f0NewCrcPosition)

/-- The length that came with the new firmware. -/
def tngFirmwareGetLength (m : Memory) : BitVec 32 :=
  m.loadWord (flashAddress stm32f0NewLengthPosition)

/-- The result of a check, and the words that it has read. -/
abbrev FirmwareCheck := Bool × List (BitVec 32)

/-- The new firmware has to be for the same device. -/
def tngFirmwareCheckDeviceIdentifier (m : Memory) : FirmwareCheck :=
  let newDid := flashAddress stm32f0NewDeviceIdentifierPosition
  let activeDid := flashAddress stm32f0ActiveDeviceIdentifierPosition
  (m.loadWord newDid == m.loadWord activeDid, [newDid, activeDid])

/-- The new firmware has to have the magic number. -/
def tngFirmwareCheckMagicNumber (m : Memory) : FirmwareCheck :=
  let magicNumber := flashAddress stm32f0NewMagicNumberPosition
  (m.loadWord magicNumber == stm32f0MagicNumber, [magicNumber])

/-- At least one page is left untouched for the UID and non-volatile settings. -/
def tngFirmwareCheckLength (config : TNGConfig) (m : Memory) : FirmwareCheck :=
  (decide (tngFirmwareGetLength m <
      BitVec.ofNat 32 stm32f0FirmwareSize - BitVec.ofNat 32 config.flashPageSize),
    [flashAddress stm32f0NewLengthPosition])

/-- The new firmware has to have the checksum it came with. -/
def tngFirmwareCheckCrc (m : Memory) : FirmwareCheck :=
  let length := tngFirmwareGetLength m
  let crc := tngFirmwareGetCrc m
  let (crcCalc, reads) :=
    crc32Ieee8023 m (flashAddress stm32f0FirmwareNewPosStart + 8) (length - 8).toNat
  (crc == crcCalc,
    [flashAddress stm32f0NewLengthPosition, flashAddress stm32f0NewCrcPosition] ++ reads)

/-- What the host is told about a new firmware. -/
inductive TNGFirmwareCopyStatus
  | ok
  | deviceIdentifierIncorrect
  | magicNumberIncorrect
  | lengthMalformed
  | crcMismatch
  deriving DecidableEq

/-- `tng_firmware_check_all`: the status, and the words that have been read. -/
def tngFirmwareCheckAll (config : TNGConfig) (m : Memory) :
    TNGFirmwareCopyStatus × List (BitVec 32) :=
  let did := tngFirmwareCheckDeviceIdentifier m
  if did.1 = false then
    (.deviceIdentifierIncorrect, did.2)
  else
    let magic := tngFirmwareCheckMagicNumber m
    if magic.1 = false then
      (.magicNumberIncorrect, did.2 ++ magic.2)
    else
      let length := tngFirmwareCheckLength config m
      if length.1 = false then
        (.lengthMalformed, did.2 ++ magic.2 ++ length.2)
      else
        let crc := tngFirmwareCheckCrc m
        if crc.1 = false then
          (.crcMismatch, did.2 ++ magic.2 ++ length.2 ++ crc.2)
        else
          (.ok, did.2 ++ magic.2 ++ length.2 ++ crc.2)

/-! ### The build program -/

/-- `struct.pack('<I', value)`, an error where the value does not fit. -/
def structPackI (value : ℕ) : Option (List UInt8) :=
  if value < 2 ^ 32 then some (littleEndian 4 value) else none

/-- `tng_build.py`: the first eight bytes of the firmware are replaced. -/
def tngBuild (firmware : List UInt8) : Option (List UInt8) := do
  let crc ← structPackI (crc32Standard (firmware.drop 8)).toNat
  let length ← structPackI firmware.length
  some (crc ++ length ++ firmware.drop 8)

/-! ### Containment -/

variable {config : TNGConfig} {m : Memory}

/-- A word of the preamble of the running firmware, or of the region of the new one. -/
def InFirmwareRegions (address : BitVec 32) : Prop :=
  (stm32f0FirmwareActivePosStart ≤ address.toNat ∧
      address.toNat + 4 ≤ stm32f0FirmwareActivePosStart + stm32f0FirmwarePreambleSize) ∨
    (stm32f0FirmwareNewPosStart ≤ address.toNat ∧
      address.toNat + 4 ≤ stm32f0FirmwareNewPosStart + stm32f0FirmwareSize)

instance (address : BitVec 32) : Decidable (InFirmwareRegions address) :=
  inferInstanceAs (Decidable (_ ∨ _))

/-- The bytes that the CRC is for: from offset 8 up to the stored length. -/
def firmwarePayload (m : Memory) : List UInt8 :=
  m.bytes (flashAddress stm32f0FirmwareNewPosStart + 8) ((tngFirmwareGetLength m).toNat - 8)

/-- What an accepted firmware has to be. -/
structure FirmwareIntact (config : TNGConfig) (m : Memory) : Prop where
  min_le : 8 ≤ (tngFirmwareGetLength m).toNat
  lt_max : (tngFirmwareGetLength m).toNat < stm32f0FirmwareSize - config.flashPageSize
  magic : (tngFirmwareCheckMagicNumber m).1 = true
  did : (tngFirmwareCheckDeviceIdentifier m).1 = true
  crc : tngFirmwareGetCrc m = crc32Standard (firmwarePayload m)

/-- The check stays in its regions and accepts nothing else. -/
def FirmwareCheckContained (config : TNGConfig) (m : Memory) : Prop :=
  (∀ address ∈ (tngFirmwareCheckAll config m).2, InFirmwareRegions address) ∧
    ((tngFirmwareCheckAll config m).1 = .ok → FirmwareIntact config m)

/-- With the right identifier and magic number: the length is at least 8, and the
CRC with a length of 9 to 11 is not the one of the last bytes of the magic number,
which are not the bytes that it is for. -/
def LengthHarmless (m : Memory) : Prop :=
  (tngFirmwareCheckDeviceIdentifier m).1 = true → (tngFirmwareCheckMagicNumber m).1 = true →
    8 ≤ (tngFirmwareGetLength m).toNat ∧ ∀ n < 4, 0 < n → (tngFirmwareGetLength m).toNat = 8 + n →
      tngFirmwareGetCrc m ≠ crc32Standard
        (m.bytes (flashAddress stm32f0FirmwareNewPosStart + 8 + BitVec.ofNat 32 (4 - n)) n)

instance (m : Memory) : Decidable (LengthHarmless m) := inferInstanceAs (Decidable (_ → _ → _))

/-- The preambles of the running and of the new firmware. -/
def preamblePositions : List ℕ :=
  [stm32f0NewDeviceIdentifierPosition, stm32f0ActiveDeviceIdentifierPosition,
    stm32f0NewMagicNumberPosition, stm32f0NewLengthPosition, stm32f0NewCrcPosition]

theorem preamble_inRegions {address : BitVec 32}
    (h : address ∈ preamblePositions.map flashAddress) : InFirmwareRegions address := by
  have hall : ∀ x ∈ preamblePositions, InFirmwareRegions (flashAddress x) := by decide
  obtain ⟨position, hposition, rfl⟩ := List.mem_map.mp h
  exact hall position hposition

/-- The words that the checks in front of the CRC read. -/
def headerReads (config : TNGConfig) (m : Memory) : List (BitVec 32) :=
  (tngFirmwareCheckDeviceIdentifier m).2 ++ (tngFirmwareCheckMagicNumber m).2 ++
    (tngFirmwareCheckLength config m).2

theorem header_inRegions {address : BitVec 32} (h : address ∈ headerReads config m) :
    InFirmwareRegions address := by
  apply preamble_inRegions
  simp only [headerReads, tngFirmwareCheckDeviceIdentifier, tngFirmwareCheckMagicNumber,
    tngFirmwareCheckLength, preamblePositions, List.map_cons, List.mem_append, List.mem_cons,
    List.not_mem_nil, or_false] at h ⊢
  tauto

/-- Behind the checks of identifier and magic number. -/
theorem firmwareCheckAll_eq (hdid : (tngFirmwareCheckDeviceIdentifier m).1 = true)
    (hmagic : (tngFirmwareCheckMagicNumber m).1 = true) :
    tngFirmwareCheckAll config m =
      if (tngFirmwareCheckLength config m).1 = false then
        (.lengthMalformed, headerReads config m)
      else if (tngFirmwareCheckCrc m).1 = false then
        (.crcMismatch, headerReads config m ++ (tngFirmwareCheckCrc m).2)
      else
        (.ok, headerReads config m ++ (tngFirmwareCheckCrc m).2) := by
  simp only [tngFirmwareCheckAll, headerReads, hdid, hmagic, Bool.true_eq_false, if_false]

/-- The page size of the HAL. -/
theorem firmwareLimit (hpage : config.flashPageSize = 1024 ∨ config.flashPageSize = 2048) :
    (tngFirmwareCheckLength config m).1 = true ↔
      (tngFirmwareGetLength m).toNat < stm32f0FirmwareSize - config.flashPageSize := by
  have hlimit : (BitVec.ofNat 32 stm32f0FirmwareSize -
      BitVec.ofNat 32 config.flashPageSize).toNat = stm32f0FirmwareSize - config.flashPageSize := by
    rcases hpage with hpage | hpage
    · rw [hpage]
      decide
    · rw [hpage]
      decide
  rw [tngFirmwareCheckLength, decide_eq_true_iff, BitVec.lt_def, hlimit]

theorem length_sub_eight (h : 8 ≤ (tngFirmwareGetLength m).toNat) :
    (tngFirmwareGetLength m - 8).toNat = (tngFirmwareGetLength m).toNat - 8 := by
  have hlt := (tngFirmwareGetLength m).isLt
  have height : (8 : BitVec 32).toNat = 8 := rfl
  rw [BitVec.toNat_sub, height]
  omega

/-- The words of the CRC check. -/
theorem crcCheck_reads (m : Memory) : (tngFirmwareCheckCrc m).2 =
    [flashAddress stm32f0NewLengthPosition, flashAddress stm32f0NewCrcPosition] ++
      (List.range (((tngFirmwareGetLength m - 8).toNat + 3) / 4)).map fun i =>
        flashAddress stm32f0FirmwareNewPosStart + 8 + BitVec.ofNat 32 (4 * i) := by
  have haligned : (flashAddress stm32f0FirmwareNewPosStart + 8).toNat % 4 = 0 := by decide
  rw [tngFirmwareCheckCrc, crc32Ieee8023, ← crc32_reads_aligned m 0 _ haligned]

theorem payload_address {i : ℕ} (h : i ≤ stm32f0FirmwareSize) :
    (flashAddress stm32f0FirmwareNewPosStart + 8 + BitVec.ofNat 32 i).toNat =
      stm32f0FirmwareNewPosStart + 8 + i := by
  have hstart : (flashAddress stm32f0FirmwareNewPosStart + 8).toNat =
      stm32f0FirmwareNewPosStart + 8 := by decide
  have hsize : stm32f0FirmwareSize = 61440 := by decide
  have hnew : stm32f0FirmwareNewPosStart = 134287360 := by decide
  rw [BitVec.toNat_add, hstart, BitVec.toNat_ofNat]
  omega

/-- The words of the payload lie in the region. -/
theorem crcCheck_inRegions (hmin : 8 ≤ (tngFirmwareGetLength m).toNat)
    (hmax : (tngFirmwareGetLength m).toNat + 3 < stm32f0FirmwareSize) :
    ∀ address ∈ (tngFirmwareCheckCrc m).2, InFirmwareRegions address := by
  rw [crcCheck_reads, length_sub_eight hmin]
  intro address haddress
  rcases List.mem_append.mp haddress with hheader | hpayload
  · apply preamble_inRegions
    simp only [preamblePositions, List.map_cons, List.mem_cons] at hheader ⊢
    tauto
  · obtain ⟨i, hi, rfl⟩ := List.mem_map.mp hpayload
    have hlt := List.mem_range.mp hi
    right
    rw [payload_address (by omega)]
    omega

/-- With a length below 8 the CRC goes on behind the region. -/
theorem crcCheck_escapes (h : (tngFirmwareGetLength m).toNat < 8) :
    ∃ address ∈ (tngFirmwareCheckCrc m).2, ¬ InFirmwareRegions address := by
  have hsize : stm32f0FirmwareSize = 61440 := by decide
  have hnew : stm32f0FirmwareNewPosStart = 134287360 := by decide
  have hactive : stm32f0FirmwareActivePosStart = 134225920 := by decide
  have hpreamble : stm32f0FirmwarePreambleSize = 16 := rfl
  have hlength : (tngFirmwareGetLength m - 8).toNat = 2 ^ 32 - 8 + (tngFirmwareGetLength m).toNat := by
    have height : (8 : BitVec 32).toNat = 8 := rfl
    rw [BitVec.toNat_sub, height]
    omega
  refine ⟨flashAddress stm32f0FirmwareNewPosStart + 8 + BitVec.ofNat 32 (4 * 15358), ?_, ?_⟩
  · rw [crcCheck_reads, hlength]
    apply List.mem_append_right
    exact List.mem_map_of_mem (List.mem_range.mpr (by omega))
  · rw [InFirmwareRegions, payload_address (by omega)]
    omega

/-- The value that the CRC is compared with, for a payload of less than a word. -/
theorem crcCheck_short {n : ℕ} (hn : n < 4) (hlength : (tngFirmwareGetLength m).toNat = 8 + n) :
    (tngFirmwareCheckCrc m).1 = true ↔ tngFirmwareGetCrc m = crc32Standard
      (m.bytes (flashAddress stm32f0FirmwareNewPosStart + 8 + BitVec.ofNat 32 (4 - n)) n) := by
  have haligned : (flashAddress stm32f0FirmwareNewPosStart + 8) &&& wordAlignmentMask =
      flashAddress stm32f0FirmwareNewPosStart + 8 := by decide
  have hcount : (tngFirmwareGetLength m - 8).toNat = n := by
    rw [length_sub_eight (by omega)]
    omega
  have hshort := crc32_short m (flashAddress stm32f0FirmwareNewPosStart + 8) 0 hn
  rw [haligned] at hshort
  simp only [tngFirmwareCheckCrc, hcount, crc32Ieee8023, beq_iff_eq, hshort]
  rfl

theorem crcCheck_long (h : 12 ≤ (tngFirmwareGetLength m).toNat) :
    (tngFirmwareCheckCrc m).1 = true ↔
      tngFirmwareGetCrc m = crc32Standard (firmwarePayload m) := by
  have hcount := length_sub_eight (m := m) (by omega)
  have hlong := crc32_long m (flashAddress stm32f0FirmwareNewPosStart + 8) 0
    (show 4 ≤ (tngFirmwareGetLength m - 8).toNat by omega)
  simp only [tngFirmwareCheckCrc, crc32Ieee8023, beq_iff_eq, hlong]
  rw [firmwarePayload, hcount]
  rfl

theorem loadWord_bytes {address : BitVec 32} {bytes : List UInt8} (hbytes : bytes.length = 4) :
    m.loadWord address = word 32 bytes ↔ m.bytes address 4 = bytes := by
  rw [Memory.loadWord_eq]
  constructor
  · intro h
    apply word_injective _ _ h
    · rw [Memory.length_bytes]
    · rw [Memory.length_bytes, hbytes]
  · intro h
    rw [h]

/-- The four bytes that the payload starts with. -/
theorem magic_bytes (hmagic : (tngFirmwareCheckMagicNumber m).1 = true) :
    m.bytes (flashAddress stm32f0FirmwareNewPosStart + 8) 4 = [0xEF, 0xBE, 0xAD, 0xDE] := by
  rw [tngFirmwareCheckMagicNumber, beq_iff_eq] at hmagic
  apply (loadWord_bytes rfl).mp
  exact hmagic.trans (by decide)

/-- The magic number ends with other bytes than it starts with. -/
theorem magic_ends (hmagic : (tngFirmwareCheckMagicNumber m).1 = true) {n : ℕ} (hpos : 0 < n)
    (hn : n < 4) :
    m.bytes (flashAddress stm32f0FirmwareNewPosStart + 8 + BitVec.ofNat 32 (4 - n)) n ≠
      m.bytes (flashAddress stm32f0FirmwareNewPosStart + 8) n := by
  have hword := magic_bytes hmagic
  have hfirst : m.bytes (flashAddress stm32f0FirmwareNewPosStart + 8) n =
      [0xEF, 0xBE, 0xAD, 0xDE].take n := by
    have hadd := Memory.bytes_add m (flashAddress stm32f0FirmwareNewPosStart + 8) n (4 - n)
    rw [Nat.add_sub_cancel' (by omega), hword] at hadd
    rw [hadd, List.take_left' (Memory.length_bytes _ _ _)]
  have hlast : m.bytes (flashAddress stm32f0FirmwareNewPosStart + 8 + BitVec.ofNat 32 (4 - n)) n =
      [0xEF, 0xBE, 0xAD, 0xDE].drop (4 - n) := by
    have hadd := Memory.bytes_add m (flashAddress stm32f0FirmwareNewPosStart + 8) (4 - n) n
    rw [Nat.sub_add_cancel (by omega), hword] at hadd
    rw [hadd, List.drop_left' (Memory.length_bytes _ _ _)]
  have hdiffer : ∀ n < 4, 0 < n → [0xEF, 0xBE, 0xAD, 0xDE].drop (4 - n) ≠
      ([0xEF, 0xBE, 0xAD, 0xDE] : List UInt8).take n := by decide
  rw [hfirst, hlast]
  exact hdiffer n hn hpos

/-- The CRC decides about the payload, from a whole word on. -/
theorem crcCheck_payload (h : 12 ≤ (tngFirmwareGetLength m).toNat ∨
      (tngFirmwareGetLength m).toNat = 8) :
    (tngFirmwareCheckCrc m).1 = true ↔
      tngFirmwareGetCrc m = crc32Standard (firmwarePayload m) := by
  rcases h with hlong | hempty
  · exact crcCheck_long hlong
  · have hpayload : firmwarePayload m = [] := by
      rw [firmwarePayload, hempty]
      rfl
    rw [crcCheck_short (n := 0) (by decide) hempty, hpayload]
    rfl

/-- A check that ends before the CRC has only read preambles. -/
theorem checkAll_early (h : ¬ ((tngFirmwareCheckDeviceIdentifier m).1 = true ∧
      (tngFirmwareCheckMagicNumber m).1 = true ∧ (tngFirmwareCheckLength config m).1 = true))
    {address : BitVec 32} (hread : address ∈ (tngFirmwareCheckAll config m).2) :
    InFirmwareRegions address := by
  apply header_inRegions
  by_cases hdid : (tngFirmwareCheckDeviceIdentifier m).1 = true
  case neg =>
    rw [tngFirmwareCheckAll, if_pos (Bool.eq_false_of_not_eq_true hdid)] at hread
    exact List.mem_append_left _ (List.mem_append_left _ hread)
  by_cases hmagic : (tngFirmwareCheckMagicNumber m).1 = true
  case neg =>
    have hfalse := Bool.eq_false_of_not_eq_true hmagic
    simp only [tngFirmwareCheckAll, hdid, Bool.true_eq_false, if_false, if_pos hfalse] at hread
    exact List.mem_append_left _ hread
  have hlimit : (tngFirmwareCheckLength config m).1 = false := by
    apply Bool.eq_false_of_not_eq_true
    intro hlimit
    exact h ⟨hdid, hmagic, hlimit⟩
  rw [firmwareCheckAll_eq hdid hmagic, if_pos hlimit] at hread
  exact hread

theorem checkAll_reads (hdid : (tngFirmwareCheckDeviceIdentifier m).1 = true)
    (hmagic : (tngFirmwareCheckMagicNumber m).1 = true)
    (hlimit : (tngFirmwareCheckLength config m).1 = true) {address : BitVec 32}
    (h : address ∈ (tngFirmwareCheckAll config m).2) :
    InFirmwareRegions address ∨ address ∈ (tngFirmwareCheckCrc m).2 := by
  rw [firmwareCheckAll_eq hdid hmagic, hlimit] at h
  simp only [Bool.true_eq_false, if_false] at h
  split at h
  all_goals
    rcases List.mem_append.mp h with hfront | hcrc
    · exact .inl (header_inRegions hfront)
    · exact .inr hcrc

theorem crcReads_subset (hdid : (tngFirmwareCheckDeviceIdentifier m).1 = true)
    (hmagic : (tngFirmwareCheckMagicNumber m).1 = true)
    (hlimit : (tngFirmwareCheckLength config m).1 = true) :
    (tngFirmwareCheckCrc m).2 ⊆ (tngFirmwareCheckAll config m).2 := by
  rw [firmwareCheckAll_eq hdid hmagic, hlimit]
  simp only [Bool.true_eq_false, if_false]
  split
  all_goals exact fun _ hread => List.mem_append_right _ hread

theorem checkAll_ok : (tngFirmwareCheckAll config m).1 = .ok ↔
    (tngFirmwareCheckDeviceIdentifier m).1 = true ∧ (tngFirmwareCheckMagicNumber m).1 = true ∧
      (tngFirmwareCheckLength config m).1 = true ∧ (tngFirmwareCheckCrc m).1 = true := by
  simp only [tngFirmwareCheckAll]
  split_ifs with hdid hmagic hlength hcrc
  all_goals simp_all only [Bool.not_eq_false, Bool.false_eq_true, false_and, and_false,
    and_self]

/-- Behind the length check, with a length of at least 8: only the CRC is left. -/
theorem contained_iff_crc (hpage : config.flashPageSize = 1024 ∨ config.flashPageSize = 2048)
    (hdid : (tngFirmwareCheckDeviceIdentifier m).1 = true)
    (hmagic : (tngFirmwareCheckMagicNumber m).1 = true)
    (hlimit : (tngFirmwareCheckLength config m).1 = true)
    (hmin : 8 ≤ (tngFirmwareGetLength m).toNat) :
    FirmwareCheckContained config m ↔ ((tngFirmwareCheckCrc m).1 = true →
      tngFirmwareGetCrc m = crc32Standard (firmwarePayload m)) := by
  have hmax := (firmwareLimit hpage).mp hlimit
  have hcrcReads := crcCheck_inRegions hmin (by omega)
  constructor
  · intro ⟨_, hintact⟩ hcrc
    exact (hintact (checkAll_ok.mpr ⟨hdid, hmagic, hlimit, hcrc⟩)).crc
  · intro h
    refine ⟨fun address haddress => ?_, fun hok => ?_⟩
    · rcases checkAll_reads hdid hmagic hlimit haddress with hheader | hcrc
      · exact hheader
      · exact hcrcReads address hcrc
    · exact ⟨hmin, hmax, hmagic, hdid, h (checkAll_ok.mp hok).2.2.2⟩

/-- **The firmware check.**  It stays in its regions and accepts only what it should
exactly if the stored length is harmless. -/
theorem firmwareCheck_contained (config : TNGConfig) (m : Memory)
    (hpage : config.flashPageSize = 1024 ∨ config.flashPageSize = 2048) :
    FirmwareCheckContained config m ↔ LengthHarmless m := by
  by_cases hdid : (tngFirmwareCheckDeviceIdentifier m).1 = true
  case neg =>
    refine iff_of_true ⟨fun _ => checkAll_early fun h => hdid h.1, fun hok => ?_⟩
      fun h => absurd h hdid
    exact absurd (checkAll_ok.mp hok).1 hdid
  by_cases hmagic : (tngFirmwareCheckMagicNumber m).1 = true
  case neg =>
    refine iff_of_true ⟨fun _ => checkAll_early fun h => hmagic h.2.1, fun hok => ?_⟩
      fun _ h => absurd h hmagic
    exact absurd (checkAll_ok.mp hok).2.1 hmagic
  by_cases hlimit : (tngFirmwareCheckLength config m).1 = true
  case neg =>
    have hlarge : stm32f0FirmwareSize - config.flashPageSize ≤ (tngFirmwareGetLength m).toNat :=
      Nat.not_lt.mp fun h => hlimit ((firmwareLimit hpage).mpr h)
    have hsize : stm32f0FirmwareSize = 61440 := by decide
    refine iff_of_true ⟨fun _ => checkAll_early fun h => hlimit h.2.2, fun hok => ?_⟩
      fun _ _ => ⟨?_, ?_⟩
    · exact absurd (checkAll_ok.mp hok).2.2.1 hlimit
    · omega
    · intro n hn _ hlength
      omega
  rcases Nat.lt_or_ge (tngFirmwareGetLength m).toNat 8 with hshort | hmin
  · -- the length wraps around
    obtain ⟨address, hread, houtside⟩ := crcCheck_escapes hshort
    refine iff_of_false (fun h => ?_) fun h => ?_
    · exact houtside (h.1 address (crcReads_subset hdid hmagic hlimit hread))
    · have hmin := (h hdid hmagic).1
      omega
  rw [contained_iff_crc hpage hdid hmagic hlimit hmin]
  by_cases hword : 12 ≤ (tngFirmwareGetLength m).toNat ∨ (tngFirmwareGetLength m).toNat = 8
  · refine iff_of_true (crcCheck_payload hword).mp fun _ _ => ⟨hmin, fun n hn hpos hlength => ?_⟩
    omega
  -- less than a word
  obtain ⟨n, hlength⟩ : ∃ n, (tngFirmwareGetLength m).toNat = 8 + n := Nat.exists_eq_add_of_le hmin
  have hn : n < 4 := by omega
  have hpos : 0 < n := by omega
  have hpayload : firmwarePayload m = m.bytes (flashAddress stm32f0FirmwareNewPosStart + 8) n := by
    rw [firmwarePayload, hlength, Nat.add_sub_cancel_left]
  rw [crcCheck_short hn hlength]
  constructor
  · intro h _ _
    refine ⟨hmin, fun k _ _ hk => ?_⟩
    obtain rfl : k = n := by omega
    intro hcrc
    have hsame := hcrc.symm.trans (h hcrc)
    rw [hpayload] at hsame
    apply magic_ends hmagic hpos hn
    apply bytesStep_inj crc32_polynomial_msb (c := ~~~0)
    · rw [Memory.length_bytes]
      omega
    · rw [Memory.length_bytes, Memory.length_bytes]
    · exact BitVec.not_inj.mp hsame
  · intro h hcrc
    exact absurd hcrc ((h hdid hmagic).2 n hn hpos hlength)

/-! ### Examples -/

/-- An image at the start of the region, in flash that is erased but for the device
identifier of the running firmware. -/
def flashWith (image did : List UInt8) : Memory := fun address =>
  if stm32f0FirmwareNewPosStart ≤ address.toNat ∧
      address.toNat < stm32f0FirmwareNewPosStart + image.length then
    byteAt image (address.toNat - stm32f0FirmwareNewPosStart)
  else if stm32f0ActiveDeviceIdentifierPosition ≤ address.toNat ∧
      address.toNat < stm32f0ActiveDeviceIdentifierPosition + did.length then
    byteAt did (address.toNat - stm32f0ActiveDeviceIdentifierPosition)
  else 0xFF

/-- A device to build firmwares for. -/
def exampleConfig : TNGConfig where
  deviceIdentifier := 2103
  hardwareVersion := [1, 0, 0]
  firmwareVersion := [2, 0, 0]
  flashPageSize := 2048

/-- CRC, length, magic number and device identifier 2103. -/
def preambleOf (crc : BitVec 32) (length : ℕ) : List UInt8 :=
  littleEndian 4 crc.toNat ++ littleEndian 4 length ++ [0xEF, 0xBE, 0xAD, 0xDE] ++
    littleEndian 4 2103

/-- An image of 16 bytes is accepted. -/
theorem firmwareCheck_contained_image :
    (tngFirmwareCheckAll exampleConfig
        (flashWith (preambleOf 3207630577 16) (littleEndian 4 2103))).1 = .ok ∧
      FirmwareCheckContained exampleConfig
        (flashWith (preambleOf 3207630577 16) (littleEndian 4 2103)) :=
  ⟨by decide +kernel, (firmwareCheck_contained exampleConfig _ (.inr rfl)).mpr (by decide +kernel)⟩

/-- With the length 0 the CRC is taken over words outside of the regions; and the length 9
is accepted with the CRC of the last byte of the magic number, not of its first one. -/
theorem firmwareCheck_escapes :
    (∃ address ∈ (tngFirmwareCheckAll exampleConfig
        (flashWith (preambleOf 0 0) (littleEndian 4 2103))).2, ¬ InFirmwareRegions address) ∧
      (tngFirmwareCheckAll exampleConfig
        (flashWith (preambleOf 3010007134 9) (littleEndian 4 2103))).1 = .ok ∧
      ¬ FirmwareIntact exampleConfig
        (flashWith (preambleOf 3010007134 9) (littleEndian 4 2103)) := by
  refine ⟨?_, by decide +kernel, fun h => ?_⟩
  · have hdid : (tngFirmwareCheckDeviceIdentifier
        (flashWith (preambleOf 0 0) (littleEndian 4 2103))).1 = true := by decide +kernel
    have hmagic : (tngFirmwareCheckMagicNumber
        (flashWith (preambleOf 0 0) (littleEndian 4 2103))).1 = true := by decide +kernel
    have hlimit : (tngFirmwareCheckLength exampleConfig
        (flashWith (preambleOf 0 0) (littleEndian 4 2103))).1 = true := by decide +kernel
    obtain ⟨address, hread, houtside⟩ := crcCheck_escapes
      (m := flashWith (preambleOf 0 0) (littleEndian 4 2103)) (by decide +kernel)
    exact ⟨address, crcReads_subset hdid hmagic hlimit hread, houtside⟩
  · exact absurd h.crc (by decide +kernel)

/-! ### The round trip -/

theorem word_littleEndian (n : ℕ) : word 32 (littleEndian 4 n) = BitVec.ofNat 32 n := by
  have hbyte (k i : ℕ) : (UInt8.ofNat (n / 256 ^ k)).toBitVec.getLsbD i =
      (decide (i < 8) && n.testBit (8 * k + i)) := by
    have hpow : 256 ^ k = 2 ^ (8 * k) := by rw [Nat.pow_mul]
    rw [UInt8.toBitVec_ofNat', BitVec.getLsbD_ofNat, hpow, Nat.testBit_div_two_pow, Nat.add_comm]
  have hbytes : littleEndian 4 n = [UInt8.ofNat (n / 256 ^ 0), UInt8.ofNat (n / 256 ^ 1),
      UInt8.ofNat (n / 256 ^ 2), UInt8.ofNat (n / 256 ^ 3)] := rfl
  rw [hbytes]
  apply BitVec.eq_of_getLsbD_eq
  intro i hi
  -- bit `i` is one of byte `i / 8`
  simp only [word, BitVec.getLsbD_xor, BitVec.getLsbD_setWidth, BitVec.getLsbD_shiftLeft, hbyte,
    BitVec.getLsbD_ofNat]
  grind

/-- A part of a window. -/
theorem Memory.bytes_part {address : BitVec 32} {bytes : List UInt8}
    (h : m.bytes address bytes.length = bytes) {i k : ℕ} (hik : i + k ≤ bytes.length) :
    m.bytes (address + BitVec.ofNat 32 i) k = (bytes.drop i).take k := by
  have hsplit := Memory.bytes_add m address i (bytes.length - i)
  have hrest := Memory.bytes_add m (address + BitVec.ofNat 32 i) k (bytes.length - i - k)
  rw [Nat.add_sub_cancel' (by omega), h] at hsplit
  rw [Nat.add_sub_cancel' (by omega)] at hrest
  rw [hsplit, List.drop_left' (Memory.length_bytes _ _ _), hrest,
    List.take_left' (Memory.length_bytes _ _ _)]

/-- A raw firmware that fits, for the device identifier `did`. -/
structure RawFirmware (config : TNGConfig) (did firmware : List UInt8) : Prop where
  min_le : 16 ≤ firmware.length
  lt_max : firmware.length < stm32f0FirmwareSize - config.flashPageSize
  magic : (firmware.drop 8).take 4 = littleEndian 4 stm32f0MagicNumber.toNat
  did : (firmware.drop 12).take 4 = did

/-- The bytes stand at the start of the region, and the device identifier of the running
firmware is `did`. -/
structure Holds (m : Memory) (bytes did : List UInt8) : Prop where
  image : m.bytes (flashAddress stm32f0FirmwareNewPosStart) bytes.length = bytes
  did : m.bytes (flashAddress stm32f0ActiveDeviceIdentifierPosition) 4 = did

variable {crc : ℕ} {payload did : List UInt8}

/-- An image with the payload. -/
def imageOf (crc : ℕ) (payload : List UInt8) : List UInt8 :=
  littleEndian 4 crc ++ littleEndian 4 (8 + payload.length) ++ payload

theorem length_imageOf (crc : ℕ) (payload : List UInt8) :
    (imageOf crc payload).length = 8 + payload.length := by
  rw [imageOf, List.length_append]
  rfl

theorem getCrc_imageOf (h : Holds m (imageOf crc payload) did) :
    tngFirmwareGetCrc m = BitVec.ofNat 32 crc := by
  have hlength := length_imageOf crc payload
  have hpart := Memory.bytes_part h.image (i := 0) (k := 4) (by omega)
  rw [tngFirmwareGetCrc, ← word_littleEndian]
  apply (loadWord_bytes rfl).mpr
  exact hpart

theorem getLength_imageOf (h : Holds m (imageOf crc payload) did)
    (hsmall : 8 + payload.length < stm32f0FirmwareSize) :
    (tngFirmwareGetLength m).toNat = 8 + payload.length := by
  have hsize : stm32f0FirmwareSize = 61440 := by decide
  have hlength := length_imageOf crc payload
  have hpart := Memory.bytes_part h.image (i := 4) (k := 4) (by omega)
  have hword : tngFirmwareGetLength m = BitVec.ofNat 32 (8 + payload.length) := by
    rw [tngFirmwareGetLength, ← word_littleEndian]
    apply (loadWord_bytes rfl).mpr
    exact hpart
  rw [hword, BitVec.toNat_ofNat]
  omega

theorem payload_imageOf (h : Holds m (imageOf crc payload) did)
    (hsmall : 8 + payload.length < stm32f0FirmwareSize) : firmwarePayload m = payload := by
  have hlength := length_imageOf crc payload
  have hpart := Memory.bytes_part h.image (i := 8) (k := payload.length) (by omega)
  rw [firmwarePayload, getLength_imageOf h hsmall, Nat.add_sub_cancel_left]
  exact hpart.trans (List.take_length)

/-- The CRC tells if a byte has been changed. -/
theorem crc32_set_inj {bytes : List UInt8} {k : ℕ} {b : UInt8} (hk : k < bytes.length)
    (h : crc32Standard bytes = crc32Standard (bytes.set k b)) : bytes[k]? = some b := by
  have hbytes : bytes = bytes.take k ++ bytes[k] :: bytes.drop (k + 1) := by
    rw [List.getElem_cons_drop, List.take_append_drop]
  have hset : bytes.set k b = bytes.take k ++ b :: bytes.drop (k + 1) := by
    rw [List.set_eq_take_append_cons_drop, if_pos hk]
  have hstep := BitVec.not_inj.mp h
  rw [hset] at hstep
  conv_lhs at hstep => rw [hbytes]
  rw [List.getElem?_eq_getElem hk,
    bytesStep_single crc32_polynomial_msb (c := ~~~0) (by decide) hstep]

theorem limit_lt (hpage : config.flashPageSize = 1024 ∨ config.flashPageSize = 2048) :
    stm32f0FirmwareSize - config.flashPageSize < stm32f0FirmwareSize := by
  have hsize : stm32f0FirmwareSize = 61440 := by decide
  omega

/-- Such an image is accepted only with the CRC of its payload. -/
theorem imageOf_ok (hpage : config.flashPageSize = 1024 ∨ config.flashPageSize = 2048)
    (hmin : 8 ≤ payload.length)
    (hmax : 8 + payload.length < stm32f0FirmwareSize - config.flashPageSize)
    (h : Holds m (imageOf crc payload) did) :
    (tngFirmwareCheckAll config m).1 = .ok ↔ payload.take 4 = littleEndian 4 stm32f0MagicNumber.toNat ∧
      (payload.drop 4).take 4 = did ∧ BitVec.ofNat 32 crc = crc32Standard payload := by
  have hlength := length_imageOf crc payload
  have hsmall := Nat.lt_trans hmax (limit_lt hpage)
  have hgetLength := getLength_imageOf h hsmall
  have hmagicPart := Memory.bytes_part h.image (i := 8) (k := 4) (by omega)
  have hdidPart := Memory.bytes_part h.image (i := 12) (k := 4) (by omega)
  have hdid : (tngFirmwareCheckDeviceIdentifier m).1 = true ↔ (payload.drop 4).take 4 = did := by
    rw [tngFirmwareCheckDeviceIdentifier, beq_iff_eq, Memory.loadWord_eq m (flashAddress
      stm32f0ActiveDeviceIdentifierPosition), h.did]
    have hdidLength : did.length = 4 := by rw [← h.did, Memory.length_bytes]
    rw [loadWord_bytes hdidLength]
    exact iff_of_eq (congrArg (· = did) hdidPart)
  have hmagic : (tngFirmwareCheckMagicNumber m).1 = true ↔
      payload.take 4 = littleEndian 4 stm32f0MagicNumber.toNat := by
    have hword : stm32f0MagicNumber = word 32 (littleEndian 4 stm32f0MagicNumber.toNat) := by
      decide +kernel
    rw [tngFirmwareCheckMagicNumber, beq_iff_eq, hword, loadWord_bytes rfl]
    exact iff_of_eq (congrArg (· = _) hmagicPart)
  have hcrc : (tngFirmwareCheckCrc m).1 = true ↔ BitVec.ofNat 32 crc = crc32Standard payload := by
    rw [crcCheck_long (by omega), getCrc_imageOf h, payload_imageOf h hsmall]
  have hlimit : (tngFirmwareCheckLength config m).1 = true := (firmwareLimit hpage).mpr (by omega)
  rw [checkAll_ok, hdid, hmagic, hcrc]
  constructor
  · intro ⟨hd, hm, _, hc⟩
    exact ⟨hm, hd, hc⟩
  · intro ⟨hm, hd, hc⟩
    exact ⟨hd, hm, hlimit, hc⟩

/-- **The round trip.**  What the build program makes of a raw firmware is accepted,
and not with any of the bytes behind the length changed. -/
theorem tngBuild_accepted (config : TNGConfig) (did firmware : List UInt8)
    (hpage : config.flashPageSize = 1024 ∨ config.flashPageSize = 2048)
    (hraw : RawFirmware config did firmware) :
    ∃ image, tngBuild firmware = some image ∧ image.length = firmware.length ∧
      (∀ m, Holds m image did → (tngFirmwareCheckAll config m).1 = .ok) ∧
      ∀ k b, 8 ≤ k → k < image.length → image[k]? ≠ some b →
        ∀ m, Holds m (image.set k b) did → (tngFirmwareCheckAll config m).1 ≠ .ok := by
  have hsize : stm32f0FirmwareSize = 61440 := by decide
  have hmin := hraw.min_le
  have hmax := hraw.lt_max
  have hpayload : (firmware.drop 8).length = firmware.length - 8 := List.length_drop
  have himage : tngBuild firmware =
      some (imageOf (crc32Standard (firmware.drop 8)).toNat (firmware.drop 8)) := by
    have hcrc := (crc32Standard (firmware.drop 8)).isLt
    have hlength : firmware.length < 2 ^ 32 := by omega
    rw [tngBuild, structPackI, if_pos hcrc, structPackI, if_pos hlength, imageOf, hpayload,
      Nat.add_sub_cancel' (by omega)]
    rfl
  refine ⟨_, himage, ?_, fun m h => ?_, fun k b hk hlt hb m h hok => ?_⟩
  · rw [length_imageOf, hpayload]
    omega
  · apply (imageOf_ok hpage (by omega) (by omega) h).mpr
    refine ⟨hraw.magic, ?_, BitVec.ofNat_toNat _ _⟩
    rw [List.drop_drop]
    exact hraw.did
  · -- the CRC is still the one of the firmware
    have hset : (imageOf (crc32Standard (firmware.drop 8)).toNat (firmware.drop 8)).set k b =
        imageOf (crc32Standard (firmware.drop 8)).toNat ((firmware.drop 8).set (k - 8) b) := by
      rw [imageOf, imageOf, List.length_set]
      exact List.set_append_right _ _ hk
    rw [hset] at h
    rw [length_imageOf, hpayload] at hlt
    have hlengthSet : ((firmware.drop 8).set (k - 8) b).length = firmware.length - 8 := by
      rw [List.length_set, hpayload]
    have hcrc := ((imageOf_ok hpage (by omega) (by omega) h).mp hok).2.2
    rw [BitVec.ofNat_toNat, BitVec.setWidth_eq] at hcrc
    have hget : (imageOf (crc32Standard (firmware.drop 8)).toNat (firmware.drop 8))[k]? =
        (firmware.drop 8)[k - 8]? := List.getElem?_append_right hk
    rw [hget] at hb
    apply hb
    exact crc32_set_inj (by omega) hcrc

/-- A firmware of 16 bytes, and its image with byte 13 changed. -/
theorem tngBuild_accepted_image :
    tngBuild (preambleOf 0 0) = some (preambleOf 3207630577 16) ∧
      (tngFirmwareCheckAll exampleConfig
        (flashWith (preambleOf 3207630577 16) (littleEndian 4 2103))).1 = .ok ∧
      (tngFirmwareCheckAll exampleConfig
        (flashWith ((preambleOf 3207630577 16).set 13 9) (littleEndian 4 2103))).1 ≠ .ok := by
  have hbuild : tngBuild (preambleOf 0 0) = some (preambleOf 3207630577 16) := by decide +kernel
  obtain ⟨image, himage, _, haccepted, hrejected⟩ := tngBuild_accepted exampleConfig
    (littleEndian 4 2103) (preambleOf 0 0) (.inr rfl)
    ⟨by decide +kernel, by decide +kernel, by decide +kernel, by decide +kernel⟩
  obtain rfl := Option.some_inj.mp (hbuild.symm.trans himage)
  refine ⟨hbuild, haccepted _ ⟨by decide +kernel, by decide +kernel⟩, ?_⟩
  exact hrejected 13 9 (by decide) (by decide) (by decide +kernel) _
    ⟨by decide +kernel, by decide +kernel⟩

end Bricklib2
