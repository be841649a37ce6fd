/-
Bricklib2/Utility/Crc32.lean

The CRC-32 of IEEE 802.3 (crc32.c).  The source walks over aligned words: the
bytes in front of the first word boundary, the whole words, the bytes behind the
last one.  For the first part it shifts the word down and so takes its *last*
bytes, which are the right ones only if the block goes on past the word.  A block
of less than a word is read that way too, wherever in the word it lies.

Main result: `crc32_recalculate`, the value is the one of the bytewise definition
exactly if a block of one to three bytes reads the same at the end of its word.
-/
import Bricklib2.Library.ReflectedCrc

namespace Bricklib2

open ReflectedCrc

/-! ### Memory -/

/-- The content of the 32-bit address space. -/
abbrev Memory := BitVec 32 → UInt8

/-- The bytes from an address on. -/
def Memory.bytes (m : Memory) (address : BitVec 32) (length : ℕ) : List UInt8 :=
  (List.range length).map fun i => m (address + BitVec.ofNat 32 i)

/-- `*(word_t *)address`, little endian -/
def Memory.loadWord (m : Memory) (address : BitVec 32) : BitVec 32 :=
  (m (address + 3)).toBitVec ++ (m (address + 2)).toBitVec ++ (m (address + 1)).toBitVec ++
    (m address).toBitVec

@[simp] theorem Memory.length_bytes (m : Memory) (address : BitVec 32) (length : ℕ) :
    (m.bytes address length).length = length := by
  rw [Memory.bytes, List.length_map, List.length_range]

theorem Memory.bytes_add (m : Memory) (address : BitVec 32) (n k : ℕ) :
    m.bytes address (n + k) = m.bytes address n ++ m.bytes (address + BitVec.ofNat 32 n) k := by
  rw [Memory.bytes, List.range_add, List.map_append, List.map_map]
  refine congrArg _ (List.map_congr_left fun i _ => ?_)
  show m (address + BitVec.ofNat 32 (n + i)) = m (address + BitVec.ofNat 32 n + BitVec.ofNat 32 i)
  rw [BitVec.ofNat_add, BitVec.add_assoc]

theorem Memory.loadWord_eq (m : Memory) (address : BitVec 32) :
    m.loadWord address = word 32 (m.bytes address 4) := by
  have hbytes : m.bytes address 4 =
      [m address, m (address + 1), m (address + 2), m (address + 3)] := by
    show [m (address + 0#32), _, _, _] = _
    rw [BitVec.add_zero]
    rfl
  have hbyte (b : UInt8) {i : ℕ} (hi : 8 ≤ i) : b.toBitVec.getLsbD i = false :=
    BitVec.getLsbD_of_ge _ _ hi
  rw [hbytes]
  apply BitVec.eq_of_getLsbD_eq
  intro i hi
  -- bit `i` is one of byte `i / 8`
  simp only [loadWord, word, BitVec.getLsbD_append, BitVec.getLsbD_xor, BitVec.getLsbD_setWidth,
    BitVec.getLsbD_shiftLeft]
  grind

/-! ### The source -/

/-- `CRC32_IEEE_802_3_POLYNOMIAL` -/
def crc32Ieee8023Polynomial : BitVec 32 := 0xEDB88320

/-- The bytes of a word. -/
def wordSize : ℕ := 4

/-- `WORD_ALIGNMENT_MASK` -/
def wordAlignmentMask : BitVec 32 := ~~~(BitVec.ofNat 32 wordSize - 1)

/-- `_crc32_ieee_802_3_recalculate_bytes_helper` -/
def crc32RecalculateBytesHelper (data crc : BitVec 32) (bytes : ℕ) : BitVec 32 :=
  bitSteps crc32Ieee8023Polynomial (8 * bytes) (crc ^^^ data)

/-- The local variables of `crc32_ieee_802_3_recalculate`, and the addresses of the
words that it has read. -/
structure Crc32Pass where
  wordPtr : BitVec 32
  length : ℕ
  crc : BitVec 32
  reads : List (BitVec 32)

/-- Initial bytes to get word-aligned. -/
def crc32Head (m : Memory) (data : BitVec 32) (p : Crc32Pass) : Crc32Pass :=
  let tempLength :=
    if p.length < wordSize then p.length
    else (~~~wordAlignmentMask &&& (BitVec.ofNat 32 wordSize - data)).toNat
  if tempLength ≠ 0 then
    let word := m.loadWord p.wordPtr >>> (8 * (wordSize - tempLength))
    { wordPtr := p.wordPtr + BitVec.ofNat 32 wordSize
      length := p.length - tempLength
      crc := crc32RecalculateBytesHelper word p.crc tempLength
      reads := p.reads ++ [p.wordPtr] }
  else
    p

/-- `while(temp_length--)` -/
def crc32Words (m : Memory) : (tempLength : ℕ) → Crc32Pass → Crc32Pass
  | 0, p => p
  | tempLength + 1, p => crc32Words m tempLength { p with
      wordPtr := p.wordPtr + BitVec.ofNat 32 wordSize
      crc := crc32RecalculateBytesHelper (m.loadWord p.wordPtr) p.crc wordSize
      reads := p.reads ++ [p.wordPtr] }

/-- Whole words, if any. -/
def crc32Body (m : Memory) (p : Crc32Pass) : Crc32Pass :=
  let tempLength := p.length / wordSize * wordSize
  crc32Words m (tempLength / wordSize) { p with length := p.length - tempLength }

/-- Tailing bytes. -/
def crc32Tail (m : Memory) (p : Crc32Pass) : Crc32Pass :=
  if p.length ≠ 0 then
    let word := m.loadWord p.wordPtr &&& BitVec.allOnes 32 >>> (8 * (wordSize - p.length))
    { p with
      crc := crc32RecalculateBytesHelper word p.crc p.length
      reads := p.reads ++ [p.wordPtr] }
  else
    p

/-- `crc32_ieee_802_3_recalculate`: the new CRC and the words that have been read. -/
def crc32Ieee8023Recalculate (m : Memory) (data : BitVec 32) (length : ℕ) (crc : BitVec 32) :
    BitVec 32 × List (BitVec 32) :=
  let p : Crc32Pass := ⟨data &&& wordAlignmentMask, length, ~~~crc, []⟩
  let p := crc32Tail m (crc32Body m (crc32Head m data p))
  (~~~p.crc, p.reads)

/-- The checksum of a block, with the addresses that are read for it. -/
def crc32Ieee8023 (m : Memory) (data : BitVec 32) (length : ℕ) : BitVec 32 × List (BitVec 32) :=
  crc32Ieee8023Recalculate m data length 0

/-! ### The definition of the standard -/

/-- Go on with the CRC-32 of IEEE 802.3, byte by byte. -/
def crc32Continue (crc : BitVec 32) (bytes : List UInt8) : BitVec 32 :=
  ~~~bytesStep crc32Ieee8023Polynomial (~~~crc) bytes

/-- The CRC-32 of a byte list. -/
def crc32Standard (bytes : List UInt8) : BitVec 32 := crc32Continue 0 bytes

/-- The check value of the standard. -/
example : crc32Standard [0x31, 0x32, 0x33, 0x34, 0x35, 0x36, 0x37, 0x38, 0x39] = 0xCBF43926 := by
  decide +kernel

theorem crc32Continue_append (crc : BitVec 32) (xs ys : List UInt8) :
    crc32Continue crc (xs ++ ys) = crc32Continue (crc32Continue crc xs) ys := by
  rw [crc32Continue, bytesStep_append, crc32Continue, crc32Continue, BitVec.not_not]

/-! ### Parts of a word -/

variable {m : Memory} {data address crc : BitVec 32} {length bytes : ℕ}

/-- The last bytes of a word. -/
theorem helper_last (m : Memory) (address crc : BitVec 32) (h : bytes ≤ 4) :
    crc32RecalculateBytesHelper (m.loadWord address >>> (8 * (wordSize - bytes))) crc bytes =
      bytesStep crc32Ieee8023Polynomial crc
        (m.bytes (address + BitVec.ofNat 32 (4 - bytes)) bytes) := by
  have hsplit : m.bytes address 4 = m.bytes address (4 - bytes) ++
      m.bytes (address + BitVec.ofNat 32 (4 - bytes)) bytes := by
    rw [← Memory.bytes_add, Nat.sub_add_cancel h]
  have hword : m.loadWord address >>> (8 * (wordSize - bytes)) =
      word 32 (m.bytes (address + BitVec.ofNat 32 (4 - bytes)) bytes) := by
    rw [Memory.loadWord_eq, hsplit]
    have hshift := word_shiftRight (w := 32) (m.bytes address (4 - bytes))
      (m.bytes (address + BitVec.ofNat 32 (4 - bytes)) bytes)
    rw [Memory.length_bytes, Memory.length_bytes] at hshift
    exact hshift (by omega)
  have hbits := bitSteps_word crc32Ieee8023Polynomial crc
    (m.bytes (address + BitVec.ofNat 32 (4 - bytes)) bytes)
  rw [Memory.length_bytes] at hbits
  rw [crc32RecalculateBytesHelper, hword, hbits (by omega)]

/-- The first bytes of a word. -/
theorem helper_first (m : Memory) (address crc : BitVec 32) (h : bytes ≤ 4) :
    crc32RecalculateBytesHelper
        (m.loadWord address &&& BitVec.allOnes 32 >>> (8 * (wordSize - bytes))) crc bytes =
      bytesStep crc32Ieee8023Polynomial crc (m.bytes address bytes) := by
  have hsplit : m.bytes address 4 = m.bytes address bytes ++
      m.bytes (address + BitVec.ofNat 32 bytes) (4 - bytes) := by
    rw [← Memory.bytes_add, Nat.add_sub_cancel' h]
  have hword : m.loadWord address &&& BitVec.allOnes 32 >>> (8 * (wordSize - bytes)) =
      word 32 (m.bytes address bytes) := by
    have hmask := word_mask (w := 32) (m.bytes address bytes)
      (m.bytes (address + BitVec.ofNat 32 bytes) (4 - bytes))
    rw [Memory.length_bytes] at hmask
    have hbits : 8 * (wordSize - bytes) = 32 - 8 * bytes := by
      show 8 * (4 - bytes) = _
      omega
    rw [Memory.loadWord_eq, hsplit, hbits, hmask]
  have hbits := bitSteps_word crc32Ieee8023Polynomial crc (m.bytes address bytes)
  rw [Memory.length_bytes] at hbits
  rw [crc32RecalculateBytesHelper, hword, hbits (by omega)]

theorem helper_word (m : Memory) (address crc : BitVec 32) :
    crc32RecalculateBytesHelper (m.loadWord address) crc wordSize =
      bytesStep crc32Ieee8023Polynomial crc (m.bytes address 4) := by
  have hlast := helper_last m address crc (le_refl 4)
  rwa [BitVec.add_zero] at hlast

/-! ### Alignment -/

theorem align_toNat (data : BitVec 32) :
    (data &&& wordAlignmentMask).toNat = data.toNat / 4 * 4 := by
  have hmask : data &&& wordAlignmentMask = (data >>> 2) <<< 2 := by
    apply BitVec.eq_of_getLsbD_eq
    intro i hi
    have hbit : ∀ i < 32, wordAlignmentMask.getLsbD i = decide (2 ≤ i) := by decide
    rw [BitVec.getLsbD_and, hbit i hi, BitVec.getLsbD_shiftLeft, BitVec.getLsbD_ushiftRight]
    grind
  rw [hmask, BitVec.toNat_shiftLeft, BitVec.toNat_ushiftRight, Nat.shiftLeft_eq,
    Nat.shiftRight_eq_div_pow]
  have hdata := data.isLt
  exact Nat.mod_eq_of_lt (by omega)

/-- The distance from the start of the word. -/
theorem align_add (data : BitVec 32) :
    (data &&& wordAlignmentMask) + BitVec.ofNat 32 (data.toNat % 4) = data := by
  apply BitVec.eq_of_toNat_eq
  rw [BitVec.toNat_add, align_toNat, BitVec.toNat_ofNat]
  have hdata := data.isLt
  omega

/-- The number of bytes up to the next word. -/
theorem toAlign_eq (data : BitVec 32) :
    (~~~wordAlignmentMask &&& (BitVec.ofNat 32 wordSize - data)).toNat =
      (4 - data.toNat % 4) % 4 := by
  have hmask : (~~~wordAlignmentMask).toNat = 2 ^ 2 - 1 := by decide
  have hsize : (BitVec.ofNat 32 wordSize).toNat = 4 := rfl
  have hdata := data.isLt
  rw [BitVec.toNat_and, hmask, Nat.and_comm, Nat.and_two_pow_sub_one_eq_mod, BitVec.toNat_sub,
    hsize]
  omega

/-! ### The three parts -/

theorem crc32Words_eq (m : Memory) (n : ℕ) (p : Crc32Pass) :
    crc32Words m n p = { p with
      wordPtr := p.wordPtr + BitVec.ofNat 32 (4 * n)
      crc := bytesStep crc32Ieee8023Polynomial p.crc (m.bytes p.wordPtr (4 * n))
      reads := p.reads ++ (List.range n).map fun i => p.wordPtr + BitVec.ofNat 32 (4 * i) } := by
  induction n generalizing p with
  | zero =>
    show p = { p with wordPtr := p.wordPtr + 0#32, reads := p.reads ++ [] }
    rw [BitVec.add_zero, List.append_nil]
  | succ n ih =>
    have hptr (i : ℕ) : p.wordPtr + BitVec.ofNat 32 wordSize + BitVec.ofNat 32 (4 * i) =
        p.wordPtr + BitVec.ofNat 32 (4 * (i + 1)) := by
      rw [Nat.mul_add, Nat.add_comm (4 * i), BitVec.ofNat_add, BitVec.add_assoc]
      rfl
    have hbytes : m.bytes p.wordPtr (4 * (n + 1)) = m.bytes p.wordPtr 4 ++
        m.bytes (p.wordPtr + BitVec.ofNat 32 wordSize) (4 * n) := by
      rw [Nat.mul_add, Nat.add_comm, Memory.bytes_add]
      rfl
    have hreads : (List.range (n + 1)).map (fun i => p.wordPtr + BitVec.ofNat 32 (4 * i)) =
        p.wordPtr :: (List.range n).map fun i => p.wordPtr + BitVec.ofNat 32 (4 * (i + 1)) := by
      rw [List.range_succ_eq_map, List.map_cons, List.map_map, Nat.mul_zero, BitVec.add_zero]
      rfl
    rw [crc32Words, ih]
    simp only [hptr, helper_word, hbytes, bytesStep_append, hreads, List.append_assoc,
      List.singleton_append]

/-- From a word boundary on, every byte is taken. -/
theorem crc32Tail_body (m : Memory) (p : Crc32Pass) :
    (crc32Tail m (crc32Body m p)).crc =
        bytesStep crc32Ieee8023Polynomial p.crc (m.bytes p.wordPtr p.length) ∧
      (crc32Tail m (crc32Body m p)).reads = p.reads ++
        (List.range ((p.length + 3) / 4)).map fun i => p.wordPtr + BitVec.ofNat 32 (4 * i) := by
  have hwords : p.length / wordSize * wordSize / wordSize = p.length / 4 :=
    Nat.mul_div_cancel _ (by decide)
  have hrest : p.length - p.length / wordSize * wordSize = p.length % 4 := by
    show p.length - p.length / 4 * 4 = _
    omega
  have hbytes : m.bytes p.wordPtr p.length = m.bytes p.wordPtr (4 * (p.length / 4)) ++
      m.bytes (p.wordPtr + BitVec.ofNat 32 (4 * (p.length / 4))) (p.length % 4) := by
    rw [← Memory.bytes_add, Nat.div_add_mod]
  simp only [crc32Body, hwords, hrest, crc32Words_eq, crc32Tail]
  split
  · rename_i htail
    have hcount : (p.length + 3) / 4 = p.length / 4 + 1 := by omega
    rw [helper_first m _ _ (by omega), hbytes, bytesStep_append, hcount, List.range_succ,
      List.map_append, List.append_assoc]
    exact ⟨rfl, rfl⟩
  · rename_i htail
    have hzero : p.length % 4 = 0 := not_not.mp htail
    have hcount : (p.length + 3) / 4 = p.length / 4 := by omega
    rw [hbytes, hzero, bytesStep_append, hcount]
    exact ⟨rfl, rfl⟩

/-- A block of a word or more, from any address on. -/
theorem crc32_long (m : Memory) (data crc : BitVec 32) (h : 4 ≤ length) :
    (crc32Ieee8023Recalculate m data length crc).1 = crc32Continue crc (m.bytes data length) := by
  have hlength : ¬ length < wordSize := Nat.not_lt.mpr h
  have hdata := data.isLt
  rw [crc32Ieee8023Recalculate, crc32Continue]
  refine congrArg (fun c : BitVec 32 => ~~~c) ?_
  rw [(crc32Tail_body m _).1, crc32Head]
  simp only [if_neg hlength, toAlign_eq]
  split
  · rename_i hhead
    -- the first bytes end at the word boundary
    have hfirst : (data &&& wordAlignmentMask) +
        BitVec.ofNat 32 (4 - (4 - data.toNat % 4) % 4) = data := by
      have hdist : 4 - (4 - data.toNat % 4) % 4 = data.toNat % 4 := by omega
      rw [hdist, align_add]
    have hptr : (data &&& wordAlignmentMask) + BitVec.ofNat 32 wordSize =
        data + BitVec.ofNat 32 ((4 - data.toNat % 4) % 4) := by
      have hsize : wordSize = 4 - (4 - data.toNat % 4) % 4 + (4 - data.toNat % 4) % 4 := by
        show 4 = _
        omega
      conv_lhs => rw [hsize, BitVec.ofNat_add, ← BitVec.add_assoc, hfirst]
    rw [helper_last m _ _ (by omega), hfirst, hptr, ← bytesStep_append, ← Memory.bytes_add,
      Nat.add_sub_cancel' (by omega)]
  · rename_i hhead
    have hmod : data.toNat % 4 = 0 := by omega
    have haligned := align_add data
    rw [hmod, BitVec.add_zero] at haligned
    rw [haligned]

/-- Each word from the first one on is read once. -/
theorem crc32_reads_aligned (m : Memory) (crc : BitVec 32) (length : ℕ)
    (h : data.toNat % 4 = 0) :
    (crc32Ieee8023Recalculate m data length crc).2 =
      (List.range ((length + 3) / 4)).map fun i => data + BitVec.ofNat 32 (4 * i) := by
  have haligned := align_add data
  rw [h, BitVec.add_zero] at haligned
  rw [crc32Ieee8023Recalculate, (crc32Tail_body m _).2, crc32Head, toAlign_eq, h, haligned]
  simp only
  split_ifs with hshort hhead hhead
  · -- one word, and nothing is left
    have hcount : (length + 3) / 4 = 1 := by
      have hlt : length < 4 := hshort
      omega
    rw [hcount, Nat.sub_self]
    show [data] ++ (List.range ((0 + 3) / 4)).map _ = [data + 0#32]
    rw [BitVec.add_zero]
    rfl
  · rfl
  · exact absurd rfl hhead
  · rfl

/-- A block of less than a word: the last bytes of the word that it starts in. -/
theorem crc32_short (m : Memory) (data crc : BitVec 32) (h : length < 4) :
    (crc32Ieee8023Recalculate m data length crc).1 = crc32Continue crc
      (m.bytes ((data &&& wordAlignmentMask) + BitVec.ofNat 32 (4 - length)) length) := by
  have hlength : length < wordSize := h
  rw [crc32Ieee8023Recalculate, crc32Continue]
  refine congrArg (fun c : BitVec 32 => ~~~c) ?_
  rw [(crc32Tail_body m _).1, crc32Head]
  simp only [if_pos hlength]
  split
  · rw [helper_last m _ _ (Nat.le_of_lt h), Nat.sub_self]
    rfl
  · rename_i hzero
    obtain rfl := not_not.mp hzero
    rfl

/-! ### Correctness -/

theorem crc32_polynomial_msb : crc32Ieee8023Polynomial.msb = true := by decide

/-- A block of one to three bytes reads the same at the end of the word that it
starts in.  It does if it lies there. -/
def ReadAtWordEnd (m : Memory) (data : BitVec 32) (length : ℕ) : Prop :=
  0 < length → length < 4 →
    m.bytes ((data &&& wordAlignmentMask) + BitVec.ofNat 32 (4 - length)) length =
      m.bytes data length

instance (m : Memory) (data : BitVec 32) (length : ℕ) : Decidable (ReadAtWordEnd m data length) :=
  inferInstanceAs (Decidable (_ → _ → _))

theorem crc32_iff (m : Memory) (data crc : BitVec 32) (length : ℕ) :
    (crc32Ieee8023Recalculate m data length crc).1 = crc32Continue crc (m.bytes data length) ↔
      ReadAtWordEnd m data length := by
  rcases Nat.lt_or_ge length 4 with hshort | hlong
  · rw [crc32_short m data crc hshort]
    constructor
    · intro h _ _
      apply bytesStep_inj crc32_polynomial_msb (c := ~~~crc)
      · rw [Memory.length_bytes]
        omega
      · rw [Memory.length_bytes, Memory.length_bytes]
      · exact BitVec.not_inj.mp h
    · intro h
      rcases Nat.eq_zero_or_pos length with rfl | hpos
      · rfl
      · rw [h hpos hshort]
  · exact iff_of_true (crc32_long m data crc hlong) fun _ hshort => absurd hlong (by omega)

/-- **CRC-32.**  The words give the bytewise CRC-32 exactly if a block of less than a
word reads the same at the end of its word; and then a CRC can be taken in pieces. -/
theorem crc32_recalculate (m m' : Memory) :
    (∀ data length crc,
      (crc32Ieee8023Recalculate m data length crc).1 = crc32Continue crc (m.bytes data length) ↔
        ReadAtWordEnd m data length) ∧
      ∀ a n b k, ReadAtWordEnd m a n → ReadAtWordEnd m' b k →
        (crc32Ieee8023Recalculate m' b k (crc32Ieee8023 m a n).1).1 =
          crc32Standard (m.bytes a n ++ m'.bytes b k) := by
  refine ⟨fun data length crc => crc32_iff m data crc length, fun a n b k ha hb => ?_⟩
  have hfirst : (crc32Ieee8023 m a n).1 = crc32Standard (m.bytes a n) :=
    (crc32_iff m a 0 n).mpr ha
  rw [(crc32_iff m' b _ k).mpr hb, hfirst, crc32Standard, crc32Standard, crc32Continue_append]

/-- The digits 0 to 9, over and over. -/
def digitMemory : Memory := fun address => UInt8.ofNat (0x30 + address.toNat % 10)

/-- "123", which ends at a word boundary, and "4567890" behind it. -/
theorem crc32_recalculate_digits :
    (crc32Ieee8023Recalculate digitMemory 4 7 (crc32Ieee8023 digitMemory 1 3).1).1 =
      crc32Standard [0x31, 0x32, 0x33, 0x34, 0x35, 0x36, 0x37, 0x38, 0x39, 0x30] :=
  (crc32_recalculate digitMemory digitMemory).2 1 3 4 7 (by decide) (by decide)

/-- The CRC of the one byte "0" at address 0 is that of the byte "3" at address 3. -/
theorem crc32_recalculate_single :
    digitMemory.bytes 0 1 = [0x30] ∧
      (crc32Ieee8023 digitMemory 0 1).1 = crc32Standard [0x33] ∧
      (crc32Ieee8023 digitMemory 0 1).1 ≠ crc32Standard (digitMemory.bytes 0 1) := by
  refine ⟨by decide, by decide +kernel, by decide +kernel⟩

end Bricklib2
