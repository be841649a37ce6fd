/-
Bricklib2/Warp/Wem/LfsCtz.lean

Where the bytes of a file are in littlefs (`lfs_ctz_index` in lfs.c).  A file is a list of
blocks; block `n` begins with a pointer to block `n - 2^x` for every `x` such that `2^x`
divides `n`, and the rest of it is content.  So the blocks hold different numbers of bytes,
and the index of a byte is computed with a formula that has the ones of a number in it.

Main result: `lfsCtzIndex_eq_iff`, for all positions and all block sizes that littlefs
allows the formula gives the block and the place that the layout says, and none of its
steps wraps around in 32 bits.
-/
import Bricklib2.Library.BinaryOnes
import Bricklib2.Warp.Wem.LfsBd

open Finset

namespace Bricklib2

open BinaryOnes

/-! ### The source -/

/-- `lfs_npw2`, with the instruction for leading zeros -/
def lfsNpw2 (a : ℕ) : ℕ := 32 - (BitVec.ofNat 32 a - 1).clz.toNat

/-- `lfs_ctz` -/
def lfsCtz (a : ℕ) : ℕ := (BitVec.ofNat 32 a).ctz.toNat

/-- `lfs_popc` -/
def lfsPopc (a : ℕ) : ℕ := (BitVec.ofNat 32 a).cpop.toNat

/-- `lfs_ctz_index`: the index of the block and, in place of `*off`, the place in it -/
def lfsCtzIndex (blockSize off : ℕ) : ℕ × ℕ :=
  let size := off
  let b := lfsWord (blockSize - 2 * 4)
  let i := size / b
  if i = 0 then (0, off)
  else
    let i := lfsWord (size - 4 * (lfsPopc (i - 1) + 2)) / b
    (i, lfsWord (size - b * i - 4 * lfsPopc i))

theorem lfsPopc_eq {a : ℕ} (h : a < 2 ^ 32) : lfsPopc a = ones a := by
  rw [lfsPopc, toNat_cpop, BitVec.toNat_ofNat, Nat.mod_eq_of_lt h]

theorem lfsCtz_eq {a : ℕ} (h : a < 2 ^ 32) (hpos : 0 < a) : lfsCtz a = trailingZeros a := by
  have hne : BitVec.ofNat 32 a ≠ 0 := by
    intro hzero
    have hnat := congrArg BitVec.toNat hzero
    rw [BitVec.toNat_ofNat, Nat.mod_eq_of_lt h] at hnat
    exact hpos.ne' hnat
  rw [lfsCtz, toNat_ctz hne, BitVec.toNat_ofNat, Nat.mod_eq_of_lt h]

theorem lfsNpw2_eq {a : ℕ} (h : a < 2 ^ 32) (hpos : 0 < a) : lfsNpw2 a = Nat.size (a - 1) := by
  have hsub : (BitVec.ofNat 32 a - 1).toNat = a - 1 := by
    have hone : (1 : BitVec 32) ≤ BitVec.ofNat 32 a := by
      rw [BitVec.le_def, BitVec.toNat_ofNat, Nat.mod_eq_of_lt h]
      exact hpos
    rw [BitVec.toNat_sub_of_le hone, BitVec.toNat_ofNat, Nat.mod_eq_of_lt h]
    rfl
  rw [lfsNpw2, width_sub_clz, hsub]

/-! ### The layout -/

/-- The bytes that the pointers of a block take. -/
def ctzPointers (n : ℕ) : ℕ := if n = 0 then 0 else 4 * (trailingZeros n + 1)

/-- The content in front of a block. -/
def ctzBefore (blockSize n : ℕ) : ℕ := ∑ i ∈ range n, (blockSize - ctzPointers i)

/-- The place of a byte of the file, in block `n` at `o`. -/
structure CtzPlace (blockSize pos n o : ℕ) : Prop where
  content : ctzPointers n ≤ o
  inside : o < blockSize
  pos_eq : pos = ctzBefore blockSize n + (o - ctzPointers n)

variable {blockSize pos n o : ℕ}

theorem ctzPointers_succ (n : ℕ) : ctzPointers (n + 1) = 4 * (trailingZeros (n + 1) + 1) :=
  if_neg n.succ_ne_zero

theorem ctzBefore_succ (blockSize n : ℕ) :
    ctzBefore blockSize (n + 1) = ctzBefore blockSize n + (blockSize - ctzPointers n) :=
  sum_range_succ _ _

theorem ctzBefore_mono (blockSize : ℕ) : Monotone (ctzBefore blockSize) :=
  monotone_nat_of_le_succ fun n => by
    rw [ctzBefore_succ]
    exact Nat.le_add_right _ _

/-- The pointers of the blocks that 32 bits can reach fit into the smallest block. -/
theorem ctzPointers_le (h : n < 2 ^ 26) : ctzPointers n ≤ 108 := by
  rcases n with - | n
  · exact Nat.zero_le _
  · have hzeros := trailingZeros_lt (Nat.add_one_ne_zero n) h
    rw [ctzPointers_succ]
    omega

/-- **The closed form.**  Each block but the first has two pointers on average, and the ones
of the last index are what is missing from that. -/
theorem ctzBefore_eq (hsize : 128 ≤ blockSize) (hn : n < 2 ^ 26) :
    ctzBefore blockSize (n + 1) = (n + 1) * (blockSize - 8) + 8 + 4 * ones n := by
  induction n with
  | zero =>
    rw [ctzBefore_succ, ones_zero]
    show 0 + (blockSize - 0) = _
    omega
  | succ n ih =>
    have hcarry := ones_succ n
    have hfit := ctzPointers_le hn
    rw [ctzPointers_succ] at hfit
    have hmul : (n + 1 + 1) * (blockSize - 8) = (n + 1) * (blockSize - 8) + (blockSize - 8) :=
      Nat.succ_mul _ _
    rw [ctzBefore_succ, ih (by omega), ctzPointers_succ, hmul]
    omega

/-- Later positions are in later blocks. -/
theorem CtzPlace.mono {pos' n' o' : ℕ} (h : CtzPlace blockSize pos n o)
    (h' : CtzPlace blockSize pos' n' o') (hle : pos ≤ pos') : n ≤ n' := by
  by_contra hlt
  have hmono := ctzBefore_mono blockSize (Nat.succ_le_of_lt (not_le.mp hlt))
  have hsucc := ctzBefore_succ blockSize n'
  have hpos := h.pos_eq
  have hpos' := h'.pos_eq
  have hinside := h'.inside
  have hcontent := h'.content
  rw [Nat.succ_eq_add_one] at hmono
  omega

/-- A position has one place. -/
theorem CtzPlace.unique {n' o' : ℕ} (h : CtzPlace blockSize pos n o)
    (h' : CtzPlace blockSize pos n' o') : n = n' ∧ o = o' := by
  obtain rfl : n = n' := le_antisymm (h.mono h' le_rfl) (h'.mono h le_rfl)
  have hpos := h.pos_eq
  have hpos' := h'.pos_eq
  have hcontent := h.content
  have hcontent' := h'.content
  exact ⟨rfl, by omega⟩

theorem lt_ctzBefore (hsize : 128 ≤ blockSize) (hpos : pos < 2 ^ 32) :
    pos < ctzBefore blockSize (2 ^ 26 - 1) := by
  have hform := ctzBefore_eq (n := 2 ^ 26 - 2) hsize (by norm_num)
  have hmul : (2 ^ 26 - 1) * 120 ≤ (2 ^ 26 - 1) * (blockSize - 8) :=
    Nat.mul_le_mul_left _ (by omega)
  rw [show 2 ^ 26 - 2 + 1 = 2 ^ 26 - 1 by norm_num] at hform
  omega

/-- The blocks that 32 bits can reach; there is still a number for the next one. -/
theorem CtzPlace.succ_lt (h : CtzPlace blockSize pos n o) (hsize : 128 ≤ blockSize)
    (hpos : pos < 2 ^ 32) : n + 1 < 2 ^ 26 := by
  by_contra hge
  have hmono := ctzBefore_mono blockSize (show 2 ^ 26 - 1 ≤ n by omega)
  have hlt := lt_ctzBefore hsize hpos
  have hplace := h.pos_eq
  omega

theorem CtzPlace.lt (h : CtzPlace blockSize pos n o) (hsize : 128 ≤ blockSize)
    (hpos : pos < 2 ^ 32) : n < 2 ^ 26 := n.lt_succ_self.trans (h.succ_lt hsize hpos)

/-- Every position has a place. -/
theorem exists_ctzPlace (hsize : 128 ≤ blockSize) (hpos : pos < 2 ^ 32) :
    ∃ n o, CtzPlace blockSize pos n o := by
  have hexists : ∃ n, pos < ctzBefore blockSize (n + 1) :=
    ⟨2 ^ 26 - 2, by
      rw [show 2 ^ 26 - 2 + 1 = 2 ^ 26 - 1 by norm_num]
      exact lt_ctzBefore hsize hpos⟩
  obtain ⟨n, hn, hmin⟩ : ∃ n, pos < ctzBefore blockSize (n + 1) ∧
      ∀ m < n, ¬ pos < ctzBefore blockSize (m + 1) :=
    ⟨Nat.find hexists, Nat.find_spec hexists, fun m hm => Nat.find_min hexists hm⟩
  have hlow : ctzBefore blockSize n ≤ pos := by
    rcases n with - | n
    · exact Nat.zero_le _
    · exact not_lt.mp (hmin n n.lt_succ_self)
  rw [ctzBefore_succ] at hn
  exact ⟨n, ctzPointers n + (pos - ctzBefore blockSize n), Nat.le_add_right _ _, by omega, by omega⟩

/-- The formula after its first division, which may give an index that is too large by one:
the second division is right if the position is in its range. -/
theorem lfsCtzIndex_of_div {b i : ℕ} (hb : 0 < b) (hword : b + 8 < 2 ^ 32) (hpos : pos < 2 ^ 32)
    (hi : pos / b = i + 1) (hlow : n * b + 4 * (ones i + 2) ≤ pos)
    (hhigh : pos < n * b + b + 4 * (ones i + 2)) (ho : pos = n * b + 4 * ones n + o) :
    lfsCtzIndex (b + 8) pos = (n, o) := by
  have hwordB : lfsWord ((b + 8 : ℕ) - 2 * 4) = b := by
    rw [lfsWord]
    omega
  have hle : i + 1 ≤ pos := hi ▸ Nat.div_le_self pos b
  have hn : n ≤ pos := (Nat.le_mul_of_pos_right n hb).trans (by omega)
  have hfirst : lfsWord (pos - 4 * ((ones i : ℕ) + 2)) = pos - 4 * (ones i + 2) := by
    rw [lfsWord]
    omega
  have hdiv : (pos - 4 * (ones i + 2)) / b = n := by
    apply Nat.div_eq_of_lt_le
    · omega
    · rw [add_one_mul]
      omega
  have hlast : lfsWord (pos - (b : ℤ) * n - 4 * (ones n : ℕ)) = o := by
    have hmul : (b : ℤ) * n = ((n * b : ℕ) : ℤ) := by
      rw [Nat.cast_mul]
      ring
    rw [hmul, lfsWord]
    omega
  rw [lfsCtzIndex]
  simp only [hwordB, hi, if_neg (Nat.succ_ne_zero i), Nat.add_sub_cancel]
  rw [lfsPopc_eq (by omega), hfirst, hdiv, lfsPopc_eq (by omega), hlast]

/-- **The formula** finds the place. -/
theorem CtzPlace.lfsCtzIndex_eq (h : CtzPlace blockSize pos n o) (hsize : 128 ≤ blockSize)
    (hword : blockSize < 2 ^ 32) (hpos : pos < 2 ^ 32) : lfsCtzIndex blockSize pos = (n, o) := by
  have hn := h.lt hsize hpos
  obtain ⟨hcontent, hinside, hposEq⟩ := h
  obtain ⟨b, rfl⟩ : ∃ b, blockSize = b + 8 := ⟨blockSize - 8, by omega⟩
  have hbpos : 0 < b := by omega
  rcases n with - | n
  · -- the first block has no pointers
    obtain rfl : pos = o := by
      rw [hposEq]
      show 0 + (o - 0) = o
      omega
    rcases Nat.lt_or_ge pos b with hlt | hge
    · have hb : lfsWord ((b + 8 : ℕ) - 2 * 4) = b := by
        rw [lfsWord]
        omega
      rw [lfsCtzIndex]
      simp only [hb, Nat.div_eq_of_lt hlt, if_true]
    · refine lfsCtzIndex_of_div hbpos hword hpos (i := 0) (Nat.div_eq_of_lt_le ?_ ?_) ?_ ?_ ?_
      · omega
      · omega
      all_goals
        rw [ones_zero]
        omega
  · have hbefore := ctzBefore_eq hsize (show n < 2 ^ 26 by omega)
    have hcarry := ones_succ n
    have hones := ones_le_of_lt hn
    have hfit := ctzPointers_le hn
    rw [ctzPointers_succ] at hcontent hfit hposEq
    rw [hbefore, Nat.add_sub_cancel] at hposEq
    -- the first division gives the index or the one behind it
    rcases Nat.lt_or_ge pos ((n + 1) * b + b) with hlt | hge
    · refine lfsCtzIndex_of_div hbpos hword hpos (i := n) (Nat.div_eq_of_lt_le ?_ ?_) ?_ ?_ ?_
      · omega
      · rw [add_one_mul (n + 1)]
        omega
      all_goals omega
    · refine lfsCtzIndex_of_div hbpos hword hpos (i := n + 1) (Nat.div_eq_of_lt_le ?_ ?_) ?_ ?_ ?_
      · rw [add_one_mul (n + 1)]
        omega
      · rw [add_one_mul (n + 1 + 1), add_one_mul (n + 1)]
        omega
      all_goals omega

/-- The place that the formula finds. -/
theorem ctzPlace_of_eq (h : lfsCtzIndex blockSize pos = (n, o)) (hsize : 128 ≤ blockSize)
    (hword : blockSize < 2 ^ 32) (hpos : pos < 2 ^ 32) : CtzPlace blockSize pos n o := by
  obtain ⟨n', o', hplace⟩ := exists_ctzPlace hsize hpos
  obtain ⟨rfl, rfl⟩ := Prod.mk.inj (h.symm.trans (hplace.lfsCtzIndex_eq hsize hword hpos))
  exact hplace

/-- **Finding the place.**  For every position and every block size that littlefs allows, the
index and the offset are those of the layout, and only those. -/
theorem lfsCtzIndex_eq_iff (hsize : 128 ≤ blockSize) (hword : blockSize < 2 ^ 32)
    (hpos : pos < 2 ^ 32) : lfsCtzIndex blockSize pos = (n, o) ↔ CtzPlace blockSize pos n o := by
  constructor
  · exact fun h => ctzPlace_of_eq h hsize hword hpos
  · exact fun h => h.lfsCtzIndex_eq hsize hword hpos

theorem lfsCtzIndex_eq_iff_sector :
    lfsCtzIndex 512 1020 = (2, 8) ↔ CtzPlace 512 1020 2 8 :=
  lfsCtzIndex_eq_iff (by decide) (by decide) (by decide)

end Bricklib2
