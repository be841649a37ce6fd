/-
Bricklib2/Warp/Wem/LfsCtzList.lean

Following the pointers of a file in littlefs (`lfs_ctz_find` in lfs.c), on top of the caches.
A file whose blocks are known with their pointers is a list of `Library/SkipList`.

Main result: `wp_lfsCtzFind`, the block and the place of any byte of the file are found, with
a number of reads that is logarithmic in the distance.
-/
import Bricklib2.Library.Bytes
import Bricklib2.Library.SkipList
import Bricklib2.Warp.Wem.LfsBdRuns
import Bricklib2.Warp.Wem.LfsCtz

namespace Bricklib2

open BinaryOnes Cells Fallible

/-! ### Pointers -/

/-- `lfs_tole32`, the bytes of a block number -/
def lfsTole32 (n : ℕ) : List UInt8 :=
  [UInt8.ofNat n, UInt8.ofNat (n / 2 ^ 8), UInt8.ofNat (n / 2 ^ 16), UInt8.ofNat (n / 2 ^ 24)]

/-- `lfs_fromle32` -/
def lfsFromle32 (bytes : List UInt8) : ℕ := Bytes.littleEndian bytes

theorem lfsFromle32_lfsTole32 {n : ℕ} (h : n < 2 ^ 32) : lfsFromle32 (lfsTole32 n) = n := by
  simp only [lfsFromle32, lfsTole32, Bytes.littleEndian, List.foldr_cons, List.foldr_nil,
    UInt8.toNat_ofNat']
  omega

/-- Pointer `x` of block `b` is known and leads to block `c`. -/
def LfsBlocks.Points (known : LfsBlocks) (b x c : ℕ) : Prop :=
  c < 2 ^ 32 ∧ ∀ k < 4, known b (4 * x + k) = (lfsTole32 c)[k]?

/-- The blocks of a file: `chain n` is its block `n`. -/
structure LfsCtzList (blockCount : ℕ) (known : LfsBlocks) (chain : ℕ → ℕ) (len : ℕ) : Prop where
  valid : ∀ n < len, LfsBlockValid blockCount (chain n)
  linked : SkipList.Linked known.Points chain len

/-- A read of a known pointer. -/
theorem LfsBlocks.Points.fromle32 {known : LfsBlocks} {b x c : ℕ} {bytes : List UInt8}
    (h : known.Points b x c) (hlen : bytes.length = 4) (hmatches : Matches (known b) (4 * x) bytes) :
    lfsFromle32 bytes = c := by
  have heq : bytes = lfsTole32 c := by
    apply List.ext_getElem?
    intro k
    rcases Nat.lt_or_ge k 4 with hk | hk
    · have hlt : k < (lfsTole32 c).length := hk
      have hknown := h.2 k hk
      rw [List.getElem?_eq_getElem hlt] at hknown ⊢
      exact hmatches k _ hknown (hlen ▸ hk)
    · rw [List.getElem?_eq_none (hlen ▸ hk), List.getElem?_eq_none hk]
  rw [heq, lfsFromle32_lfsTole32 h.1]

/-! ### Reading with the same caches -/

/-- What reads of some blocks need. -/
structure LfsBd.Readable (cfg : LfsConfig) (pcached overlaid : Bool) (known : LfsBlocks)
    (blocks : ℕ → Prop) (s : LfsBd) : Prop where
  ok : s.Ok cfg
  shows : s.Shows overlaid known
  unit : s.pcache.block ≠ lfsBlockNull → cfg.readSize ∣ s.pcache.off
  overlaid : ∀ block, blocks block → s.pcache.block = block → pcached = overlaid

section Reading

variable {cfg : LfsConfig} {blockCount : ℕ} {known : LfsBlocks} {pcached overlaid : Bool}
  {blocks : ℕ → Prop} {hint block off size : ℕ} {s : LfsBd}

theorem LfsBd.Readable.wp_read (h : s.Readable cfg pcached overlaid known blocks)
    (hin : blocks block) (hblock : LfsBlockValid blockCount block) (hhint : 0 < hint)
    (hle : hint ≤ cfg.blockSize) (hrange : off + size ≤ cfg.blockSize) :
    wp (lfsBdRead cfg blockCount pcached hint block off size)
      (fun bytes s' => (bytes.length = size ∧ Matches (known block) off bytes) ∧ s.Read cfg s' ∧
        s'.Readable cfg pcached overlaid known blocks ∧
        s'.disk.calls.length ≤ s.disk.calls.length + size)
      (LfsBd.ReadError cfg s) s := by
  apply wp_mono (wp_lfsBdRead h.ok h.shows hblock hhint hle hrange
    (fun _ hsame => h.unit (hsame ▸ hblock.ne_null)) (h.overlaid block hin))
  · rintro bytes t ⟨hlen, hmatches, hread, hshows, hcalls, -⟩
    refine ⟨⟨hlen, hmatches⟩, hread, ⟨hread.ok, hshows, ?_, ?_⟩, hcalls⟩
    · rw [hread.pcache]
      exact h.unit
    · rw [hread.pcache]
      exact h.overlaid
  · exact fun e t he => he

end Reading

/-! ### The source -/

section Functions

variable (cfg : LfsConfig) (blockCount : ℕ)

/-- A round of the loop in `lfs_ctz_find`, with `head` and `current`. -/
def lfsCtzFindRound (pcached : Bool) (target : ℕ) (l : ℕ × ℕ) :
    Fallible LfsError LfsBd ((ℕ × ℕ) ⊕ ℕ) := do
  let (head, current) := l
  if current ≤ target then
    pure (.inr head)
  else do
    let skip := min (lfsWord (lfsNpw2 (lfsWord (current - target + 1)) - 1)) (lfsCtz current)
    let bytes ← lfsBdRead cfg blockCount pcached 4 head (4 * skip) 4
    pure (.inl (lfsFromle32 bytes, lfsWord (current - 2 ^ skip)))

/-- `lfs_ctz_find` -/
def lfsCtzFind (pcached : Bool) (head size pos : ℕ) : Fallible LfsError LfsBd (ℕ × ℕ) :=
  if size = 0 then
    pure (lfsBlockNull, 0)
  else do
    let current := (lfsCtzIndex cfg.blockSize (lfsWord (size - 1))).1
    let target := lfsCtzIndex cfg.blockSize pos
    let block ← iterate (lfsCtzFindRound cfg blockCount pcached target.1) (head, current)
    pure (block, target.2)

end Functions

/-! ### Finding a block -/

section Find

variable {cfg : LfsConfig} {blockCount : ℕ} {known : LfsBlocks} {pcached overlaid : Bool}
  {chain : ℕ → ℕ} {last size pos n o oLast t : ℕ} {s₀ s : LfsBd}

/-- The blocks of a file up to its last one. -/
def ctzBlocks (chain : ℕ → ℕ) (last : ℕ) (block : ℕ) : Prop := ∃ n ≤ last, chain n = block

theorem size_eq_log_add_one (hn : n ≠ 0) : Nat.size n = Nat.log 2 n + 1 := by
  apply le_antisymm
  · exact Nat.size_le.mpr (Nat.lt_pow_succ_log_self one_lt_two n)
  · exact Nat.lt_size.mpr (Nat.pow_log_le_self 2 hn)

/-- The pointer that is taken is the longest one that does not lead past the target. -/
theorem lfsCtzFind_skip (hlt : t < n) (hn : n < 2 ^ 26) :
    min (lfsWord (lfsNpw2 (lfsWord (n - t + 1)) - 1)) (lfsCtz n) = SkipList.skip n t := by
  have hlog := Nat.log_lt_of_lt_pow (show n - t ≠ 0 by omega) (show n - t < 2 ^ 26 by omega)
  have hcast : (n - t + 1 : ℤ) = ((n - t + 1 : ℕ) : ℤ) := by omega
  have hpred : (Nat.log 2 (n - t) + 1 : ℕ) - (1 : ℤ) = ((Nat.log 2 (n - t) : ℕ) : ℤ) := by omega
  rw [hcast, lfsWord_of_lt (by omega), lfsNpw2_eq (by omega) (by omega), Nat.add_sub_cancel,
    size_eq_log_add_one (by omega), hpred, lfsWord_of_lt (by omega), lfsCtz_eq (by omega) (by omega)]
  rfl

/-- The loop is at a block between the last one and the one it looks for. -/
structure LfsFindProgress (cfg : LfsConfig) (pcached overlaid : Bool) (known : LfsBlocks)
    (chain : ℕ → ℕ) (last n : ℕ) (s₀ : LfsBd) (l : ℕ × ℕ) (s : LfsBd) : Prop where
  head : l.1 = chain l.2
  low : n ≤ l.2
  high : l.2 ≤ last
  read : s₀.Read cfg s
  readable : s.Readable cfg pcached overlaid known (ctzBlocks chain last)
  calls : s.disk.calls.length + 4 * SkipList.hops l.2 n ≤
    s₀.disk.calls.length + 4 * SkipList.hops last n

theorem wp_lfsCtzFindRound {l : ℕ × ℕ} (hlist : LfsCtzList blockCount known chain (last + 1))
    (hlast : last < 2 ^ 26)
    (h : LfsFindProgress cfg pcached overlaid known chain last n s₀ l s) :
    wp (lfsCtzFindRound cfg blockCount pcached n l)
      (fun r s' => r.elim
        (fun l' => LfsFindProgress cfg pcached overlaid known chain last n s₀ l' s' ∧
          SkipList.hops l'.2 n < SkipList.hops l.2 n)
        (fun block => block = chain n ∧
          LfsFindProgress cfg pcached overlaid known chain last n s₀ (chain n, n) s'))
      (LfsBd.ReadError cfg s₀) s := by
  obtain ⟨head, current⟩ := l
  have hhead : head = chain current := h.head
  have hlow : n ≤ current := h.low
  have hhigh : current ≤ last := h.high
  have hcalls : s.disk.calls.length + 4 * SkipList.hops current n ≤ _ := h.calls
  rw [lfsCtzFindRound]
  refine wp_ite (fun hle => ?_) fun hlt => ?_
  · obtain rfl : current = n := le_antisymm hle hlow
    rw [wp_pure]
    exact ⟨hhead, rfl, le_rfl, hhigh, h.read, h.readable, hcalls⟩
  · have hlt : n < current := not_le.mp hlt
    have hskip := SkipList.skip_le (n := current) (t := n)
    have hzeros := trailingZeros_lt (show current ≠ 0 by omega) (show current < 2 ^ 26 by omega)
    have hpoints := hlist.linked current _ (by omega) (by omega) hskip
    have hge := cfg.blockSize_ge
    have hhop := SkipList.le_hop hlt
    have hhop_lt := SkipList.hop_lt hlt
    have hhops := SkipList.hops_hop_lt hlt
    have hpow : 2 ^ SkipList.skip current n ≤ current :=
      (SkipList.two_pow_skip_le hlt).trans (Nat.sub_le _ _)
    have hsub : lfsWord ((current : ℤ) - 2 ^ SkipList.skip current n) = SkipList.hop current n := by
      have hcast : ((current : ℤ) - 2 ^ SkipList.skip current n) = (SkipList.hop current n : ℕ) := by
        rw [SkipList.hop, Nat.cast_sub hpow, Nat.cast_pow]
        rfl
      rw [hcast, lfsWord_of_lt (by omega)]
    rw [lfsCtzFind_skip hlt (by omega), wp_bind, hsub, hhead]
    apply wp_mono (h.readable.wp_read ⟨current, hhigh, rfl⟩ (hlist.valid _ (by omega))
      (by norm_num) (by omega) (by omega))
    · rintro bytes s' ⟨⟨hlen, hmatches⟩, hread, hreadable, hnew⟩
      rw [wp_pure, hpoints.fromle32 hlen hmatches]
      refine ⟨⟨rfl, hhop, by omega, h.read.trans hread, hreadable, ?_⟩, hhops⟩
      show _ + 4 * SkipList.hops (SkipList.hop current n) n ≤ _
      omega
    · exact fun e s' he => ⟨h.read.disk.fails he.1, h.read.trans he.2⟩

/-- **Finding a byte.**  The block and the place in it are those of the layout, and there are
four calls of the device at most for each pointer on the way. -/
theorem wp_lfsCtzFind (hlist : LfsCtzList blockCount known chain (last + 1)) (hsize : size < 2 ^ 32)
    (hlast : CtzPlace cfg.blockSize (size - 1) last oLast) (hpos : pos < size)
    (hplace : CtzPlace cfg.blockSize pos n o)
    (h : s.Readable cfg pcached overlaid known (ctzBlocks chain last)) :
    wp (lfsCtzFind cfg blockCount pcached (chain last) size pos)
      (fun r s' => r = (chain n, o) ∧ s.Read cfg s' ∧
        s'.Readable cfg pcached overlaid known (ctzBlocks chain last) ∧
        s'.disk.calls.length ≤ s.disk.calls.length + 4 * (2 * Nat.log 2 (last - n) + 1))
      (LfsBd.ReadError cfg s) s := by
  have hge := cfg.blockSize_ge
  have hblockSize := cfg.blockSize_le
  have hbound := hlast.lt hge (show size - 1 < 2 ^ 32 by omega)
  have hle := hplace.mono hlast (show pos ≤ size - 1 by omega)
  have hword : lfsWord ((size : ℤ) - 1) = size - 1 := by
    have hcast : (size - 1 : ℤ) = ((size - 1 : ℕ) : ℤ) := by omega
    rw [hcast, lfsWord_of_lt (by omega)]
  rw [lfsCtzFind, if_neg (show size ≠ 0 by omega), hword,
    hlast.lfsCtzIndex_eq hge (by omega) (by omega), hplace.lfsCtzIndex_eq hge (by omega) (by omega),
    wp_bind]
  apply wp_mono (wp_iterate (I := LfsFindProgress cfg pcached overlaid known chain last n s)
    (fun l _ => SkipList.hops l.2 n) (fun l t ht => wp_lfsCtzFindRound hlist hbound ht)
    ⟨rfl, hle, le_rfl, .refl h.ok, h, le_rfl⟩)
  · rintro block t ⟨rfl, ht⟩
    have hcalls := ht.calls
    have hhops := SkipList.hops_le last n
    rw [wp_pure]
    exact ⟨rfl, ht.read, ht.readable, by omega⟩
  · exact fun e t he => he

/-- **Seeking.**  As long as the device works, `lfs_ctz_find` gets to the byte. -/
theorem lfsCtzFind_reaches (hlist : LfsCtzList blockCount known chain (last + 1)) (hsize : size < 2 ^ 32)
    (hlast : CtzPlace cfg.blockSize (size - 1) last oLast) (hpos : pos < size)
    (hplace : CtzPlace cfg.blockSize pos n o) (hworks : s.disk.Works)
    (h : s.Readable cfg pcached overlaid known (ctzBlocks chain last)) :
    ∃ s', Program.Returns (lfsCtzFind cfg blockCount pcached (chain last) size pos).run s
        (.ok (chain n, o), s') ∧
      s'.disk.medium = s.disk.medium ∧ s'.pcache = s.pcache ∧
      s'.disk.calls.length ≤ s.disk.calls.length + 4 * (2 * Nat.log 2 (last - n) + 1) := by
  obtain ⟨r, s', hr, hpost⟩ := wp_lfsCtzFind hlist hsize hlast hpos hplace h
  rcases r with e | r
  · exact absurd hpost.1 hworks.not_fails
  · obtain ⟨rfl, hread, -, hcalls⟩ := hpost
    exact ⟨s', hr, hread.medium, hread.pcache, hcalls⟩

end Find

/-- Three blocks, the last one with pointers to both of the others. -/
def lfsThreeBlocks : LfsBlocks := fun b off =>
  if b = 1 then (lfsTole32 0)[off]? else if b = 2 then (lfsTole32 1 ++ lfsTole32 0)[off]? else none

/-- A device with a list of three blocks. -/
def lfsThreeBlocksBd : LfsBd := { disk := { medium := fun b off => (lfsThreeBlocks b off).getD 0 } }

theorem lfsThreeBlocks_list : LfsCtzList 8 lfsThreeBlocks id (2 + 1) where
  valid n hn := by
    show n < lfsBlockInline ∧ (8 ≠ 0 → n < 8)
    rw [lfsBlockInline]
    omega
  linked n x hpos hn hx := by
    have hlt := trailingZeros_lt hpos.ne' (show n < 2 ^ 2 by omega)
    obtain rfl | rfl : n = 1 ∨ n = 2 := by omega
    · obtain rfl : x = 0 := by
        have hodd : trailingZeros 1 = 0 := trailingZeros_odd 0
        omega
      exact ⟨by decide, by decide⟩
    · obtain rfl | rfl : x = 0 ∨ x = 1 := by omega
      · exact ⟨by decide, by decide⟩
      · exact ⟨by decide, by decide⟩

theorem lfsCtzFind_reaches_start :
    ∃ s', Program.Returns (lfsCtzFind sdLfsConfig 8 false 2 1100 0).run lfsThreeBlocksBd
        (.ok (0, 0), s') ∧
      s'.disk.medium = lfsThreeBlocksBd.disk.medium ∧ s'.pcache = lfsThreeBlocksBd.pcache ∧
      s'.disk.calls.length ≤ 0 + 4 * (2 * Nat.log 2 (2 - 0) + 1) := by
  have hlast : CtzPlace sdLfsConfig.blockSize (1100 - 1) 2 87 :=
    ctzPlace_of_eq (by decide) (by decide) (by decide) (by decide)
  have hplace : CtzPlace sdLfsConfig.blockSize 0 0 0 :=
    ctzPlace_of_eq (by decide) (by decide) (by decide) (by decide)
  exact lfsCtzFind_reaches lfsThreeBlocks_list (by norm_num) hlast (by norm_num) hplace (fun _ _ => rfl)
    ⟨⟨fun h => absurd rfl h, fun _ hcall => absurd hcall List.not_mem_nil⟩,
      ⟨fun _ => rfl, fun _ _ _ hx => by
        show Option.getD _ _ = _
        rw [hx]
        rfl, fun h => absurd rfl h⟩, fun h => absurd rfl h, fun _ _ _ => rfl⟩

end Bricklib2
