/-
Bricklib2/Warp/Wem/LfsBd.lean

The block device layer of littlefs (lfs.c, from `lfs_cache_drop` to `lfs_bd_erase`):
a read cache and a program cache in front of the functions of `struct lfs_config`.  The
caller chooses which caches these are, so they are part of the state here, and whether a
read looks into the program cache.

The device may report an error at any call; then a read has put anything into the buffer
and a program anything onto the medium, and so does an erase in any case.
-/
import Bricklib2.Library.Cells
import Bricklib2.Library.Fallible

namespace Bricklib2

open Cells Fallible

/-! ### Data -/

/-- The value of a `lfs_size_t`, `lfs_off_t` or `lfs_block_t`: 32 bits, no sign. -/
def lfsWord (x : ℤ) : ℕ := (x % 2 ^ 32).toNat

theorem lfsWord_of_lt {n : ℕ} (h : n < 2 ^ 32) : lfsWord n = n := by
  rw [lfsWord]
  omega

/-- `LFS_BLOCK_NULL` -/
def lfsBlockNull : ℕ := 2 ^ 32 - 1

/-- `LFS_BLOCK_INLINE` -/
def lfsBlockInline : ℕ := 2 ^ 32 - 2

/-- `enum lfs_error` without `LFS_ERR_OK` -/
inductive LfsError
  | io
  | corrupt
  | noent
  | exist
  | notdir
  | isdir
  | notempty
  | badf
  | fbig
  | inval
  | nospc
  | nomem
  | noattr
  | nametoolong
  deriving DecidableEq, Repr

/-- The sizes in `struct lfs_config`, with what `lfs_init` asserts about them.  Blocks are
small enough for the sums of an offset and two sizes. -/
structure LfsConfig where
  readSize : ℕ
  progSize : ℕ
  blockSize : ℕ
  cacheSize : ℕ
  readSize_pos : 0 < readSize
  progSize_pos : 0 < progSize
  cacheSize_pos : 0 < cacheSize
  read_dvd_cache : readSize ∣ cacheSize
  prog_dvd_cache : progSize ∣ cacheSize
  cache_dvd_block : cacheSize ∣ blockSize
  blockSize_ge : 128 ≤ blockSize
  blockSize_le : blockSize ≤ 2 ^ 30

/-- `lfs_cache_t`; `buffer` has `cacheSize` cells. -/
structure LfsCache where
  block : ℕ := lfsBlockNull
  off : ℕ := 0
  size : ℕ := 0
  buffer : ℕ → UInt8 := fun _ => 0xff

/-- The functions of `struct lfs_config` -/
inductive LfsDiskOp
  | read
  | prog
  | erase
  | sync
  deriving DecidableEq, Repr

/-- A call of the driver. -/
structure LfsDiskCall where
  op : LfsDiskOp
  block : ℕ := 0
  off : ℕ := 0
  size : ℕ := 0
  deriving DecidableEq, Repr

/-- The device: what the blocks hold, the error that each call is going to report, what a
failed call leaves behind, and the calls so far with the newest in front. -/
structure LfsDisk where
  medium : ℕ → ℕ → UInt8
  faults : ℕ → Option LfsError := fun _ => none
  junk : ℕ → ℕ → UInt8 := fun _ _ => 0
  calls : List LfsDiskCall := []

/-- What the functions of this layer work on. -/
structure LfsBd where
  pcache : LfsCache := {}
  rcache : LfsCache := {}
  disk : LfsDisk

/-! ### The device -/

namespace LfsDisk

/-- The error that the next call reports. -/
def fault (d : LfsDisk) : Option LfsError := d.faults d.calls.length

/-- The device with a call in its record. -/
def record (d : LfsDisk) (call : LfsDiskCall) : LfsDisk := { d with calls := call :: d.calls }

/-- What the next call puts into the buffer if it is a read. -/
def answer (d : LfsDisk) (block : ℕ) : ℕ → UInt8 :=
  if d.fault.isSome then d.junk d.calls.length else d.medium block

/-- The block after a program of `data`. -/
def programmed (d : LfsDisk) (block off : ℕ) (data : List UInt8) : ℕ → UInt8 :=
  store (d.medium block) off
    (if d.fault.isSome then load (d.junk d.calls.length) off data.length else data)

/-- The device after a program. -/
def afterProg (d : LfsDisk) (block off : ℕ) (data : List UInt8) : LfsDisk :=
  { d.record ⟨.prog, block, off, data.length⟩ with
    medium := Function.update d.medium block (d.programmed block off data) }

/-- The device after an erase: what the block holds is not known. -/
def afterErase (d : LfsDisk) (block : ℕ) : LfsDisk :=
  { d.record ⟨.erase, block, 0, 0⟩ with
    medium := Function.update d.medium block (d.junk d.calls.length) }

end LfsDisk

/-! ### Small functions -/

/-- `lfs_aligndown` -/
def lfsAligndown (a alignment : ℕ) : ℕ := a - a % alignment

/-- `lfs_alignup` -/
def lfsAlignup (a alignment : ℕ) : ℕ := lfsAligndown (lfsWord (a + alignment - 1)) alignment

/-- `lfs_cache_drop` -/
def LfsCache.drop (c : LfsCache) : LfsCache := { c with block := lfsBlockNull }

/-- `lfs_cache_zero` -/
def LfsCache.zero (c : LfsCache) : LfsCache :=
  { c with block := lfsBlockNull, buffer := fun _ => 0xff }

/-- Some of the bytes from `off` on are in the cache. -/
def LfsCache.ahead (c : LfsCache) (block off : ℕ) : Prop := block = c.block ∧ off < c.off + c.size

instance (c : LfsCache) (block off : ℕ) : Decidable (c.ahead block off) :=
  inferInstanceAs (Decidable (_ ∧ _))

/-- The bytes of the cache from `off` on, `size` of them at most. -/
def LfsCache.copy (c : LfsCache) (off size : ℕ) : List UInt8 :=
  load c.buffer (off - c.off) (min size (c.size - (off - c.off)))

section Functions

variable (cfg : LfsConfig) (blockCount : ℕ)

/-! ### Reading -/

/-- The local variables of `lfs_bd_read`: what was read, and what is still to be read. -/
structure LfsReadLocals where
  data : List UInt8 := []
  off : ℕ
  size : ℕ

/-- The locals after some bytes were read. -/
def LfsReadLocals.advance (l : LfsReadLocals) (bytes : List UInt8) : LfsReadLocals :=
  { data := l.data ++ bytes, off := l.off + bytes.length, size := l.size - bytes.length }

/-- `bypass cache?` -/
def lfsBdReadBypass (block off diff : ℕ) : Fallible LfsError LfsBd (List UInt8) := do
  let s ← get
  modify fun s => { s with disk := s.disk.record ⟨.read, block, off, diff⟩ }
  check s.disk.fault
  pure (load (s.disk.answer block) off diff)

/-- The cache that is loaded with the bytes from `off` on. -/
def lfsBdReadTarget (hint block off : ℕ) (buffer : ℕ → UInt8) : LfsCache :=
  { block := block
    off := lfsAligndown off cfg.readSize
    size :=
      min (min (lfsAlignup (lfsWord (off + hint)) cfg.readSize) cfg.blockSize
        - lfsAligndown off cfg.readSize) cfg.cacheSize
    buffer := buffer }

/-- `load to cache` -/
def lfsBdReadLoad (hint block off : ℕ) : Fallible LfsError LfsBd Unit := do
  let s ← get
  let target := lfsBdReadTarget cfg hint block off s.rcache.buffer
  modify fun s =>
    { s with
      rcache :=
        { target with
          buffer :=
            store s.rcache.buffer 0 (load (s.disk.answer block) target.off target.size) }
      disk := s.disk.record ⟨.read, block, target.off, target.size⟩ }
  check s.disk.fault

/-- How many bytes may be taken from elsewhere: what is in a cache further on goes first. -/
def LfsCache.limit (c : LfsCache) (block off diff : ℕ) : ℕ :=
  if c.ahead block off then min diff (c.off - off) else diff

/-- A round of the loop in `lfs_bd_read`; `pcached` says that `pcache` is not `NULL`. -/
def lfsBdReadRound (pcached : Bool) (hint block : ℕ) (l : LfsReadLocals) :
    Fallible LfsError LfsBd (LfsReadLocals ⊕ List UInt8) := do
  if l.size = 0 then
    pure (.inr l.data)
  else do
    let s ← get
    if pcached ∧ s.pcache.ahead block l.off ∧ s.pcache.off ≤ l.off then
      pure (.inl (l.advance (s.pcache.copy l.off l.size)))
    else if s.rcache.ahead block l.off ∧ s.rcache.off ≤ l.off then
      let diff := if pcached then s.pcache.limit block l.off l.size else l.size
      pure (.inl (l.advance (s.rcache.copy l.off diff)))
    else if hint ≤ l.size ∧ l.off % cfg.readSize = 0 ∧ cfg.readSize ≤ l.size then
      let diff := if pcached then s.pcache.limit block l.off l.size else l.size
      let diff := s.rcache.limit block l.off diff
      let bytes ← lfsBdReadBypass block l.off (lfsAligndown diff cfg.readSize)
      pure (.inl (l.advance bytes))
    else
      lfsBdReadLoad cfg hint block l.off
      pure (.inl l)

/-- `lfs_bd_read` -/
def lfsBdRead (pcached : Bool) (hint block off size : ℕ) :
    Fallible LfsError LfsBd (List UInt8) :=
  if cfg.blockSize < lfsWord (off + size) ∨ (blockCount ≠ 0 ∧ blockCount ≤ block) then
    throw .corrupt
  else
    iterate (lfsBdReadRound cfg pcached hint block) { off := off, size := size }

/-! ### Comparing -/

/-- `memcmp` -/
def memcmp : List UInt8 → List UInt8 → Ordering
  | x :: xs, y :: ys => if x < y then .lt else if y < x then .gt else memcmp xs ys
  | _, _ => .eq

/-- `lfs_bd_cmp`; the loop takes eight bytes in a round. -/
def lfsBdCmp (pcached : Bool) (hint block off : ℕ) (buffer : List UInt8) :
    Fallible LfsError LfsBd Ordering :=
  iterate
    (fun i =>
      if buffer.length ≤ i then
        pure (.inr .eq)
      else do
        let diff := min (buffer.length - i) 8
        let dat ← lfsBdRead cfg blockCount pcached (lfsWord (hint - i)) block (off + i) diff
        let res := memcmp dat ((buffer.drop i).take diff)
        if res = .eq then pure (.inl (i + diff)) else pure (.inr res))
    0

/-! ### Programming -/

/-- What is left of `lfs_bd_flush` when the program cache is on the medium. -/
def lfsBdValidate (diff : ℕ) : Fallible LfsError LfsBd Unit := do
  modify fun s => { s with rcache := s.rcache.drop }
  let s ← get
  let res ← lfsBdCmp cfg blockCount false diff s.pcache.block s.pcache.off
    (load s.pcache.buffer 0 diff)
  if res = .eq then pure () else throw .corrupt

/-- `lfs_bd_flush` -/
def lfsBdFlush (validate : Bool) : Fallible LfsError LfsBd Unit := do
  let s ← get
  if s.pcache.block ≠ lfsBlockNull ∧ s.pcache.block ≠ lfsBlockInline then do
    let diff := lfsAlignup s.pcache.size cfg.progSize
    modify fun s =>
      { s with
        disk := s.disk.afterProg s.pcache.block s.pcache.off (load s.pcache.buffer 0 diff) }
    check s.disk.fault
    when validate (lfsBdValidate cfg blockCount diff)
    modify fun s => { s with pcache := s.pcache.zero }
  else
    pure ()

/-- `lfs_bd_sync` -/
def lfsBdSync (validate : Bool) : Fallible LfsError LfsBd Unit := do
  modify fun s => { s with rcache := s.rcache.drop }
  lfsBdFlush cfg blockCount validate
  let s ← get
  modify fun s => { s with disk := s.disk.record ⟨.sync, 0, 0, 0⟩ }
  check s.disk.fault

/-- `lfs_bd_prog` with what is left to be programmed -/
def lfsBdProgRound (validate : Bool) (block : ℕ) (l : ℕ × List UInt8) :
    Fallible LfsError LfsBd ((ℕ × List UInt8) ⊕ Unit) := do
  let (off, data) := l
  if data = [] then
    pure (.inr ())
  else do
    let s ← get
    if block = s.pcache.block ∧ s.pcache.off ≤ off ∧ off < s.pcache.off + cfg.cacheSize then do
      let diff := min data.length (cfg.cacheSize - (off - s.pcache.off))
      let size := max s.pcache.size (off + diff - s.pcache.off)
      modify fun s =>
        { s with
          pcache :=
            { s.pcache with
              buffer := store s.pcache.buffer (off - s.pcache.off) (data.take diff)
              size := size } }
      when (size = cfg.cacheSize) (lfsBdFlush cfg blockCount validate)
      pure (.inl (off + diff, data.drop diff))
    else do
      modify fun s =>
        { s with
          pcache :=
            { s.pcache with block := block, off := lfsAligndown off cfg.progSize, size := 0 } }
      pure (.inl (off, data))

/-- `lfs_bd_prog` -/
def lfsBdProg (validate : Bool) (block off : ℕ) (data : List UInt8) :
    Fallible LfsError LfsBd Unit :=
  iterate (lfsBdProgRound cfg blockCount validate block) (off, data)

/-- `lfs_bd_erase` -/
def lfsBdErase (block : ℕ) : Fallible LfsError LfsBd Unit := do
  let s ← get
  modify fun s => { s with disk := s.disk.afterErase block }
  check s.disk.fault

end Functions

/-! ### Alignment -/

theorem lfsAligndown_le (a n : ℕ) : lfsAligndown a n ≤ a := Nat.sub_le _ _

theorem dvd_lfsAligndown (a n : ℕ) : n ∣ lfsAligndown a n := Nat.dvd_sub_mod a

theorem lt_lfsAligndown_add {n : ℕ} (a : ℕ) (h : 0 < n) : a < lfsAligndown a n + n := by
  have hmod := Nat.mod_lt a h
  rw [lfsAligndown]
  omega

theorem lfsAligndown_of_dvd {a n : ℕ} (h : n ∣ a) : lfsAligndown a n = a := by
  rw [lfsAligndown, Nat.mod_eq_zero_of_dvd h, Nat.sub_zero]

/-- The largest multiple that is not above. -/
theorem le_lfsAligndown {a b n : ℕ} (hn : n ∣ b) (h : b ≤ a) : b ≤ lfsAligndown a n := by
  rcases Nat.eq_zero_or_pos n with rfl | hpos
  · rw [Nat.zero_dvd.mp hn]
    exact Nat.zero_le _
  obtain ⟨k, rfl⟩ := hn
  obtain ⟨j, hj⟩ := dvd_lfsAligndown a n
  have hlt := lt_lfsAligndown_add a hpos
  rw [hj] at hlt ⊢
  have hkj : n * k < n * (j + 1) := by linarith
  exact Nat.mul_le_mul_left n (Nat.le_of_lt_succ (Nat.lt_of_mul_lt_mul_left hkj))

theorem lfsAlignup_eq {a n : ℕ} (h : a + n ≤ 2 ^ 32) (hn : 0 < n) :
    lfsAlignup a n = lfsAligndown (a + n - 1) n := by
  have hcast : (a + n - 1 : ℤ) = ((a + n - 1 : ℕ) : ℤ) := by omega
  rw [lfsAlignup, hcast, lfsWord_of_lt (by omega)]

theorem dvd_lfsAlignup (a n : ℕ) : n ∣ lfsAlignup a n := dvd_lfsAligndown _ _

theorem le_lfsAlignup {a n : ℕ} (h : a + n ≤ 2 ^ 32) (hn : 0 < n) : a ≤ lfsAlignup a n := by
  have hlt := lt_lfsAligndown_add (a + n - 1) hn
  rw [lfsAlignup_eq h hn]
  omega

/-- The smallest multiple that is not below. -/
theorem lfsAlignup_le {a b n : ℕ} (h : a + n ≤ 2 ^ 32) (hn : 0 < n) (hb : n ∣ b) (hab : a ≤ b) :
    lfsAlignup a n ≤ b := by
  obtain ⟨k, rfl⟩ := hb
  obtain ⟨j, hj⟩ := dvd_lfsAligndown (a + n - 1) n
  have hle := lfsAligndown_le (a + n - 1) n
  rw [lfsAlignup_eq h hn]
  rw [hj] at hle ⊢
  have hjk : n * j < n * (k + 1) := by
    rw [Nat.mul_add_one]
    omega
  exact Nat.mul_le_mul_left n (Nat.le_of_lt_succ (Nat.lt_of_mul_lt_mul_left hjk))

namespace LfsConfig

variable (cfg : LfsConfig)

theorem read_dvd_block : cfg.readSize ∣ cfg.blockSize := cfg.read_dvd_cache.trans cfg.cache_dvd_block

theorem prog_dvd_block : cfg.progSize ∣ cfg.blockSize := cfg.prog_dvd_cache.trans cfg.cache_dvd_block

theorem blockSize_pos : 0 < cfg.blockSize := by
  have hge := cfg.blockSize_ge
  omega

theorem readSize_le : cfg.readSize ≤ cfg.blockSize := Nat.le_of_dvd cfg.blockSize_pos cfg.read_dvd_block

theorem progSize_le : cfg.progSize ≤ cfg.blockSize := Nat.le_of_dvd cfg.blockSize_pos cfg.prog_dvd_block

theorem cacheSize_le : cfg.cacheSize ≤ cfg.blockSize := Nat.le_of_dvd cfg.blockSize_pos cfg.cache_dvd_block

end LfsConfig

section Target

variable {cfg : LfsConfig} {hint off : ℕ}

/-- What is loaded has the byte that is asked for, ends inside of the block and is made of
whole read units. -/
theorem lfsBdReadTarget_window (block : ℕ) (buffer : ℕ → UInt8) (hhint : 0 < hint) (hle : hint ≤ cfg.blockSize)
    (hoff : off < cfg.blockSize) :
    let target := lfsBdReadTarget cfg hint block off buffer
    target.off ≤ off ∧ off < target.off + target.size ∧ target.off + target.size ≤ cfg.blockSize ∧
      cfg.readSize ∣ target.off ∧ cfg.readSize ∣ target.size ∧ target.size ≤ cfg.cacheSize := by
  have hread := cfg.readSize_le
  have hblock := cfg.blockSize_le
  have hdown := dvd_lfsAligndown off cfg.readSize
  have hdown_le := lfsAligndown_le off cfg.readSize
  have hdown_lt := lt_lfsAligndown_add off cfg.readSize_pos
  have hcache := Nat.le_of_dvd cfg.cacheSize_pos cfg.read_dvd_cache
  have hword : lfsWord (off + hint) = off + hint := by
    exact_mod_cast lfsWord_of_lt (n := off + hint) (by omega)
  have hup := le_lfsAlignup (a := off + hint) (n := cfg.readSize) (by omega) cfg.readSize_pos
  have hup_dvd := dvd_lfsAlignup (off + hint) cfg.readSize
  have hmin : cfg.readSize ∣ min (lfsAlignup (off + hint) cfg.readSize) cfg.blockSize := by
    rcases min_choice (lfsAlignup (off + hint) cfg.readSize) cfg.blockSize with h | h
    · rwa [h]
    · rw [h]
      exact cfg.read_dvd_block
  simp only [lfsBdReadTarget, hword]
  refine ⟨hdown_le, by omega, by omega, hdown, ?_, by omega⟩
  have hsub := Nat.dvd_sub hmin hdown
  rcases min_choice (min (lfsAlignup (off + hint) cfg.readSize) cfg.blockSize
    - lfsAligndown off cfg.readSize) cfg.cacheSize with h | h
  · rwa [h]
  · rw [h]
    exact cfg.read_dvd_cache

end Target

end Bricklib2
