/-
Bricklib2/Warp/Wem/LfsFile.lean

The file functions of littlefs (lfs.c, from `lfs_file_relocate` to `lfs_file_size_`): reading,
writing, flushing and seeking in the open file.  A small file is kept in its cache until it
is committed; a larger one is a list of blocks, and writing makes new blocks until the next
flush.

How blocks are allocated (`alloc`) and how a slice of a small file is fetched from the
metadata (`getslice`) are parameters here.
-/
import Bricklib2.Warp.Wem.LfsAlloc
import Bricklib2.Warp.Wem.LfsExtend

namespace Bricklib2

open Cells Fallible

/-! ### Views -/

/-- What reading from a file works on. -/
structure LfsReader where
  file : LfsFileT
  disk : LfsDisk

namespace LfsReader

/-- The caches for a call with `NULL` and `&file->cache`. -/
def bd (r : LfsReader) : LfsBd := { rcache := r.file.cache, disk := r.disk }

/-- The caches go back to where they belong. -/
def setBd (b : LfsBd) (r : LfsReader) : LfsReader :=
  { file := { r.file with cache := b.rcache }, disk := b.disk }

/-- A call with `NULL` and `&file->cache`. -/
def onBd {α : Type} (p : Fallible LfsError LfsBd α) : Fallible LfsError LfsReader α := zoom bd setBd p

end LfsReader

namespace LfsT

/-- The view of a read. -/
def reader (s : LfsT) : LfsReader := { file := s.file, disk := s.disk }

/-- What a read has changed. -/
def setReader (r : LfsReader) (s : LfsT) : LfsT := { s with file := r.file, disk := r.disk }

/-- A call that only reads. -/
def onReader {α : Type} (p : Fallible LfsError LfsReader α) : Fallible LfsError LfsT α :=
  zoom reader setReader p

/-- The caches for a call with `&lfs->pcache` and `&lfs->rcache`. -/
def metaBd (s : LfsT) : LfsBd := { pcache := s.pcache, rcache := s.rcache, disk := s.disk }

/-- The caches go back to where they belong. -/
def setMetaBd (b : LfsBd) (s : LfsT) : LfsT :=
  { s with pcache := b.pcache, rcache := b.rcache, disk := b.disk }

/-- A call with `&lfs->pcache` and `&lfs->rcache`. -/
def onMetaBd {α : Type} (p : Fallible LfsError LfsBd α) : Fallible LfsError LfsT α :=
  zoom metaBd setMetaBd p

end LfsT

/-- A change of the open file. -/
def lfsModifyFile (g : LfsFileT → LfsFileT) : Fallible LfsError LfsT Unit :=
  modify fun s => { s with file := g s.file }

/-- The result of a call that sets `LFS_F_ERRED` if it fails. -/
def lfsErringResult {α : Type} : Except LfsError α → Fallible LfsError LfsT α
  | .ok a => pure a
  | .error e => do
    lfsModifyFile fun f => { f with erred := true }
    throw e

/-- A call that sets `LFS_F_ERRED` if it fails. -/
def lfsErring {α : Type} (p : Fallible LfsError LfsT α) : Fallible LfsError LfsT α := do
  let err ← attempt p
  lfsErringResult err

section Functions

variable (cfg : LfsConfig) (blockCount inlineMax fileMax : ℕ) (alloc : Fallible LfsError LfsT ℕ)
  (getslice : ℕ → ℕ → Fallible LfsError LfsReader (List UInt8))

/-! ### Reading -/

/-- `load to cache` in `lfs_dir_getread` -/
def lfsDirGetreadLoad (hint off : ℕ) : Fallible LfsError LfsReader Unit := do
  let cacheOff := lfsAligndown off cfg.readSize
  let size := min (lfsAlignup (lfsWord (off + hint : ℕ)) cfg.readSize) cfg.cacheSize
  modify fun r =>
    { r with
      file :=
        { r.file with
          cache := { r.file.cache with block := lfsBlockInline, off := cacheOff, size := size } } }
  let bytes ← getslice cacheOff size
  modify fun r =>
    { r with
      file :=
        { r.file with
          cache := { r.file.cache with buffer := store r.file.cache.buffer 0 bytes } } }

/-- `lfs_dir_getread` with `NULL` and `&file->cache` -/
def lfsDirGetread (hint off size : ℕ) : Fallible LfsError LfsReader (List UInt8) :=
  if cfg.blockSize < lfsWord (off + size : ℕ) then
    throw .corrupt
  else
    iterate
      (fun l : LfsReadLocals =>
        if l.size = 0 then
          pure (.inr l.data)
        else do
          let r ← get
          if r.file.cache.ahead lfsBlockInline l.off ∧ r.file.cache.off ≤ l.off then
            pure (.inl (l.advance (r.file.cache.copy l.off l.size)))
          else do
            lfsDirGetreadLoad cfg getslice hint l.off
            pure (.inl l))
      { off := off, size := size }

/-- The block and the place to read from. -/
def lfsFileReadFind : Fallible LfsError LfsReader Unit := do
  let r ← get
  if r.file.inline then
    modify fun r =>
      { r with file := { r.file with block := lfsBlockInline, off := r.file.pos, reading := true } }
  else do
    let place ← LfsReader.onBd
      (lfsCtzFind cfg blockCount false r.file.head r.file.size r.file.pos)
    modify fun r =>
      { r with file := { r.file with block := place.1, off := place.2, reading := true } }

/-- Bytes of the current block, or of the inline data. -/
def lfsFileReadBytes (diff : ℕ) : Fallible LfsError LfsReader (List UInt8) := do
  let r ← get
  if r.file.inline then
    lfsDirGetread cfg getslice cfg.blockSize r.file.off diff
  else
    LfsReader.onBd (lfsBdRead cfg blockCount false cfg.blockSize r.file.block r.file.off diff)

/-- `read as much as we can in current block`, with the bytes so far and `nsize` -/
def lfsFileReadBlock (l : List UInt8 × ℕ) :
    Fallible LfsError LfsReader ((List UInt8 × ℕ) ⊕ List UInt8) := do
  let r ← get
  let diff := min l.2 (cfg.blockSize - r.file.off)
  let bytes ← lfsFileReadBytes cfg blockCount getslice diff
  modify fun r =>
    { r with file := { r.file with pos := r.file.pos + diff, off := r.file.off + diff } }
  pure (.inl (l.1 ++ bytes, l.2 - diff))

/-- A round of the loop in `lfs_file_flushedread` -/
def lfsFileFlushedreadRound (l : List UInt8 × ℕ) :
    Fallible LfsError LfsReader ((List UInt8 × ℕ) ⊕ List UInt8) :=
  if l.2 = 0 then
    pure (.inr l.1)
  else do
    let r ← get
    when (¬ r.file.reading ∨ r.file.off = cfg.blockSize) (lfsFileReadFind cfg blockCount)
    lfsFileReadBlock cfg blockCount getslice l

/-- `lfs_file_flushedread` -/
def lfsFileFlushedread (size : ℕ) : Fallible LfsError LfsReader (List UInt8) := do
  let r ← get
  if r.file.size ≤ r.file.pos then
    pure []
  else
    iterate (lfsFileFlushedreadRound cfg blockCount getslice)
      ([], min size (r.file.size - r.file.pos))

/-! ### Relocating -/

/-- A byte of the file, from dirty cache or disk. -/
def lfsFileRelocateByte (i : ℕ) : Fallible LfsError LfsT (List UInt8) := do
  let s ← get
  if s.file.inline then
    LfsT.onReader (lfsDirGetread cfg getslice (s.file.off - i) i 1)
  else
    LfsT.onBd (lfsBdRead cfg blockCount true (s.file.off - i) s.file.block i 1)

/-- The copy in `lfs_file_relocate`: true if the new block is bad. -/
def lfsFileRelocateCopy (nblock : ℕ) : Fallible LfsError LfsT Bool :=
  iterate
    (fun i => do
      let s ← get
      if s.file.off ≤ i then
        pure (.inr false)
      else do
        let data ← lfsFileRelocateByte cfg blockCount getslice i
        let bad ← lfsGoesBad (LfsT.onMetaBd (lfsBdProg cfg blockCount true nblock i data))
        if bad then pure (.inr true) else pure (.inl (i + 1)))
    0

/-- `copy over new state of file`, or `just clear cache and try a new block` -/
def lfsFileRelocateRest (nblock : ℕ) : Bool → Fallible LfsError LfsT (Unit ⊕ Unit)
  | false => do
    modify fun s =>
      { s with
        file := { s.file with cache := s.pcache, block := nblock, writing := true }
        pcache := s.pcache.zero }
    pure (.inr ())
  | true => do
    modify fun s => { s with pcache := s.pcache.drop }
    pure (.inl ())

/-- `lfs_file_relocate` -/
def lfsFileRelocate : Fallible LfsError LfsT Unit :=
  iterate
    (fun _ => do
      let nblock ← alloc
      let bad ← lfsGoesBad (LfsT.onMetaBd (lfsBdErase nblock))
      if bad then
        lfsFileRelocateRest nblock true
      else do
        let bad ← lfsFileRelocateCopy cfg blockCount getslice nblock
        lfsFileRelocateRest nblock bad)
    ()

/-- `lfs_file_outline` -/
def lfsFileOutline : Fallible LfsError LfsT Unit := do
  lfsModifyFile fun f => { f with off := f.pos }
  lfsAllocCkpoint blockCount
  lfsFileRelocate cfg blockCount alloc getslice
  lfsModifyFile fun f => { f with inline := false }

/-! ### Writing -/

/-- `find out which block we're extending from` -/
def lfsFileWriteFind : Fallible LfsError LfsT Unit := do
  let s ← get
  let place ← LfsT.onReader (LfsReader.onBd
    (lfsCtzFind cfg blockCount false s.file.head s.file.size (s.file.pos - 1)))
  lfsModifyFile fun f => { f with block := place.1, cache := f.cache.zero }

/-- `extend file with new blocks` -/
def lfsFileWriteExtend : Fallible LfsError LfsT Unit := do
  lfsAllocCkpoint blockCount
  let s ← get
  let place ← lfsCtzExtend cfg blockCount alloc s.file.block s.file.pos
  lfsModifyFile fun f => { f with block := place.1, off := place.2 }

/-- `check if we need a new block` -/
def lfsFileWriteBlock : Fallible LfsError LfsT Unit := do
  let s ← get
  if s.file.inline then
    lfsModifyFile fun f => { f with block := lfsBlockInline, off := f.pos, writing := true }
  else do
    when (¬ s.file.writing ∧ 0 < s.file.pos) (lfsErring (lfsFileWriteFind cfg blockCount))
    lfsErring (lfsFileWriteExtend cfg blockCount alloc)
    lfsModifyFile fun f => { f with writing := true }

/-- The program, again in another block if this one is bad. -/
def lfsFileWriteProg (data : List UInt8) : Fallible LfsError LfsT Unit :=
  iterate
    (fun _ => do
      let s ← get
      let bad ← lfsGoesBad
        (LfsT.onBd (lfsBdProg cfg blockCount true s.file.block s.file.off data))
      if bad then do
        lfsFileRelocate cfg blockCount alloc getslice
        pure (.inl ())
      else
        pure (.inr ()))
    ()

/-- `program as much as we can in current block`; the rest of the data is what is still to be
written. -/
def lfsFileWriteSome (data : List UInt8) : Fallible LfsError LfsT (List UInt8 ⊕ Unit) := do
  let s ← get
  let diff := min data.length (cfg.blockSize - s.file.off)
  lfsErring (lfsFileWriteProg cfg blockCount alloc getslice (data.take diff))
  lfsModifyFile fun f => { f with pos := f.pos + diff, off := f.off + diff }
  lfsAllocCkpoint blockCount
  pure (.inl (data.drop diff))

/-- A round of the loop in `lfs_file_flushedwrite` -/
def lfsFileFlushedwriteRound (data : List UInt8) : Fallible LfsError LfsT (List UInt8 ⊕ Unit) :=
  if data = [] then
    pure (.inr ())
  else do
    let s ← get
    when (¬ s.file.writing ∨ s.file.off = cfg.blockSize) (lfsFileWriteBlock cfg blockCount alloc)
    lfsFileWriteSome cfg blockCount alloc getslice data

/-- `lfs_file_flushedwrite` -/
def lfsFileFlushedwrite (data : List UInt8) : Fallible LfsError LfsT Unit := do
  let s ← get
  when (s.file.inline ∧ inlineMax < max (s.file.pos + data.length) s.file.size)
    (lfsErring (lfsFileOutline cfg blockCount alloc getslice))
  iterate (lfsFileFlushedwriteRound cfg blockCount alloc getslice) data

/-! ### Flushing -/

/-- A byte of the old file.  The cache of `orig` has the buffer of `lfs->rcache`. -/
def lfsFileFlushOrig (orig : LfsFileT) : Fallible LfsError LfsT (List UInt8 × LfsFileT) :=
  zoom
    (fun s =>
      { file := { orig with cache := { orig.cache with buffer := s.rcache.buffer } }
        disk := s.disk })
    (fun r s =>
      { s with disk := r.disk, rcache := { s.rcache with buffer := r.file.cache.buffer } })
    (do
      let data ← lfsFileFlushedread cfg blockCount getslice 1
      let r ← get
      pure (data, r.file))

/-- `copy over anything after current branch` -/
def lfsFileFlushTail (orig : LfsFileT) : Fallible LfsError LfsT Unit :=
  iterate
    (fun orig : LfsFileT => do
      let s ← get
      if s.file.size ≤ s.file.pos then
        pure (.inr ())
      else do
        let byte ← lfsFileFlushOrig cfg blockCount getslice orig
        lfsFileFlushedwrite cfg blockCount inlineMax alloc getslice byte.1
        -- keep our reference to the rcache in sync
        let s ← get
        if s.rcache.block ≠ lfsBlockNull then do
          modify fun s => { s with rcache := s.rcache.drop }
          pure (.inl { byte.2 with cache := byte.2.cache.drop })
        else
          pure (.inl byte.2))
    orig

/-- `write out what we have` -/
def lfsFileFlushCache : Fallible LfsError LfsT Unit :=
  iterate
    (fun _ => do
      let bad ← lfsGoesBad (LfsT.onBd (lfsBdFlush cfg blockCount true))
      if bad then do
        lfsFileRelocate cfg blockCount alloc getslice
        pure (.inl ())
      else
        pure (.inr ()))
    ()

/-- Writes the rest of the old file and the cache. -/
def lfsFileFlushBlocks : Fallible LfsError LfsT Unit := do
  let s ← get
  modify fun s => { s with rcache := s.rcache.drop }
  lfsFileFlushTail cfg blockCount inlineMax alloc getslice
    { head := s.file.head, size := s.file.size, pos := s.file.pos, cache := s.rcache }
  lfsFileFlushCache cfg blockCount alloc getslice

/-- Ends the writing: the blocks that were written become the file. -/
def lfsFileFlushWriting : Fallible LfsError LfsT Unit := do
  let s ← get
  let pos := s.file.pos
  if s.file.inline then
    lfsModifyFile fun f => { f with pos := max f.pos f.size }
  else
    lfsFileFlushBlocks cfg blockCount inlineMax alloc getslice
  lfsModifyFile fun f =>
    { f with head := f.block, size := f.pos, writing := false, dirty := true, pos := pos }

/-- `lfs_file_flush` -/
def lfsFileFlush : Fallible LfsError LfsT Unit := do
  let s ← get
  when s.file.reading
    (lfsModifyFile fun f =>
      { f with cache := if f.inline then f.cache else f.cache.drop, reading := false })
  let s ← get
  when s.file.writing (lfsFileFlushWriting cfg blockCount inlineMax alloc getslice)

/-! ### Calls -/

/-- `lfs_file_read_` -/
def lfsFileRead (size : ℕ) : Fallible LfsError LfsT (List UInt8) := do
  let s ← get
  when s.file.writing (lfsFileFlush cfg blockCount inlineMax alloc getslice)
  LfsT.onReader (lfsFileFlushedread cfg blockCount getslice size)

/-- `fill with zeros` -/
def lfsFileWriteZeros : Fallible LfsError LfsT Unit := do
  let s ← get
  let pos := s.file.pos
  lfsModifyFile fun f => { f with pos := f.size }
  iterate
    (fun _ => do
      let s ← get
      if pos ≤ s.file.pos then
        pure (.inr ())
      else do
        lfsFileFlushedwrite cfg blockCount inlineMax alloc getslice [0]
        pure (.inl ()))
    ()

/-- `lfs_file_write_` -/
def lfsFileWrite (data : List UInt8) : Fallible LfsError LfsT ℕ := do
  let s ← get
  when s.file.reading (lfsFileFlush cfg blockCount inlineMax alloc getslice)
  let s ← get
  when (s.file.append ∧ s.file.pos < s.file.size) (lfsModifyFile fun f => { f with pos := f.size })
  let s ← get
  if fileMax < lfsWord (s.file.pos + data.length : ℕ) then
    throw .fbig
  else do
    when (¬ s.file.writing ∧ s.file.size < s.file.pos)
      (lfsFileWriteZeros cfg blockCount inlineMax alloc getslice)
    lfsFileFlushedwrite cfg blockCount inlineMax alloc getslice data
    lfsModifyFile fun f => { f with erred := false }
    pure data.length

/-- `lfs_file_size_` -/
def LfsFileT.fileSize (f : LfsFileT) : ℕ := if f.writing then max f.pos f.size else f.size

/-- `enum lfs_whence_flags` -/
inductive LfsWhence
  | set
  | cur
  | end
  deriving DecidableEq, Repr

/-- The position that is asked for, in a file with this position and size. -/
def LfsWhence.target (pos size : ℕ) (off : ℤ) : LfsWhence → Option ℕ
  | .set => some (lfsWord off)
  | .cur => if (pos : ℤ) + off < 0 then none else some (lfsWord (pos + off))
  | .end => if (size : ℤ) + off < 0 then none else some (lfsWord (size + off))

/-- `our new offset is still in the file's cache` -/
def LfsFileT.stays (f : LfsFileT) (npos : ℕ) : Prop :=
  let nplace := lfsCtzIndex cfg.blockSize npos
  (lfsCtzIndex cfg.blockSize f.pos).1 = nplace.1 ∧ f.cache.off ≤ nplace.2 ∧
    nplace.2 < f.cache.off + f.cache.size

instance (f : LfsFileT) (npos : ℕ) : Decidable (f.stays cfg npos) :=
  inferInstanceAs (Decidable (_ ∧ _ ∧ _))

/-- The new position, with the cache kept if it is still the right one. -/
def lfsFileSeekTo (npos : ℕ) : Fallible LfsError LfsT ℕ := do
  let s ← get
  if fileMax < npos then
    throw .inval
  else if s.file.pos = npos then
    pure npos
  else if ¬ s.file.writing ∧ s.file.stays cfg npos then do
    lfsModifyFile fun f => { f with pos := npos, off := (lfsCtzIndex cfg.blockSize npos).2 }
    pure npos
  else do
    lfsFileFlush cfg blockCount inlineMax alloc getslice
    lfsModifyFile fun f => { f with pos := npos }
    pure npos

/-- `lfs_file_seek_` -/
def lfsFileSeek (off : ℤ) (whence : LfsWhence) : Fallible LfsError LfsT ℕ := do
  let s ← get
  let npos ← lfsFileSeekTarget (whence.target s.file.pos s.file.fileSize off)
  lfsFileSeekTo cfg blockCount inlineMax fileMax alloc getslice npos
where
  lfsFileSeekTarget : Option ℕ → Fallible LfsError LfsT ℕ
    | some npos => pure npos
    | none => throw .inval

end Functions

end Bricklib2
