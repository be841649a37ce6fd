/-
Bricklib2/Warp/Wem/LfsFileWrite.lean

Writing to an open file of littlefs that is a list of blocks (`lfs_file_flushedwrite`).  The bytes
go into new blocks; those of what is committed and those of the old file stay as they are.

Main result: `LfsFs.Stage.wp_lfsFileFlushedwrite`, a write puts its bytes behind what was written before, or
the device or the room on it has come to an end.
-/
import Bricklib2.Warp.Wem.LfsFileRead

namespace Bricklib2

open BinaryOnes Cells Fallible

/-! ### Blocks that are kept -/

/-- The blocks are not handed out. -/
def LfsLookahead.Reserves (l : LfsLookahead) (blockCount : ℕ) (blocks : Set ℕ) : Prop :=
  ∃ used inflight taken, l.Ok blockCount used inflight taken ∧ blocks ⊆ used ∪ inflight

namespace LfsLookahead.Reserves

variable {l : LfsLookahead} {blockCount : ℕ} {blocks blocks' : Set ℕ}

theorem mono (h : l.Reserves blockCount blocks) (hsub : blocks' ⊆ blocks) :
    l.Reserves blockCount blocks' := by
  obtain ⟨used, inflight, taken, hok, hblocks⟩ := h
  exact ⟨used, inflight, taken, hok, hsub.trans hblocks⟩

/-- At a checkpoint they become the blocks in use. -/
theorem ok_checkpoint (h : l.Reserves blockCount blocks) (hlt : ∀ b ∈ blocks, b < blockCount) :
    ∃ taken, (l.checkpoint blockCount).Ok blockCount blocks ∅ taken := by
  obtain ⟨used, inflight, taken, hok, hblocks⟩ := h
  exact ⟨taken, (hok.commit hblocks hlt).checkpoint⟩

theorem checkpoint (h : l.Reserves blockCount blocks) (hlt : ∀ b ∈ blocks, b < blockCount) :
    (l.checkpoint blockCount).Reserves blockCount blocks := by
  obtain ⟨taken, hok⟩ := h.ok_checkpoint hlt
  exact ⟨blocks, ∅, taken, hok, Set.subset_union_left⟩

end LfsLookahead.Reserves

section Extend

variable {δ : Type} {cfg : LfsConfig} {blockCount lookaheadSize : ℕ} {dirs : LfsDirOps δ} {fs : LfsFs δ}
  {known : LfsBlocks} {d₀ : LfsDisk} {s : LfsT}

/-- A read keeps the program cache in order. -/
theorem LfsBd.Ready.of_read {b b' : LfsBd} (h : b.Ready cfg blockCount known) (hread : b.Read cfg b') :
    b'.Ready cfg blockCount known := by
  refine ⟨hread.ok, ?_, ?_⟩
  · rw [hread.pcache]
    exact h.window
  · rw [hread.pcache]
    exact h.tail

/-- A block is filled after some blocks have been read. -/
theorem LfsBd.Filling.of_read {nblock : ℕ} {bytes : List UInt8} {b b' b'' : LfsBd}
    (h : b'.Filling cfg blockCount known nblock bytes b'') (hread : b.Read cfg b') :
    b.Filling cfg blockCount known nblock bytes b'' where
  writes := (hread.writes nblock).trans h.writes
  loaded hlong hfree := by
    have hsame := h.loaded hlong hfree
    exact hsame.trans (hread.rcache (hsame ▸ hfree))
  ready := h.ready
  shows := h.shows
  appends := h.appends

/-- The file system in front of the run that a file is written in, on a device that has no bad
blocks. -/
structure LfsFs.Mounted (fs : LfsFs δ) (cfg : LfsConfig) (blockCount lookaheadSize : ℕ) (dirs : LfsDirOps δ)
    (d₀ : LfsDisk) : Prop where
  committed : fs.Committed cfg blockCount dirs
  count : blockCount ≤ 2 ^ 31
  size_pos : 0 < lookaheadSize
  size_lt : lookaheadSize < 2 ^ 29
  good : ¬ d₀.Fails .corrupt

/-- What was committed is still there. -/
structure LfsFs.Around (fs : LfsFs δ) (dirs : LfsDirOps δ) (d₀ : LfsDisk) (known : LfsBlocks) (s : LfsT) :
    Prop where
  keeps : fs.Keeps dirs known
  untouched : ∀ b ∈ fs.live dirs, s.disk.medium b = d₀.medium b
  later : d₀.Later s.disk
  pcache : s.pcache.block = lfsBlockNull

/-- What there is to say when a call gives up: the device did, or there is no room, and what was
committed is still there. -/
structure LfsFs.Halted (fs : LfsFs δ) (dirs : LfsDirOps δ) (d₀ : LfsDisk) (e : LfsError) (s : LfsT) : Prop where
  reason : d₀.Fails e ∨ e = .nospc
  untouched : ∀ b ∈ fs.live dirs, s.disk.medium b = d₀.medium b

/-- What `lfs_ctz_extend` leaves behind. -/
structure LfsT.Extended (cfg : LfsConfig) (blockCount : ℕ) (known : LfsBlocks) (chain : ℕ → ℕ)
    (used : Set ℕ) (written : List UInt8) (s : LfsT) (nblock m : ℕ) (bytes : List UInt8) (s' : LfsT) :
    Prop where
  valid : LfsBlockValid blockCount nblock
  fresh : nblock ∉ used
  extended : LfsExtended cfg blockCount known chain nblock written m bytes
  filling : s.bd.Filling cfg blockCount known nblock bytes s'.bd
  file : s'.file = { s.file with cache := s'.file.cache }
  pcache : s'.pcache = s.pcache
  reserves : s'.lookahead.Reserves blockCount (insert nblock used)

/-- **Extending a file** by a block of the allocator. -/
theorem LfsFs.Mounted.wp_extend (chain : ℕ → ℕ) (last o : ℕ) {written : List UInt8} {taken : Set ℕ}
    (h : fs.Mounted cfg blockCount lookaheadSize dirs d₀) (haround : fs.Around dirs d₀ known s)
    (hin : (fs.at cfg blockCount known).In cfg blockCount dirs s)
    (hok : s.lookahead.Ok blockCount ((fs.at cfg blockCount known).used dirs s.file) ∅ taken)
    (hready : s.bd.Ready cfg blockCount known) (hfree : s.file.cache.block = lfsBlockNull)
    (hlen : written.length < 2 ^ 32) (hbound : last + 1 < 2 ^ 26)
    (hstored : written ≠ [] → LfsStored cfg blockCount known chain (last + 1) written ∧
      CtzPlace cfg.blockSize (written.length - 1) last o ∧
      ∀ m < last + 1, chain m ∈ (fs.at cfg blockCount known).used dirs s.file) :
    wp (lfsCtzExtend cfg blockCount (dirs.alloc cfg blockCount lookaheadSize) (chain last) written.length)
      (fun r s' => ∃ nblock m bytes, r = (nblock, bytes.length) ∧ m ≤ last + 1 ∧
        s.Extended cfg blockCount known chain ((fs.at cfg blockCount known).used dirs s.file) written nblock m
          bytes s')
      (fs.Halted dirs d₀) s := by
  have hlive : fs.live dirs ⊆ (fs.at cfg blockCount known).used dirs s.file := fun b hb =>
    .inr ((h.committed.live_at haround.keeps).symm ▸ hb)
  apply wp_iterate_step
  rw [wp_bind]
  apply wp_mono (h.committed.wp_alloc h.count h.size_pos h.size_lt hin hok)
  · rintro nblock t ⟨⟨hlt, hfresh⟩, hok', hseen⟩
    rw [Set.union_empty] at hfresh
    have hvalid : LfsBlockValid blockCount nblock := by
      refine ⟨?_, fun _ => hlt⟩
      have hcount := h.count
      rw [lfsBlockInline]
      omega
    have hread := hseen.browsed.bd
    have hfree' : t.bd.pcache.block = lfsBlockNull := by
      rw [hread.pcache]
      exact hfree
    have hfill := wp_lfsCtzExtendBlock (hready.of_read hread) hseen.isIn.readable.shows hfree' hvalid hlen
      hbound fun hne => by
        obtain ⟨hst, hlast, hused⟩ := hstored hne
        exact ⟨hst, hlast, fun m hm hsame => hfresh (hsame ▸ hused m hm)⟩
    rw [wp_bind, LfsT.onBd, wp_zoom]
    apply wp_mono hfill
    · rintro off b (⟨-, hfails, -⟩ | ⟨m, bytes, rfl, hm, hextended, hfilling⟩)
      · exact absurd (haround.later.fails (hread.disk.fails hfails)) h.good
      · rw [lfsCtzExtendRest, wp_pure]
        refine ⟨nblock, m, bytes, rfl, hm, hvalid, hfresh, hextended, hfilling.of_read hread, ?_, ?_, ?_⟩
        · show { t.file with cache := b.pcache } = _
          rw [hseen.browsed.file]
          rfl
        · exact hseen.browsed.pcache
        · refine ⟨_, _, _, hok', fun c hc => ?_⟩
          rcases hc with rfl | hc
          · exact .inr (.inl rfl)
          · exact .inl hc
    · rintro e b ⟨hfails, hwrites⟩
      refine ⟨.inl (haround.later.fails (hread.disk.fails hfails)), fun c hc => ?_⟩
      have hne : c ≠ nblock := fun hsame => hfresh (hlive (hsame ▸ hc))
      show b.disk.medium c = _
      rw [hwrites.medium c hne, ← haround.untouched c hc]
      exact congrFun hread.medium c
  · rintro e t ⟨hreason, hbrowsed⟩
    refine ⟨hreason.imp_left haround.later.fails, fun c hc => ?_⟩
    rw [← haround.untouched c hc]
    exact congrFun hbrowsed.bd.medium c

/-! ### The open file -/

/-- What is not to be touched: what is committed, the blocks of the new file and those of the old
one. -/
def LfsFs.kept (fs : LfsFs δ) (dirs : LfsDirOps δ) (blocks oldBlocks : List ℕ) : Set ℕ :=
  {b | b ∈ fs.live dirs ∨ b ∈ blocks ∨ b ∈ oldBlocks}

/-- The file of the last flush.  Its blocks are committed, or the file is dirty and the traversal
finds them.  Of a file that was inline there are none, and all of it is written again. -/
structure LfsFs.Old (fs : LfsFs δ) (cfg : LfsConfig) (blockCount : ℕ) (dirs : LfsDirOps δ) (known : LfsBlocks)
    (old : List UInt8) (oldBlocks : List ℕ) (f : LfsFileT) : Prop where
  size : f.size = old.length
  content : LfsContent cfg blockCount known f.head old oldBlocks ∨
    old.length ≤ f.pos ∧ f.dirty = false ∧ oldBlocks = []
  owned : ∀ b ∈ oldBlocks, b ∈ fs.live dirs ∨ f.dirty = true

/-- The file before it gets a new block, which is when the program cache is free. -/
structure LfsFs.Full (fs : LfsFs δ) (cfg : LfsConfig) (blockCount : ℕ) (dirs : LfsDirOps δ) (d₀ : LfsDisk)
    (known : LfsBlocks) (written : List UInt8) (blocks : List ℕ) (old : List UInt8) (oldBlocks : List ℕ)
    (s : LfsT) : Prop where
  around : fs.Around dirs d₀ known s
  old : fs.Old cfg blockCount dirs known old oldBlocks s.file
  inline : s.file.inline = false
  reading : s.file.reading = false
  content : LfsContent cfg blockCount known s.file.block written blocks
  owned : s.file.writing = true ∨ ∀ b ∈ blocks, b ∈ oldBlocks
  pos : s.file.pos = written.length
  free : s.file.cache.block = lfsBlockNull
  ok : s.bd.Ok cfg
  shows : s.bd.Shows true known
  reserves : s.lookahead.Reserves blockCount (fs.kept dirs blocks oldBlocks)

/-- The file between its programs: the last block, which is none of those that are kept, has room
behind what was written. -/
structure LfsFs.Tail (fs : LfsFs δ) (cfg : LfsConfig) (blockCount : ℕ) (dirs : LfsDirOps δ) (d₀ : LfsDisk)
    (known : LfsBlocks) (chain : ℕ → ℕ) (last : ℕ) (written : List UInt8) (old : List UInt8)
    (oldBlocks : List ℕ) (s : LfsT) : Prop where
  around : fs.Around dirs d₀ known s
  old : fs.Old cfg blockCount dirs known old oldBlocks s.file
  inline : s.file.inline = false
  reading : s.file.reading = false
  stored : LfsStored cfg blockCount known chain (last + 1) written
  ends : CtzEnd cfg.blockSize written.length last s.file.off
  pos : s.file.pos = written.length
  block : s.file.block = chain last
  fresh : chain last ∉ fs.live dirs ∧ chain last ∉ oldBlocks ∧ ∀ m < last, chain m ≠ chain last
  ready : s.bd.Ready cfg blockCount known
  shows : s.bd.Shows true known
  appends : s.bd.Appends cfg (chain last) s.file.off
  empty : ∀ o, s.file.off ≤ o → known (chain last) o = none
  reserves : s.lookahead.Reserves blockCount
    (fs.kept dirs ((List.range (last + 1)).map chain) oldBlocks)

/-- What writing leaves behind of the file, of blocks it has nothing to do with, and of a read cache
that was not in use. -/
structure LfsT.Grown (cfg : LfsConfig) (keep : List ℕ) (n : ℕ) (s s' : LfsT) : Prop where
  file : s'.file =
    { s.file with
      cache := s'.file.cache, block := s'.file.block, off := s'.file.off, writing := s'.file.writing,
      pos := s.file.pos + n }
  medium : ∀ b ∈ keep, s'.disk.medium b = s.disk.medium b
  loaded : 8 < cfg.cacheSize → s'.rcache.block = lfsBlockNull → s'.rcache = s.rcache

variable {written old : List UInt8} {blocks oldBlocks : List ℕ} {chain : ℕ → ℕ} {last : ℕ}

theorem LfsT.Grown.refl (cfg : LfsConfig) (keep : List ℕ) (s : LfsT) : s.Grown cfg keep 0 s :=
  ⟨rfl, fun _ _ => rfl, fun _ _ => rfl⟩

theorem LfsT.Grown.trans {s' s'' : LfsT} {keep : List ℕ} {m n : ℕ} (h : s.Grown cfg keep m s')
    (h' : s'.Grown cfg keep n s'') : s.Grown cfg keep (m + n) s'' := by
  refine ⟨?_, fun b hb => (h'.medium b hb).trans (h.medium b hb), fun hlong hfree => ?_⟩
  · rw [h'.file, h.file, Nat.add_assoc]
  · have hsame := h'.loaded hlong hfree
    exact hsame.trans (h.loaded hlong (hsame ▸ hfree))

theorem LfsFs.Old.of_eq {f f' : LfsFileT} {known' : LfsBlocks}
    (h : fs.Old cfg blockCount dirs known old oldBlocks f) (hsize : f'.size = f.size)
    (hhead : f'.head = f.head) (hdirty : f'.dirty = f.dirty) (hpos : f.pos ≤ f'.pos)
    (hsame : ∀ b ∈ oldBlocks, known' b = known b) :
    fs.Old cfg blockCount dirs known' old oldBlocks f' := by
  refine ⟨hsize.trans h.size, ?_, fun b hb => hdirty ▸ h.owned b hb⟩
  rcases h.content with hcontent | ⟨hle, hclean, hnone⟩
  · exact .inl (hhead ▸ hcontent.of_eq hsame)
  · exact .inr ⟨hle.trans hpos, hdirty.trans hclean, hnone⟩

theorem LfsFs.Old.valid {f : LfsFileT} (h : fs.Old cfg blockCount dirs known old oldBlocks f) {b : ℕ}
    (hb : b ∈ oldBlocks) : LfsBlockValid blockCount b := by
  rcases h.content with hcontent | ⟨-, -, hnone⟩
  · exact hcontent.valid hb
  · rw [hnone] at hb
    exact absurd hb List.not_mem_nil

theorem LfsLookahead.Reserves.count_pos {l : LfsLookahead} {b : Set ℕ} (h : l.Reserves blockCount b) :
    0 < blockCount := by
  obtain ⟨_, _, _, hok, -⟩ := h
  exact (Nat.zero_le _).trans_lt hok.start_lt

namespace LfsFs.Full

theorem kept_lt (hm : fs.Mounted cfg blockCount lookaheadSize dirs d₀)
    (h : fs.Full cfg blockCount dirs d₀ known written blocks old oldBlocks s) :
    ∀ b ∈ fs.kept dirs blocks oldBlocks, b < blockCount := by
  have hpos := h.reserves.count_pos
  rintro b (hlive | hb | hb)
  · exact hm.committed.live_lt b hlive
  · exact (h.content.valid hb).2 hpos.ne'
  · exact (h.old.valid hb).2 hpos.ne'

/-- The traversal finds the blocks that are kept. -/
theorem used_eq (hm : fs.Mounted cfg blockCount lookaheadSize dirs d₀)
    (h : fs.Full cfg blockCount dirs d₀ known written blocks old oldBlocks s) :
    (fs.at cfg blockCount known).used dirs s.file = fs.kept dirs blocks oldBlocks := by
  have hblocks : lfsCtzBlocks cfg blockCount known s.file.block s.file.pos = blocks :=
    h.pos ▸ h.content.file.blocks_eq
  have hold : s.file.dirty = true → lfsCtzBlocks cfg blockCount known s.file.head s.file.size = oldBlocks := by
    intro hdirty
    rcases h.old.content with hcontent | ⟨-, hclean, -⟩
    · exact h.old.size ▸ hcontent.file.blocks_eq
    · rw [hdirty] at hclean
      cases hclean
  have hopen : (fs.at cfg blockCount known).tree.openBlocks s.file =
      (if s.file.writing ∧ ¬ s.file.inline then blocks else []) ++
        if s.file.dirty ∧ ¬ s.file.inline then oldBlocks else [] := by
    have hin : ¬ s.file.inline = true := by
      rw [h.inline]
      exact Bool.false_ne_true
    show (if _ then lfsCtzBlocks cfg blockCount known s.file.block s.file.pos else []) ++
      (if _ then lfsCtzBlocks cfg blockCount known s.file.head s.file.size else []) = _
    rw [hblocks]
    congr 1
    split_ifs with hd
    · exact hold hd.1
    · rfl
  have hinline : ¬ s.file.inline = true := by
    rw [h.inline]
    exact Bool.false_ne_true
  ext b
  show (b ∈ (fs.at cfg blockCount known).tree.openBlocks s.file ∨
    b ∈ (fs.at cfg blockCount known).live dirs) ↔ _
  rw [hopen, hm.committed.live_at h.around.keeps, List.mem_append]
  constructor
  · rintro ((hb | hb) | hb)
    · split_ifs at hb
      · exact .inr (.inl hb)
      · exact absurd hb List.not_mem_nil
    · split_ifs at hb
      · exact .inr (.inr hb)
      · exact absurd hb List.not_mem_nil
    · exact .inl hb
  · have hmem : b ∈ oldBlocks → (b ∈ if s.file.dirty ∧ ¬ s.file.inline then oldBlocks else []) ∨
        b ∈ fs.live dirs := by
      intro hb
      rcases h.old.owned b hb with hlive | hdirty
      · exact .inr hlive
      · rw [if_pos ⟨hdirty, hinline⟩]
        exact .inl hb
    rintro (hb | hb | hb)
    · exact .inr hb
    · rcases h.owned with hwriting | hsub
      · rw [if_pos ⟨hwriting, hinline⟩]
        exact .inl (.inl hb)
      · rcases hmem (hsub b hb) with hin | hin
        · exact .inl (.inr hin)
        · exact .inr hin
    · rcases hmem hb with hin | hin
      · exact .inl (.inr hin)
      · exact .inr hin

theorem isIn (hm : fs.Mounted cfg blockCount lookaheadSize dirs d₀)
    (h : fs.Full cfg blockCount dirs d₀ known written blocks old oldBlocks s) :
    (fs.at cfg blockCount known).In cfg blockCount dirs s := by
  have hnull : lfsBlockNull ∉ fs.live dirs := by
    intro hlive
    have hlt := hm.committed.live_lt _ hlive
    have hcount := hm.count
    rw [lfsBlockNull] at hlt
    omega
  refine hm.committed.isIn h.around.keeps h.ok h.shows (fun hne => absurd h.free hne) (h.free ▸ hnull)
    ⟨fun hdirty _ => ?_, fun _ _ => ?_⟩ fun b hb => ?_
  · rcases h.old.content with hcontent | ⟨-, hclean, -⟩
    · exact h.old.size ▸ hcontent.file.blocks_self
    · rw [hdirty] at hclean
      cases hclean
  · exact h.pos ▸ h.content.file.blocks_self
  · exact h.kept_lt hm b (h.used_eq hm ▸ .inl hb)

end LfsFs.Full

theorem LfsT.Extended.tail {s' : LfsT} {nblock m : ℕ} {bytes : List UInt8}
    (h : s.Extended cfg blockCount known chain (fs.kept dirs blocks oldBlocks) written nblock m bytes s')
    (hfull : fs.Full cfg blockCount dirs d₀ known written blocks old oldBlocks s)
    (hchain : ∀ k < m, chain k ∈ blocks) :
    fs.Tail cfg blockCount dirs d₀ (known.write nblock bytes) (Function.update chain m nblock) m written old
      oldBlocks { s' with file := { s'.file with block := nblock, off := bytes.length } } := by
  have hself : Function.update chain m nblock m = nblock := Function.update_self _ _ _
  have hfresh := h.fresh
  have hlive : nblock ∉ fs.live dirs := fun hin => hfresh (.inl hin)
  have hold : nblock ∉ oldBlocks := fun hin => hfresh (.inr (.inr hin))
  have hother : ∀ k < m, chain k ≠ nblock := fun k hk hsame => hfresh (.inr (.inl (hsame ▸ hchain k hk)))
  have hfile := h.file
  refine ⟨⟨fun b hb => ?_, fun b hb => ?_, ?_, ?_⟩, hfull.old.of_eq ?_ ?_ ?_ ?_ fun b hb => ?_, ?_, ?_,
    h.extended.stored, h.extended.ends, ?_, hself.symm, ?_, h.filling.ready, h.filling.shows, ?_, ?_, ?_⟩
  · have hne : b ≠ nblock := fun hsame => hlive (hsame ▸ hb)
    rw [LfsBlocks.write_of_ne hne, hfull.around.keeps b hb]
  · rw [← hfull.around.untouched b hb]
    exact h.filling.writes.medium b fun hsame => hlive (hsame ▸ hb)
  · exact hfull.around.later.trans h.filling.writes.disk
  · exact (congrArg LfsCache.block h.pcache).trans hfull.around.pcache
  · show s'.file.size = _
    rw [hfile]
  · show s'.file.head = _
    rw [hfile]
  · show s'.file.dirty = _
    rw [hfile]
  · show _ ≤ s'.file.pos
    rw [hfile]
  · exact LfsBlocks.write_of_ne fun hsame => hold (hsame ▸ hb)
  · show s'.file.inline = _
    rw [hfile, hfull.inline]
  · show s'.file.reading = _
    rw [hfile, hfull.reading]
  · show s'.file.pos = _
    rw [hfile, hfull.pos]
  · rw [hself]
    refine ⟨hlive, hold, fun k hk => ?_⟩
    rw [Function.update_of_ne hk.ne]
    exact hother k hk
  · rw [hself]
    exact h.filling.appends
  · intro o ho
    rw [hself, LfsBlocks.write_self]
    exact List.getElem?_eq_none ho
  · apply h.reserves.mono
    rintro b (hb | hb | hb)
    · exact .inr (.inl hb)
    · obtain ⟨k, hk, rfl⟩ := List.mem_map.mp hb
      rcases (Nat.le_of_lt_succ (List.mem_range.mp hk)).eq_or_lt with rfl | hlt
      · exact .inl hself
      · rw [Function.update_of_ne hlt.ne]
        exact .inr (.inr (.inl (hchain k hlt)))
    · exact .inr (.inr (.inr hb))

/-- **A new block** for the file. -/
theorem LfsFs.Full.wp_lfsFileWriteExtend (hm : fs.Mounted cfg blockCount lookaheadSize dirs d₀)
    (h : fs.Full cfg blockCount dirs d₀ known written blocks old oldBlocks s) :
    wp (lfsFileWriteExtend cfg blockCount (dirs.alloc cfg blockCount lookaheadSize))
      (fun _ s' => (∃ known' chain last, fs.Tail cfg blockCount dirs d₀ known' chain last written old
        oldBlocks s') ∧ s'.file.off < cfg.blockSize ∧ s.Grown cfg oldBlocks 0 s')
      (fs.Halted dirs d₀) s := by
  obtain ⟨taken, hok⟩ := h.reserves.ok_checkpoint (h.kept_lt hm)
  rw [lfsFileWriteExtend, lfsAllocCkpoint, wp_bind, wp_modify, wp_bind, wp_get, wp_bind]
  generalize ht : ({ s with lookahead := s.lookahead.checkpoint blockCount } : LfsT) = t
  -- the window is all that is new
  have hfile : t.file = s.file := by rw [← ht]
  have hbd : t.bd = s.bd := by rw [← ht]; rfl
  have hfull : fs.Full cfg blockCount dirs d₀ known written blocks old oldBlocks t := by
    subst ht
    exact ⟨⟨h.around.keeps, h.around.untouched, h.around.later, h.around.pcache⟩, h.old, h.inline,
      h.reading, h.content, h.owned, h.pos, h.free, h.ok, h.shows, h.reserves.checkpoint (h.kept_lt hm)⟩
  have hused := hfull.used_eq hm
  have hok' : t.lookahead.Ok blockCount ((fs.at cfg blockCount known).used dirs t.file) ∅ taken := by
    rw [hused, ← ht]
    exact hok
  have hready : t.bd.Ready cfg blockCount known :=
    ⟨hfull.ok, fun hne => absurd hfull.free hne, fun hne => absurd hfull.free hne⟩
  -- what is done with the new block
  have hdone : ∀ (chain : ℕ → ℕ) (last : ℕ) (r : ℕ × ℕ) (u : LfsT),
      (∀ k < last + 1, written ≠ [] → chain k ∈ blocks) →
      (∃ nblock m bytes, r = (nblock, bytes.length) ∧ m ≤ last + 1 ∧
        t.Extended cfg blockCount known chain ((fs.at cfg blockCount known).used dirs t.file) written
          nblock m bytes u) →
      wp (lfsModifyFile fun f => { f with block := r.1, off := r.2 })
        (fun _ s' => (∃ known' chain last, fs.Tail cfg blockCount dirs d₀ known' chain last written old
          oldBlocks s') ∧ s'.file.off < cfg.blockSize ∧ s.Grown cfg oldBlocks 0 s')
        (fs.Halted dirs d₀) u := by
    rintro chain last r u hchain ⟨nblock, m, bytes, rfl, hmle, hextended⟩
    rw [hused] at hextended
    have hblocks : ∀ k < m, chain k ∈ blocks := by
      intro k hk
      refine hchain k (by omega) fun hnil => ?_
      -- a file without content has no block before its first one
      have hsize := hextended.extended.ends.size_eq
      have hge := cfg.blockSize_ge
      have hmono := ctzBefore_mono cfg.blockSize (show 1 ≤ m by omega)
      rw [ctzBefore_succ] at hmono
      rw [hnil, List.length_nil] at hsize
      have hzero : ctzPointers 0 = 0 := rfl
      omega
    rw [lfsModifyFile, wp_modify]
    refine ⟨⟨_, _, m, hextended.tail hfull hblocks⟩, hextended.extended.room, ?_, fun b hb => ?_,
      fun hlong hnull => ?_⟩
    · show ({ u.file with block := nblock, off := bytes.length } : LfsFileT) = _
      rw [hextended.file, hfile]
      rfl
    · have hsame : u.disk.medium b = t.bd.disk.medium b :=
        hextended.filling.writes.medium b fun hsame => hextended.fresh (.inr (.inr (hsame ▸ hb)))
      rw [hbd] at hsame
      exact hsame
    · have hsame := hextended.filling.loaded hlong hnull
      exact hsame.trans (congrArg LfsBd.rcache hbd)
  rw [hfull.pos]
  rcases eq_or_ne written [] with rfl | hne
  · apply wp_mono (hm.wp_extend (fun _ => t.file.block) 0 0 hfull.around
      (hfull.isIn hm) hok' hready hfull.free (by norm_num) (by norm_num) fun hne => absurd rfl hne)
    · exact fun r u hu => hdone _ 0 r u (fun _ _ hne => absurd rfl hne) hu
    · exact fun e u he => he
  · obtain ⟨chain, last, o, hblock, hblocks, hlast, hstored⟩ := hfull.content.exists_chain hne
    have hlen := hfull.content.length_lt
    have hbound := hlast.succ_lt cfg.blockSize_ge (show written.length - 1 < 2 ^ 32 by omega)
    have hin : ∀ k < last + 1, chain k ∈ blocks := fun k hk =>
      hblocks ▸ List.mem_map_of_mem (List.mem_range.mpr hk)
    rw [hblock]
    apply wp_mono (hm.wp_extend chain last o hfull.around (hfull.isIn hm) hok' hready hfull.free hlen hbound
      fun _ => ⟨hstored, hlast, fun k hk => hused ▸ .inr (.inl (hin k hk))⟩)
    · exact fun r u hu => hdone _ last r u (fun k hk _ => hin k hk) hu
    · exact fun e u he => he

/-! ### Programs -/

theorem LfsBlocks.put_inside {block off k : ℕ} {data : List UInt8} (hk : k < data.length) :
    known.put block off data block (off + k) = data[k]? := by
  rw [put, Function.update_self, store_inside (Nat.le_add_right _ _)
    (by rw [List.length_map]; omega) none, Nat.add_sub_cancel_left, List.getD_eq_getElem?_getD,
    List.getElem?_map, List.getElem?_eq_getElem hk]
  rfl

/-- The bytes behind the last one. -/
theorem LfsStored.put {off : ℕ} {data : List UInt8}
    (h : LfsStored cfg blockCount known chain (last + 1) written)
    (hends : CtzEnd cfg.blockSize written.length last off) (hroom : off + data.length ≤ cfg.blockSize)
    (hfresh : ∀ m < last, chain m ≠ chain last) :
    LfsStored cfg blockCount (known.put (chain last) off data) chain (last + 1) (written ++ data) where
  list := by
    refine ⟨h.list.valid, fun m x hpos hm hx => ?_⟩
    have hpoints := h.list.linked m x hpos hm hx
    rcases (Nat.le_of_lt_succ hm).eq_or_lt with rfl | hlt
    · have hcontent := hends.content
      rw [ctzPointers, if_neg hpos.ne'] at hcontent
      exact hpoints.congr fun k hk => LfsBlocks.put_of_lt (by omega)
    · exact hpoints.of_eq (LfsBlocks.put_of_ne (hfresh m hlt))
  bytes i m o hi hplace := by
    rcases Nat.lt_or_ge i written.length with hlt | hge
    · obtain ⟨hm, hknown⟩ := h.bytes i m o hlt hplace
      refine ⟨hm, ?_⟩
      rw [List.getElem?_append_left hlt, ← hknown]
      rcases (Nat.le_of_lt_succ hm).eq_or_lt with rfl | hbefore
      · have hsize := hends.size_eq
        have hpos := hplace.pos_eq
        have hcontent := hplace.content
        exact LfsBlocks.put_of_lt (by omega)
      · exact congrFun (LfsBlocks.put_of_ne (hfresh m hbefore)) o
    · rw [List.length_append] at hi
      obtain ⟨k, rfl⟩ := Nat.exists_eq_add_of_le hge
      have hk : k < data.length := by omega
      obtain ⟨rfl, rfl⟩ := hplace.unique (hends.ctzPlace (k := k) (by omega))
      refine ⟨m.lt_succ_self, ?_⟩
      rw [LfsBlocks.put_inside hk, List.getElem?_append_right (Nat.le_add_right _ _),
        Nat.add_sub_cancel_left]

theorem LfsFs.Mounted.not_corrupt (hm : fs.Mounted cfg blockCount lookaheadSize dirs d₀) :
    ¬ fs.Halted dirs d₀ .corrupt s := by
  rintro ⟨hfails | hnospc, -⟩
  · exact hm.good hfails
  · cases hnospc

/-- Setting `LFS_F_ERRED` does not matter to what is committed. -/
theorem LfsFs.wp_lfsErring {α : Type} {p : Fallible LfsError LfsT α} {Q : α → LfsT → Prop}
    (h : wp p Q (fs.Halted dirs d₀) s) : wp (lfsErring p) Q (fs.Halted dirs d₀) s := by
  rw [lfsErring, wp_bind, wp_attempt]
  apply wp_mono h
  · intro a t ht
    rw [lfsErringResult, wp_pure]
    exact ht
  · intro e t he
    rw [lfsErringResult, lfsModifyFile, wp_bind, wp_modify, wp_throw]
    exact ⟨he.reason, he.untouched⟩

variable {getslice : ℕ → ℕ → Fallible LfsError LfsReader (List UInt8)} {data : List UInt8}

namespace LfsFs.Tail

theorem kept_lt (hm : fs.Mounted cfg blockCount lookaheadSize dirs d₀)
    (h : fs.Tail cfg blockCount dirs d₀ known chain last written old oldBlocks s) :
    ∀ b ∈ fs.kept dirs ((List.range (last + 1)).map chain) oldBlocks, b < blockCount := by
  have hpos := h.reserves.count_pos
  rintro b (hlive | hb | hb)
  · exact hm.committed.live_lt b hlive
  · obtain ⟨m, hmlt, rfl⟩ := List.mem_map.mp hb
    exact (h.stored.list.valid m (List.mem_range.mp hmlt)).2 hpos.ne'
  · exact (h.old.valid hb).2 hpos.ne'

theorem wp_lfsFileWriteProg (hm : fs.Mounted cfg blockCount lookaheadSize dirs d₀)
    (h : fs.Tail cfg blockCount dirs d₀ known chain last written old oldBlocks s)
    (hroom : s.file.off + data.length ≤ cfg.blockSize) :
    wp (lfsFileWriteProg cfg blockCount (dirs.alloc cfg blockCount lookaheadSize) getslice data)
      (fun _ s' => ∃ b, s' = s.setBd b ∧
        s.bd.Programmed cfg blockCount true (known.put (chain last) s.file.off data) (chain last)
          s.file.off (s.file.off + data.length) b)
      (fs.Halted dirs d₀) s := by
  have hvalid := h.stored.list.valid last last.lt_succ_self
  apply wp_iterate_step
  rw [wp_bind, wp_get, wp_bind, h.block]
  apply wp_lfsGoesBad (Q := fun _ s' => ∃ b, s' = s.setBd b ∧ s.bd.Programmed cfg blockCount true
    (known.put (chain last) s.file.off data) (chain last) s.file.off (s.file.off + data.length) b)
    (E := fs.Halted dirs d₀)
  · rw [LfsT.onBd, wp_zoom]
    apply wp_mono (wp_lfsBdProg h.ready h.shows hvalid hroom (h.appends.room h.empty) (.inl rfl))
    · exact fun _ b hb => ⟨b, rfl, hb⟩
    · rintro e b ⟨hfails, hwrites, -⟩
      refine ⟨.inl (h.around.later.fails hfails), fun c hc => ?_⟩
      rw [← h.around.untouched c hc]
      exact hwrites.medium c fun hsame => h.fresh.1 (hsame ▸ hc)
  · intro t ht
    rw [if_neg Bool.false_ne_true, wp_pure]
    exact ht
  · exact fun t ht => absurd ht hm.not_corrupt

/-- The file with the bytes that were programmed. -/
theorem append {b : LfsBd} (hm : fs.Mounted cfg blockCount lookaheadSize dirs d₀)
    (h : fs.Tail cfg blockCount dirs d₀ known chain last written old oldBlocks s)
    (hroom : s.file.off + data.length ≤ cfg.blockSize)
    (hprog : s.bd.Programmed cfg blockCount true (known.put (chain last) s.file.off data) (chain last)
      s.file.off (s.file.off + data.length) b) :
    fs.Tail cfg blockCount dirs d₀ (known.put (chain last) s.file.off data) chain last (written ++ data) old
      oldBlocks
      { s.setBd b with
        file :=
          { (s.setBd b).file with pos := s.file.pos + data.length, off := s.file.off + data.length }
        lookahead := s.lookahead.checkpoint blockCount } := by
  obtain ⟨hlive, hold, hother⟩ := h.fresh
  have hlen : (written ++ data).length = written.length + data.length := List.length_append
  refine ⟨⟨fun c hc => ?_, fun c hc => ?_, h.around.later.trans hprog.writes.disk, h.around.pcache⟩,
    h.old.of_eq rfl rfl rfl (Nat.le_add_right _ _) fun c hc => ?_, h.inline, h.reading,
    h.stored.put h.ends hroom hother, hlen ▸ h.ends.add hroom, ?_, h.block, h.fresh, hprog.ready,
    hprog.shows, hprog.appends h.appends, fun o ho => ?_, h.reserves.checkpoint (h.kept_lt hm)⟩
  · have hne : c ≠ chain last := fun hsame => hlive (hsame ▸ hc)
    rw [LfsBlocks.put_of_ne hne, h.around.keeps c hc]
  · rw [← h.around.untouched c hc]
    exact hprog.writes.medium c fun hsame => hlive (hsame ▸ hc)
  · exact LfsBlocks.put_of_ne fun hsame => hold (hsame ▸ hc)
  · show s.file.pos + data.length = _
    rw [hlen, h.pos]
  · have ho : s.file.off + data.length ≤ o := ho
    rw [LfsBlocks.put_of_ge ho]
    exact h.empty o (by omega)

end LfsFs.Tail

/-- The file between two rounds of the loop. -/
structure LfsFs.Writing (fs : LfsFs δ) (cfg : LfsConfig) (blockCount : ℕ) (dirs : LfsDirOps δ) (d₀ : LfsDisk)
    (known : LfsBlocks) (chain : ℕ → ℕ) (last : ℕ) (written : List UInt8) (old : List UInt8)
    (oldBlocks : List ℕ) (s : LfsT) : Prop where
  tail : fs.Tail cfg blockCount dirs d₀ known chain last written old oldBlocks s
  writing : s.file.writing = true
  more : ctzPointers last < s.file.off

/-- What is programmed at once. -/
theorem LfsFs.Tail.wp_lfsFileWriteSome (hm : fs.Mounted cfg blockCount lookaheadSize dirs d₀)
    (h : fs.Tail cfg blockCount dirs d₀ known chain last written old oldBlocks s)
    (hwriting : s.file.writing = true) (hoff : s.file.off < cfg.blockSize) (hdata : data ≠ []) :
    wp (lfsFileWriteSome cfg blockCount (dirs.alloc cfg blockCount lookaheadSize) getslice data)
      (fun r s' => ∃ known' n, r = .inl (data.drop n) ∧ 0 < n ∧ n ≤ data.length ∧
        fs.Writing cfg blockCount dirs d₀ known' chain last (written ++ data.take n) old oldBlocks s' ∧
        s.Grown cfg oldBlocks n s')
      (fs.Halted dirs d₀) s := by
  have hpos := List.length_pos_iff.mpr hdata
  have hcontent := h.ends.content
  rw [lfsFileWriteSome, wp_bind, wp_get, wp_bind]
  generalize hn : min data.length (cfg.blockSize - s.file.off) = n
  have hlen : (data.take n).length = n := by
    rw [List.length_take]
    omega
  have hroom : s.file.off + (data.take n).length ≤ cfg.blockSize := by omega
  apply wp_mono (LfsFs.wp_lfsErring (h.wp_lfsFileWriteProg hm hroom)) _ fun e t he => he
  rintro - t ⟨b, rfl, hprog⟩
  have htail := h.append hm hroom hprog
  simp only [hlen] at htail
  rw [wp_bind, lfsModifyFile, wp_modify, wp_bind, lfsAllocCkpoint, wp_modify, wp_pure]
  refine ⟨_, n, rfl, by omega, by omega, ⟨htail, hwriting, ?_⟩, rfl, fun c hc => ?_, hprog.loaded⟩
  rotate_left
  · exact hprog.writes.medium c fun hsame => h.fresh.2.1 (hsame ▸ hc)
  show ctzPointers last < s.file.off + n
  omega

/-! ### Rounds -/

/-- A program cache that has nothing of what is known does not matter. -/
theorem LfsBd.Shows.of_unused {b b' : LfsBd} {p p' : Bool} (h : b.Shows p known)
    (hunused : ∀ o, known b.pcache.block o = none) (hunused' : ∀ o, known b'.pcache.block o = none)
    (hrcache : b'.rcache = b.rcache) (hmedium : b'.disk.medium = b.disk.medium) : b'.Shows p' known := by
  have hnot : ∀ c : LfsBd, (∀ o, known c.pcache.block o = none) → ∀ q block o x,
      known block o = some x → ¬ c.Over q block o := by
    rintro c hc q block o x hx ⟨-, hblock, -⟩
    rw [hblock, hc] at hx
    cases hx
  refine ⟨h.null, fun block o x hx => ?_, fun hused i hi x hx _ => ?_⟩
  · have hshown := h.shown block o x hx
    rw [LfsBd.shown, if_neg (hnot b hunused p block o x hx)] at hshown
    rw [LfsBd.shown, if_neg (hnot b' hunused' p' block o x hx), hmedium, hshown]
  · rw [hrcache] at hused hi hx ⊢
    exact h.rcache hused i hi x hx (hnot b hunused p _ _ x hx)

/-- The first bytes of a file. -/
theorem LfsContent.take {head n o pos b : ℕ} (h : LfsContent cfg blockCount known head old oldBlocks)
    (hpos : 0 < pos) (hle : pos ≤ old.length) (hb : oldBlocks[n]? = some b)
    (hplace : CtzPlace cfg.blockSize (pos - 1) n o) :
    ∃ blocks, LfsContent cfg blockCount known b (old.take pos) blocks ∧ ∀ c ∈ blocks, c ∈ oldBlocks := by
  have hold : old ≠ [] := List.length_pos_iff.mp (hpos.trans_le hle)
  obtain ⟨chain, last, oLast, -, rfl, hlast, hstored⟩ := h.exists_chain hold
  have hlength := h.length_lt
  have hn := hplace.mono hlast (show pos - 1 ≤ old.length - 1 by omega)
  have hlen : (old.take pos).length = pos := List.length_take_of_le hle
  rw [List.getElem?_map, List.getElem?_range (by omega)] at hb
  obtain rfl : chain n = b := Option.some.inj hb
  refine ⟨(List.range (n + 1)).map chain, .blocks ?_ (by omega) (hlen.symm ▸ hplace)
    ⟨hstored.list.le (by omega), fun i m oi hi hi' => ?_⟩, fun c hc => ?_⟩
  · exact List.length_pos_iff.mp (hlen.symm ▸ hpos)
  · rw [hlen] at hi
    obtain ⟨-, hknown⟩ := hstored.bytes i m oi (by omega) hi'
    refine ⟨Nat.lt_succ_of_le (hi'.mono hplace (by omega)), ?_⟩
    rw [hknown, List.getElem?_take_of_lt hi]
  · obtain ⟨m, hm, rfl⟩ := List.mem_map.mp hc
    exact List.mem_map_of_mem (List.mem_range.mpr (by
      have hm := List.mem_range.mp hm
      omega))

/-- The file between its calls when nothing is cached of it. -/
structure LfsFs.Idle (fs : LfsFs δ) (cfg : LfsConfig) (blockCount : ℕ) (dirs : LfsDirOps δ) (d₀ : LfsDisk)
    (known : LfsBlocks) (old : List UInt8) (oldBlocks : List ℕ) (s : LfsT) : Prop where
  around : fs.Around dirs d₀ known s
  content : LfsContent cfg blockCount known s.file.head old oldBlocks
  size : s.file.size = old.length
  owned : ∀ b ∈ oldBlocks, b ∈ fs.live dirs ∨ s.file.dirty = true
  inline : s.file.inline = false
  reading : s.file.reading = false
  writing : s.file.writing = false
  free : s.file.cache.block = lfsBlockNull
  ok : s.bd.Ok cfg
  shows : s.bd.Shows true known
  reserves : s.lookahead.Reserves blockCount (fs.kept dirs [] oldBlocks)

namespace LfsFs.Idle

theorem full (h : fs.Idle cfg blockCount dirs d₀ known old oldBlocks s) (hpos : s.file.pos = 0) :
    fs.Full cfg blockCount dirs d₀ known [] [] old oldBlocks s :=
  ⟨h.around, ⟨h.size, .inl h.content, h.owned⟩, h.inline, h.reading, .empty _, .inr nofun, hpos, h.free,
    h.ok, h.shows, h.reserves⟩

/-- The program cache has nothing. -/
theorem unused (h : fs.Idle cfg blockCount dirs d₀ known old oldBlocks s) (o : ℕ) :
    known s.bd.pcache.block o = none := by
  rw [show s.bd.pcache.block = lfsBlockNull from h.free]
  exact h.shows.null o

/-- The blocks of the file can be read, with its own cache as the read cache. -/
theorem readable (h : fs.Idle cfg blockCount dirs d₀ known old oldBlocks s) :
    s.reader.bd.Readable cfg false false known (· ∈ oldBlocks) := by
  refine ⟨⟨fun hne => absurd h.free hne, h.ok.disk⟩, ⟨h.shows.null, fun block o x hx => ?_, ?_⟩,
    fun hne => absurd rfl hne, fun _ _ _ => rfl⟩
  · have hmedium : (⟨s.file.cache, s.rcache, s.disk⟩ : LfsBd).Shows false known :=
      h.shows.of_unused h.unused h.unused rfl rfl
    exact hmedium.shown block o x hx
  · exact fun hne => absurd h.free hne

/-- The block that the file is extended from. -/
theorem wp_lfsFileWriteFind (h : fs.Idle cfg blockCount dirs d₀ known old oldBlocks s)
    (hpos : 0 < s.file.pos) (hle : s.file.pos ≤ old.length) :
    wp (lfsFileWriteFind cfg blockCount)
      (fun _ s' => (∃ blocks, fs.Full cfg blockCount dirs d₀ known (old.take s.file.pos) blocks old oldBlocks
        s') ∧ s.Grown cfg oldBlocks 0 s')
      (fs.Halted dirs d₀) s := by
  rw [lfsFileWriteFind, wp_bind, wp_get, wp_bind, LfsT.onReader, wp_zoom, LfsReader.onBd, wp_zoom, h.size]
  apply wp_mono (h.content.wp_find (show s.file.pos - 1 < old.length by omega) h.readable)
  · rintro place b ⟨⟨n, hblock, hplace⟩, hread, -⟩
    obtain ⟨blocks, hcontent, hsub⟩ := h.content.take hpos hle hblock hplace
    rw [lfsModifyFile, wp_modify]
    refine ⟨⟨blocks, ⟨h.around.keeps, fun c hc => ?_, h.around.later.trans hread.disk, h.around.pcache⟩,
      ⟨h.size, .inl h.content, h.owned⟩, h.inline, h.reading, hcontent, .inr hsub, ?_, rfl,
      ⟨h.ok.rcache_off, hread.ok.disk⟩, ?_, h.reserves.mono ?_⟩, rfl,
      fun c _ => congrFun hread.medium c, fun _ _ => rfl⟩
    · rw [← h.around.untouched c hc]
      exact congrFun hread.medium c
    · exact (List.length_take_of_le hle).symm
    · exact h.shows.of_unused h.unused h.shows.null rfl hread.medium
    · rintro c (hc | hc | hc)
      · exact .inl hc
      · exact .inr (.inr (hsub c hc))
      · exact .inr (.inr hc)
  · rintro e b ⟨hfails, hread⟩
    refine ⟨.inl (h.around.later.fails hfails), fun c hc => ?_⟩
    rw [← h.around.untouched c hc]
    exact congrFun hread.medium c

end LfsFs.Idle

namespace LfsFs.Writing

theorem content (h : fs.Writing cfg blockCount dirs d₀ known chain last written old oldBlocks s)
    (hlen : written.length < 2 ^ 32) :
    LfsContent cfg blockCount known s.file.block written ((List.range (last + 1)).map chain) := by
  have hmore := h.more
  have hsize := h.tail.ends.size_eq
  have hinside := h.tail.ends.inside
  have hwritten : 0 < written.length := by omega
  have hplace : CtzPlace cfg.blockSize (written.length - 1) last (s.file.off - 1) :=
    ⟨by omega, by omega, by omega⟩
  rw [h.tail.block]
  exact .blocks (List.length_pos_iff.mp hwritten) hlen hplace h.tail.stored

/-- A cache that ends with the block is not in use any more. -/
theorem full (h : fs.Writing cfg blockCount dirs d₀ known chain last written old oldBlocks s)
    (hlen : written.length < 2 ^ 32) (hoff : s.file.off = cfg.blockSize) :
    fs.Full cfg blockCount dirs d₀ known written ((List.range (last + 1)).map chain) old oldBlocks s := by
  have ht := h.tail
  refine ⟨ht.around, ht.old, ht.inline, ht.reading, h.content hlen, .inl h.writing, ht.pos, ?_, ht.ready.ok,
    ht.shows, ht.reserves⟩
  by_contra hused
  obtain ⟨-, hoff', hlt, hdvd⟩ := ht.appends.used hused
  have hpos := (ht.ready.window hused).2
  have hfits : cfg.cacheSize ∣ s.bd.pcache.size := by
    rw [← Nat.dvd_add_right hdvd, hoff', hoff]
    exact cfg.cache_dvd_block
  exact absurd (Nat.le_of_dvd hpos hfits) (not_le.mpr hlt)

end LfsFs.Writing

/-- The file when `written` is what it begins with so far: nothing of it is written yet, or it is being
written. -/
def LfsFs.Stage (fs : LfsFs δ) (cfg : LfsConfig) (blockCount : ℕ) (dirs : LfsDirOps δ) (d₀ : LfsDisk)
    (known : LfsBlocks) (written old : List UInt8) (oldBlocks : List ℕ) (s : LfsT) : Prop :=
  (fs.Idle cfg blockCount dirs d₀ known old oldBlocks s ∧ s.file.pos ≤ old.length ∧
    written = old.take s.file.pos) ∨
  ∃ chain last, fs.Writing cfg blockCount dirs d₀ known chain last written old oldBlocks s

/-- **A new block**, if one is needed. -/
theorem LfsFs.Stage.wp_lfsFileWriteBlock (hm : fs.Mounted cfg blockCount lookaheadSize dirs d₀)
    (h : fs.Stage cfg blockCount dirs d₀ known written old oldBlocks s) (hlen : written.length < 2 ^ 32)
    (hneeded : ¬ s.file.writing = true ∨ s.file.off = cfg.blockSize) :
    wp (lfsFileWriteBlock cfg blockCount (dirs.alloc cfg blockCount lookaheadSize))
      (fun _ s' => (∃ known' chain last, fs.Tail cfg blockCount dirs d₀ known' chain last written old
        oldBlocks s') ∧ s'.file.writing = true ∧ s'.file.off < cfg.blockSize ∧ s.Grown cfg oldBlocks 0 s')
      (fs.Halted dirs d₀) s := by
  have hinline : s.file.inline = false := by
    rcases h with ⟨hidle, -⟩ | ⟨_, _, hwriting⟩
    · exact hidle.inline
    · exact hwriting.tail.inline
  -- what is done with a file that is ready for it
  have hextend : ∀ t blocks, fs.Full cfg blockCount dirs d₀ known written blocks old oldBlocks t →
      s.Grown cfg oldBlocks 0 t →
      wp (do
        lfsErring (lfsFileWriteExtend cfg blockCount (dirs.alloc cfg blockCount lookaheadSize))
        lfsModifyFile fun f => { f with writing := true })
      (fun _ s' => (∃ known' chain last, fs.Tail cfg blockCount dirs d₀ known' chain last written old
        oldBlocks s') ∧ s'.file.writing = true ∧ s'.file.off < cfg.blockSize ∧ s.Grown cfg oldBlocks 0 s')
      (fs.Halted dirs d₀) t := by
    intro t blocks hfull hgrown
    rw [wp_bind]
    apply wp_mono (LfsFs.wp_lfsErring (hfull.wp_lfsFileWriteExtend hm)) _ fun e u he => he
    rintro - u ⟨⟨known', chain, last, htail⟩, hoff, hgrown'⟩
    rw [lfsModifyFile, wp_modify]
    have htrans := hgrown.trans hgrown'
    refine ⟨⟨known', chain, last, ⟨htail.around.keeps, htail.around.untouched, htail.around.later,
      htail.around.pcache⟩, ⟨htail.old.size, htail.old.content, htail.old.owned⟩, htail.inline,
      htail.reading, htail.stored, htail.ends, htail.pos, htail.block, htail.fresh, htail.ready,
      htail.shows, htail.appends, htail.empty, htail.reserves⟩, rfl, hoff, ?_, htrans.medium,
      htrans.loaded⟩
    show { u.file with writing := true } = _
    rw [htrans.file]
  rw [lfsFileWriteBlock, wp_bind, wp_get, hinline]
  refine wp_ite nofun fun _ => ?_
  rcases h with ⟨hidle, hle, rfl⟩ | ⟨chain, last, hwriting⟩
  · rw [wp_bind]
    refine wp_when (fun hpos => ?_) fun hpos => ?_
    · apply wp_mono (LfsFs.wp_lfsErring (hidle.wp_lfsFileWriteFind hpos.2 hle)) _ fun e t he => he
      rintro - t ⟨⟨blocks, hfull⟩, hgrown⟩
      exact hextend t blocks hfull hgrown
    · have hzero : s.file.pos = 0 := by
        by_contra hne
        exact hpos ⟨by rw [hidle.writing]; exact Bool.false_ne_true, Nat.pos_of_ne_zero hne⟩
      refine hextend s [] ?_ (.refl cfg oldBlocks s)
      rw [hzero, List.take_zero]
      exact hidle.full hzero
  · rw [wp_bind]
    refine wp_when (fun hpos => absurd hwriting.writing hpos.1) fun _ => ?_
    have hoff := hneeded.resolve_left (not_not.mpr hwriting.writing)
    exact hextend s _ (hwriting.full hlen hoff) (.refl cfg oldBlocks s)

/-- **A round** of the loop. -/
theorem LfsFs.Stage.wp_lfsFileFlushedwriteRound (hm : fs.Mounted cfg blockCount lookaheadSize dirs d₀)
    (h : fs.Stage cfg blockCount dirs d₀ known written old oldBlocks s) (hlen : written.length < 2 ^ 32)
    (hdata : data ≠ []) :
    wp (lfsFileFlushedwriteRound cfg blockCount (dirs.alloc cfg blockCount lookaheadSize) getslice data)
      (fun r s' => ∃ known' chain last n, r = .inl (data.drop n) ∧ 0 < n ∧ n ≤ data.length ∧
        fs.Writing cfg blockCount dirs d₀ known' chain last (written ++ data.take n) old oldBlocks s' ∧
        s.Grown cfg oldBlocks n s')
      (fs.Halted dirs d₀) s := by
  rw [lfsFileFlushedwriteRound, if_neg hdata, wp_bind, wp_get, wp_bind]
  refine wp_when (fun hneeded => ?_) fun hskip => ?_
  · apply wp_mono (h.wp_lfsFileWriteBlock hm hlen hneeded) _ fun e t he => he
    rintro - t ⟨⟨known', chain, last, htail⟩, hwriting, hoff, hgrown⟩
    apply wp_mono (htail.wp_lfsFileWriteSome hm hwriting hoff hdata) _ fun e u he => he
    rintro r u ⟨known'', n, hr, hn, hle, hu, hgrown'⟩
    have htrans := hgrown.trans hgrown'
    rw [Nat.zero_add] at htrans
    exact ⟨known'', chain, last, n, hr, hn, hle, hu, htrans⟩
  · rw [not_or, not_not] at hskip
    rcases h with ⟨hidle, -⟩ | ⟨chain, last, hwriting⟩
    · rw [hidle.writing] at hskip
      exact absurd hskip.1 Bool.false_ne_true
    · have hoff := lt_of_le_of_ne hwriting.tail.ends.inside hskip.2
      apply wp_mono (hwriting.tail.wp_lfsFileWriteSome hm hskip.1 hoff hdata) _ fun e u he => he
      rintro r u ⟨known', n, hr, hn, hle, hu, hgrown⟩
      exact ⟨known', chain, last, n, hr, hn, hle, hu, hgrown⟩

/-- **Writing** behind what was written before. -/
theorem LfsFs.Stage.wp_lfsFileFlushedwrite {inlineMax : ℕ}
    (hm : fs.Mounted cfg blockCount lookaheadSize dirs d₀)
    (h : fs.Stage cfg blockCount dirs d₀ known written old oldBlocks s)
    (hlen : written.length + data.length < 2 ^ 32) (hdata : data ≠ []) :
    wp (lfsFileFlushedwrite cfg blockCount inlineMax (dirs.alloc cfg blockCount lookaheadSize) getslice data)
      (fun _ s' => (∃ known' chain last, fs.Writing cfg blockCount dirs d₀ known' chain last (written ++ data)
        old oldBlocks s') ∧ s.Grown cfg oldBlocks data.length s')
      (fs.Halted dirs d₀) s := by
  have hinline : ¬ s.file.inline = true := by
    rw [Bool.not_eq_true]
    rcases h with ⟨hidle, -⟩ | ⟨_, _, hwriting⟩
    · exact hidle.inline
    · exact hwriting.tail.inline
  rw [lfsFileFlushedwrite, wp_bind, wp_get, wp_bind]
  refine wp_when (fun hin => absurd hin.1 hinline) fun _ => ?_
  apply wp_iterate
    (I := fun rest t => ∃ n known', rest = data.drop n ∧ n ≤ data.length ∧
      fs.Stage cfg blockCount dirs d₀ known' (written ++ data.take n) old oldBlocks t ∧
      (n = 0 ∨ t.file.writing = true) ∧ s.Grown cfg oldBlocks n t)
    (fun rest _ => rest.length)
  · rintro rest t ⟨n, known', rfl, hn, hstage, hwriting, hgrown⟩
    have hrest : (data.drop n).length = data.length - n := List.length_drop
    rcases eq_or_ne (data.drop n) [] with hnil | hne
    · have hall : n = data.length := by
        rw [hnil, List.length_nil] at hrest
        omega
      rw [lfsFileFlushedwriteRound, if_pos hnil, wp_pure]
      subst hall
      rw [List.take_length] at hstage
      refine ⟨?_, hgrown⟩
      rcases hstage with ⟨hidle, -⟩ | ⟨chain, last, hstage⟩
      · have hmore := List.length_pos_iff.mpr hdata
        have hfalse := hwriting.resolve_left hmore.ne'
        rw [hidle.writing] at hfalse
        cases hfalse
      · exact ⟨known', chain, last, hstage⟩
    · have hpos := List.length_pos_iff.mpr hne
      have hlen' : (written ++ data.take n).length < 2 ^ 32 := by
        rw [List.length_append, List.length_take]
        omega
      apply wp_mono (hstage.wp_lfsFileFlushedwriteRound hm hlen' hne) _ fun e u he => he
      rintro r u ⟨known'', chain, last, k, rfl, hk, hle, hu, hgrown'⟩
      refine ⟨⟨n + k, known'', by rw [List.drop_drop], by omega, .inr ⟨chain, last, ?_⟩,
        .inr hu.writing, hgrown.trans hgrown'⟩, ?_⟩
      · rw [List.take_add, ← List.append_assoc]
        exact hu
      · rw [List.length_drop]
        omega
  · refine ⟨0, known, rfl, Nat.zero_le _, ?_, .inl rfl, .refl cfg oldBlocks s⟩
    rw [List.take_zero, List.append_nil]
    exact h

end Extend

end Bricklib2
