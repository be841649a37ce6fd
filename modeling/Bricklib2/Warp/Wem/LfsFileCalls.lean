/-
Bricklib2/Warp/Wem/LfsFileCalls.lean

The calls on an open file of littlefs that is a list of blocks: `lfs_file_read_`, `lfs_file_write_`,
`lfs_file_seek_` and `lfs_file_flush`, in any order.  Between two calls the file rests, with what was read
last in its cache, or it is being written.  Either way it has a content and a position, as the handle
of a file store has them.

Main results: `LfsFs.Open.wp_lfsFileRead`, `LfsFs.Open.wp_lfsFileWrite` and `LfsFs.Open.wp_lfsFileSeek`, a
call does what the handle does, or the device or the room on it has come to an end.
-/
import Bricklib2.Warp.Wem.LfsFileFlush
import Bricklib2.Warp.Wem.SdFiles

namespace Bricklib2

open BinaryOnes Cells Fallible
open FileStore (Session)

section Calls

variable {δ : Type} {cfg : LfsConfig} {blockCount lookaheadSize inlineMax fileMax : ℕ}
  {dirs : LfsDirOps δ} {fs : LfsFs δ} {known : LfsBlocks} {d₀ : LfsDisk} {s s' : LfsT}
  {data written old bytes : List UInt8} {blocks oldBlocks : List ℕ} {chain : ℕ → ℕ} {last : ℕ}
  {getslice : ℕ → ℕ → Fallible LfsError LfsReader (List UInt8)}

/-! ### Between the calls -/

/-- The file after a flush of what was read. -/
def LfsT.unread (s : LfsT) : LfsT :=
  { s with file := { s.file with cache := s.file.cache.drop, reading := false } }

theorem LfsT.unread_eq (hreading : s.file.reading = false) (hfree : s.file.cache.block = lfsBlockNull) :
    s.unread = s := by
  obtain ⟨pcache, rcache, file, lookahead, disk⟩ := s
  obtain ⟨head, size, pos, block, off, ⟨cblock, coff, csize, buffer⟩, _, _, _, reading, _, _⟩ := file
  obtain rfl : reading = false := hreading
  obtain rfl : cblock = lfsBlockNull := hfree
  rfl

/-- What neither a read nor a seek changes of a file. -/
def LfsFileT.Same (f f' : LfsFileT) : Prop :=
  f' = { f with cache := f'.cache, block := f'.block, off := f'.off, pos := f'.pos,
                reading := f'.reading, erred := f'.erred }

/-- A file remains as it was flushed while it is read. -/
theorem LfsFs.Idle.of_same {f : LfsFileT} {d : LfsDisk}
    (h : fs.Idle cfg blockCount dirs d₀ known data blocks s) (hsame : s.file.Same f)
    (hreading : f.reading = false) (hfree : f.cache.block = lfsBlockNull)
    (hmedium : d.medium = s.disk.medium) (hlater : s.disk.Later d) (hok : d.Ok cfg) :
    fs.Idle cfg blockCount dirs d₀ known data blocks { s with file := f, disk := d } where
  around := ⟨h.around.keeps, fun b hb => hmedium ▸ h.around.untouched b hb, h.around.later.trans hlater,
    h.around.pcache⟩
  content := (congrArg LfsFileT.head hsame).symm ▸ h.content
  size := (congrArg LfsFileT.size hsame).trans h.size
  owned b hb := (h.owned b hb).imp_right (congrArg LfsFileT.dirty hsame).trans
  inline := (congrArg LfsFileT.inline hsame).trans h.inline
  reading := hreading
  writing := (congrArg LfsFileT.writing hsame).trans h.writing
  free := hfree
  ok := ⟨h.ok.rcache_off, hok⟩
  shows := h.shows.of_unused h.unused (fun o => by
    show known f.cache.block o = none
    rw [hfree]
    exact h.shows.null o) rfl hmedium
  reserves := h.reserves

/-- The file when it is not being written: flushed, but for what was read of it last. -/
structure LfsFs.Rests (fs : LfsFs δ) (cfg : LfsConfig) (blockCount : ℕ) (dirs : LfsDirOps δ) (d₀ : LfsDisk)
    (known : LfsBlocks) (data : List UInt8) (blocks : List ℕ) (s : LfsT) : Prop where
  idle : fs.Idle cfg blockCount dirs d₀ known data blocks s.unread
  on : s.reader.On cfg blockCount known data blocks
  free : s.file.reading = false → s.file.cache.block = lfsBlockNull

theorem LfsFs.Idle.rests (h : fs.Idle cfg blockCount dirs d₀ known data blocks s) :
    fs.Rests cfg blockCount dirs d₀ known data blocks s where
  idle := (LfsT.unread_eq h.reading h.free).symm ▸ h
  on := ⟨h.inline, h.content, h.size, h.readable,
    fun hreading => Bool.noConfusion (h.reading.symm.trans hreading)⟩
  free _ := h.free

/-- The open file has the content: it rests, or a part of it is written and the rest of the old file
is still to be copied. -/
inductive LfsFs.Open (fs : LfsFs δ) (cfg : LfsConfig) (blockCount : ℕ) (dirs : LfsDirOps δ) (d₀ : LfsDisk) :
    List UInt8 → LfsT → Prop
  | rests (known : LfsBlocks) (data : List UInt8) (blocks : List ℕ) (s : LfsT)
      (h : fs.Rests cfg blockCount dirs d₀ known data blocks s) :
      LfsFs.Open fs cfg blockCount dirs d₀ data s
  | writing (known : LfsBlocks) (chain : ℕ → ℕ) (last : ℕ) (written old : List UInt8) (oldBlocks : List ℕ)
      (s : LfsT) (h : fs.Writing cfg blockCount dirs d₀ known chain last written old oldBlocks s) :
      LfsFs.Open fs cfg blockCount dirs d₀ (written ++ old.drop written.length) s

theorem length_append_drop (written old : List UInt8) :
    (written ++ old.drop written.length).length = max written.length old.length := by
  rw [List.length_append, List.length_drop]
  omega

theorem LfsFs.Open.inline (h : fs.Open cfg blockCount dirs d₀ data s) : s.file.inline = false := by
  cases h with
  | rests known _ blocks _ h => exact h.on.inline
  | writing known chain last written old oldBlocks _ h => exact h.tail.inline

theorem LfsFs.Open.untouched (h : fs.Open cfg blockCount dirs d₀ data s) :
    ∀ b ∈ fs.live dirs, s.disk.medium b = d₀.medium b := by
  cases h with
  | rests known _ blocks _ h => exact h.idle.around.untouched
  | writing known chain last written old oldBlocks _ h => exact h.tail.around.untouched

theorem LfsFs.Open.fileSize (h : fs.Open cfg blockCount dirs d₀ data s) :
    s.file.fileSize = data.length := by
  cases h with
  | rests known _ blocks _ h =>
    have hwriting : s.file.writing = false := h.idle.writing
    rw [LfsFileT.fileSize, hwriting]
    exact h.on.size
  | writing known chain last written old oldBlocks _ h =>
    rw [LfsFileT.fileSize, h.writing, if_pos rfl, h.tail.pos, h.tail.old.size, length_append_drop]

/-! ### Flushing -/

theorem LfsFs.Rests.wp_lfsFileFlush {E : LfsError → LfsT → Prop}
    {alloc : Fallible LfsError LfsT ℕ} (h : fs.Rests cfg blockCount dirs d₀ known data blocks s) :
    wp (lfsFileFlush cfg blockCount inlineMax alloc getslice) (fun _ s' => s' = s.unread) E s := by
  have hwriting : ¬ s.file.writing = true := by
    rw [show s.file.writing = false from h.idle.writing]
    exact Bool.false_ne_true
  rw [lfsFileFlush, wp_bind, wp_get, wp_bind]
  refine wp_when (fun hreading => ?_) fun hreading => ?_
  · rw [lfsModifyFile, wp_modify, wp_bind, wp_get]
    refine wp_when (fun h => absurd h hwriting) fun _ => ?_
    have hcache : (if s.file.inline = true then s.file.cache else s.file.cache.drop) = s.file.cache.drop :=
      if_neg (by rw [show s.file.inline = false from h.on.inline]; exact Bool.false_ne_true)
    rw [hcache]
    rfl
  · have hidle : s.file.reading = false := Bool.eq_false_iff.mpr hreading
    rw [wp_bind, wp_get]
    exact wp_when (fun h => absurd h hwriting) fun _ => (LfsT.unread_eq hidle (h.free hidle)).symm

/-- **Flushing** leaves the file with its content, and with nothing of it in a cache. -/
theorem LfsFs.Open.wp_lfsFileFlush (hm : fs.Mounted cfg blockCount lookaheadSize dirs d₀)
    (hlong : 8 < cfg.cacheSize) (h : fs.Open cfg blockCount dirs d₀ data s) (hlen : data.length < 2 ^ 32) :
    wp (lfsFileFlush cfg blockCount inlineMax (dirs.alloc cfg blockCount lookaheadSize) getslice)
      (fun _ s' => (∃ known blocks, fs.Idle cfg blockCount dirs d₀ known data blocks s') ∧
        s'.file.pos = s.file.pos ∧ s'.file.append = s.file.append)
      (fs.Halted dirs d₀) s := by
  cases h with
  | rests known _ blocks _ h =>
    apply wp_mono h.wp_lfsFileFlush
    · rintro - t rfl
      exact ⟨⟨known, blocks, h.idle⟩, rfl, rfl⟩
    · exact fun e t he => he
  | writing known chain last written old oldBlocks _ h =>
    rw [length_append_drop] at hlen
    rw [lfsFileFlush, wp_bind, wp_get, wp_bind]
    refine wp_when (fun hreading => ?_) fun _ => ?_
    · rw [h.tail.reading] at hreading
      exact absurd hreading Bool.false_ne_true
    · rw [wp_bind, wp_get]
      refine wp_when (fun _ => ?_) fun hwriting => absurd h.writing hwriting
      exact h.wp_lfsFileFlushWriting hm hlong (by omega) (by omega)

/-! ### Reading -/

theorem LfsFs.Rests.wp_lfsFileFlushedread {n : ℕ}
    (h : fs.Rests cfg blockCount dirs d₀ known data blocks s) :
    wp (LfsT.onReader (lfsFileFlushedread cfg blockCount getslice n))
      (fun bytes s' => bytes = (data.drop s.file.pos).take n ∧
        fs.Rests cfg blockCount dirs d₀ known data blocks s' ∧
        s'.file.pos = s.file.pos + bytes.length ∧ s'.file.append = s.file.append)
      (fs.Halted dirs d₀) s := by
  rw [LfsT.onReader, wp_zoom]
  apply wp_mono (LfsReader.wp_lfsFileFlushedread h.on)
  · rintro bytes r ⟨hbytes, hon, hadvanced⟩
    have hfile := hadvanced.file
    have happend := congrArg LfsFileT.append hfile
    refine ⟨hbytes, ⟨?_, hon, fun hreading => ?_⟩, congrArg LfsFileT.pos hfile, happend⟩
    · refine h.idle.of_same ?_ rfl rfl hadvanced.bd.medium hadvanced.bd.disk hadvanced.bd.ok.disk
      show LfsFileT.Same { s.file with cache := s.file.cache.drop, reading := false }
        { r.file with cache := r.file.cache.drop, reading := false }
      rw [LfsFileT.Same, hfile]
      rfl
    · obtain ⟨hidle, hcache⟩ := hadvanced.quiet hreading
      show r.file.cache.block = _
      rw [hcache]
      exact h.free hidle
  · rintro e r ⟨hfails, hread⟩
    refine ⟨.inl (h.idle.around.later.fails hfails), fun b hb => ?_⟩
    rw [← h.idle.around.untouched b hb]
    exact congrFun hread.medium b

/-- **Reading** gets the bytes from the position on. -/
theorem LfsFs.Open.wp_lfsFileRead {n : ℕ} (hm : fs.Mounted cfg blockCount lookaheadSize dirs d₀)
    (hlong : 8 < cfg.cacheSize) (h : fs.Open cfg blockCount dirs d₀ data s) (hlen : data.length < 2 ^ 32) :
    wp (lfsFileRead cfg blockCount inlineMax (dirs.alloc cfg blockCount lookaheadSize) getslice n)
      (fun bytes s' => bytes = (data.drop s.file.pos).take n ∧ fs.Open cfg blockCount dirs d₀ data s' ∧
        s'.file.pos = s.file.pos + bytes.length ∧ s'.file.append = s.file.append)
      (fs.Halted dirs d₀) s := by
  have hread : ∀ t known blocks, fs.Rests cfg blockCount dirs d₀ known data blocks t →
      t.file.pos = s.file.pos → t.file.append = s.file.append →
      wp (LfsT.onReader (lfsFileFlushedread cfg blockCount getslice n))
        (fun bytes s' => bytes = (data.drop s.file.pos).take n ∧ fs.Open cfg blockCount dirs d₀ data s' ∧
          s'.file.pos = s.file.pos + bytes.length ∧ s'.file.append = s.file.append)
        (fs.Halted dirs d₀) t := by
    intro t known blocks ht hpos happend
    apply wp_mono ht.wp_lfsFileFlushedread
    · rintro bytes u ⟨hbytes, hu, hpos', happend'⟩
      rw [hpos] at hbytes hpos'
      exact ⟨hbytes, .rests _ _ _ _ hu, hpos', happend'.trans happend⟩
    · exact fun e u he => he
  rw [lfsFileRead, wp_bind, wp_get, wp_bind]
  refine wp_when (fun _ => ?_) fun hwriting => ?_
  · -- what was written is flushed before it is read
    apply wp_mono (h.wp_lfsFileFlush hm hlong hlen) _ fun e t he => he
    rintro - t ⟨⟨known, blocks, hidle⟩, hpos, happend⟩
    exact hread t known blocks hidle.rests hpos happend
  · cases h with
    | rests known _ blocks _ h => exact hread s known blocks h rfl rfl
    | writing known chain last written old oldBlocks _ h => exact absurd h.writing hwriting

/-! ### Seeking -/

/-- The last read was up to the end of a block.  The position is in the next block already, the cache
is not. -/
def LfsT.AtBlockEnd (cfg : LfsConfig) (s : LfsT) : Prop :=
  s.file.reading = true ∧ s.file.off = cfg.blockSize

instance LfsT.decidableAtBlockEnd (cfg : LfsConfig) (s : LfsT) : Decidable (s.AtBlockEnd cfg) :=
  inferInstanceAs (Decidable (_ ∧ _))

/-- A seek that keeps the cache. -/
theorem LfsFs.Rests.seek {npos : ℕ} (h : fs.Rests cfg blockCount dirs d₀ known data blocks s)
    (hend : ¬ s.AtBlockEnd cfg) (hstays : s.file.stays cfg npos) (hpos : s.file.pos < 2 ^ 32)
    (hnpos : npos < 2 ^ 32) :
    fs.Rests cfg blockCount dirs d₀ known data blocks
      { s with file := { s.file with pos := npos, off := (lfsCtzIndex cfg.blockSize npos).2 } } where
  idle := h.idle.of_same rfl rfl rfl rfl (.refl s.disk) h.idle.ok.disk
  on := by
    refine ⟨h.on.inline, h.on.content, h.on.size, h.on.bd, fun hreading => ?_⟩
    obtain ⟨n, hblock, hat⟩ := h.on.place hreading
    have hinside : s.file.off < cfg.blockSize := lt_of_le_of_ne hat.inside fun hoff => hend ⟨hreading, hoff⟩
    have hplace : CtzPlace cfg.blockSize s.file.pos n s.file.off := ⟨hat.content, hinside, hat.size_eq⟩
    have hword : cfg.blockSize < 2 ^ 32 := cfg.blockSize_le.trans_lt (by norm_num)
    -- both positions are in the block of the cache, as the last read did not end with it
    obtain ⟨n', o', hplace'⟩ := exists_ctzPlace cfg.blockSize_ge hnpos
    have hindex := hplace'.lfsCtzIndex_eq cfg.blockSize_ge hword hnpos
    have hsame := hstays.1
    rw [hplace.lfsCtzIndex_eq cfg.blockSize_ge hword hpos, hindex] at hsame
    refine ⟨n, hblock, ?_⟩
    show CtzEnd cfg.blockSize npos n (lfsCtzIndex cfg.blockSize npos).2
    rw [hindex, show n = n' from hsame]
    exact hplace'.ctzEnd
  free := h.free

theorem LfsFs.Open.wp_lfsFileSeekTo {npos : ℕ} (hm : fs.Mounted cfg blockCount lookaheadSize dirs d₀)
    (hlong : 8 < cfg.cacheSize) (h : fs.Open cfg blockCount dirs d₀ data s) (hlen : data.length < 2 ^ 32)
    (hpos : s.file.pos < 2 ^ 32) (hmax : fileMax < 2 ^ 32) (hend : ¬ s.AtBlockEnd cfg) :
    wp (lfsFileSeekTo cfg blockCount inlineMax fileMax (dirs.alloc cfg blockCount lookaheadSize) getslice
        npos)
      (fun n s' => n = npos ∧ npos ≤ fileMax ∧ fs.Open cfg blockCount dirs d₀ data s' ∧
        s'.file.pos = npos ∧ s'.file.append = s.file.append)
      (fun e s' => fs.Halted dirs d₀ e s' ∨ e = .inval ∧ fileMax < npos ∧ s' = s) s := by
  rw [lfsFileSeekTo, wp_bind, wp_get]
  refine wp_ite (fun hfar => ?_) fun hnear => wp_ite (fun hsame => ?_) fun hmoves =>
    wp_ite (fun hstays => ?_) fun _ => ?_
  · rw [wp_throw]
    exact .inr ⟨rfl, hfar, rfl⟩
  · rw [wp_pure]
    exact ⟨rfl, not_lt.mp hnear, h, hsame, rfl⟩
  · -- the cache is kept
    rw [wp_bind, lfsModifyFile, wp_modify, wp_pure]
    cases h with
    | rests known _ blocks _ h =>
      have hseek := h.seek hend hstays.2 hpos (by omega)
      exact ⟨rfl, not_lt.mp hnear, .rests _ _ _ _ hseek, rfl, rfl⟩
    | writing known chain last written old oldBlocks _ h => exact absurd h.writing hstays.1
  · -- the file is flushed, so no cache is left that could be the wrong one
    rw [wp_bind]
    apply wp_mono (h.wp_lfsFileFlush hm hlong hlen) _ fun e t he => .inl he
    rintro - t ⟨⟨known, blocks, hidle⟩, -, happend⟩
    rw [wp_bind, lfsModifyFile, wp_modify, wp_pure]
    have hseek := hidle.of_same (f := { t.file with pos := npos }) rfl hidle.reading hidle.free rfl
      (.refl t.disk) hidle.ok.disk
    exact ⟨rfl, not_lt.mp hnear, .rests _ _ _ _ hseek.rests, rfl, happend⟩

/-- **Seeking** to a position of the file or behind its end. -/
theorem LfsFs.Open.wp_lfsFileSeek {off : ℤ} {whence : LfsWhence}
    (hm : fs.Mounted cfg blockCount lookaheadSize dirs d₀) (hlong : 8 < cfg.cacheSize)
    (h : fs.Open cfg blockCount dirs d₀ data s) (hlen : data.length < 2 ^ 32) (hpos : s.file.pos < 2 ^ 32)
    (hmax : fileMax < 2 ^ 32) (hend : ¬ s.AtBlockEnd cfg) :
    wp (lfsFileSeek cfg blockCount inlineMax fileMax (dirs.alloc cfg blockCount lookaheadSize) getslice off
        whence)
      (fun n s' => whence.target s.file.pos data.length off = some n ∧ n ≤ fileMax ∧
        fs.Open cfg blockCount dirs d₀ data s' ∧ s'.file.pos = n ∧ s'.file.append = s.file.append)
      (fun e s' => fs.Halted dirs d₀ e s' ∨ e = .inval ∧ s' = s ∧
        ∀ n, whence.target s.file.pos data.length off = some n → fileMax < n) s := by
  rw [lfsFileSeek, wp_bind, wp_get, wp_bind, h.fileSize]
  rcases htarget : whence.target s.file.pos data.length off with - | npos
  · rw [lfsFileSeek.lfsFileSeekTarget, wp_throw]
    exact .inr ⟨rfl, rfl, nofun⟩
  · rw [lfsFileSeek.lfsFileSeekTarget, wp_pure]
    apply wp_mono (h.wp_lfsFileSeekTo hm hlong hlen hpos hmax hend)
    · rintro n t ⟨rfl, hle, hopen, hat, happend⟩
      exact ⟨rfl, hle, hopen, hat, happend⟩
    · rintro e t (hhalted | ⟨rfl, hfar, rfl⟩)
      · exact .inl hhalted
      · exact .inr ⟨rfl, rfl, fun n hn => Option.some.inj hn ▸ hfar⟩

/-! ### Writing -/

theorem LfsFs.Stage.pos (h : fs.Stage cfg blockCount dirs d₀ known written old oldBlocks s) :
    s.file.pos = written.length := by
  rcases h with ⟨-, hle, rfl⟩ | ⟨chain, last, hwriting⟩
  · rw [List.length_take_of_le hle]
  · exact hwriting.tail.pos

theorem LfsFs.Stage.opened (h : fs.Stage cfg blockCount dirs d₀ known written old oldBlocks s) :
    fs.Open cfg blockCount dirs d₀ (written ++ old.drop written.length) s := by
  rcases h with ⟨hidle, hle, rfl⟩ | ⟨chain, last, hwriting⟩
  · rw [List.length_take_of_le hle, List.take_append_drop]
    exact .rests _ _ _ _ hidle.rests
  · exact .writing _ _ _ _ _ _ _ hwriting

/-- Whether there was an error does not matter to the file. -/
theorem LfsFs.Stage.noError (h : fs.Stage cfg blockCount dirs d₀ known written old oldBlocks s) :
    fs.Stage cfg blockCount dirs d₀ known written old oldBlocks
      { s with file := { s.file with erred := false } } := by
  rcases h with ⟨hidle, hle, hwritten⟩ | ⟨chain, last, hw⟩
  · exact .inl ⟨hidle.of_same rfl hidle.reading hidle.free rfl (.refl s.disk) hidle.ok.disk, hle, hwritten⟩
  · have ht := hw.tail
    exact .inr ⟨chain, last, ⟨⟨ht.around.keeps, ht.around.untouched, ht.around.later, ht.around.pcache⟩,
      ⟨ht.old.size, ht.old.content, ht.old.owned⟩, ht.inline, ht.reading, ht.stored, ht.ends, ht.pos,
      ht.block, ht.fresh, ht.ready, ht.shows, ht.appends, ht.empty, ht.reserves⟩, hw.writing, hw.more⟩

/-- **The gap** behind the end of the file is filled. -/
theorem LfsFs.Idle.wp_lfsFileWriteZeros (hm : fs.Mounted cfg blockCount lookaheadSize dirs d₀)
    (h : fs.Idle cfg blockCount dirs d₀ known old oldBlocks s) (hgap : old.length < s.file.pos)
    (hlen : s.file.pos < 2 ^ 32) :
    wp (lfsFileWriteZeros cfg blockCount inlineMax (dirs.alloc cfg blockCount lookaheadSize) getslice)
      (fun _ s' => (∃ known', fs.Stage cfg blockCount dirs d₀ known'
        (old ++ List.replicate (s.file.pos - old.length) 0) old oldBlocks s') ∧
        s'.file.append = s.file.append)
      (fs.Halted dirs d₀) s := by
  rw [lfsFileWriteZeros, wp_bind, wp_get, wp_bind, lfsModifyFile, wp_modify]
  -- `n` zeros have been written, one in each round
  apply wp_iterate
    (I := fun _ t => ∃ n known', n ≤ s.file.pos - old.length ∧
      fs.Stage cfg blockCount dirs d₀ known' (old ++ List.replicate n 0) old oldBlocks t ∧
      t.file.append = s.file.append)
    (fun _ t => s.file.pos - t.file.pos)
  · rintro - t ⟨n, known', hn, hstage, happend⟩
    have hpos := hstage.pos
    rw [List.length_append, List.length_replicate] at hpos
    rw [wp_bind, wp_get]
    refine wp_ite (fun hend => ?_) fun hmore => ?_
    · obtain rfl : n = s.file.pos - old.length := by omega
      rw [wp_pure]
      exact ⟨⟨known', hstage⟩, happend⟩
    · have hlen' : (old ++ List.replicate n 0).length + [(0 : UInt8)].length < 2 ^ 32 := by
        rw [List.length_append, List.length_replicate, List.length_singleton]
        omega
      rw [wp_bind]
      apply wp_mono (hstage.wp_lfsFileFlushedwrite hm hlen' (List.cons_ne_nil _ _)) _ fun e u he => he
      rintro - u ⟨⟨known'', chain, last, hwriting⟩, hgrown⟩
      have hmoved : u.file.pos = t.file.pos + 1 := congrArg LfsFileT.pos hgrown.file
      have hkept := congrArg LfsFileT.append hgrown.file
      rw [List.append_assoc, ← List.replicate_succ'] at hwriting
      rw [wp_pure]
      exact ⟨⟨n + 1, known'', by omega, .inr ⟨chain, last, hwriting⟩, hkept.trans happend⟩, by omega⟩
  · refine ⟨0, known, Nat.zero_le _, .inl ⟨?_, h.size.le, ?_⟩, rfl⟩
    · exact h.of_same rfl h.reading h.free rfl (.refl s.disk) h.ok.disk
    · show old ++ [] = old.take s.file.size
      rw [List.append_nil, h.size, List.take_length]

/-- The bytes are written behind what was written before. -/
theorem LfsFs.Stage.wp_write (hm : fs.Mounted cfg blockCount lookaheadSize dirs d₀)
    (h : fs.Stage cfg blockCount dirs d₀ known written old oldBlocks s)
    (hlen : written.length + bytes.length < 2 ^ 32) :
    wp (do
        lfsFileFlushedwrite cfg blockCount inlineMax (dirs.alloc cfg blockCount lookaheadSize) getslice bytes
        lfsModifyFile fun f => { f with erred := false }
        pure bytes.length)
      (fun n s' => n = bytes.length ∧
        fs.Open cfg blockCount dirs d₀
          (Session.patch (written ++ old.drop written.length) written.length bytes) s' ∧
        s'.file.pos = written.length + bytes.length ∧ s'.file.append = s.file.append)
      (fs.Halted dirs d₀) s := by
  rw [Session.patch_append_drop]
  have hend : ∀ t known', fs.Stage cfg blockCount dirs d₀ known' (written ++ bytes) old oldBlocks t →
      t.file.append = s.file.append →
      wp (do
          lfsModifyFile fun f => { f with erred := false }
          pure bytes.length)
        (fun n s' => n = bytes.length ∧
          fs.Open cfg blockCount dirs d₀ (written ++ bytes ++ old.drop (written ++ bytes).length) s' ∧
          s'.file.pos = written.length + bytes.length ∧ s'.file.append = s.file.append)
        (fs.Halted dirs d₀) t := by
    intro t known' ht happend
    have hpos := ht.pos
    rw [List.length_append] at hpos
    rw [wp_bind, lfsModifyFile, wp_modify, wp_pure]
    exact ⟨rfl, ht.noError.opened, hpos, happend⟩
  rw [wp_bind]
  rcases eq_or_ne bytes [] with rfl | hne
  · -- nothing to write
    have hinline : ¬ s.file.inline = true := by
      rw [h.opened.inline]
      exact Bool.false_ne_true
    rw [lfsFileFlushedwrite, wp_bind, wp_get, wp_bind]
    refine wp_when (fun hin => absurd hin.1 hinline) fun _ => ?_
    apply wp_iterate_step
    rw [lfsFileFlushedwriteRound, if_pos rfl, wp_pure]
    exact hend s known (by rwa [List.append_nil]) rfl
  · apply wp_mono (h.wp_lfsFileFlushedwrite hm hlen hne) _ fun e t he => he
    rintro - t ⟨⟨known', chain, last, hwriting⟩, hgrown⟩
    have hkept := congrArg LfsFileT.append hgrown.file
    exact hend t known' (.inr ⟨chain, last, hwriting⟩) hkept

/-- What was read is given up before a write. -/
theorem LfsFs.Open.wp_unread {E : LfsError → LfsT → Prop} {alloc : Fallible LfsError LfsT ℕ}
    (h : fs.Open cfg blockCount dirs d₀ data s) :
    wp (when s.file.reading (lfsFileFlush cfg blockCount inlineMax alloc getslice))
      (fun _ s' => fs.Open cfg blockCount dirs d₀ data s' ∧ s'.file.reading = false ∧
        s'.file.pos = s.file.pos ∧ s'.file.append = s.file.append) E s := by
  refine wp_when (fun hreading => ?_) fun hreading => ⟨h, Bool.eq_false_iff.mpr hreading, rfl, rfl⟩
  cases h with
  | rests known _ blocks _ h =>
    apply wp_mono h.wp_lfsFileFlush
    · rintro - t rfl
      exact ⟨.rests _ _ _ _ h.idle.rests, rfl, rfl, rfl⟩
    · exact fun e t he => he
  | writing known chain last written old oldBlocks _ h =>
    rw [h.tail.reading] at hreading
    exact absurd hreading Bool.false_ne_true

/-- **Writing** at the position, which may be behind the end. -/
theorem LfsFs.Open.wp_lfsFileWrite (hm : fs.Mounted cfg blockCount lookaheadSize dirs d₀)
    (h : fs.Open cfg blockCount dirs d₀ data s) (hmax : fileMax < 2 ^ 31) (hlen : data.length ≤ fileMax)
    (hpos : s.file.pos ≤ fileMax) (hbytes : bytes.length < 2 ^ 31) (happend : s.file.append = false) :
    wp (lfsFileWrite cfg blockCount inlineMax fileMax (dirs.alloc cfg blockCount lookaheadSize) getslice
        bytes)
      (fun n s' => n = bytes.length ∧ s.file.pos + bytes.length ≤ fileMax ∧
        fs.Open cfg blockCount dirs d₀ (Session.patch data s.file.pos bytes) s' ∧
        s'.file.pos = s.file.pos + bytes.length ∧ s'.file.append = false)
      (fun e s' => fs.Halted dirs d₀ e s' ∨
        e = .fbig ∧ fileMax < s.file.pos + bytes.length ∧ fs.Open cfg blockCount dirs d₀ data s') s := by
  rw [lfsFileWrite, wp_bind, wp_get, wp_bind]
  apply wp_mono h.wp_unread _ fun e t he => he
  rintro - t ⟨ht, hreading, hpos', happend'⟩
  have hclean : ¬ (t.file.append = true ∧ t.file.pos < t.file.size) := fun hin => by
    rw [happend', happend] at hin
    exact Bool.false_ne_true hin.1
  rw [wp_bind, wp_get, wp_bind]
  refine wp_when (fun hin => absurd hin hclean) fun _ => ?_
  have hword : lfsWord (t.file.pos + bytes.length : ℕ) = s.file.pos + bytes.length := by
    rw [hpos']
    exact lfsWord_of_lt (by omega)
  rw [wp_bind, wp_get, hword]
  refine wp_ite (fun hfar => ?_) fun hnear => ?_
  · rw [wp_throw]
    exact .inr ⟨rfl, hfar, ht⟩
  have hroom : s.file.pos + bytes.length ≤ fileMax := not_lt.mp hnear
  -- what is done with a file that begins with `written`
  have hwrite : ∀ u known written old oldBlocks,
      fs.Stage cfg blockCount dirs d₀ known written old oldBlocks u → written.length = s.file.pos →
      u.file.append = false →
      Session.patch (written ++ old.drop written.length) written.length bytes =
        Session.patch data s.file.pos bytes →
      wp (do
          lfsFileFlushedwrite cfg blockCount inlineMax (dirs.alloc cfg blockCount lookaheadSize) getslice
            bytes
          lfsModifyFile fun f => { f with erred := false }
          pure bytes.length)
        (fun n s' => n = bytes.length ∧ s.file.pos + bytes.length ≤ fileMax ∧
          fs.Open cfg blockCount dirs d₀ (Session.patch data s.file.pos bytes) s' ∧
          s'.file.pos = s.file.pos + bytes.length ∧ s'.file.append = false)
        (fun e s' => fs.Halted dirs d₀ e s' ∨
          e = .fbig ∧ fileMax < s.file.pos + bytes.length ∧ fs.Open cfg blockCount dirs d₀ data s') u := by
    intro u known written old oldBlocks hstage hwritten hclean hpatch
    apply wp_mono (hstage.wp_write hm (by omega)) _ fun e v he => .inl he
    rintro n v ⟨rfl, hopen, hat, hkept⟩
    rw [hwritten] at hat
    rw [hpatch] at hopen
    exact ⟨rfl, hroom, hopen, hat, hkept.trans hclean⟩
  have hclean' : t.file.append = false := happend'.trans happend
  rw [wp_bind]
  cases ht with
  | rests known _ blocks _ hrests =>
    have hidle : fs.Idle cfg blockCount dirs d₀ known data blocks t :=
      LfsT.unread_eq hreading (hrests.free hreading) ▸ hrests.idle
    refine wp_when (fun hgap => ?_) fun hgap => ?_
    · -- behind the end: zeros are written up to the position first
      have hgap : data.length < t.file.pos := hidle.size ▸ hgap.2
      apply wp_mono (hidle.wp_lfsFileWriteZeros hm hgap (by omega)) _ fun e u he => .inl he
      rintro - u ⟨⟨known', hstage⟩, hkept⟩
      have hfill := Session.patch_fill data (t.file.pos - data.length) bytes
      rw [Nat.add_sub_cancel' hgap.le, hpos'] at hfill
      rw [hpos'] at hstage
      have hlen' : (data ++ List.replicate (s.file.pos - data.length) 0).length = s.file.pos := by
        rw [List.length_append, List.length_replicate]
        omega
      refine hwrite u known' _ data blocks hstage hlen' (hkept.trans hclean') ?_
      rw [hlen', List.drop_eq_nil_of_le (hpos' ▸ hgap.le), List.append_nil, hfill]
    · -- in the file: what is in front of the position counts as written
      have hwriting : t.file.writing = false := hidle.writing
      have hle : t.file.pos ≤ data.length := by
        rw [hwriting, hidle.size] at hgap
        by_contra hlt
        exact hgap ⟨Bool.false_ne_true, not_le.mp hlt⟩
      have hlen' : (data.take t.file.pos).length = s.file.pos := by
        rw [List.length_take_of_le hle, hpos']
      refine hwrite t known _ data blocks (.inl ⟨hidle, hle, rfl⟩) hlen' hclean' ?_
      rw [hlen', hpos', List.take_append_drop]
  | writing known chain last written old oldBlocks _ hwriting =>
    -- a file that is being written has no gap, its position is the end of what was written
    refine wp_when (fun hgap => absurd hwriting.writing hgap.1) fun _ => ?_
    have hwritten : written.length = s.file.pos := hwriting.tail.pos.symm.trans hpos'
    exact hwrite t known written old oldBlocks (.inr ⟨chain, last, hwriting⟩) hwritten hclean'
      (hwritten ▸ rfl)

end Calls

end Bricklib2
