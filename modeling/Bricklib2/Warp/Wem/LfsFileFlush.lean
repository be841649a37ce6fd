/-
Bricklib2/Warp/Wem/LfsFileFlush.lean

Flushing an open file of littlefs that is a list of blocks (`lfs_file_flush`).  What is behind the
last write is copied from the old file, through a cache that shares its buffer with the read
cache; then the new blocks become the file.

Main result: `LfsFs.Writing.wp_lfsFileFlushWriting`, the new blocks have what was written and the rest
of the old file behind it.
-/
import Bricklib2.Warp.Wem.LfsFileWrite

namespace Bricklib2

open BinaryOnes Cells Fallible

section Flush

variable {δ : Type} {cfg : LfsConfig} {blockCount lookaheadSize inlineMax : ℕ} {dirs : LfsDirOps δ}
  {fs : LfsFs δ} {known known' : LfsBlocks} {d₀ : LfsDisk} {s s' : LfsT} {orig : LfsFileT}
  {written old : List UInt8} {blocks oldBlocks : List ℕ} {chain : ℕ → ℕ} {last : ℕ}
  {getslice : ℕ → ℕ → Fallible LfsError LfsReader (List UInt8)}

/-! ### The old file -/

open Classical in
/-- What is known of some blocks. -/
noncomputable def LfsBlocks.only (known : LfsBlocks) (blocks : List ℕ) : LfsBlocks := fun b o =>
  if b ∈ blocks then known b o else none

theorem LfsBlocks.only_of_mem {b : ℕ} (h : b ∈ blocks) : known.only blocks b = known b := by
  funext o
  exact if_pos h

theorem LfsBlocks.only_eq_some {b o : ℕ} {x : UInt8} :
    known.only blocks b o = some x ↔ b ∈ blocks ∧ known b o = some x := by
  rw [LfsBlocks.only]
  split_ifs with h
  · exact ⟨fun hx => ⟨h, hx⟩, And.right⟩
  · exact ⟨nofun, fun hx => absurd hx.1 h⟩

/-- The old file with the buffer of the read cache. -/
def LfsFileT.sharing (orig : LfsFileT) (s : LfsT) : LfsReader where
  file := { orig with cache := { orig.cache with buffer := s.rcache.buffer } }
  disk := s.disk

/-- What a read of the old file leaves behind. -/
structure LfsT.Borrowed (cfg : LfsConfig) (s s' : LfsT) : Prop where
  state : s' = { s with disk := s'.disk, rcache := { s.rcache with buffer := s'.rcache.buffer } }
  medium : s'.disk.medium = s.disk.medium
  disk : s.disk.Later s'.disk
  ok : s'.disk.Ok cfg

theorem wp_lfsFileFlushOrig
    (h : (orig.sharing s).On cfg blockCount (known.only oldBlocks) old oldBlocks) :
    wp (lfsFileFlushOrig cfg blockCount getslice orig)
      (fun r s' => r.1 = (old.drop orig.pos).take 1 ∧
        (r.2.sharing s').On cfg blockCount (known.only oldBlocks) old oldBlocks ∧
        r.2.pos = orig.pos + r.1.length ∧ s.Borrowed cfg s')
      (fun e s' => s.disk.Fails e ∧ s'.disk.medium = s.disk.medium) s := by
  rw [lfsFileFlushOrig, wp_zoom, wp_bind]
  apply wp_mono (LfsReader.wp_lfsFileFlushedread h)
  · rintro bytes r ⟨hbytes, hon, hadvanced⟩
    rw [wp_bind, wp_get, wp_pure]
    refine ⟨hbytes, hon, ?_, rfl, hadvanced.bd.medium, hadvanced.bd.disk, hon.bd.ok.disk⟩
    show r.file.pos = _
    rw [hadvanced.file]
    rfl
  · exact fun e r he => ⟨he.fails, he.bd.medium⟩

/-- Writes do not matter to the old file, if its cache is given up as soon as the read cache is
used. -/
theorem LfsFileT.sharing_on (h : (orig.sharing s).On cfg blockCount (known.only oldBlocks) old oldBlocks)
    (hcache : orig.cache.block = lfsBlockNull ∨ s'.rcache = s.rcache)
    (hmedium : ∀ b ∈ oldBlocks, s'.disk.medium b = s.disk.medium b) (hok : s'.disk.Ok cfg) :
    (orig.sharing s').On cfg blockCount (known.only oldBlocks) old oldBlocks := by
  refine ⟨h.inline, h.content, h.size, ⟨⟨h.bd.ok.rcache_off, hok⟩, ⟨h.bd.shows.null, ?_, ?_⟩,
    fun hne => absurd rfl hne, fun _ _ _ => rfl⟩, h.place⟩
  · intro b o x hx
    have hshown := h.bd.shows.shown b o x hx
    have hfree : ∀ t, ¬ (orig.sharing t).bd.Over false b o := fun t hover => Bool.false_ne_true hover.1
    rw [LfsBd.shown, if_neg (hfree s)] at hshown
    rw [LfsBd.shown, if_neg (hfree s'), ← hshown]
    exact congrFun (hmedium b (LfsBlocks.only_eq_some.mp hx).1) o
  · intro hused i hi x hx _
    rcases hcache with hnull | hrcache
    · exact absurd hnull hused
    · show s'.rcache.buffer i = x
      rw [hrcache]
      exact h.bd.shows.rcache hused i hi x hx fun hover => Bool.false_ne_true hover.1

/-! ### The rest of the old file -/

theorem LfsFs.Writing.borrowed (h : fs.Writing cfg blockCount dirs d₀ known chain last written old oldBlocks s)
    (hfree : s.rcache.block = lfsBlockNull) (hb : s.Borrowed cfg s') :
    fs.Writing cfg blockCount dirs d₀ known chain last written old oldBlocks s' := by
  obtain ⟨hstate, hmedium, hdisk, hok⟩ := hb
  have ht := h.tail
  generalize s'.disk = d at *
  generalize s'.rcache.buffer = buffer at *
  subst hstate
  refine ⟨⟨⟨ht.around.keeps, fun b hb => ?_, ht.around.later.trans hdisk, ht.around.pcache⟩, ht.old, ht.inline,
    ht.reading, ht.stored, ht.ends, ht.pos, ht.block, ht.fresh, ⟨⟨ht.ready.ok.rcache_off, hok⟩,
    ht.ready.window, ht.ready.tail⟩, ⟨ht.shows.null, fun b o x hx => ?_, fun hne => absurd hfree hne⟩,
    ⟨ht.appends.free, ht.appends.used⟩, ht.empty, ht.reserves⟩, h.writing, h.more⟩
  · show d.medium b = _
    rw [hmedium, ht.around.untouched b hb]
  · rw [← ht.shows.shown b o x hx]
    show (if _ then _ else d.medium b o) = _
    rw [hmedium]
    rfl

theorem LfsFs.Writing.dropRcache
    (h : fs.Writing cfg blockCount dirs d₀ known chain last written old oldBlocks s) :
    fs.Writing cfg blockCount dirs d₀ known chain last written old oldBlocks
      { s with rcache := s.rcache.drop } := by
  have ht := h.tail
  exact ⟨⟨⟨ht.around.keeps, ht.around.untouched, ht.around.later, ht.around.pcache⟩, ht.old, ht.inline,
    ht.reading, ht.stored, ht.ends, ht.pos, ht.block, ht.fresh,
    ⟨⟨fun hne => absurd rfl hne, ht.ready.ok.disk⟩, ht.ready.window, ht.ready.tail⟩, ht.shows.dropped,
    ⟨ht.appends.free, ht.appends.used⟩, ht.empty, ht.reserves⟩, h.writing, h.more⟩

/-- What the copy of the old file leaves behind of the open one. -/
def LfsFileT.Moved (n : ℕ) (f f' : LfsFileT) : Prop :=
  f' = { f with cache := f'.cache, block := f'.block, off := f'.off, writing := f'.writing,
                pos := f.pos + n }

/-- **The copy** of what is behind the last write. -/
theorem LfsFs.Writing.wp_lfsFileFlushTail (hm : fs.Mounted cfg blockCount lookaheadSize dirs d₀)
    (hlong : 8 < cfg.cacheSize)
    (h : fs.Writing cfg blockCount dirs d₀ known chain last written old oldBlocks s)
    (hfree : s.rcache.block = lfsBlockNull) (hpos : orig.pos = s.file.pos)
    (hon : written.length < old.length →
      (orig.sharing s).On cfg blockCount (known.only oldBlocks) old oldBlocks)
    (hlenOld : old.length < 2 ^ 32) :
    wp (lfsFileFlushTail cfg blockCount inlineMax (dirs.alloc cfg blockCount lookaheadSize) getslice orig)
      (fun _ s' => (∃ known' chain last, fs.Writing cfg blockCount dirs d₀ known' chain last
        (written ++ old.drop written.length) old oldBlocks s') ∧
        s.file.Moved (old.length - written.length) s'.file)
      (fs.Halted dirs d₀) s := by
  apply wp_iterate
    (I := fun orig t => ∃ n known' chain last, n ≤ old.length - written.length ∧
      fs.Writing cfg blockCount dirs d₀ known' chain last (written ++ (old.drop written.length).take n) old
        oldBlocks t ∧ t.rcache.block = lfsBlockNull ∧ orig.pos = t.file.pos ∧
      (t.file.pos < old.length →
        (orig.sharing t).On cfg blockCount (known.only oldBlocks) old oldBlocks) ∧
      s.file.Moved n t.file)
    (fun _ t => old.length - t.file.pos)
  · rintro orig t ⟨n, known', chain, last, hn, ht, hnull, horig, hon', hmoved⟩
    have hlen' : (written ++ (old.drop written.length).take n).length = written.length + n := by
      rw [List.length_append, List.length_take, List.length_drop]
      omega
    have hposT := ht.tail.pos
    have hsize := ht.tail.old.size
    rw [wp_bind, wp_get]
    refine wp_ite (fun hend => ?_) fun hmore => ?_
    · -- all of it is copied
      have hall : n = old.length - written.length := by omega
      rw [hall, List.take_of_length_le (by rw [List.length_drop])] at ht
      rw [wp_pure]
      exact ⟨⟨known', chain, last, ht⟩, hall ▸ hmoved⟩
    · have hmore : t.file.pos < old.length := by omega
      rw [wp_bind]
      apply wp_mono (wp_lfsFileFlushOrig (hon' hmore))
      · rintro ⟨bytes, orig'⟩ u ⟨hbytes, hon'', hpos', hborrowed⟩
        have hu := ht.borrowed hnull hborrowed
        have hstate := hborrowed.state
        have hfile : u.file = t.file := by rw [hstate]
        have hnull' : u.rcache.block = lfsBlockNull := by rw [hstate]; exact hnull
        have hone : bytes.length = 1 := by
          have hbytes : bytes = (old.drop orig.pos).take 1 := hbytes
          rw [hbytes, List.length_take, List.length_drop]
          omega
        have hne : bytes ≠ [] := List.length_pos_iff.mp (by omega)
        rw [wp_bind]
        apply wp_mono (LfsFs.Stage.wp_lfsFileFlushedwrite hm (.inr ⟨chain, last, hu⟩) (by
          show _ + bytes.length < _
          omega) hne) _ fun e v he => he
        rintro - v ⟨⟨known'', chain', last', hv⟩, hgrown⟩
        have hwritten : written ++ (old.drop written.length).take n ++ bytes =
            written ++ (old.drop written.length).take (n + 1) := by
          have hbytes : bytes = (old.drop orig.pos).take 1 := hbytes
          rw [List.append_assoc, List.take_add, List.drop_drop, hbytes, horig, hposT, hlen']
        have hmoved' : s.file.Moved (n + 1) v.file := by
          have hgrownFile := hgrown.file
          rw [hone, hfile, hmoved, Nat.add_assoc] at hgrownFile
          exact hgrownFile
        have hposV : v.file.pos = t.file.pos + 1 := by
          rw [hgrown.file, hone, hfile]
        have hposO : orig'.pos = v.file.pos := by
          have hpos' : orig'.pos = orig.pos + bytes.length := hpos'
          omega
        have hok : v.disk.Ok cfg := hv.tail.ready.ok.disk
        rw [hwritten] at hv
        rw [wp_bind, wp_get]
        refine wp_ite (fun hused => ?_) fun hunused => ?_
        · rw [wp_bind, wp_modify, wp_pure]
          refine ⟨⟨n + 1, known'', chain', last', by omega, hv.dropRcache, rfl, hposO, fun _ => ?_,
            hmoved'⟩, by show old.length - v.file.pos < _; omega⟩
          have hdropped : (LfsFileT.sharing { orig' with cache := orig'.cache.drop } u).On cfg blockCount
              (known.only oldBlocks) old oldBlocks :=
            ⟨hon''.inline, hon''.content, hon''.size,
              ⟨⟨fun hne => absurd rfl hne, hon''.bd.ok.disk⟩, ⟨hon''.bd.shows.null,
                hon''.bd.shows.shown, fun hne => absurd rfl hne⟩, fun hne => absurd rfl hne,
                fun _ _ _ => rfl⟩, hon''.place⟩
          exact LfsFileT.sharing_on hdropped (.inl rfl) hgrown.medium hok
        · have hnullV : v.rcache.block = lfsBlockNull := not_not.mp hunused
          rw [wp_pure]
          exact ⟨⟨n + 1, known'', chain', last', by omega, hv, hnullV, hposO,
            fun _ => LfsFileT.sharing_on hon'' (.inr (hgrown.loaded hlong hnullV)) hgrown.medium hok,
            hmoved'⟩, by omega⟩
      · rintro e u ⟨hfails, hmedium⟩
        refine ⟨.inl (ht.tail.around.later.fails hfails), fun b hb => ?_⟩
        rw [hmedium, ht.tail.around.untouched b hb]
  · refine ⟨0, known, chain, last, Nat.zero_le _, ?_, hfree, hpos, fun hlt => hon ?_, rfl⟩
    · rw [List.take_zero, List.append_nil]
      exact h
    · rwa [h.tail.pos] at hlt

/-! ### The new file -/

theorem LfsFs.Tail.pcache_block
    (h : fs.Tail cfg blockCount dirs d₀ known chain last written old oldBlocks s) :
    s.file.cache.block = lfsBlockNull ∨ s.file.cache.block = chain last := by
  rcases eq_or_ne s.file.cache.block lfsBlockNull with hfree | hused
  · exact .inl hfree
  · exact .inr (h.appends.used hused).1

theorem LfsFs.Tail.live_ne (hm : fs.Mounted cfg blockCount lookaheadSize dirs d₀)
    (h : fs.Tail cfg blockCount dirs d₀ known chain last written old oldBlocks s) {b : ℕ}
    (hb : b ∈ fs.live dirs) : b ≠ s.file.cache.block := by
  rintro rfl
  rcases h.pcache_block with hnull | hlast
  · have hlt := hm.committed.live_lt _ hb
    have hcount := hm.count
    rw [hnull, lfsBlockNull] at hlt
    omega
  · exact h.fresh.1 (hlast ▸ hb)

/-- What is known of the old file is on the medium. -/
theorem LfsFs.Tail.sharing_on
    (h : fs.Tail cfg blockCount dirs d₀ known chain last written old oldBlocks s)
    (hcontent : LfsContent cfg blockCount known s.file.head old oldBlocks) :
    (LfsFileT.sharing { head := s.file.head, size := s.file.size, pos := s.file.pos, cache := s.rcache }
      s).On cfg blockCount (known.only oldBlocks) old oldBlocks := by
  have hfree : ∀ b o, b ∈ oldBlocks → known b o ≠ none → ¬ s.bd.Over true b o := by
    rintro b o hb hx ⟨-, hblock, -⟩
    rcases h.pcache_block with hnull | hlast
    · exact hx (by rw [hblock.trans hnull]; exact h.shows.null o)
    · exact h.fresh.2.1 (hlast ▸ hblock ▸ hb)
  have hsome : ∀ b o x, known.only oldBlocks b o = some x →
      known b o = some x ∧ ¬ s.bd.Over true b o := by
    intro b o x hx
    obtain ⟨hb, hknown⟩ := LfsBlocks.only_eq_some.mp hx
    exact ⟨hknown, hfree b o hb (hknown ▸ Option.some_ne_none x)⟩
  refine ⟨rfl, hcontent.of_eq fun b hb => LfsBlocks.only_of_mem hb, h.old.size,
    ⟨⟨h.ready.ok.rcache_off, h.ready.ok.disk⟩, ⟨fun o => ?_, fun b o x hx => ?_, fun hused i hi x hx _ => ?_⟩,
      fun hne => absurd rfl hne, fun _ _ _ => rfl⟩, nofun⟩
  · rw [Option.eq_none_iff_forall_ne_some]
    intro x hx
    have hnone := h.shows.null o
    rw [(hsome _ _ x hx).1] at hnone
    cases hnone
  · obtain ⟨hknown, hnot⟩ := hsome b o x hx
    have hshown := h.shows.shown b o x hknown
    rw [LfsBd.shown, if_neg hnot] at hshown
    rw [LfsBd.shown, if_neg fun hover => Bool.false_ne_true hover.1]
    exact hshown
  · obtain ⟨hknown, hnot⟩ := hsome _ _ x hx
    exact h.shows.rcache hused i hi x hknown hnot

theorem LfsFs.Tail.wp_lfsFileFlushCache (hm : fs.Mounted cfg blockCount lookaheadSize dirs d₀)
    (h : fs.Tail cfg blockCount dirs d₀ known chain last written old oldBlocks s) :
    wp (lfsFileFlushCache cfg blockCount (dirs.alloc cfg blockCount lookaheadSize) getslice)
      (fun _ s' => ∃ b, s' = s.setBd b ∧ s.bd.Flushed cfg true known b)
      (fs.Halted dirs d₀) s := by
  apply wp_iterate_step
  rw [wp_bind]
  apply wp_lfsGoesBad (Q := fun _ s' => ∃ b, s' = s.setBd b ∧ s.bd.Flushed cfg true known b)
    (E := fs.Halted dirs d₀)
  · rw [LfsT.onBd, wp_zoom]
    apply wp_mono (wp_lfsBdFlush h.ready h.shows fun _ => .inl rfl)
    · exact fun _ b hb => ⟨b, rfl, hb⟩
    · rintro e b ⟨hfails, hwrites, -⟩
      refine ⟨.inl (h.around.later.fails hfails), fun c hc => ?_⟩
      rw [← h.around.untouched c hc]
      exact hwrites.medium c (h.live_ne hm hc)
  · intro t ht
    rw [if_neg Bool.false_ne_true, wp_pure]
    exact ht
  · exact fun t ht => absurd ht hm.not_corrupt

/-- **Flushing** a file that is being written makes its blocks the file. -/
theorem LfsFs.Writing.wp_lfsFileFlushWriting (hm : fs.Mounted cfg blockCount lookaheadSize dirs d₀)
    (hlong : 8 < cfg.cacheSize)
    (h : fs.Writing cfg blockCount dirs d₀ known chain last written old oldBlocks s)
    (hlen : written.length < 2 ^ 32) (hlenOld : old.length < 2 ^ 32) :
    wp (lfsFileFlushWriting cfg blockCount inlineMax (dirs.alloc cfg blockCount lookaheadSize) getslice)
      (fun _ s' => (∃ known' blocks, fs.Idle cfg blockCount dirs d₀ known'
        (written ++ old.drop written.length) blocks s') ∧ s'.file.pos = s.file.pos ∧
        s'.file.append = s.file.append)
      (fs.Halted dirs d₀) s := by
  have hinline : ¬ s.file.inline = true := by
    rw [h.tail.inline]
    exact Bool.false_ne_true
  rw [lfsFileFlushWriting, wp_bind, wp_get, if_neg hinline, wp_bind, lfsFileFlushBlocks, wp_bind, wp_get,
    wp_bind, wp_modify, wp_bind]
  have hon : written.length < old.length → (LfsFileT.sharing
      { head := s.file.head, size := s.file.size, pos := s.file.pos, cache := s.rcache }
      { s with rcache := s.rcache.drop }).On cfg blockCount (known.only oldBlocks) old oldBlocks := by
    intro hlt
    rcases h.tail.old.content with hcontent | ⟨hle, -, -⟩
    · exact h.tail.sharing_on hcontent
    · rw [h.tail.pos] at hle
      omega
  have hpos : LfsFileT.pos
      { head := s.file.head, size := s.file.size, pos := s.file.pos, cache := s.rcache } = s.file.pos := rfl
  apply wp_mono (h.dropRcache.wp_lfsFileFlushTail hm hlong rfl hpos hon hlenOld) _ fun e t he => he
  rintro - t ⟨⟨known', chain', last', ht⟩, hmoved⟩
  apply wp_mono (ht.tail.wp_lfsFileFlushCache hm) _ fun e u he => he
  rintro - u ⟨b, rfl, hflushed⟩
  have htail := ht.tail
  have happend : t.file.append = s.file.append := by
    rw [show t.file = _ from hmoved]
  have hlen' : (written ++ old.drop written.length).length < 2 ^ 32 := by
    rw [List.length_append, List.length_drop]
    omega
  rw [lfsModifyFile, wp_modify]
  refine ⟨⟨known', _, ⟨htail.around.keeps, fun c hc => ?_, htail.around.later.trans hflushed.writes.disk,
    htail.around.pcache⟩, ht.content hlen', htail.pos, fun _ _ => .inr rfl, htail.inline, htail.reading, rfl,
    hflushed.free, hflushed.ok, hflushed.shows, htail.reserves.mono ?_⟩, rfl,
    happend⟩
  · rw [← htail.around.untouched c hc]
    exact hflushed.writes.medium c (htail.live_ne hm hc)
  · rintro c (hc | hc | hc)
    · exact .inl hc
    · exact absurd hc List.not_mem_nil
    · exact .inr (.inl hc)

end Flush

end Bricklib2
