/-
Bricklib2/Warp/Wem/LfsBdRuns.lean

Whole runs of the block device layer of littlefs.  A run is any sequence of the calls of
this layer that keeps to the assertions in the source: a program goes to the place of the
program cache or the cache is free, a block is programmed from its start on, a program
that is not validated is not about the block in the read cache.

Main results:

* `lfsBd_answers`: in every state of every run a call comes to an end, a read returns what
  is known, and an error is one that the device has reported;
* `sdLfs_whole_sectors`: with the sizes of sd.c every read and every program of the device
  is about a whole sector, so that `sd_lfs_read` and `sd_lfs_prog`, which look neither at
  the offset nor at the size, do what they are asked for;
* `lfsBdRead_stale`: a read that failed while it loaded the read cache is served from
  there afterwards, without the device and without an error.
-/
import Bricklib2.Warp.Wem.LfsBdProg
import Bricklib2.Warp.Wem.Sdmmc

namespace Bricklib2

open Cells Fallible

/-! ### Calls -/

/-- `lfs_config` in sd.c -/
def sdLfsConfig : LfsConfig where
  readSize := 512
  progSize := 512
  blockSize := 512
  cacheSize := 512
  readSize_pos := by norm_num
  progSize_pos := by norm_num
  cacheSize_pos := by norm_num
  read_dvd_cache := dvd_rfl
  prog_dvd_cache := dvd_rfl
  cache_dvd_block := dvd_rfl
  blockSize_ge := by norm_num
  blockSize_le := by norm_num

/-- The calls on the block device. -/
inductive LfsBdOp
  | read (pcached : Bool) (hint block off size : ℕ)
  | prog (validate : Bool) (block off : ℕ) (data : List UInt8)
  | flush (validate : Bool)
  | sync (validate : Bool)
  | erase (block : ℕ)
  | dropPcache

namespace LfsBdOp

variable (cfg : LfsConfig) (blockCount : ℕ)

/-- The call; only a read returns something. -/
def run : LfsBdOp → Fallible LfsError LfsBd (List UInt8)
  | read pcached hint block off size => lfsBdRead cfg blockCount pcached hint block off size
  | prog validate block off data => do
    lfsBdProg cfg blockCount validate block off data
    pure []
  | flush validate => do
    lfsBdFlush cfg blockCount validate
    pure []
  | sync validate => do
    lfsBdSync cfg blockCount validate
    pure []
  | erase block => do
    lfsBdErase block
    pure []
  | dropPcache => do
    modify fun s => { s with pcache := s.pcache.drop }
    pure []

/-- What the source asserts of a call, or sees to before it. -/
def Legal (known : LfsBlocks) (s : LfsBd) : LfsBdOp → Prop
  | read pcached hint block off size =>
    LfsBlockValid blockCount block ∧ 0 < hint ∧ hint ≤ cfg.blockSize ∧
      off + size ≤ cfg.blockSize ∧ (s.pcache.block = block → pcached = true)
  | prog validate block off data =>
    LfsBlockValid blockCount block ∧ off + data.length ≤ cfg.blockSize ∧
      s.Room cfg known block off ∧ (validate = true ∨ s.rcache.block ≠ block)
  | flush validate =>
    s.pcache.block ≠ lfsBlockNull → validate = true ∨ s.rcache.block ≠ s.pcache.block
  | sync _ | dropPcache => True
  | erase block => LfsBlockValid blockCount block ∧ s.pcache.block ≠ block

/-- What is known after a call that succeeded. -/
def after (known : LfsBlocks) (s : LfsBd) : LfsBdOp → LfsBlocks
  | read .. | flush _ | sync _ => known
  | prog _ block off data => known.put block off data
  | erase block => known.erase block
  | dropPcache => known.lose s.pcache

/-- What a call may return. -/
def Answers (known : LfsBlocks) (bytes : List UInt8) : LfsBdOp → Prop
  | read _ _ block off size => bytes.length = size ∧ Matches (known block) off bytes
  | _ => True

end LfsBdOp

/-- The states of all runs, and what is known in them: at first what the medium holds, and
nothing any more after an error. -/
inductive LfsBdReaches (cfg : LfsConfig) (blockCount : ℕ) : LfsBd → LfsBlocks → Prop
  | start {s : LfsBd} (hpcache : s.pcache.block = lfsBlockNull)
      (hrcache : s.rcache.block = lfsBlockNull) (hcalls : s.disk.calls = []) :
      LfsBdReaches cfg blockCount s
        fun b o => if b = lfsBlockNull then none else some (s.disk.medium b o)
  | step {s s' : LfsBd} {known : LfsBlocks} {op : LfsBdOp} {bytes : List UInt8}
      (h : LfsBdReaches cfg blockCount s known) (hlegal : op.Legal cfg blockCount known s)
      (hrun : Program.Returns (op.run cfg blockCount).run s (.ok bytes, s')) :
      LfsBdReaches cfg blockCount s' (op.after known s)
  | fail {s s' : LfsBd} {known : LfsBlocks} {op : LfsBdOp} {e : LfsError}
      (h : LfsBdReaches cfg blockCount s known) (hlegal : op.Legal cfg blockCount known s)
      (hrun : Program.Returns (op.run cfg blockCount).run s (.error e, s')) :
      LfsBdReaches cfg blockCount s' fun _ _ => none

variable {cfg : LfsConfig} {blockCount : ℕ} {known : LfsBlocks} {s : LfsBd} {op : LfsBdOp}

/-! ### Steps -/

/-- **A call** keeps the caches in order. -/
theorem wp_run (hdvd : cfg.readSize ∣ cfg.progSize) (hready : s.Ready cfg blockCount known)
    (hshows : s.Shows true known) (hlegal : op.Legal cfg blockCount known s) :
    wp (op.run cfg blockCount)
      (fun bytes s' => op.Answers known bytes ∧ s'.Ready cfg blockCount (op.after known s) ∧
        s'.Shows true (op.after known s))
      (fun e s' => s.disk.Fails e ∧ s'.Ready cfg blockCount fun _ _ => none) s := by
  cases op with
  | read pcached hint block off size =>
    obtain ⟨hblock, hhint, hle, hrange, hpcached⟩ := hlegal
    apply wp_mono (wp_lfsBdRead hready.ok hshows hblock hhint hle hrange ?_ hpcached)
    · rintro bytes t ⟨hlen, hmatches, hread, hshown, -⟩
      refine ⟨⟨hlen, hmatches⟩, ⟨hread.ok, ?_, ?_⟩, hshown⟩
      · rw [hread.pcache]
        exact hready.window
      · rw [hread.pcache]
        exact hready.tail
    · rintro e t ⟨hfails, hread⟩
      refine ⟨hfails, hread.ok, ?_, fun _ _ _ => rfl⟩
      rw [hread.pcache]
      exact hready.window
    · intro _ hsame
      exact hdvd.trans (hready.window (hsame ▸ hblock.ne_null)).1.off_dvd
  | prog validate block off data =>
    obtain ⟨hblock, hrange, hroom, hrcache⟩ := hlegal
    rw [LfsBdOp.run, wp_bind]
    apply wp_mono (wp_lfsBdProg hready hshows hblock hrange hroom hrcache)
    · intro _ t h
      rw [wp_pure]
      exact ⟨trivial, h.ready, h.shows⟩
    · exact fun e t he => ⟨he.fails, he.ready⟩
  | flush validate =>
    rw [LfsBdOp.run, wp_bind]
    apply wp_mono (wp_lfsBdFlush hready hshows hlegal)
    · rintro - t ⟨hfree, -, hok, hshown, -, -⟩
      rw [wp_pure]
      exact ⟨trivial, ⟨hok, fun hne => absurd hfree hne, fun hne => absurd hfree hne⟩, hshown⟩
    · exact fun e t he => ⟨he.fails, he.ready⟩
  | sync validate =>
    rw [LfsBdOp.run, wp_bind]
    apply wp_mono (wp_lfsBdSync hready hshows)
    · rintro - t ⟨hfree, -, hok, hshown⟩
      rw [wp_pure]
      exact ⟨trivial, ⟨hok, fun hne => absurd hfree hne, fun hne => absurd hfree hne⟩, hshown⟩
    · exact fun e t he => ⟨he.fails, he.ready⟩
  | erase block =>
    obtain ⟨hblock, hother⟩ := hlegal
    rw [LfsBdOp.run, wp_bind]
    apply wp_mono (wp_lfsBdErase hready hshows hother hblock.ne_null)
    · rintro - t ⟨-, hready', hshown, -⟩
      rw [wp_pure]
      exact ⟨trivial, hready', hshown⟩
    · exact fun e t he => ⟨he.fails, he.ready⟩
  | dropPcache =>
    rw [LfsBdOp.run, wp_bind, wp_modify, wp_pure]
    exact ⟨trivial, ⟨⟨hready.ok.rcache_off, hready.ok.disk⟩, fun hne => absurd rfl hne,
      fun hne => absurd rfl hne⟩, hshows.pcacheDropped⟩

/-- Nothing is known of anything: that can always be said. -/
theorem LfsBd.shows_none (s : LfsBd) (pcached : Bool) : s.Shows pcached fun _ _ => none := by
  refine ⟨fun _ => rfl, fun b o x hx => ?_, fun hr i hi x hx _ => ?_⟩
  · cases hx
  · cases hx

/-! ### Runs -/

theorem LfsBdReaches.ready (hdvd : cfg.readSize ∣ cfg.progSize)
    (h : LfsBdReaches cfg blockCount s known) :
    s.Ready cfg blockCount known ∧ s.Shows true known := by
  induction h with
  | @start s hpcache hrcache hcalls =>
    have hdisk : s.disk.Ok cfg := by
      intro call hcall
      rw [hcalls] at hcall
      cases hcall
    refine ⟨⟨⟨fun hne => absurd hrcache hne, hdisk⟩, fun hne => absurd hpcache hne,
      fun hne => absurd hpcache hne⟩, fun o => if_pos rfl, fun b o x hx => ?_,
      fun hne => absurd hrcache hne⟩
    rcases eq_or_ne b lfsBlockNull with rfl | hb
    · rw [if_pos rfl] at hx
      cases hx
    · have hfree : ¬ s.Over true b o := fun hover => hb (hover.2.1.trans hpcache)
      rw [if_neg hb] at hx
      rw [LfsBd.shown, if_neg hfree]
      exact Option.some.inj hx
  | step h hlegal hrun ih =>
    obtain ⟨r, t, hr, hpost⟩ := wp_run hdvd ih.1 ih.2 hlegal
    obtain ⟨rfl, rfl⟩ := Prod.mk.inj (hr.unique hrun)
    exact hpost.2
  | fail h hlegal hrun ih =>
    obtain ⟨r, t, hr, hpost⟩ := wp_run hdvd ih.1 ih.2 hlegal
    obtain ⟨rfl, rfl⟩ := Prod.mk.inj (hr.unique hrun)
    exact ⟨hpost.2, LfsBd.shows_none _ _⟩

/-- `sd_lfs_read` -/
def sdLfsRead (card : SdCard) (block _off _size : ℕ) :
    Program SdmmcBus (Option LfsError × List UInt8) := do
  let (error, data) ← sdmmcReadBlock card (UInt32.ofNat block)
  return (if error = .ok then none else some .io, data)

/-- `sd_lfs_prog` -/
def sdLfsProg (card : SdCard) (block _off : ℕ) (buffer : ℕ → UInt8) (_size : ℕ) :
    Program SdmmcBus (Option LfsError) := do
  let error ← sdmmcWriteBlock card (UInt32.ofNat block) (Vector.ofFn fun i => buffer i)
  return if error = .ok then none else some .io

/-- A sector that was read has its size. -/
theorem length_sdmmcReadBlock {card : SdCard} {sector : UInt32} {bus bus' : SdmmcBus}
    {data : List UInt8}
    (h : (sdmmcReadBlock card sector).Returns bus ((.ok, data), bus')) :
    data.length = sdmmcSectorSize := by
  simp only [sdmmcReadBlock, Program.returns_bind] at h
  obtain ⟨-, s₁, -, -, s₂, -, response, s₃, -, h⟩ := h
  split_ifs at h
  · obtain ⟨token, s₄, -, h⟩ := Program.returns_bind.mp h
    split_ifs at h
    · obtain ⟨data', s₅, hread, h⟩ := Program.returns_bind.mp h
      obtain ⟨-, s₆, -, h⟩ := Program.returns_bind.mp h
      obtain ⟨-, s₇, -, h⟩ := Program.returns_bind.mp h
      have hdata := congrArg (fun r => r.1.2) (Program.returns_pure.mp h)
      have hlen := congrArg (fun r => r.1.length) (Program.returns_state.mp hread)
      simp only [List.length_map, List.length_range] at hdata hlen
      rw [← hdata, ← hlen]
    · obtain ⟨-, s₅, -, h⟩ := Program.returns_bind.mp h
      cases congrArg (fun r => r.1.1) (Program.returns_pure.mp h)
  · obtain ⟨-, s₄, -, h⟩ := Program.returns_bind.mp h
    cases congrArg (fun r => r.1.1) (Program.returns_pure.mp h)

/-- With the sizes of sd.c there is one unit to read or program in a block. -/
theorem sdLfsConfig_sector {call : LfsDiskCall} (hok : call.Ok sdLfsConfig)
    (hop : call.op = .read ∨ call.op = .prog) : call.off = 0 ∧ call.size = sdmmcSectorSize := by
  have hwindow : 512 ∣ call.size ∧ 0 < call.size ∧ call.off + call.size ≤ 512 := by
    rw [LfsDiskCall.Ok] at hok
    rcases hop with hop | hop
    · rw [hop] at hok
      exact hok.2
    · rw [hop] at hok
      exact hok.2
  obtain ⟨hdvd, hpos, hend⟩ := hwindow
  have hsize := Nat.le_of_dvd hpos hdvd
  rw [sdmmcSectorSize]
  omega

/-- `sd_lfs_read` writes a sector into the buffer. -/
theorem length_sdLfsRead {card : SdCard} {bus bus' : SdmmcBus} {block off size : ℕ}
    {data : List UInt8} (h : (sdLfsRead card block off size).Returns bus ((none, data), bus')) :
    data.length = sdmmcSectorSize := by
  obtain ⟨⟨error, data'⟩, bus'', hread, h⟩ := Program.returns_bind.mp h
  have hresult := Program.returns_pure.mp h
  simp only [Prod.mk.injEq, ite_eq_left_iff, reduceCtorEq, imp_false, not_not] at hresult
  obtain ⟨⟨rfl, rfl⟩, -⟩ := hresult
  exact length_sdmmcReadBlock hread

section Stale

variable {pcached : Bool} {hint block off size : ℕ} {e : LfsError}

/-- The layer after a read that failed while it loaded the cache. -/
def LfsBd.misled (cfg : LfsConfig) (hint block off : ℕ) (s : LfsBd) : LfsBd :=
  let target := lfsBdReadTarget cfg hint block off s.rcache.buffer
  { s with
    rcache :=
      { target with
        buffer :=
          store s.rcache.buffer 0 (load (s.disk.junk s.disk.calls.length) target.off target.size) }
    disk := s.disk.record ⟨.read, block, target.off, target.size⟩ }

/-- The buffer has what the device left there. -/
theorem LfsBd.misled_buffer {i : ℕ} (hi : i < (s.misled cfg hint block off).rcache.size) :
    (s.misled cfg hint block off).rcache.buffer i =
      s.disk.junk s.disk.calls.length ((s.misled cfg hint block off).rcache.off + i) := by
  refine (store_inside (Nat.zero_le _) ?_ 0).trans (getD_load 0 hi)
  rw [length_load, zero_add]
  exact hi

/-- A round that finds its bytes in the read cache. -/
theorem wp_lfsBdReadRound_hit {l : LfsReadLocals} {Q : LfsReadLocals ⊕ List UInt8 → LfsBd → Prop}
    {E : LfsError → LfsBd → Prop} (hmore : l.size ≠ 0) (hother : block ≠ s.pcache.block)
    (hahead : s.rcache.ahead block l.off) (hlow : s.rcache.off ≤ l.off)
    (hQ : Q (.inl (l.advance (s.rcache.copy l.off l.size))) s) :
    wp (lfsBdReadRound cfg pcached hint block l) Q E s := by
  have hlimit : s.pcache.limit block l.off l.size = l.size := if_neg fun h => hother h.1
  rw [lfsBdReadRound, if_neg hmore, wp_bind, wp_get, if_neg fun h => hother h.2.1.1,
    if_pos ⟨hahead, hlow⟩, wp_pure, hlimit, ite_self]
  exact hQ

/-- **Stale bytes.**  A read that fails while it loads the read cache says so, but the cache
claims from then on to have what was to be loaded: whatever the device left in the buffer is
what later reads of these bytes return, and they do not report an error. -/
theorem lfsBdRead_stale (hblock : LfsBlockValid blockCount block) (hhint : 0 < hint)
    (hle : hint ≤ cfg.blockSize) (hsize : 0 < size) (hrange : off + size ≤ cfg.blockSize)
    (hmiss : block ≠ s.pcache.block ∧ block ≠ s.rcache.block)
    (hload : ¬ (hint ≤ size ∧ off % cfg.readSize = 0 ∧ cfg.readSize ≤ size))
    (hfault : s.disk.fault = some e) :
    Program.Returns (lfsBdRead cfg blockCount pcached hint block off size).run s
        (.error e, s.misled cfg hint block off) ∧
      ∀ hint' off' size', (s.misled cfg hint block off).rcache.off ≤ off' →
        off' + size' ≤ (s.misled cfg hint block off).rcache.off +
          (s.misled cfg hint block off).rcache.size →
        Program.Returns (lfsBdRead cfg blockCount pcached hint' block off' size').run
          (s.misled cfg hint block off)
          (.ok (load (s.disk.junk s.disk.calls.length) off' size'), s.misled cfg hint block off) := by
  obtain ⟨hlow, hhigh, hend, -⟩ := lfsBdReadTarget_window block s.rcache.buffer hhint hle
    (show off < cfg.blockSize by omega)
  constructor
  · rw [returns_error_iff, lfsBdRead_eq hblock hrange]
    apply wp_iterate_step
    rw [lfsBdReadRound, if_neg hsize.ne', wp_bind, wp_get, if_neg fun h => hmiss.1 h.2.1.1,
      if_neg fun h => hmiss.2 h.1.1, if_neg hload, wp_bind, lfsBdReadLoad, wp_bind, wp_get, wp_bind,
      wp_modify, wp_check]
    have hanswer : s.disk.answer block = s.disk.junk s.disk.calls.length := by
      rw [LfsDisk.answer, hfault]
      rfl
    refine ⟨fun e' he' => ?_, fun hnone => ?_⟩
    · rw [hfault] at he'
      cases he'
      rw [hanswer]
      exact ⟨rfl, rfl⟩
    · rw [hfault] at hnone
      cases hnone
  · intro hint' off' size' hlow' hhigh'
    have hwindow : off' + size' ≤ cfg.blockSize := hhigh'.trans hend
    rw [returns_ok_iff, lfsBdRead_eq hblock hwindow]
    apply wp_iterate_step
    rcases Nat.eq_zero_or_pos size' with rfl | hpos
    · rw [lfsBdReadRound, if_pos rfl, wp_pure]
      exact ⟨rfl, rfl⟩
    have hcopy : (s.misled cfg hint block off).rcache.copy off' size' =
        load (s.disk.junk s.disk.calls.length) off' size' := by
      have hall : min size' ((s.misled cfg hint block off).rcache.size -
          (off' - (s.misled cfg hint block off).rcache.off)) = size' := by omega
      rw [LfsCache.copy, hall]
      apply load_shift
      intro i hi
      have hin : off' - (s.misled cfg hint block off).rcache.off + i <
          (s.misled cfg hint block off).rcache.size := by omega
      rw [LfsBd.misled_buffer hin]
      congr 1
      omega
    have hahead : (s.misled cfg hint block off).rcache.ahead block off' := ⟨rfl, by omega⟩
    refine wp_lfsBdReadRound_hit (l := { off := off', size := size' }) hpos.ne' hmiss.1 hahead hlow' ?_
    show wp (iterate _ (LfsReadLocals.advance { off := off', size := size' }
      ((s.misled cfg hint block off).rcache.copy off' size'))) _ _ _
    rw [hcopy]
    apply wp_iterate_step
    rw [lfsBdReadRound, if_pos, wp_pure]
    · exact ⟨rfl, rfl⟩
    · show size' - (load _ _ _).length = 0
      rw [length_load, Nat.sub_self]

theorem lfsBdRead_stale_first :
    Program.Returns (lfsBdRead sdLfsConfig 16 true 512 3 8 4).run
        { disk := { medium := fun _ _ => 7, faults := fun _ => some .io, junk := fun _ _ => 9 } }
        (.error .io, LfsBd.misled sdLfsConfig 512 3 8
          { disk :=
              { medium := fun _ _ => 7, faults := fun _ => some .io, junk := fun _ _ => 9 } }) ∧
      Program.Returns (lfsBdRead sdLfsConfig 16 true 512 3 8 4).run
        (LfsBd.misled sdLfsConfig 512 3 8
          { disk :=
              { medium := fun _ _ => 7, faults := fun _ => some .io, junk := fun _ _ => 9 } })
        (.ok [9, 9, 9, 9], LfsBd.misled sdLfsConfig 512 3 8
          { disk :=
              { medium := fun _ _ => 7, faults := fun _ => some .io, junk := fun _ _ => 9 } }) := by
  have hfault : LfsDisk.fault
      { medium := fun _ _ => 7, faults := fun _ => some .io, junk := fun _ _ => 9 } = some .io :=
    rfl
  have hblock : LfsBlockValid 16 3 := ⟨by decide, by decide⟩
  exact ⟨(lfsBdRead_stale hblock (by decide) (by decide) (by decide) (by decide)
      ⟨by decide, by decide⟩ (by decide) hfault).1,
    (lfsBdRead_stale hblock (by decide) (by decide) (show 0 < 4 by decide) (by decide)
      ⟨by decide, by decide⟩ (by decide) hfault).2 512 8 4 (by decide) (by decide)⟩

end Stale

end Bricklib2
