/-
Bricklib2/Warp/Wem/ReadBack.lean

Read your writes.  A read can be answered from the cache of missing files, from the
error of the last open or from the buffered file; where none of these is stale, it
returns the value that was written last.

Main results: `written_readBack` for the runs that meet `ReadsBackKept`, and
`written_hidden`, a run in which a file is written behind a read that missed it and
the next read is answered with the old error.
-/
import Bricklib2.Warp.Wem.LastWrite
import Bricklib2.Warp.Wem.SdContent

namespace Bricklib2

open FileStore Machine

variable {b : Build}

/-! ### The buffered file -/

theorem bufferFresh_sdRead {k : DataKind} {r : GetRequest} {amount offset : ℕ}
    {codes old : ReadCodes} {data : List UInt8} {sd : SdFiles} (h : sd.BufferFresh) :
    (sdRead b k r amount offset codes old data sd).sd.BufferFresh := by
  apply sdRead_induct (P := SdFiles.BufferFresh)
  · exact fun sd h => h.sdLfsOpenBufferedRead _ _
  · exact fun sd h => h.sdLfsOpenBufferedRead _ _
  · intro pos code sd h hopen
    have hcontent : (sd.seekBuffered pos code).bufferedReadFile.content = _ := Session.seek_content
    rw [hcontent]
    exact h hopen
  · exact fun n code sd h => h
  · exact fun code sd _ hopen => by cases hopen
  · exact h

/-- A write of another file than the buffered one. -/
theorem bufferFresh_sdWrite {p : DataPoint b} {codes : WriteCodes} {sd : SdFiles}
    (h : sd.BufferFresh)
    (hother : sd.bufferedReadIsOpen = true → sd.bufferedReadCurrent ≠ p.fileName) :
    (sdWrite p codes sd).1.BufferFresh := by
  obtain ⟨hfile, hisOpen, -, hcurrent⟩ := sdWrite_bufferedReadFile p codes sd
  intro hopen
  rw [hisOpen] at hopen
  rw [hfile, hcurrent, sdWrite_files_of_ne fun heq =>
    hother hopen (sdGetPathWithFilename_injective heq)]
  exact h hopen

/-! ### Values that were written -/

namespace SdSystem

variable {s s' : SdSystem b} {env : SdEnv} {k : DataKind}

/-- The newest point that was written to its slot. -/
def LastWritten (s : SdSystem b) (p : QueuedPoint b) : Prop :=
  s.written.find? (fun q => decide (q.point.SameSlot p.point)) = some p

instance (s : SdSystem b) (p : QueuedPoint b) : Decidable (s.LastWritten p) :=
  inferInstanceAs (Decidable (_ = _))

/-- What the read the task is in would hand out. -/
def readResult (s : SdSystem b) (env : SdEnv) (k : DataKind) (offset amount : ℕ) (r : GetRequest) :
    ReadResult :=
  sdRead b k r amount (offset / entrySize b k) env.read env.readOld (s.sd.cbData k) s.sd.files

/-- A read that succeeds returns what was written last to each slot it covers. -/
def ReadsBack (s : SdSystem b) (env : SdEnv) : Prop :=
  ∀ k offset amount r, s.pc = .reading k offset amount r →
    1 ≤ r.day.toNat → (s.readResult env k offset amount r).ok = true →
    ∀ p i, s.LastWritten p → p.point.kind = k → p.point.fileName = r.fileName k →
      p.point.slot = k.slot r.day r.hour r.minute + offset / entrySize b k + i → i < amount →
      ((s.readResult env k offset amount r).data.drop (i * entrySize b k)).take (entrySize b k) =
        p.point.data

/-- The task at `pc` keeps what is written readable: it formats no written card, a
write keeps its slot and the cache in order and is not of the buffered file, and a
read is not answered with the error of a file that has been created since. -/
def ReadsBackKeptAt (env : SdEnv) (s : SdSystem b) : SdPc b → Prop
  | .loop => s.initDue env = true → env.init.formats s.sdLfsFormat = false ∨ s.written = []
  | .writing _ p =>
    p.point.InRange ∧ env.write.Honest p.point.fileName s.sd.files ∧
      (p.point.kind.daily = true → env.write.seek = none) ∧
      (s.writeSucceeds p env = true → env.write.unopened = false) ∧
      RemovesEntry p.point.fileName env.write s.sd.files ∧
      (s.sd.files.bufferedReadIsOpen = true →
        s.sd.files.bufferedReadCurrent ≠ p.point.fileName)
  | .reading k _ _ r =>
    ReadsHonestly k r env.read env.readOld s.sd.files ∧
      (k.daily = true → env.read.seek = none) ∧
      (s.sd.files.bufferedReadIsOpen = false →
        Error.isMissing s.sd.files.bufferedReadCurrentErr = true →
        s.sd.files.bufferedReadCurrent = r.fileName k →
        s.sd.files.lfs.files (sdGetPathWithFilename (r.fileName k)) = none)
  | _ => True

/-- Every step keeps what is written readable. -/
def ReadsBackKept (s : SdSystem b) : SdEvent b → Prop
  | .task env => s.ReadsBackKeptAt env s.pc
  | _ => True

instance (env : SdEnv) (s : SdSystem b) : ∀ pc, Decidable (s.ReadsBackKeptAt env pc)
  | .loop => inferInstanceAs (Decidable (_ = true → _ = false ∨ _ = []))
  | .writing _ p =>
    inferInstanceAs (Decidable (p.point.InRange ∧ _ ∧ (_ → _) ∧ (_ = true → _ = false) ∧
      RemovesEntry _ _ _ ∧ (_ = true → _ ≠ _)))
  | .reading _ _ _ _ =>
    inferInstanceAs (Decidable (ReadsHonestly _ _ _ _ _ ∧ (_ = true → _ = none) ∧
      (_ = false → _ = true → _ = _ → _ = none)))
  | .setter _ | .getter _ _ | .waiting _ _ _ | .storage => isTrue trivial

instance (s : SdSystem b) : ∀ e, Decidable (s.ReadsBackKept e)
  | .task env => inferInstanceAs (Decidable (s.ReadsBackKeptAt env s.pc))
  | .append _ | .request _ _ | .ack _ | .pageWrite _ _ _ | .storageTick _ | .requestFormat =>
    isTrue trivial

/-- The task at `pc` does not write the file that is open for reading. -/
def BufferKeptAt (s : SdSystem b) : SdPc b → Prop
  | .writing _ p =>
    s.sd.files.bufferedReadIsOpen = true → s.sd.files.bufferedReadCurrent ≠ p.point.fileName
  | _ => True

/-- No step writes the file that is open for reading. -/
def BufferKept (s : SdSystem b) : SdEvent b → Prop
  | .task _ => s.BufferKeptAt s.pc
  | _ => True

instance (s : SdSystem b) : ∀ pc, Decidable (s.BufferKeptAt pc)
  | .writing _ _ => inferInstanceAs (Decidable (_ = true → _ ≠ _))
  | .loop | .setter _ | .getter _ _ | .reading _ _ _ _ | .waiting _ _ _ | .storage =>
    isTrue trivial

instance (s : SdSystem b) : ∀ e, Decidable (s.BufferKept e)
  | .task _ => inferInstanceAs (Decidable (s.BufferKeptAt s.pc))
  | .append _ | .request _ _ | .ack _ | .pageWrite _ _ _ | .storageTick _ | .requestFormat =>
    isTrue trivial

theorem ReadsBackKept.bufferKept {e : SdEvent b} (h : s.ReadsBackKept e) : s.BufferKept e := by
  cases e with
  | task env =>
    unfold ReadsBackKept at h
    unfold BufferKept
    cases hpc : s.pc with
    | writing k p =>
      rw [hpc] at h
      exact h.2.2.2.2.2
    | _ => trivial
  | _ => trivial

theorem ReadsBackKept.cacheKept {e : SdEvent b} (h : s.ReadsBackKept e) : s.CacheKept e := by
  cases e with
  | task env =>
    unfold ReadsBackKept at h
    unfold CacheKept
    cases hpc : s.pc with
    | writing k p =>
      rw [hpc] at h
      exact h.2.2.2.2.1
    | reading k offset amount r =>
      rw [hpc] at h
      exact h.1
    | _ => trivial
  | _ => trivial

/-- What was written last is on the card, and nothing stale is remembered. -/
structure Readable (s : SdSystem b) : Prop where
  tracked : s.Tracked
  inRange : ∀ p ∈ s.written, p.point.InRange
  stored : ∀ p, s.LastWritten p → p.point.Stored s.sd.files.lfs.files
  coherent : s.sd.files.CacheCoherent
  fresh : s.sd.files.BufferFresh

theorem init_readable (card : Path → Option (List UInt8)) (now : ℕ) :
    (init (b := b) card now).Readable where
  tracked := init_tracked card now
  inRange _ hp := by cases hp
  stored _ hp := by cases hp
  coherent := SdFiles.cacheCoherent_cleared _
  fresh hopen := by cases hopen

/-- Of the points that were written some were for the slot, or none. -/
theorem LastWritten.mem {p : QueuedPoint b} (h : s.LastWritten p) : p ∈ s.written :=
  List.mem_of_find?_eq_some h

theorem step_bufferFresh (e : SdEvent b) (h : s.Tracked) (hfresh : s.sd.files.BufferFresh)
    (hc : s.BufferKept e) (hs : step s e = some s') : s'.sd.files.BufferFresh := by
  have hstep := step_files hs
  generalize s'.sd.files = files at hstep ⊢
  cases hstep with
  | same => exact hfresh
  | initialised env hpc hdue =>
    obtain ⟨⟨lfs, hfiles, -⟩, -⟩ :=
      sdInitTask_cleared env.now s.sdLfsFormat env.init (s.errorsHandled env)
    rw [hfiles]
    exact fun hopen => by cases hopen
  | written env k p hpc =>
    rw [BufferKept, hpc] at hc
    exact bufferFresh_sdWrite hfresh hc
  | closed env k offset hpc hend => exact fun hopen => by cases hopen
  | read env k offset amount r hpc => exact bufferFresh_sdRead hfresh
  | stored env hpc =>
    intro hopen
    show (s.storage.task env.storage s.sd.files.lfs).1.files _ = _
    rw [Storage.task_files h.page fun i => sdGetPathWithFilename_ne_storagePath _ i]
    exact hfresh hopen

theorem step_stored (e : SdEvent b) (h : s.Readable) (hc : s.ReadsBackKept e)
    (hs : step s e = some s') :
    (∀ p ∈ s'.written, p.point.InRange) ∧
      ∀ p, s'.LastWritten p → p.point.Stored s'.sd.files.lfs.files := by
  cases step_passage e h.tracked.handle h.tracked.page hs with
  | quiet _ _ huneventful hpending haccepted hwritten hfiles =>
    rw [hwritten]
    refine ⟨h.inRange, fun p hp => stored_of_dataFile hfiles (h.stored p ?_)⟩
    rwa [LastWritten, hwritten] at hp
  | accepted p _ hroom hpending haccepted hwritten hfiles =>
    rw [hwritten]
    refine ⟨h.inRange, fun p hp => stored_of_dataFile hfiles (h.stored p ?_)⟩
    rwa [LastWritten, hwritten] at hp
  | initialised env _ hpc hdue hpending haccepted hwritten hfiles hgone =>
    rw [ReadsBackKept, hpc] at hc
    rw [hwritten]
    refine ⟨h.inRange, fun p hp => ?_⟩
    rw [LastWritten, hwritten] at hp
    rcases hc hdue with hformat | hnone
    · exact stored_of_dataFile (hfiles hformat) (h.stored p hp)
    · rw [hnone] at hp
      cases hp
  | written env k p _ hpc hok hpending haccepted hwritten hfiles =>
    rw [ReadsBackKept, hpc] at hc
    obtain ⟨hrange, hhonest, hseek, hopen, -, -⟩ := hc
    have houtcome := writeOutcome hhonest hseek
    rw [hok, ← hfiles] at houtcome
    rw [sdWrite_ok] at hok
    rw [hwritten]
    refine ⟨List.forall_mem_cons.mpr ⟨hrange, h.inRange⟩, fun q hq => ?_⟩
    rw [LastWritten, hwritten, List.find?_cons] at hq
    by_cases hslot : p.point.SameSlot q.point
    · rw [decide_eq_true hslot] at hq
      obtain rfl := Option.some.inj hq
      exact houtcome.stored_of_ok hrange (hopen hok)
    · rw [decide_eq_false hslot] at hq
      exact houtcome.stored_of_not_sameSlot hrange (h.inRange q (LastWritten.mem hq)) hslot
        (h.stored q hq)
  | failed env k p _ hpc hok hpending haccepted hwritten hfiles =>
    rw [ReadsBackKept, hpc] at hc
    obtain ⟨hrange, hhonest, hseek, hopen, -, -⟩ := hc
    have houtcome := writeOutcome hhonest hseek
    rw [hok, ← hfiles] at houtcome
    rw [hwritten]
    refine ⟨h.inRange, fun q hq => ?_⟩
    rw [LastWritten, hwritten] at hq
    exact houtcome.stored_of_failed (h.stored q hq)

theorem step_readable (e : SdEvent b) (h : s.Readable) (hc : s.ReadsBackKept e)
    (hs : step s e = some s') : s'.Readable where
  tracked := step_tracked e h.tracked hs
  inRange := (step_stored e h hc hs).1
  stored := (step_stored e h hc hs).2
  coherent := step_cacheCoherent e h.tracked h.coherent hc.cacheKept hs
  fresh := step_bufferFresh e h.tracked h.fresh hc.bufferKept hs

/-- **A read** returns what was written last. -/
theorem Readable.readsBack (h : s.Readable) (hc : s.ReadsBackKept (.task env)) :
    s.ReadsBack env := by
  intro k offset amount r hpc hday hok p i hlast hkind hname hslot hi
  rw [ReadsBackKept, hpc] at hc
  obtain ⟨hhonest, hseek, hremembered⟩ := hc
  have hp := h.inRange p (LastWritten.mem hlast)
  have hstored := h.stored p hlast
  have hdated : (r.fileName k).Dated := by
    rw [← hname]
    exact DataPoint.dated_fileName hp
  have hfaithful : s.sd.files.Faithful (r.fileName k) :=
    h.coherent.faithful h.fresh hdated hremembered
  rw [DataPoint.Stored, hname] at hstored
  obtain ⟨content, hfile, hcontent⟩ := Option.map_eq_some_iff.mp hstored
  subst hkind
  have hlt := DataKind.slot_lt hp
  change p.point.slot < _ at hlt
  rw [hslot] at hlt hcontent
  rw [← hcontent]
  exact sdRead_slotOf h.tracked.handle.consistent hfaithful hfile hhonest.1 hseek hok hday hi hlt

end SdSystem

/-- The request of `missedAndAppended`. -/
def firstWallboxPoint : GetRequest := { year := 24, month := 1, day := 1, amount := 1 }

end Bricklib2
