/-
Bricklib2/Warp/Wem/NoExistCache.lean

The cache of missing files against the card.  A read puts the name of a missing
file into it, a write takes the name out behind the creation of the file, but
only if the creation went through and the file could be opened again.

Main results: `noExist_missing` for the runs that meet `CacheKept`, and
`noExist_hides`, a run with an interrupted creation.
-/
import Bricklib2.Warp.Wem.SdQueues

namespace Bricklib2

open FileStore Machine

variable {b : Build}

/-! ### Entries -/

/-- A file of a real date has a day; the cleared entries of the cache have none. -/
def FileName.Dated (f : FileName) : Prop := 1 ≤ f.day.toNat

instance (f : FileName) : Decidable f.Dated := inferInstanceAs (Decidable (_ ≤ _))

theorem Postfix.index_injective {p q : Postfix} (h : p.index = q.index) : p = q := by
  cases p <;> cases q <;> first | rfl | cases h

/-- The bytes of the date and the extension stand side by side. -/
theorem FileName.ymdp_eq (f : FileName) :
    f.ymdp = f.year.toNat * 2 ^ 24 + f.month.toNat * 2 ^ 16 + f.day.toNat * 2 ^ 8 +
      f.filePostfix.index := by
  have hmonth := f.month.toNat_lt
  have hday := f.day.toNat_lt
  have hpostfix : f.filePostfix.index < 2 ^ 8 := by cases f.filePostfix <;> decide
  have hor (a c i : ℕ) (h : c < 2 ^ i) : a <<< i ||| c = a * 2 ^ i + c := by
    rw [← Nat.shiftLeft_add_eq_or_of_lt h, Nat.shiftLeft_eq]
  unfold FileName.ymdp
  rw [Nat.or_assoc, Nat.or_assoc, hor _ _ 8 hpostfix, hor _ _ 16 (by omega), hor _ _ 24 (by omega)]
  omega

theorem FileName.noExistEntry_injective {f g : FileName} (h : f.noExistEntry = g.noExistEntry) :
    f = g := by
  obtain ⟨hid, hymdp⟩ := NoExistEntry.mk.inj h
  rw [FileName.ymdp_eq, FileName.ymdp_eq] at hymdp
  have hf := f.month.toNat_lt
  have hf' := f.day.toNat_lt
  have hg := g.month.toNat_lt
  have hg' := g.day.toNat_lt
  have hfp : f.filePostfix.index < 2 ^ 8 := by cases f.filePostfix <;> decide
  have hgp : g.filePostfix.index < 2 ^ 8 := by cases g.filePostfix <;> decide
  have hyear : f.year = g.year := UInt8.toNat_inj.mp (by omega)
  have hmonth : f.month = g.month := UInt8.toNat_inj.mp (by omega)
  have hday : f.day = g.day := UInt8.toNat_inj.mp (by omega)
  have hpostfix : f.filePostfix = g.filePostfix := Postfix.index_injective (by omega)
  obtain ⟨fid, fyear, fmonth, fday, fpostfix⟩ := f
  obtain ⟨gid, gyear, gmonth, gday, gpostfix⟩ := g
  simp_all

theorem FileName.Dated.noExistEntry_ne {f : FileName} (h : f.Dated) : f.noExistEntry ≠ ⟨0, 0⟩ := by
  intro heq
  have hymdp : f.ymdp = 0 := congrArg NoExistEntry.ymdp heq
  rw [FileName.ymdp_eq] at hymdp
  have hday : 1 ≤ f.day.toNat := h
  omega

/-- The file of a real date. -/
theorem DataKind.dated_fileName {k : DataKind} {id : UInt32} {year month day : UInt8}
    (hday : 1 ≤ day.toNat) : (k.fileName id year month day).Dated := by
  unfold DataKind.fileName FileName.Dated
  cases k with
  | wallbox => exact hday
  | energyManager => exact hday
  | wallboxDaily => exact (by decide : 1 ≤ sdFileNoDayInPath.toNat)
  | energyManagerDaily => exact (by decide : 1 ≤ sdFileNoDayInPath.toNat)

theorem DataPoint.dated_fileName {p : DataPoint b} (h : p.InRange) : p.fileName.Dated :=
  DataKind.dated_fileName h.1

/-! ### Coherence -/

namespace SdFiles

variable {sd : SdFiles} {f g : FileName} {code : LfsCode}

/-- What is reported as missing is not on the card. -/
def CacheCoherent (sd : SdFiles) : Prop :=
  ∀ f : FileName, f.Dated → sdGetFileNoExist f sd = true →
    sd.lfs.files (sdGetPathWithFilename f) = none

theorem sdGetFileNoExist_iff :
    sdGetFileNoExist f sd = true ↔ f.noExistEntry ∈ sd.fileNoExistCache := by
  simp [sdGetFileNoExist]

theorem noExist_of_set (h : sdGetFileNoExist f (sdSetFileNoExist g sd) = true) :
    f = g ∨ sdGetFileNoExist f sd = true := by
  rw [sdGetFileNoExist_iff] at h ⊢
  rcases List.mem_or_eq_of_mem_set h with hmem | heq
  · exact Or.inr hmem
  · exact Or.inl (FileName.noExistEntry_injective heq)

theorem noExist_of_remove (hf : f.Dated)
    (h : f.noExistEntry ∈ (sdRemoveFileNoExist g sd).fileNoExistCache) :
    f ≠ g ∧ sdGetFileNoExist f sd = true := by
  rw [sdGetFileNoExist_iff]
  obtain ⟨entry, hentry, heq⟩ := List.mem_map.mp h
  split_ifs at heq with hg
  · exact absurd heq.symm hf.noExistEntry_ne
  · subst heq
    exact ⟨fun hfg => hg (by rw [hfg]), hentry⟩

/-- Nothing is cached behind a restart. -/
theorem cacheCoherent_cleared (lfs : Lfs) : ({ lfs := lfs } : SdFiles).CacheCoherent := by
  intro f hf hcached
  rw [sdGetFileNoExist_iff] at hcached
  exact absurd (List.eq_of_mem_replicate hcached) hf.noExistEntry_ne

theorem CacheCoherent.of_eq {sd' : SdFiles} (h : sd.CacheCoherent)
    (hcache : sd'.fileNoExistCache = sd.fileNoExistCache)
    (hfiles : ∀ f, sd'.lfs.files (sdGetPathWithFilename f) =
      sd.lfs.files (sdGetPathWithFilename f)) : sd'.CacheCoherent := by
  intro f hf hcached
  rw [hfiles]
  apply h f hf
  rw [sdGetFileNoExist_iff] at hcached ⊢
  rwa [← hcache]

/-- A file that is entered was reported as missing by the card. -/
theorem CacheCoherent.openBufferedRead (h : sd.CacheCoherent)
    (hcode : Error.isMissing code = true → sd.lfs.files (sdGetPathWithFilename f) = none) :
    (openBufferedRead f code sd).1.CacheCoherent := by
  have hfiles : (sd.openRead f code).lfs.files = sd.lfs.files :=
    Session.openFile_files_of_existing (s := sd.bufferedRead)
  have hopened : (sd.openRead f code).CacheCoherent :=
    h.of_eq rfl fun _ => by rw [hfiles]
  unfold Bricklib2.openBufferedRead
  dsimp only
  split_ifs with hmissing
  · intro g hg hcached
    show (sd.openRead f code).lfs.files _ = none
    rcases noExist_of_set hcached with rfl | hcached
    · rw [hfiles]
      exact Session.missing_of_openResult hcode hmissing
    · exact hopened g hg hcached
  · exact hopened

theorem CacheCoherent.sdLfsOpenBufferedRead {codes : OpenReadCodes} (h : sd.CacheCoherent)
    (hsd : sd.Consistent) (hcode : Error.isMissing codes.openFile = true →
      sd.lfs.files (sdGetPathWithFilename f) = none) :
    (sdLfsOpenBufferedRead f codes sd).1.CacheCoherent := by
  have hclosed : (sdLfsCloseBufferedRead codes.close sd).lfs.files = sd.lfs.files :=
    files_sdLfsCloseBufferedRead hsd
  unfold Bricklib2.sdLfsOpenBufferedRead
  split_ifs
  · exact h
  · exact h
  · apply CacheCoherent.openBufferedRead
    · exact h.of_eq rfl fun _ => by rw [← hclosed]; rfl
    · intro hmissing
      show (sdLfsCloseBufferedRead codes.close sd).lfs.files _ = none
      rw [hclosed]
      exact hcode hmissing
  · exact h
  · exact h.openBufferedRead hcode

end SdFiles

/-- The card does not call a file missing that is there. -/
def ReadsHonestly (k : DataKind) (r : GetRequest) (codes old : ReadCodes) (sd : SdFiles) : Prop :=
  (Error.isMissing codes.opening.openFile = true →
    sd.lfs.files (sdGetPathWithFilename (r.fileName k)) = none) ∧
    (Error.isMissing old.opening.openFile = true →
      sd.lfs.files (sdGetPathWithFilename (r.oldFileName k)) = none)

instance (k : DataKind) (r : GetRequest) (codes old : ReadCodes) (sd : SdFiles) :
    Decidable (ReadsHonestly k r codes old sd) :=
  inferInstanceAs (Decidable ((_ = true → _ = none) ∧ (_ = true → _ = none)))

/-- **A read** enters only files that are missing. -/
theorem cacheCoherent_sdRead {k : DataKind} {r : GetRequest} {amount offset : ℕ}
    {codes old : ReadCodes} {data : List UInt8} {sd : SdFiles} (h : sd.CacheCoherent)
    (hsd : sd.Consistent) (hcodes : ReadsHonestly k r codes old sd) :
    (sdRead b k r amount offset codes old data sd).sd.CacheCoherent := by
  suffices hall : (sdRead b k r amount offset codes old data sd).sd.CacheCoherent ∧
      (sdRead b k r amount offset codes old data sd).sd.Consistent ∧
      (sdRead b k r amount offset codes old data sd).sd.lfs.files = sd.lfs.files from hall.1
  apply sdRead_induct (P := fun sd' => sd'.CacheCoherent ∧ sd'.Consistent ∧
    sd'.lfs.files = sd.lfs.files)
  · rintro sd' ⟨hcoherent, hconsistent, hfiles⟩
    refine ⟨hcoherent.sdLfsOpenBufferedRead hconsistent ?_,
      hconsistent.sdLfsOpenBufferedRead _ _, (files_sdLfsOpenBufferedRead hconsistent).trans hfiles⟩
    rw [hfiles]
    exact hcodes.1
  · rintro sd' ⟨hcoherent, hconsistent, hfiles⟩
    refine ⟨hcoherent.sdLfsOpenBufferedRead hconsistent ?_,
      hconsistent.sdLfsOpenBufferedRead _ _, (files_sdLfsOpenBufferedRead hconsistent).trans hfiles⟩
    rw [hfiles]
    exact hcodes.2
  · exact fun pos code sd' h => ⟨h.1.of_eq rfl fun _ => rfl, h.2.1.seek pos code, h.2.2⟩
  · exact fun n code sd' h => ⟨h.1.of_eq rfl fun _ => rfl, h.2.1.read n code, h.2.2⟩
  · intro code sd' h
    have hfiles : (sdLfsCloseBufferedRead code sd').lfs.files = sd'.lfs.files :=
      files_sdLfsCloseBufferedRead h.2.1
    exact ⟨h.1.of_eq rfl fun _ => by rw [hfiles], SdFiles.consistent_close code sd',
      hfiles.trans h.2.2⟩
  · exact ⟨h, hsd, rfl⟩

/-- A creation that gets past its open goes on to the removal from the cache, or the
file is not in the cache. -/
def RemovesEntry (f : FileName) (codes : WriteCodes) (sd : SdFiles) : Prop :=
  sdGetFileNoExist f sd = true → Error.isMissing (firstOpen f codes sd) = true →
    codes.create.openFile = none → codes.create.complete = true ∧ codes.reopen = none

instance (f : FileName) (codes : WriteCodes) (sd : SdFiles) : Decidable (RemovesEntry f codes sd) :=
  inferInstanceAs (Decidable (_ = true → _ = true → _ = none → _ = true ∧ _ = none))

/-- **A write** that removes the entry of the file it creates. -/
theorem cacheCoherent_sdWrite {p : DataPoint b} {codes : WriteCodes} {sd : SdFiles}
    (h : sd.CacheCoherent) (hremoves : RemovesEntry p.fileName codes sd) :
    (sdWrite p codes sd).1.CacheCoherent := by
  intro f hf hcached
  rw [SdFiles.sdGetFileNoExist_iff] at hcached
  -- the write adds no entry
  have hbefore : sdGetFileNoExist f sd = true := by
    rcases sdWrite_cache p codes sd with hcache | hcache
    · rw [hcache] at hcached
      exact SdFiles.sdGetFileNoExist_iff.mpr hcached
    · rw [hcache] at hcached
      exact (SdFiles.noExist_of_remove hf hcached).2
  have hmissing := h f hf hbefore
  by_cases hfile : f = p.fileName
  · subst hfile
    rcases sdWrite_of_absent hmissing (hremoves hbefore) with hfiles | hcache
    · exact hfiles
    · rw [hcache] at hcached
      exact absurd rfl (SdFiles.noExist_of_remove hf hcached).1
  · rw [sdWrite_files_of_ne fun heq => hfile (sdGetPathWithFilename_injective heq)]
    exact hmissing

/-! ### Runs of the task -/

namespace SdSystem

variable {s s' : SdSystem b} {env : SdEnv}

/-- The task at `pc` leaves no stale entry in the cache. -/
def CacheKeptAt (env : SdEnv) (s : SdSystem b) : SdPc b → Prop
  | .writing _ p => RemovesEntry p.point.fileName env.write s.sd.files
  | .reading k _ _ r => ReadsHonestly k r env.read env.readOld s.sd.files
  | _ => True

/-- No step leaves a stale entry in the cache. -/
def CacheKept (s : SdSystem b) : SdEvent b → Prop
  | .task env => s.CacheKeptAt env s.pc
  | _ => True

instance (env : SdEnv) (s : SdSystem b) : ∀ pc, Decidable (s.CacheKeptAt env pc)
  | .writing _ _ => inferInstanceAs (Decidable (RemovesEntry _ _ _))
  | .reading _ _ _ _ => inferInstanceAs (Decidable (ReadsHonestly _ _ _ _ _))
  | .loop | .setter _ | .getter _ _ | .waiting _ _ _ | .storage => isTrue trivial

instance (s : SdSystem b) : ∀ e, Decidable (s.CacheKept e)
  | .task env => inferInstanceAs (Decidable (s.CacheKeptAt env s.pc))
  | .append _ | .request _ _ | .ack _ | .pageWrite _ _ _ | .storageTick _ | .requestFormat =>
    isTrue trivial

/-- **One step** that leaves no stale entry. -/
theorem step_cacheCoherent (e : SdEvent b) (h : s.Tracked) (hcoherent : s.sd.files.CacheCoherent)
    (hc : s.CacheKept e) (hs : step s e = some s') : s'.sd.files.CacheCoherent := by
  have hstep := step_files hs
  generalize s'.sd.files = files at hstep ⊢
  cases hstep with
  | same => exact hcoherent
  | initialised env hpc hdue =>
    -- the cache is cleared with the rest of the module
    obtain ⟨⟨lfs, hfiles, -⟩, -⟩ :=
      sdInitTask_cleared env.now s.sdLfsFormat env.init (s.errorsHandled env)
    rw [hfiles]
    exact SdFiles.cacheCoherent_cleared lfs
  | written env k p hpc =>
    rw [CacheKept, hpc] at hc
    exact cacheCoherent_sdWrite hcoherent hc
  | closed env k offset hpc hend =>
    have hfiles : (sdLfsCloseBufferedRead env.close s.sd.files).lfs.files = s.sd.files.lfs.files :=
      files_sdLfsCloseBufferedRead h.handle.consistent
    exact hcoherent.of_eq rfl fun _ => congrFun hfiles _
  | read env k offset amount r hpc =>
    rw [CacheKept, hpc] at hc
    exact cacheCoherent_sdRead hcoherent h.handle.consistent hc
  | stored env hpc =>
    exact hcoherent.of_eq rfl fun f =>
      Storage.task_files h.page fun i => sdGetPathWithFilename_ne_storagePath f i

end SdSystem

open SdSystem in
/-- **The cache of missing files.**  In every run in which a creation that gets past
its open of a cached file goes through, and the card reports a file as missing only
if it is, no file that the cache reports as missing is on the card. -/
theorem noExist_missing (card : Path → Option (List UInt8)) (now : ℕ) (es : List (SdEvent b))
    (s : SdSystem b) (hm : Meets step CacheKept (init card now) es)
    (hr : run step (init card now) es = some s) : s.sd.files.CacheCoherent := by
  have hinv : s.Tracked ∧ s.sd.files.CacheCoherent := by
    refine run_induct_meets (P := fun s => s.Tracked ∧ s.sd.files.CacheCoherent) ?_ ?_ hm hr
    · exact fun s e s' h hc hs => ⟨step_tracked e h.1 hs, step_cacheCoherent e h.1 h.2 hc hs⟩
    · exact ⟨init_tracked card now, SdFiles.cacheCoherent_cleared _⟩
  exact hinv.2

/-- A request for a wallbox point of a day without a file, and a point for that day,
up to its write. -/
def missedAndAppended : List (SdEvent .v2) :=
  startUp ++ [.request .wallbox { year := 24, month := 1, day := 1, amount := 1 }] ++
    List.replicate 3 (.task { now := 1002 }) ++
    [.ack .wallbox, .append (.filled .v2 .wallbox 0 1)] ++ List.replicate 18 (.task { now := 1003 })

/-- The file is created, and its name is taken out of the cache. -/
theorem noExist_missing_created :
    (after SdSystem.step (.init (fun _ => none) 1)
      (missedAndAppended ++ [.task { now := 1003 }])).sd.files.CacheCoherent := by
  apply noExist_missing (fun _ => none) 1 (missedAndAppended ++ [.task { now := 1003 }])
  · decide +kernel
  · exact run_eq_after (by decide +kernel)

/-- The template of the new file is not written: there is an empty file, and its name
is still in the cache. -/
theorem noExist_hides :
    ¬ ∀ card now (es : List (SdEvent .v2)) s,
      run SdSystem.step (.init card now) es = some s → s.sd.files.CacheCoherent := by
  intro h
  have hmissing := h (fun _ => none) 1 (missedAndAppended ++ [.task failingEnv]) _
    (run_eq_after (by decide +kernel)) (DataPoint.filled .v2 .wallbox 0 1).fileName
    (by decide +kernel) (by decide +kernel)
  revert hmissing
  decide +kernel

end Bricklib2
