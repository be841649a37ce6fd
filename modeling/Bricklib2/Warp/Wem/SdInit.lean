/-
Bricklib2/Warp/Wem/SdInit.lean

What `sd_init_task` leaves behind, for every result of its calls: a cleared module
(`sdInitTask_cleared`), and on the card all files but the boot counter, unless the
card was formatted (`sdInitTask_files`).  And what any step of the module does to
the files (`step_files`).
-/
import Bricklib2.Warp.Wem.SdTask

namespace Bricklib2

open FileStore

variable {b : Build} {now : ℕ} {format : Bool} {codes : InitCodes} {sd : Sd b}

/-- The initialisation gets to the boot counter. -/
def InitCodes.boots (codes : InitCodes) (format : Bool) : Bool :=
  codes.sdmmc = 0 && !(format && codes.format.isSome) &&
    (codes.mount.isNone || codes.formatAgain.isNone && codes.mountAgain.isNone)

/-- The initialisation formats the card. -/
def InitCodes.formats (codes : InitCodes) (format : Bool) : Bool :=
  codes.sdmmc = 0 && (format && codes.format.isNone ||
    !(format && codes.format.isSome) && codes.mount.isSome && codes.formatAgain.isNone)

/-! ### The boot counter -/

section BootCount

variable {codes : BootCountCodes} {lfs : Lfs}

theorem bootCount_openFiles : (bootCount codes lfs).openFiles = lfs.openFiles := by
  unfold bootCount
  cases codes.openFile <;> simp [Session.openResult_create]

theorem bootCount_exclusive :
    (bootCount codes lfs).Exclusive ↔ lfs.openFiles = 0 ∧ lfs.Exclusive := by
  simp [bootCount]

theorem bootCount_legal : (bootCount codes lfs).Legal ↔ codes.openFile = none ∧ lfs.Legal := by
  unfold bootCount
  cases codes.openFile <;> simp [Session.openResult_create]

/-- No other file changes. -/
theorem bootCount_files {path : Path} (h : path ≠ bootCountPath) :
    (bootCount codes lfs).files path = lfs.files path := by
  unfold bootCount
  dsimp only
  rw [Session.leave_files, Session.close_files_of_ne]
  · rw [Session.write_files, Session.seek_files, Session.read_files,
      Session.openFile_files_of_ne h]
    rfl
  · intro p hp
    rw [Session.write_path, Session.seek_path, Session.read_path] at hp
    exact fun heq => h (heq.trans (Session.openFile_path hp))

end BootCount

/-! ### The whole initialisation -/

/-- What formatting and booting keep, the part from the first mount on keeps. -/
theorem mounted_induct {P : Sd b → Prop}
    (hstatus : ∀ sd status lfsStatus last, P sd →
      P { sd with sdStatus := status, lfsStatus := lfsStatus, sdmmcInitLast := last })
    (hformat : codes.mount.isSome = true → codes.formatAgain.isNone = true →
      ∀ sd, P sd → P sd.formatted)
    (hboot : codes.mount.isNone = true ∨
      codes.formatAgain.isNone = true ∧ codes.mountAgain.isNone = true →
      ∀ sd, P sd → P (sd.booted codes))
    (h : P sd) : P (sd.mounted codes) := by
  have hmount := hstatus sd sd.sdStatus (lfsAbs codes.mount) sd.sdmmcInitLast h
  unfold Sd.mounted
  dsimp only
  cases hm : codes.mount with
  | none =>
    rw [hm] at hmount
    exact hboot (Or.inl (by rw [hm]; rfl)) _ hmount
  | some e =>
    rw [hm] at hmount
    cases hagain : codes.formatAgain with
    | some e => exact hstatus sd codes.sdmmc (lfsAbs (some e)) sd.sdmmcInitLast h
    | none =>
      have hformatted := hformat (by rw [hm]; rfl) (by rw [hagain]; rfl)
      cases hmountAgain : codes.mountAgain with
      | some e' =>
        exact hstatus _ codes.sdmmc (lfsAbs (some e')) sd.sdmmcInitLast (hformatted _ hmount)
      | none =>
        exact hboot (Or.inr ⟨by rw [hagain]; rfl, by rw [hmountAgain]; rfl⟩) _
          (hformatted _ hmount)

/-- **What clearing, formatting and booting keep, the initialisation keeps.** -/
theorem sdInitTask_induct {P : Sd b → Prop}
    (hstatus : ∀ sd status lfsStatus last, P sd →
      P { sd with sdStatus := status, lfsStatus := lfsStatus, sdmmcInitLast := last })
    (hformat : codes.formats format = true → ∀ sd, P sd → P sd.formatted)
    (hboot : codes.boots format = true → ∀ sd, P sd → P (sd.booted codes))
    (h : P sd.cleared) : P (sdInitTask now format codes sd).1 := by
  have hcleared := hstatus sd.cleared (2 ^ 32 - 1) (2 ^ 32 - 1) 0 h
  unfold sdInitTask
  dsimp only
  by_cases hsdmmc : codes.sdmmc = 0
  · rw [if_neg (not_not.mpr hsdmmc)]
    have hmounted (hfirst : (format && codes.format.isSome) = false) (sd : Sd b) (hsd : P sd) :
        P (sd.mounted codes) := by
      refine mounted_induct hstatus (fun hm hagain => hformat ?_) (fun hb => hboot ?_) hsd
      · simp [InitCodes.formats, hsdmmc, hfirst, hm, hagain]
      · simpa [InitCodes.boots, hsdmmc, hfirst] using hb
    cases format with
    | false => exact hmounted rfl _ hcleared
    | true =>
      cases hf : codes.format with
      | some e => exact hstatus _ codes.sdmmc (lfsAbs (some e)) 0 h
      | none =>
        refine hmounted (by rw [hf]; rfl) _ (hformat ?_ _ hcleared)
        simp [InitCodes.formats, hsdmmc, hf]
  · rw [if_pos hsdmmc]
    exact hstatus _ codes.sdmmc (2 ^ 32 - 1) (systemTimerGetMs now) h

/-- The module starts afresh: nothing is open, nothing is queued. -/
theorem sdInitTask_cleared (now : ℕ) (format : Bool) (codes : InitCodes) (sd : Sd b) :
    (∃ lfs : Lfs, (sdInitTask now format codes sd).1.files = { lfs := lfs } ∧ lfs.openFiles = 0) ∧
      (sdInitTask now format codes sd).1.queue = fun _ => [] := by
  apply sdInitTask_induct (P := fun sd : Sd b =>
    (∃ lfs : Lfs, sd.files = { lfs := lfs } ∧ lfs.openFiles = 0) ∧ sd.queue = fun _ => [])
  · exact fun _ _ _ _ h => h
  · rintro - sd ⟨⟨lfs, hfiles, hopen⟩, hqueue⟩
    exact ⟨⟨{ lfs with files := fun _ => none }, by rw [Sd.formatted, hfiles], hopen⟩, hqueue⟩
  · rintro - sd ⟨⟨lfs, hfiles, hopen⟩, hqueue⟩
    refine ⟨⟨bootCount codes.bootCount lfs, by rw [Sd.booted, hfiles], ?_⟩, hqueue⟩
    rw [bootCount_openFiles, hopen]
  · exact ⟨⟨_, rfl, rfl⟩, rfl⟩

theorem sdInitTask_exclusive (h : sd.files.lfs.Exclusive) :
    (sdInitTask now format codes sd).1.files.lfs.Exclusive := by
  apply And.right (a := (sdInitTask now format codes sd).1.files.lfs.openFiles = 0)
  apply sdInitTask_induct (P := fun sd : Sd b =>
    sd.files.lfs.openFiles = 0 ∧ sd.files.lfs.Exclusive)
  · exact fun _ _ _ _ h => h
  · exact fun _ _ h => h
  · rintro - sd ⟨hopen, hex⟩
    exact ⟨bootCount_openFiles.trans hopen, bootCount_exclusive.mpr ⟨hopen, hex⟩⟩
  · exact ⟨rfl, Session.leave_exclusive.mpr h⟩

/-- The buffered file must not be open when the memory of its handle is cleared, and
the boot counter is used as if it could be opened. -/
theorem sdInitTask_legal (hclosed : sd.files.bufferedReadFile.status ≠ .opened)
    (hboot : codes.boots format = true → codes.bootCount.openFile = none)
    (h : sd.files.lfs.Legal) : (sdInitTask now format codes sd).1.files.lfs.Legal := by
  apply sdInitTask_induct (P := fun sd : Sd b => sd.files.lfs.Legal)
  · exact fun _ _ _ _ h => h
  · exact fun _ _ h => h
  · exact fun hb _ hsd => bootCount_legal.mpr ⟨hboot hb, hsd⟩
  · exact Session.leave_legal.mpr ⟨hclosed, h⟩

/-- Without a format all files but the boot counter stay. -/
theorem sdInitTask_files {path : Path} (h : codes.formats format = false)
    (hpath : path ≠ bootCountPath) :
    (sdInitTask now format codes sd).1.files.lfs.files path = sd.files.lfs.files path := by
  apply sdInitTask_induct (P := fun sd' : Sd b =>
    sd'.files.lfs.files path = sd.files.lfs.files path)
  · exact fun _ _ _ _ h => h
  · exact fun hf => absurd hf (by rw [h]; decide)
  · exact fun _ _ hsd => (bootCount_files hpath).trans hsd
  · rfl

/-- A file other than the boot counter stays or is gone with all others. -/
theorem sdInitTask_kept (now : ℕ) (format : Bool) (codes : InitCodes) (sd : Sd b) {path : Path}
    (hpath : path ≠ bootCountPath) :
    (sdInitTask now format codes sd).1.files.lfs.files path = sd.files.lfs.files path ∨
      (sdInitTask now format codes sd).1.files.lfs.files path = none := by
  apply sdInitTask_induct (P := fun sd' : Sd b =>
    sd'.files.lfs.files path = sd.files.lfs.files path ∨ sd'.files.lfs.files path = none)
  · exact fun _ _ _ _ h => h
  · exact fun _ _ _ => Or.inr rfl
  · rintro - sd' h
    show (bootCount _ _).files path = _ ∨ (bootCount _ _).files path = _
    rwa [bootCount_files hpath]
  · exact Or.inl rfl

/-! ### The top of the loop -/

namespace SdSystem

variable {s : SdSystem b} {env : SdEnv}

@[simp] theorem errorsHandled_files : (s.errorsHandled env).files = s.sd.files := by
  unfold errorsHandled
  dsimp only
  split_ifs <;> rfl

@[simp] theorem errorsHandled_queue : (s.errorsHandled env).queue = s.sd.queue := by
  unfold errorsHandled
  dsimp only
  split_ifs <;> rfl

/-- The module and the format flag behind the first half of the loop. -/
def looped (env : SdEnv) (s : SdSystem b) : Sd b × Bool :=
  if s.initDue env then sdInitTask env.now s.sdLfsFormat env.init (s.errorsHandled env)
  else (s.errorsHandled env, s.sdLfsFormat)

theorem loopStep_eq :
    s.loopStep env =
      { s with
        sd := (s.looped env).1
        sdLfsFormat := (s.looped env).2
        pc :=
          if (s.looped env).1.sdStatus = 0 && (s.looped env).1.lfsStatus = 0 then .setter .wallbox
          else .loop } :=
  rfl

/-! ### The files behind a step -/

variable {s' : SdSystem b} {k : DataKind}

/-- What a step does to the files: most leave them alone. -/
inductive FilesStep (s : SdSystem b) : SdEvent b → SdFiles → Prop
  | same (e : SdEvent b) : FilesStep s e s.sd.files
  | initialised (env : SdEnv) (hpc : s.pc = .loop) (hdue : s.initDue env = true) :
    FilesStep s (.task env) (sdInitTask env.now s.sdLfsFormat env.init (s.errorsHandled env)).1.files
  | written (env : SdEnv) (k : DataKind) (p : QueuedPoint b) (hpc : s.pc = .writing k p) :
    FilesStep s (.task env) (sdWrite p.point env.write s.sd.files).1
  | closed (env : SdEnv) (k : DataKind) (offset : ℕ) (hpc : s.pc = .getter k offset)
    (hend : ¬ offset < (s.sd.getRequest k).amount.toNat * entrySize b k) :
    FilesStep s (.task env) (sdLfsCloseBufferedRead env.close s.sd.files)
  | read (env : SdEnv) (k : DataKind) (offset amount : ℕ) (r : GetRequest)
    (hpc : s.pc = .reading k offset amount r) :
    FilesStep s (.task env) (sdRead b k r amount (offset / entrySize b k) env.read env.readOld
      (s.sd.cbData k) s.sd.files).sd
  | stored (env : SdEnv) (hpc : s.pc = .storage) :
    FilesStep s (.task env)
      { s.sd.files with lfs := (s.storage.task env.storage s.sd.files.lfs).1 }

theorem loopStep_files (hpc : s.pc = .loop) :
    s.FilesStep (.task env) (s.loopStep env).sd.files := by
  rw [loopStep_eq]
  show s.FilesStep _ (s.looped env).1.files
  unfold looped
  cases hdue : s.initDue env with
  | true => exact .initialised env hpc hdue
  | false =>
    show s.FilesStep _ (s.errorsHandled env).files
    rw [errorsHandled_files]
    exact .same _

theorem setterStep_files : (s.setterStep k).sd.files = s.sd.files := by
  unfold setterStep
  cases (s.sd.queue k).getLast? <;> rfl

theorem writingStep_files {p : QueuedPoint b} :
    (s.writingStep k p env).sd.files = (sdWrite p.point env.write s.sd.files).1 := by
  unfold writingStep
  dsimp only
  split_ifs <;> rfl

theorem readingStep_files {offset amount : ℕ} {r : GetRequest} :
    (s.readingStep k offset amount r env).sd.files =
      (sdRead b k r amount (offset / entrySize b k) env.read env.readOld (s.sd.cbData k)
        s.sd.files).sd := by
  unfold readingStep
  dsimp only
  split_ifs <;> rfl

theorem waitingStep_files {offset start : ℕ} :
    (s.waitingStep k offset start env).sd.files = s.sd.files := by
  unfold waitingStep
  split_ifs <;> rfl

theorem taskStep_files : s.FilesStep (.task env) (s.taskStep env).sd.files := by
  unfold taskStep
  cases hpc : s.pc with
  | loop => exact loopStep_files hpc
  | setter k =>
    dsimp only
    rw [setterStep_files]
    exact .same _
  | writing k p =>
    dsimp only
    rw [writingStep_files]
    exact .written env k p hpc
  | getter k offset =>
    dsimp only
    unfold getterStep
    dsimp only
    split_ifs with hend
    · exact .same _
    · exact .closed env k offset hpc hend
  | reading k offset amount r =>
    dsimp only
    rw [readingStep_files]
    exact .read env k offset amount r hpc
  | waiting k offset start =>
    dsimp only
    rw [waitingStep_files]
    exact .same _
  | storage => exact .stored env hpc

/-- **What a step does to the files.** -/
theorem step_files {e : SdEvent b} (hs : s.step e = some s') : s.FilesStep e s'.sd.files := by
  cases e with
  | append p =>
    obtain rfl := Option.some.inj hs
    have hfiles : (s.append p).sd.files = s.sd.files := by
      unfold append
      dsimp only
      split_ifs <;> rfl
    rw [hfiles]
    exact .same _
  | pageWrite i page now =>
    change (if systemTimerGetMs now = 0 then none else some _) = some s' at hs
    split_ifs at hs
    obtain rfl := Option.some.inj hs
    exact .same _
  | task env =>
    obtain rfl := Option.some.inj hs
    exact taskStep_files
  | request _ _ | ack _ | storageTick _ | requestFormat =>
    obtain rfl := Option.some.inj hs
    exact .same _

end SdSystem

end Bricklib2
