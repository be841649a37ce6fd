/-
Bricklib2/Warp/Wem/SdHandles.lean

How the SD task uses littlefs handles.  All files share one buffer, so that no
file may be opened while another one is open (`sdTask_exclusive`), and every
handle is to be opened, used and closed in this order (`sdTask_legal`).
-/
import Bricklib2.Warp.Wem.SdInit
import Bricklib2.Warp.Wem.SdRead
import Bricklib2.Warp.Wem.SdWrite

namespace Bricklib2

open FileStore Machine

variable {b : Build}

/-! ### The storage handler -/

namespace Storage

variable {codes : StorageCodes} {lfs : Lfs} {st : Storage} {i : Fin dataStoragePages} {n : ℕ}

/-- The local handle of the handler is open. -/
def holdsOpen (st : Storage) : Bool :=
  match st.phase with
  | .read _ _ | .written _ _ _ => st.file.status = .opened
  | _ => false

/-- The next step opens a file. -/
def opens (st : Storage) : Bool :=
  match st.phase with
  | .reading _ | .writing _ => true
  | _ => false

/-- The report of the open of a page. -/
def pageOpen (i : Fin dataStoragePages) (codes : StorageCodes) (lfs : Lfs) : LfsCode :=
  Session.openResult lfs.files (storagePath i) false codes.openFile

/-- The next step uses its handle as it should: a read goes on only with an open
file or stops at a missing one, a write finds its file. -/
def usesHandle (codes : StorageCodes) (lfs : Lfs) (st : Storage) : Bool :=
  match st.phase with
  | .page _ => true
  | .reading i => (pageOpen i codes lfs).isNone || Error.isMissing (pageOpen i codes lfs)
  | .writing i => (pageOpen i codes lfs).isNone
  | .read _ _ | .written _ _ _ => true

/-- Between two yields of a read or a write its handle is open. -/
def Holding (st : Storage) : Prop :=
  ∀ i ok copied, st.phase = .read i ok ∨ st.phase = .written i copied ok →
    st.file.status = .opened

/-- It holds one file at a time. -/
theorem holdsOpen_of_opens (st : Storage) (h : st.opens = true) : st.holdsOpen = false := by
  unfold opens at h
  unfold holdsOpen
  cases hphase : st.phase <;> simp [hphase] at h ⊢

theorem readBegin_openFiles :
    (readBegin i codes lfs st).1.openFiles =
      lfs.openFiles + if (readBegin i codes lfs st).2.holdsOpen then 1 else 0 := by
  unfold readBegin
  cases hopen : Session.openResult lfs.files (storagePath i) false codes.openFile with
  | none => simp [hopen, Error.isMissing, holdsOpen]
  | some e =>
    cases hmissing : Error.isMissing (some e) <;>
      simp [hopen, hmissing, holdsOpen, readDone]

theorem writeBegin_openFiles :
    (writeBegin i codes lfs st).1.openFiles =
      lfs.openFiles + if (writeBegin i codes lfs st).2.holdsOpen then 1 else 0 := by
  unfold writeBegin
  cases hopen : Session.openResult lfs.files (storagePath i) false codes.openFile with
  | none => simp [hopen, Error.isMissing, holdsOpen]
  | some e =>
    cases hmissing : Error.isMissing (some e) with
    | false => simp [hopen, hmissing, holdsOpen]
    | true =>
      cases hcreate : codes.create <;>
        simp [hopen, hmissing, holdsOpen, writeDone, Session.openResult_create]

theorem readBegin_exclusive :
    (readBegin i codes lfs st).1.Exclusive ↔ lfs.openFiles = 0 ∧ lfs.Exclusive := by
  unfold readBegin
  dsimp only
  split_ifs <;> simp

theorem writeBegin_exclusive :
    (writeBegin i codes lfs st).1.Exclusive ↔ lfs.openFiles = 0 ∧ lfs.Exclusive := by
  unfold writeBegin
  cases hopen : Session.openResult lfs.files (storagePath i) false codes.openFile with
  | none => simp [hopen, Error.isMissing]
  | some e =>
    cases hmissing : Error.isMissing (some e) with
    | false => simp [hopen, hmissing]
    | true => cases codes.create <;> simp [hopen, hmissing]

theorem readBegin_legal :
    (readBegin i codes lfs st).1.Legal ↔
      ((pageOpen i codes lfs).isNone || Error.isMissing (pageOpen i codes lfs)) = true ∧
        lfs.Legal := by
  unfold readBegin pageOpen
  cases hopen : Session.openResult lfs.files (storagePath i) false codes.openFile with
  | none => simp [hopen, Error.isMissing]
  | some e => cases hmissing : Error.isMissing (some e) <;> simp [hopen, hmissing]

theorem writeBegin_legal :
    (writeBegin i codes lfs st).1.Legal ↔ (pageOpen i codes lfs).isNone = true ∧ lfs.Legal := by
  unfold writeBegin pageOpen
  cases hopen : Session.openResult lfs.files (storagePath i) false codes.openFile with
  | none => simp [hopen, Error.isMissing]
  | some e =>
    cases hmissing : Error.isMissing (some e) with
    | false => simp [hopen, hmissing]
    | true => cases codes.create <;> simp [hopen, hmissing]

/-- Files of the handler are counted by its handle. -/
theorem task_openFiles (h : lfs.openFiles = n + if st.holdsOpen then 1 else 0) :
    (st.task codes lfs).1.openFiles = n + if (st.task codes lfs).2.holdsOpen then 1 else 0 := by
  unfold task
  unfold holdsOpen at h
  cases hphase : st.phase with
  | page j =>
    rw [hphase] at h
    have hn : lfs.openFiles = n := h
    by_cases hj : j < dataStoragePages
    · cases hread : st.ds.readFromSd ⟨j, hj⟩ <;> cases hwrite : st.ds.writeToSd ⟨j, hj⟩ <;>
        simp [hj, hread, hwrite, holdsOpen, hn]
    · simp [hj, holdsOpen, hn]
  | reading j =>
    rw [hphase] at h
    rw [readBegin_openFiles]
    exact congrArg (· + _) h
  | writing j =>
    rw [hphase] at h
    rw [writeBegin_openFiles]
    exact congrArg (· + _) h
  | read j ok =>
    rw [hphase] at h
    by_cases hstatus : st.file.status = .opened <;>
      simp [readEnd, holdsOpen, readDone, h, hstatus]
  | written j copied ok =>
    rw [hphase] at h
    by_cases hstatus : st.file.status = .opened <;>
      simp [writeEnd, holdsOpen, writeDone, h, hstatus]

/-- A file is held only behind a step that opens it. -/
theorem holdsOpen_task (h : st.opens = false) : (st.task codes lfs).2.holdsOpen = false := by
  unfold opens at h
  unfold task
  cases hphase : st.phase with
  | page j =>
    dsimp only
    split_ifs <;> rfl
  | reading j => simp [hphase] at h
  | writing j => simp [hphase] at h
  | read j ok => rfl
  | written j copied ok => rfl

/-- A page file is opened only while no other file is open. -/
theorem task_exclusive :
    (st.task codes lfs).1.Exclusive ↔ (st.opens = true → lfs.openFiles = 0) ∧ lfs.Exclusive := by
  unfold task opens
  cases hphase : st.phase with
  | page j =>
    dsimp only
    split_ifs <;> simp
  | reading j => simp [readBegin_exclusive]
  | writing j => simp [writeBegin_exclusive]
  | read j ok => simp [readEnd]
  | written j copied ok => simp [writeEnd]

theorem task_legal (h : st.Holding) :
    (st.task codes lfs).1.Legal ↔ st.usesHandle codes lfs = true ∧ lfs.Legal := by
  unfold task usesHandle
  cases hphase : st.phase with
  | page j =>
    dsimp only
    split_ifs <;> simp
  | reading j => exact readBegin_legal
  | writing j => exact writeBegin_legal
  | read j ok =>
    have hopened := h j ok (st.ds.storage j) (.inl hphase)
    simp [readEnd, hopened]
  | written j copied ok =>
    have hopened := h j ok copied (.inr hphase)
    simp [writeEnd, hopened]

theorem readBegin_holding
    (h : ((pageOpen i codes lfs).isNone || Error.isMissing (pageOpen i codes lfs)) = true) :
    (readBegin i codes lfs st).2.Holding := by
  unfold pageOpen at h
  unfold readBegin
  cases hopen : Session.openResult lfs.files (storagePath i) false codes.openFile with
  | none => simp [hopen, Error.isMissing, Holding]
  | some e =>
    rw [hopen, Option.isNone_some, Bool.false_or] at h
    simp [hopen, h, readDone, Holding]

theorem writeBegin_holding (h : (pageOpen i codes lfs).isNone = true) :
    (writeBegin i codes lfs st).2.Holding := by
  unfold pageOpen at h
  unfold writeBegin
  simp [Option.isNone_iff_eq_none.mp h, Error.isMissing, Holding]

/-- A read or write that finds its file goes on with an open handle. -/
theorem task_holding (huses : st.usesHandle codes lfs = true) :
    (st.task codes lfs).2.Holding := by
  unfold usesHandle at huses
  unfold task
  cases hphase : st.phase with
  | page j =>
    dsimp only
    split_ifs <;> simp [Holding]
  | reading j =>
    rw [hphase] at huses
    exact readBegin_holding huses
  | writing j =>
    rw [hphase] at huses
    exact writeBegin_holding huses
  | read j ok =>
    dsimp only
    unfold readEnd
    dsimp only
    split_ifs <;> simp [readDone, Holding]
  | written j copied ok =>
    dsimp only
    unfold writeEnd
    dsimp only
    split_ifs <;> simp [writeDone, Holding]

end Storage

/-! ### The shared buffer -/

/-- In a getter, with a stream that is taken up. -/
def SdPc.streams : SdPc b → Bool
  | .getter _ _ | .reading _ _ _ _ | .waiting _ _ _ => true
  | _ => false

theorem SdFiles.counted_cleared {lfs : Lfs} (h : lfs.openFiles = 0) :
    ({ lfs := lfs } : SdFiles).Counted where
  isOpen := ⟨nofun, nofun⟩
  unchanged := rfl
  noError _ := rfl
  path hopen := by cases hopen
  openFiles := h

/-- A write is not about the buffered file. -/
theorem sdWrite_bufferedReadFile (p : DataPoint b) (codes : WriteCodes) (sd : SdFiles) :
    (sdWrite p codes sd).1.bufferedReadFile = sd.bufferedReadFile ∧
      (sdWrite p codes sd).1.bufferedReadIsOpen = sd.bufferedReadIsOpen ∧
      (sdWrite p codes sd).1.bufferedReadCurrentErr = sd.bufferedReadCurrentErr ∧
      (sdWrite p codes sd).1.bufferedReadCurrent = sd.bufferedReadCurrent := by
  rw [sdWrite_eq, writeDataPoint_frame]
  exact ⟨rfl, rfl, rfl, rfl⟩

theorem SdFiles.Consistent.sdWrite {sd : SdFiles} (h : sd.Consistent) (p : DataPoint b)
    (codes : WriteCodes) : (sdWrite p codes sd).1.Consistent := by
  obtain ⟨hfile, hisOpen, herr, hcurrent⟩ := sdWrite_bufferedReadFile p codes sd
  constructor
  · rw [hfile, hisOpen]
    exact h.isOpen
  · rw [hfile]
    exact h.unchanged
  · rw [hisOpen, herr]
    exact h.noError
  · rw [hisOpen, hfile, hcurrent]
    exact h.path

theorem SdFiles.Counted.sdWrite {sd : SdFiles} (h : sd.Counted) (p : DataPoint b)
    (codes : WriteCodes) : (sdWrite p codes sd).1.Counted where
  toConsistent := h.toConsistent.sdWrite p codes
  openFiles := by
    rw [(sdWrite_bufferedReadFile p codes sd).2.1, sdWrite_eq, writeDataPoint_openFiles]
    exact h.openFiles

namespace SdSystem

variable {s s' : SdSystem b} {env : SdEnv} {k : DataKind}

/-- Which files are open: the buffered one, in a getter or if a timeout left it
open, and in the storage handler the one of the handler. -/
structure HandleInv (s : SdSystem b) : Prop where
  consistent : s.sd.files.Consistent
  openFiles : s.sd.files.lfs.openFiles =
    (if s.sd.files.bufferedReadIsOpen then 1 else 0) + if s.storage.holdsOpen then 1 else 0
  storage : s.pc ≠ .storage → s.storage.holdsOpen = false
  stream : s.pc.streams = false → s.sd.files.bufferedReadIsOpen = true → s.streamLeft = true

theorem HandleInv.of_counted (hcounted : s.sd.files.Counted)
    (hstorage : s.storage.holdsOpen = false)
    (hstream : s.pc.streams = false → s.sd.files.bufferedReadIsOpen = true →
      s.streamLeft = true) : s.HandleInv where
  consistent := hcounted.toConsistent
  openFiles := by rw [hcounted.openFiles, hstorage]; rfl
  storage _ := hstorage
  stream := hstream

/-- Outside of the storage handler no file is open but the buffered one. -/
theorem HandleInv.counted (h : s.HandleInv) (hpc : s.pc ≠ .storage) : s.sd.files.Counted where
  toConsistent := h.consistent
  openFiles := by rw [h.openFiles, h.storage hpc]; rfl

theorem init_handleInv (card : Path → Option (List UInt8)) (now : ℕ) :
    (init (b := b) card now).HandleInv :=
  .of_counted (SdFiles.counted_cleared rfl) rfl fun _ hopen => by cases hopen

/-- The getter is entered with the buffered file as it is. -/
theorem enterGetter_handleInv (hcounted : s.sd.files.Counted)
    (hstorage : s.storage.holdsOpen = false)
    (hstream : s.sd.files.bufferedReadIsOpen = true → s.streamLeft = true) :
    (s.enterGetter k).HandleInv :=
  .of_counted hcounted hstorage fun _ => hstream

theorem loopStep_handleInv (h : s.HandleInv) (hpc : s.pc = .loop) : (s.loopStep env).HandleInv := by
  have hstorage := h.storage (by rw [hpc]; nofun)
  rw [loopStep_eq]
  unfold looped
  cases s.initDue env with
  | true =>
    obtain ⟨⟨lfs, hfiles, hopen⟩, -⟩ :=
      sdInitTask_cleared env.now s.sdLfsFormat env.init (s.errorsHandled env)
    refine HandleInv.of_counted ?_ hstorage ?_
    · show (sdInitTask _ _ _ _).1.files.Counted
      rw [hfiles]
      exact SdFiles.counted_cleared hopen
    · intro _ hisOpen
      change (sdInitTask _ _ _ _).1.files.bufferedReadIsOpen = true at hisOpen
      rw [hfiles] at hisOpen
      cases hisOpen
  | false =>
    refine HandleInv.of_counted ?_ hstorage ?_
    · show (s.errorsHandled env).files.Counted
      rw [errorsHandled_files]
      exact h.counted (by rw [hpc]; nofun)
    · intro _
      show (s.errorsHandled env).files.bufferedReadIsOpen = true → _
      rw [errorsHandled_files]
      exact h.stream (by rw [hpc]; rfl)

theorem setterStep_handleInv (h : s.HandleInv) (hpc : s.pc = .setter k) :
    (s.setterStep k).HandleInv := by
  have hcounted := h.counted (by rw [hpc]; nofun)
  have hstorage := h.storage (by rw [hpc]; nofun)
  have hstream := h.stream (by rw [hpc]; rfl)
  unfold setterStep
  cases (s.sd.queue k).getLast? with
  | none => exact enterGetter_handleInv hcounted hstorage hstream
  | some p => exact .of_counted hcounted hstorage fun _ => hstream

theorem writingStep_handleInv {p : QueuedPoint b} (h : s.HandleInv) (hpc : s.pc = .writing k p) :
    (s.writingStep k p env).HandleInv := by
  have hcounted := (h.counted (by rw [hpc]; nofun)).sdWrite p.point env.write
  have hstorage := h.storage (by rw [hpc]; nofun)
  have hstream : (sdWrite p.point env.write s.sd.files).1.bufferedReadIsOpen = true →
      s.streamLeft = true := by
    rw [(sdWrite_bufferedReadFile ..).2.1]
    exact h.stream (by rw [hpc]; rfl)
  unfold writingStep
  dsimp only
  split_ifs <;> exact enterGetter_handleInv hcounted hstorage hstream

theorem getterStep_handleInv {offset : ℕ} (h : s.HandleInv) (hpc : s.pc = .getter k offset) :
    (s.getterStep k offset env).HandleInv := by
  have hcounted := h.counted (by rw [hpc]; nofun)
  have hstorage := h.storage (by rw [hpc]; nofun)
  unfold getterStep
  dsimp only
  split_ifs
  · exact .of_counted hcounted hstorage fun hstreams => by cases hstreams
  · exact .of_counted (hcounted.close env.close) hstorage fun _ hopen => by cases hopen

theorem readingStep_handleInv {offset amount : ℕ} {r : GetRequest} (h : s.HandleInv)
    (hpc : s.pc = .reading k offset amount r) :
    (s.readingStep k offset amount r env).HandleInv := by
  have hcounted := h.counted (by rw [hpc]; nofun)
  have hstorage := h.storage (by rw [hpc]; nofun)
  unfold readingStep
  dsimp only
  split_ifs with hok
  · refine HandleInv.of_counted (counted_sdRead _ _ hcounted) hstorage ?_
    intro _ hopen
    -- a read that fails has closed the file
    have hclosed := closed_of_sdRead hcounted.toConsistent (by simpa using hok)
    exact absurd (hclosed.symm.trans hopen) Bool.false_ne_true
  · exact .of_counted (counted_sdRead _ _ hcounted) hstorage fun hstreams => by cases hstreams

theorem waitingStep_handleInv {offset start : ℕ} (h : s.HandleInv)
    (hpc : s.pc = .waiting k offset start) : (s.waitingStep k offset start env).HandleInv := by
  have hcounted := h.counted (by rw [hpc]; nofun)
  have hstorage := h.storage (by rw [hpc]; nofun)
  unfold waitingStep
  split_ifs with helapsed hcb
  · exact .of_counted hcounted hstorage fun _ _ => rfl
  · exact .of_counted hcounted hstorage fun hstreams => by cases hstreams
  · exact .of_counted hcounted hstorage fun hstreams => by cases hstreams

theorem storageStep_handleInv (h : s.HandleInv) (hpc : s.pc = .storage) :
    (s.storageStep env).HandleInv where
  consistent := ⟨h.consistent.isOpen, h.consistent.unchanged, h.consistent.noError,
    h.consistent.path⟩
  openFiles := Storage.task_openFiles h.openFiles
  storage := by
    intro hleft
    have hphase : s.storage.phase = .page dataStoragePages := by
      by_contra hne
      exact hleft (if_neg hne)
    show (s.storage.task env.storage s.sd.files.lfs).2.holdsOpen = false
    rw [Storage.task, hphase]
    simp [Storage.holdsOpen]
  stream _ := h.stream (by rw [hpc]; rfl)

/-- **Every step** keeps account of the open files. -/
theorem step_handleInv (e : SdEvent b) (h : s.HandleInv) (hs : step s e = some s') :
    s'.HandleInv := by
  cases e with
  | append p =>
    obtain rfl := Option.some.inj hs
    unfold append
    dsimp only
    split_ifs
    · exact ⟨h.consistent, h.openFiles, h.storage, h.stream⟩
    · exact h
  | pageWrite i page now =>
    change (if systemTimerGetMs now = 0 then none else some _) = some s' at hs
    split_ifs at hs
    obtain rfl := Option.some.inj hs
    exact ⟨h.consistent, h.openFiles, h.storage, h.stream⟩
  | request _ _ | ack _ | storageTick _ | requestFormat =>
    obtain rfl := Option.some.inj hs
    exact ⟨h.consistent, h.openFiles, h.storage, h.stream⟩
  | task env =>
    obtain rfl := Option.some.inj hs
    cases hpc : s.pc with
    | loop =>
      rw [taskStep, hpc]
      exact loopStep_handleInv h hpc
    | setter k =>
      rw [taskStep, hpc]
      exact setterStep_handleInv h hpc
    | writing k p =>
      rw [taskStep, hpc]
      exact writingStep_handleInv h hpc
    | getter k offset =>
      rw [taskStep, hpc]
      exact getterStep_handleInv h hpc
    | reading k offset amount r =>
      rw [taskStep, hpc]
      exact readingStep_handleInv h hpc
    | waiting k offset start =>
      rw [taskStep, hpc]
      exact waitingStep_handleInv h hpc
    | storage =>
      rw [taskStep, hpc]
      exact storageStep_handleInv h hpc

/-- No two files are open at a time, and none was open when a file was opened. -/
def BufferExclusive (s : SdSystem b) : Prop :=
  s.sd.files.lfs.openFiles ≤ 1 ∧ s.sd.files.lfs.Exclusive

instance (s : SdSystem b) : Decidable s.BufferExclusive := inferInstanceAs (Decidable (_ ∧ _))

/-- The step opens a file of its own, beside the buffered one. -/
def opensFile (s : SdSystem b) : Bool :=
  match s.pc with
  | .writing _ _ => true
  | .storage => s.storage.opens
  | _ => false

/-- Nothing is opened while a stream that was left because of a timeout still has
its file. -/
def StreamsClosed (s : SdSystem b) : SdEvent b → Prop
  | .task _ => s.opensFile = true → ¬ (s.streamLeft = true ∧ s.sd.files.bufferedReadIsOpen = true)
  | _ => True

instance (s : SdSystem b) : ∀ e, Decidable (s.StreamsClosed e)
  | .task _ => inferInstanceAs (Decidable (_ → ¬ _))
  | .append _ | .request _ _ | .ack _ | .pageWrite _ _ _ | .storageTick _ | .requestFormat =>
    isTrue trivial

/-- Where a step opens no file, no file is opened beside another. -/
theorem exclusive_of_counted {t : SdSystem b} (hcounted : t.sd.files.Counted)
    (hexclusive : t.sd.files.lfs.Exclusive) (hopens : s.opensFile = false) :
    t.BufferExclusive ↔ s.StreamsClosed (.task env) := by
  refine iff_of_true ⟨?_, hexclusive⟩ fun hs => absurd (hopens.symm.trans hs) Bool.false_ne_true
  rw [hcounted.openFiles]
  split_ifs <;> omega

theorem loopStep_exclusive (h : s.HandleInv) (hex : s.BufferExclusive) (hpc : s.pc = .loop) :
    (s.loopStep env).BufferExclusive ↔ s.StreamsClosed (.task env) := by
  have hnext : (s.loopStep env).HandleInv := loopStep_handleInv h hpc
  have hcounted : (s.loopStep env).sd.files.Counted := by
    refine hnext.counted ?_
    rw [loopStep_eq]
    dsimp only
    split_ifs <;> nofun
  refine exclusive_of_counted hcounted ?_ (by rw [opensFile, hpc])
  rw [loopStep_eq]
  unfold looped
  cases s.initDue env with
  | true =>
    refine sdInitTask_exclusive ?_
    rw [errorsHandled_files]
    exact hex.2
  | false =>
    show (s.errorsHandled env).files.lfs.Exclusive
    rw [errorsHandled_files]
    exact hex.2

theorem setterStep_exclusive (h : s.HandleInv) (hex : s.BufferExclusive) (hpc : s.pc = .setter k) :
    (s.setterStep k).BufferExclusive ↔ s.StreamsClosed (.task env) := by
  refine exclusive_of_counted ?_ ?_ (by rw [opensFile, hpc])
  · rw [setterStep_files]
    exact h.counted (by rw [hpc]; nofun)
  · rw [setterStep_files]
    exact hex.2

/-- The write of a point: its files are opened one after the other, and only the
buffered one can be open before. -/
theorem writingStep_exclusive {p : QueuedPoint b} (h : s.HandleInv) (hex : s.BufferExclusive)
    (hpc : s.pc = .writing k p) :
    (s.writingStep k p env).BufferExclusive ↔ s.StreamsClosed (.task env) := by
  have hcounted := h.counted (by rw [hpc]; nofun)
  have hexclusive : (sdWrite p.point env.write s.sd.files).1.lfs.Exclusive ↔
      s.sd.files.bufferedReadIsOpen = false := by
    rw [sdWrite_eq, writeDataPoint_exclusive, hcounted.openFiles, and_iff_left hex.2]
    cases s.sd.files.bufferedReadIsOpen <;> decide
  have hclosed : s.StreamsClosed (.task env) ↔ s.sd.files.bufferedReadIsOpen = false := by
    have hstream := h.stream (by rw [hpc]; rfl)
    have hopens : s.opensFile = true := by rw [opensFile, hpc]
    rw [← Bool.not_eq_true]
    exact ⟨fun hc hopen => hc hopens ⟨hstream hopen, hopen⟩, fun hc _ hopen => hc hopen.2⟩
  rw [BufferExclusive, writingStep_files, hexclusive, hclosed, and_iff_right]
  rw [sdWrite_eq, writeDataPoint_openFiles]
  exact hex.1

theorem getterStep_exclusive {offset : ℕ} (h : s.HandleInv) (hex : s.BufferExclusive)
    (hpc : s.pc = .getter k offset) :
    (s.getterStep k offset env).BufferExclusive ↔ s.StreamsClosed (.task env) := by
  have hcounted := h.counted (by rw [hpc]; nofun)
  have hopens : s.opensFile = false := by rw [opensFile, hpc]
  unfold getterStep
  dsimp only
  split_ifs
  · exact exclusive_of_counted hcounted hex.2 hopens
  · exact exclusive_of_counted (hcounted.close env.close) (Session.close_exclusive.mpr hex.2) hopens

theorem readingStep_exclusive {offset amount : ℕ} {r : GetRequest} (h : s.HandleInv)
    (hex : s.BufferExclusive) (hpc : s.pc = .reading k offset amount r) :
    (s.readingStep k offset amount r env).BufferExclusive ↔ s.StreamsClosed (.task env) := by
  have hcounted := h.counted (by rw [hpc]; nofun)
  have hsound : (sdRead b k r amount (offset / entrySize b k) env.read env.readOld (s.sd.cbData k)
      s.sd.files).sd.Sound :=
    sound_sdRead _ _ ⟨hcounted, hex.2⟩
  have hopens : s.opensFile = false := by rw [opensFile, hpc]
  unfold readingStep
  dsimp only
  split_ifs <;> exact exclusive_of_counted hsound.toCounted hsound.exclusive hopens

theorem waitingStep_exclusive {offset start : ℕ} (h : s.HandleInv) (hex : s.BufferExclusive)
    (hpc : s.pc = .waiting k offset start) :
    (s.waitingStep k offset start env).BufferExclusive ↔ s.StreamsClosed (.task env) := by
  have hcounted := h.counted (by rw [hpc]; nofun)
  have hopens : s.opensFile = false := by rw [opensFile, hpc]
  unfold waitingStep
  split_ifs <;> exact exclusive_of_counted hcounted hex.2 hopens

/-- The handler opens a page file only from where it holds no other. -/
theorem storageStep_exclusive (h : s.HandleInv) (hex : s.BufferExclusive) (hpc : s.pc = .storage) :
    (s.storageStep env).BufferExclusive ↔ s.StreamsClosed (.task env) := by
  have hstream := h.stream (by rw [hpc]; rfl)
  have hopenFiles : (s.storage.task env.storage s.sd.files.lfs).1.openFiles = _ :=
    Storage.task_openFiles h.openFiles
  have hbuffered : (s.storageStep env).sd.files.bufferedReadIsOpen = s.sd.files.bufferedReadIsOpen :=
    rfl
  have hexclusive : (s.storageStep env).sd.files.lfs.Exclusive ↔ _ := Storage.task_exclusive
  have hclosed : s.StreamsClosed (.task env) ↔
      (s.storage.opens = true → ¬ (s.streamLeft = true ∧ s.sd.files.bufferedReadIsOpen = true)) := by
    rw [StreamsClosed, opensFile, hpc]
  rw [BufferExclusive, hclosed, hexclusive, and_iff_left hex.2]
  show (s.storage.task env.storage s.sd.files.lfs).1.openFiles ≤ 1 ∧ _ ↔ _
  rw [hopenFiles]
  cases hopens : s.storage.opens with
  | true =>
    have hholds : s.storage.holdsOpen = false := s.storage.holdsOpen_of_opens hopens
    rw [h.openFiles, hholds]
    cases hopen : s.sd.files.bufferedReadIsOpen with
    | true => simp [hstream hopen]
    | false =>
      refine iff_of_true ⟨?_, fun _ => rfl⟩ fun _ hleft => Bool.false_ne_true hleft.2
      show 0 + _ ≤ 1
      split_ifs <;> omega
  | false =>
    have hholds : (s.storage.task env.storage s.sd.files.lfs).2.holdsOpen = false :=
      Storage.holdsOpen_task hopens
    rw [hholds]
    refine iff_of_true ⟨?_, nofun⟩ nofun
    show (if s.sd.files.bufferedReadIsOpen = true then 1 else 0) + 0 ≤ 1
    split_ifs <;> decide

/-- **One step** opens a file beside another exactly behind a stream that was left
open. -/
theorem step_exclusive (e : SdEvent b) (h : s.HandleInv) (hex : s.BufferExclusive)
    (hs : step s e = some s') : s'.BufferExclusive ↔ s.StreamsClosed e := by
  cases e with
  | append p =>
    obtain rfl := Option.some.inj hs
    refine iff_of_true ?_ trivial
    unfold append
    dsimp only
    split_ifs <;> exact hex
  | pageWrite i page now =>
    change (if systemTimerGetMs now = 0 then none else some _) = some s' at hs
    split_ifs at hs
    obtain rfl := Option.some.inj hs
    exact iff_of_true hex trivial
  | request _ _ | ack _ | storageTick _ | requestFormat =>
    obtain rfl := Option.some.inj hs
    exact iff_of_true hex trivial
  | task env =>
    obtain rfl := Option.some.inj hs
    cases hpc : s.pc with
    | loop =>
      rw [taskStep, hpc]
      exact loopStep_exclusive h hex hpc
    | setter k =>
      rw [taskStep, hpc]
      exact setterStep_exclusive h hex hpc
    | writing k p =>
      rw [taskStep, hpc]
      exact writingStep_exclusive h hex hpc
    | getter k offset =>
      rw [taskStep, hpc]
      exact getterStep_exclusive h hex hpc
    | reading k offset amount r =>
      rw [taskStep, hpc]
      exact readingStep_exclusive h hex hpc
    | waiting k offset start =>
      rw [taskStep, hpc]
      exact waitingStep_exclusive h hex hpc
    | storage =>
      rw [taskStep, hpc]
      exact storageStep_exclusive h hex hpc

end SdSystem

open SdSystem in
/-- **Exclusive use of the file buffer.**  A run of the SD task has at most one file
open at a time, and none when it opens one, exactly if no file is opened while a
stream that was left because of a timeout still has its own. -/
theorem sdTask_exclusive (card : Path → Option (List UInt8)) (now : ℕ) (es : List (SdEvent b))
    (s : SdSystem b) (hr : run step (init card now) es = some s) :
    (∀ pre post u, es = pre ++ post → run step (init card now) pre = some u →
      u.BufferExclusive) ↔ Meets step StreamsClosed (init card now) es := by
  refine meets_iff_reached (I := HandleInv) (P := BufferExclusive) ?_ ?_ ?_ ?_ hr
  · exact fun _ e _ h hs => step_handleInv e h hs
  · exact fun _ e _ h hex hs => step_exclusive e h hex hs
  · exact init_handleInv card now
  · exact ⟨Nat.zero_le 1, List.forall_mem_nil _⟩

/-- A card with one file, of the daily energy manager data of January 2024. -/
def cardWithDailyFile (path : Path) : Option (List UInt8) :=
  if path = sdGetPathWithFilename (DataPoint.filled .v2 .energyManagerDaily 0 1).fileName then
    some (newFile .v2 .energyManagerDaily)
  else none

/-- A request for the first of January 2024, up to the chunk that is handed out. -/
def streamOfDay : List (SdEvent .v2) :=
  [.request .energyManagerDaily { year := 24, month := 1, day := 1, amount := 1 }] ++
    List.replicate 6 (.task { now := 1002 })

/-- A point is written, and a stream that the host acknowledges is closed before the
first page is read. -/
theorem sdTask_exclusive_acknowledged :
    let es := startUp ++ [.append (.filled .v2 .wallbox 0 1), .task { now := 1002 }] ++
      streamOfDay ++ [.ack .energyManagerDaily] ++ List.replicate 5 (.task { now := 1003 })
    ∀ pre post u, es = pre ++ post →
      run SdSystem.step (.init cardWithDailyFile 1) pre = some u → u.BufferExclusive := by
  intro es
  apply (sdTask_exclusive cardWithDailyFile 1 es
    (after SdSystem.step (.init cardWithDailyFile 1) es) (run_eq_after (by decide +kernel))).mpr
  decide +kernel

/-- The host does not acknowledge the chunk in time: the buffered file is still open
when the first page is read. -/
theorem sdTask_not_exclusive :
    ¬ ∀ card now (es : List (SdEvent .v2)) s,
      run SdSystem.step (.init card now) es = some s → s.BufferExclusive := by
  intro h
  have hexclusive := h cardWithDailyFile 1
    (startUp ++ streamOfDay ++ List.replicate 3 (.task { now := 2003 })) _
    (run_eq_after (by decide +kernel))
  revert hexclusive
  decide +kernel

/-! ### The order of the calls -/

namespace SdSystem

variable {s s' : SdSystem b} {env : SdEnv} {k : DataKind}

/-- No call of the task at `pc` meets a handle in the wrong state: nothing is open
when the module is cleared, the file of a write can be opened, the buffered file is
open at the end of a stream, and a seek that is not checked succeeds. -/
def HandlesHoldAt (env : SdEnv) (s : SdSystem b) : SdPc b → Prop
  | .loop =>
    s.initDue env = true → s.sd.files.bufferedReadIsOpen = false ∧
      (env.init.boots s.sdLfsFormat = true → env.init.bootCount.openFile = none)
  | .writing _ p =>
    firstOpen p.point.fileName env.write s.sd.files = none ∧
      (p.point.kind.daily = true → env.write.seek = none)
  | .getter k offset =>
    ¬ offset < (s.sd.getRequest k).amount.toNat * entrySize b k →
      s.sd.files.bufferedReadIsOpen = true
  | .reading k _ _ r => SeekHolds b k r env.read env.readOld s.sd.files
  | .storage => s.storage.usesHandle env.storage s.sd.files.lfs = true
  | .setter _ | .waiting _ _ _ => True

/-- No step meets a handle in the wrong state. -/
def HandlesHold (s : SdSystem b) : SdEvent b → Prop
  | .task env => s.HandlesHoldAt env s.pc
  | _ => True

instance (env : SdEnv) (s : SdSystem b) : ∀ pc, Decidable (s.HandlesHoldAt env pc)
  | .loop => inferInstanceAs (Decidable (_ → _ ∧ (_ → _)))
  | .writing _ _ => inferInstanceAs (Decidable (_ ∧ (_ → _)))
  | .getter _ _ => inferInstanceAs (Decidable (¬ _ → _))
  | .reading _ _ _ _ => inferInstanceAs (Decidable (SeekHolds _ _ _ _ _ _))
  | .storage => inferInstanceAs (Decidable (_ = true))
  | .setter _ | .waiting _ _ _ => isTrue trivial

instance (s : SdSystem b) : ∀ e, Decidable (s.HandlesHold e)
  | .task env => inferInstanceAs (Decidable (s.HandlesHoldAt env s.pc))
  | .append _ | .request _ _ | .ack _ | .pageWrite _ _ _ | .storageTick _ | .requestFormat =>
    isTrue trivial

theorem taskStep_storage (env : SdEnv) (s : SdSystem b) :
    (s.taskStep env).storage = s.storage ∨
      s.pc = .storage ∧
        (s.taskStep env).storage = (s.storage.task env.storage s.sd.files.lfs).2 := by
  unfold taskStep
  cases hpc : s.pc with
  | storage => exact .inr ⟨rfl, rfl⟩
  | loop =>
    dsimp only
    rw [loopStep_eq]
    exact .inl rfl
  | setter k =>
    dsimp only
    unfold setterStep
    cases (s.sd.queue k).getLast? <;> exact .inl rfl
  | writing k p =>
    dsimp only
    unfold writingStep
    dsimp only
    split_ifs <;> exact .inl rfl
  | getter k offset =>
    dsimp only
    unfold getterStep
    dsimp only
    split_ifs <;> exact .inl rfl
  | reading k offset amount r =>
    dsimp only
    unfold readingStep
    dsimp only
    split_ifs <;> exact .inl rfl
  | waiting k offset start =>
    dsimp only
    unfold waitingStep
    split_ifs <;> exact .inl rfl

/-- Nobody else touches the handle of the storage handler. -/
theorem step_holding (e : SdEvent b) (h : s.storage.Holding) (hc : s.HandlesHold e)
    (hs : step s e = some s') : s'.storage.Holding := by
  cases e with
  | task env =>
    obtain rfl := Option.some.inj hs
    rcases s.taskStep_storage env with hkept | ⟨hpc, hmoved⟩
    · rw [hkept]
      exact h
    · rw [HandlesHold, hpc, HandlesHoldAt] at hc
      rw [hmoved]
      exact Storage.task_holding hc
  | append p =>
    obtain rfl := Option.some.inj hs
    have hkept : (s.append p).storage = s.storage := by
      unfold append
      dsimp only
      split_ifs <;> rfl
    rw [hkept]
    exact h
  | pageWrite i page now =>
    change (if systemTimerGetMs now = 0 then none else some _) = some s' at hs
    split_ifs at hs
    obtain rfl := Option.some.inj hs
    exact h
  | request _ _ | ack _ | storageTick _ | requestFormat =>
    obtain rfl := Option.some.inj hs
    exact h

/-- **One step** that meets its handles as it expects them. -/
theorem step_legal (e : SdEvent b) (h : s.HandleInv) (hlegal : s.sd.files.lfs.Legal)
    (hholding : s.storage.Holding) (hc : s.HandlesHold e) (hs : step s e = some s') : s'.sd.files.lfs.Legal := by
  have hstep := step_files hs
  generalize s'.sd.files = files at hstep ⊢
  cases hstep with
  | same => exact hlegal
  | initialised env hpc hdue =>
    rw [HandlesHold, hpc, HandlesHoldAt] at hc
    obtain ⟨hclosed, hboot⟩ := hc hdue
    refine sdInitTask_legal ?_ hboot ?_
    · rw [errorsHandled_files]
      exact fun hopened => absurd (hclosed.symm.trans (h.consistent.isOpen.mpr hopened)) nofun
    · rw [errorsHandled_files]
      exact hlegal
  | written env k p hpc =>
    rw [HandlesHold, hpc, HandlesHoldAt] at hc
    rw [sdWrite_eq, writeDataPoint_legal]
    refine ⟨⟨hc.1, fun hreturns => hc.2 ?_⟩, hlegal⟩
    simpa using hreturns
  | closed env k offset hpc hend =>
    rw [HandlesHold, hpc, HandlesHoldAt] at hc
    exact legal_sdLfsCloseBufferedRead.mpr ⟨h.consistent.isOpen.mp (hc hend), hlegal⟩
  | read env k offset amount r hpc =>
    rw [HandlesHold, hpc, HandlesHoldAt] at hc
    exact legal_sdRead h.consistent hc hlegal
  | stored env hpc =>
    rw [HandlesHold, hpc, HandlesHoldAt] at hc
    exact (Storage.task_legal hholding).mpr ⟨hc, hlegal⟩

end SdSystem

open SdSystem in
/-- **The order of littlefs calls.**  In a run all of whose steps meet their handles
as they expect them, every handle is opened, used while it is open, and closed
once before it is opened again or given up. -/
theorem sdTask_legal (card : Path → Option (List UInt8)) (now : ℕ) (es : List (SdEvent b))
    (s : SdSystem b) (hm : Meets step HandlesHold (init card now) es)
    (hr : run step (init card now) es = some s) : s.sd.files.lfs.Legal := by
  have hinv : s.HandleInv ∧ s.storage.Holding ∧ s.sd.files.lfs.Legal := by
    refine run_induct_meets
      (P := fun s => s.HandleInv ∧ s.storage.Holding ∧ s.sd.files.lfs.Legal) ?_ ?_ hm hr
    · rintro s e s' ⟨hhandle, hholding, hlegal⟩ hc hs
      exact ⟨step_handleInv e hhandle hs, step_holding e hholding hc hs,
        step_legal e hhandle hlegal hholding hc hs⟩
    · exact ⟨init_handleInv card now, nofun, List.forall_mem_nil _⟩
  exact hinv.2.2

/-- A stream of one day that is there, up to its end. -/
theorem sdTask_legal_acknowledged :
    (after SdSystem.step (.init cardWithDailyFile 1) (startUp ++ streamOfDay ++
      [.ack .energyManagerDaily] ++
      List.replicate 4 (.task { now := 1003 }))).sd.files.lfs.Legal := by
  apply sdTask_legal cardWithDailyFile 1 (startUp ++ streamOfDay ++ [.ack .energyManagerDaily] ++
    List.replicate 4 (.task { now := 1003 }))
  · decide +kernel
  · exact run_eq_after (by decide +kernel)

/-- The first write of a file that is missing closes the handle of the failed open. -/
theorem sdTask_not_legal :
    ¬ ∀ card now (es : List (SdEvent .v2)) s,
      run SdSystem.step (.init card now) es = some s → s.sd.files.lfs.Legal := by
  intro h
  have hlegal := h (fun _ => none) 1
    (startUp ++ [.append (.filled .v2 .wallbox 0 1)] ++ List.replicate 2 (.task { now := 1002 })) _
    (run_eq_after (by decide +kernel))
  revert hlegal
  decide +kernel

end Bricklib2
