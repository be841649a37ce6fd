/-
Bricklib2/Warp/Wem/SdRead.lean

What the buffered reads keep, for every sequence of return codes: the handle
`sd.buffered_read_file` and the fields that describe it agree (`Consistent`),
at most that one file is open (`Sound`), no file changes, and which reads use
the handle as littlefs wants it (`sdRead_legal`).
-/
import Bricklib2.Warp.Wem.SdFiles

namespace Bricklib2

open FileStore

variable {b : Build} {k : DataKind} {r : GetRequest} {amount offset : ℕ} {data : List UInt8}

/-! ### The pieces of a read -/

/-- The file a request is about. -/
def GetRequest.fileName (r : GetRequest) (k : DataKind) : FileName :=
  k.fileName r.wallboxId r.year r.month r.day

/-- The same file in the old format. -/
def GetRequest.oldFileName (r : GetRequest) (k : DataKind) : FileName :=
  { r.fileName k with filePostfix := .em }

namespace SdFiles

/-- A seek in the buffered file. -/
def seekBuffered (pos : ℕ) (code : LfsCode) (sd : SdFiles) : SdFiles :=
  sd.setBufferedRead (sd.bufferedRead.seek pos code)

/-- A read from the buffered file. -/
def readBuffered (n : ℕ) (code : LfsCode) (sd : SdFiles) : SdFiles :=
  sd.setBufferedRead (sd.bufferedRead.read n code)

end SdFiles

/-- What all calls of a read keep, the second half keeps. -/
theorem readEntries_induct {P : SdFiles → Prop}
    (hseek : ∀ pos code sd, P sd → P (sd.seekBuffered pos code))
    (hread : ∀ n code sd, P sd → P (sd.readBuffered n code))
    (hclose : ∀ code sd, P sd → P (sdLfsCloseBufferedRead code sd)) {returns : Bool} {pos n : ℕ}
    {codes : ReadCodes} {data : List UInt8} {sd : SdFiles} (h : P sd) :
    P (readEntries returns pos n codes data sd).sd := by
  have hsought := hseek pos codes.seek sd h
  unfold readEntries
  dsimp only
  split_ifs
  · exact hclose _ _ hsought
  · exact hread _ _ _ (hclose _ _ hsought)
  · exact hclose _ _ (hread _ _ _ (hclose _ _ hsought))
  · exact hread _ _ _ hsought
  · exact hclose _ _ (hread _ _ _ hsought)

theorem readDataPoints_induct {P : SdFiles → Prop} {f : FileName} {codes : ReadCodes}
    (hopen : ∀ sd, P sd → P (sdLfsOpenBufferedRead f codes.opening sd).1)
    (hseek : ∀ pos code sd, P sd → P (sd.seekBuffered pos code))
    (hread : ∀ n code sd, P sd → P (sd.readBuffered n code))
    (hclose : ∀ code sd, P sd → P (sdLfsCloseBufferedRead code sd)) {returns : Bool} {pos n : ℕ}
    {missing : List UInt8 → SdFiles → ReadResult}
    (hmissing : ∀ data sd, P sd → P (missing data sd).sd) {data : List UInt8} {sd : SdFiles}
    (h : P sd) : P (readDataPoints f returns pos n missing codes data sd).sd := by
  have hopened := hopen sd h
  unfold readDataPoints
  dsimp only
  split_ifs
  · exact hmissing _ _ hopened
  · exact hopened
  · exact readEntries_induct hseek hread hclose hopened

/-- **What all calls keep, a read keeps.**  The second open is that of the V1 build
for a file in the old format. -/
theorem sdRead_induct {P : SdFiles → Prop} {codes old : ReadCodes}
    (hopen : ∀ sd, P sd → P (sdLfsOpenBufferedRead (r.fileName k) codes.opening sd).1)
    (hold : ∀ sd, P sd → P (sdLfsOpenBufferedRead (r.oldFileName k) old.opening sd).1)
    (hseek : ∀ pos code sd, P sd → P (sd.seekBuffered pos code))
    (hread : ∀ n code sd, P sd → P (sd.readBuffered n code))
    (hclose : ∀ code sd, P sd → P (sdLfsCloseBufferedRead code sd)) {sd : SdFiles} (h : P sd) :
    P (sdRead b k r amount offset codes old data sd).sd := by
  cases k with
  | wallbox =>
    exact readDataPoints_induct hopen hseek hread hclose (fun _ _ hsd => hsd) h
  | wallboxDaily =>
    exact readDataPoints_induct hopen hseek hread hclose (fun _ _ hsd => hsd) h
  | energyManager =>
    apply readDataPoints_induct hopen hseek hread hclose _ h
    intro data sd hsd
    cases b with
    | v1 => exact readDataPoints_induct hold hseek hread hclose (fun _ _ hsd => hsd) hsd
    | v2 => exact hsd
  | energyManagerDaily =>
    apply readDataPoints_induct hopen hseek hread hclose _ h
    intro data sd hsd
    cases b with
    | v1 => exact readDataPoints_induct hold hseek hread hclose (fun _ _ hsd => hsd) hsd
    | v2 => exact hsd

/-! ### The open file -/

/-- The fields that describe the buffered file say what its handle says. -/
structure SdFiles.Consistent (sd : SdFiles) : Prop where
  isOpen : sd.bufferedReadIsOpen = true ↔ sd.bufferedReadFile.status = .opened
  unchanged : sd.bufferedReadFile.changed = false
  noError : sd.bufferedReadIsOpen = true → sd.bufferedReadCurrentErr = none
  path : sd.bufferedReadIsOpen = true →
    sd.bufferedReadFile.path = some (sdGetPathWithFilename sd.bufferedReadCurrent)

/-- Beside the buffered file no file is open. -/
structure SdFiles.Counted (sd : SdFiles) : Prop extends sd.Consistent where
  openFiles : sd.lfs.openFiles = if sd.bufferedReadIsOpen then 1 else 0

/-- And none was when another was opened. -/
structure SdFiles.Sound (sd : SdFiles) : Prop extends sd.Counted where
  exclusive : sd.lfs.Exclusive

section Invariants

variable {sd : SdFiles} {f : FileName} {code : LfsCode}

namespace SdFiles

theorem Consistent.seek (h : sd.Consistent) (pos : ℕ) (code : LfsCode) :
    (sd.seekBuffered pos code).Consistent where
  isOpen := h.isOpen.trans (by simp [seekBuffered, setBufferedRead, bufferedRead])
  unchanged := by simpa [seekBuffered, setBufferedRead, bufferedRead] using h.unchanged
  noError := h.noError
  path hopen := by simpa [seekBuffered, setBufferedRead, bufferedRead] using h.path hopen

theorem Consistent.read (h : sd.Consistent) (n : ℕ) (code : LfsCode) :
    (sd.readBuffered n code).Consistent :=
  ⟨h.isOpen, h.unchanged, h.noError, h.path⟩

theorem consistent_close (code : LfsCode) (sd : SdFiles) :
    (sdLfsCloseBufferedRead code sd).Consistent where
  isOpen := by simp [sdLfsCloseBufferedRead, setBufferedRead, bufferedRead]
  unchanged := rfl
  noError hopen := absurd hopen Bool.false_ne_true
  path hopen := absurd hopen Bool.false_ne_true

/-- Marking a file as missing is not about the buffered one. -/
theorem Consistent.setFileNoExist (h : sd.Consistent) (f : FileName) :
    (sdSetFileNoExist f sd).Consistent :=
  ⟨h.isOpen, h.unchanged, h.noError, h.path⟩

theorem consistent_openRead (f : FileName) (code : LfsCode) (sd : SdFiles) :
    (sd.openRead f code).Consistent := by
  cases hresult : Session.openResult sd.lfs.files (sdGetPathWithFilename f) false code with
  | none =>
    have hhandle := Session.openFile_of_none (s := sd.bufferedRead) hresult
    constructor <;> simp [openRead, setBufferedRead, hhandle, hresult]
  | some e =>
    have hfailed : (Session.openResult sd.bufferedRead.store.files (sdGetPathWithFilename f)
        false code).isSome = true := Option.isSome_of_eq_some hresult
    constructor <;>
      simp [openRead, setBufferedRead, Session.openFile_of_some hfailed, hresult]

/-- What the open of another file leaves in place of the buffered one. -/
theorem consistent_openBufferedRead (f : FileName) (code : LfsCode) (sd : SdFiles) :
    (openBufferedRead f code sd).1.Consistent := by
  unfold openBufferedRead
  dsimp only
  split_ifs
  · exact (consistent_openRead f code sd).setFileNoExist f
  · exact consistent_openRead f code sd

theorem Consistent.sdLfsOpenBufferedRead (h : sd.Consistent) (f : FileName)
    (codes : OpenReadCodes) : (sdLfsOpenBufferedRead f codes sd).1.Consistent := by
  unfold Bricklib2.sdLfsOpenBufferedRead
  split_ifs
  · exact h
  · exact h
  · exact consistent_openBufferedRead _ _ _
  · exact h
  · exact consistent_openBufferedRead _ _ _

/-! ### Beside the buffered file nothing is open -/

theorem Counted.seek (h : sd.Counted) (pos : ℕ) (code : LfsCode) :
    (sd.seekBuffered pos code).Counted :=
  ⟨h.toConsistent.seek pos code, h.openFiles⟩

theorem Counted.read (h : sd.Counted) (n : ℕ) (code : LfsCode) :
    (sd.readBuffered n code).Counted :=
  ⟨h.toConsistent.read n code, h.openFiles⟩

/-- A close counts if the file is open. -/
theorem Counted.close (h : sd.Counted) (code : LfsCode) :
    (sdLfsCloseBufferedRead code sd).Counted where
  toConsistent := consistent_close code sd
  openFiles := by
    have hisOpen := h.isOpen
    show (if sd.bufferedReadFile.status = .opened then sd.lfs.openFiles - 1
      else sd.lfs.openFiles) = 0
    rw [h.openFiles]
    split_ifs with hstatus hopen hopen <;> tauto

theorem Counted.openFiles_eq_zero (h : sd.Counted) (hopen : sd.bufferedReadIsOpen = false) :
    sd.lfs.openFiles = 0 := by
  rw [h.openFiles, hopen]
  rfl

/-- Another file is opened only while the buffered one is closed. -/
theorem Counted.openRead (h : sd.Counted) (hopen : sd.bufferedReadIsOpen = false) (f : FileName)
    (code : LfsCode) : (sd.openRead f code).Counted where
  toConsistent := consistent_openRead f code sd
  openFiles := by
    have hopenFiles := h.openFiles_eq_zero hopen
    cases hresult : Session.openResult sd.lfs.files (sdGetPathWithFilename f) false code <;>
      simp [SdFiles.openRead, setBufferedRead, bufferedRead, hresult, hopenFiles]

theorem Counted.openBufferedRead (h : sd.Counted) (hopen : sd.bufferedReadIsOpen = false)
    (f : FileName) (code : LfsCode) : (openBufferedRead f code sd).1.Counted := by
  have hopened := h.openRead hopen f code
  unfold Bricklib2.openBufferedRead
  dsimp only
  split_ifs
  · exact ⟨hopened.toConsistent.setFileNoExist f, hopened.openFiles⟩
  · exact hopened

theorem Counted.sdLfsOpenBufferedRead (h : sd.Counted) (f : FileName) (codes : OpenReadCodes) :
    (sdLfsOpenBufferedRead f codes sd).1.Counted := by
  unfold Bricklib2.sdLfsOpenBufferedRead
  split_ifs with _ hopen
  · exact h
  · exact h
  · exact (h.close codes.close).openBufferedRead rfl f _
  · exact h
  · exact h.openBufferedRead (Bool.eq_false_of_not_eq_true hopen) f _

theorem exclusive_openBufferedRead (h : sd.lfs.openFiles = 0) (hex : sd.lfs.Exclusive)
    (f : FileName) (code : LfsCode) : (openBufferedRead f code sd).1.lfs.Exclusive := by
  have hopened : (sd.openRead f code).lfs.Exclusive :=
    (Session.openFile_exclusive (s := sd.bufferedRead)).mpr ⟨h, hex⟩
  unfold openBufferedRead
  dsimp only
  split_ifs <;> exact hopened

theorem Sound.close (h : sd.Sound) (code : LfsCode) : (sdLfsCloseBufferedRead code sd).Sound where
  toCounted := h.toCounted.close code
  exclusive := Session.close_exclusive.mpr h.exclusive

theorem Sound.sdLfsOpenBufferedRead (h : sd.Sound) (f : FileName) (codes : OpenReadCodes) :
    (sdLfsOpenBufferedRead f codes sd).1.Sound where
  toCounted := h.toCounted.sdLfsOpenBufferedRead f codes
  exclusive := by
    unfold Bricklib2.sdLfsOpenBufferedRead
    split_ifs with _ hopen
    · exact h.exclusive
    · exact h.exclusive
    · have hclosed := h.close codes.close
      exact exclusive_openBufferedRead (hclosed.openFiles_eq_zero rfl) hclosed.exclusive f _
    · exact h.exclusive
    · have hclosed : sd.bufferedReadIsOpen = false := Bool.eq_false_of_not_eq_true hopen
      exact exclusive_openBufferedRead (h.openFiles_eq_zero hclosed) h.exclusive f _

theorem Sound.seek (h : sd.Sound) (pos : ℕ) (code : LfsCode) :
    (sd.seekBuffered pos code).Sound where
  toCounted := h.toCounted.seek pos code
  exclusive := by
    show (sd.bufferedRead.seek pos code).store.Exclusive
    rw [Session.seek_exclusive]
    exact h.exclusive

theorem Sound.read (h : sd.Sound) (n : ℕ) (code : LfsCode) : (sd.readBuffered n code).Sound where
  toCounted := h.toCounted.read n code
  exclusive := by
    show (sd.bufferedRead.read n code).store.Exclusive
    rw [Session.read_exclusive]
    exact h.exclusive

end SdFiles

/-- **A read leaves at most the buffered file open.** -/
theorem sound_sdRead (codes old : ReadCodes) (h : sd.Sound) :
    (sdRead b k r amount offset codes old data sd).sd.Sound :=
  sdRead_induct (fun _ h => h.sdLfsOpenBufferedRead _ _) (fun _ h => h.sdLfsOpenBufferedRead _ _)
    (fun pos code _ h => h.seek pos code) (fun n code _ h => h.read n code)
    (fun code _ h => h.close code) h

theorem counted_sdRead (codes old : ReadCodes) (h : sd.Counted) :
    (sdRead b k r amount offset codes old data sd).sd.Counted :=
  sdRead_induct (fun _ h => h.sdLfsOpenBufferedRead _ _) (fun _ h => h.sdLfsOpenBufferedRead _ _)
    (fun pos code _ h => h.seek pos code) (fun n code _ h => h.read n code)
    (fun code _ h => h.close code) h

/-! ### The files -/

theorem files_sdLfsCloseBufferedRead (h : sd.Consistent) :
    (sdLfsCloseBufferedRead code sd).lfs.files = sd.lfs.files :=
  Session.close_files_of_unchanged (s := sd.bufferedRead) h.unchanged

theorem files_openBufferedRead : (openBufferedRead f code sd).1.lfs.files = sd.lfs.files := by
  have hopened : (sd.openRead f code).lfs.files = sd.lfs.files :=
    Session.openFile_files_of_existing (s := sd.bufferedRead)
  unfold openBufferedRead
  dsimp only
  split_ifs <;> exact hopened

theorem files_sdLfsOpenBufferedRead {codes : OpenReadCodes} (h : sd.Consistent) :
    (sdLfsOpenBufferedRead f codes sd).1.lfs.files = sd.lfs.files := by
  unfold sdLfsOpenBufferedRead
  split_ifs
  · rfl
  · rfl
  · exact files_openBufferedRead.trans (files_sdLfsCloseBufferedRead h)
  · rfl
  · exact files_openBufferedRead

/-- **A read changes no file.** -/
theorem files_sdRead {codes old : ReadCodes} (h : sd.Consistent) :
    (sdRead b k r amount offset codes old data sd).sd.lfs.files = sd.lfs.files := by
  apply And.right (a := (sdRead b k r amount offset codes old data sd).sd.Consistent)
  apply sdRead_induct (P := fun sd' => sd'.Consistent ∧ sd'.lfs.files = sd.lfs.files)
  · exact fun sd' h => ⟨h.1.sdLfsOpenBufferedRead _ _,
      (files_sdLfsOpenBufferedRead h.1).trans h.2⟩
  · exact fun sd' h => ⟨h.1.sdLfsOpenBufferedRead _ _,
      (files_sdLfsOpenBufferedRead h.1).trans h.2⟩
  · exact fun pos code sd' h => ⟨h.1.seek pos code, h.2⟩
  · exact fun n code sd' h => ⟨h.1.read n code, h.2⟩
  · exact fun code sd' h => ⟨SdFiles.consistent_close code sd',
      (files_sdLfsCloseBufferedRead h.1).trans h.2⟩
  · exact ⟨h, rfl⟩

/-! ### Use of the handle -/

theorem legal_openBufferedRead (h : sd.bufferedReadFile.status ≠ .opened)
    (hlegal : sd.lfs.Legal) : (openBufferedRead f code sd).1.lfs.Legal := by
  have hopened : (sd.openRead f code).lfs.Legal := by
    show (sd.bufferedRead.openFile (sdGetPathWithFilename f) false code).store.Legal
    rw [Session.openFile_legal]
    exact ⟨h, hlegal⟩
  unfold openBufferedRead
  dsimp only
  split_ifs <;> exact hopened

theorem legal_sdLfsCloseBufferedRead :
    (sdLfsCloseBufferedRead code sd).lfs.Legal ↔
      sd.bufferedReadFile.status = .opened ∧ sd.lfs.Legal :=
  Session.close_legal (s := sd.bufferedRead)

/-- Whatever is open is closed first, and nothing else is. -/
theorem legal_sdLfsOpenBufferedRead {codes : OpenReadCodes} (h : sd.Consistent)
    (hlegal : sd.lfs.Legal) : (sdLfsOpenBufferedRead f codes sd).1.lfs.Legal := by
  unfold sdLfsOpenBufferedRead
  split_ifs with _ hopen
  · exact hlegal
  · exact hlegal
  · apply legal_openBufferedRead
    · show Status.closed ≠ Status.opened
      decide
    · exact legal_sdLfsCloseBufferedRead.mpr ⟨h.isOpen.mp hopen, hlegal⟩
  · exact hlegal
  · exact legal_openBufferedRead (fun hstatus => hopen (h.isOpen.mpr hstatus)) hlegal

/-- Without an error the buffered file is open, and it is the one asked for. -/
theorem isOpen_of_sdLfsOpenBufferedRead {codes : OpenReadCodes}
    (hok : (sdLfsOpenBufferedRead f codes sd).2 = none) :
    (sdLfsOpenBufferedRead f codes sd).1.bufferedReadIsOpen = true ∧
      (sdLfsOpenBufferedRead f codes sd).1.bufferedReadCurrent = f := by
  have hopened (sd : SdFiles) (hok : (openBufferedRead f codes.openFile sd).2 = none) :
      (openBufferedRead f codes.openFile sd).1.bufferedReadIsOpen = true ∧
        (openBufferedRead f codes.openFile sd).1.bufferedReadCurrent = f := by
    unfold openBufferedRead at hok ⊢
    dsimp only at hok ⊢
    split_ifs at hok ⊢ with hmissing
    · simp [show (sd.openRead f codes.openFile).bufferedReadCurrentErr = none from hok,
        Error.isMissing] at hmissing
    · exact ⟨Option.isNone_iff_eq_none.mpr hok, rfl⟩
  unfold sdLfsOpenBufferedRead at hok ⊢
  split_ifs at hok ⊢ with _ hopen hsame hmissing
  · exact ⟨hopen, hsame⟩
  · exact hopened _ hok
  · obtain ⟨hmissing, -⟩ := Bool.and_eq_true_iff.mp hmissing
    simp [show sd.bufferedReadCurrentErr = none from hok, Error.isMissing] at hmissing
  · exact hopened _ hok

theorem legal_seekBuffered {pos : ℕ} :
    (sd.seekBuffered pos code).lfs.Legal ↔
      sd.bufferedReadFile.status = .opened ∧ sd.lfs.Legal := by
  show (sd.bufferedRead.seek pos code).store.Legal ↔ _
  rw [Session.seek_legal]
  rfl

theorem legal_readBuffered {n : ℕ} :
    (sd.readBuffered n code).lfs.Legal ↔
      sd.bufferedReadFile.status = .opened ∧ sd.lfs.Legal := by
  show (sd.bufferedRead.read n code).store.Legal ↔ _
  rw [Session.read_legal]
  rfl

theorem status_seekBuffered {pos : ℕ} :
    (sd.seekBuffered pos code).bufferedReadFile.status = sd.bufferedReadFile.status := by
  show (sd.bufferedRead.seek pos code).file.status = _
  rw [Session.seek_status]
  rfl

/-- With an error other than a missing file no file is open. -/
theorem closed_of_sdLfsOpenBufferedRead {codes : OpenReadCodes} (h : sd.Consistent)
    (hfailed : (sdLfsOpenBufferedRead f codes sd).2.isSome = true)
    (hmissing : ¬ Error.isMissing (sdLfsOpenBufferedRead f codes sd).2 = true) :
    (sdLfsOpenBufferedRead f codes sd).1.bufferedReadIsOpen = false := by
  have hopened (sd : SdFiles) (hfailed : (openBufferedRead f codes.openFile sd).2.isSome = true)
      (hmissing : ¬ Error.isMissing (openBufferedRead f codes.openFile sd).2 = true) :
      (openBufferedRead f codes.openFile sd).1.bufferedReadIsOpen = false := by
    unfold openBufferedRead at hfailed hmissing ⊢
    dsimp only at hfailed hmissing ⊢
    split_ifs at hfailed hmissing ⊢ with hm
    · exact absurd hm hmissing
    · show (sd.openRead f codes.openFile).bufferedReadCurrentErr.isNone = false
      exact Option.isNone_eq_false_iff.mpr hfailed
  unfold sdLfsOpenBufferedRead at hfailed hmissing ⊢
  split_ifs at hfailed hmissing ⊢ with _ hopen hsame hm
  · exact absurd rfl hmissing
  · simp [h.noError hopen] at hfailed
  · exact hopened _ hfailed hmissing
  · exact absurd (Bool.and_eq_true_iff.mp hm).1 hmissing
  · exact hopened _ hfailed hmissing

theorem closed_of_readEntries {returns : Bool} {pos n : ℕ} {codes : ReadCodes}
    (hfailed : (readEntries returns pos n codes data sd).ok = false) :
    (readEntries returns pos n codes data sd).sd.bufferedReadIsOpen = false := by
  unfold readEntries at hfailed ⊢
  dsimp only at hfailed ⊢
  split_ifs at hfailed ⊢ <;> rfl

theorem closed_of_readDataPoints {returns : Bool} {pos n : ℕ} {codes : ReadCodes}
    {missing : List UInt8 → SdFiles → ReadResult} (h : sd.Consistent)
    (hmissing : ∀ sd, sd.Consistent → (missing data sd).ok = false →
      (missing data sd).sd.bufferedReadIsOpen = false)
    (hfailed : (readDataPoints f returns pos n missing codes data sd).ok = false) :
    (readDataPoints f returns pos n missing codes data sd).sd.bufferedReadIsOpen = false := by
  unfold readDataPoints at hfailed ⊢
  dsimp only at hfailed ⊢
  split_ifs at hfailed ⊢ with hm he
  · exact hmissing _ (h.sdLfsOpenBufferedRead f codes.opening) hfailed
  · exact closed_of_sdLfsOpenBufferedRead h he hm
  · exact closed_of_readEntries hfailed

/-- **A read that fails leaves no file open.** -/
theorem closed_of_sdRead {codes old : ReadCodes} (h : sd.Consistent)
    (hfailed : (sdRead b k r amount offset codes old data sd).ok = false) :
    (sdRead b k r amount offset codes old data sd).sd.bufferedReadIsOpen = false := by
  cases k with
  | wallbox => exact closed_of_readDataPoints h (fun _ _ hok => by cases hok) hfailed
  | wallboxDaily => exact closed_of_readDataPoints h (fun _ _ hok => by cases hok) hfailed
  | energyManager =>
    apply closed_of_readDataPoints h _ hfailed
    intro sd hsd hok
    cases b with
    | v1 => exact closed_of_readDataPoints hsd (fun _ _ hok => by cases hok) hok
    | v2 => cases hok
  | energyManagerDaily =>
    apply closed_of_readDataPoints h _ hfailed
    intro sd hsd hok
    cases b with
    | v1 => exact closed_of_readDataPoints hsd (fun _ _ hok => by cases hok) hok
    | v2 => cases hok

/-- On the open file only a daily read can go wrong, behind a failed seek. -/
theorem legal_readEntries {returns : Bool} {pos n : ℕ} {codes : ReadCodes}
    (h : sd.bufferedReadFile.status = .opened) (hseek : returns = false → codes.seek = none)
    (hlegal : sd.lfs.Legal) : (readEntries returns pos n codes data sd).sd.lfs.Legal := by
  have hsought : (sd.seekBuffered pos codes.seek).lfs.Legal :=
    legal_seekBuffered.mpr ⟨h, hlegal⟩
  have hstatus : (sd.seekBuffered pos codes.seek).bufferedReadFile.status = .opened :=
    status_seekBuffered.trans h
  have hread : ((sd.seekBuffered pos codes.seek).readBuffered n codes.read).lfs.Legal :=
    legal_readBuffered.mpr ⟨hstatus, hsought⟩
  unfold readEntries
  dsimp only
  split_ifs with hstop hfailed
  · exact legal_sdLfsCloseBufferedRead.mpr ⟨hstatus, hsought⟩
  · cases returns with
    | false => simp [hseek rfl] at hfailed
    | true => exact absurd (Bool.and_eq_true_iff.mpr ⟨hfailed, rfl⟩) hstop
  · cases returns with
    | false => simp [hseek rfl] at hfailed
    | true => exact absurd (Bool.and_eq_true_iff.mpr ⟨hfailed, rfl⟩) hstop
  · exact hread
  · exact legal_sdLfsCloseBufferedRead.mpr ⟨hstatus, hread⟩

theorem legal_readDataPoints {returns : Bool} {pos n : ℕ} {codes : ReadCodes}
    {missing : List UInt8 → SdFiles → ReadResult} (h : sd.Consistent)
    (hseek : returns = false → (sdLfsOpenBufferedRead f codes.opening sd).2 = none →
      codes.seek = none)
    (hmissing : Error.isMissing (sdLfsOpenBufferedRead f codes.opening sd).2 = true →
      (sdLfsOpenBufferedRead f codes.opening sd).1.lfs.Legal →
      (missing data (sdLfsOpenBufferedRead f codes.opening sd).1).sd.lfs.Legal)
    (hlegal : sd.lfs.Legal) :
    (readDataPoints f returns pos n missing codes data sd).sd.lfs.Legal := by
  have hopened : (sdLfsOpenBufferedRead f codes.opening sd).1.lfs.Legal :=
    legal_sdLfsOpenBufferedRead h hlegal
  unfold readDataPoints
  dsimp only
  split_ifs with hmiss hfailed
  · exact hmissing hmiss hopened
  · exact hopened
  · have hok : (sdLfsOpenBufferedRead f codes.opening sd).2 = none :=
      Option.not_isSome_iff_eq_none.mp hfailed
    have hisOpen := (isOpen_of_sdLfsOpenBufferedRead hok).1
    apply legal_readEntries _ (fun hreturns => hseek hreturns hok) hopened
    exact (h.sdLfsOpenBufferedRead f codes.opening).isOpen.mp hisOpen

/-- No daily read gets to the code behind its missing `return`: where the file (or,
in the V1 build, the one in the old format) is open, the seek succeeds. -/
def SeekHolds (b : Build) (k : DataKind) (r : GetRequest) (codes old : ReadCodes)
    (sd : SdFiles) : Prop :=
  let opened := sdLfsOpenBufferedRead (r.fileName k) codes.opening sd
  (k.daily = true → opened.2 = none → codes.seek = none) ∧
    (b = .v1 → k = .energyManagerDaily → Error.isMissing opened.2 = true →
      (sdLfsOpenBufferedRead (r.oldFileName k) old.opening opened.1).2 = none → old.seek = none)

instance (b : Build) (k : DataKind) (r : GetRequest) (codes old : ReadCodes) (sd : SdFiles) :
    Decidable (SeekHolds b k r codes old sd) := by
  unfold SeekHolds
  dsimp only
  infer_instance

/-- **A read keeps to the order of open, use and close**, unless a daily read goes
on behind a failed seek. -/
theorem legal_sdRead {codes old : ReadCodes} (h : sd.Consistent)
    (hseek : SeekHolds b k r codes old sd) (hlegal : sd.lfs.Legal) :
    (sdRead b k r amount offset codes old data sd).sd.lfs.Legal := by
  cases k with
  | wallbox =>
    exact legal_readDataPoints h (fun hr => absurd hr (by decide)) (fun _ hl => hl) hlegal
  | wallboxDaily =>
    exact legal_readDataPoints h (fun _ => hseek.1 rfl) (fun _ hl => hl) hlegal
  | energyManager =>
    apply legal_readDataPoints h (fun hr => absurd hr (by decide)) _ hlegal
    intro hmissing hopened
    cases b with
    | v1 =>
      exact legal_readDataPoints (h.sdLfsOpenBufferedRead _ _) (fun hr => absurd hr (by decide))
        (fun _ hl => hl) hopened
    | v2 => exact hopened
  | energyManagerDaily =>
    apply legal_readDataPoints h (fun _ => hseek.1 rfl) _ hlegal
    intro hmissing hopened
    cases b with
    | v1 =>
      exact legal_readDataPoints (h.sdLfsOpenBufferedRead _ _)
        (fun _ => hseek.2 rfl rfl hmissing) (fun _ hl => hl) hopened
    | v2 => exact hopened

end Invariants

end Bricklib2
