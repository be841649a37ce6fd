/-
Bricklib2/Warp/Wem/DataStorage.lean

The storage pages (data_storage.c, and their part of sd.c): the host writes pages
in RAM, `data_storage_tick` marks them ten minutes later, and the SD task writes
marked pages to the card and reads all pages once at the start.

A read or write of a page yields, so the handler is cut where the host can come
in between: before the bytes are copied, and before the close returns.
-/
import Bricklib2.Hal.SystemTimer
import Bricklib2.Warp.Wem.SdFiles

namespace Bricklib2

open FileStore

/-! ### State -/

/-- `DATA_STORAGE_PAGES` -/
abbrev dataStoragePages : ℕ := 5

/-- The bytes of a page. -/
def dataStorageSize : ℕ := 64

/-- The content of a page. -/
abbrev Page := { bytes : List UInt8 // bytes.length = dataStorageSize }

/-- Bytes read into a page; the rest of it stays. -/
def Page.load (page : Page) (bytes : List UInt8) : Page :=
  ⟨Bytes.overwrite page.1 0 (bytes.take dataStorageSize), by
    rw [Bytes.length_overwrite, page.2]
    rw [Nat.zero_add, List.length_take, page.2]
    exact Nat.min_le_left _ _⟩

/-- The pages with what is to be done for them. -/
structure DataStorage where
  storage : Fin dataStoragePages → Page
  lastChangeTime : Fin dataStoragePages → ℕ
  writeToSd : Fin dataStoragePages → Bool
  readFromSd : Fin dataStoragePages → Bool
  fileNotFound : Fin dataStoragePages → Bool
  hasBeenWrittenOnce : Fin dataStoragePages → Bool

/-- All pages are to be read from the card. -/
def dataStorageInit : DataStorage where
  storage _ := ⟨List.replicate dataStorageSize 0, List.length_replicate⟩
  lastChangeTime _ := 0
  writeToSd _ := false
  readFromSd _ := true
  fileNotFound _ := false
  hasBeenWrittenOnce _ := false

/-- A change of page `i` is due for the card. -/
def DataStorage.due (ds : DataStorage) (now : ℕ) (i : Fin dataStoragePages) : Bool :=
  ds.lastChangeTime i ≠ 0 && systemTimerIsTimeElapsedMs now (ds.lastChangeTime i) (1000 * 60 * 10)

/-- A page is to be written once its change is old enough. -/
def dataStorageTick (now : ℕ) (ds : DataStorage) : DataStorage :=
  { ds with
    lastChangeTime := fun i => if ds.due now i then 0 else ds.lastChangeTime i
    writeToSd := fun i => ds.due now i || ds.writeToSd i }

/-! ### The handler -/

/-- Where `sd_tick_task_handle_storage` is. -/
inductive StoragePhase
  /-- At the top of the loop; behind the last page it has returned. -/
  | page (i : ℕ)
  /-- In `sd_read_storage`, before the bytes are copied. -/
  | reading (i : Fin dataStoragePages)
  /-- The bytes are in RAM, the file is not closed yet. -/
  | read (i : Fin dataStoragePages) (ok : Bool)
  /-- In `sd_write_storage`, before the bytes are copied. -/
  | writing (i : Fin dataStoragePages)
  /-- `copied` is in the handle, the file is not closed yet. -/
  | written (i : Fin dataStoragePages) (copied : Page) (ok : Bool)
  deriving DecidableEq

/-- The pages, the position of the handler with its local handle, and, for the
proofs, the content the host has last given a page since the start. -/
structure Storage where
  ds : DataStorage
  phase : StoragePhase := .page 0
  file : Handle Path := {}
  hostPage : Fin dataStoragePages → Option Page := fun _ => none

/-- What littlefs answers in the course of a task. -/
structure StorageCodes where
  openFile : LfsCode := none
  closeMissing : LfsCode := none
  create : LfsCode := none
  transfer : LfsCode := none
  close : LfsCode := none
  deriving DecidableEq

namespace Storage

/-- The read is over, whatever came of it. -/
def readDone (st : Storage) (i : Fin dataStoragePages) : Storage :=
  { st with
    ds :=
      { st.ds with
        readFromSd := Function.update st.ds.readFromSd i false
        writeToSd := Function.update st.ds.writeToSd i false }
    phase := .page (i + 1) }

/-- The write is over, whatever came of it. -/
def writeDone (st : Storage) (i : Fin dataStoragePages) : Storage :=
  { st with
    ds := { st.ds with writeToSd := Function.update st.ds.writeToSd i false }
    phase := .page (i + 1) }

/-- Whether there is no file of a page. -/
def setFileNotFound (st : Storage) (i : Fin dataStoragePages) (value : Bool) : Storage :=
  { st with ds := { st.ds with fileNotFound := Function.update st.ds.fileNotFound i value } }

/-- `sd_read_storage` up to the copy. -/
def readBegin (i : Fin dataStoragePages) (codes : StorageCodes) (lfs : Lfs) (st : Storage) :
    Lfs × Storage :=
  let path := storagePath i
  let file := (Lfs.newFile lfs).openFile path false codes.openFile
  if Error.isMissing (Session.openResult lfs.files path false codes.openFile) then
    (file.leave, (st.setFileNotFound i true).readDone i)
  else
    let bytes := file.readBytes dataStorageSize codes.transfer
    let file := file.read dataStorageSize codes.transfer
    (file.store,
      { st with
        ds :=
          { st.ds with
            storage :=
              Function.update st.ds.storage i ((st.ds.storage i).load (bytes.getD [])) }
        file := file.file
        phase := .read i (bytes.map List.length = some dataStorageSize) })

/-- The rest of `sd_read_storage` and the flags behind it. -/
def readEnd (i : Fin dataStoragePages) (ok : Bool) (codes : StorageCodes) (lfs : Lfs)
    (st : Storage) : Lfs × Storage :=
  let file : LfsFile := ⟨lfs, st.file⟩
  let st := if ok && codes.close.isNone then st.setFileNotFound i false else st
  ((file.close codes.close).leave, st.readDone i)

/-- `sd_write_storage` up to the copy. -/
def writeBegin (i : Fin dataStoragePages) (codes : StorageCodes) (lfs : Lfs) (st : Storage) :
    Lfs × Storage :=
  let path := storagePath i
  let copy (file : LfsFile) : Lfs × Storage :=
    let file := file.write (st.ds.storage i).1 codes.transfer
    (file.store,
      { st with
        file := file.file
        phase := .written i (st.ds.storage i) codes.transfer.isNone })
  let file := (Lfs.newFile lfs).openFile path false codes.openFile
  if Error.isMissing (Session.openResult lfs.files path false codes.openFile) then
    let file := (file.close codes.closeMissing).openFile path true codes.create
    if codes.create.isSome then (file.leave, st.writeDone i) else copy file
  else copy file

/-- The rest of `sd_write_storage` and the flag behind it. -/
def writeEnd (i : Fin dataStoragePages) (ok : Bool) (codes : StorageCodes) (lfs : Lfs)
    (st : Storage) : Lfs × Storage :=
  let file : LfsFile := ⟨lfs, st.file⟩
  let st :=
    if ok && codes.close.isNone then
      { st with
        ds :=
          { st.ds with hasBeenWrittenOnce := Function.update st.ds.hasBeenWrittenOnce i true } }
    else st
  ((file.close codes.close).leave, st.writeDone i)

/-- `sd_tick_task_handle_storage`, from one yield to the next. -/
def task (codes : StorageCodes) (lfs : Lfs) (st : Storage) : Lfs × Storage :=
  match st.phase with
  | .page i =>
    if h : i < dataStoragePages then
      if st.ds.readFromSd ⟨i, h⟩ then (lfs, { st with phase := .reading ⟨i, h⟩ })
      else if st.ds.writeToSd ⟨i, h⟩ then (lfs, { st with phase := .writing ⟨i, h⟩ })
      else (lfs, { st with phase := .page (i + 1) })
    else (lfs, { st with phase := .page 0 })
  | .reading i => readBegin i codes lfs st
  | .read i ok => readEnd i ok codes lfs st
  | .writing i => writeBegin i codes lfs st
  | .written i _ ok => writeEnd i ok codes lfs st

/-- The host stores a page. -/
def pageWrite (i : Fin dataStoragePages) (page : Page) (now : ℕ) (st : Storage) : Storage :=
  { st with
    ds :=
      { st.ds with
        storage := Function.update st.ds.storage i page
        lastChangeTime := Function.update st.ds.lastChangeTime i (systemTimerGetMs now) }
    hostPage := Function.update st.hostPage i (some page) }

end Storage

/-! ### Runs -/

/-- What happens to the pages: the host writes one, or a tick, or the task of the card. -/
inductive StorageEvent
  | pageWrite (i : Fin dataStoragePages) (page : Page) (now : ℕ)
  | tick (now : ℕ)
  | task (codes : StorageCodes)

/-- The pages and the card they are on. -/
structure StorageSystem where
  lfs : Lfs
  st : Storage

namespace StorageSystem

/-- Right behind `data_storage_init`, with any card. -/
def init (files : Path → Option (List UInt8)) : StorageSystem :=
  ⟨{ files := files }, { ds := dataStorageInit }⟩

/-- A step of the pages. -/
def step (s : StorageSystem) : StorageEvent → Option StorageSystem
  | .pageWrite i page now =>
    -- the time of a change is not zero
    if systemTimerGetMs now = 0 then none else some ⟨s.lfs, s.st.pageWrite i page now⟩
  | .tick now => some ⟨s.lfs, { s.st with ds := dataStorageTick now s.st.ds }⟩
  | .task codes =>
    let (lfs, st) := s.st.task codes s.lfs
    some ⟨lfs, st⟩

/-- The page as the card has it. -/
def card (s : StorageSystem) (i : Fin dataStoragePages) : Option (List UInt8) :=
  (s.lfs.files (storagePath i)).map (List.take dataStorageSize)

/-- A page the host has set is what the host has set. -/
def HostPagesKept (s : StorageSystem) : Prop :=
  ∀ i page, s.st.hostPage i = some page → s.st.ds.storage i = page

/-- A page the host has set and that is not on the card will still be written. -/
def HostPagesDue (s : StorageSystem) : Prop :=
  ∀ i page, s.st.hostPage i = some page → s.card i ≠ some (s.st.ds.storage i).1 →
    s.st.ds.lastChangeTime i ≠ 0 ∨ s.st.ds.writeToSd i = true

end StorageSystem

end Bricklib2
