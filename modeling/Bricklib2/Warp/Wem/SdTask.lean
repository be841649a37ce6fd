/-
Bricklib2/Warp/Wem/SdTask.lean

The SD task (sd_tick_task of sd.c) as a machine: one step runs the task from one
place where it yields to the next, and in between the host appends data points,
asks for data, acknowledges callbacks and changes storage pages.  A write or
read of one point is a single step at its end, so a point that is being written
is in flight for as long as the task is in `writing`.
-/
import Bricklib2.Library.Machine
import Bricklib2.Protocols.Tfp
import Bricklib2.Warp.Wem.DataStorage

namespace Bricklib2

open FileStore

/-! ### State -/

/-- A point in its queue.  The number is its place in the order in which points
were accepted; only proofs look at it. -/
structure QueuedPoint (b : Build) where
  number : ℕ
  point : DataPoint b
  deriving DecidableEq

/-- `SD_*_DATA_POINT_LENGTH` -/
def DataKind.queueLength : DataKind → ℕ
  | .wallbox | .energyManager => 8
  | .wallboxDaily | .energyManagerDaily => 2

/-- `SD_*_DATA_POINT_PER_CB` -/
def perCb : Build → DataKind → ℕ
  | .v1, .wallbox => 20
  | .v2, .wallbox => 15
  | _, .wallboxDaily => 15
  | _, .energyManager => 1
  | _, .energyManagerDaily => 1

/-- `SD_*_DATA_POINT_CB_LENGTH` -/
def cbLength (b : Build) (k : DataKind) : ℕ := perCb b k * entrySize b k

/-- How long a callback may wait to be fetched. -/
def sdCallbackTimeout : ℕ := 1000

/-- `SDMMC_ERROR_COUNT_TO_HIGH` -/
def sdmmcErrorCountToHigh : ℕ := 41

/-- `LFS_ERR_*` as a positive number. -/
def lfsAbs : LfsCode → ℕ
  | none => 0
  | some .noEntry => 2
  | some .exist => 17
  | some (.other code) => code + 1

/-- `SD`: the four queues hold the points below their `end`. -/
structure Sd (b : Build) where
  files : SdFiles
  sdStatus : ℕ := 0
  lfsStatus : ℕ := 0
  sdRwErrorCount : ℕ := 0
  sdmmcInitLast : ℕ := 0
  queue : DataKind → List (QueuedPoint b) := fun _ => []
  getRequest : DataKind → GetRequest := fun _ => ⟨0, 0, 0, 0, 0, 0, 0⟩
  newPoints : DataKind → Bool := fun _ => false
  cbDataLength : DataKind → ℕ := fun _ => 0
  cbOffset : DataKind → ℕ := fun _ => 0
  cbData : DataKind → List UInt8 := fun k => List.replicate (cbLength b k) 0
  newCb : DataKind → Bool := fun _ => false

/-- Where the task is. -/
inductive SdPc (b : Build)
  /-- At the top of the endless loop. -/
  | loop
  /-- At the setter of a handler. -/
  | setter (k : DataKind)
  /-- In the write of a point that was taken out of its queue. -/
  | writing (k : DataKind) (p : QueuedPoint b)
  /-- At the head of the loop of a getter. -/
  | getter (k : DataKind) (offset : ℕ)
  /-- In the read of a chunk, with the arguments it was called with. -/
  | reading (k : DataKind) (offset amount : ℕ) (r : GetRequest)
  /-- Waiting for the callback of a chunk to be sent. -/
  | waiting (k : DataKind) (offset start : ℕ)
  /-- In the storage handler. -/
  | storage
  deriving DecidableEq

/-- The module with its task.  For the proofs: which points were accepted and which
were written (the newest in front), and whether a stream was left because of a
timeout and not taken up again. -/
structure SdSystem (b : Build) where
  sd : Sd b
  storage : Storage
  sdLfsFormat : Bool := false
  pc : SdPc b := .loop
  accepted : List (QueuedPoint b) := []
  written : List (QueuedPoint b) := []
  streamLeft : Bool := false

/-- What littlefs answers while the starts are counted. -/
structure BootCountCodes where
  openFile : LfsCode := none
  read : LfsCode := none
  rewind : LfsCode := none
  write : LfsCode := none
  close : LfsCode := none
  deriving DecidableEq

/-- What the card and littlefs answer in the course of an initialisation. -/
structure InitCodes where
  /-- `sdmmc_init`, 0 for `SDMMC_ERROR_OK`. -/
  sdmmc : ℕ := 0
  format : LfsCode := none
  mount : LfsCode := none
  formatAgain : LfsCode := none
  mountAgain : LfsCode := none
  bootCount : BootCountCodes := {}
  deriving DecidableEq

/-- What the outside decides in one step of the task: the time and the results of
all calls it may make. -/
structure SdEnv where
  now : ℕ
  init : InitCodes := {}
  write : WriteCodes := {}
  read : ReadCodes := {}
  readOld : ReadCodes := {}
  close : LfsCode := none
  storage : StorageCodes := {}

variable {b : Build}

/-! ### Initialisation -/

/-- Boot counter file: read, increment, write back. -/
def bootCount (codes : BootCountCodes) (lfs : Lfs) : Lfs :=
  let file := (Lfs.newFile lfs).openFile bootCountPath true codes.openFile
  let count := wordAt ((file.readBytes 4 codes.read).getD []) 0
  let file := (file.read 4 codes.read).seek 0 codes.rewind
  let bytes := (List.range 4).map fun i => UInt8.ofNat ((count + 1) / 2 ^ (8 * i))
  ((file.write bytes codes.write).close codes.close).leave

/-- `memset(&sd, 0, sizeof(SD))`: the card keeps its files, the rest is lost, also the
list littlefs has of its open files. -/
def Sd.cleared (sd : Sd b) : Sd b :=
  let lfs := sd.files.bufferedRead.leave
  { files := { lfs := { lfs with openFiles := 0 } } }

/-- A successful `lfs_format`. -/
def Sd.formatted (sd : Sd b) : Sd b :=
  { sd with files := { sd.files with lfs := { sd.files.lfs with files := fun _ => none } } }

/-- The end of the initialisation; the status is set last. -/
def Sd.booted (codes : InitCodes) (sd : Sd b) : Sd b :=
  { sd with
    files := { sd.files with lfs := bootCount codes.bootCount sd.files.lfs }
    sdStatus := codes.sdmmc }

/-- The initialisation from the first mount on; a card that cannot be mounted is
formatted. -/
def Sd.mounted (codes : InitCodes) (sd : Sd b) : Sd b :=
  let sd := { sd with lfsStatus := lfsAbs codes.mount }
  if codes.mount.isNone then sd.booted codes
  else if codes.formatAgain.isSome then
    { sd with lfsStatus := lfsAbs codes.formatAgain, sdStatus := codes.sdmmc }
  else if codes.mountAgain.isSome then
    { sd.formatted with lfsStatus := lfsAbs codes.mountAgain, sdStatus := codes.sdmmc }
  else sd.formatted.booted codes

/-- `sd_init_task`, with the flag `sd_lfs_format`. -/
def sdInitTask (now : ℕ) (format : Bool) (codes : InitCodes) (sd : Sd b) : Sd b × Bool :=
  let sd := { sd.cleared with sdStatus := 2 ^ 32 - 1, lfsStatus := 2 ^ 32 - 1 }
  if codes.sdmmc ≠ 0 then
    ({ sd with sdStatus := codes.sdmmc, sdmmcInitLast := systemTimerGetMs now }, format)
  else if !format then (sd.mounted codes, false)
  else if codes.format.isSome then
    ({ sd with lfsStatus := lfsAbs codes.format, sdStatus := codes.sdmmc }, false)
  else (sd.formatted.mounted codes, false)

/-! ### Steps of the task -/

/-- What comes behind the data points of a kind. -/
def DataKind.next : DataKind → SdPc b
  | .wallbox => .setter .wallboxDaily
  | .wallboxDaily => .setter .energyManager
  | .energyManager => .setter .energyManagerDaily
  | .energyManagerDaily => .storage

namespace SdSystem

/-- The check behind the setter. -/
def enterGetter (s : SdSystem b) (k : DataKind) : SdSystem b :=
  { s with pc := if s.sd.newPoints k then .getter k 0 else k.next }

/-- Whether the loop initialises the card, and the state it does that from. -/
def errorsHandled (env : SdEnv) (s : SdSystem b) : Sd b :=
  let count := if s.sdLfsFormat then 1000 else s.sd.sdRwErrorCount
  if 10 < count then
    { s.sd with
      sdRwErrorCount := 0
      sdmmcInitLast := (systemTimerGetMs env.now + 2 ^ 32 - 1001) % 2 ^ 32
      sdStatus := sdmmcErrorCountToHigh
      lfsStatus := sdmmcErrorCountToHigh }
  else { s.sd with sdRwErrorCount := count }

/-- The card is to be initialised once more. -/
def initDue (env : SdEnv) (s : SdSystem b) : Bool :=
  let last := (s.errorsHandled env).sdmmcInitLast
  last ≠ 0 && systemTimerIsTimeElapsedMs env.now last 1000

/-- From the top of the loop to its first handler. -/
def loopStep (env : SdEnv) (s : SdSystem b) : SdSystem b :=
  let sd := s.errorsHandled env
  let (sd, format) :=
    if s.initDue env then sdInitTask env.now s.sdLfsFormat env.init sd else (sd, s.sdLfsFormat)
  { s with
    sd := sd
    sdLfsFormat := format
    pc := if sd.sdStatus = 0 && sd.lfsStatus = 0 then .setter .wallbox else .loop }

/-- The newest point is taken out of the queue. -/
def setterStep (k : DataKind) (s : SdSystem b) : SdSystem b :=
  match (s.sd.queue k).getLast? with
  | some p =>
    { s with
      sd := { s.sd with queue := Function.update s.sd.queue k (s.sd.queue k).dropLast }
      pc := .writing k p }
  | none => s.enterGetter k

/-- The write is over: a point that was not written goes back into the queue, if
there is room. -/
def writingStep (k : DataKind) (p : QueuedPoint b) (env : SdEnv) (s : SdSystem b) : SdSystem b :=
  let (files, ret) := sdWrite p.point env.write s.sd.files
  let sd := { s.sd with files := files }
  if ret then
    enterGetter { s with sd := { sd with sdRwErrorCount := 0 }, written := p :: s.written } k
  else
    let queue :=
      if (sd.queue k).length < k.queueLength then Function.update sd.queue k (sd.queue k ++ [p])
      else sd.queue
    enterGetter
      { s with sd := { sd with queue := queue, sdRwErrorCount := sd.sdRwErrorCount + 1 } } k

/-- The head of the loop of a getter; behind the last chunk the file is closed. -/
def getterStep (k : DataKind) (offset : ℕ) (env : SdEnv) (s : SdSystem b) : SdSystem b :=
  let r := s.sd.getRequest k
  if offset < r.amount.toNat * entrySize b k then
    let amount := min (perCb b k) (r.amount.toNat - offset / entrySize b k)
    { s with pc := .reading k offset amount r }
  else
    { s with
      sd :=
        { s.sd with
          files := sdLfsCloseBufferedRead env.close s.sd.files
          newPoints := Function.update s.sd.newPoints k false }
      pc := k.next }

/-- The units of `cb_offset` and `cb_data_length`: bytes, for the daily points words. -/
def cbUnit (k : DataKind) : ℕ := if k.daily then 4 else 1

/-- The chunk is read: it is handed to the host, or the stream is given up. -/
def readingStep (k : DataKind) (offset amount : ℕ) (r : GetRequest) (env : SdEnv)
    (s : SdSystem b) : SdSystem b :=
  let result := sdRead b k r amount (offset / entrySize b k) env.read env.readOld (s.sd.cbData k)
    s.sd.files
  let sd :=
    { s.sd with
      files := result.sd
      cbData := Function.update s.sd.cbData k result.data }
  let s := { s with streamLeft := false }
  if !result.ok then
    { s with sd := { sd with sdRwErrorCount := sd.sdRwErrorCount + 1 }, pc := k.next }
  else
    { s with
      sd :=
        { sd with
          sdRwErrorCount := 0
          cbOffset := Function.update sd.cbOffset k (offset / cbUnit k)
          cbDataLength :=
            Function.update sd.cbDataLength k
              ((sd.getRequest k).amount.toNat * (entrySize b k / cbUnit k) % 2 ^ 16)
          newCb := Function.update sd.newCb k true }
      pc := .waiting k offset (systemTimerGetMs env.now) }

/-- Behind a yield: first the timeout is checked, then whether the chunk was sent. -/
def waitingStep (k : DataKind) (offset start : ℕ) (env : SdEnv) (s : SdSystem b) : SdSystem b :=
  if systemTimerIsTimeElapsedMs env.now start sdCallbackTimeout then
    { s with
      sd := { s.sd with sdRwErrorCount := s.sd.sdRwErrorCount + 1 }
      pc := k.next
      streamLeft := true }
  else
    { s with
      sd := { s.sd with sdRwErrorCount := 0 }
      pc :=
        if s.sd.newCb k then .waiting k offset start
        else .getter k ((offset + cbLength b k) % 2 ^ 16) }

/-- The task at the pages. -/
def storageStep (env : SdEnv) (s : SdSystem b) : SdSystem b :=
  let (lfs, storage) := s.storage.task env.storage s.sd.files.lfs
  { s with
    sd := { s.sd with files := { s.sd.files with lfs := lfs } }
    storage := storage
    pc := if s.storage.phase = .page dataStoragePages then .loop else .storage }

/-- The task from one yield to the next. -/
def taskStep (env : SdEnv) (s : SdSystem b) : SdSystem b :=
  match s.pc with
  | .loop => s.loopStep env
  | .setter k => s.setterStep k
  | .writing k p => s.writingStep k p env
  | .getter k offset => s.getterStep k offset env
  | .reading k offset amount r => s.readingStep k offset amount r env
  | .waiting k offset start => s.waitingStep k offset start env
  | .storage => s.storageStep env

/-- A point is accepted exactly while there is room in its queue. -/
def append (p : DataPoint b) (s : SdSystem b) : SdSystem b :=
  let queue := s.sd.queue p.kind
  if queue.length < p.kind.queueLength then
    let point : QueuedPoint b := ⟨s.accepted.length, p⟩
    { s with
      sd := { s.sd with queue := Function.update s.sd.queue p.kind (queue ++ [point]) }
      accepted := point :: s.accepted }
  else s

end SdSystem

/-! ### Runs -/

/-- What happens to the module: requests of the host, ticks, and the task. -/
inductive SdEvent (b : Build)
  | append (p : DataPoint b)
  | request (k : DataKind) (r : GetRequest)
  | ack (k : DataKind)
  | pageWrite (i : Fin dataStoragePages) (page : Page) (now : ℕ)
  | storageTick (now : ℕ)
  | requestFormat
  | task (env : SdEnv)

namespace SdSystem

/-- The card as it is found, and the module before its first step. -/
def init (card : Path → Option (List UInt8)) (now : ℕ) : SdSystem b where
  sd :=
    { files := { lfs := { files := card } }
      sdStatus := 2 ^ 32 - 1
      lfsStatus := 2 ^ 32 - 1
      sdmmcInitLast := systemTimerGetMs now }
  storage := { ds := dataStorageInit }

/-- A step of the module. -/
def step (s : SdSystem b) : SdEvent b → Option (SdSystem b)
  | .append p => some (s.append p)
  | .request k r =>
    some
      { s with
        sd :=
          { s.sd with
            getRequest := Function.update s.sd.getRequest k r
            newPoints := Function.update s.sd.newPoints k true } }
  | .ack k => some { s with sd := { s.sd with newCb := Function.update s.sd.newCb k false } }
  | .pageWrite i page now =>
    if systemTimerGetMs now = 0 then none
    else some { s with storage := s.storage.pageWrite i page now }
  | .storageTick now =>
    some { s with storage := { s.storage with ds := dataStorageTick now s.storage.ds } }
  | .requestFormat => some { s with sdLfsFormat := true }
  | .task env => some (s.taskStep env)

end SdSystem

/-- The start of a module that was switched on at 1 ms: after a second the task
mounts the card. -/
def startUp : List (SdEvent b) := [.task { now := 1002 }]

end Bricklib2
