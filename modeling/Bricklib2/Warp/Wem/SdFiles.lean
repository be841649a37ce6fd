/-
Bricklib2/Warp/Wem/SdFiles.lean

The functions of sd.c that access the data files: the cache of missing files,
the four writes and the four reads.  littlefs is the file store of
`Library/FileStore`; every call of it takes the code it is going to return, so
a function takes a record with one code for each of its calls.  Directories are
not modelled: `sd_make_path` has no result, and an open below a missing
directory is one that reports an error.
-/
import Bricklib2.Warp.Wem.DataFile

namespace Bricklib2

open FileStore

/-! ### State -/

/-- The files on the card. -/
abbrev Lfs := Store Path

/-- The files on the card with the handle of a call. -/
abbrev LfsFile := Session Path

/-- What a littlefs call returns, `none` for `LFS_ERR_OK`. -/
abbrev LfsCode := Option Error

/-- `FileNoExistCache` -/
structure NoExistEntry where
  wallboxId : UInt32
  ymdp : ℕ
  deriving DecidableEq, Repr

/-- The files that are remembered as missing. -/
def sdFileNoExistCacheLength : ℕ := 4

/-- The part of `SD` that the file accesses use. -/
structure SdFiles where
  lfs : Lfs
  bufferedReadIsOpen : Bool := false
  bufferedReadCurrentErr : LfsCode := none
  bufferedReadCurrent : FileName := ⟨0, 0, 0, 0, .wb⟩
  bufferedReadFile : Handle Path := {}
  fileNoExistCache : List NoExistEntry := List.replicate sdFileNoExistCacheLength ⟨0, 0⟩
  fileNoExistIndex : ℕ := 0

/-- A local `lfs_file_t`. -/
def Lfs.newFile (lfs : Lfs) : LfsFile := ⟨lfs, {}⟩

@[simp] theorem Lfs.newFile_store (lfs : Lfs) : (Lfs.newFile lfs).store = lfs := rfl

@[simp] theorem Lfs.newFile_file (lfs : Lfs) : (Lfs.newFile lfs).file = {} := rfl

namespace SdFiles

/-- The calls on `sd.buffered_read_file`. -/
def bufferedRead (sd : SdFiles) : LfsFile := ⟨sd.lfs, sd.bufferedReadFile⟩

/-- The buffered file after a call on it. -/
def setBufferedRead (sd : SdFiles) (file : LfsFile) : SdFiles :=
  { sd with lfs := file.store, bufferedReadFile := file.file }

end SdFiles

/-! ### Cache of missing files -/

/-- Year, month, day and postfix in one word, as the cache has them. -/
def FileName.ymdp (f : FileName) : ℕ :=
  (f.year.toNat <<< 24) ||| (f.month.toNat <<< 16) ||| (f.day.toNat <<< 8) ||| f.filePostfix.index

/-- What the cache has for a file. -/
def FileName.noExistEntry (f : FileName) : NoExistEntry := ⟨f.wallboxId, f.ymdp⟩

/-- The file is missing; the oldest entry gives way. -/
def sdSetFileNoExist (f : FileName) (sd : SdFiles) : SdFiles :=
  { sd with
    fileNoExistCache := sd.fileNoExistCache.set sd.fileNoExistIndex f.noExistEntry
    fileNoExistIndex := (sd.fileNoExistIndex + 1) % sdFileNoExistCacheLength }

/-- The file is known to be missing. -/
def sdGetFileNoExist (f : FileName) (sd : SdFiles) : Bool :=
  sd.fileNoExistCache.any fun entry => entry = f.noExistEntry

/-- The file is there from now on. -/
def sdRemoveFileNoExist (f : FileName) (sd : SdFiles) : SdFiles :=
  { sd with
    fileNoExistCache :=
      sd.fileNoExistCache.map fun entry => if entry = f.noExistEntry then ⟨0, 0⟩ else entry }

/-! ### Writing -/

/-- What littlefs answers while a new file is written. -/
structure CreateCodes where
  openFile : LfsCode := none
  write : LfsCode := none
  close : LfsCode := none
  deriving DecidableEq

/-- The `*_new_file` functions; the only close of each path has `codes.close`. -/
def writeNewFile (template : List UInt8) (path : Path) (codes : CreateCodes) (lfs : Lfs) :
    Lfs × Bool :=
  let file := (Lfs.newFile lfs).openFile path true codes.openFile
  if codes.openFile.isSome then
    -- the handle of the failed open is closed
    ((file.close codes.close).leave, false)
  else
    let file := file.write template codes.write
    if codes.write.isSome then
      ((file.close codes.close).leave, false)
    else
      ((file.close codes.close).leave, codes.close.isNone)

/-- A new file for a wallbox. -/
def sdWriteWallboxDataPointNewFile (b : Build) := writeNewFile (sdNewFileWb5min b)

/-- A new file for the daily data of a wallbox. -/
def sdWriteWallboxDailyDataPointNewFile (b : Build) := writeNewFile (sdNewFileWb1day b)

/-- A new file for an energy manager. -/
def sdWriteEnergyManagerDataPointNewFile (b : Build) := writeNewFile (sdNewFileEm5min b)

/-- A new file for the daily data of an energy manager. -/
def sdWriteEnergyManagerDailyDataPointNewFile (b : Build) := writeNewFile (sdNewFileEm1day b)

/-- What littlefs answers while a data point is written. -/
structure WriteCodes where
  openFile : LfsCode := none
  closeMissing : LfsCode := none
  create : CreateCodes := {}
  reopen : LfsCode := none
  seek : LfsCode := none
  closeAfterSeek : LfsCode := none
  write : LfsCode := none
  close : LfsCode := none
  deriving DecidableEq

/-- The second half of a write, on a handle that is taken for an open one.  The
daily writes lack the `return` after a failed seek (`returns = false`). -/
def writeEntry (returns : Bool) (pos : ℕ) (data : List UInt8) (codes : WriteCodes)
    (file : LfsFile) : Lfs × Bool :=
  let file := file.seek pos codes.seek
  if codes.seek.isSome && returns then
    ((file.close codes.closeAfterSeek).leave, false)
  else
    let file := if codes.seek.isSome then file.close codes.closeAfterSeek else file
    let file := file.write data codes.write
    if codes.write.isSome then
      ((file.close codes.close).leave, false)
    else
      ((file.close codes.close).leave, codes.close.isNone)

/-- A write of one entry: opens the file, creates it if it is missing, and puts
the entry at `pos`.  Any other error of the first open goes unnoticed. -/
def writeDataPoint (f : FileName) (create : Path → CreateCodes → Lfs → Lfs × Bool)
    (returns : Bool) (pos : ℕ) (data : List UInt8) (codes : WriteCodes) (sd : SdFiles) :
    SdFiles × Bool :=
  let path := sdGetPathWithFilename f
  let file := (Lfs.newFile sd.lfs).openFile path false codes.openFile
  if Error.isMissing (Session.openResult sd.lfs.files path false codes.openFile) then
    let file := file.close codes.closeMissing
    let (lfs, ret) := create path codes.create file.store
    if !ret then
      ({ sd with lfs := Session.leave ⟨lfs, file.file⟩ }, false)
    else
      let reopened := Session.openFile ⟨lfs, file.file⟩ path false codes.reopen
      if (Session.openResult lfs.files path false codes.reopen).isSome then
        ({ sd with lfs := reopened.leave }, false)
      else
        let sd := sdRemoveFileNoExist f sd
        let (lfs, ret) := writeEntry returns pos data codes reopened
        ({ sd with lfs := lfs }, ret)
  else
    let (lfs, ret) := writeEntry returns pos data codes file
    ({ sd with lfs := lfs }, ret)

section Members

variable (b : Build)

/-- A data point of a wallbox into its slot of the day. -/
def sdWriteWallboxDataPoint (wallboxId : UInt32) (year month day hour minute : UInt8)
    (data5m : List UInt8) : WriteCodes → SdFiles → SdFiles × Bool :=
  writeDataPoint ⟨wallboxId, year, month, day, .wb⟩ (sdWriteWallboxDataPointNewFile b) true
    (DataKind.wallbox.position (entrySize b .wallbox) day hour minute 0) data5m

/-- A daily data point of a wallbox into its slot of the month. -/
def sdWriteWallboxDailyDataPoint (wallboxId : UInt32) (year month day : UInt8)
    (data1d : List UInt8) : WriteCodes → SdFiles → SdFiles × Bool :=
  writeDataPoint ⟨wallboxId, year, month, sdFileNoDayInPath, .wb⟩
    (sdWriteWallboxDailyDataPointNewFile b) false
    (DataKind.wallboxDaily.position (entrySize b .wallboxDaily) day 0 0 0) data1d

/-- A data point of an energy manager into its slot of the day. -/
def sdWriteEnergyManagerDataPoint (year month day hour minute : UInt8) (data5m : List UInt8) :
    WriteCodes → SdFiles → SdFiles × Bool :=
  writeDataPoint ⟨0, year, month, day, .emWPrices⟩ (sdWriteEnergyManagerDataPointNewFile b) true
    (DataKind.energyManager.position (entrySize b .energyManager) day hour minute 0) data5m

/-- A daily data point of an energy manager into its slot of the month. -/
def sdWriteEnergyManagerDailyDataPoint (year month day : UInt8) (data1d : List UInt8) :
    WriteCodes → SdFiles → SdFiles × Bool :=
  writeDataPoint ⟨0, year, month, sdFileNoDayInPath, .emWPrices⟩
    (sdWriteEnergyManagerDailyDataPointNewFile b) false
    (DataKind.energyManagerDaily.position (entrySize b .energyManagerDaily) day 0 0 0) data1d

end Members

/-- The write of a point from its queue. -/
def sdWrite {b : Build} (p : DataPoint b) : WriteCodes → SdFiles → SdFiles × Bool :=
  match p.kind with
  | .wallbox =>
    sdWriteWallboxDataPoint b p.wallboxId p.year p.month p.day p.hour p.minute p.data
  | .wallboxDaily => sdWriteWallboxDailyDataPoint b p.wallboxId p.year p.month p.day p.data
  | .energyManager =>
    sdWriteEnergyManagerDataPoint b p.year p.month p.day p.hour p.minute p.data
  | .energyManagerDaily => sdWriteEnergyManagerDailyDataPoint b p.year p.month p.day p.data

/-! ### Buffered reading -/

/-- What littlefs answers while the buffered file is opened. -/
structure OpenReadCodes where
  close : LfsCode := none
  openFile : LfsCode := none
  deriving DecidableEq

/-- The open of `sd_lfs_open_buffered_read` and the fields that remember it. -/
def SdFiles.openRead (f : FileName) (code : LfsCode) (sd : SdFiles) : SdFiles :=
  let path := sdGetPathWithFilename f
  let err := Session.openResult sd.lfs.files path false code
  { sd.setBufferedRead (sd.bufferedRead.openFile path false code) with
    bufferedReadCurrent := f
    bufferedReadCurrentErr := err
    bufferedReadIsOpen := err.isNone }

/-- Opens the buffered file and remembers the file if it is missing. -/
def openBufferedRead (f : FileName) (code : LfsCode) (sd : SdFiles) : SdFiles × LfsCode :=
  let sd := sd.openRead f code
  let err := sd.bufferedReadCurrentErr
  if Error.isMissing err then (sdSetFileNoExist f sd, err) else (sd, err)

/-- The buffered file is kept if it is the one that is asked for. -/
def sdLfsOpenBufferedRead (f : FileName) (codes : OpenReadCodes) (sd : SdFiles) :
    SdFiles × LfsCode :=
  if sdGetFileNoExist f sd then (sd, some .noEntry)
  else if sd.bufferedReadIsOpen then
    if sd.bufferedReadCurrent = f then (sd, sd.bufferedReadCurrentErr)
    else
      openBufferedRead f codes.openFile
        { sd.setBufferedRead (sd.bufferedRead.close codes.close) with bufferedReadIsOpen := false }
  else if Error.isMissing sd.bufferedReadCurrentErr && sd.bufferedReadCurrent = f then
    (sd, sd.bufferedReadCurrentErr)
  else openBufferedRead f codes.openFile sd

/-- Gives up the buffered file. -/
def sdLfsCloseBufferedRead (code : LfsCode) (sd : SdFiles) : SdFiles :=
  { sd.setBufferedRead (sd.bufferedRead.close code) with bufferedReadIsOpen := false }

/-- What littlefs answers in the course of a read. -/
structure ReadCodes where
  opening : OpenReadCodes := {}
  seek : LfsCode := none
  closeAfterSeek : LfsCode := none
  read : LfsCode := none
  close : LfsCode := none
  deriving DecidableEq

/-- What a read leaves behind: the buffer it was given, and its return value. -/
structure ReadResult where
  sd : SdFiles
  data : List UInt8
  ok : Bool

/-- The second half of a read, on the handle that is taken for an open one.  The
daily reads lack the `return` after a failed seek. -/
def readEntries (returns : Bool) (pos n : ℕ) (codes : ReadCodes) (data : List UInt8)
    (sd : SdFiles) : ReadResult :=
  let sd := sd.setBufferedRead (sd.bufferedRead.seek pos codes.seek)
  if codes.seek.isSome && returns then
    ⟨sdLfsCloseBufferedRead codes.closeAfterSeek sd, data, false⟩
  else
    let sd := if codes.seek.isSome then sdLfsCloseBufferedRead codes.closeAfterSeek sd else sd
    let bytes := sd.bufferedRead.readBytes n codes.read
    let data := Bytes.overwrite data 0 (bytes.getD [])
    let sd := sd.setBufferedRead (sd.bufferedRead.read n codes.read)
    if bytes.map List.length = some n then ⟨sd, data, true⟩
    else ⟨sdLfsCloseBufferedRead codes.close sd, data, false⟩

/-- A read of `n` bytes at `pos`, `missing` if there is no such file. -/
def readDataPoints (f : FileName) (returns : Bool) (pos n : ℕ)
    (missing : List UInt8 → SdFiles → ReadResult) (codes : ReadCodes) (data : List UInt8)
    (sd : SdFiles) : ReadResult :=
  let (sd, err) := sdLfsOpenBufferedRead f codes.opening sd
  if Error.isMissing err then missing data sd
  else if err.isSome then ⟨sd, data, false⟩
  else readEntries returns pos n codes data sd

/-- The byte loops of the reads: `bytes` at the same place of each entry. -/
def fillEntries (size offset : ℕ) (bytes : List UInt8) (amount : ℕ) (data : List UInt8) :
    List UInt8 :=
  (List.range amount).foldl (fun data i => Bytes.overwrite data (i * size + offset) bytes) data

/-- `memset(data, 0xFF, n)` -/
def fillFF (n : ℕ) (data : List UInt8) : List UInt8 :=
  Bytes.overwrite data 0 (List.replicate n 0xFF)

/-- Data points of a wallbox from their slots of the day. -/
def sdReadWallboxDataPoint (b : Build) (wallboxId : UInt32) (year month day hour minute : UInt8)
    (amount offset : ℕ) : ReadCodes → List UInt8 → SdFiles → ReadResult :=
  readDataPoints ⟨wallboxId, year, month, day, .wb⟩ true
    (DataKind.wallbox.position (entrySize b .wallbox) day hour minute offset)
    (amount * entrySize b .wallbox)
    fun data sd =>
      ⟨sd, fillEntries (entrySize b .wallbox) 0 (sd5minFlagNoData b ++ [0, 0]) amount data, true⟩

/-- Daily data points of a wallbox from their slots of the month. -/
def sdReadWallboxDailyDataPoint (b : Build) (wallboxId : UInt32) (year month day : UInt8)
    (amount offset : ℕ) : ReadCodes → List UInt8 → SdFiles → ReadResult :=
  readDataPoints ⟨wallboxId, year, month, sdFileNoDayInPath, .wb⟩ false
    (DataKind.wallboxDaily.position (entrySize b .wallboxDaily) day 0 0 offset)
    (amount * entrySize b .wallboxDaily)
    fun data sd => ⟨sd, fillFF (amount * entrySize b .wallboxDaily) data, true⟩

/-- `sizeof(EnergyManager5MinDataOld)` -/
def energyManager5MinDataOldSize : ℕ := 29

/-- `sizeof(EnergyManager1DayDataOld)` -/
def energyManager1DayDataOldSize : ℕ := 56

/-- Data points from a file in the format without prices. -/
def sdReadEnergyManagerDataPointOld (year month day hour minute : UInt8) (amount offset : ℕ) :
    ReadCodes → List UInt8 → SdFiles → ReadResult :=
  readDataPoints ⟨0, year, month, day, .em⟩ true
    (DataKind.energyManager.position energyManager5MinDataOldSize day hour minute offset)
    (amount * energyManager5MinDataOldSize)
    fun data sd =>
      ⟨sd, fillEntries energyManager5MinDataOldSize 0
        (sd5minFlagNoData .v1 ++ List.replicate 28 0) amount data, true⟩

/-- Daily data points from a file in the format without prices. -/
def sdReadEnergyManagerDailyDataPointOld (year month day : UInt8) (amount offset : ℕ) :
    ReadCodes → List UInt8 → SdFiles → ReadResult :=
  readDataPoints ⟨0, year, month, sdFileNoDayInPath, .em⟩ false
    (DataKind.energyManagerDaily.position energyManager1DayDataOldSize day 0 0 offset)
    (amount * energyManager1DayDataOldSize)
    fun data sd => ⟨sd, fillFF (amount * energyManager1DayDataOldSize) data, true⟩

/-- The last four bytes of each entry, for files without a price. -/
def fillPrice (size amount : ℕ) (data : List UInt8) : List UInt8 :=
  fillEntries size (size - 4) (List.replicate 4 0xFF) amount data

/-- The V1 build looks for a file in the old format before it gives up; `old` has
the codes of that second read. -/
def sdReadEnergyManagerDataPoint (b : Build) (year month day hour minute : UInt8)
    (amount offset : ℕ) (codes old : ReadCodes) : List UInt8 → SdFiles → ReadResult :=
  let size := entrySize b .energyManager
  let missing (data : List UInt8) (sd : SdFiles) : ReadResult :=
    match b with
    | .v1 =>
      let ret :=
        sdReadEnergyManagerDataPointOld year month day hour minute amount offset old data sd
      { ret with data := fillPrice size amount ret.data }
    | .v2 =>
      ⟨sd, fillEntries size 0
        (sd5minFlagNoData b ++ List.replicate 28 0 ++ List.replicate 4 0xFF) amount data, true⟩
  readDataPoints ⟨0, year, month, day, .emWPrices⟩ true
    (DataKind.energyManager.position size day hour minute offset) (amount * size) missing codes

/-- Daily data points of an energy manager, from the old format if there is no other file. -/
def sdReadEnergyManagerDailyDataPoint (b : Build) (year month day : UInt8) (amount offset : ℕ)
    (codes old : ReadCodes) : List UInt8 → SdFiles → ReadResult :=
  let size := entrySize b .energyManagerDaily
  let missing (data : List UInt8) (sd : SdFiles) : ReadResult :=
    match b with
    | .v1 =>
      let ret := sdReadEnergyManagerDailyDataPointOld year month day amount offset old data sd
      { ret with data := fillPrice size amount ret.data }
    | .v2 => ⟨sd, fillFF (amount * size) data, true⟩
  readDataPoints ⟨0, year, month, sdFileNoDayInPath, .emWPrices⟩ false
    (DataKind.energyManagerDaily.position size day 0 0 offset) (amount * size) missing codes

/-- What a getter asks for (`get_sd_*_data_points`). -/
structure GetRequest where
  wallboxId : UInt32 := 0
  year : UInt8
  month : UInt8
  day : UInt8
  hour : UInt8 := 0
  minute : UInt8 := 0
  amount : UInt16
  deriving DecidableEq

/-- One read of a getter stream. -/
def sdRead (b : Build) (k : DataKind) (r : GetRequest) (amount offset : ℕ)
    (codes old : ReadCodes) : List UInt8 → SdFiles → ReadResult :=
  match k with
  | .wallbox =>
    sdReadWallboxDataPoint b r.wallboxId r.year r.month r.day r.hour r.minute amount offset codes
  | .wallboxDaily =>
    sdReadWallboxDailyDataPoint b r.wallboxId r.year r.month r.day amount offset codes
  | .energyManager =>
    sdReadEnergyManagerDataPoint b r.year r.month r.day r.hour r.minute amount offset codes old
  | .energyManagerDaily =>
    sdReadEnergyManagerDailyDataPoint b r.year r.month r.day amount offset codes old

end Bricklib2
