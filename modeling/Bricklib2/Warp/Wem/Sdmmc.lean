/-
Bricklib2/Warp/Wem/Sdmmc.lean

The SD card driver (sdmmc.c) above the transfer of single bytes.  A transfer sends
and receives one byte, so what the card answers is a stream of bytes, one for each
transfer; the clock is a function of the number of transfers.  The functions are
programs of `Library/Program`: their wait loops go on until the card gives an
answer or the time is over.
-/
import Bricklib2.Hal.SystemTimer
import Bricklib2.Library.Program

namespace Bricklib2

open Program

/-! ### Data -/

/-- What the card answers to each transfer, and the time in milliseconds when a number of
transfers is done.  The timer counts 32 bits; a transfer does not take so long that the
timer could pass a timeout of 100 ms without being seen to. -/
structure SdCard where
  answer : ℕ → UInt8
  clock : ℕ → ℕ
  clock_mono : Monotone clock
  clock_unbounded : ∀ time, ∃ n, time ≤ clock n
  clock_step : ∀ n, clock (n + 1) + 100 ≤ clock n + 2 ^ 32

/-- `SDMMC_CID` -/
structure SdmmcCid where
  manufacturingDate : ℕ := 0
  productSerialNum : ℕ := 0
  productRev : UInt8 := 0
  productName : List UInt8 := List.replicate 5 0
  appOemId : List UInt8 := List.replicate 2 0
  manufacturerId : UInt8 := 0

/-- `SDMMC`: `csdV2` has the bytes of the packed structure. -/
structure Sdmmc where
  pos : ℕ := 0
  sector : ℕ := 0
  type : UInt8 := 0
  ocr : List UInt8 := List.replicate 4 0
  cid : SdmmcCid := {}
  csdV2 : List UInt8 := List.replicate 16 0

/-- The driver and the bus: how many bytes were transferred, and what was sent that is not
a plain 0xFF (the newest in front). -/
structure SdmmcBus where
  sdmmc : Sdmmc := {}
  transferred : ℕ := 0
  sent : List (List UInt8) := []

/-- The results of the driver. -/
inductive SdmmcError
  | ok
  | readBlockTimeout
  | writeBlockTimeout
  | responseTimeout
  | initType
  | initVerOrVoltage
  | initAcmd41
  | initCmd58
  | initCmd0
  | cidStart
  | cidCmd10
  | csdStart
  | csdCmd9
  deriving DecidableEq

/-- The value of an `SDMMCError`. -/
def SdmmcError.code : SdmmcError → ℕ
  | .ok => 0
  | .readBlockTimeout => 1
  | .writeBlockTimeout => 2
  | .responseTimeout => 3
  | .initType => 11
  | .initVerOrVoltage => 12
  | .initAcmd41 => 13
  | .initCmd58 => 14
  | .initCmd0 => 15
  | .cidStart => 21
  | .cidCmd10 => 22
  | .csdStart => 31
  | .csdCmd9 => 32

/-- Software reset. -/
def sdmmcCmd0 : UInt8 := 0x40

/-- Starts the initialisation. -/
def sdmmcCmd1 : UInt8 := 0x41

/-- Asks whether the voltage is right, which only cards of version 2 know. -/
def sdmmcCmd8 : UInt8 := 0x48

/-- Reads the CSD register. -/
def sdmmcCmd9 : UInt8 := 0x49

/-- Reads the CID register. -/
def sdmmcCmd10 : UInt8 := 0x4A

/-- Stops a transmission. -/
def sdmmcCmd12 : UInt8 := 0x4C

/-- Sets the block size. -/
def sdmmcCmd16 : UInt8 := 0x50

/-- Reads a block. -/
def sdmmcCmd17 : UInt8 := 0x51

/-- Writes a block. -/
def sdmmcCmd24 : UInt8 := 0x58

/-- Starts the initialisation of an SD card. -/
def sdmmcCmd41 : UInt8 := 0x69

/-- Leads an application command. -/
def sdmmcCmd55 : UInt8 := 0x77

/-- Reads the OCR register. -/
def sdmmcCmd58 : UInt8 := 0x7A

/-- `ACMD41`: the high bit asks for a `CMD55` in front. -/
def sdmmcAcmd41 : UInt8 := 0xE9

/-- No argument. -/
def sdmmcArgStuff : UInt32 := 0

/-- 2.7 to 3.6 V, and the pattern that the card is to send back. -/
def sdmmcArgCmd8 : UInt32 := 0x000001AA

/-- The host knows cards with high capacity. -/
def sdmmcArgAcmd41 : UInt32 := 0x40000000

/-- A card that only knows the commands of MMC. -/
def sdmmcTypeMmc : UInt8 := 0x01

/-- A card of version 1. -/
def sdmmcTypeSd1 : UInt8 := 0x02

/-- A card of version 2. -/
def sdmmcTypeSd2 : UInt8 := 0x04

/-- A card that is addressed by blocks. -/
def sdmmcTypeBlock : UInt8 := 0x08

/-- `SDMMC_DATA_TOKEN_TIMEOUT` and `SDMMC_RESPONSE_TIMEOUT` -/
def sdmmcTimeout : ℕ := 100

/-- How often an answer is asked for. -/
def sdmmcReadRetryCount : ℕ := 10

/-- `SDMMC_SECTOR_SIZE` -/
def sdmmcSectorSize : ℕ := 512

/-- The bytes of the CSD and CID registers. -/
def sdmmcCsdCidLength : ℕ := 16

section Driver

variable (card : SdCard)

/-! ### Transfers -/

/-- `sdmmc_spi_read` -/
def sdmmcSpiRead (length : ℕ) : Program SdmmcBus (List UInt8) :=
  state fun s =>
    ((List.range length).map fun i => card.answer (s.transferred + i),
      { s with transferred := s.transferred + length })

/-- `sdmmc_spi_read(&data, 1)` -/
def sdmmcSpiReadByte : Program SdmmcBus UInt8 :=
  state fun s => (card.answer s.transferred, { s with transferred := s.transferred + 1 })

/-- `sdmmc_spi_write` -/
def sdmmcSpiWrite (data : List UInt8) : Program SdmmcBus Unit :=
  modify fun s =>
    { s with transferred := s.transferred + data.length, sent := data :: s.sent }

/-- Selects the card, with two bytes of pause. -/
def sdmmcSpiSelect : Program SdmmcBus Unit := do
  let _ ← sdmmcSpiReadByte card
  let _ ← sdmmcSpiReadByte card

/-- Deselects the card, with two bytes of pause. -/
def sdmmcSpiDeselect : Program SdmmcBus Unit := do
  let _ ← sdmmcSpiReadByte card
  let _ ← sdmmcSpiReadByte card

/-! ### Wait loops -/

variable {α : Type}

/-- One round of a wait loop: the byte that is received when the time is over ends the loop
in any case, an earlier one if it is the awaited answer. -/
def waitRound (start : ℕ) (late : UInt8 → α) (answered : UInt8 → Option α) :
    Program SdmmcBus (Option α) :=
  state fun s =>
    let data := card.answer s.transferred
    let elapsed := systemTimerIsTimeElapsedMs (card.clock (s.transferred + 1)) start sdmmcTimeout
    (if elapsed then some (late data) else answered data,
      { s with transferred := s.transferred + 1 })

/-- A wait loop with a timeout. -/
def waitFor (late : UInt8 → α) (answered : UInt8 → Option α) : Program SdmmcBus α := do
  let s ← get
  loop (waitRound card (systemTimerGetMs (card.clock s.transferred)) late answered)

/-- Waits for a token. -/
def sdmmcResponse (response : UInt8) : Program SdmmcBus SdmmcError :=
  waitFor card (fun _ => .responseTimeout) fun result =>
    if result = response then some .ok else none

/-- Waits until the card is not busy any more. -/
def sdmmcWaitUntilReady : Program SdmmcBus UInt8 :=
  waitFor card id fun data => if data = 0xFF then some data else none

/-- The wait for the token in front of a block. -/
def sdmmcDataToken : Program SdmmcBus UInt8 :=
  waitFor card id fun dataByte => if dataByte = 0xFF then none else some dataByte

/-- The wait for the end of a write, without a timeout. -/
def sdmmcWaitWhileBusy : Program SdmmcBus Unit :=
  loop do
    let tmp ← sdmmcSpiReadByte card
    return if tmp = 0 then none else some ()

/-! ### Commands -/

/-- The loop that reads the R1 response: a busy card has its high bit set.  Behind the
response to `CMD55` another byte is read. -/
def sdmmcReadR1 (cmd55 : Bool) : (retries : ℕ) → UInt8 → Program SdmmcBus UInt8
  | 0, data => return data
  | retries + 1, _ => do
    let data ← sdmmcSpiReadByte card
    if data &&& 0x80 = 0 then
      if cmd55 then
        let _ ← sdmmcSpiReadByte card
        return data
      else
        return data
    else
      sdmmcReadR1 cmd55 retries data

/-- The trailing byte of a packet, CRC and stop bit. -/
def sdmmcCommandCrc (cmd : UInt8) : UInt8 :=
  if cmd = sdmmcCmd0 then 0x95
  else if cmd = sdmmcCmd8 then 0x87
  else if cmd = sdmmcCmd41 then 0x77
  else 1

/-- A command on the wire. -/
def sdmmcPacket (cmd : UInt8) (arg : UInt32) (crc : UInt8) : List UInt8 :=
  [cmd, (arg >>> 24).toUInt8, (arg >>> 16).toUInt8, (arg >>> 8).toUInt8, arg.toUInt8, crc]

/-- The second half of `sdmmc_send_command`. -/
def sdmmcSendPacket (cmd : UInt8) (arg : UInt32) : Program SdmmcBus UInt8 := do
  sdmmcSpiWrite (sdmmcPacket cmd arg (sdmmcCommandCrc cmd))
  if cmd = sdmmcCmd12 then
    -- the stuff byte
    let data ← sdmmcSpiReadByte card
    sdmmcReadR1 card false sdmmcReadRetryCount data
  else
    sdmmcReadR1 card false sdmmcReadRetryCount 0

/-- Sends a command, behind `SDMMC_CMD55` if it is an application command. -/
def sdmmcSendReady (cmd : UInt8) (arg : UInt32) : Program SdmmcBus UInt8 :=
  if cmd &&& 0x80 ≠ 0 then do
    sdmmcSpiWrite (sdmmcPacket sdmmcCmd55 0 1)
    let data ← sdmmcReadR1 card true sdmmcReadRetryCount 0
    if data ≠ 1 then return data else sdmmcSendPacket card (cmd &&& 0x7F) arg
  else
    sdmmcSendPacket card cmd arg

/-- `sdmmc_send_command`: only `CMD0` does not wait for the card. -/
def sdmmcSendCommand (cmd : UInt8) (arg : UInt32) : Program SdmmcBus UInt8 := do
  let _ ← sdmmcSpiReadByte card
  if cmd ≠ sdmmcCmd0 then
    let ready ← sdmmcWaitUntilReady card
    if ready ≠ 0xFF then return 0xFF else sdmmcSendReady card cmd arg
  else
    sdmmcSendReady card cmd arg

/-- `sdmmc_send_spi_command`: the response before the packet is not looked at. -/
def sdmmcSendSpiCommand (cmd : UInt8) (arg : UInt32) (crc : UInt8) : Program SdmmcBus Unit := do
  let _ ← sdmmcResponse card 0xFF
  sdmmcSpiWrite (sdmmcPacket cmd arg crc)

/-! ### Blocks -/

/-- SDSC cards are addressed in bytes. -/
def sdmmcAddress (type : UInt8) (sector : UInt32) : UInt32 :=
  if type &&& sdmmcTypeBlock ≠ 0 then sector else sector <<< 9

/-- Reads a sector. -/
def sdmmcReadBlock (sector : UInt32) : Program SdmmcBus (SdmmcError × List UInt8) := do
  sdmmcSpiSelect card
  let s ← get
  let response ← sdmmcSendCommand card sdmmcCmd17 (sdmmcAddress s.sdmmc.type sector)
  if response = 0 then
    let dataByte ← sdmmcDataToken card
    if dataByte = 0xFE then
      let data ← sdmmcSpiRead card sdmmcSectorSize
      -- the checksum
      let _ ← sdmmcSpiRead card 2
      sdmmcSpiDeselect card
      return (.ok, data)
    else
      sdmmcSpiDeselect card
      return (.readBlockTimeout, [])
  else
    sdmmcSpiDeselect card
    return (.readBlockTimeout, [])

/-- What `sdmmc_write_block` sends behind the accepted command. -/
def sdmmcWriteData (data : Vector UInt8 sdmmcSectorSize) : Program SdmmcBus Unit := do
  sdmmcSpiWrite [0xFE]
  sdmmcSpiWrite data.toList
  sdmmcSpiWrite [0xFF]
  sdmmcSpiWrite [0xFF]

/-- Writes a sector. -/
def sdmmcWriteBlock (sector : UInt32) (data : Vector UInt8 sdmmcSectorSize) :
    Program SdmmcBus SdmmcError := do
  sdmmcSpiSelect card
  let s ← get
  sdmmcSendSpiCommand card sdmmcCmd24 (sdmmcAddress s.sdmmc.type sector) 0xFF
  let response ← sdmmcResponse card 0x00
  if response ≠ .ok then
    sdmmcSpiDeselect card
    return .writeBlockTimeout
  else
    sdmmcWriteData data
    let response ← sdmmcResponse card 0xE5
    if response ≠ .ok then
      sdmmcSpiDeselect card
      return .writeBlockTimeout
    else
      sdmmcWaitWhileBusy card
      sdmmcSpiDeselect card
      return .ok

/-! ### Initialisation -/

/-- The `ACMD41` loop of an SDv2 card: whether the card left its idle state. -/
def sdmmcInitAcmd41 : (retries : ℕ) → Program SdmmcBus Bool
  | 0 => return false
  | retries + 1 => do
    let ret ← sdmmcSendCommand card sdmmcAcmd41 sdmmcArgAcmd41
    let _ ← sdmmcSpiRead card 4
    if ret = 0 then
      return true
    else
      sdmmcSpiDeselect card
      sdmmcSpiSelect card
      sdmmcInitAcmd41 retries

/-- The loop of an SDv1 or MMC card. -/
def sdmmcInitRetry (cmd : UInt8) : (retries : ℕ) → Program SdmmcBus Bool
  | 0 => return false
  | retries + 1 => do
    let ret ← sdmmcSendCommand card cmd sdmmcArgStuff
    if ret = 0 then return true else sdmmcInitRetry cmd retries

/-- The type as far as it is known. -/
def setType (type : UInt8) : Program SdmmcBus Unit :=
  modify fun s => { s with sdmmc := { s.sdmmc with type := type } }

/-- An SDv2 card, behind its answer to `CMD8`. -/
def sdmmcInitSd2 : Program SdmmcBus SdmmcError := do
  let buffer ← sdmmcSpiRead card 4
  if buffer.getD 2 0 = 0x01 ∧ buffer.getD 3 0 = 0xAA then
    sdmmcSpiDeselect card
    sdmmcSpiSelect card
    let left ← sdmmcInitAcmd41 card sdmmcReadRetryCount
    if left then
      let response ← sdmmcSendCommand card sdmmcCmd58 0
      if response = 0 then
        let ocr ← sdmmcSpiRead card 4
        modify fun s => { s with sdmmc := { s.sdmmc with ocr := ocr } }
        setType (if ocr.getD 0 0 &&& 0x40 ≠ 0 then sdmmcTypeSd2 ||| sdmmcTypeBlock
          else sdmmcTypeSd2)
        return .ok
      else
        return .initCmd58
    else
      return .initAcmd41
  else
    return .initVerOrVoltage

/-- An SDv1 or MMC card. -/
def sdmmcInitSd1 : Program SdmmcBus SdmmcError := do
  let response ← sdmmcSendCommand card sdmmcAcmd41 sdmmcArgStuff
  let sd1 := response ≤ 1
  setType (if sd1 then sdmmcTypeSd1 else sdmmcTypeMmc)
  let left ← sdmmcInitRetry card (if sd1 then sdmmcAcmd41 else sdmmcCmd1) sdmmcReadRetryCount
  if left then
    let response ← sdmmcSendCommand card sdmmcCmd16 512
    if response ≠ 0 then
      setType 0
      return .initType
    else
      return .ok
  else
    setType 0
    return .initType

/-- `sdmmc_init` up to the type of the card. -/
def sdmmcInitCard : Program SdmmcBus SdmmcError := do
  let response ← sdmmcSendCommand card sdmmcCmd0 sdmmcArgStuff
  if response = 1 then
    let response ← sdmmcSendCommand card sdmmcCmd8 sdmmcArgCmd8
    if response = 1 then sdmmcInitSd2 card else sdmmcInitSd1 card
  else
    return .initCmd0

/-- The registers are read like a block: command, start token, bytes and checksum. -/
def sdmmcReadRegister (cmd : UInt8) (cmdError startError : SdmmcError)
    (keep : List UInt8 → Sdmmc → Sdmmc) : Program SdmmcBus SdmmcError := do
  sdmmcSpiSelect card
  let response ← sdmmcSendCommand card cmd sdmmcArgStuff
  if response = 0 then
    let start ← sdmmcResponse card 0xFE
    if start = .ok then
      let buffer ← sdmmcSpiRead card (sdmmcCsdCidLength + 2)
      modify fun s => { s with sdmmc := keep buffer s.sdmmc }
      sdmmcSpiDeselect card
      return .ok
    else
      sdmmcSpiDeselect card
      return startError
  else
    sdmmcSpiDeselect card
    return cmdError

/-- The CSD bytes in the order of the packed structure. -/
def csdOfBuffer (buffer : List UInt8) : List UInt8 :=
  (List.range sdmmcCsdCidLength).map fun i => buffer.getD (sdmmcCsdCidLength - 1 - i) 0

/-- Reads the CSD register of the card. -/
def sdmmcInitCsd : Program SdmmcBus SdmmcError :=
  sdmmcReadRegister card sdmmcCmd9 .csdCmd9 .csdStart fun buffer sdmmc =>
    { sdmmc with csdV2 := csdOfBuffer buffer }

/-- The CID fields; the last byte of the register is not used. -/
def cidOfBuffer (buffer : List UInt8) : SdmmcCid :=
  let byte (i : ℕ) := (buffer.getD (sdmmcCsdCidLength - 1 - i) 0)
  { manufacturingDate := ((byte 2).toNat % 16) <<< 8 ||| (byte 1).toNat
    productSerialNum := (byte 3).toNat ||| (byte 4).toNat <<< 8 ||| (byte 5).toNat <<< 16 |||
      (byte 6).toNat <<< 24
    productRev := byte 7
    productName := [byte 12, byte 11, byte 10, byte 9, byte 8]
    appOemId := [byte 14, byte 13]
    manufacturerId := byte 15 }

/-- Reads the CID register of the card. -/
def sdmmcInitCid : Program SdmmcBus SdmmcError :=
  sdmmcReadRegister card sdmmcCmd10 .cidCmd10 .cidStart fun buffer sdmmc =>
    { sdmmc with cid := cidOfBuffer buffer }

/-- `sdmmc_init` behind the type of the card. -/
def sdmmcInitRegisters (sdmmcError : SdmmcError) : Program SdmmcBus SdmmcError := do
  let s ← get
  if s.sdmmc.type = 0 then
    return sdmmcError
  else
    let csdError ← sdmmcInitCsd card
    if csdError ≠ .ok then
      return csdError
    else
      let cidError ← sdmmcInitCid card
      if cidError ≠ .ok then
        return cidError
      else
        modify fun s => { s with sdmmc := { s.sdmmc with sector := 0, pos := 0 } }
        return .ok

/-- Finds out what card it is and reads its registers. -/
def sdmmcInit : Program SdmmcBus SdmmcError := do
  modify fun s => { s with sdmmc := {} }
  sdmmcSpiDeselect card
  let _ ← sdmmcSpiRead card 10
  sdmmcSpiSelect card
  let sdmmcError ← sdmmcInitCard card
  sdmmcSpiDeselect card
  sdmmcInitRegisters card sdmmcError

end Driver

end Bricklib2
