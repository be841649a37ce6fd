/-
Bricklib2/Warp/Wem/SdmmcSpi.lean

SPI transfers to the SD card (sdmmc_spi_write and sdmmc_spi_read of sdmmc.c).  Blocks of
16 bytes and more are sent and received by two interrupt handlers, while the task polls;
an attempt that takes longer than 100 ms is repeated.

The model goes statement by statement: an event is one statement of the task or of a
handler, an interrupt request of a FIFO, or the way of a byte from the transmit FIFO into the
shifter and from there over the wire.  Requests are served before the task goes on.  The two
handlers may interrupt each other at any point.
-/
import Bricklib2.Hal.SpiFifo
import Bricklib2.Library.Bytes

namespace Bricklib2

open Machine

/-! ### State -/

/-- The arguments of a call. -/
inductive SdmmcTransfer
  | write (data : List UInt8)
  | read (length : ℕ)
  deriving DecidableEq

/-- The bytes to send: a read sends 0xFF. -/
def SdmmcTransfer.mosi : SdmmcTransfer → List UInt8
  | .write data => data
  | .read length => List.replicate length 0xFF

/-- What the caller finds in its memory when `miso` was received. -/
def SdmmcTransfer.kept (miso : List UInt8) : SdmmcTransfer → List UInt8
  | .write _ => []
  | .read _ => miso

/-- `sizeof(sdmmc_spi_buffer)` -/
def sdmmcSpiBufferSize : ℕ := 512

/-- The depth of both FIFOs. -/
def sdmmcFifoSize : ℕ := 16

/-- The transmit buffer and the shift register of the USIC channel. -/
def sdmmcShifterSize : ℕ := 2

/-- `SDMMC_RESPONSE_TIMEOUT` -/
def sdmmcResponseTimeout : ℕ := 100

/-- The statement the task is in front of.  `returns` is the value of `ret` behind the loop. -/
inductive SdmmcSpiPc
  | idle
  /- `sdmmc_spi_write`, `sdmmc_spi_read` -/
  | flushRx
  | flushTx
  | send (mosiCount : ℕ)
  | receiveTest (misoCount : ℕ)
  | receive (misoCount : ℕ)
  | finish
  | returned
  /- `sdmmc_spi_transceive_async` -/
  | prepare
  | enableRx
  | enableTx
  | trigger
  | test
  | yield
  | pollRx
  | disableRx
  | rxLevel
  | readRx (amount : ℕ)
  | pollTx
  | triggerAgain
  | timeout
  | leaveTx (returns : Bool)
  | leaveRx (returns : Bool)
  | copy (returns : Bool)
  | reset (returns : Bool)
  deriving DecidableEq

/-- Where `sdmmc_mosi_irq_handler` is.  `MIN` is a macro: one of the levels is read again
behind the comparison. -/
inductive SdmmcMosiHandler
  | rxLevel (toSend txFree : ℕ)
  | fifoLevel (toSend : ℕ) (tx : Bool)
  | push (amount : ℕ)
  deriving DecidableEq

/-- The task with its call, the variables of the driver, and the USIC channel.  For the
proofs: the bytes that went over the wire since the call. -/
structure SdmmcSpi where
  pc : SdmmcSpiPc := .idle
  transfer : SdmmcTransfer := .read 0
  data : List UInt8 := []
  start : ℕ := 0
  buffer : List UInt8 := List.replicate sdmmcSpiBufferSize 0
  misoIndex : ℕ := 0
  mosiIndex : ℕ := 0
  dataLength : ℕ := 0
  txEvent : Bool := false
  rxEvent : Bool := false
  txRequest : Bool := false
  rxRequest : Bool := false
  mosiHandler : Option SdmmcMosiHandler := none
  /-- `sdmmc_miso_irq_handler` with what is left of its `amount`. -/
  misoHandler : Option ℕ := none
  txFifo : List UInt8 := []
  shifter : List UInt8 := []
  rxFifo : List UInt8 := []
  wire : List (UInt8 × UInt8) := []

/-! ### Steps -/

namespace SdmmcSpi

/-- `SDMMC_USIC->IN[0] = x` -/
def pushTx (x : UInt8) (s : SdmmcSpi) : SdmmcSpi :=
  { s with txFifo := fifoPush sdmmcFifoSize s.txFifo x }

/-- `sdmmc_spi_buffer[sdmmc_spi_miso_index++] = SDMMC_USIC->OUTR` -/
def readOutr (s : SdmmcSpi) : SdmmcSpi :=
  { s with
    buffer := s.buffer.set s.misoIndex (s.rxFifo.headD 0)
    misoIndex := s.misoIndex + 1
    rxFifo := s.rxFifo.tail }

/-- `SDMMC_USIC_IN_PTR[0] = sdmmc_spi_buffer[sdmmc_spi_mosi_index++]` -/
def writeIn (s : SdmmcSpi) : SdmmcSpi :=
  { s.pushTx (byteAt s.buffer s.mosiIndex) with mosiIndex := s.mosiIndex + 1 }

/-- One statement of the task. -/
def exec (now : ℕ) (s : SdmmcSpi) : SdmmcSpiPc → Option SdmmcSpi
  | .idle | .returned => none
  | .flushRx => some { s with rxFifo := [], pc := .flushTx }
  | .flushTx =>
    some { s with txFifo := [], pc := if s.transfer.mosi.length < 16 then .send 0 else .prepare }
  | .send mosiCount =>
    if mosiCount < s.transfer.mosi.length then
      some { s.pushTx (byteAt s.transfer.mosi mosiCount) with pc := .send (mosiCount + 1) }
    else some { s with pc := .receiveTest 0 }
  | .receiveTest misoCount =>
    some
      { s with pc := if misoCount < s.transfer.mosi.length then .receive misoCount else .finish }
  | .receive misoCount =>
    match s.rxFifo with
    | [] => some { s with pc := .receiveTest misoCount }
    | x :: rest =>
      some
        { s with
          data := s.data ++ s.transfer.kept [x], rxFifo := rest, pc := .receive (misoCount + 1) }
  | .finish => some { s with pc := .returned }
  | .prepare =>
    some
      { s with
        start := systemTimerGetMs now
        buffer := Bytes.overwrite s.buffer 0 s.transfer.mosi
        misoIndex := 0
        mosiIndex := 0
        dataLength := s.transfer.mosi.length
        pc := .enableRx }
  | .enableRx => some { s with rxEvent := true, pc := .enableTx }
  | .enableTx => some { s with txEvent := true, pc := .trigger }
  | .trigger => some { s with txRequest := true, pc := .test }
  | .test =>
    some
      { s with
        pc :=
          if s.misoIndex < s.dataLength ∨ s.mosiIndex < s.dataLength then .yield else .leaveTx true }
  | .yield => some { s with pc := .pollRx }
  | .pollRx => some { s with pc := if s.dataLength - s.misoIndex ≤ 8 then .disableRx else .pollTx }
  | .disableRx => some { s with rxEvent := false, pc := .rxLevel }
  | .rxLevel => some { s with pc := .readRx s.rxFifo.length }
  | .readRx 0 => some { s with rxEvent := true, pc := .pollTx }
  | .readRx (amount + 1) => some { s.readOutr with pc := .readRx amount }
  | .pollTx => some { s with pc := if s.txFifo.length < 8 then .triggerAgain else .timeout }
  | .triggerAgain => some { s with txRequest := true, pc := .timeout }
  | .timeout =>
    some
      { s with
        pc :=
          if systemTimerIsTimeElapsedMs now s.start sdmmcResponseTimeout then .leaveTx false
          else .test }
  | .leaveTx returns => some { s with txEvent := false, pc := .leaveRx returns }
  | .leaveRx returns => some { s with rxEvent := false, pc := .copy returns }
  | .copy returns =>
    some { s with data := s.transfer.kept (s.buffer.take s.dataLength), pc := .reset returns }
  | .reset returns =>
    some
      { s with
        misoIndex := 0
        mosiIndex := 0
        dataLength := 0
        pc := if returns then .finish else .prepare }

/-- One statement of `sdmmc_mosi_irq_handler`. -/
def execMosi (s : SdmmcSpi) : SdmmcMosiHandler → SdmmcSpi
  | .rxLevel toSend txFree =>
    { s with mosiHandler := some (.fifoLevel toSend (txFree < sdmmcFifoSize - s.rxFifo.length)) }
  | .fifoLevel toSend tx =>
    let fifoLevel := if tx then sdmmcFifoSize - s.txFifo.length else sdmmcFifoSize - s.rxFifo.length
    { s with mosiHandler := some (.push (min toSend fifoLevel)) }
  | .push (amount + 1) => { s.writeIn with mosiHandler := some (.push amount) }
  | .push 0 =>
    { s with
      txEvent := if s.dataLength ≤ s.mosiIndex then false else s.txEvent
      mosiHandler := none }

/-- No interrupt keeps the task from its next statement. -/
def taskRuns (s : SdmmcSpi) : Bool :=
  !s.txRequest && !s.rxRequest && s.mosiHandler.isNone && s.misoHandler.isNone

end SdmmcSpi

/-- What happens to the transfer: statements of the task and the handlers, and the bus. -/
inductive SdmmcSpiEvent
  | call (transfer : SdmmcTransfer)
  | exec (now : ℕ)
  /-- The FIFOs ask for the interrupts. -/
  | requestTx
  | requestRx
  | mosi
  | miso
  | load
  | shift (miso : UInt8)

namespace SdmmcSpi

/-- What happens beside the task. -/
def interruptStep (s : SdmmcSpi) : SdmmcSpiEvent → Option SdmmcSpi
  | .call _ | .exec _ => none
  | .requestTx => if s.txEvent then some { s with txRequest := true } else none
  | .requestRx => if s.rxEvent then some { s with rxRequest := true } else none
  | .mosi =>
    match s.mosiHandler with
    | some handler => some (s.execMosi handler)
    | none =>
      if s.txRequest then
        some
          { s with
            txRequest := false
            mosiHandler :=
              some (.rxLevel (s.dataLength - s.mosiIndex) (sdmmcFifoSize - s.txFifo.length)) }
      else none
  | .miso =>
    match s.misoHandler with
    | some 0 => some { s with misoHandler := none }
    | some (amount + 1) => some { s.readOutr with misoHandler := some amount }
    | none =>
      if s.rxRequest then
        some { s with rxRequest := false, misoHandler := some s.rxFifo.length }
      else none
  | .load =>
    match s.txFifo with
    | [] => none
    | x :: rest =>
      if s.shifter.length < sdmmcShifterSize then
        some { s with txFifo := rest, shifter := s.shifter ++ [x] }
      else none
  | .shift miso =>
    match s.shifter with
    | [] => none
    | x :: rest =>
      some
        { s with
          shifter := rest
          rxFifo := fifoPush sdmmcFifoSize s.rxFifo miso
          wire := s.wire ++ [(x, miso)] }

/-- One event.  A call is for at most the size of the buffer. -/
def step (s : SdmmcSpi) : SdmmcSpiEvent → Option SdmmcSpi
  | .call transfer =>
    if (s.pc = .idle ∨ s.pc = .returned) ∧ transfer.mosi.length ≤ sdmmcSpiBufferSize then
      some { s with pc := .flushRx, transfer := transfer, data := [], wire := [] }
    else none
  | .exec now => if s.taskRuns then s.exec now s.pc else none
  | e => s.interruptStep e

end SdmmcSpi

end Bricklib2
