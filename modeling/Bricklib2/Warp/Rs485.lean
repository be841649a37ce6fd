/-
Bricklib2/Warp/Rs485.lean

The RS485 driver (rs485.c): its state, the receive and transmit interrupts and
the part of the UART hardware they work on.  `rx_frame` and `tx_frame` are the
two halves of `rs485.buffer`, which are also the storage of the two rings.

Fields behind `ringbufferRx` with no counterpart in the source are hardware
(`rxFifo`, `txFifoLevel`, `txEvent`) or ghosts.  Every received byte carries
how many requests had been started when it arrived on the wire, and which
request it belongs to if it is part of an answer; every started request keeps
what is needed to say later how it was transmitted.
-/
import Bricklib2.Hal.SystemTimer
import Bricklib2.Utility.Crc16
import Bricklib2.Utility.Ringbuffer

namespace Bricklib2

/-- The modes of the interface. -/
inductive RS485Mode
  | rs485
  | modbusMasterRtu
  | modbusSlaveRtu
  deriving DecidableEq, Repr

/-- Whether a frame is being received or sent. -/
inductive RS485ModbusRTUWireState
  | idle
  | rx
  | tx
  deriving DecidableEq, Repr

/-- `MODBUS_REQUEST_PROCESS_STATE_*` -/
inductive RS485ModbusRequestState
  | ready
  | masterWaitingResponse
  | slaveProcessingRequest
  deriving DecidableEq, Repr

/-- The counters that the host can read. -/
structure RS485ModbusCommonErrorCounters where
  timeout : ℕ
  checksum : ℕ
  frameTooBig : ℕ
  illegalFunction : ℕ
  illegalDataValue : ℕ
  illegalDataAddress : ℕ
  slaveDeviceFailure : ℕ
  deriving DecidableEq, Repr

/-- A received byte.  `request` counts the requests started before it arrived;
`answers` is the number of the request it is an answer to, `none` for noise. -/
structure RxByte where
  value : UInt8
  request : ℕ
  answers : Option ℕ
  deriving DecidableEq, Repr

/-- What a request asks the slave for. -/
inductive MeterRequest
  | readRegisters (fc : UInt8) (slaveAddress : UInt8) (startingAddress count : ℕ)
  | writeRegister (fc : UInt8) (slaveAddress : UInt8) (startingAddress payload : ℕ)
  | writeString (slaveAddress : UInt8) (startingAddress : ℕ) (payload : List UInt8)
  deriving DecidableEq, Repr

/-- The history of a started request: whether no other one was outstanding and
the TX ring was fresh, whether received bytes were left over from before, and
the bytes the transmit interrupt has taken so far. -/
structure IssuedRequest where
  request : MeterRequest
  busFree : Bool
  leftover : Bool
  sent : List UInt8
  deriving DecidableEq, Repr

/-- The driver with its rings, the RTU state machine and the FIFOs of the UART.  The last
three fields are history: the requests so far, and how long the frame was that has been
accepted as a response. -/
structure RS485 where
  mode : RS485Mode
  bufferSize : ℕ
  bufferSizeRx : ℕ
  ringbufferTx : Ringbuffer UInt8
  ringbufferRx : Ringbuffer RxByte
  errorCountOverrun : ℕ
  txDone : Bool
  time4CharsMs : ℕ
  rxRbLastLength : ℕ
  requestId : ℕ
  requestCbInvoke : Bool
  requestLength : ℕ
  requestState : RS485ModbusRequestState
  masterRequestTimedOut : Bool
  timeRefMasterRequestTimeout : ℕ
  streamChunkingInProgress : Bool
  stateWire : RS485ModbusRTUWireState
  modbusMasterRequestTimeout : ℕ
  errorCounters : RS485ModbusCommonErrorCounters
  rxFifo : List RxByte
  txFifoSize : ℕ
  txFifoLevel : ℕ
  txEvent : Bool
  requestCount : ℕ
  requests : List IssuedRequest
  acceptedLength : ℕ
  deriving DecidableEq, Repr

/-- How long a response may take. -/
def modbusDefaultMasterRequestTimeout : ℕ := 1000

/-- `rx_frame[i]`: the RX half of the buffer and, behind it, the TX half. -/
def RS485.rxFrame (r : RS485) (i : ℕ) : UInt8 :=
  (r.ringbufferRx.buffer.map RxByte.value ++ r.ringbufferTx.buffer).getD i 0

/-- `tx_frame[i]` -/
def RS485.txFrame (r : RS485) (i : ℕ) : UInt8 := r.ringbufferTx.buffer.getD i 0

/-! ### Receiving -/

/-- A byte arrives in the receive FIFO of the UART. -/
def rs485Receive (value : UInt8) (answers : Option ℕ) (r : RS485) : RS485 :=
  { r with rxFifo := r.rxFifo ++ [⟨value, r.requestCount, answers⟩] }

/-- The body of the receive loop: the inlined `ringbuffer_add`. -/
def rs485RxStore (r : RS485) (data : RxByte) : RS485 :=
  let newEnd := if r.ringbufferRx.size ≤ r.ringbufferRx.end + 1 then 0 else r.ringbufferRx.end + 1
  if newEnd = r.ringbufferRx.start then
    { r with errorCountOverrun := r.errorCountOverrun + 1 }
  else
    { r with ringbufferRx := { r.ringbufferRx with
        buffer := r.ringbufferRx.buffer.set r.ringbufferRx.end data
        «end» := newEnd } }

/-- `while(!XMC_USIC_CH_RXFIFO_IsEmpty(RS485_USIC))` -/
def rs485RxLoop (r : RS485) : RS485 :=
  r.rxFifo.foldl rs485RxStore { r with rxFifo := [] }

/-- Also the handler of the alternate receive interrupt, which counts a parity
error and then does the same. -/
def rs485RxIrqHandler (now : ℕ) (r : RS485) : RS485 :=
  { rs485RxLoop r with time4CharsMs := systemTimerGetMs now }

/-! ### Transmitting -/

/-- The newest request has had a byte taken by the transmit interrupt. -/
def RS485.logSent (data : UInt8) (r : RS485) : RS485 :=
  match r.requests with
  | [] => r
  | q :: older => { r with requests := { q with sent := q.sent ++ [data] } :: older }

/-- The transmit loop, with `free` slots left in the transmit FIFO. -/
def rs485TxLoop : (free : ℕ) → RS485 → RS485
  | 0, r => r
  | free + 1, r =>
    match ringbufferGet r.ringbufferTx with
    | none => { r with txEvent := false, txDone := true }
    | some (data, tx) =>
      rs485TxLoop free
        (RS485.logSent data { r with ringbufferTx := tx, txFifoLevel := r.txFifoLevel + 1 })

/-- The transmit FIFO is filled up. -/
def rs485TxIrqHandler (r : RS485) : RS485 := rs485TxLoop (r.txFifoSize - r.txFifoLevel) r

/-- The UART has shifted a byte out. -/
def rs485TxShift (r : RS485) : RS485 := { r with txFifoLevel := r.txFifoLevel - 1 }

/-- The state after `rs485_init` up to `modbus_init`, for a buffer of
`bufferSize` bytes and a transmit FIFO of `txFifoSize`. -/
def rs485InitBuffer (bufferSize txFifoSize : ℕ) : RS485 where
  mode := .modbusMasterRtu
  bufferSize := bufferSize
  bufferSizeRx := bufferSize / 2
  ringbufferTx := ringbufferInit (bufferSize - bufferSize / 2)
    (List.replicate (bufferSize - bufferSize / 2) 0)
  ringbufferRx := ringbufferInit (bufferSize / 2) (List.replicate (bufferSize / 2) ⟨0, 0, none⟩)
  errorCountOverrun := 0
  txDone := false
  time4CharsMs := 0
  rxRbLastLength := 0
  requestId := 0
  requestCbInvoke := false
  requestLength := 0
  requestState := .ready
  masterRequestTimedOut := false
  timeRefMasterRequestTimeout := 0
  streamChunkingInProgress := false
  stateWire := .idle
  modbusMasterRequestTimeout := modbusDefaultMasterRequestTimeout
  errorCounters := ⟨0, 0, 0, 0, 0, 0, 0⟩
  rxFifo := []
  txFifoSize := txFifoSize
  txFifoLevel := 0
  txEvent := false
  requestCount := 0
  requests := []
  acceptedLength := 0

end Bricklib2
