/-
Bricklib2/Warp/Modbus.lean

The Modbus RTU master (modbus.c) and the tick that drives it (rs485.c).

The receive interrupt may fire anywhere inside the wire state machine.  The
tick takes an `Interrupts` argument, which says for each of its interrupt
points which bytes have arrived there and whether the interrupt fires; a point
stands in front of every access to the RX ring.
-/
import Bricklib2.Warp.Rs485

namespace Bricklib2

/-- The longest frame of Modbus RTU. -/
def rs485ModbusRtuFrameSizeMax : ℕ := 256

/-- The silence that ends a frame. -/
def modbusWaitAfterReadMs : ℕ := 5

/-! ### Requests -/

/-- The variables of the protocol before its first request. -/
def modbusInit (now : ℕ) (r : RS485) : RS485 :=
  { r with
    time4CharsMs := systemTimerGetMs now
    requestId := 1
    txDone := false
    requestLength := 0
    rxRbLastLength := 0
    requestCbInvoke := false
    stateWire := .idle
    masterRequestTimedOut := false
    requestState := .ready
    ringbufferRx := { r.ringbufferRx with
      buffer := List.replicate r.bufferSizeRx ⟨0, 0, none⟩ }
    ringbufferTx := { r.ringbufferTx with
      buffer := List.replicate (r.bufferSize - r.bufferSizeRx) 0 }
    errorCounters := ⟨0, 0, 0, 0, 0, 0, 0⟩
    streamChunkingInProgress := false }

/-- Both rings start again over their old storage, which is not cleared. -/
def modbusClearRequest (r : RS485) : RS485 :=
  { r with
    requestId := (r.requestId + 1) % 256
    ringbufferRx := ringbufferInit r.bufferSizeRx r.ringbufferRx.buffer
    ringbufferTx := ringbufferInit (r.bufferSize - r.bufferSizeRx) r.ringbufferTx.buffer
    streamChunkingInProgress := false
    requestLength := 0
    rxRbLastLength := 0
    requestCbInvoke := false
    stateWire := .idle
    masterRequestTimedOut := false
    requestState := .ready }

/-- The frame in the ring buffer starts to go out. -/
def modbusStartTxFromBuffer (r : RS485) : RS485 :=
  rs485TxIrqHandler { r with stateWire := .tx, txEvent := true }

/-- A new request, with the next number. -/
def modbusInitNewRequest (state : RS485ModbusRequestState) (length : ℕ) (r : RS485) : RS485 :=
  { r with
    requestId := if r.requestId = 255 then 1 else r.requestId + 1
    requestState := state
    requestLength := length
    requestCbInvoke := if r.mode = .modbusMasterRtu then false else r.requestCbInvoke }

/-! ### Checks of a received frame -/

/-- The first `rx_rb_last_length` bytes of the RX frame. -/
def RS485.receivedFrame (r : RS485) : List UInt8 :=
  (List.range r.rxRbLastLength).map r.rxFrame

/-- The checksum of the frame that was received. -/
def modbusCheckFrameChecksum (r : RS485) : Bool := frameChecksumOk r.receivedFrame

/-- The response is from the slave that was asked, and to the function code that was asked. -/
def modbusMasterCheckSlaveResponse (r : RS485) : Bool :=
  r.rxFrame 0 == r.txFrame 0 &&
    (r.rxFrame 1 == r.txFrame 1 || (r.rxFrame 1).toNat == (r.txFrame 1).toNat + 0x80)

/-! ### The wire state machine -/

/-- What happens at one interrupt point: bytes arrive, and the receive
interrupt fires or does not. -/
structure Interrupt where
  bytes : List (UInt8 × Option ℕ)
  fires : Bool
  deriving DecidableEq, Repr

/-- What the interrupts do at the points of a tick. -/
abbrev Interrupts := ℕ → Interrupt

/-- No byte arrives and nothing fires. -/
def noInterrupts : Interrupts := fun _ => ⟨[], false⟩

/-- What the interrupts do at one point. -/
def interruptPoint (now : ℕ) (i : Interrupt) (r : RS485) : RS485 :=
  let r := i.bytes.foldl (fun r b => rs485Receive b.1 b.2 r) r
  if i.fires then rs485RxIrqHandler now r else r

/-- The request is over: `cb_invoke` with the timeout flag.  `count` says which
error counters go up besides the timeout one. -/
def modbusRequestTimedOut (count : RS485ModbusCommonErrorCounters → RS485ModbusCommonErrorCounters)
    (r : RS485) : RS485 :=
  { r with
    errorCounters := count { r.errorCounters with timeout := r.errorCounters.timeout + 1 }
    requestCbInvoke := true
    masterRequestTimedOut := true }

/-- The checks of a frame that has been silent long enough. -/
def modbusHandleFrame (now : ℕ) (irq : Interrupts) (r : RS485) : RS485 :=
  let r := interruptPoint now (irq 6) r
  if rs485ModbusRtuFrameSizeMax < ringbufferGetUsed r.ringbufferRx ∧
      r.masterRequestTimedOut = false then
    modbusRequestTimedOut (fun c => { c with frameTooBig := c.frameTooBig + 1 }) r
  else
    let r := interruptPoint now (irq 7) r
    if modbusCheckFrameChecksum r = false ∧ r.masterRequestTimedOut = false then
      modbusRequestTimedOut (fun c => { c with checksum := c.checksum + 1 }) r
    else
      let r := interruptPoint now (irq 8) r
      if modbusMasterCheckSlaveResponse r = false ∧ r.masterRequestTimedOut = false then
        modbusRequestTimedOut id r
      else
        { r with requestCbInvoke := true, acceptedLength := r.rxRbLastLength }

/-- `if` a response frame is in the buffer and no longer grows. -/
def modbusCheckFrameComplete (now : ℕ) (irq : Interrupts) (r : RS485) : RS485 :=
  let r := interruptPoint now (irq 4) r
  if r.requestState = .masterWaitingResponse ∧ 0 < ringbufferGetUsed r.ringbufferRx then
    let r := interruptPoint now (irq 5) r
    if ringbufferGetUsed r.ringbufferRx = r.rxRbLastLength then
      if r.streamChunkingInProgress then r else modbusHandleFrame now irq r
    else
      r
  else
    r

/-- `if` data of a response has started to appear or has grown. -/
def modbusCheckFrameGrown (now : ℕ) (irq : Interrupts) (r : RS485) : RS485 :=
  let r := interruptPoint now (irq 1) r
  if r.requestState = .masterWaitingResponse ∧ 0 < ringbufferGetUsed r.ringbufferRx then
    let r := interruptPoint now (irq 2) r
    if r.rxRbLastLength < ringbufferGetUsed r.ringbufferRx then
      let r := interruptPoint now (irq 3) r
      { r with
        stateWire := .rx
        rxRbLastLength := ringbufferGetUsed r.ringbufferRx }
    else
      modbusCheckFrameComplete now irq r
  else
    modbusCheckFrameComplete now irq r

/-- The states of the wire, from a frame that was received to the end of a frame that is sent. -/
def modbusUpdateRtuWireStateMachine (now : ℕ) (irq : Interrupts) (r : RS485) : RS485 :=
  match r.stateWire with
  | .idle =>
    if r.mode = .modbusMasterRtu then
      if r.requestState = .masterWaitingResponse ∧
          systemTimerIsTimeElapsedMs now r.timeRefMasterRequestTimeout
            r.modbusMasterRequestTimeout = true ∧
          r.masterRequestTimedOut = false then
        modbusRequestTimedOut id r
      else
        modbusCheckFrameGrown now irq r
    else
      r
  | .rx =>
    if systemTimerIsTimeElapsedMs now r.time4CharsMs modbusWaitAfterReadMs then
      { r with stateWire := .idle }
    else
      r
  | .tx =>
    if r.txDone then
      let r := { r with txDone := false, stateWire := .idle }
      if r.mode = .modbusMasterRtu ∧ r.txFrame 0 = 0 then
        { r with requestCbInvoke := true }
      else
        r
    else
      r

/-- `rs485_tick`: empty the receive FIFO, then run the state machine, with
interrupts again enabled. -/
def rs485Tick (now : ℕ) (irq : Interrupts) (r : RS485) : RS485 :=
  let drained := rs485RxLoop r
  let r := if r.rxFifo = [] then drained else { drained with time4CharsMs := systemTimerGetMs now }
  let r := interruptPoint now (irq 0) r
  if r.mode = .modbusMasterRtu ∨ r.mode = .modbusSlaveRtu then
    modbusUpdateRtuWireStateMachine now irq r
  else
    r

end Bricklib2
