/-
Bricklib2/Warp/MeterRequest.lean

How a meter driver puts a request on the bus (meter.c): the frame is built in
the TX ring, field by field, and `modbus_start_tx` adds the checksum and starts
the transmission.  `MeterRequest.frame` is the frame the Modbus specification
asks for, written down as one list.
-/
import Bricklib2.Warp.Modbus

namespace Bricklib2

/-- Reads holding registers. -/
def modbusFcReadHoldingRegisters : UInt8 := 3

/-- Reads input registers. -/
def modbusFcReadInputRegisters : UInt8 := 4

/-- Writes one register. -/
def modbusFcWriteSingleRegister : UInt8 := 6

/-- Writes some registers. -/
def modbusFcWriteMultipleRegisters : UInt8 := 16

/-! ### Building the frame -/

/-- The high and the low byte of a 16-bit value. -/
def shortBytes (n : ℕ) : List UInt8 := [UInt8.ofNat (n / 256), UInt8.ofNat (n % 256)]

/-- The next byte of a frame. -/
def ringbufferTxAdd (r : RS485) (data : UInt8) : RS485 :=
  { r with ringbufferTx := (ringbufferAdd r.ringbufferTx data).2 }

/-- The next bytes of a frame. -/
def modbusStoreTxFrameDataBytes (data : List UInt8) (r : RS485) : RS485 :=
  data.foldl ringbufferTxAdd r

/-- The next 16-bit values of a frame, with their upper byte first. -/
def modbusStoreTxFrameDataShorts (data : List ℕ) (r : RS485) : RS485 :=
  modbusStoreTxFrameDataBytes (data.flatMap shortBytes) r

/-- The checksum covers `ringbuffer_get_used` bytes from the start of the
storage. -/
def modbusAddTxFrameChecksum (r : RS485) : RS485 :=
  let checksum := crc16Modbus (r.ringbufferTx.buffer.take (ringbufferGetUsed r.ringbufferTx))
  modbusStoreTxFrameDataBytes [crcLow checksum, crcHigh checksum] r

/-- Register numbers start with 1, addresses with 0. -/
def modbusStoreTxHeader (slaveAddress fc : UInt8) (startingAddress : ℕ) (r : RS485) : RS485 :=
  let r := modbusStoreTxFrameDataBytes [slaveAddress] r
  let r := modbusStoreTxFrameDataBytes [fc] r
  modbusStoreTxFrameDataShorts [(startingAddress + 2 ^ 16 - 1) % 2 ^ 16] r

/-- No request is outstanding and the TX ring is freshly initialised. -/
def RS485.busFree (r : RS485) : Bool :=
  r.requestState == .ready && r.ringbufferTx.start == 0 && r.ringbufferTx.end == 0

/-- Received bytes that nobody has looked at yet. -/
def RS485.leftover (r : RS485) : Bool :=
  !(ringbufferIsEmpty r.ringbufferRx && r.rxFifo.isEmpty)

/-- Note a new request; `busFree` is what held before its frame was built. -/
def RS485.logRequest (request : MeterRequest) (busFree : Bool) (r : RS485) : RS485 :=
  { r with
    requestCount := r.requestCount + 1
    requests := ⟨request, busFree, r.leftover, []⟩ :: r.requests }

/-- `modbus_start_tx`.  The source starts the transmission twice. -/
def modbusStartTx (now responseLength : ℕ) (request : MeterRequest) (busFree : Bool)
    (r : RS485) : RS485 :=
  let r := modbusAddTxFrameChecksum r
  let r := modbusInitNewRequest .masterWaitingResponse responseLength r
  let r := { r with timeRefMasterRequestTimeout := systemTimerGetMs now }
  let r := r.logRequest request busFree
  modbusStartTxFromBuffer (modbusStartTxFromBuffer r)

/-! ### The three kinds of requests -/

/-- A request to read registers. -/
def meterReadRegisters (now : ℕ) (fc slaveAddress : UInt8) (startingAddress count : ℕ)
    (r : RS485) : RS485 :=
  let stored := modbusStoreTxHeader slaveAddress fc startingAddress r
  let stored := modbusStoreTxFrameDataShorts [count] stored
  modbusStartTx now 10 (.readRegisters fc slaveAddress startingAddress count) r.busFree stored

/-- `payload` is the 32-bit register value: `u16[0]` is its low half. -/
def meterWriteRegister (now : ℕ) (fc slaveAddress : UInt8) (startingAddress payload : ℕ)
    (r : RS485) : RS485 :=
  let stored := modbusStoreTxHeader slaveAddress fc startingAddress r
  let stored :=
    if fc = modbusFcWriteMultipleRegisters then
      let stored := modbusStoreTxFrameDataShorts [2] stored
      let stored := modbusStoreTxFrameDataBytes [4] stored
      let stored := modbusStoreTxFrameDataShorts [payload / 2 ^ 16 % 2 ^ 16] stored
      modbusStoreTxFrameDataShorts [payload % 2 ^ 16] stored
    else if fc = modbusFcWriteSingleRegister then
      modbusStoreTxFrameDataShorts [payload % 2 ^ 16] stored
    else
      stored
  modbusStartTx now 13 (.writeRegister fc slaveAddress startingAddress payload) r.busFree stored

/-- A request to write a string, two bytes to a register. -/
def meterWriteString (now : ℕ) (slaveAddress : UInt8) (startingAddress : ℕ)
    (payload : List UInt8) (r : RS485) : RS485 :=
  let stored := modbusStoreTxHeader slaveAddress modbusFcWriteMultipleRegisters startingAddress r
  let stored := modbusStoreTxFrameDataShorts [payload.length / 2] stored
  let stored := modbusStoreTxFrameDataBytes [UInt8.ofNat payload.length] stored
  let stored := modbusStoreTxFrameDataBytes payload stored
  modbusStartTx now 13 (.writeString slaveAddress startingAddress payload) r.busFree stored

/-- Put any of them on the bus. -/
def meterIssue (now : ℕ) (request : MeterRequest) (r : RS485) : RS485 :=
  match request with
  | .readRegisters fc slaveAddress startingAddress count =>
    meterReadRegisters now fc slaveAddress startingAddress count r
  | .writeRegister fc slaveAddress startingAddress payload =>
    meterWriteRegister now fc slaveAddress startingAddress payload r
  | .writeString slaveAddress startingAddress payload =>
    meterWriteString now slaveAddress startingAddress payload r

/-! ### The frame on the wire -/

/-- The slave that is asked. -/
def MeterRequest.slaveAddress : MeterRequest → UInt8
  | .readRegisters _ slaveAddress _ _ => slaveAddress
  | .writeRegister _ slaveAddress _ _ => slaveAddress
  | .writeString slaveAddress _ _ => slaveAddress

/-- The function code of a request. -/
def MeterRequest.fc : MeterRequest → UInt8
  | .readRegisters fc _ _ _ => fc
  | .writeRegister fc _ _ _ => fc
  | .writeString _ _ _ => modbusFcWriteMultipleRegisters

/-- The first register of a request. -/
def MeterRequest.startingAddress : MeterRequest → ℕ
  | .readRegisters _ _ startingAddress _ => startingAddress
  | .writeRegister _ _ startingAddress _ => startingAddress
  | .writeString _ startingAddress _ => startingAddress

/-- What follows the address: count or payload, big endian. -/
def MeterRequest.body : MeterRequest → List UInt8
  | .readRegisters _ _ _ count => shortBytes count
  | .writeRegister fc _ _ payload =>
    if fc = modbusFcWriteMultipleRegisters then
      shortBytes 2 ++ [4] ++ shortBytes (payload / 2 ^ 16 % 2 ^ 16)
        ++ shortBytes (payload % 2 ^ 16)
    else if fc = modbusFcWriteSingleRegister then
      shortBytes (payload % 2 ^ 16)
    else
      []
  | .writeString _ _ payload =>
    shortBytes (payload.length / 2) ++ [UInt8.ofNat payload.length] ++ payload

/-- Slave address, function code, register address minus one and the body. -/
def MeterRequest.payload (q : MeterRequest) : List UInt8 :=
  [q.slaveAddress, q.fc] ++ shortBytes ((q.startingAddress + 2 ^ 16 - 1) % 2 ^ 16) ++ q.body

/-- The payload and its CRC-16, low byte first. -/
def MeterRequest.frame (q : MeterRequest) : List UInt8 :=
  q.payload ++ [crcLow (crc16Modbus q.payload), crcHigh (crc16Modbus q.payload)]

/-- Every frame passes the checksum test of the receiving side. -/
theorem frameChecksumOk_frame (q : MeterRequest) : frameChecksumOk q.frame = true :=
  frameChecksumOk_append q.payload

/-! ### Building keeps everything but the TX ring -/

theorem modbusStoreTxFrameDataBytes_append (xs ys : List UInt8) (r : RS485) :
    modbusStoreTxFrameDataBytes ys (modbusStoreTxFrameDataBytes xs r) =
      modbusStoreTxFrameDataBytes (xs ++ ys) r :=
  List.foldl_append.symm

/-- Storing in a linear ring with room appends to its content and touches
nothing else. -/
theorem modbusStoreTxFrameDataBytes_linear {r : RS485} (h : r.ringbufferTx.Linear)
    (data : List UInt8) (hroom : r.ringbufferTx.end + data.length < r.ringbufferTx.size) :
    ∃ buffer, modbusStoreTxFrameDataBytes data r =
        { r with ringbufferTx := { r.ringbufferTx with
            buffer := buffer, «end» := r.ringbufferTx.end + data.length } } ∧
      buffer.length = r.ringbufferTx.size ∧
      buffer.take (r.ringbufferTx.end + data.length) =
        r.ringbufferTx.buffer.take r.ringbufferTx.end ++ data := by
  induction data generalizing r with
  | nil => exact ⟨r.ringbufferTx.buffer, rfl, h.buffer_length, (List.append_nil _).symm⟩
  | cons b data ih =>
    rw [List.length_cons] at hroom
    have hroom1 : r.ringbufferTx.end + 1 < r.ringbufferTx.size := by omega
    have hadd := ringbufferAdd_linear h hroom1 b
    have hstep : ringbufferTxAdd r b = { r with ringbufferTx := { r.ringbufferTx with
        buffer := r.ringbufferTx.buffer.set r.ringbufferTx.end b
        «end» := r.ringbufferTx.end + 1 } } := by
      rw [ringbufferTxAdd, hadd]
    obtain ⟨buffer, heq, hlen, htake⟩ := ih (r := ringbufferTxAdd r b)
      (by rw [hstep]; exact h.push hroom1 b)
      (by rw [hstep]; show r.ringbufferTx.end + 1 + data.length < r.ringbufferTx.size; omega)
    rw [hstep] at heq hlen htake
    have hend : r.ringbufferTx.end + 1 + data.length = r.ringbufferTx.end + (b :: data).length := by
      rw [List.length_cons]; omega
    refine ⟨buffer, ?_, hlen, ?_⟩
    · show modbusStoreTxFrameDataBytes data (ringbufferTxAdd r b) = _
      rw [hstep, heq, ← hend]
    · rw [← hend, htake, take_set_end h b, List.append_assoc]
      rfl

end Bricklib2
