/-
Bricklib2/Warp/RtuMaster.lean

The RTU master as a machine: the UART, its interrupts, `rs485_tick` and a
client that issues requests and clears them.  The client keeps two rules: it
issues a request only while no other one is outstanding and the TX ring is
fresh, and it clears a request only when that is over.  (`MeterBus.lean` shows
that the meter drivers do.)

The receive side is governed by one relation, `RxGrows`: an interrupt appends
to the RX ring and changes nothing else, so whatever has been checked about the
first bytes stays true.  The transmit side is governed by `OnWire`: the bytes
taken so far and the bytes left in the TX ring make up the frame.

Main result: `masterInv_run`, the invariant of every run.
-/
import Mathlib.Data.List.GetD
import Bricklib2.Library.Machine
import Bricklib2.Warp.MeterRequest

namespace Bricklib2

open Machine

/-! ### The machine -/

/-- What happens to a master. -/
inductive MasterEvent
  | receive (value : UInt8) (answers : Option ℕ)
  | rxIrq (now : ℕ)
  | txIrq
  | txShift
  | tick (now : ℕ) (irq : Interrupts)
  | request (now : ℕ) (q : MeterRequest)
  | clear
  | counters (c : RS485ModbusCommonErrorCounters)

/-- What a client has to observe to issue `q`: the bus is free, `q` is not a
broadcast, and the TX ring is large enough for its frame. -/
def RS485.CanIssue (r : RS485) (q : MeterRequest) : Prop :=
  r.busFree = true ∧ q.slaveAddress ≠ 0 ∧ q.frame.length < r.ringbufferTx.size

instance (r : RS485) (q : MeterRequest) : Decidable (r.CanIssue q) :=
  inferInstanceAs (Decidable (_ ∧ _ ∧ _))

/-- The request is over, or there is none. -/
def RS485.CanClear (r : RS485) : Prop := r.requestState = .ready ∨ r.requestCbInvoke = true

instance (r : RS485) : Decidable r.CanClear := inferInstanceAs (Decidable (_ ∨ _))

/-- A step of a master. -/
def masterStep (r : RS485) : MasterEvent → Option RS485
  | .receive value answers => some (rs485Receive value answers r)
  | .rxIrq now => some (rs485RxIrqHandler now r)
  | .txIrq => if r.txEvent then some (rs485TxIrqHandler r) else none
  | .txShift => some (rs485TxShift r)
  | .tick now irq => some (rs485Tick now irq r)
  | .request now q => if r.CanIssue q then some (meterIssue now q r) else none
  | .clear => if r.CanClear then some (modbusClearRequest r) else none
  | .counters c => some { r with errorCounters := c }

/-- `rs485_init`, whose last step is `modbus_init`. -/
def rs485Init (bufferSize txFifoSize now : ℕ) : RS485 :=
  modbusInit now (rs485InitBuffer bufferSize txFifoSize)

/-! ### Receiving only appends -/

/-- The bytes in the RX ring. -/
def RS485.rxContent (r : RS485) : List RxByte := r.ringbufferRx.buffer.take r.ringbufferRx.end

/-- The RX ring is in one piece at the start of its storage. -/
structure RS485.RxLinear (r : RS485) : Prop where
  linear : r.ringbufferRx.Linear
  start : r.ringbufferRx.start = 0

/-- `RxGrows P r r'`: bytes have been appended to the RX ring and its FIFO.
Those that were not there before satisfy `P`, and nothing else has changed. -/
structure RxGrows (P : RxByte → Prop) (r r' : RS485) : Prop where
  frame : r' = { r with
    ringbufferRx := { r.ringbufferRx with
      buffer := r'.ringbufferRx.buffer, «end» := r'.ringbufferRx.end }
    errorCountOverrun := r'.errorCountOverrun
    time4CharsMs := r'.time4CharsMs
    rxFifo := r'.rxFifo }
  linear : r'.RxLinear
  content : r.rxContent <+: r'.rxContent
  new : ∀ b ∈ r'.rxContent ++ r'.rxFifo, b ∈ r.rxContent ++ r.rxFifo ∨ P b

variable {P : RxByte → Prop} {r r' r'' : RS485}

theorem RS485.RxLinear.length_rxContent (h : r.RxLinear) :
    r.rxContent.length = r.ringbufferRx.end := by
  rw [RS485.rxContent, List.length_take_of_le]
  rw [h.linear.buffer_length]
  exact h.linear.end_lt.le

theorem RS485.RxLinear.used (h : r.RxLinear) :
    ringbufferGetUsed r.ringbufferRx = r.ringbufferRx.end := by
  rw [h.linear.used, h.start, Nat.sub_zero]

theorem RxGrows.refl (h : r.RxLinear) : RxGrows P r r :=
  ⟨rfl, h, List.prefix_rfl, fun _ hb => Or.inl hb⟩

theorem RxGrows.trans (h : RxGrows P r r') (h' : RxGrows P r' r'') : RxGrows P r r'' where
  frame := by rw [h'.frame, h.frame]
  linear := h'.linear
  content := h.content.trans h'.content
  new b hb := (h'.new b hb).elim (fun hb' => h.new b hb') Or.inr

theorem RxGrows.end_le (h : RxGrows P r r') (hr : r.RxLinear) :
    r.ringbufferRx.end ≤ r'.ringbufferRx.end := by
  have hle := h.content.length_le
  rwa [hr.length_rxContent, h.linear.length_rxContent] at hle

/-- Bytes that have arrived on the wire. -/
theorem rxGrows_receive (h : r.RxLinear) {value : UInt8} {answers : Option ℕ}
    (hP : P ⟨value, r.requestCount, answers⟩) :
    RxGrows P r (rs485Receive value answers r) where
  frame := rfl
  linear := ⟨h.linear, h.start⟩
  content := List.prefix_rfl
  new b hb := by
    simp only [rs485Receive, RS485.rxContent, List.mem_append, List.mem_singleton] at hb ⊢
    rcases hb with hb | hb | rfl
    · exact Or.inl (Or.inl hb)
    · exact Or.inl (Or.inr hb)
    · exact Or.inr hP

/-- A byte is stored behind the others, or dropped when the ring is full. -/
theorem rxGrows_store (h : r.RxLinear) (b : RxByte) (hP : P b) :
    RxGrows P r (rs485RxStore r b) := by
  have hlt := h.linear.end_lt
  by_cases hroom : r.ringbufferRx.end + 1 < r.ringbufferRx.size
  · have hne : ¬ r.ringbufferRx.size ≤ r.ringbufferRx.end + 1 := Nat.not_le.mpr hroom
    have hstore : rs485RxStore r b = { r with ringbufferRx := { r.ringbufferRx with
        buffer := r.ringbufferRx.buffer.set r.ringbufferRx.end b
        «end» := r.ringbufferRx.end + 1 } } := by
      simp only [rs485RxStore, if_neg hne, h.start]
      rw [if_neg (by omega)]
    have hcontent : RS485.rxContent { r with ringbufferRx := { r.ringbufferRx with
        buffer := r.ringbufferRx.buffer.set r.ringbufferRx.end b
        «end» := r.ringbufferRx.end + 1 } } = r.rxContent ++ [b] := take_set_end h.linear b
    rw [hstore]
    refine ⟨rfl, ⟨h.linear.push hroom b, h.start⟩, ?_, ?_⟩
    · rw [hcontent]
      exact List.prefix_append _ _
    · intro c hc
      rw [hcontent] at hc
      simp only [List.mem_append, List.mem_singleton] at hc ⊢
      rcases hc with (hc | rfl) | hc
      · exact Or.inl (Or.inl hc)
      · exact Or.inr hP
      · exact Or.inl (Or.inr hc)
  · -- the next slot is the start of the ring: an overrun
    have hfull : r.ringbufferRx.size ≤ r.ringbufferRx.end + 1 := Nat.not_lt.mp hroom
    have hstore : rs485RxStore r b = { r with errorCountOverrun := r.errorCountOverrun + 1 } := by
      simp only [rs485RxStore, if_pos hfull, h.start, if_true]
    rw [hstore]
    exact ⟨rfl, ⟨h.linear, h.start⟩, List.prefix_rfl, fun _ hb => Or.inl hb⟩

theorem rxGrows_foldl (h : r.RxLinear) (bytes : List RxByte) (hP : ∀ b ∈ bytes, P b) :
    RxGrows P r (bytes.foldl rs485RxStore r) := by
  induction bytes generalizing r with
  | nil => exact RxGrows.refl h
  | cons b bytes ih =>
    have hb := rxGrows_store h b (hP b List.mem_cons_self)
    exact hb.trans (ih hb.linear fun c hc => hP c (List.mem_cons_of_mem _ hc))

/-- Emptying the FIFO brings no new bytes. -/
theorem rxGrows_rxLoop (P : RxByte → Prop) (h : r.RxLinear) : RxGrows P r (rs485RxLoop r) := by
  have hfold := rxGrows_foldl (P := fun b => b ∈ r.rxFifo)
    (r := { r with rxFifo := [] }) ⟨h.linear, h.start⟩ r.rxFifo fun _ hb => hb
  refine ⟨hfold.frame, hfold.linear, hfold.content, fun b hb => Or.inl ?_⟩
  rcases hfold.new b hb with hold | hfifo
  · rcases List.mem_append.mp hold with hold | hold
    · exact List.mem_append_left _ hold
    · exact absurd hold List.not_mem_nil
  · exact List.mem_append_right _ hfifo

theorem RxGrows.time (h : RxGrows P r r') (t : ℕ) :
    RxGrows P r { r' with time4CharsMs := t } :=
  ⟨by rw [h.frame], ⟨h.linear.linear, h.linear.start⟩, h.content, h.new⟩

theorem rxGrows_rxIrq (P : RxByte → Prop) (h : r.RxLinear) (now : ℕ) :
    RxGrows P r (rs485RxIrqHandler now r) :=
  (rxGrows_rxLoop P h).time _

/-- The bytes of an interrupt point satisfy `P` when they arrive during request
number `count`. -/
def Interrupt.Brings (P : RxByte → Prop) (count : ℕ) (i : Interrupt) : Prop :=
  ∀ b ∈ i.bytes, P ⟨b.1, count, b.2⟩

theorem RxGrows.requestCount (h : RxGrows P r r') : r'.requestCount = r.requestCount := by
  rw [h.frame]

theorem rxGrows_interruptPoint (h : r.RxLinear) (now : ℕ) {i : Interrupt}
    (hi : i.Brings P r.requestCount) : RxGrows P r (interruptPoint now i r) := by
  have harrive : ∀ bytes : List (UInt8 × Option ℕ), ∀ t : RS485, RxGrows P r t →
      (∀ b ∈ bytes, P ⟨b.1, r.requestCount, b.2⟩) →
      RxGrows P r (bytes.foldl (fun r b => rs485Receive b.1 b.2 r) t) := by
    intro bytes
    induction bytes with
    | nil =>
      intro t ht _
      exact ht
    | cons b bytes ih =>
      intro t ht hP
      refine ih _ (ht.trans (rxGrows_receive ht.linear ?_))
        (fun c hc => hP c (List.mem_cons_of_mem _ hc))
      rw [ht.requestCount]
      exact hP b List.mem_cons_self
  have hbytes := harrive i.bytes r (RxGrows.refl h) hi
  unfold interruptPoint
  simp only
  split
  · exact hbytes.trans (rxGrows_rxIrq P hbytes.linear now)
  · exact hbytes

/-! ### Transmitting takes the frame byte by byte -/

/-- Everything about the request but the bytes taken so far, which are given. -/
def IssuedRequest.withSent (q : IssuedRequest) (sent : List UInt8) : IssuedRequest :=
  { q with sent := sent }

/-- The TX ring holds the frame of `q`, and the part in front of `start` is
what the transmit interrupt has taken. -/
structure OnWire (q : IssuedRequest) (r : RS485) : Prop where
  linear : r.ringbufferTx.Linear
  length : r.ringbufferTx.end = q.request.frame.length
  frame : r.ringbufferTx.buffer.take r.ringbufferTx.end = q.request.frame
  sent : q.sent = q.request.frame.take r.ringbufferTx.start
  level : r.txFifoLevel ≤ r.txFifoSize

/-- The whole frame has been taken and the interrupt is off. -/
def RS485.TxFinished (r : RS485) : Prop :=
  r.ringbufferTx.start = r.ringbufferTx.end ∧ r.txEvent = false

/-- `TxMoves q r r'`: the transmit interrupt has moved bytes of `q`, the newest
request, to the FIFO, and has either filled that or found the ring empty. -/
structure TxMoves (q : IssuedRequest) (r r' : RS485) : Prop where
  frame : ∃ start level event done sent, r' = { r with
    ringbufferTx := { r.ringbufferTx with start := start }
    txFifoLevel := level
    txEvent := event
    txDone := done
    requests := q.withSent sent :: r.requests.tail } ∧ OnWire (q.withSent sent) r'
  moved : r'.txFifoLevel + r.ringbufferTx.start = r.txFifoLevel + r'.ringbufferTx.start
  flags : r'.txDone = r.txDone ∧ r'.txEvent = r.txEvent ∧ r'.txFifoLevel = r'.txFifoSize ∨
    r'.txDone = true ∧ r'.TxFinished ∧ r'.txFifoLevel < r'.txFifoSize

variable {q : IssuedRequest} {older : List IssuedRequest}

theorem OnWire.get (h : OnWire q r) (hlt : r.ringbufferTx.start < r.ringbufferTx.end) :
    OnWire (q.withSent (q.sent ++ [r.ringbufferTx.buffer.getD r.ringbufferTx.start default]))
      { r with ringbufferTx := { r.ringbufferTx with start := r.ringbufferTx.start + 1 } } where
  linear := ⟨hlt, h.linear.end_lt, h.linear.buffer_length⟩
  length := h.length
  frame := h.frame
  sent := by
    have hb : r.ringbufferTx.start < r.ringbufferTx.buffer.length := by
      rw [h.linear.buffer_length]
      exact hlt.trans h.linear.end_lt
    have hf : r.ringbufferTx.start < q.request.frame.length := by rw [← h.length]; exact hlt
    have hget : q.request.frame[r.ringbufferTx.start] =
        r.ringbufferTx.buffer[r.ringbufferTx.start] := by
      have hbuf := h.frame
      simp only [← hbuf, List.getElem_take]
    show q.sent ++ _ = q.request.frame.take (r.ringbufferTx.start + 1)
    rw [h.sent, List.take_succ_eq_append_getElem hf, hget, List.getD_eq_getElem _ _ hb]
  level := h.level

/-- The transmit loop, whose invariant is `OnWire`. -/
theorem txMoves_txLoop (free : ℕ) (hr : r.requests = q :: older) (h : OnWire q r)
    (hfree : r.txFifoLevel + free = r.txFifoSize) : TxMoves q r (rs485TxLoop free r) := by
  induction free generalizing r q with
  | zero =>
    refine ⟨⟨r.ringbufferTx.start, r.txFifoLevel, r.txEvent, r.txDone, q.sent, ?_, h⟩,
      rfl, Or.inl ⟨rfl, rfl, hfree⟩⟩
    show r = { r with requests := q :: r.requests.tail }
    rw [hr, List.tail_cons, ← hr]
  | succ free ih =>
    rcases Nat.lt_or_eq_of_le h.linear.start_le with hlt | heq
    · have hget := ringbufferGet_linear h.linear hlt
      let data := r.ringbufferTx.buffer.getD r.ringbufferTx.start default
      let r₁ : RS485 := { r with
        ringbufferTx := { r.ringbufferTx with start := r.ringbufferTx.start + 1 }
        txFifoLevel := r.txFifoLevel + 1
        requests := q.withSent (q.sent ++ [data]) :: older }
      have hstep : rs485TxLoop (free + 1) r = rs485TxLoop free r₁ := by
        simp only [rs485TxLoop, hget, RS485.logSent, hr]
        rfl
      have honwire := h.get hlt
      obtain ⟨⟨start, level, event, done, sent, hf, ho⟩, hmoved, hflags⟩ := ih (r := r₁) rfl
        ⟨honwire.linear, honwire.length, honwire.frame, honwire.sent,
          by show r.txFifoLevel + 1 ≤ r.txFifoSize; omega⟩
        (by show r.txFifoLevel + 1 + free = r.txFifoSize; omega)
      rw [hstep]
      refine ⟨⟨start, level, event, done, sent, ?_, ho⟩, ?_, hflags⟩
      · rw [hr]
        exact hf
      · have hlevel : r₁.txFifoLevel = r.txFifoLevel + 1 := rfl
        have hstart : r₁.ringbufferTx.start = r.ringbufferTx.start + 1 := rfl
        omega
    · -- the ring is empty: the loop switches the interrupt off
      have hnone : ringbufferGet r.ringbufferTx = none := by
        simp only [ringbufferGet, ringbufferIsEmpty, heq, beq_self_eq_true, if_true]
      have hstep : rs485TxLoop (free + 1) r = { r with txEvent := false, txDone := true } := by
        simp only [rs485TxLoop, hnone]
      rw [hstep]
      refine ⟨⟨r.ringbufferTx.start, r.txFifoLevel, false, true, q.sent, ?_,
        ⟨h.linear, h.length, h.frame, h.sent, h.level⟩⟩, rfl, Or.inr ⟨rfl, ⟨heq, rfl⟩, ?_⟩⟩
      · show ({ r with txEvent := false, txDone := true } : RS485) =
          { r with txEvent := false, txDone := true, requests := q :: r.requests.tail }
        rw [hr, List.tail_cons, ← hr]
      · show r.txFifoLevel < r.txFifoSize
        omega

theorem txMoves_txIrq (hr : r.requests = q :: older) (h : OnWire q r) :
    TxMoves q r (rs485TxIrqHandler r) :=
  txMoves_txLoop _ hr h (Nat.add_sub_cancel' h.level)

/-! ### Starting a request -/

/-- The length that is told to `modbus_init_new_request`. -/
def MeterRequest.responseLength : MeterRequest → ℕ
  | .readRegisters _ _ _ _ => 10
  | .writeRegister _ _ _ _ => 13
  | .writeString _ _ _ => 13

/-- Whatever its kind, a request stores its payload and starts. -/
theorem meterIssue_eq (now : ℕ) (q : MeterRequest) (r : RS485) :
    meterIssue now q r = modbusStartTx now q.responseLength q r.busFree
      (modbusStoreTxFrameDataBytes q.payload r) := by
  cases q with
  | readRegisters fc slaveAddress startingAddress count =>
    simp only [meterIssue, meterReadRegisters, modbusStoreTxHeader, modbusStoreTxFrameDataShorts,
      modbusStoreTxFrameDataBytes_append]
    rfl
  | writeRegister fc slaveAddress startingAddress payload =>
    simp only [meterIssue, meterWriteRegister, modbusStoreTxHeader, modbusStoreTxFrameDataShorts,
      modbusStoreTxFrameDataBytes_append, MeterRequest.payload, MeterRequest.body,
      MeterRequest.responseLength]
    split
    · rfl
    · split
      · rfl
      · rw [List.append_nil]
        rfl
  | writeString slaveAddress startingAddress payload =>
    simp only [meterIssue, meterWriteString, modbusStoreTxHeader, modbusStoreTxFrameDataShorts,
      modbusStoreTxFrameDataBytes_append]
    simp only [MeterRequest.payload, MeterRequest.body, MeterRequest.responseLength,
      MeterRequest.slaveAddress, MeterRequest.fc, MeterRequest.startingAddress,
      List.append_assoc, List.flatMap_cons, List.flatMap_nil, List.append_nil, List.cons_append,
      List.nil_append]

/-- In a fresh ring, payload and checksum are the frame. -/
theorem modbusAddTxFrameChecksum_payload (q : MeterRequest) (h : r.ringbufferTx.Linear)
    (hstart : r.ringbufferTx.start = 0) (hend : r.ringbufferTx.end = 0)
    (hroom : q.frame.length < r.ringbufferTx.size) :
    ∃ buffer, modbusAddTxFrameChecksum (modbusStoreTxFrameDataBytes q.payload r) =
        { r with ringbufferTx := { r.ringbufferTx with
            buffer := buffer, «end» := q.frame.length } } ∧
      buffer.length = r.ringbufferTx.size ∧ buffer.take q.frame.length = q.frame := by
  have hlen : q.frame.length = q.payload.length + 2 := by simp [MeterRequest.frame]
  -- first the payload, then the two bytes of its checksum
  obtain ⟨buffer, heq, hbuf, htake⟩ :=
    modbusStoreTxFrameDataBytes_linear h q.payload (by omega)
  rw [hend, Nat.zero_add] at heq htake
  rw [List.take_zero, List.nil_append] at htake
  rw [heq]
  have hlinear : Ringbuffer.Linear { r.ringbufferTx with
      buffer := buffer, «end» := q.payload.length } :=
    ⟨by rw [hstart]; exact Nat.zero_le _, by show q.payload.length < r.ringbufferTx.size; omega,
      hbuf⟩
  have hused : ringbufferGetUsed { r.ringbufferTx with
      buffer := buffer, «end» := q.payload.length } = q.payload.length := by
    rw [hlinear.used]
    show q.payload.length - r.ringbufferTx.start = q.payload.length
    rw [hstart, Nat.sub_zero]
  obtain ⟨buffer', heq', hbuf', htake'⟩ := modbusStoreTxFrameDataBytes_linear
    (r := { r with ringbufferTx := { r.ringbufferTx with
      buffer := buffer, «end» := q.payload.length } }) hlinear
    [crcLow (crc16Modbus q.payload), crcHigh (crc16Modbus q.payload)]
    (by show q.payload.length + 2 < r.ringbufferTx.size; omega)
  refine ⟨buffer', ?_, hbuf', ?_⟩
  · simp only [modbusAddTxFrameChecksum, hused, htake]
    rw [heq', hlen]
    rfl
  · rw [hlen]
    have hframe : buffer.take q.payload.length ++
        [crcLow (crc16Modbus q.payload), crcHigh (crc16Modbus q.payload)] = q.frame := by
      rw [htake]
      rfl
    rw [← hframe]
    exact htake'

/-- A request issued while the bus is free: the state machine waits for the
response, and the frame is on its way. -/
structure Issued (now : ℕ) (q : MeterRequest) (r r' : RS485) : Prop where
  frame : ∃ start buffer level event done id, ∃ sent : List UInt8, r' = { r with
    ringbufferTx := { r.ringbufferTx with
      start := start, buffer := buffer, «end» := q.frame.length }
    requestId := id
    requestCbInvoke := false
    requestLength := q.responseLength
    requestState := .masterWaitingResponse
    timeRefMasterRequestTimeout := systemTimerGetMs now
    stateWire := .tx
    txFifoLevel := level
    txEvent := event
    txDone := done
    requestCount := r.requestCount + 1
    requests := ⟨q, r.busFree, r.leftover, sent⟩ :: r.requests } ∧
    OnWire ⟨q, r.busFree, r.leftover, sent⟩ r'
  finished : r'.txDone = true → r'.TxFinished

theorem issued_meterIssue (now : ℕ) {q : MeterRequest} (hm : r.mode = .modbusMasterRtu)
    (h : r.ringbufferTx.Linear) (hlevel : r.txFifoLevel ≤ r.txFifoSize)
    (hdone : r.txDone = false) (hc : r.CanIssue q) : Issued now q r (meterIssue now q r) := by
  obtain ⟨hfree, -, hroom⟩ := hc
  have hring : r.ringbufferTx.start = 0 ∧ r.ringbufferTx.end = 0 := by
    simp only [RS485.busFree, Bool.and_eq_true, beq_iff_eq] at hfree
    exact ⟨hfree.1.2, hfree.2⟩
  obtain ⟨buffer, heq, hbuf, htake⟩ :=
    modbusAddTxFrameChecksum_payload q h hring.1 hring.2 hroom
  -- the state in which the transmit interrupt is triggered for the first time
  let id := if r.requestId = 255 then 1 else r.requestId + 1
  let q₀ : IssuedRequest := ⟨q, r.busFree, r.leftover, []⟩
  let r₁ : RS485 := { r with
    ringbufferTx := { r.ringbufferTx with buffer := buffer, «end» := q.frame.length }
    requestId := id
    requestCbInvoke := false
    requestLength := q.responseLength
    requestState := .masterWaitingResponse
    timeRefMasterRequestTimeout := systemTimerGetMs now
    stateWire := .tx
    txEvent := true
    requestCount := r.requestCount + 1
    requests := q₀ :: r.requests }
  have hissue : meterIssue now q r =
      modbusStartTxFromBuffer (rs485TxIrqHandler r₁) := by
    rw [meterIssue_eq, modbusStartTx, heq]
    simp only [modbusInitNewRequest, RS485.logRequest, if_pos hm]
    rfl
  have hlinear : r₁.ringbufferTx.Linear := by
    refine ⟨?_, hroom, hbuf⟩
    show r.ringbufferTx.start ≤ q.frame.length
    rw [hring.1]
    exact Nat.zero_le _
  have honwire : OnWire q₀ r₁ := by
    refine ⟨hlinear, rfl, htake, ?_, hlevel⟩
    show [] = q.frame.take r.ringbufferTx.start
    rw [hring.1, List.take_zero]
  obtain ⟨⟨start, level, event, done, sent, hf, ho⟩, -, hflags⟩ :=
    txMoves_txIrq (r := r₁) rfl honwire
  rw [hissue, modbusStartTxFromBuffer]
  generalize rs485TxIrqHandler r₁ = t at hf ho hflags
  subst hf
  -- and the second time
  have ho₂ : OnWire (q₀.withSent sent) { r₁ with
      ringbufferTx := { r₁.ringbufferTx with start := start }
      txFifoLevel := level
      txDone := done
      requests := q₀.withSent sent :: r.requests } :=
    ⟨ho.linear, ho.length, ho.frame, ho.sent, ho.level⟩
  obtain ⟨⟨start', level', event', done', sent', hf', ho'⟩, hmoved', hflags'⟩ :=
    txMoves_txIrq (r := { r₁ with
      ringbufferTx := { r₁.ringbufferTx with start := start }
      txFifoLevel := level
      txDone := done
      requests := q₀.withSent sent :: r.requests }) rfl ho₂
  refine ⟨⟨start', buffer, level', event', done', id, sent', hf', ho'⟩, fun hfinal => ?_⟩
  rcases hflags' with ⟨hsame, -, hfull⟩ | ⟨-, hfinished, -⟩
  · -- a filled FIFO cannot have been finished before
    exfalso
    have hdone₁ : done = true := hsame.symm.trans hfinal
    rcases hflags with ⟨hsame₁, -⟩ | ⟨-, ⟨hempty, -⟩, hlt⟩
    · have hfalse : done = false := hsame₁.trans hdone
      rw [hfalse] at hdone₁
      cases hdone₁
    · have hle := ho'.linear.start_le
      rw [hf'] at hle hfull hmoved'
      simp only at hle hfull hmoved' hempty hlt
      omega
  · exact hfinished

end Bricklib2
