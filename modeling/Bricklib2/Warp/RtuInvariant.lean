/-
Bricklib2/Warp/RtuInvariant.lean

The invariant of the RTU master over whole runs.  The master is in one of two
phases: the bus is idle (`BusIdle`), or one request is on its way or waits for
its response (`AwaitsResponse`).  While it waits, `cb_invoke` without a timeout
means that a frame has passed all checks, and receiving more bytes cannot take
that back (`Accepted.grows`).

Main result: `masterInv_run`.
-/
import Bricklib2.Warp.TickSteps

namespace Bricklib2

open Machine

variable {P : RxByte → Prop} {r r' : RS485} {q : IssuedRequest} {older : List IssuedRequest}

/-! ### Accepted frames -/

/-- The first `L` received bytes. -/
def RS485.rxBytes (r : RS485) (L : ℕ) : List UInt8 := (r.rxContent.take L).map RxByte.value

/-- The first `L` bytes of the RX buffer are a response to `request`: they end
in their own CRC, come from its slave and carry its function code, plain or
with the exception bit. -/
structure Accepted (request : MeterRequest) (L : ℕ) (r : RS485) : Prop where
  two_le : 2 ≤ L
  le_max : L ≤ rs485ModbusRtuFrameSizeMax
  received : L ≤ r.ringbufferRx.end
  checksum : frameChecksumOk (r.rxBytes L) = true
  slave : (r.rxBytes L)[0]? = some request.slaveAddress
  fc : (r.rxBytes L)[1]? = some request.fc ∨
    ∃ fc, (r.rxBytes L)[1]? = some fc ∧ fc.toNat = request.fc.toNat + 0x80

theorem rxBytes_grows {L : ℕ} (h : r.rxContent <+: r'.rxContent) (hL : L ≤ r.rxContent.length) :
    r'.rxBytes L = r.rxBytes L := by
  obtain ⟨t, ht⟩ := h
  rw [RS485.rxBytes, ← ht, List.take_append_of_le_length hL, RS485.rxBytes]

/-- Receiving more does not change what has been accepted. -/
theorem Accepted.grows {request : MeterRequest} {L : ℕ} (h : Accepted request L r)
    (hr : r.RxLinear) (hg : RxGrows P r r') : Accepted request L r' := by
  have hbytes : r'.rxBytes L = r.rxBytes L :=
    rxBytes_grows hg.content (by rw [hr.length_rxContent]; exact h.received)
  exact ⟨h.two_le, h.le_max, h.received.trans (hg.end_le hr), by rw [hbytes]; exact h.checksum,
    by rw [hbytes]; exact h.slave, by rw [hbytes]; exact h.fc⟩

/-- Below the end of the RX ring, `rx_frame` shows the received bytes. -/
theorem rxFrame_eq {i : ℕ} (h : r.RxLinear) (hi : i < r.ringbufferRx.end) {L : ℕ} (hL : i < L) :
    (r.rxBytes L)[i]? = some (r.rxFrame i) := by
  have hlen : i < r.ringbufferRx.buffer.length := by
    rw [h.linear.buffer_length]
    exact hi.trans h.linear.end_lt
  have hmap : i < (r.ringbufferRx.buffer.map RxByte.value).length := by
    rw [List.length_map]
    exact hlen
  rw [RS485.rxBytes, RS485.rxContent, RS485.rxFrame, List.getElem?_map, List.take_take,
    List.getElem?_take_of_lt (by omega), List.getD_eq_getElem?_getD,
    List.getElem?_append_left hmap, List.getElem?_map, List.getElem?_eq_getElem hlen]
  rfl

/-- The frame that is checked consists of received bytes. -/
theorem receivedFrame_eq (h : r.RxLinear) (hlast : r.rxRbLastLength ≤ r.ringbufferRx.end) :
    r.receivedFrame = r.rxBytes r.rxRbLastLength := by
  have hlen : (r.rxBytes r.rxRbLastLength).length = r.rxRbLastLength := by
    rw [RS485.rxBytes, List.length_map, List.length_take_of_le]
    rw [h.length_rxContent]
    exact hlast
  apply List.ext_getElem?
  intro i
  rcases Nat.lt_or_ge i r.rxRbLastLength with hi | hi
  · rw [rxFrame_eq h (hi.trans_le hlast) hi, RS485.receivedFrame, List.getElem?_map,
      List.getElem?_range hi]
    rfl
  · have hleft : r.receivedFrame[i]? = none := by
      apply List.getElem?_eq_none
      rw [RS485.receivedFrame, List.length_map, List.length_range]
      exact hi
    have hright : (r.rxBytes r.rxRbLastLength)[i]? = none := by
      apply List.getElem?_eq_none
      rw [hlen]
      exact hi
    rw [hleft, hright]

/-! ### The two phases -/

/-- The request was issued on a free bus and its frame has gone out whole. -/
def IssuedRequest.Complete (q : IssuedRequest) : Prop :=
  q.busFree = true ∧ q.sent = q.request.frame

/-- No request is under way. -/
structure BusIdle (r : RS485) : Prop where
  state : r.requestState = .ready
  wire : r.stateWire = .idle
  txDone : r.txDone = false
  txEvent : r.txEvent = false
  txStart : r.ringbufferTx.start = 0
  txEnd : r.ringbufferTx.end = 0
  cbInvoke : r.requestCbInvoke = false
  timedOut : r.masterRequestTimedOut = false
  complete : ∀ q ∈ r.requests, q.Complete

/-- A request is on the wire or was sent, and its response is not there yet. -/
structure AwaitsResponse (q : IssuedRequest) (older : List IssuedRequest) (r : RS485) : Prop where
  state : r.requestState = .masterWaitingResponse
  requests : r.requests = q :: older
  onWire : OnWire q r
  busFree : q.busFree = true
  slave : q.request.slaveAddress ≠ 0
  complete : ∀ q ∈ older, q.Complete
  sending : r.stateWire = .tx → r.requestCbInvoke = false ∧ (r.txDone = true → r.TxFinished)
  sent : r.stateWire ≠ .tx → r.txDone = false ∧ r.TxFinished
  accepted : r.requestCbInvoke = true → r.masterRequestTimedOut = false →
    Accepted q.request r.acceptedLength r

/-- The invariant of the RTU master. -/
structure MasterInv (r : RS485) : Prop where
  mode : r.mode = .modbusMasterRtu
  rx : r.RxLinear
  rxSize : r.ringbufferRx.size = r.bufferSizeRx
  last : r.rxRbLastLength ≤ r.ringbufferRx.end
  tx : r.ringbufferTx.Linear
  txSize : r.ringbufferTx.size = r.bufferSize - r.bufferSizeRx
  level : r.txFifoLevel ≤ r.txFifoSize
  phase : BusIdle r ∨ ∃ q older, AwaitsResponse q older r

theorem MasterInv.awaits (h : MasterInv r) (hs : r.requestState = .masterWaitingResponse) :
    ∃ q older, AwaitsResponse q older r := by
  rcases h.phase with hidle | hwait
  · rw [hidle.state] at hs
    cases hs
  · exact hwait

/-- A frame that has been sent completely. -/
theorem AwaitsResponse.sent_eq (h : AwaitsResponse q older r) (hw : r.stateWire ≠ .tx) :
    q.sent = q.request.frame := by
  have hstart := (h.sent hw).2.1
  rw [h.onWire.sent, hstart, h.onWire.length, List.take_length]

theorem AwaitsResponse.txFrame (h : AwaitsResponse q older r) :
    r.txFrame 0 = q.request.slaveAddress ∧ r.txFrame 1 = q.request.fc := by
  have hlen : 2 ≤ r.ringbufferTx.end := by
    rw [h.onWire.length]
    simp only [MeterRequest.frame, MeterRequest.payload, List.length_append, List.length_cons]
    omega
  have hget : ∀ i < 2, r.ringbufferTx.buffer[i]? = q.request.frame[i]? := by
    intro i hi
    rw [← h.onWire.frame, List.getElem?_take_of_lt (by omega)]
  simp only [RS485.txFrame, List.getD_eq_getElem?_getD, hget 0 (by omega), hget 1 (by omega)]
  exact ⟨rfl, rfl⟩

/-- Receiving keeps the invariant. -/
theorem MasterInv.grows (h : MasterInv r) (hg : RxGrows P r r') : MasterInv r' := by
  have hend := hg.end_le h.rx
  have haccept : ∀ request L, Accepted request L r → Accepted request L r' :=
    fun request L ha => ha.grows h.rx hg
  have hlinear := hg.linear
  rw [hg.frame] at hend haccept hlinear ⊢
  refine ⟨h.mode, hlinear, h.rxSize, h.last.trans hend, h.tx, h.txSize, h.level, ?_⟩
  rcases h.phase with hidle | ⟨q, older, hw⟩
  · exact Or.inl ⟨hidle.state, hidle.wire, hidle.txDone, hidle.txEvent, hidle.txStart,
      hidle.txEnd, hidle.cbInvoke, hidle.timedOut, hidle.complete⟩
  · refine Or.inr ⟨q, older, hw.state, hw.requests,
      ⟨hw.onWire.linear, hw.onWire.length, hw.onWire.frame, hw.onWire.sent, hw.onWire.level⟩,
      hw.busFree, hw.slave, hw.complete, hw.sending, hw.sent, fun hcb ht => ?_⟩
    exact haccept _ _ (hw.accepted hcb ht)

/-! ### The checks of a received frame -/

/-- What has been accepted depends on the RX ring only. -/
theorem Accepted.of_ring {request : MeterRequest} {L : ℕ} (h : Accepted request L r)
    (hring : r'.ringbufferRx = r.ringbufferRx) : Accepted request L r' := by
  have hbytes : r'.rxBytes L = r.rxBytes L := by
    rw [RS485.rxBytes, RS485.rxContent, hring]
    rfl
  exact ⟨h.two_le, h.le_max, by rw [hring]; exact h.received, by rw [hbytes]; exact h.checksum,
    by rw [hbytes]; exact h.slave, by rw [hbytes]; exact h.fc⟩

/-- The frame has passed the three checks. -/
structure RS485.ChecksPassed (r : RS485) : Prop where
  length : r.rxRbLastLength ≤ rs485ModbusRtuFrameSizeMax
  checksum : modbusCheckFrameChecksum r = true
  slave : modbusMasterCheckSlaveResponse r = true

/-- A frame that passes all checks is a response to the request whose header is in the
TX frame. -/
theorem RS485.ChecksPassed.accepted {request : MeterRequest} (hc : r.ChecksPassed)
    (hrx : r.RxLinear) (hlast : r.rxRbLastLength ≤ r.ringbufferRx.end)
    (htx0 : r.txFrame 0 = request.slaveAddress) (htx1 : r.txFrame 1 = request.fc) :
    Accepted request r.rxRbLastLength r := by
  obtain ⟨hmax, hsum, hslave⟩ := hc
  rw [modbusCheckFrameChecksum] at hsum
  have htwo : 2 ≤ r.rxRbLastLength := by
    have hlen : 2 ≤ r.receivedFrame.length := by
      rw [frameChecksumOk, Bool.and_eq_true, decide_eq_true_iff] at hsum
      exact hsum.1
    rwa [RS485.receivedFrame, List.length_map, List.length_range] at hlen
  rw [receivedFrame_eq hrx hlast] at hsum
  have hbyte : ∀ i < 2, (r.rxBytes r.rxRbLastLength)[i]? = some (r.rxFrame i) := by
    intro i hi
    apply rxFrame_eq hrx
    · exact (hi.trans_le htwo).trans_le hlast
    · exact hi.trans_le htwo
  simp only [modbusMasterCheckSlaveResponse, Bool.and_eq_true, Bool.or_eq_true, beq_iff_eq,
    htx0, htx1] at hslave
  obtain ⟨haddr, hfc⟩ := hslave
  refine ⟨htwo, hmax, hlast, hsum, ?_, ?_⟩
  · rw [hbyte 0 (by omega), haddr]
  · rw [hbyte 1 (by omega)]
    rcases hfc with hfc | hfc
    · exact Or.inl (congrArg some hfc)
    · exact Or.inr ⟨_, rfl, hfc⟩

/-- Bytes that arrive later do not change the outcome of the checksum test. -/
theorem RxGrows.checksum (hg : RxGrows P r r') (hrx : r.RxLinear)
    (hlast : r.rxRbLastLength ≤ r.ringbufferRx.end) :
    modbusCheckFrameChecksum r' = modbusCheckFrameChecksum r := by
  have hsame : r'.rxRbLastLength = r.rxRbLastLength := by rw [hg.frame]
  have hlast' : r'.rxRbLastLength ≤ r'.ringbufferRx.end := by
    rw [hsame]
    exact hlast.trans (hg.end_le hrx)
  rw [modbusCheckFrameChecksum, modbusCheckFrameChecksum, receivedFrame_eq hg.linear hlast',
    receivedFrame_eq hrx hlast, hsame]
  rw [rxBytes_grows hg.content (by rw [hrx.length_rxContent]; exact hlast)]

/-! ### Predicates that the tick keeps -/

/-- The part of a state the tick branches on, which receiving leaves alone. -/
structure SameRequest (r r' : RS485) : Prop where
  state : r'.requestState = r.requestState
  wire : r'.stateWire = r.stateWire
  last : r'.rxRbLastLength = r.rxRbLastLength
  timedOut : r'.masterRequestTimedOut = r.masterRequestTimedOut

theorem RxGrows.same (hg : RxGrows P r r') : SameRequest r r' := by
  constructor <;> rw [hg.frame]

theorem RxGrows.listens (hg : RxGrows P r r') (h : r.Listens) : r'.Listens :=
  ⟨hg.same.state.trans h.1, hg.same.wire.trans h.2⟩

/-- What a predicate needs for the tick to keep it: one field for each move of the wire
state machine, and one for the bytes that arrive between its accesses to the RX ring. -/
structure TickKept (Inv : RS485 → Prop) : Prop where
  mode : ∀ r, Inv r → r.mode = .modbusMasterRtu
  rx : ∀ r, Inv r → r.RxLinear
  last : ∀ r, Inv r → r.rxRbLastLength ≤ r.ringbufferRx.end
  grows : ∀ r r', Inv r → RxGrows (fun _ => True) r r' → Inv r'
  timedOut : ∀ r, Inv r → r.Listens → ∀ count, Inv (modbusRequestTimedOut count r)
  accepted : ∀ r, Inv r → r.Listens → (r.masterRequestTimedOut = false → r.ChecksPassed) →
    Inv { r with requestCbInvoke := true, acceptedLength := r.rxRbLastLength }
  grown : ∀ r, Inv r → r.Listens → Inv { r with
    stateWire := .rx
    rxRbLastLength := ringbufferGetUsed r.ringbufferRx }
  quiet : ∀ r, Inv r → r.stateWire = .rx → Inv { r with stateWire := .idle }
  sent : ∀ r, Inv r → r.stateWire = .tx → r.txDone = true → Inv { r with
    txDone := false
    stateWire := .idle
    requestCbInvoke := if r.txFrame 0 = 0 then true else r.requestCbInvoke }

variable {Inv : RS485 → Prop}

theorem TickKept.interruptPoint (hk : TickKept Inv) (h : Inv r) (now : ℕ) (i : Interrupt) :
    RxGrows (fun _ => True) r (interruptPoint now i r) :=
  rxGrows_interruptPoint (hk.rx r h) now fun _ _ => trivial

/-- Every outcome of the three checks keeps the predicate.  Each check sees the ring as
it is after one more interrupt point. -/
theorem TickKept.handleFrame (hk : TickKept Inv) (h : Inv r) (hlistens : r.Listens) (now : ℕ)
    (irq : Interrupts) : Inv (modbusHandleFrame now irq r) := by
  have hg₆ := hk.interruptPoint h now (irq 6)
  have h₆ := hk.grows _ _ h hg₆
  have hl₆ := hg₆.listens hlistens
  simp only [modbusHandleFrame]
  generalize Bricklib2.interruptPoint now (irq 6) r = r₆ at hg₆ h₆ hl₆ ⊢
  split
  · exact hk.timedOut _ h₆ hl₆ _
  rename_i hmax
  have hg₇ := hk.interruptPoint h₆ now (irq 7)
  have h₇ := hk.grows _ _ h₆ hg₇
  have hl₇ := hg₇.listens hl₆
  generalize Bricklib2.interruptPoint now (irq 7) r₆ = r₇ at hg₇ h₇ hl₇ ⊢
  split
  · exact hk.timedOut _ h₇ hl₇ _
  rename_i hsum
  have hg₈ := hk.interruptPoint h₇ now (irq 8)
  have h₈ := hk.grows _ _ h₇ hg₈
  have hl₈ := hg₈.listens hl₇
  have hsum₈ := hg₈.checksum (hk.rx _ h₇) (hk.last _ h₇)
  generalize Bricklib2.interruptPoint now (irq 8) r₇ = r₈ at hg₈ h₈ hl₈ hsum₈ ⊢
  split
  · exact hk.timedOut _ h₈ hl₈ _
  rename_i hslave
  -- past all three checks: the response is reported
  refine hk.accepted _ h₈ hl₈ fun ht => ⟨?_, ?_, ?_⟩
  · have ht₆ : r₆.masterRequestTimedOut = false :=
      hg₇.same.timedOut.symm.trans (hg₈.same.timedOut.symm.trans ht)
    have hle : ringbufferGetUsed r₆.ringbufferRx ≤ rs485ModbusRtuFrameSizeMax :=
      Nat.not_lt.mp fun hlt => hmax ⟨hlt, ht₆⟩
    rw [(hk.rx _ h₆).used] at hle
    rw [hg₈.same.last, hg₇.same.last]
    exact (hk.last _ h₆).trans hle
  · have ht₇ : r₇.masterRequestTimedOut = false := hg₈.same.timedOut.symm.trans ht
    rw [hsum₈]
    exact (Bool.not_eq_false _).mp fun hfalse => hsum ⟨hfalse, ht₇⟩
  · exact (Bool.not_eq_false _).mp fun hfalse => hslave ⟨hfalse, ht⟩

theorem TickKept.checkFrameComplete (hk : TickKept Inv) (h : Inv r) (hwire : r.stateWire = .idle)
    (now : ℕ) (irq : Interrupts) : Inv (modbusCheckFrameComplete now irq r) := by
  have hg₄ := hk.interruptPoint h now (irq 4)
  have h₄ := hk.grows _ _ h hg₄
  simp only [modbusCheckFrameComplete]
  generalize Bricklib2.interruptPoint now (irq 4) r = r₄ at hg₄ h₄ ⊢
  split
  · rename_i hwait
    have hg₅ := hk.interruptPoint h₄ now (irq 5)
    have h₅ := hk.grows _ _ h₄ hg₅
    have hl₄ : r₄.Listens := ⟨hwait.1, hg₄.same.wire.trans hwire⟩
    split
    · split
      · exact h₅
      · exact hk.handleFrame h₅ (hg₅.listens hl₄) now irq
    · exact h₅
  · exact h₄

theorem TickKept.checkFrameGrown (hk : TickKept Inv) (h : Inv r) (hwire : r.stateWire = .idle)
    (now : ℕ) (irq : Interrupts) : Inv (modbusCheckFrameGrown now irq r) := by
  have hg₁ := hk.interruptPoint h now (irq 1)
  have h₁ := hk.grows _ _ h hg₁
  simp only [modbusCheckFrameGrown]
  generalize Bricklib2.interruptPoint now (irq 1) r = r₁ at hg₁ h₁ ⊢
  have hwire₁ : r₁.stateWire = .idle := hg₁.same.wire.trans hwire
  split
  · rename_i hwait
    have hg₂ := hk.interruptPoint h₁ now (irq 2)
    have h₂ := hk.grows _ _ h₁ hg₂
    have hl₂ := hg₂.listens ⟨hwait.1, hwire₁⟩
    generalize Bricklib2.interruptPoint now (irq 2) r₁ = r₂ at hg₂ h₂ hl₂ ⊢
    split
    · -- the frame has grown: note its length and wait for silence
      have hg₃ := hk.interruptPoint h₂ now (irq 3)
      exact hk.grown _ (hk.grows _ _ h₂ hg₃) (hg₃.listens hl₂)
    · exact hk.checkFrameComplete h₂ hl₂.2 now irq
  · exact hk.checkFrameComplete h₁ hwire₁ now irq

theorem TickKept.updateWire (hk : TickKept Inv) (h : Inv r) (now : ℕ) (irq : Interrupts) :
    Inv (modbusUpdateRtuWireStateMachine now irq r) := by
  unfold modbusUpdateRtuWireStateMachine
  split
  · -- idle: the time is up, or the frame is looked at
    rename_i hidle
    rw [if_pos (hk.mode r h)]
    split
    · rename_i htimeout
      exact hk.timedOut r h ⟨htimeout.1, hidle⟩ _
    · exact hk.checkFrameGrown h hidle now irq
  · -- receiving, which goes back to idle after four characters
    rename_i hrx
    split
    · exact hk.quiet r h hrx
    · exact h
  · -- sending, up to the shift of the last byte
    rename_i htx
    split
    · rename_i hdone
      have hsent := hk.sent r h htx hdone
      have hmode := hk.mode r h
      by_cases hbroadcast : r.txFrame 0 = 0
      · have hboth : RS485.mode { r with txDone := false, stateWire := .idle } =
            .modbusMasterRtu ∧
            RS485.txFrame { r with txDone := false, stateWire := .idle } 0 = 0 :=
          ⟨hmode, hbroadcast⟩
        rw [if_pos hbroadcast] at hsent
        rw [if_pos hboth]
        exact hsent
      · have hnot : ¬ (RS485.mode { r with txDone := false, stateWire := .idle } =
            .modbusMasterRtu ∧
            RS485.txFrame { r with txDone := false, stateWire := .idle } 0 = 0) :=
          fun hboth => hbroadcast hboth.2
        rw [if_neg hbroadcast] at hsent
        rw [if_neg hnot]
        exact hsent
    · exact h

theorem TickKept.tick (hk : TickKept Inv) (h : Inv r) (now : ℕ) (irq : Interrupts) :
    Inv (rs485Tick now irq r) := by
  have hdrained : Inv (if r.rxFifo = [] then rs485RxLoop r else
      { rs485RxLoop r with time4CharsMs := systemTimerGetMs now }) := by
    have hg := rxGrows_rxLoop (fun _ => True) (hk.rx r h)
    split
    · exact hk.grows _ _ h hg
    · exact hk.grows _ _ h (hg.time _)
  simp only [rs485Tick]
  generalize (if r.rxFifo = [] then rs485RxLoop r else
      { rs485RxLoop r with time4CharsMs := systemTimerGetMs now }) = d at hdrained ⊢
  have h₀ := hk.grows _ _ hdrained (hk.interruptPoint hdrained now (irq 0))
  rw [if_pos (Or.inl (hk.mode _ h₀))]
  exact hk.updateWire h₀ now irq

/-! ### The tick -/

/-- Calling back with or without a timeout, the latter after a response. -/
theorem MasterInv.report (h : MasterInv r) (hw : AwaitsResponse q older r)
    (hwire : r.stateWire ≠ .tx) (c : RS485ModbusCommonErrorCounters) (timedOut : Bool)
    (length : ℕ) (ha : timedOut = false → Accepted q.request length r) :
    MasterInv { r with
      errorCounters := c
      requestCbInvoke := true
      masterRequestTimedOut := timedOut
      acceptedLength := length } := by
  refine ⟨h.mode, ⟨h.rx.linear, h.rx.start⟩, h.rxSize, h.last, h.tx, h.txSize, h.level,
    Or.inr ⟨q, older, hw.state, hw.requests, ⟨hw.onWire.linear, hw.onWire.length,
      hw.onWire.frame, hw.onWire.sent, hw.onWire.level⟩, hw.busFree, hw.slave, hw.complete,
      fun htx => absurd htx hwire, hw.sent, fun _ ht => ?_⟩⟩
  exact (ha ht).of_ring rfl

theorem RS485.Listens.not_sending (h : r.Listens) : r.stateWire ≠ .tx := by
  rw [h.2]
  decide

/-- From `rx` or `tx` back to `idle`. -/
theorem MasterInv.toIdle (h : MasterInv r) (hw : AwaitsResponse q older r)
    (hfinished : r.TxFinished) :
    MasterInv { r with txDone := false, stateWire := .idle } := by
  refine ⟨h.mode, ⟨h.rx.linear, h.rx.start⟩, h.rxSize, h.last, h.tx, h.txSize, h.level,
    Or.inr ⟨q, older, hw.state, hw.requests, ⟨hw.onWire.linear, hw.onWire.length,
      hw.onWire.frame, hw.onWire.sent, hw.onWire.level⟩, hw.busFree, hw.slave, hw.complete,
      fun htx => ?_, fun _ => ⟨rfl, hfinished⟩, fun hcb ht => ?_⟩⟩
  · cases htx
  · exact (hw.accepted hcb ht).of_ring rfl

theorem MasterInv.grown (h : MasterInv r) (hlistens : r.Listens) : MasterInv { r with
    stateWire := .rx
    rxRbLastLength := ringbufferGetUsed r.ringbufferRx } := by
  obtain ⟨q, older, hw⟩ := h.awaits hlistens.1
  refine ⟨h.mode, ⟨h.rx.linear, h.rx.start⟩, h.rxSize, ?_, h.tx, h.txSize, h.level,
    Or.inr ⟨q, older, hw.state, hw.requests, ⟨hw.onWire.linear, hw.onWire.length,
      hw.onWire.frame, hw.onWire.sent, hw.onWire.level⟩, hw.busFree, hw.slave, hw.complete,
      fun htx => ?_, fun _ => hw.sent hlistens.not_sending, fun hcb ht => ?_⟩⟩
  · show ringbufferGetUsed r.ringbufferRx ≤ r.ringbufferRx.end
    rw [h.rx.used]
  · cases htx
  · exact (hw.accepted hcb ht).of_ring rfl

theorem MasterInv.quiet (h : MasterInv r) (hrx : r.stateWire = .rx) :
    MasterInv { r with stateWire := .idle } := by
  rcases h.phase with hidle | ⟨q, older, hw⟩
  · rw [hidle.wire] at hrx
    cases hrx
  · have hsent := hw.sent (by rw [hrx]; decide)
    have hdone : { r with stateWire := .idle } =
        { r with txDone := false, stateWire := .idle } := by rw [← hsent.1]
    rw [hdone]
    exact h.toIdle hw hsent.2

theorem MasterInv.sent (h : MasterInv r) (htx : r.stateWire = .tx) (hdone : r.txDone = true) :
    MasterInv { r with
      txDone := false
      stateWire := .idle
      requestCbInvoke := if r.txFrame 0 = 0 then true else r.requestCbInvoke } := by
  rcases h.phase with hidle | ⟨q, older, hw⟩
  · rw [hidle.txDone] at hdone
    cases hdone
  · -- no broadcast: the slave address in the TX frame is not 0
    have hslave : r.txFrame 0 ≠ 0 := fun hzero => hw.slave (hw.txFrame.1.symm.trans hzero)
    rw [if_neg hslave]
    exact h.toIdle hw ((hw.sending htx).2 hdone)

theorem masterInv_tickKept : TickKept MasterInv where
  mode _ h := h.mode
  rx _ h := h.rx
  last _ h := h.last
  grows _ _ h hg := h.grows hg
  timedOut r h hlistens count := by
    obtain ⟨q, older, hw⟩ := h.awaits hlistens.1
    exact h.report hw hlistens.not_sending _ _ r.acceptedLength fun ht => by cases ht
  accepted r h hlistens hchecks := by
    obtain ⟨q, older, hw⟩ := h.awaits hlistens.1
    obtain ⟨htx0, htx1⟩ := hw.txFrame
    exact h.report hw hlistens.not_sending _ _ _ fun ht =>
      (hchecks ht).accepted h.rx h.last htx0 htx1
  grown _ h hlistens := h.grown hlistens
  quiet _ h hrx := h.quiet hrx
  sent _ h htx hdone := h.sent htx hdone

theorem MasterInv.interruptPoint (h : MasterInv r) (now : ℕ) (i : Interrupt) :
    RxGrows (fun _ => True) r (interruptPoint now i r) :=
  masterInv_tickKept.interruptPoint h now i

theorem MasterInv.tick (h : MasterInv r) (now : ℕ) (irq : Interrupts) :
    MasterInv (rs485Tick now irq r) :=
  masterInv_tickKept.tick h now irq

/-! ### The other events -/

theorem MasterInv.txIrq (h : MasterInv r) (hevent : r.txEvent = true) :
    MasterInv (rs485TxIrqHandler r) := by
  rcases h.phase with hidle | ⟨q, older, hw⟩
  · rw [hidle.txEvent] at hevent
    cases hevent
  · -- with the interrupt on, the frame is still going out
    have hwire : r.stateWire = .tx := by
      by_contra hne
      have hoff := (hw.sent hne).2.2
      rw [hevent] at hoff
      cases hoff
    obtain ⟨hcb, hdone⟩ := hw.sending hwire
    obtain ⟨⟨start, level, event, done, sent, hf, ho⟩, -, hflags⟩ :=
      txMoves_txIrq hw.requests hw.onWire
    generalize rs485TxIrqHandler r = t at hf ho hflags ⊢
    subst hf
    refine ⟨h.mode, ⟨h.rx.linear, h.rx.start⟩, h.rxSize, h.last, ho.linear, h.txSize, ho.level,
      Or.inr ⟨q.withSent sent, older, hw.state, ?_, ho, hw.busFree, hw.slave, hw.complete,
        fun _ => ⟨hcb, fun hd => ?_⟩, fun hne => absurd hwire hne, fun hcb' => ?_⟩⟩
    · show q.withSent sent :: r.requests.tail = _
      rw [hw.requests, List.tail_cons]
    · rcases hflags with ⟨hsame, -, -⟩ | ⟨-, hfinished, -⟩
      · have hoff := (hdone (hsame.symm.trans hd)).2
        rw [hevent] at hoff
        cases hoff
      · exact hfinished
    · have hcb'' : r.requestCbInvoke = true := hcb'
      rw [hcb] at hcb''
      cases hcb''

theorem MasterInv.txShift (h : MasterInv r) : MasterInv (rs485TxShift r) := by
  have hlevel : r.txFifoLevel - 1 ≤ r.txFifoSize := (Nat.sub_le _ _).trans h.level
  refine ⟨h.mode, ⟨h.rx.linear, h.rx.start⟩, h.rxSize, h.last, h.tx, h.txSize, hlevel, ?_⟩
  rcases h.phase with hidle | ⟨q, older, hw⟩
  · exact Or.inl ⟨hidle.state, hidle.wire, hidle.txDone, hidle.txEvent, hidle.txStart,
      hidle.txEnd, hidle.cbInvoke, hidle.timedOut, hidle.complete⟩
  · refine Or.inr ⟨q, older, hw.state, hw.requests, ⟨hw.onWire.linear, hw.onWire.length,
      hw.onWire.frame, hw.onWire.sent, hlevel⟩, hw.busFree, hw.slave, hw.complete, hw.sending,
      hw.sent, fun hcb ht => ?_⟩
    exact (hw.accepted hcb ht).of_ring rfl

theorem MasterInv.counters (h : MasterInv r) (c : RS485ModbusCommonErrorCounters) :
    MasterInv { r with errorCounters := c } := by
  refine ⟨h.mode, ⟨h.rx.linear, h.rx.start⟩, h.rxSize, h.last, h.tx, h.txSize, h.level, ?_⟩
  rcases h.phase with hidle | ⟨q, older, hw⟩
  · exact Or.inl ⟨hidle.state, hidle.wire, hidle.txDone, hidle.txEvent, hidle.txStart,
      hidle.txEnd, hidle.cbInvoke, hidle.timedOut, hidle.complete⟩
  · refine Or.inr ⟨q, older, hw.state, hw.requests, ⟨hw.onWire.linear, hw.onWire.length,
      hw.onWire.frame, hw.onWire.sent, hw.onWire.level⟩, hw.busFree, hw.slave, hw.complete,
      hw.sending, hw.sent, fun hcb ht => ?_⟩
    exact (hw.accepted hcb ht).of_ring rfl

/-- On a free bus the master is idle. -/
theorem MasterInv.busIdle (h : MasterInv r) (hs : r.requestState = .ready) : BusIdle r := by
  rcases h.phase with hidle | ⟨q, older, hw⟩
  · exact hidle
  · rw [hw.state] at hs
    cases hs

theorem MasterInv.request (h : MasterInv r) (now : ℕ) {q : MeterRequest} (hc : r.CanIssue q) :
    MasterInv (meterIssue now q r) := by
  have hfree := hc.1
  have hready : r.requestState = .ready := by
    simp only [RS485.busFree, Bool.and_eq_true, beq_iff_eq] at hfree
    exact hfree.1.1
  have hidle := h.busIdle hready
  obtain ⟨⟨start, buffer, level, event, done, id, sent, hf, ho⟩, hfinished⟩ :=
    issued_meterIssue now h.mode h.tx h.level hidle.txDone hc
  generalize meterIssue now q r = t at hf ho hfinished ⊢
  subst hf
  refine ⟨h.mode, ⟨h.rx.linear, h.rx.start⟩, h.rxSize, h.last, ho.linear, h.txSize, ho.level,
    Or.inr ⟨_, r.requests, rfl, rfl, ho, hfree, hc.2.1, hidle.complete,
      fun _ => ⟨rfl, hfinished⟩, fun hne => absurd rfl hne, fun hcb => ?_⟩⟩
  cases hcb

theorem MasterInv.clear (h : MasterInv r) (hc : r.CanClear) :
    MasterInv (modbusClearRequest r) := by
  -- both rings are made anew
  have hrx : (modbusClearRequest r).RxLinear := by
    refine ⟨linear_ringbufferInit ?_ ?_, rfl⟩
    · rw [← h.rxSize]
      exact (Nat.zero_le _).trans_lt h.rx.linear.end_lt
    · rw [← h.rxSize]
      exact h.rx.linear.buffer_length
  have htx : (modbusClearRequest r).ringbufferTx.Linear := by
    apply linear_ringbufferInit
    · rw [← h.txSize]
      exact (Nat.zero_le _).trans_lt h.tx.end_lt
    · rw [← h.txSize]
      exact h.tx.buffer_length
  refine ⟨h.mode, hrx, rfl, Nat.le_refl 0, htx, rfl, h.level, Or.inl ?_⟩
  rcases h.phase with hidle | ⟨q, older, hw⟩
  · exact ⟨rfl, rfl, hidle.txDone, hidle.txEvent, rfl, rfl, rfl, rfl, hidle.complete⟩
  · have hcb : r.requestCbInvoke = true := by
      rcases hc with hready | hcb
      · rw [hw.state] at hready
        cases hready
      · exact hcb
    -- a request that has been answered is not on the wire any more
    have hwire : r.stateWire ≠ .tx := by
      intro htx
      rw [(hw.sending htx).1] at hcb
      cases hcb
    obtain ⟨hdone, -, hevent⟩ := hw.sent hwire
    refine ⟨rfl, rfl, hdone, hevent, rfl, rfl, rfl, rfl, fun p hp => ?_⟩
    have hp' : p ∈ q :: older := hw.requests ▸ hp
    rcases List.mem_cons.mp hp' with rfl | hp'
    · exact ⟨hw.busFree, hw.sent_eq hwire⟩
    · exact hw.complete p hp'

/-! ### Runs -/

theorem MasterInv.step (h : MasterInv r) {e : MasterEvent} (hstep : masterStep r e = some r') :
    MasterInv r' := by
  cases e with
  | receive value answers =>
    obtain rfl := Option.some.inj hstep
    exact h.grows (rxGrows_receive (P := fun _ => True) h.rx trivial)
  | rxIrq now =>
    obtain rfl := Option.some.inj hstep
    exact h.grows (rxGrows_rxIrq (fun _ => True) h.rx now)
  | txIrq =>
    obtain ⟨hevent, ht⟩ := Option.ite_none_right_eq_some.mp hstep
    obtain rfl := Option.some.inj ht
    exact h.txIrq hevent
  | txShift =>
    obtain rfl := Option.some.inj hstep
    exact h.txShift
  | tick now irq =>
    obtain rfl := Option.some.inj hstep
    exact h.tick now irq
  | request now q =>
    obtain ⟨hc, ht⟩ := Option.ite_none_right_eq_some.mp hstep
    obtain rfl := Option.some.inj ht
    exact h.request now hc
  | clear =>
    obtain ⟨hc, ht⟩ := Option.ite_none_right_eq_some.mp hstep
    obtain rfl := Option.some.inj ht
    exact h.clear hc
  | counters c =>
    obtain rfl := Option.some.inj hstep
    exact h.counters c

theorem masterInv_rs485Init {bufferSize : ℕ} (h : 2 ≤ bufferSize) (txFifoSize now : ℕ) :
    MasterInv (rs485Init bufferSize txFifoSize now) := by
  have hrx : (rs485Init bufferSize txFifoSize now).RxLinear := by
    refine ⟨linear_ringbufferInit ?_ List.length_replicate, rfl⟩
    show 0 < bufferSize / 2
    omega
  have htx : (rs485Init bufferSize txFifoSize now).ringbufferTx.Linear := by
    refine linear_ringbufferInit ?_ List.length_replicate
    show 0 < bufferSize - bufferSize / 2
    omega
  refine ⟨rfl, hrx, rfl, Nat.le_refl 0, htx, rfl, Nat.zero_le _,
    Or.inl ⟨rfl, rfl, rfl, rfl, rfl, rfl, rfl, rfl, fun q hq => ?_⟩⟩
  cases hq

/-- The invariant holds at the end of every run. -/
theorem masterInv_run {bufferSize : ℕ} (h : 2 ≤ bufferSize) {txFifoSize start : ℕ}
    {events : List MasterEvent}
    (hr : run masterStep (rs485Init bufferSize txFifoSize start) events = some r) :
    MasterInv r :=
  run_induct (P := MasterInv) (fun _ _ _ hinv hstep => hinv.step hstep)
    (masterInv_rs485Init h txFifoSize start) hr

/-! ### Accepted responses are valid -/

/-- In every run of the master, `cb_invoke` without a timeout means that the
first bytes of the RX buffer are a valid response to the newest request. -/
theorem rtu_accepted_valid {bufferSize : ℕ} (h : 2 ≤ bufferSize) {txFifoSize start : ℕ}
    {events : List MasterEvent}
    (hr : run masterStep (rs485Init bufferSize txFifoSize start) events = some r)
    (hcb : r.requestCbInvoke = true) (ht : r.masterRequestTimedOut = false) :
    ∃ q older, r.requests = q :: older ∧ ∃ L, Accepted q.request L r := by
  rcases (masterInv_run h hr).phase with hidle | ⟨q, older, hw⟩
  · rw [hidle.cbInvoke] at hcb
    cases hcb
  · exact ⟨q, older, hw.requests, _, hw.accepted hcb ht⟩

/-- A voltage is read from slave 1, which answers at once. -/
def readVoltageRun : List MasterEvent :=
  .request 0 (.readRegisters modbusFcReadInputRegisters 1 1 2) :: .tick 1 noInterrupts ::
    [1, 4, 4, 67, 102, 0, 0, 14, 31].map (fun value => .receive value (some 1)) ++
    [.rxIrq 10, .tick 11 noInterrupts, .tick 16 noInterrupts, .tick 17 noInterrupts]

theorem rtu_accepted_valid_voltage :
    ∃ q older, (after masterStep (rs485Init 64 16 0) readVoltageRun).requests = q :: older ∧
      ∃ L, Accepted q.request L (after masterStep (rs485Init 64 16 0) readVoltageRun) :=
  rtu_accepted_valid (by decide) (run_eq_after (by decide +kernel)) (by decide +kernel)
    (by decide +kernel)

end Bricklib2
