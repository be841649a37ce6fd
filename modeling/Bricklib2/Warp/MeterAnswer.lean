/-
Bricklib2/Warp/MeterAnswer.lean

The frame behind a response, in runs in which modules outside the meter code use the bus
as well.  They may call the bus functions in any order, so nothing can be said about a
request that was started while the bus was not free.  For a request that was, `AnswerInv`
keeps what the checks of the RTU master have seen until the response is taken.

Main result: `AnswerInv.answersRead`, a response that has not failed and whose frame fits
the request is the answer of the slave, checksum included.
-/
import Bricklib2.Warp.Freshness
import Bricklib2.Warp.MeterResponse

namespace Bricklib2

open Machine

variable {F : Type} {r r' : RS485} {q : MeterRequest} {count : ℕ}

/-! ### Answers -/

/-- The bytes are the answer of `slave` to a read of `count` registers with function code
`fc`: a whole frame with its byte count and its checksum. -/
structure AnswersRead (fc slave : UInt8) (count : ℕ) (bytes : List UInt8) : Prop where
  length : bytes.length = 2 * count + 5
  checksum : frameChecksumOk bytes = true
  slave : bytes[0]? = some slave
  fc : bytes[1]? = some fc
  byteCount : bytes[2]?.map UInt8.toNat = some (2 * count)

theorem answersRead_iff {fc slave : UInt8} {bytes : List UInt8} :
    AnswersRead fc slave count bytes ↔ bytes.length = 2 * count + 5 ∧
      frameChecksumOk bytes = true ∧ bytes[0]? = some slave ∧ bytes[1]? = some fc ∧
      bytes[2]?.map UInt8.toNat = some (2 * count) :=
  ⟨fun h => ⟨h.length, h.checksum, h.slave, h.fc, h.byteCount⟩,
    fun h => ⟨h.1, h.2.1, h.2.2.1, h.2.2.2.1, h.2.2.2.2⟩⟩

instance (fc slave : UInt8) (bytes : List UInt8) : Decidable (AnswersRead fc slave count bytes) :=
  decidable_of_iff _ answersRead_iff.symm

/-- The frame of the response that is taken now. -/
def RS485.takenFrame (r : RS485) : List RxByte := r.ringbufferRx.buffer.take r.acceptedLength

/-- As long as it has been received, this is the accepted frame. -/
theorem takenFrame_values (h : r.acceptedLength ≤ r.ringbufferRx.end) :
    r.takenFrame.map RxByte.value = r.rxBytes r.acceptedLength := by
  rw [RS485.takenFrame, RS485.rxBytes, RS485.rxContent, List.take_take, Nat.min_eq_left h]

theorem Accepted.length_rxBytes {L : ℕ} (h : Accepted q L r) (hrx : r.RxLinear) :
    (r.rxBytes L).length = L := by
  rw [RS485.rxBytes, List.length_map, List.length_take_of_le]
  rw [hrx.length_rxContent]
  exact h.received

/-- An accepted frame is the answer to the request if it fits it. -/
theorem Accepted.answersRead_iff (h : Accepted q r.acceptedLength r) (hrx : r.RxLinear)
    (htx : r.txFrame 1 = q.fc) (hplain : r.responseIsException = false) :
    AnswersRead q.fc q.slaveAddress count (r.takenFrame.map RxByte.value) ↔ r.Fits count := by
  rw [takenFrame_values h.received]
  have hreceived := h.received
  have htwo := h.two_le
  have hbyte (hlength : r.acceptedLength = 2 * count + 5) :
      (r.rxBytes r.acceptedLength)[2]? = some (r.rxFrame 2) :=
    rxFrame_eq hrx (by omega) (by omega)
  constructor
  · intro hanswer
    have hlength : r.acceptedLength = 2 * count + 5 :=
      (h.length_rxBytes hrx).symm.trans hanswer.length
    have hcount := hanswer.byteCount
    rw [hbyte hlength] at hcount
    exact ⟨hlength, Option.some.inj hcount⟩
  · intro hfits
    refine ⟨by rw [h.length_rxBytes hrx, hfits.length], h.checksum, h.slave,
      h.plain hrx htx hplain, ?_⟩
    rw [hbyte hfits.length]
    exact congrArg some hfits.byteCount

/-! ### The transmit ring -/

theorem storeTx_ring (data : List UInt8) (r : RS485) :
    (modbusStoreTxFrameDataBytes data r).ringbufferTx.size = r.ringbufferTx.size ∧
      (modbusStoreTxFrameDataBytes data r).ringbufferTx.buffer.length =
        r.ringbufferTx.buffer.length := by
  induction data generalizing r with
  | nil => exact ⟨rfl, rfl⟩
  | cons byte data ih =>
    have hadd : (ringbufferTxAdd r byte).ringbufferTx.size = r.ringbufferTx.size ∧
        (ringbufferTxAdd r byte).ringbufferTx.buffer.length = r.ringbufferTx.buffer.length := by
      simp only [ringbufferTxAdd, ringbufferAdd]
      generalize (if r.ringbufferTx.size ≤ r.ringbufferTx.end + 1 then 0
        else r.ringbufferTx.end + 1) = next
      split <;> exact ⟨rfl, List.length_set⟩
    obtain ⟨hsize, hlength⟩ := ih (ringbufferTxAdd r byte)
    exact ⟨hsize.trans hadd.1, hlength.trans hadd.2⟩

/-- Taking bytes out of the ring leaves its cells as they are. -/
theorem txLoop_ring (free : ℕ) (r : RS485) :
    (rs485TxLoop free r).ringbufferTx.size = r.ringbufferTx.size ∧
      (rs485TxLoop free r).ringbufferTx.buffer = r.ringbufferTx.buffer := by
  induction free generalizing r with
  | zero => exact ⟨rfl, rfl⟩
  | succ free ih =>
    simp only [rs485TxLoop]
    split
    · exact ⟨rfl, rfl⟩
    · rename_i data tx hget
      have htx : tx.size = r.ringbufferTx.size ∧ tx.buffer = r.ringbufferTx.buffer := by
        unfold ringbufferGet at hget
        split at hget
        · cases hget
        · obtain ⟨-, rfl⟩ := Prod.mk.inj (Option.some.inj hget)
          exact ⟨rfl, rfl⟩
      have hlog : (RS485.logSent data { r with
          ringbufferTx := tx, txFifoLevel := r.txFifoLevel + 1 }).ringbufferTx = tx := by
        unfold RS485.logSent
        split <;> rfl
      have hrest := ih (RS485.logSent data { r with
        ringbufferTx := tx, txFifoLevel := r.txFifoLevel + 1 })
      rw [hlog] at hrest
      exact ⟨hrest.1.trans htx.1, hrest.2.trans htx.2⟩

/-- The ring that a request is stored in, and what is in front if it was fresh. -/
theorem meterIssue_ring (now : ℕ) (q : MeterRequest) (r : RS485) :
    (meterIssue now q r).ringbufferTx.size = r.ringbufferTx.size ∧
      (meterIssue now q r).ringbufferTx.buffer.length = r.ringbufferTx.buffer.length ∧
      (r.busFree = true → r.ringbufferTx.buffer.length = r.ringbufferTx.size →
        q.frame.length < r.ringbufferTx.size →
        (meterIssue now q r).ringbufferTx.buffer.take q.frame.length = q.frame) := by
  let summed := modbusAddTxFrameChecksum (modbusStoreTxFrameDataBytes q.payload r)
  have hstart (t : RS485) : (modbusStartTxFromBuffer t).ringbufferTx.size = t.ringbufferTx.size ∧
      (modbusStartTxFromBuffer t).ringbufferTx.buffer = t.ringbufferTx.buffer :=
    txLoop_ring _ { t with stateWire := .tx, txEvent := true }
  have hissue : (meterIssue now q r).ringbufferTx.size = summed.ringbufferTx.size ∧
      (meterIssue now q r).ringbufferTx.buffer = summed.ringbufferTx.buffer := by
    rw [meterIssue_eq, modbusStartTx, (hstart _).1, (hstart _).1, (hstart _).2, (hstart _).2]
    exact ⟨rfl, rfl⟩
  have hpayload := storeTx_ring q.payload r
  have hsum := storeTx_ring
    [crcLow (crc16Modbus ((modbusStoreTxFrameDataBytes q.payload r).ringbufferTx.buffer.take
        (ringbufferGetUsed (modbusStoreTxFrameDataBytes q.payload r).ringbufferTx))),
      crcHigh (crc16Modbus ((modbusStoreTxFrameDataBytes q.payload r).ringbufferTx.buffer.take
        (ringbufferGetUsed (modbusStoreTxFrameDataBytes q.payload r).ringbufferTx)))]
    (modbusStoreTxFrameDataBytes q.payload r)
  refine ⟨hissue.1.trans (hsum.1.trans hpayload.1), ?_, fun hfree hlength hroom => ?_⟩
  · rw [hissue.2]
    exact hsum.2.trans hpayload.2
  · simp only [RS485.busFree, Bool.and_eq_true, beq_iff_eq] at hfree
    obtain ⟨⟨-, hstart⟩, hend⟩ := hfree
    have hlinear : r.ringbufferTx.Linear := by
      refine ⟨?_, ?_, hlength⟩
      · rw [hstart]
        exact Nat.zero_le _
      · rw [hend]
        exact (Nat.zero_le _).trans_lt hroom
    obtain ⟨buffer, heq, -, htake⟩ := modbusAddTxFrameChecksum_payload q hlinear hstart hend hroom
    rw [hissue.2]
    show summed.ringbufferTx.buffer.take q.frame.length = q.frame
    rw [show summed = _ from heq]
    exact htake

theorem txFrame_of_take {frame : List UInt8}
    (h : r.ringbufferTx.buffer.take frame.length = frame) {i : ℕ} (hi : i < frame.length) :
    r.txFrame i = frame.getD i 0 := by
  rw [RS485.txFrame, List.getD_eq_getElem?_getD, List.getD_eq_getElem?_getD]
  conv_rhs => rw [← h]
  rw [List.getElem?_take_of_lt hi]

/-! ### The invariant -/

/-- The request was put on a free bus. -/
structure IssuedRequest.Clean (q : IssuedRequest) : Prop where
  busFree : q.busFree = true
  sendable : q.request.Sendable

/-- The header of the request is in the TX frame, and a response that is reported without
a timeout has been accepted. -/
structure Answering (q : MeterRequest) (r : RS485) : Prop where
  slave : r.txFrame 0 = q.slaveAddress
  fc : r.txFrame 1 = q.fc
  sending : r.stateWire = .tx → r.requestCbInvoke = false
  accepted : r.requestCbInvoke = true → r.masterRequestTimedOut = false →
    Accepted q r.acceptedLength r

/-- The invariant of the frames, whoever calls the bus functions. -/
structure AnswerInv (r : RS485) : Prop where
  mode : r.mode = .modbusMasterRtu
  rx : r.RxLinear
  rxSize : r.ringbufferRx.size = r.bufferSizeRx
  last : r.rxRbLastLength ≤ r.ringbufferRx.end
  txLength : r.ringbufferTx.buffer.length = r.ringbufferTx.size
  txSize : r.ringbufferTx.size = r.bufferSize - r.bufferSizeRx
  room : 13 < r.bufferSize - r.bufferSizeRx
  sending : r.stateWire = .tx → r.requestState = .masterWaitingResponse
  called : r.requestCbInvoke = true → r.requestState = .masterWaitingResponse
  answer : r.requestState = .masterWaitingResponse →
    ∀ q ∈ r.requests.head?, q.Clean → Answering q.request r

theorem AnswerInv.grows {P : RxByte → Prop} (h : AnswerInv r) (hg : RxGrows P r r') :
    AnswerInv r' := by
  have hend := hg.end_le h.rx
  have haccept : ∀ request L, Accepted request L r → Accepted request L r' :=
    fun request L ha => ha.grows h.rx hg
  have hlinear := hg.linear
  rw [hg.frame] at hend haccept hlinear ⊢
  refine ⟨h.mode, hlinear, h.rxSize, h.last.trans hend, h.txLength, h.txSize, h.room, h.sending,
    h.called, fun hs q hq hclean => ?_⟩
  have hw := h.answer hs q hq hclean
  exact ⟨hw.slave, hw.fc, hw.sending, fun hcb ht => haccept _ _ (hw.accepted hcb ht)⟩

/-- The timeout or the three checks report an outcome. -/
theorem AnswerInv.report (h : AnswerInv r) (hlistens : r.Listens)
    (c : RS485ModbusCommonErrorCounters) (timedOut : Bool) (length : ℕ)
    (ha : timedOut = false → ∀ q : MeterRequest, r.txFrame 0 = q.slaveAddress →
      r.txFrame 1 = q.fc → Accepted q length r) :
    AnswerInv { r with
      errorCounters := c
      requestCbInvoke := true
      masterRequestTimedOut := timedOut
      acceptedLength := length } := by
  refine ⟨h.mode, ⟨h.rx.linear, h.rx.start⟩, h.rxSize, h.last, h.txLength, h.txSize, h.room,
    h.sending, fun _ => hlistens.1, fun hs q hq hclean => ?_⟩
  have hw := h.answer hs q hq hclean
  refine ⟨hw.slave, hw.fc, fun htx => absurd htx hlistens.not_sending, fun _ ht => ?_⟩
  exact (ha ht q.request hw.slave hw.fc).of_ring rfl

theorem answerInv_tickKept : TickKept AnswerInv where
  mode _ h := h.mode
  rx _ h := h.rx
  last _ h := h.last
  grows _ _ h hg := h.grows hg
  timedOut r h hlistens count := h.report hlistens _ _ r.acceptedLength fun ht => by cases ht
  accepted r h hlistens hchecks := h.report hlistens r.errorCounters r.masterRequestTimedOut _
    fun ht _ htx0 htx1 => (hchecks ht).accepted h.rx h.last htx0 htx1
  grown r h hlistens := by
    refine ⟨h.mode, ⟨h.rx.linear, h.rx.start⟩, h.rxSize, h.rx.used.le, h.txLength, h.txSize,
      h.room, fun htx => ?_, h.called, fun hs q hq hclean => ?_⟩
    · cases htx
    · have hw := h.answer hs q hq hclean
      refine ⟨hw.slave, hw.fc, fun htx => ?_, fun hcb ht => (hw.accepted hcb ht).of_ring rfl⟩
      cases htx
  quiet r h hrx := by
    refine ⟨h.mode, ⟨h.rx.linear, h.rx.start⟩, h.rxSize, h.last, h.txLength, h.txSize, h.room,
      fun htx => ?_, h.called, fun hs q hq hclean => ?_⟩
    · cases htx
    · have hw := h.answer hs q hq hclean
      refine ⟨hw.slave, hw.fc, fun htx => ?_, fun hcb ht => (hw.accepted hcb ht).of_ring rfl⟩
      cases htx
  sent r h htx hdone := by
    refine ⟨h.mode, ⟨h.rx.linear, h.rx.start⟩, h.rxSize, h.last, h.txLength, h.txSize, h.room,
      fun htx' => ?_, fun _ => h.sending htx, fun hs q hq hclean => ?_⟩
    · cases htx'
    · have hw := h.answer hs q hq hclean
      -- a broadcast is not sendable, so nothing is reported yet
      have hslave : r.txFrame 0 ≠ 0 := fun hzero =>
        hclean.sendable.slave (hw.slave.symm.trans hzero)
      have hcalled : (if r.txFrame 0 = 0 then true else r.requestCbInvoke) = false := by
        rw [if_neg hslave]
        exact hw.sending htx
      refine ⟨hw.slave, hw.fc, fun _ => hcalled, fun hcb => ?_⟩
      exact absurd (hcalled.symm.trans hcb) Bool.false_ne_true

/-! ### Calls and steps -/

theorem AnswerInv.issue (h : AnswerInv r) (now : ℕ) (q : MeterRequest) :
    AnswerInv (meterIssue now q r) := by
  obtain ⟨hsize, hlength, hfresh⟩ := meterIssue_ring now q r
  obtain ⟨ring, id, length, time, level, event, done, sent, heq⟩ := meterIssue_rx now q h.mode
  rw [heq] at hsize hlength hfresh ⊢
  refine ⟨h.mode, ⟨h.rx.linear, h.rx.start⟩, h.rxSize, h.last, ?_, hsize.trans h.txSize, h.room,
    fun _ => rfl, fun _ => rfl, fun _ p hp hclean => ?_⟩
  · exact (hlength.trans h.txLength).trans hsize.symm
  · obtain rfl := Option.some.inj hp
    have hroom : q.frame.length < r.ringbufferTx.size := by
      rw [h.txSize]
      exact hclean.sendable.length.trans_lt h.room
    have htake := hfresh hclean.busFree h.txLength hroom
    have hlong : 2 ≤ q.frame.length := by
      simp only [MeterRequest.frame, MeterRequest.payload, List.length_append, List.length_cons]
      omega
    refine ⟨txFrame_of_take htake (by omega), txFrame_of_take htake (by omega), fun _ => rfl,
      fun hcb => ?_⟩
    cases hcb

theorem AnswerInv.clear (h : AnswerInv r) : AnswerInv (modbusClearRequest r) := by
  have hpos : 0 < r.bufferSizeRx := by
    rw [← h.rxSize]
    exact (Nat.zero_le _).trans_lt h.rx.linear.end_lt
  have hlength : r.ringbufferRx.buffer.length = r.bufferSizeRx := by
    rw [h.rx.linear.buffer_length, h.rxSize]
  refine ⟨h.mode, ⟨linear_ringbufferInit hpos hlength, rfl⟩, rfl, le_refl 0,
    h.txLength.trans h.txSize, rfl, h.room, fun htx => ?_, fun hcb => ?_, fun hs => ?_⟩
  · cases htx
  · cases hcb
  · cases hs

/-- Calls of the bus functions keep the invariant, in whatever order. -/
theorem AnswerInv.calls (h : AnswerInv r) (hcalls : BusCalls r r') : AnswerInv r' := by
  apply hcalls.induct (P := AnswerInv)
  · intro r c h
    refine ⟨h.mode, ⟨h.rx.linear, h.rx.start⟩, h.rxSize, h.last, h.txLength, h.txSize, h.room,
      h.sending, h.called, fun hs q hq hclean => ?_⟩
    have hw := h.answer hs q hq hclean
    exact ⟨hw.slave, hw.fc, hw.sending, fun hcb ht => (hw.accepted hcb ht).of_ring rfl⟩
  · intro r now q h
    exact h.issue now q
  · intro r h
    exact h.clear
  · exact h

/-- The transmit interrupt takes bytes of the newest request, or finds the ring empty. -/
theorem AnswerInv.txLoop (h : AnswerInv r) (free : ℕ) : AnswerInv (rs485TxLoop free r) := by
  obtain ⟨hsize, hbuffer⟩ := txLoop_ring free r
  have hframe : ∃ ring level event done requests, rs485TxLoop free r = { r with
      ringbufferTx := ring
      txFifoLevel := level
      txEvent := event
      txDone := done
      requests := requests } ∧ ∀ q ∈ requests.head?, ∃ q₀ ∈ r.requests.head?,
        q.request = q₀.request ∧ q.busFree = q₀.busFree := by
    cases hrequests : r.requests with
    | nil =>
      obtain ⟨ring, level, event, done, heq⟩ := txLoop_eq_nil free hrequests
      exact ⟨ring, level, event, done, r.requests, heq, fun q hq => by
        rw [hrequests] at hq
        cases hq⟩
    | cons q older =>
      obtain ⟨ring, level, event, done, sent, heq⟩ := txLoop_eq free hrequests
      refine ⟨ring, level, event, done, _, heq, fun p hp => ⟨q, rfl, ?_⟩⟩
      obtain rfl := Option.some.inj hp
      exact ⟨rfl, rfl⟩
  obtain ⟨ring, level, event, done, requests, heq, hrequests⟩ := hframe
  rw [heq] at hsize hbuffer ⊢
  refine ⟨h.mode, ⟨h.rx.linear, h.rx.start⟩, h.rxSize, h.last, ?_, hsize.trans h.txSize, h.room,
    h.sending, h.called, fun hs q hq hclean => ?_⟩
  · show ring.buffer.length = ring.size
    rw [show ring.buffer = _ from hbuffer, show ring.size = _ from hsize]
    exact h.txLength
  · obtain ⟨q₀, hq₀, hrequest, hfree⟩ := hrequests q hq
    have hw := h.answer hs q₀ hq₀ ⟨hfree ▸ hclean.busFree, hrequest ▸ hclean.sendable⟩
    rw [hrequest]
    have hsame (i : ℕ) : ring.buffer.getD i 0 = r.txFrame i :=
      congrArg (fun buffer => buffer.getD i 0) hbuffer
    exact ⟨(hsame 0).trans hw.slave, (hsame 1).trans hw.fc, hw.sending,
      fun hcb ht => (hw.accepted hcb ht).of_ring rfl⟩

theorem AnswerInv.step [CFloat F] {s s' : Stack F} {e : StackEvent} (h : AnswerInv s.rs485)
    (hexternal : e.ExternalsUseBus) (hstep : stackStep s e = some s') : AnswerInv s'.rs485 := by
  cases e with
  | receive value answers =>
    obtain rfl := Option.some.inj hstep
    exact h.grows (rxGrows_receive (P := fun _ => True) h.rx trivial)
  | rxIrq now =>
    obtain rfl := Option.some.inj hstep
    exact h.grows (rxGrows_rxIrq (fun _ => True) h.rx now)
  | txIrq =>
    simp only [stackStep] at hstep
    split_ifs at hstep
    obtain rfl := Option.some.inj hstep
    exact h.txLoop _
  | txShift =>
    obtain rfl := Option.some.inj hstep
    refine ⟨h.mode, ⟨h.rx.linear, h.rx.start⟩, h.rxSize, h.last, h.txLength, h.txSize, h.room,
      h.sending, h.called, fun hs q hq hclean => ?_⟩
    have hw := h.answer hs q hq hclean
    exact ⟨hw.slave, hw.fc, hw.sending, fun hcb ht => (hw.accepted hcb ht).of_ring rfl⟩
  | rs485Tick now irq =>
    obtain rfl := Option.some.inj hstep
    exact answerInv_tickKept.tick h now irq
  | meterTick env => exact h.calls (meterTick_calls hexternal hstep)

theorem answerInv_init [CFloat F] {bufferSize : ℕ} (h : 13 < bufferSize - bufferSize / 2)
    (txFifoSize now : ℕ) : AnswerInv (stackInit (F := F) bufferSize txFifoSize now).rs485 := by
  have htwo : 2 ≤ bufferSize := by omega
  have hmaster := masterInv_rs485Init htwo txFifoSize now
  refine ⟨rfl, hmaster.rx, rfl, hmaster.last, hmaster.tx.buffer_length, hmaster.txSize, h,
    fun htx => ?_, fun hcb => ?_, fun hs => ?_⟩
  · cases htx
  · cases hcb
  · cases hs

/-! ### Main result -/

/-- The response to a request that found the bus free is the answer of its slave, if it
has not failed and its frame fits. -/
theorem AnswerInv.answersRead (h : AnswerInv r) {issued : IssuedRequest} {fc : UInt8}
    (hissued : r.requests.head? = some issued) (hclean : issued.Clean)
    (hready : meterIsResponseReady fc r = true) (hok : r.responseFailed = false)
    (hfits : r.Fits count) :
    AnswersRead issued.request.fc issued.request.slaveAddress count
      (r.takenFrame.map RxByte.value) := by
  obtain ⟨htimedOut, hplain⟩ := Bool.or_eq_false_iff.mp hok
  have hcb := meterIsResponseReady_cbInvoke hready
  have hw := h.answer (h.called hcb) issued hissued hclean
  exact ((hw.accepted hcb htimedOut).answersRead_iff h.rx hw.fc hplain).mpr hfits

end Bricklib2
