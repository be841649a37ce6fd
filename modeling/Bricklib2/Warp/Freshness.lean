/-
Bricklib2/Warp/Freshness.lean

Whether the bytes of a response have arrived after their request was started.

`modbus_start_tx` does not empty the RX ring.  Only `modbus_clear_request` does,
when the request before is over, and in between bytes may arrive: a driver that
has seen a timeout waits for 500 ms.  What has arrived then is looked at as if it
were the response to the next request.

Main result: `response_fresh`, the bytes are fresh in every run in which the ring
is found empty and no answer comes after the next request has been started.
-/
import Bricklib2.Warp.BusCalls
import Bricklib2.Warp.TickSteps
import Bricklib2.Warp.Transmission

namespace Bricklib2

open Machine

variable {F : Type} {r r' : RS485}

/-! ### The transmit side leaves the RX side alone -/

theorem modbusStoreTxFrameDataBytes_eq (data : List UInt8) (r : RS485) :
    ∃ ring, modbusStoreTxFrameDataBytes data r = { r with ringbufferTx := ring } := by
  induction data generalizing r with
  | nil => exact ⟨r.ringbufferTx, rfl⟩
  | cons b data ih => exact ih (ringbufferTxAdd r b)

/-- The transmit interrupt changes the TX side and the log of the newest request. -/
theorem txLoop_eq (free : ℕ) {q : IssuedRequest} {older : List IssuedRequest}
    (hr : r.requests = q :: older) : ∃ ring level event done sent, rs485TxLoop free r = { r with
      ringbufferTx := ring
      txFifoLevel := level
      txEvent := event
      txDone := done
      requests := q.withSent sent :: older } := by
  have hsame : ∀ (t : RS485) (p : IssuedRequest), t.requests = p :: older →
      t = { t with requests := p.withSent p.sent :: older } := by
    intro t p ht
    rw [IssuedRequest.withSent, ← ht]
  induction free generalizing r q with
  | zero => exact ⟨r.ringbufferTx, r.txFifoLevel, r.txEvent, r.txDone, q.sent, hsame r q hr⟩
  | succ free ih =>
    simp only [rs485TxLoop]
    split
    · rw [hsame r q hr]
      exact ⟨r.ringbufferTx, r.txFifoLevel, false, true, q.sent, rfl⟩
    · rename_i data ring _
      have hlog : (RS485.logSent data { r with
          ringbufferTx := ring, txFifoLevel := r.txFifoLevel + 1 }).requests =
          q.withSent (q.sent ++ [data]) :: older := by
        simp only [RS485.logSent, hr]
        rfl
      obtain ⟨ring', level, event, done, sent, hloop⟩ := ih hlog
      rw [hloop]
      simp only [RS485.logSent, hr]
      exact ⟨ring', level, event, done, sent, rfl⟩

theorem txLoop_eq_nil (free : ℕ) (hr : r.requests = []) : ∃ ring level event done,
    rs485TxLoop free r = { r with
      ringbufferTx := ring
      txFifoLevel := level
      txEvent := event
      txDone := done } := by
  induction free generalizing r with
  | zero => exact ⟨r.ringbufferTx, r.txFifoLevel, r.txEvent, r.txDone, rfl⟩
  | succ free ih =>
    simp only [rs485TxLoop]
    split
    · exact ⟨r.ringbufferTx, r.txFifoLevel, false, true, rfl⟩
    · rename_i data ring _
      have hlog : RS485.logSent data { r with
          ringbufferTx := ring, txFifoLevel := r.txFifoLevel + 1 } =
          { r with ringbufferTx := ring, txFifoLevel := r.txFifoLevel + 1 } := by
        simp only [RS485.logSent, hr]
      obtain ⟨ring', level, event, done, hloop⟩ :=
        ih (r := { r with ringbufferTx := ring, txFifoLevel := r.txFifoLevel + 1 }) hr
      rw [hlog, hloop]
      exact ⟨ring', level, event, done, rfl⟩

/-- Whether or not it is allowed, a request leaves the RX side alone. -/
theorem meterIssue_rx (now : ℕ) (q : MeterRequest) (hm : r.mode = .modbusMasterRtu) :
    ∃ ring id length time level event done sent, meterIssue now q r = { r with
      ringbufferTx := ring
      requestId := id
      requestCbInvoke := false
      requestLength := length
      requestState := .masterWaitingResponse
      timeRefMasterRequestTimeout := time
      stateWire := .tx
      txFifoLevel := level
      txEvent := event
      txDone := done
      requestCount := r.requestCount + 1
      requests := ⟨q, r.busFree, r.leftover, sent⟩ :: r.requests } := by
  obtain ⟨ring, hstored⟩ := modbusStoreTxFrameDataBytes_eq q.payload r
  obtain ⟨ring', hsum⟩ := modbusStoreTxFrameDataBytes_eq
    [crcLow (crc16Modbus (ring.buffer.take (ringbufferGetUsed ring))),
      crcHigh (crc16Modbus (ring.buffer.take (ringbufferGetUsed ring)))]
    { r with ringbufferTx := ring }
  -- the state in which the transmit interrupt is triggered for the first time
  let q₀ : IssuedRequest := ⟨q, r.busFree, r.leftover, []⟩
  let r₁ : RS485 := { r with
    ringbufferTx := ring'
    requestId := if r.requestId = 255 then 1 else r.requestId + 1
    requestCbInvoke := false
    requestLength := q.responseLength
    requestState := .masterWaitingResponse
    timeRefMasterRequestTimeout := systemTimerGetMs now
    stateWire := .tx
    txEvent := true
    requestCount := r.requestCount + 1
    requests := q₀ :: r.requests }
  have hissue : meterIssue now q r = modbusStartTxFromBuffer (rs485TxIrqHandler r₁) := by
    rw [meterIssue_eq, hstored, modbusStartTx, modbusAddTxFrameChecksum, hsum]
    simp only [modbusInitNewRequest, RS485.logRequest, if_pos hm]
    rfl
  obtain ⟨ring₁, level, event, done, sent, hfirst⟩ :=
    txLoop_eq (r₁.txFifoSize - r₁.txFifoLevel) (r := r₁) (q := q₀) rfl
  let r₂ : RS485 := { r₁ with
    ringbufferTx := ring₁
    txFifoLevel := level
    txDone := done
    requests := q₀.withSent sent :: r.requests }
  have hsecond : meterIssue now q r = rs485TxLoop (r₂.txFifoSize - r₂.txFifoLevel) r₂ := by
    rw [hissue, modbusStartTxFromBuffer, rs485TxIrqHandler, rs485TxIrqHandler, hfirst]
  obtain ⟨ring₂, level', event', done', sent', hloop⟩ :=
    txLoop_eq (r₂.txFifoSize - r₂.txFifoLevel) (r := r₂) (q := q₀.withSent sent) rfl
  rw [hsecond, hloop]
  exact ⟨ring₂, _, _, _, level', event', done', sent', rfl⟩

/-! ### The invariant -/

/-- A byte that has arrived after request number `count` was started, and is not a
late answer to an earlier one. -/
def RxByte.Fresh (count : ℕ) (b : RxByte) : Prop :=
  b.request = count ∧ ∀ n, b.answers = some n → n = count

/-- While the master waits for the response to a request that found no bytes left
over, all received bytes are fresh. -/
structure FreshInv (r : RS485) : Prop where
  mode : r.mode = .modbusMasterRtu
  rx : r.RxLinear
  rxSize : r.ringbufferRx.size = r.bufferSizeRx
  sending : r.stateWire = .tx → r.requestState = .masterWaitingResponse
  called : r.requestCbInvoke = true → r.requestState = .masterWaitingResponse
  fresh : r.requestState = .masterWaitingResponse →
    (∀ q ∈ r.requests.head?, q.leftover = false) →
    ∀ b ∈ r.rxContent ++ r.rxFifo, b.Fresh r.requestCount

theorem FreshInv.grows (h : FreshInv r) (hg : RxGrows (RxByte.Fresh r.requestCount) r r') :
    FreshInv r' := by
  have hlinear := hg.linear
  have hnew := hg.new
  rw [hg.frame] at hlinear hnew ⊢
  refine ⟨h.mode, hlinear, h.rxSize, h.sending, h.called, fun hs hclean b hb => ?_⟩
  rcases hnew b hb with hold | hfresh
  · exact h.fresh hs hclean b hold
  · exact hfresh

/-- Nothing left over means that there are no bytes at all. -/
theorem FreshInv.empty (h : FreshInv r) (hleftover : r.leftover = false) :
    r.rxContent ++ r.rxFifo = [] := by
  simp only [RS485.leftover, Bool.not_eq_false', Bool.and_eq_true, List.isEmpty_iff] at hleftover
  obtain ⟨hring, hfifo⟩ := hleftover
  have hend : r.ringbufferRx.start = r.ringbufferRx.end := beq_iff_eq.mp hring
  rw [RS485.rxContent, ← hend, h.rx.start, List.take_zero, hfifo, List.append_nil]

theorem FreshInv.issue (h : FreshInv r) (now : ℕ) (q : MeterRequest) :
    FreshInv (meterIssue now q r) := by
  obtain ⟨ring, id, length, time, level, event, done, sent, heq⟩ := meterIssue_rx now q h.mode
  rw [heq]
  refine ⟨h.mode, ⟨h.rx.linear, h.rx.start⟩, h.rxSize, fun _ => rfl, fun _ => rfl,
    fun _ hclean b hb => ?_⟩
  have hleftover : r.leftover = false := hclean _ rfl
  have hempty := h.empty hleftover
  have hmem : b ∈ r.rxContent ++ r.rxFifo := hb
  rw [hempty] at hmem
  exact absurd hmem List.not_mem_nil

theorem FreshInv.clear (h : FreshInv r) : FreshInv (modbusClearRequest r) := by
  have hpos : 0 < r.bufferSizeRx := by
    rw [← h.rxSize]
    exact (Nat.zero_le _).trans_lt h.rx.linear.end_lt
  have hlength : r.ringbufferRx.buffer.length = r.bufferSizeRx := by
    rw [h.rx.linear.buffer_length, h.rxSize]
  refine ⟨h.mode, ⟨linear_ringbufferInit hpos hlength, rfl⟩, rfl, fun hwire => ?_, fun hcb => ?_,
    fun hs => ?_⟩
  · cases hwire
  · cases hcb
  · cases hs

/-- Calls of the bus functions keep the invariant, in whatever order. -/
theorem FreshInv.calls (h : FreshInv r) (hcalls : BusCalls r r') : FreshInv r' := by
  apply hcalls.induct (P := FreshInv)
  · intro r c h
    exact ⟨h.mode, ⟨h.rx.linear, h.rx.start⟩, h.rxSize, h.sending, h.called, h.fresh⟩
  · intro r now q h
    exact h.issue now q
  · intro r h
    exact h.clear
  · exact h

theorem FreshInv.logSent (h : FreshInv r) (data : UInt8) : FreshInv (r.logSent data) := by
  unfold RS485.logSent
  split
  · exact h
  · rename_i q older hrequests
    refine ⟨h.mode, ⟨h.rx.linear, h.rx.start⟩, h.rxSize, h.sending, h.called,
      fun hs hclean => h.fresh hs fun p hp => ?_⟩
    rw [hrequests] at hp
    obtain rfl := Option.some.inj hp
    exact hclean { q with sent := q.sent ++ [data] } rfl

theorem FreshInv.txLoop (h : FreshInv r) (free : ℕ) : FreshInv (rs485TxLoop free r) := by
  induction free generalizing r with
  | zero => exact h
  | succ free ih =>
    simp only [rs485TxLoop]
    split
    · exact ⟨h.mode, ⟨h.rx.linear, h.rx.start⟩, h.rxSize, h.sending, h.called, h.fresh⟩
    · apply ih
      apply FreshInv.logSent
      exact ⟨h.mode, ⟨h.rx.linear, h.rx.start⟩, h.rxSize, h.sending, h.called, h.fresh⟩

theorem FreshInv.tickStep {now : ℕ} {irq : Interrupts} (h : FreshInv r)
    (hirq : ∀ point, (irq point).Brings (RxByte.Fresh r.requestCount) r.requestCount)
    (hstep : TickStep now irq r r') : FreshInv r' ∧ r'.requestCount = r.requestCount := by
  cases hstep with
  | drain =>
    have hg := rxGrows_rxLoop (RxByte.Fresh r.requestCount) h.rx
    exact ⟨h.grows hg, hg.requestCount⟩
  | drained => exact ⟨h.grows ((RxGrows.refl h.rx).time _), rfl⟩
  | interrupt point =>
    have hg := rxGrows_interruptPoint h.rx now (hirq point)
    exact ⟨h.grows hg, hg.requestCount⟩
  | grown hlistens =>
    exact ⟨⟨h.mode, ⟨h.rx.linear, h.rx.start⟩, h.rxSize, fun _ => hlistens.1, h.called, h.fresh⟩,
      rfl⟩
  | timedOut hlistens count =>
    exact ⟨⟨h.mode, ⟨h.rx.linear, h.rx.start⟩, h.rxSize, h.sending, fun _ => hlistens.1,
      h.fresh⟩, rfl⟩
  | accepted hlistens =>
    exact ⟨⟨h.mode, ⟨h.rx.linear, h.rx.start⟩, h.rxSize, h.sending, fun _ => hlistens.1,
      h.fresh⟩, rfl⟩
  | quiet hwire =>
    refine ⟨⟨h.mode, ⟨h.rx.linear, h.rx.start⟩, h.rxSize, fun htx => ?_, h.called, h.fresh⟩, rfl⟩
    cases htx
  | sent hwire hdone called hcalled =>
    refine ⟨⟨h.mode, ⟨h.rx.linear, h.rx.start⟩, h.rxSize, fun htx => ?_, fun _ => h.sending hwire,
      h.fresh⟩, rfl⟩
    cases htx

theorem FreshInv.tick {irq : Interrupts} (h : FreshInv r) (now : ℕ)
    (hirq : ∀ point, (irq point).Brings (RxByte.Fresh r.requestCount) r.requestCount) :
    FreshInv (rs485Tick now irq r) := by
  let Kept (r r' : RS485) : Prop := FreshInv r →
    (∀ point, (irq point).Brings (RxByte.Fresh r.requestCount) r.requestCount) →
    FreshInv r' ∧ r'.requestCount = r.requestCount
  have hkept : Kept r (rs485Tick now irq r) := by
    apply tick_induct (R := Kept)
    · exact fun r h _ => ⟨h, rfl⟩
    · intro r r' r'' hfirst hsecond h hirq
      obtain ⟨h', hcount⟩ := hfirst h hirq
      rw [← hcount] at hirq ⊢
      exact hsecond h' hirq
    · exact fun r r' hstep h hirq => h.tickStep hirq hstep
  exact (hkept h hirq).1

/-! ### Runs of the meter stack -/

/-- The answers that arrive belong to the newest request, as far as they are
answers. -/
def StackEvent.Timely (s : Stack F) : StackEvent → Prop
  | .receive _ answers => ∀ n, answers = some n → n = s.rs485.requestCount
  | .rs485Tick _ irq =>
    ∀ point, ∀ b ∈ (irq point).bytes, ∀ n, b.2 = some n → n = s.rs485.requestCount
  | .rxIrq _ | .txIrq | .txShift | .meterTick _ => True

/-- The modules outside use the bus through the functions of the meter code. -/
def StackEvent.ExternalsUseBus : StackEvent → Prop
  | .meterTick env => env.ExternalsUseBus
  | .receive _ _ | .rxIrq _ | .txIrq | .txShift | .rs485Tick _ _ => True

theorem FreshInv.step [CFloat F] {s s' : Stack F} {e : StackEvent} (h : FreshInv s.rs485)
    (hexternal : e.ExternalsUseBus) (htimely : e.Timely s) (hstep : stackStep s e = some s') :
    FreshInv s'.rs485 := by
  cases e with
  | receive value answers =>
    obtain rfl := Option.some.inj hstep
    exact h.grows (rxGrows_receive h.rx ⟨rfl, htimely⟩)
  | rxIrq now =>
    obtain rfl := Option.some.inj hstep
    exact h.grows (rxGrows_rxIrq _ h.rx now)
  | txIrq =>
    simp only [stackStep] at hstep
    split_ifs at hstep
    obtain rfl := Option.some.inj hstep
    exact h.txLoop _
  | txShift =>
    obtain rfl := Option.some.inj hstep
    exact ⟨h.mode, ⟨h.rx.linear, h.rx.start⟩, h.rxSize, h.sending, h.called, h.fresh⟩
  | rs485Tick now irq =>
    obtain rfl := Option.some.inj hstep
    exact h.tick now fun point b hb => ⟨rfl, htimely point b hb⟩
  | meterTick env => exact h.calls (meterTick_calls hexternal hstep)

theorem freshInv_init [CFloat F] {bufferSize : ℕ} (h : 2 ≤ bufferSize) (txFifoSize now : ℕ) :
    FreshInv (stackInit (F := F) bufferSize txFifoSize now).rs485 := by
  have hmaster := masterInv_rs485Init h txFifoSize now
  refine ⟨rfl, hmaster.rx, rfl, fun hwire => ?_, fun hcb => ?_, fun hs => ?_⟩
  · cases hwire
  · cases hcb
  · cases hs

/-- In every run of the meter stack whose answers are timely, the bytes of a
response are fresh if its request has found the RX side empty. -/
theorem response_fresh [CFloat F] {bufferSize txFifoSize now : ℕ} {events : List StackEvent}
    {t : Stack F} (hsize : 2 ≤ bufferSize) (hexternal : ∀ e ∈ events, e.ExternalsUseBus)
    (htimely : Meets stackStep (fun (s : Stack F) e => e.Timely s)
      (stackInit bufferSize txFifoSize now) events)
    (hrun : run stackStep (stackInit bufferSize txFifoSize now) events = some t)
    (hempty : ∀ q ∈ t.rs485.requests.head?, q.leftover = false)
    (hcb : t.rs485.requestCbInvoke = true) :
    ∀ b ∈ t.rs485.rxContent, b.Fresh t.rs485.requestCount := by
  have hmeets := htimely.and (.of_forall hexternal _)
  have hinv : FreshInv t.rs485 := by
    apply run_induct_meets (P := fun s : Stack F => FreshInv s.rs485) ?_
      (freshInv_init hsize txFifoSize now) hmeets hrun
    exact fun s e s' h hc hs => h.step hc.2 hc.1 hs
  intro b hb
  exact hinv.fresh (hinv.called hcb) hempty b (List.mem_append_left _ hb)

/-- Detection asks a generic meter for its code, which answers. -/
def answeredRun : List StackEvent :=
  [.meterTick (idleEnv 1), .rs485Tick 2 noInterrupts] ++
    [1, 3, 2, 0, 6, 56, 70].map (fun value => .receive value (some 1)) ++
    [.rs485Tick 10 noInterrupts, .rs485Tick 16 noInterrupts, .rs485Tick 17 noInterrupts]

/-- The same answer comes while detection waits after a timeout, and is taken for
that of the Eastron meter, which is asked next. -/
def lateRun : List StackEvent :=
  [.meterTick (idleEnv 1), .rs485Tick 2 noInterrupts, .rs485Tick 1002 noInterrupts,
    .meterTick (idleEnv 1003)] ++
    [1, 3, 2, 0, 6, 56, 70].map (fun value => .receive value (some 1)) ++
    [.rxIrq 1100, .meterTick (idleEnv 1503), .rs485Tick 1504 noInterrupts,
      .rs485Tick 1510 noInterrupts, .rs485Tick 1520 noInterrupts, .rs485Tick 1530 noInterrupts]

theorem externalsUseBus_idleEnv (now : ℕ) : (idleEnv now).ExternalsUseBus :=
  ⟨fun _ => .refl, fun _ => .refl, fun _ => .refl⟩

/-- A received byte belongs to the newest request. -/
def StackEvent.answersNewest (s : Stack F) : StackEvent → Bool
  | .receive _ answers => answers == some s.rs485.requestCount
  | _ => true

/-- Where nothing arrives inside a tick, it is enough to look at the received bytes. -/
theorem timely_of_answersNewest [CFloat F] {s : Stack F} {events : List StackEvent}
    (hquiet : ∀ e ∈ events, ∀ now irq, e = .rs485Tick now irq → irq = noInterrupts)
    (hnewest : Meets stackStep (fun (s : Stack F) e => e.answersNewest s = true) s events) :
    Meets stackStep (fun (s : Stack F) e => e.Timely s) s events := by
  refine (hnewest.and (.of_forall hquiet s)).mono ?_
  rintro s e ⟨hanswers, hirq⟩
  cases e with
  | receive value answers =>
    intro n hn
    have hcount : answers = some s.rs485.requestCount := beq_iff_eq.mp hanswers
    rw [hcount] at hn
    exact (Option.some.inj hn).symm
  | rs485Tick now irq =>
    obtain rfl := hirq now irq rfl
    exact fun _ _ hb => absurd hb List.not_mem_nil
  | rxIrq _ => trivial
  | txIrq => trivial
  | txShift => trivial
  | meterTick _ => trivial

theorem response_fresh_answered :
    let t : Stack ExactFloat := after stackStep (stackInit 64 32 0) answeredRun
    t.rs485.rxContent.length = 7 ∧ ∀ b ∈ t.rs485.rxContent, b.Fresh t.rs485.requestCount := by
  have hexternal : ∀ e ∈ answeredRun, e.ExternalsUseBus := by
    intro e he
    simp only [answeredRun, List.mem_append, List.mem_cons, List.mem_map, List.not_mem_nil,
      or_false] at he
    rcases he with ((rfl | rfl) | ⟨value, -, rfl⟩) | rfl | rfl | rfl
    · exact externalsUseBus_idleEnv 1
    all_goals trivial
  have hquiet : ∀ e ∈ answeredRun, ∀ now irq, e = .rs485Tick now irq → irq = noInterrupts := by
    intro e he now irq hirq
    subst hirq
    simp [answeredRun] at he
    rcases he with ⟨-, rfl⟩ | ⟨-, rfl⟩ | ⟨-, rfl⟩ | ⟨-, rfl⟩ <;> rfl
  refine ⟨by decide +kernel, ?_⟩
  exact response_fresh (by decide) hexternal
    (timely_of_answersNewest hquiet (by decide +kernel)) (run_eq_after (by decide +kernel))
    (by decide +kernel) (by decide +kernel)

/-- The answer to the first request is taken for one to the second. -/
theorem response_fresh_late :
    (∀ e ∈ lateRun, e.ExternalsUseBus) ∧
      ∃ t : Stack ExactFloat, run stackStep (stackInit 64 32 0) lateRun = some t ∧
        meterIsResponseReady modbusFcReadHoldingRegisters t.rs485 = true ∧
        t.rs485.responseFailed = false ∧ t.rs485.requestCount = 2 ∧
        t.rs485.rxContent.length = 7 ∧
        ∀ b ∈ t.rs485.rxContent, b.request = 1 ∧ b.answers = some 1 := by
  constructor
  · intro e he
    simp only [lateRun, List.mem_append, List.mem_cons, List.mem_map, List.not_mem_nil,
      or_false] at he
    rcases he with ((rfl | rfl | rfl | rfl) | ⟨value, -, rfl⟩) | rfl | rfl | rfl | rfl | rfl | rfl
    any_goals exact externalsUseBus_idleEnv _
    all_goals trivial
  · exact ⟨_, run_eq_after (by decide +kernel), by decide +kernel, by decide +kernel,
      by decide +kernel, by decide +kernel, by decide +kernel⟩

end Bricklib2
