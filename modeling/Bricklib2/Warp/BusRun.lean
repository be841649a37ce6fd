/-
Bricklib2/Warp/BusRun.lean

The bus between the RTU master and its client.  The client knows which request
is outstanding (`Option MeterRequest`), the master has its request record, and
`BusInv` says that the two agree.  What the client does to the bus is a `BusRun`:
it issues a request while none is outstanding, and clears one that is over.
Between two actions of the client the wire side runs, which leaves the record of
the request alone (`WireStep`).

Main result: `BusRun.master`, a bus run is a run of the RTU master.
-/
import Bricklib2.Warp.RtuInvariant
import Bricklib2.Warp.TickSteps

namespace Bricklib2

open Machine

variable {r r' r'' : RS485} {o o' : Option MeterRequest} {now : ℕ}

/-! ### The wire side leaves the request record alone -/

/-- What receiving, transmitting and the tick of the master do not touch. -/
structure WireStep (r r' : RS485) : Prop where
  mode : r'.mode = r.mode
  state : r'.requestState = r.requestState
  requests : r'.requests.map IssuedRequest.request = r.requests.map IssuedRequest.request
  count : r'.requestCount = r.requestCount
  cbInvoke : r.requestCbInvoke = true → r'.requestCbInvoke = true
  bufferSize : r'.bufferSize = r.bufferSize
  bufferSizeRx : r'.bufferSizeRx = r.bufferSizeRx

theorem WireStep.refl (r : RS485) : WireStep r r := ⟨rfl, rfl, rfl, rfl, id, rfl, rfl⟩

theorem WireStep.trans (h : WireStep r r') (h' : WireStep r' r'') : WireStep r r'' where
  mode := h'.mode.trans h.mode
  state := h'.state.trans h.state
  requests := h'.requests.trans h.requests
  count := h'.count.trans h.count
  cbInvoke hcb := h'.cbInvoke (h.cbInvoke hcb)
  bufferSize := h'.bufferSize.trans h.bufferSize
  bufferSizeRx := h'.bufferSizeRx.trans h.bufferSizeRx

theorem wireStep_receive (value : UInt8) (answers : Option ℕ) (r : RS485) :
    WireStep r (rs485Receive value answers r) := ⟨rfl, rfl, rfl, rfl, id, rfl, rfl⟩

theorem wireStep_rxLoop (r : RS485) : WireStep r (rs485RxLoop r) := by
  obtain ⟨ring, overrun, hloop⟩ := rxLoop_eq r
  rw [hloop]
  exact ⟨rfl, rfl, rfl, rfl, id, rfl, rfl⟩

theorem wireStep_rxIrq (now : ℕ) (r : RS485) : WireStep r (rs485RxIrqHandler now r) := by
  have h := wireStep_rxLoop r
  exact ⟨h.mode, h.state, h.requests, h.count, h.cbInvoke, h.bufferSize, h.bufferSizeRx⟩

theorem wireStep_logSent (data : UInt8) (r : RS485) : WireStep r (r.logSent data) := by
  unfold RS485.logSent
  split
  · exact WireStep.refl r
  · rename_i q older hrequests
    refine ⟨rfl, rfl, ?_, rfl, id, rfl, rfl⟩
    rw [hrequests]
    rfl

theorem wireStep_txLoop (free : ℕ) (r : RS485) : WireStep r (rs485TxLoop free r) := by
  induction free generalizing r with
  | zero => exact WireStep.refl r
  | succ free ih =>
    simp only [rs485TxLoop]
    split
    · exact ⟨rfl, rfl, rfl, rfl, id, rfl, rfl⟩
    · rename_i data tx _
      have hmove : WireStep r
          { r with ringbufferTx := tx, txFifoLevel := r.txFifoLevel + 1 } :=
        ⟨rfl, rfl, rfl, rfl, id, rfl, rfl⟩
      exact (hmove.trans (wireStep_logSent data _)).trans (ih _)

theorem wireStep_tick (now : ℕ) (irq : Interrupts) (r : RS485) :
    WireStep r (rs485Tick now irq r) := by
  refine tick_induct WireStep.refl WireStep.trans (fun r r' hstep => ?_) r
  cases hstep with
  | drain => exact wireStep_rxLoop r
  | interrupt point =>
    obtain ⟨ring, overrun, time, fifo, heq⟩ := interruptPoint_eq now (irq point) r
    rw [heq]
    exact ⟨rfl, rfl, rfl, rfl, id, rfl, rfl⟩
  | timedOut _ count => exact ⟨rfl, rfl, rfl, rfl, fun _ => rfl, rfl, rfl⟩
  | accepted _ => exact ⟨rfl, rfl, rfl, rfl, fun _ => rfl, rfl, rfl⟩
  | sent _ _ called hcalled =>
    refine ⟨rfl, rfl, rfl, rfl, fun hcb => ?_, rfl, rfl⟩
    rcases hcalled with hsame | ⟨hcalled, -⟩
    · exact hsame.trans hcb
    · exact hcalled
  | drained => exact ⟨rfl, rfl, rfl, rfl, id, rfl, rfl⟩
  | grown _ => exact ⟨rfl, rfl, rfl, rfl, id, rfl, rfl⟩
  | quiet _ => exact ⟨rfl, rfl, rfl, rfl, id, rfl, rfl⟩

/-! ### What the client does -/

/-- A request of a meter driver: to a slave, and short. -/
structure MeterRequest.Sendable (q : MeterRequest) : Prop where
  slave : q.slaveAddress ≠ 0
  length : q.frame.length ≤ 13

theorem sendable_readRegisters {fc slave : UInt8} (h : slave ≠ 0) (address count : ℕ) :
    (MeterRequest.readRegisters fc slave address count).Sendable where
  slave := h
  length := by
    show 8 ≤ 13
    decide

theorem sendable_writeRegister {fc slave : UInt8} (h : slave ≠ 0) (address payload : ℕ) :
    (MeterRequest.writeRegister fc slave address payload).Sendable where
  slave := h
  length := by
    simp only [MeterRequest.frame, MeterRequest.payload, MeterRequest.body]
    split
    · show 13 ≤ 13
      exact le_rfl
    · split
      · show 8 ≤ 13
        decide
      · show 6 ≤ 13
        decide

/-- `BusRun now r o o' r'`: the client takes the bus from `r` to `r'`, and the
request it waits for from `o` to `o'`. -/
inductive BusRun (now : ℕ) (r : RS485) (o : Option MeterRequest) :
    Option MeterRequest → RS485 → Prop
  | refl : BusRun now r o o r
  | counters {o' : Option MeterRequest} {r' : RS485} (c : RS485ModbusCommonErrorCounters)
      (h : BusRun now r o o' r') : BusRun now r o o' { r' with errorCounters := c }
  | issue {r' : RS485} (q : MeterRequest) (hq : q.Sendable) (h : BusRun now r o none r') :
      BusRun now r o (some q) (meterIssue now q r')
  | clear {o' : Option MeterRequest} {r' : RS485}
      (hover : o' = none ∨ r'.requestCbInvoke = true) (h : BusRun now r o o' r') :
      BusRun now r o none (modbusClearRequest r')

/-- The client and the master agree on the outstanding request. -/
structure BusInv (o : Option MeterRequest) (r : RS485) : Prop where
  master : MasterInv r
  room : 13 < r.bufferSize - r.bufferSizeRx
  idle : o = none → r.requestState = .ready
  waiting : ∀ q, o = some q → r.requestState = .masterWaitingResponse ∧
    (r.requests.map IssuedRequest.request).head? = some q

theorem BusInv.wireStep (h : BusInv o r) (hm : MasterInv r') (hw : WireStep r r') :
    BusInv o r' where
  master := hm
  room := by
    rw [hw.bufferSize, hw.bufferSizeRx]
    exact h.room
  idle ho := hw.state.trans (h.idle ho)
  waiting q ho := by
    obtain ⟨hstate, hhead⟩ := h.waiting q ho
    rw [hw.state, hw.requests]
    exact ⟨hstate, hhead⟩

theorem BusInv.canIssue (h : BusInv none r) {q : MeterRequest} (hq : q.Sendable) :
    r.CanIssue q := by
  have hidle := h.master.busIdle (h.idle rfl)
  refine ⟨?_, hq.slave, ?_⟩
  · simp only [RS485.busFree, hidle.state, hidle.txStart, hidle.txEnd, beq_self_eq_true,
      Bool.and_self]
  · rw [h.master.txSize]
    exact hq.length.trans_lt h.room

theorem BusInv.counters (h : BusInv o r) (c : RS485ModbusCommonErrorCounters) :
    BusInv o { r with errorCounters := c } :=
  ⟨h.master.counters c, h.room, h.idle, h.waiting⟩

theorem BusInv.issue (h : BusInv none r) {q : MeterRequest} (hq : q.Sendable) :
    BusInv (some q) (meterIssue now q r) := by
  have hc := h.canIssue hq
  have hm := h.master.request now hc
  have hidle := h.master.busIdle (h.idle rfl)
  obtain ⟨⟨start, buffer, level, event, done, id, sent, hf, -⟩, -⟩ :=
    issued_meterIssue now h.master.mode h.master.tx h.master.level hidle.txDone hc
  rw [hf] at hm ⊢
  refine ⟨hm, h.room, fun ho => ?_, fun p hp => ⟨rfl, ?_⟩⟩
  · cases ho
  · obtain rfl := Option.some.inj hp
    rfl

theorem BusInv.clear (h : BusInv o r) (hover : o = none ∨ r.requestCbInvoke = true) :
    BusInv none (modbusClearRequest r) := by
  have hc : r.CanClear := hover.elim (fun ho => Or.inl (h.idle ho)) Or.inr
  refine ⟨h.master.clear hc, h.room, fun _ => rfl, fun q hq => ?_⟩
  cases hq

/-- The events of the client. -/
def MasterEvent.FromClient : MasterEvent → Prop
  | .request _ _ | .clear | .counters _ => True
  | .receive _ _ | .rxIrq _ | .txIrq | .txShift | .tick _ _ => False

/-- A bus run is a run of the RTU master, and it keeps the invariant. -/
theorem BusRun.master (h : BusRun now r o o' r') (hinv : BusInv o r) :
    BusInv o' r' ∧ ∃ events, run masterStep r events = some r' ∧
      ∀ e ∈ events, e.FromClient := by
  have hsnoc : ∀ {events : List MasterEvent} {t t' : RS485} (e : MasterEvent),
      run masterStep r events = some t → (∀ e ∈ events, e.FromClient) → e.FromClient →
      masterStep t e = some t' →
      ∃ events, run masterStep r events = some t' ∧ ∀ e ∈ events, e.FromClient := by
    intro events t t' e hrun hall he hstep
    refine ⟨events ++ [e], ?_, ?_⟩
    · rw [run_append_eq_some]
      exact ⟨t, hrun, run_cons_eq_some.mpr ⟨t', hstep, rfl⟩⟩
    · intro x hx
      rcases List.mem_append.mp hx with hx | hx
      · exact hall x hx
      · rw [List.mem_singleton.mp hx]
        exact he
  induction h with
  | refl => exact ⟨hinv, [], rfl, fun _ he => absurd he List.not_mem_nil⟩
  | counters c _ ih =>
    obtain ⟨hinv', events, hrun, hall⟩ := ih
    exact ⟨hinv'.counters c, hsnoc (.counters c) hrun hall trivial rfl⟩
  | issue q hq _ ih =>
    obtain ⟨hinv', events, hrun, hall⟩ := ih
    exact ⟨hinv'.issue hq, hsnoc (.request now q) hrun hall trivial
      (if_pos (hinv'.canIssue hq))⟩
  | clear hover _ ih =>
    obtain ⟨hinv', events, hrun, hall⟩ := ih
    have hc : RS485.CanClear _ := hover.elim (fun ho => Or.inl (hinv'.idle ho)) Or.inr
    exact ⟨hinv'.clear hover, hsnoc .clear hrun hall trivial (if_pos hc)⟩

end Bricklib2
