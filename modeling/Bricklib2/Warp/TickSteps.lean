/-
Bricklib2/Warp/TickSteps.lean

One `rs485_tick` as a path of small steps: emptying the FIFO, the interrupt points
and the updates of the wire state machine, each with the guard it stands under.
What every small step keeps, the tick keeps.

Main result: `tickSteps`.
-/
import Mathlib.Logic.Relation
import Bricklib2.Warp.RtuMaster

namespace Bricklib2

open Relation

/-- The interrupts touch the RX ring, its FIFO and two counters. -/
theorem rxStore_eq (r : RS485) (b : RxByte) : ∃ ring overrun,
    rs485RxStore r b = { r with ringbufferRx := ring, errorCountOverrun := overrun } := by
  simp only [rs485RxStore]
  generalize (if r.ringbufferRx.size ≤ r.ringbufferRx.end + 1 then 0
    else r.ringbufferRx.end + 1) = newEnd
  split <;> exact ⟨_, _, rfl⟩

theorem rxLoop_eq (r : RS485) : ∃ ring overrun, rs485RxLoop r =
    { r with ringbufferRx := ring, errorCountOverrun := overrun, rxFifo := [] } := by
  have hfold : ∀ (bytes : List RxByte) (t : RS485), ∃ ring overrun,
      bytes.foldl rs485RxStore t =
        { t with ringbufferRx := ring, errorCountOverrun := overrun } := by
    intro bytes
    induction bytes with
    | nil => exact fun t => ⟨t.ringbufferRx, t.errorCountOverrun, rfl⟩
    | cons b bytes ih =>
      intro t
      obtain ⟨ring, overrun, hstore⟩ := rxStore_eq t b
      rw [List.foldl_cons, hstore]
      exact ih _
  exact hfold r.rxFifo _

theorem interruptPoint_eq (now : ℕ) (i : Interrupt) (r : RS485) : ∃ ring overrun time fifo,
    interruptPoint now i r = { r with
      ringbufferRx := ring
      errorCountOverrun := overrun
      time4CharsMs := time
      rxFifo := fifo } := by
  have harrive : ∀ (bytes : List (UInt8 × Option ℕ)) (t : RS485), ∃ fifo,
      bytes.foldl (fun r b => rs485Receive b.1 b.2 r) t = { t with rxFifo := fifo } := by
    intro bytes
    induction bytes with
    | nil => exact fun t => ⟨t.rxFifo, rfl⟩
    | cons b bytes ih => exact fun t => ih _
  obtain ⟨fifo, hbytes⟩ := harrive i.bytes r
  simp only [interruptPoint, hbytes]
  split
  · obtain ⟨ring, overrun, hloop⟩ := rxLoop_eq { r with rxFifo := fifo }
    rw [rs485RxIrqHandler, hloop]
    exact ⟨ring, overrun, systemTimerGetMs now, [], rfl⟩
  · exact ⟨r.ringbufferRx, r.errorCountOverrun, r.time4CharsMs, fifo, rfl⟩

/-- The wire state machine looks at a request that waits for its response. -/
def RS485.Listens (r : RS485) : Prop :=
  r.requestState = .masterWaitingResponse ∧ r.stateWire = .idle

theorem listens_interruptPoint (now : ℕ) (i : Interrupt) {r : RS485} :
    (interruptPoint now i r).Listens ↔ r.Listens := by
  obtain ⟨ring, overrun, time, fifo, heq⟩ := interruptPoint_eq now i r
  rw [heq]
  exact Iff.rfl

/-- What a tick is made of. -/
inductive TickStep (now : ℕ) (irq : Interrupts) (r : RS485) : RS485 → Prop
  | drain : TickStep now irq r (rs485RxLoop r)
  | drained : TickStep now irq r { r with time4CharsMs := systemTimerGetMs now }
  | interrupt (point : ℕ) : TickStep now irq r (interruptPoint now (irq point) r)
  | grown (h : r.Listens) : TickStep now irq r { r with
      stateWire := .rx
      rxRbLastLength := ringbufferGetUsed r.ringbufferRx }
  | timedOut (h : r.Listens)
      (count : RS485ModbusCommonErrorCounters → RS485ModbusCommonErrorCounters) :
      TickStep now irq r (modbusRequestTimedOut count r)
  | accepted (h : r.Listens) : TickStep now irq r { r with
      requestCbInvoke := true
      acceptedLength := r.rxRbLastLength }
  | quiet (hwire : r.stateWire = .rx) : TickStep now irq r { r with stateWire := .idle }
  | sent (hwire : r.stateWire = .tx) (hdone : r.txDone = true) (called : Bool)
      (hcalled : called = r.requestCbInvoke ∨ called = true ∧ r.txFrame 0 = 0) :
      TickStep now irq r { r with
        txDone := false
        stateWire := .idle
        requestCbInvoke := called }

variable {now : ℕ} {irq : Interrupts} {r : RS485}

theorem tickSteps_interrupt (now : ℕ) (irq : Interrupts) (point : ℕ) (r : RS485) :
    ReflTransGen (TickStep now irq) r (interruptPoint now (irq point) r) :=
  .single (.interrupt point)

theorem tickSteps_handleFrame (h : r.Listens) :
    ReflTransGen (TickStep now irq) r (modbusHandleFrame now irq r) := by
  have h₆ := (listens_interruptPoint now (irq 6)).mpr h
  have h₇ := (listens_interruptPoint now (irq 7)).mpr h₆
  have h₈ := (listens_interruptPoint now (irq 8)).mpr h₇
  have hsteps₆ := tickSteps_interrupt now irq 6 r
  have hsteps₇ := hsteps₆.tail (.interrupt 7)
  have hsteps₈ := hsteps₇.tail (.interrupt 8)
  simp only [modbusHandleFrame]
  split
  · exact hsteps₆.tail (.timedOut h₆ _)
  split
  · exact hsteps₇.tail (.timedOut h₇ _)
  split
  · exact hsteps₈.tail (.timedOut h₈ _)
  · exact hsteps₈.tail (.accepted h₈)

theorem tickSteps_checkFrameComplete (hwire : r.stateWire = .idle) :
    ReflTransGen (TickStep now irq) r (modbusCheckFrameComplete now irq r) := by
  have hsteps₄ := tickSteps_interrupt now irq 4 r
  have hsteps₅ := hsteps₄.tail (.interrupt 5)
  simp only [modbusCheckFrameComplete]
  split
  · rename_i hguard
    split
    · split
      · exact hsteps₅
      · refine hsteps₅.trans (tickSteps_handleFrame ?_)
        rw [listens_interruptPoint]
        obtain ⟨ring, overrun, time, fifo, heq⟩ := interruptPoint_eq now (irq 4) r
        rw [heq] at hguard ⊢
        exact ⟨hguard.1, hwire⟩
    · exact hsteps₅
  · exact hsteps₄

theorem tickSteps_checkFrameGrown (hwire : r.stateWire = .idle) :
    ReflTransGen (TickStep now irq) r (modbusCheckFrameGrown now irq r) := by
  have hsteps₁ := tickSteps_interrupt now irq 1 r
  have hsteps₂ := hsteps₁.tail (.interrupt 2)
  have hsteps₃ := hsteps₂.tail (.interrupt 3)
  have hwire₁ : (interruptPoint now (irq 1) r).stateWire = .idle := by
    obtain ⟨ring, overrun, time, fifo, heq⟩ := interruptPoint_eq now (irq 1) r
    rw [heq]
    exact hwire
  have hwire₂ : (interruptPoint now (irq 2) (interruptPoint now (irq 1) r)).stateWire = .idle := by
    obtain ⟨ring, overrun, time, fifo, heq⟩ :=
      interruptPoint_eq now (irq 2) (interruptPoint now (irq 1) r)
    rw [heq]
    exact hwire₁
  simp only [modbusCheckFrameGrown]
  split
  · rename_i hguard
    split
    · refine hsteps₃.tail (.grown ?_)
      rw [listens_interruptPoint, listens_interruptPoint]
      exact ⟨hguard.1, hwire₁⟩
    · exact hsteps₂.trans (tickSteps_checkFrameComplete hwire₂)
  · exact hsteps₁.trans (tickSteps_checkFrameComplete hwire₁)

theorem tickSteps_updateWire (now : ℕ) (irq : Interrupts) (r : RS485) :
    ReflTransGen (TickStep now irq) r (modbusUpdateRtuWireStateMachine now irq r) := by
  unfold modbusUpdateRtuWireStateMachine
  split
  · rename_i hwire
    split
    · split
      · rename_i hguard
        exact .single (.timedOut ⟨hguard.1, hwire⟩ id)
      · exact tickSteps_checkFrameGrown hwire
    · exact .refl
  · rename_i hwire
    split
    · exact .single (.quiet hwire)
    · exact .refl
  · rename_i hwire
    split
    · rename_i hdone
      simp only
      split
      · rename_i hbroadcast
        exact .single (.sent hwire hdone true (Or.inr ⟨rfl, hbroadcast.2⟩))
      · exact .single (.sent hwire hdone r.requestCbInvoke (Or.inl rfl))
    · exact .refl

/-- The tick is a path of small steps. -/
theorem tickSteps (now : ℕ) (irq : Interrupts) (r : RS485) :
    ReflTransGen (TickStep now irq) r (rs485Tick now irq r) := by
  have hdrain : ReflTransGen (TickStep now irq) r (if r.rxFifo = [] then rs485RxLoop r else
      { rs485RxLoop r with time4CharsMs := systemTimerGetMs now }) := by
    split
    · exact .single .drain
    · exact ReflTransGen.tail (.single .drain) .drained
  simp only [rs485Tick]
  generalize (if r.rxFifo = [] then rs485RxLoop r else
      { rs485RxLoop r with time4CharsMs := systemTimerGetMs now }) = drained at hdrain ⊢
  have h₀ := hdrain.tail (.interrupt 0)
  split
  · exact h₀.trans (tickSteps_updateWire now irq _)
  · exact h₀

/-- What every small step keeps, the tick keeps. -/
theorem tick_induct {R : RS485 → RS485 → Prop} (hrefl : ∀ r, R r r)
    (htrans : ∀ {r r' r''}, R r r' → R r' r'' → R r r'')
    (hstep : ∀ r r', TickStep now irq r r' → R r r') (r : RS485) :
    R r (rs485Tick now irq r) := by
  have hpath := tickSteps now irq r
  generalize rs485Tick now irq r = ticked at hpath
  induction hpath with
  | refl => exact hrefl r
  | tail _ h ih => exact htrans ih (hstep _ _ h)

end Bricklib2
