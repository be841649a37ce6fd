/-
Bricklib2/Warp/Transmission.lean

How the requests of the meter stack go out: one at a time, each built in an empty
TX ring, and byte for byte as `MeterRequest.frame` writes it down.

Main result: `requests_transmitted`.
-/
import Bricklib2.Warp.ExactFloat
import Bricklib2.Warp.StackInvariant

namespace Bricklib2

open Machine

variable {F : Type} {r : RS485}

/-- What the TX interrupt has taken of the requests that the master `r` has
issued, the newest one first. -/
structure Transmitted (r : RS485) : Prop where
  busFree : ∀ q ∈ r.requests, q.busFree = true
  begun : ∀ q ∈ r.requests, q.sent <+: q.request.frame
  older : ∀ q ∈ r.requests.tail, q.sent = q.request.frame
  finished : r.requestState = .ready ∨ r.requestCbInvoke = true →
    ∀ q ∈ r.requests, q.sent = q.request.frame

theorem IssuedRequest.Complete.begun {q : IssuedRequest} (h : q.Complete) :
    q.sent <+: q.request.frame :=
  ⟨[], (List.append_nil _).trans h.2⟩

theorem transmitted_complete (h : ∀ q ∈ r.requests, q.Complete) : Transmitted r where
  busFree q hq := (h q hq).1
  begun q hq := (h q hq).begun
  older q hq := (h q (List.mem_of_mem_tail hq)).2
  finished _ q hq := (h q hq).2

theorem AwaitsResponse.transmitted {q : IssuedRequest} {older : List IssuedRequest}
    (h : AwaitsResponse q older r) : Transmitted r where
  busFree p hp := by
    rw [h.requests] at hp
    rcases List.mem_cons.mp hp with rfl | hp
    · exact h.busFree
    · exact (h.complete p hp).1
  begun p hp := by
    rw [h.requests] at hp
    rcases List.mem_cons.mp hp with rfl | hp
    · rw [h.onWire.sent]
      exact List.take_prefix _ _
    · exact (h.complete p hp).begun
  older p hp := by
    rw [h.requests] at hp
    exact (h.complete p hp).2
  finished hover p hp := by
    rw [h.requests] at hp
    rcases List.mem_cons.mp hp with rfl | hp
    · -- while the frame goes out, the request is neither over nor called back
      refine h.sent_eq fun htx => ?_
      rcases hover with hready | hcb
      · rw [h.state] at hready
        cases hready
      · rw [(h.sending htx).1] at hcb
        cases hcb
    · exact (h.complete p hp).2

theorem MasterInv.transmitted (h : MasterInv r) : Transmitted r := by
  rcases h.phase with hidle | ⟨q, older, hwait⟩
  · exact transmitted_complete hidle.complete
  · exact hwait.transmitted

/-- Reading the system type of slave 1: register 11, the address is one less. -/
example : (MeterRequest.readRegisters modbusFcReadHoldingRegisters 1 11 2).frame =
    [1, 3, 0, 10, 0, 2, 228, 9] := by decide +kernel

/-- In every run of the meter stack with idle external users, a request is issued
on a free bus only, and the bytes taken for it are those of its frame, which the
receiving side accepts. -/
theorem requests_transmitted [CFloat F] {bufferSize txFifoSize now : ℕ}
    {events : List StackEvent} {t : Stack F} (hsize : 13 < bufferSize - bufferSize / 2)
    (hidle : ∀ e ∈ events, e.ExternalIdle)
    (hrun : run stackStep (stackInit bufferSize txFifoSize now) events = some t) :
    Transmitted t.rs485 ∧
      (t.outstanding = none → t.rs485.requestState = .ready) ∧
      (∀ q, t.outstanding = some q → t.rs485.requestState = .masterWaitingResponse ∧
        (t.rs485.requests.map IssuedRequest.request).head? = some q) ∧
      ∀ q ∈ t.rs485.requests, ∀ received : RS485,
        received.receivedFrame = q.request.frame → modbusCheckFrameChecksum received = true := by
  have hinv := stackInv_run hsize hidle hrun
  refine ⟨hinv.bus.master.transmitted, hinv.bus.idle, hinv.bus.waiting, ?_⟩
  intro q _ received hframe
  rw [modbusCheckFrameChecksum, hframe]
  exact frameChecksumOk_frame q.request

/-- Nothing outside the meter code happens. -/
def idleEnv (now : ℕ) : TickEnv where
  now := now
  garbage := fun _ => 0
  isV2 := false
  isV4 := false
  frequency := none
  eichrechtInitDone := true
  eichrechtTransaction := false
  displayHasWork := false
  eichrechtInitTick := ⟨id, id, id⟩
  eichrechtTick := ⟨id, id, id⟩
  displayTick := ⟨id, id, id⟩

/-- Detection asks for a generic meter, waits in vain, and asks for an Eastron one. -/
def detectionRun : List StackEvent :=
  [.meterTick (idleEnv 1), .rs485Tick 2 noInterrupts, .rs485Tick 1002 noInterrupts,
    .meterTick (idleEnv 1003), .meterTick (idleEnv 1503)]

theorem requests_transmitted_detection :
    let t : Stack ExactFloat := after stackStep (stackInit 64 16 0) detectionRun
    t.rs485.requests.length = 2 ∧ Transmitted t.rs485 := by
  have hidle : ∀ e ∈ detectionRun, e.ExternalIdle := by decide
  refine ⟨by decide +kernel, ?_⟩
  exact (requests_transmitted (by decide) hidle
    (run_eq_after (by decide +kernel))).1

end Bricklib2
