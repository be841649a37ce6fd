/-
Bricklib2/Warp/RequestOutcome.lean

How a request of the RTU master ends.  `cb_invoke` reports it, as answered or
as timed out.  The state machine goes on running until the client has cleared
the request: a time-out is final, since every check that leads to one asks for
`master_request_timed_out` first; a valid response is not, since no check asks
for `cb_invoke`.

Main result: `single_outcome`.
-/
import Bricklib2.Warp.RtuInvariant
import Bricklib2.Warp.TickSteps

namespace Bricklib2

open Machine

variable {P : RxByte → Prop} {r r' r'' : RS485} {now : ℕ} {irq : Interrupts}

/-! ### The outcome of a request -/

/-- How a request can end. -/
inductive RequestOutcome
  | answered
  | timedOut
  deriving DecidableEq, Repr

/-- What has been reported to the client, if anything. -/
def RS485.outcome (r : RS485) : Option RequestOutcome :=
  if r.requestCbInvoke then some (if r.masterRequestTimedOut then .timedOut else .answered)
  else none

/-- The time-outs the state machine has counted since the newest request was issued. -/
def timeoutNote (r : RS485) (e : MasterEvent) (r' : RS485) (timeouts : ℕ) : ℕ :=
  match e with
  | .tick _ _ => timeouts + (r'.errorCounters.timeout - r.errorCounters.timeout)
  | .request _ _ => 0
  | _ => timeouts

/-- A step leaves an outcome as it is, unless it clears the request.  It counts no
time-out of an answered request, and no second one of any request. -/
def SingleOutcome (p : RS485 × ℕ) (e : MasterEvent) : Prop :=
  ∀ p', observed masterStep timeoutNote p e = some p' →
    (e = .clear ∨ p.1.outcome = none ∨ p'.1.outcome = p.1.outcome) ∧
    p'.2 ≤ 1 ∧
    (p.1.outcome = some .answered → p'.2 ≤ p.2)

theorem outcome_eq_answered : r.outcome = some .answered ↔
    r.requestCbInvoke = true ∧ r.masterRequestTimedOut = false := by
  rw [RS485.outcome]
  cases r.requestCbInvoke <;> cases r.masterRequestTimedOut <;> decide

/-! ### What a tick does to the outcome -/

/-- No time-out is counted, and what has been reported stays reported. -/
structure KeepsOutcome (r r' : RS485) : Prop where
  state : r'.requestState = r.requestState
  timedOut : r'.masterRequestTimedOut = r.masterRequestTimedOut
  timeouts : r'.errorCounters.timeout = r.errorCounters.timeout
  called : r.requestCbInvoke = true → r'.requestCbInvoke = true

/-- The request that waits is given up: this happens once. -/
structure TimesOut (r r' : RS485) : Prop where
  waiting : r.requestState = .masterWaitingResponse
  first : r.masterRequestTimedOut = false
  timedOut : r'.masterRequestTimedOut = true
  timeouts : r'.errorCounters.timeout = r.errorCounters.timeout + 1
  called : r'.requestCbInvoke = true

theorem KeepsOutcome.refl (r : RS485) : KeepsOutcome r r := ⟨rfl, rfl, rfl, id⟩

theorem KeepsOutcome.trans (h : KeepsOutcome r r') (h' : KeepsOutcome r' r'') :
    KeepsOutcome r r'' :=
  ⟨h'.state.trans h.state, h'.timedOut.trans h.timedOut, h'.timeouts.trans h.timeouts,
    fun hc => h'.called (h.called hc)⟩

theorem KeepsOutcome.timesOut (h : KeepsOutcome r r') (h' : TimesOut r' r'') : TimesOut r r'' :=
  ⟨h.state.symm.trans h'.waiting, h.timedOut.symm.trans h'.first, h'.timedOut,
    by rw [h'.timeouts, h.timeouts], h'.called⟩

theorem keepsOutcome_interruptPoint (now : ℕ) (i : Interrupt) (r : RS485) :
    KeepsOutcome r (interruptPoint now i r) := by
  obtain ⟨ring, overrun, time, fifo, heq⟩ := interruptPoint_eq now i r
  rw [heq]
  exact ⟨rfl, rfl, rfl, id⟩

theorem keepsOutcome_rxLoop (r : RS485) : KeepsOutcome r (rs485RxLoop r) := by
  obtain ⟨ring, overrun, heq⟩ := rxLoop_eq r
  rw [heq]
  exact ⟨rfl, rfl, rfl, id⟩

theorem timesOut_modbusRequestTimedOut (hs : r.requestState = .masterWaitingResponse)
    (h : r.masterRequestTimedOut = false)
    (count : RS485ModbusCommonErrorCounters → RS485ModbusCommonErrorCounters)
    (hcount : ∀ c, (count c).timeout = c.timeout) :
    TimesOut r (modbusRequestTimedOut count r) :=
  ⟨hs, h, rfl, hcount _, rfl⟩

/-- `r'` comes from `r` without a second time-out. -/
def OneOutcome (r r' : RS485) : Prop := KeepsOutcome r r' ∨ TimesOut r r'

theorem KeepsOutcome.one (h : KeepsOutcome r r') (h' : OneOutcome r' r'') : OneOutcome r r'' :=
  h'.imp h.trans h.timesOut

theorem oneOutcome_handleFrame (now : ℕ) (irq : Interrupts)
    (hs : r.requestState = .masterWaitingResponse) :
    OneOutcome r (modbusHandleFrame now irq r) := by
  have h₆ := keepsOutcome_interruptPoint now (irq 6) r
  simp only [modbusHandleFrame]
  generalize interruptPoint now (irq 6) r = r₆ at h₆ ⊢
  have h₇ := h₆.trans (keepsOutcome_interruptPoint now (irq 7) r₆)
  have h₈ := h₇.trans (keepsOutcome_interruptPoint now (irq 8) _)
  split
  · rename_i htoo
    exact h₆.one (Or.inr (timesOut_modbusRequestTimedOut (h₆.state.trans hs) htoo.2 _
      fun _ => rfl))
  split
  · rename_i hsum
    exact h₇.one (Or.inr (timesOut_modbusRequestTimedOut (h₇.state.trans hs) hsum.2 _
      fun _ => rfl))
  split
  · rename_i hslave
    exact h₈.one (Or.inr (timesOut_modbusRequestTimedOut (h₈.state.trans hs) hslave.2 _
      fun _ => rfl))
  · exact h₈.one (Or.inl ⟨rfl, rfl, rfl, fun _ => rfl⟩)

theorem oneOutcome_checkFrameComplete (now : ℕ) (irq : Interrupts) (r : RS485) :
    OneOutcome r (modbusCheckFrameComplete now irq r) := by
  have h₄ := keepsOutcome_interruptPoint now (irq 4) r
  simp only [modbusCheckFrameComplete]
  generalize interruptPoint now (irq 4) r = r₄ at h₄ ⊢
  have hpoint₅ := keepsOutcome_interruptPoint now (irq 5) r₄
  have h₅ := h₄.trans hpoint₅
  split
  · rename_i hguard
    split
    · split
      · exact Or.inl h₅
      · exact h₅.one (oneOutcome_handleFrame now irq (hpoint₅.state.trans hguard.1))
    · exact Or.inl h₅
  · exact Or.inl h₄

theorem oneOutcome_checkFrameGrown (now : ℕ) (irq : Interrupts) (r : RS485) :
    OneOutcome r (modbusCheckFrameGrown now irq r) := by
  have h₁ := keepsOutcome_interruptPoint now (irq 1) r
  simp only [modbusCheckFrameGrown]
  generalize interruptPoint now (irq 1) r = r₁ at h₁ ⊢
  have h₂ := h₁.trans (keepsOutcome_interruptPoint now (irq 2) r₁)
  have h₃ := h₂.trans (keepsOutcome_interruptPoint now (irq 3) _)
  split
  · split
    · exact Or.inl ⟨h₃.state, h₃.timedOut, h₃.timeouts, h₃.called⟩
    · exact h₂.one (oneOutcome_checkFrameComplete now irq _)
  · exact h₁.one (oneOutcome_checkFrameComplete now irq _)

theorem oneOutcome_updateWire (now : ℕ) (irq : Interrupts) (r : RS485) :
    OneOutcome r (modbusUpdateRtuWireStateMachine now irq r) := by
  unfold modbusUpdateRtuWireStateMachine
  split
  · split
    · split
      · rename_i hguard
        exact Or.inr (timesOut_modbusRequestTimedOut hguard.1 hguard.2.2 _ fun _ => rfl)
      · exact oneOutcome_checkFrameGrown now irq r
    · exact Or.inl (.refl r)
  · split
    · exact Or.inl ⟨rfl, rfl, rfl, id⟩
    · exact Or.inl (.refl r)
  · split
    · simp only
      split
      · exact Or.inl ⟨rfl, rfl, rfl, fun _ => rfl⟩
      · exact Or.inl ⟨rfl, rfl, rfl, id⟩
    · exact Or.inl (.refl r)

/-- The state of a tick after `while(!XMC_USIC_CH_RXFIFO_IsEmpty(RS485_USIC))`. -/
def RS485.drained (now : ℕ) (r : RS485) : RS485 :=
  if r.rxFifo = [] then rs485RxLoop r
  else { rs485RxLoop r with time4CharsMs := systemTimerGetMs now }

theorem keepsOutcome_drained (now : ℕ) (r : RS485) : KeepsOutcome r (r.drained now) := by
  have h := keepsOutcome_rxLoop r
  rw [RS485.drained]
  split
  · exact h
  · exact ⟨h.state, h.timedOut, h.timeouts, h.called⟩

theorem rs485Tick_eq (now : ℕ) (irq : Interrupts) (r : RS485) : rs485Tick now irq r =
    if (interruptPoint now (irq 0) (r.drained now)).mode = .modbusMasterRtu ∨
        (interruptPoint now (irq 0) (r.drained now)).mode = .modbusSlaveRtu then
      modbusUpdateRtuWireStateMachine now irq (interruptPoint now (irq 0) (r.drained now))
    else interruptPoint now (irq 0) (r.drained now) := rfl

theorem oneOutcome_tick (now : ℕ) (irq : Interrupts) (r : RS485) :
    OneOutcome r (rs485Tick now irq r) := by
  have h₀ := (keepsOutcome_drained now r).trans (keepsOutcome_interruptPoint now (irq 0) _)
  rw [rs485Tick_eq]
  split
  · exact h₀.one (oneOutcome_updateWire now irq _)
  · exact Or.inl h₀

/-! ### When an answered request is given up -/

/-- The interrupt points of a tick, in the order it passes them. -/
def RS485.arrive (now : ℕ) (irq : Interrupts) (points : List ℕ) (r : RS485) : RS485 :=
  points.foldl (fun r point => interruptPoint now (irq point) r) r

/-- The wire has been silent since `rx_rb_last_length` was noted: nothing is added to
the RX ring up to interrupt point 5. -/
def RS485.Settled (now : ℕ) (irq : Interrupts) (r : RS485) : Prop :=
  ringbufferGetUsed (r.arrive now irq [0, 1, 2, 4, 5]).ringbufferRx = r.rxRbLastLength

/-- What has been received since the answer makes the frame fail its checks. -/
def RS485.FrameFails (now : ℕ) (irq : Interrupts) (r : RS485) : Prop :=
  rs485ModbusRtuFrameSizeMax <
      ringbufferGetUsed (r.arrive now irq [0, 1, 2, 4, 5, 6]).ringbufferRx ∨
    modbusCheckFrameChecksum r = false ∨ modbusMasterCheckSlaveResponse r = false

/-- A tick finds an answered request which has not been cleared, with the wire idle, and
the request is older than the request timeout, or more has been received and the frame
fails its checks now. -/
def RS485.Overturned (now : ℕ) (irq : Interrupts) (r : RS485) : Prop :=
  r.outcome = some .answered ∧ r.stateWire = .idle ∧
    (systemTimerIsTimeElapsedMs now r.timeRefMasterRequestTimeout
        r.modbusMasterRequestTimeout = true ∨
      (r.drained now).Settled now irq ∧ r.streamChunkingInProgress = false ∧
        (r.drained now).FrameFails now irq)

instance : Decidable (r.Settled now irq) := inferInstanceAs (Decidable (_ = _))

instance : Decidable (r.FrameFails now irq) := inferInstanceAs (Decidable (_ ∨ _ ∨ _))

instance : Decidable (r.Overturned now irq) := inferInstanceAs (Decidable (_ ∧ _ ∧ (_ ∨ _ ∧ _ ∧ _)))

/-- No tick overturns an answer. -/
def KeepsAnswer (r : RS485) : MasterEvent → Prop
  | .tick now irq => ¬ r.Overturned now irq
  | _ => True

instance : ∀ e, Decidable (KeepsAnswer r e)
  | .tick now irq => inferInstanceAs (Decidable (¬ r.Overturned now irq))
  | .receive _ _ | .rxIrq _ | .txIrq | .txShift | .request _ _ | .clear | .counters _ =>
    isTrue trivial

/-- Once a frame is long enough to have a checksum, bytes that arrive later do not change
who it is from. -/
theorem RxGrows.slaveResponse (hg : RxGrows P r r') (h : MasterInv r)
    (hsum : modbusCheckFrameChecksum r = true) :
    modbusMasterCheckSlaveResponse r' = modbusMasterCheckSlaveResponse r := by
  have h' := h.grows hg
  have hlast : r'.rxRbLastLength = r.rxRbLastLength := by rw [hg.frame]
  have htx : r'.ringbufferTx = r.ringbufferTx := by rw [hg.frame]
  have htwo : 2 ≤ r.rxRbLastLength := by
    have hlen : 2 ≤ r.receivedFrame.length := by
      rw [modbusCheckFrameChecksum, frameChecksumOk, Bool.and_eq_true, decide_eq_true_iff] at hsum
      exact hsum.1
    rwa [RS485.receivedFrame, List.length_map, List.length_range] at hlen
  have hbytes : r'.rxBytes r.rxRbLastLength = r.rxBytes r.rxRbLastLength := by
    apply rxBytes_grows hg.content
    rw [h.rx.length_rxContent]
    exact h.last
  have hrx : ∀ i < 2, r'.rxFrame i = r.rxFrame i := by
    intro i hi
    have hle : i < r.rxRbLastLength := hi.trans_le htwo
    have hnew := rxFrame_eq h'.rx ((hle.trans_le h.last).trans_le (hg.end_le h.rx)) hle
    have hold := rxFrame_eq h.rx (hle.trans_le h.last) hle
    rw [hbytes, hold] at hnew
    exact (Option.some.inj hnew).symm
  simp only [modbusMasterCheckSlaveResponse, RS485.txFrame, htx, hrx 0 (by omega),
    hrx 1 (by omega)]

theorem RxGrows.frameBad (hg : RxGrows P r r') (h : MasterInv r) :
    (modbusCheckFrameChecksum r' = false ∨ modbusMasterCheckSlaveResponse r' = false) ↔
      (modbusCheckFrameChecksum r = false ∨ modbusMasterCheckSlaveResponse r = false) := by
  rw [hg.checksum h.rx h.last]
  cases hsum : modbusCheckFrameChecksum r with
  | false => exact iff_of_true (Or.inl rfl) (Or.inl rfl)
  | true => rw [hg.slaveResponse h hsum]

theorem handleFrame_timedOut (h : MasterInv r) (ht : r.masterRequestTimedOut = false) :
    (modbusHandleFrame now irq r).masterRequestTimedOut = true ↔
      rs485ModbusRtuFrameSizeMax < ringbufferGetUsed (interruptPoint now (irq 6) r).ringbufferRx ∨
        modbusCheckFrameChecksum r = false ∨ modbusMasterCheckSlaveResponse r = false := by
  have hg₆ := h.interruptPoint now (irq 6)
  have h₆ := h.grows hg₆
  rw [← hg₆.frameBad h]
  simp only [modbusHandleFrame]
  -- points 6, 7 and 8 lie in front of the three checks: what arrives there is only appended
  generalize Bricklib2.interruptPoint now (irq 6) r = r₆ at hg₆ h₆ ⊢
  have ht₆ : r₆.masterRequestTimedOut = false := hg₆.same.timedOut.trans ht
  have hg₇ := h₆.interruptPoint now (irq 7)
  have h₇ := h₆.grows hg₇
  rw [← hg₇.frameBad h₆]
  split
  · rename_i htoo
    exact iff_of_true rfl (Or.inl htoo.1)
  rename_i htoo
  rw [or_iff_right (fun hlt => htoo ⟨hlt, ht₆⟩)]
  generalize Bricklib2.interruptPoint now (irq 7) r₆ = r₇ at hg₇ h₇ ⊢
  have ht₇ : r₇.masterRequestTimedOut = false := hg₇.same.timedOut.trans ht₆
  have hg₈ := h₇.interruptPoint now (irq 8)
  split
  · rename_i hsum
    exact iff_of_true rfl (Or.inl hsum.1)
  rename_i hsum
  rw [or_iff_right (fun hfalse => hsum ⟨hfalse, ht₇⟩)]
  rw [← hg₈.slaveResponse h₇ ((Bool.not_eq_false _).mp fun hfalse => hsum ⟨hfalse, ht₇⟩)]
  generalize Bricklib2.interruptPoint now (irq 8) r₇ = r₈ at hg₈ ⊢
  have ht₈ : r₈.masterRequestTimedOut = false := hg₈.same.timedOut.trans ht₇
  split
  · rename_i hslave
    exact iff_of_true rfl hslave.1
  · rename_i hslave
    apply iff_of_false
    · show ¬ r₈.masterRequestTimedOut = true
      rw [ht₈]
      decide
    · exact fun hfalse => hslave ⟨hfalse, ht₈⟩

theorem RxGrows.used_le (hg : RxGrows P r r') (hr : r.RxLinear) :
    ringbufferGetUsed r.ringbufferRx ≤ ringbufferGetUsed r'.ringbufferRx := by
  rw [hr.used, hg.linear.used]
  exact hg.end_le hr

theorem RxGrows.streaming (hg : RxGrows P r r') :
    r'.streamChunkingInProgress = r.streamChunkingInProgress := by rw [hg.frame]

theorem checkFrameComplete_timedOut (h : MasterInv r)
    (hs : r.requestState = .masterWaitingResponse)
    (hpos : 0 < ringbufferGetUsed r.ringbufferRx) (ht : r.masterRequestTimedOut = false) :
    (modbusCheckFrameComplete now irq r).masterRequestTimedOut = true ↔
      ringbufferGetUsed (r.arrive now irq [4, 5]).ringbufferRx = r.rxRbLastLength ∧
        r.streamChunkingInProgress = false ∧
        (rs485ModbusRtuFrameSizeMax < ringbufferGetUsed (r.arrive now irq [4, 5, 6]).ringbufferRx ∨
          modbusCheckFrameChecksum r = false ∨ modbusMasterCheckSlaveResponse r = false) := by
  have hg₄ := h.interruptPoint now (irq 4)
  have h₄ := h.grows hg₄
  have hpos₄ := hpos.trans_le (hg₄.used_le h.rx)
  show _ ↔ ringbufferGetUsed (interruptPoint now (irq 5)
      (interruptPoint now (irq 4) r)).ringbufferRx = _ ∧ _ ∧
    (_ < ringbufferGetUsed (interruptPoint now (irq 6) (interruptPoint now (irq 5)
      (interruptPoint now (irq 4) r))).ringbufferRx ∨ _)
  simp only [modbusCheckFrameComplete]
  -- points 4 and 5, behind the test for new bytes
  generalize Bricklib2.interruptPoint now (irq 4) r = r₄ at hg₄ h₄ hpos₄ ⊢
  have hg₅ := h₄.interruptPoint now (irq 5)
  have h₅ := h₄.grows hg₅
  rw [if_pos ⟨hg₄.same.state.trans hs, hpos₄⟩]
  generalize Bricklib2.interruptPoint now (irq 5) r₄ = r₅ at hg₅ h₅ ⊢
  have ht₅ : r₅.masterRequestTimedOut = false :=
    hg₅.same.timedOut.trans (hg₄.same.timedOut.trans ht)
  have hstays : ¬ r₅.masterRequestTimedOut = true := by
    rw [ht₅]
    decide
  have hstream : r₅.streamChunkingInProgress = r.streamChunkingInProgress :=
    hg₅.streaming.trans hg₄.streaming
  rw [← hg₄.frameBad h, ← hg₅.frameBad h₄, ← hg₄.same.last, ← hg₅.same.last, ← hstream]
  split
  · -- no byte has come since the last look: the frame is handled
    rename_i hsettled
    rw [and_iff_right hsettled]
    split
    · rename_i hstreaming
      refine iff_of_false hstays fun hbad => ?_
      rw [hstreaming] at hbad
      exact Bool.noConfusion hbad.1
    · rename_i hstreaming
      rw [and_iff_right (Bool.not_eq_true _ ▸ hstreaming)]
      exact handleFrame_timedOut h₅ ht₅
  · rename_i hsettled
    exact iff_of_false hstays fun hbad => hsettled hbad.1

theorem checkFrameGrown_timedOut (h : MasterInv r)
    (hs : r.requestState = .masterWaitingResponse)
    (hpos : 0 < ringbufferGetUsed r.ringbufferRx) (ht : r.masterRequestTimedOut = false) :
    (modbusCheckFrameGrown now irq r).masterRequestTimedOut = true ↔
      ringbufferGetUsed (r.arrive now irq [1, 2, 4, 5]).ringbufferRx = r.rxRbLastLength ∧
        r.streamChunkingInProgress = false ∧
        (rs485ModbusRtuFrameSizeMax <
            ringbufferGetUsed (r.arrive now irq [1, 2, 4, 5, 6]).ringbufferRx ∨
          modbusCheckFrameChecksum r = false ∨ modbusMasterCheckSlaveResponse r = false) := by
  have hg₁ := h.interruptPoint now (irq 1)
  have h₁ := h.grows hg₁
  have hpos₁ := hpos.trans_le (hg₁.used_le h.rx)
  show _ ↔ ringbufferGetUsed (RS485.arrive now irq [4, 5] (interruptPoint now (irq 2)
      (interruptPoint now (irq 1) r))).ringbufferRx = _ ∧ _ ∧
    (_ < ringbufferGetUsed (RS485.arrive now irq [4, 5, 6] (interruptPoint now (irq 2)
      (interruptPoint now (irq 1) r))).ringbufferRx ∨ _)
  simp only [modbusCheckFrameGrown]
  -- points 1 and 2, around the comparison of the fill counts
  generalize Bricklib2.interruptPoint now (irq 1) r = r₁ at hg₁ h₁ hpos₁ ⊢
  have hg₂ := h₁.interruptPoint now (irq 2)
  have h₂ := h₁.grows hg₂
  have hpos₂ := hpos₁.trans_le (hg₂.used_le h₁.rx)
  rw [if_pos ⟨hg₁.same.state.trans hs, hpos₁⟩]
  generalize Bricklib2.interruptPoint now (irq 2) r₁ = r₂ at hg₂ h₂ hpos₂ ⊢
  have hs₂ : r₂.requestState = .masterWaitingResponse :=
    hg₂.same.state.trans (hg₁.same.state.trans hs)
  have ht₂ : r₂.masterRequestTimedOut = false :=
    hg₂.same.timedOut.trans (hg₁.same.timedOut.trans ht)
  have hstream : r₂.streamChunkingInProgress = r.streamChunkingInProgress :=
    hg₂.streaming.trans hg₁.streaming
  rw [← hg₁.frameBad h, ← hg₂.frameBad h₁, ← hg₁.same.last, ← hg₂.same.last, ← hstream]
  split
  · -- what has arrived at point 2 is still there at point 5
    rename_i hgrown
    apply iff_of_false
    · show ¬ (interruptPoint now (irq 3) r₂).masterRequestTimedOut = true
      rw [(h₂.interruptPoint now (irq 3)).same.timedOut, ht₂]
      decide
    · rintro ⟨hsettled, -⟩
      have hg₄ := h₂.interruptPoint now (irq 4)
      have hg₅ := (h₂.grows hg₄).interruptPoint now (irq 5)
      have hle := (hg₄.trans hg₅).used_le h₂.rx
      have heq : ringbufferGetUsed (interruptPoint now (irq 5)
        (interruptPoint now (irq 4) r₂)).ringbufferRx = r₂.rxRbLastLength := hsettled
      omega
  · exact checkFrameComplete_timedOut h₂ hs₂ hpos₂ ht₂

/-- A request that has been answered waits, with its response in the RX ring. -/
theorem MasterInv.answered (h : MasterInv r) (ha : r.outcome = some .answered) :
    r.requestState = .masterWaitingResponse ∧ 0 < ringbufferGetUsed r.ringbufferRx := by
  obtain ⟨hcb, ht⟩ := outcome_eq_answered.mp ha
  rcases h.phase with hidle | ⟨q, older, hw⟩
  · rw [hidle.cbInvoke] at hcb
    cases hcb
  · have hL := hw.accepted hcb ht
    refine ⟨hw.state, ?_⟩
    rw [h.rx.used]
    have htwo := hL.two_le
    have hreceived := hL.received
    omega

theorem rxGrows_drained (h : MasterInv r) (now : ℕ) :
    RxGrows (fun _ => True) r (r.drained now) := by
  have hg := rxGrows_rxLoop (fun _ => True) h.rx
  rw [RS485.drained]
  split
  · exact hg
  · exact hg.time _

theorem updateWire_timedOut (h : MasterInv r) (ha : r.outcome = some .answered) :
    (modbusUpdateRtuWireStateMachine now irq r).masterRequestTimedOut = true ↔
      r.stateWire = .idle ∧
        (systemTimerIsTimeElapsedMs now r.timeRefMasterRequestTimeout
            r.modbusMasterRequestTimeout = true ∨
          ringbufferGetUsed (r.arrive now irq [1, 2, 4, 5]).ringbufferRx = r.rxRbLastLength ∧
          r.streamChunkingInProgress = false ∧
          (rs485ModbusRtuFrameSizeMax <
              ringbufferGetUsed (r.arrive now irq [1, 2, 4, 5, 6]).ringbufferRx ∨
            modbusCheckFrameChecksum r = false ∨ modbusMasterCheckSlaveResponse r = false)) := by
  obtain ⟨hs, hpos⟩ := h.answered ha
  have ht := (outcome_eq_answered.mp ha).2
  have hstays : ¬ r.masterRequestTimedOut = true := by
    rw [ht]
    decide
  unfold modbusUpdateRtuWireStateMachine
  cases hwire : r.stateWire with
  | idle =>
    simp only [if_pos h.mode, true_and]
    -- the time is up, or the frame is looked at once more
    by_cases helapsed : systemTimerIsTimeElapsedMs now r.timeRefMasterRequestTimeout
        r.modbusMasterRequestTimeout = true
    · rw [if_pos ⟨hs, helapsed, ht⟩]
      exact iff_of_true rfl (Or.inl helapsed)
    · rw [if_neg fun hguard => helapsed hguard.2.1, or_iff_right helapsed]
      exact checkFrameGrown_timedOut h hs hpos ht
  | rx =>
    -- while a byte is on the wire nothing is checked
    apply iff_of_false
    · show ¬ (if _ then _ else _ : RS485).masterRequestTimedOut = true
      split <;> exact hstays
    · rintro ⟨hidle, -⟩
      cases hidle
  | tx =>
    apply iff_of_false
    · show ¬ (if _ then _ else _ : RS485).masterRequestTimedOut = true
      split
      · simp only
        split <;> exact hstays
      · exact hstays
    · rintro ⟨hidle, -⟩
      cases hidle

/-- A tick overturns an answer exactly under the condition `Overturned`. -/
theorem tick_overturned (h : MasterInv r) (ha : r.outcome = some .answered) :
    (rs485Tick now irq r).masterRequestTimedOut = true ↔ r.Overturned now irq := by
  have hg := rxGrows_drained h now
  have hd := h.grows hg
  have hg₀ := hd.interruptPoint now (irq 0)
  have h₀ := hd.grows hg₀
  have hgrows := hg.trans hg₀
  rw [rs485Tick_eq, if_pos (Or.inl h₀.mode), RS485.Overturned, and_iff_right ha]
  show _ ↔ _ ∧ (_ ∨ ringbufferGetUsed (RS485.arrive now irq [1, 2, 4, 5]
      (interruptPoint now (irq 0) (r.drained now))).ringbufferRx = _ ∧ _ ∧
    (_ < ringbufferGetUsed (RS485.arrive now irq [1, 2, 4, 5, 6]
      (interruptPoint now (irq 0) (r.drained now))).ringbufferRx ∨ _))
  rw [← hg₀.frameBad hd, ← hg₀.same.last]
  generalize Bricklib2.interruptPoint now (irq 0) (r.drained now) = r₀ at hg₀ h₀ hgrows ⊢
  have ha₀ : r₀.outcome = some .answered := by
    rw [hgrows.frame]
    exact ha
  have htime : r₀.timeRefMasterRequestTimeout = r.timeRefMasterRequestTimeout := by
    rw [hgrows.frame]
  have htimeout : r₀.modbusMasterRequestTimeout = r.modbusMasterRequestTimeout := by
    rw [hgrows.frame]
  rw [updateWire_timedOut h₀ ha₀, hgrows.same.wire, hgrows.streaming, htime, htimeout]

/-! ### Runs -/

/-- The request and the outcome reported for it are left alone. -/
structure SameOutcome (r r' : RS485) : Prop where
  state : r'.requestState = r.requestState
  called : r'.requestCbInvoke = r.requestCbInvoke
  timedOut : r'.masterRequestTimedOut = r.masterRequestTimedOut

theorem SameOutcome.outcome (h : SameOutcome r r') : r'.outcome = r.outcome := by
  rw [RS485.outcome, RS485.outcome, h.called, h.timedOut]

theorem RxGrows.sameOutcome (hg : RxGrows P r r') : SameOutcome r r' := by
  constructor <;> rw [hg.frame]

theorem sameOutcome_txIrq (h : MasterInv r) (hevent : r.txEvent = true) :
    SameOutcome r (rs485TxIrqHandler r) := by
  rcases h.phase with hidle | ⟨q, older, hw⟩
  · rw [hidle.txEvent] at hevent
    cases hevent
  · obtain ⟨⟨start, level, event, done, sent, hf, -⟩, -, -⟩ := txMoves_txIrq hw.requests hw.onWire
    constructor <;> rw [hf]

/-- Neither a tick nor a call of the client. -/
def MasterEvent.Passive : MasterEvent → Prop
  | .tick _ _ | .request _ _ | .clear => False
  | .receive _ _ | .rxIrq _ | .txIrq | .txShift | .counters _ => True

theorem sameOutcome_step (h : MasterInv r) {e : MasterEvent}
    (hstep : masterStep r e = some r') (he : e.Passive) : SameOutcome r r' := by
  cases e with
  | receive value answers =>
    obtain rfl := Option.some.inj hstep
    exact ⟨rfl, rfl, rfl⟩
  | rxIrq time =>
    obtain rfl := Option.some.inj hstep
    exact (rxGrows_rxIrq (fun _ => True) h.rx time).sameOutcome
  | txIrq =>
    obtain ⟨hevent, ht⟩ := Option.ite_none_right_eq_some.mp hstep
    obtain rfl := Option.some.inj ht
    exact sameOutcome_txIrq h hevent
  | txShift =>
    obtain rfl := Option.some.inj hstep
    exact ⟨rfl, rfl, rfl⟩
  | counters c =>
    obtain rfl := Option.some.inj hstep
    exact ⟨rfl, rfl, rfl⟩
  | tick time irq => exact he.elim
  | request time q => exact he.elim
  | clear => exact he.elim

/-- The time-outs counted for the newest request, as far as it is known by its flag. -/
structure CountsTimeouts (r : RS485) (timeouts : ℕ) : Prop where
  le_one : timeouts ≤ 1
  waiting : r.requestState = .masterWaitingResponse → r.masterRequestTimedOut = false →
    timeouts = 0
  called : r.masterRequestTimedOut = true → r.requestCbInvoke = true

theorem CountsTimeouts.same {timeouts : ℕ} (hn : CountsTimeouts r timeouts)
    (h : SameOutcome r r') : CountsTimeouts r' timeouts := by
  refine ⟨hn.le_one, ?_, ?_⟩
  · rw [h.state, h.timedOut]
    exact hn.waiting
  · rw [h.timedOut, h.called]
    exact hn.called

theorem MasterInv.busIdle_of_canIssue (h : MasterInv r) {q : MeterRequest} (hc : r.CanIssue q) :
    BusIdle r := by
  have hfree := hc.1
  simp only [RS485.busFree, Bool.and_eq_true, beq_iff_eq] at hfree
  exact h.busIdle hfree.1.1

theorem countsTimeouts_request (h : MasterInv r) (now : ℕ) {q : MeterRequest}
    (hc : r.CanIssue q) : CountsTimeouts (meterIssue now q r) 0 := by
  have hidle := h.busIdle_of_canIssue hc
  obtain ⟨⟨start, buffer, level, event, done, id, sent, hf, -⟩, -⟩ :=
    issued_meterIssue now h.mode h.tx h.level hidle.txDone hc
  refine ⟨Nat.zero_le 1, fun _ _ => rfl, fun ht => ?_⟩
  rw [hf] at ht
  exact absurd (hidle.timedOut.symm.trans ht) (by decide)

theorem CountsTimeouts.tick {timeouts : ℕ} (hn : CountsTimeouts r timeouts) (now : ℕ)
    (irq : Interrupts) : CountsTimeouts (rs485Tick now irq r)
      (timeoutNote r (.tick now irq) (rs485Tick now irq r) timeouts) := by
  rcases oneOutcome_tick now irq r with hkeep | hout
  · have hnote : timeoutNote r (.tick now irq) (rs485Tick now irq r) timeouts = timeouts := by
      simp only [timeoutNote, hkeep.timeouts, Nat.sub_self, Nat.add_zero]
    rw [hnote]
    refine ⟨hn.le_one, ?_, fun ht => ?_⟩
    · rw [hkeep.state, hkeep.timedOut]
      exact hn.waiting
    · exact hkeep.called (hn.called (hkeep.timedOut.symm.trans ht))
  · have hnote : timeoutNote r (.tick now irq) (rs485Tick now irq r) timeouts = 1 := by
      simp only [timeoutNote, hout.timeouts, hn.waiting hout.waiting hout.first, Nat.zero_add,
        Nat.add_sub_cancel_left]
    rw [hnote]
    refine ⟨Nat.le_refl 1, fun _ ht => ?_, fun _ => hout.called⟩
    exact absurd (ht.symm.trans hout.timedOut) (by decide)

theorem CountsTimeouts.step {timeouts : ℕ} (h : MasterInv r) (hn : CountsTimeouts r timeouts)
    {e : MasterEvent} (hstep : masterStep r e = some r') :
    CountsTimeouts r' (timeoutNote r e r' timeouts) := by
  cases e with
  | tick time irq =>
    obtain rfl := Option.some.inj hstep
    exact hn.tick time irq
  | request time q =>
    obtain ⟨hc, ht⟩ := Option.ite_none_right_eq_some.mp hstep
    obtain rfl := Option.some.inj ht
    exact countsTimeouts_request h time hc
  | clear =>
    obtain ⟨hc, ht⟩ := Option.ite_none_right_eq_some.mp hstep
    obtain rfl := Option.some.inj ht
    refine ⟨hn.le_one, fun hs => ?_, fun ht => ?_⟩
    · cases hs
    · cases ht
  | _ => exact hn.same (sameOutcome_step h hstep trivial)

theorem singleOutcome_tick {timeouts : ℕ} (h : MasterInv r) (hn : CountsTimeouts r timeouts)
    (now : ℕ) (irq : Interrupts) :
    SingleOutcome (r, timeouts) (.tick now irq) ↔ ¬ r.Overturned now irq := by
  have hcount := hn.tick now irq
  have hone := oneOutcome_tick now irq r
  have hstep : masterStep r (.tick now irq) = some (rs485Tick now irq r) := rfl
  constructor
  · -- a tick that overturns an answer counts a time-out for it
    intro hsingle hover
    have ha : r.outcome = some .answered := hover.1
    obtain ⟨-, -, hle⟩ := hsingle
      (rs485Tick now irq r, timeoutNote r (.tick now irq) (rs485Tick now irq r) timeouts)
      (observed_eq_some.mpr ⟨hstep, rfl⟩)
    have hout := (tick_overturned h ha).mpr hover
    rcases hone with hkeep | hout'
    · rw [hkeep.timedOut, (outcome_eq_answered.mp ha).2] at hout
      cases hout
    · have hle' : timeouts + ((rs485Tick now irq r).errorCounters.timeout -
          r.errorCounters.timeout) ≤ timeouts := hle ha
      have htimeouts := hout'.timeouts
      omega
  · -- otherwise the tick keeps the outcome, or gives the first one
    rintro hkeeps ⟨r', timeouts'⟩ hnext
    obtain ⟨hnext, hnote⟩ := observed_eq_some.mp hnext
    obtain rfl := Option.some.inj hnext
    dsimp only at hnote ⊢
    subst hnote
    refine ⟨Or.inr ?_, hcount.le_one, fun ha => ?_⟩
    · cases hcb : r.requestCbInvoke with
      | false =>
        left
        rw [RS485.outcome, hcb]
        rfl
      | true =>
        right
        rcases hone with hkeep | hout
        · rw [RS485.outcome, RS485.outcome, hkeep.timedOut, hkeep.called hcb, hcb]
        · have ha := outcome_eq_answered.mpr ⟨hcb, hout.first⟩
          exact absurd ((tick_overturned h ha).mp hout.timedOut) hkeeps
    · rcases hone with hkeep | hout
      · show timeouts + (_ - _) ≤ timeouts
        rw [hkeep.timeouts, Nat.sub_self]
        exact le_rfl
      · exact absurd ((tick_overturned h ha).mp hout.timedOut) hkeeps

theorem singleOutcome_iff {timeouts : ℕ} (h : MasterInv r) (hn : CountsTimeouts r timeouts)
    (e : MasterEvent) : SingleOutcome (r, timeouts) e ↔ KeepsAnswer r e := by
  cases e with
  | tick now irq => exact singleOutcome_tick h hn now irq
  | request now q =>
    refine iff_of_true ?_ trivial
    rintro ⟨r', timeouts'⟩ hstep
    obtain ⟨hnext, hnote⟩ := observed_eq_some.mp hstep
    obtain ⟨hc, -⟩ := Option.ite_none_right_eq_some.mp hnext
    dsimp only [timeoutNote] at hnote ⊢
    subst hnote
    refine ⟨Or.inr (Or.inl ?_), Nat.zero_le 1, fun _ => Nat.zero_le _⟩
    rw [RS485.outcome, (h.busIdle_of_canIssue hc).cbInvoke]
    rfl
  | clear =>
    refine iff_of_true ?_ trivial
    rintro ⟨r', timeouts'⟩ hstep
    obtain ⟨-, hnote⟩ := observed_eq_some.mp hstep
    dsimp only [timeoutNote] at hnote ⊢
    subst hnote
    exact ⟨Or.inl rfl, hn.le_one, fun _ => le_rfl⟩
  | _ =>
    refine iff_of_true ?_ trivial
    rintro ⟨r', timeouts'⟩ hstep
    obtain ⟨hnext, hnote⟩ := observed_eq_some.mp hstep
    dsimp only [timeoutNote] at hnext hnote ⊢
    subst hnote
    refine ⟨Or.inr (Or.inr ?_), hn.le_one, fun _ => le_rfl⟩
    exact (sameOutcome_step h hnext trivial).outcome

/-- In every run of the master, each request has a single outcome and is counted as timed
out at most once, exactly if no tick overturns an answer before the client clears it. -/
theorem single_outcome {bufferSize : ℕ} (h : 2 ≤ bufferSize) (txFifoSize start : ℕ)
    (events : List MasterEvent) :
    Meets (observed masterStep timeoutNote) SingleOutcome
        (rs485Init bufferSize txFifoSize start, 0) events ↔
      Meets masterStep KeepsAnswer (rs485Init bufferSize txFifoSize start) events := by
  have hinv : ∀ p e p', MasterInv p.1 ∧ CountsTimeouts p.1 p.2 →
      observed masterStep timeoutNote p e = some p' → MasterInv p'.1 ∧ CountsTimeouts p'.1 p'.2 := by
    rintro p e p' ⟨hm, hn⟩ hstep
    obtain ⟨hnext, hnote⟩ := observed_eq_some.mp hstep
    rw [hnote]
    exact ⟨hm.step hnext, hn.step hm hnext⟩
  have hstart : CountsTimeouts (rs485Init bufferSize txFifoSize start) 0 := by
    refine ⟨Nat.zero_le 1, fun _ _ => rfl, fun ht => ?_⟩
    cases ht
  have hplain : Meets (observed masterStep timeoutNote) (fun p e => KeepsAnswer p.1 e)
      (rs485Init bufferSize txFifoSize start, 0) events ↔
      Meets masterStep KeepsAnswer (rs485Init bufferSize txFifoSize start) events :=
    meets_observed
  rw [← hplain]
  apply meets_congr hinv
  · rintro ⟨r, timeouts⟩ e ⟨hm, hn⟩
    exact singleOutcome_iff hm hn e
  · exact ⟨masterInv_rs485Init h txFifoSize start, hstart⟩

/-- A voltage is read, and the answer is cleared. -/
theorem single_outcome_voltage :
    Meets (observed masterStep timeoutNote) SingleOutcome (rs485Init 64 16 0, 0)
      (readVoltageRun ++ [.clear]) :=
  (single_outcome (by decide) 16 0 _).mpr (by decide +kernel)

/-- The answer is not cleared before the request timeout, and turns into a time-out. -/
def forgottenAnswerRun : List MasterEvent := readVoltageRun ++ [.tick 1001 noInterrupts]

theorem answer_overturned :
    ¬ Meets (observed masterStep timeoutNote) SingleOutcome (rs485Init 64 16 0, 0)
      forgottenAnswerRun := by
  intro hmeets
  have hrun : run (observed masterStep timeoutNote) (rs485Init 64 16 0, 0) readVoltageRun =
      some (after masterStep (rs485Init 64 16 0) readVoltageRun, 0) := by decide +kernel
  have hlast := meets_iff_next.mp hmeets readVoltageRun (.tick 1001 noInterrupts) [] _ rfl hrun
  obtain ⟨-, -, hcount⟩ := hlast (_, _) rfl
  exact absurd (hcount (by decide +kernel)) (by decide +kernel)

end Bricklib2
