/-
Bricklib2/Warp/StateClock.lean

How long `meter.state` stays the same.  A clock beside the meter stack keeps the
time of the last `meter_tick` and the time since when the state of the driver is
what it is.  Between two moves of a driver lies at most the time a response may
take; what remains is how many moves a state can hold.

Only state 0 of the Iskra driver holds any number: the fast cycle runs in it.
-/
import Bricklib2.Warp.MeterHandOver

namespace Bricklib2

open Machine

variable {F : Type} {s s' : Stack F} {env : TickEnv} {now : ℕ}

/-! ### The clock -/

/-- The true times of the last `meter_tick`, and of the last one that has changed
`meter.state` or found no driver. -/
structure StateClock where
  last : ℕ
  since : ℕ
  deriving DecidableEq, Repr

/-- The clock after a step. -/
def StateClock.note (s : Stack F) (e : StackEvent) (s' : Stack F) (c : StateClock) : StateClock :=
  match e with
  | .meterTick env =>
    if s.meter.type.driver = none ∨ s'.meter.state ≠ s.meter.state then ⟨env.now, env.now⟩
    else ⟨env.now, c.since⟩
  | .receive _ _ | .rxIrq _ | .txIrq | .txShift | .rs485Tick _ _ => c

/-- The meter stack with the clock. -/
def clockedStep [CFloat F] : Stack F × StateClock → StackEvent → Option (Stack F × StateClock) :=
  observed stackStep StateClock.note

/-- The longest time between two ticks. -/
def tickGapMs : ℕ := 100

/-- When a request has been answered or has timed out, at the latest. -/
def answerMs : ℕ := modbusDefaultMasterRequestTimeout + 100

/-- Nothing outside the meter code uses the bus, and once a meter is found a tick comes
`gap` ms after the last one and finds a request answered, or timed out, `answer` ms
after it was issued, at the latest. -/
def StackEvent.Punctual (gap answer : ℕ) (p : Stack F × StateClock) : StackEvent → Prop
  | .meterTick env => env.ExternalIdle ∧ (p.1.meter.type.driver ≠ none →
      p.2.last ≤ env.now ∧ env.now ≤ p.2.last + gap ∧
        (p.1.outstanding.isSome = true →
          systemTimerIsTimeElapsedMs env.now p.1.rs485.timeRefMasterRequestTimeout answer = true →
          p.1.rs485.requestCbInvoke = true))
  | .receive _ _ | .rxIrq _ | .txIrq | .txShift | .rs485Tick _ _ => True

instance (gap answer : ℕ) (p : Stack F × StateClock) (e : StackEvent) :
    Decidable (e.Punctual gap answer p) :=
  match e with
  | .meterTick _ => inferInstanceAs (Decidable (_ ∧ (_ → _)))
  | .receive _ _ | .rxIrq _ | .txIrq | .txShift | .rs485Tick _ _ => isTrue trivial

/-- The tick finds both cycles of the Iskra driver at rest, and the fast one is due. -/
def Stack.startsFast (now : ℕ) (s : Stack F) : Bool :=
  s.meter.type.driver == some .iskra && !s.iskra.fastActive && iskraFastDue now s

/-- How long state 0 of the Iskra driver may last with fast cycles being started. -/
def fastCyclesMs : ℕ := 55000

/-- No fast cycle is started when the slow one has not had its turn for 55 seconds. -/
def StackEvent.SlowServed (p : Stack F × StateClock) : StackEvent → Prop
  | .meterTick env => waiting env.now p.1.meter.errorWaitTime 500 = false →
      p.1.startsFast env.now = true → env.now < p.2.since + fastCyclesMs
  | .receive _ _ | .rxIrq _ | .txIrq | .txShift | .rs485Tick _ _ => True

instance (p : Stack F × StateClock) (e : StackEvent) : Decidable (e.SlowServed p) :=
  match e with
  | .meterTick _ => inferInstanceAs (Decidable (_ → _ → _))
  | .receive _ _ | .rxIrq _ | .txIrq | .txShift | .rs485Tick _ _ => isTrue trivial

/-! ### Times of the code -/

theorem waiting_iff {start time : ℕ} : waiting now start time = true ↔
    start ≠ 0 ∧ (now % 2 ^ 32 + 2 ^ 32 - start % 2 ^ 32) % 2 ^ 32 < time := by
  rw [waiting, Bool.and_eq_true, bne_iff_ne, Bool.not_eq_true', systemTimerIsTimeElapsedMs,
    decide_eq_false_iff_not, not_le]
  exact Iff.rfl

/-- A waiting time that is on at two times is not over in between. -/
theorem waiting_short {n start time : ℕ} (hn : waiting n start time = true)
    (hnow : waiting now start time = true) (hle : n ≤ now) (hlt : now < n + 2 ^ 31)
    (htime : time < 2 ^ 31) : now < n + time := by
  obtain ⟨-, hn⟩ := waiting_iff.mp hn
  obtain ⟨-, hnow⟩ := waiting_iff.mp hnow
  omega

/-- The time of a request is noted when it is issued. -/
theorem txLoop_timeRef (free : ℕ) (r : RS485) :
    (rs485TxLoop free r).timeRefMasterRequestTimeout = r.timeRefMasterRequestTimeout := by
  induction free generalizing r with
  | zero => rfl
  | succ free ih =>
    simp only [rs485TxLoop]
    split
    · rfl
    · rw [ih, RS485.logSent]
      split <;> rfl

theorem issue_timeRef (now : ℕ) (q : MeterRequest) (s : Stack F) :
    (s.issue now q).rs485.timeRefMasterRequestTimeout = systemTimerGetMs now := by
  show (meterIssue now q s.rs485).timeRefMasterRequestTimeout = _
  rw [meterIssue_eq, modbusStartTx, modbusStartTxFromBuffer, rs485TxIrqHandler, txLoop_timeRef,
    modbusStartTxFromBuffer, rs485TxIrqHandler]
  exact txLoop_timeRef _ _

theorem rs485Tick_timeRef (now : ℕ) (irq : Interrupts) (r : RS485) :
    (rs485Tick now irq r).timeRefMasterRequestTimeout = r.timeRefMasterRequestTimeout := by
  apply tick_induct (R := fun r r' : RS485 =>
    r'.timeRefMasterRequestTimeout = r.timeRefMasterRequestTimeout)
  · exact fun _ => rfl
  · exact fun h h' => h'.trans h
  · intro r r' hstep
    cases hstep with
    | drain =>
      obtain ⟨ring, overrun, hloop⟩ := rxLoop_eq r
      rw [hloop]
    | interrupt point =>
      obtain ⟨ring, overrun, time, fifo, heq⟩ := interruptPoint_eq now (irq point) r
      rw [heq]
    | _ => rfl

/-! ### Moves of a driver -/

/-- The longest time between two moves of a driver. -/
def moveMs : ℕ := answerMs + tickGapMs

/-- The driver is in a state in which it waits for a response. -/
def Stack.waits (s : Stack F) : Bool :=
  match s.meter.type.driver with
  | some .eastron =>
    s.meter.state == 1 || s.meter.state == 3 || s.meter.state == 5 || s.meter.state == 7
  | some .generic | some .eltako => s.meter.state == 1
  | some .iskra => (iskraOutstanding s).isSome
  | none => false

/-- How long `meter.state` may have been what it is at the last move of the driver:
the Eltako driver stores its registers in state 2, and the fast cycle of the Iskra
driver runs in state 0. -/
def Stack.stateAge (s : Stack F) : ℕ :=
  match s.meter.type.driver with
  | some .eltako => if s.meter.state = 2 then moveMs * s.statics.eltakoDataI else 0
  | some .iskra =>
    if s.meter.state ≠ 0 then 0
    else if s.iskra.fastActive then fastCyclesMs + moveMs * (s.iskra.fastState - 1)
    else fastCyclesMs + moveMs * 3
  | some .eastron | some .generic | none => 0

/-- What no tick of a driver changes. -/
structure TimesKept (s s' : Stack F) : Prop where
  type : s'.meter.type = s.meter.type
  timeout : s'.meter.timeout = s.meter.timeout
  firstTick : s'.meter.firstTick = s.meter.firstTick
  lastState : s'.statics.lastState = s.statics.lastState

/-- If the driver waits, it has just issued its request. -/
def JustAsked (now : ℕ) (s s' : Stack F) : Prop :=
  s'.waits = true → s'.meter.errorWaitTime = s.meter.errorWaitTime ∧
    s'.rs485.timeRefMasterRequestTimeout = systemTimerGetMs now

/-- One tick of a driver.  It waits for a response; it rests, which only the Eltako
driver does; it goes on to another state; or it goes on in the same one. -/
inductive DriverMove (now : ℕ) (s s' : Stack F) : Prop
  | wait (q : MeterRequest) (hsame : s' = s) (hwaits : s.waits = true)
      (hout : s.outstanding = some q) (hready : meterIsResponseReady q.fc s.rs485 = false)
  | rest (hdriver : s.meter.type.driver = some .eltako) (hstate : s.meter.state = 3)
      (hstate' : s'.meter.state = 3)
      (htime : systemTimerIsTimeElapsedMs now s.statics.eltakoTimeSinceRead 100 = false)
      (herror : s'.meter.errorWaitTime = s.meter.errorWaitTime)
  | change (hstate : s'.meter.state ≠ s.meter.state) (hasked : JustAsked now s s')
  | advance (hstate : s'.meter.state = s.meter.state) (hasked : JustAsked now s s')
      (hage : s'.stateAge = s.stateAge + moveMs)
  | startFast (hstate : s'.meter.state = s.meter.state) (hasked : JustAsked now s s')
      (hstarts : s.startsFast now = true) (hage : s'.stateAge = fastCyclesMs)

theorem TimesKept.refl (s : Stack F) : TimesKept s s := ⟨rfl, rfl, rfl, rfl⟩

theorem TimesKept.trans {s'' : Stack F} (h : TimesKept s s') (h' : TimesKept s' s'') :
    TimesKept s s'' where
  type := h'.type.trans h.type
  timeout := h'.timeout.trans h.timeout
  firstTick := h'.firstTick.trans h.firstTick
  lastState := h'.lastState.trans h.lastState

theorem Taken.timesKept (h : Taken s s') : TimesKept s s' := by
  obtain ⟨c, t, a, log, rfl⟩ := h
  exact ⟨rfl, rfl, rfl, rfl⟩

theorem outstanding_of_driver {driver : MeterDriver} (h : s.meter.type.driver = some driver) :
    s.outstanding = driver.outstanding s := by
  have htype : s.meter.type ≠ .unknown := by
    intro htype
    rw [unknown_driver htype] at h
    cases h
  rw [stackOutstanding_known htype, h]
  rfl

/-- A state in which the driver waits for nothing. -/
theorem justAsked_of_not (h : s'.waits = false) : JustAsked now s s' := by
  intro hwaits
  rw [h] at hwaits
  cases hwaits

/-- The driver has issued a request. -/
theorem justAsked_of_issue (q : MeterRequest) (herror : s'.meter.errorWaitTime = s.meter.errorWaitTime)
    (hissue : s'.rs485 = (s.issue now q).rs485) : JustAsked now s s' := by
  intro _
  rw [hissue]
  exact ⟨herror, issue_timeRef now q s⟩

/-! ### The table scan -/

theorem scanRegister_moves (driver : ScanDriver) (readFast : Bool) (now : ℕ) (s : Stack F) :
    TimesKept s (meterScanRegister driver readFast now s) ∧
      DriverMove now s (meterScanRegister driver readFast now s) := by
  let position := if readFast then s.meter.registerFastPosition else s.meter.registerFullPosition
  refine ⟨by cases driver <;> exact ⟨rfl, rfl, rfl, rfl⟩, .change ?_ ?_⟩
  · cases driver <;> exact Nat.succ_ne_self s.meter.state
  · cases driver <;> exact justAsked_of_issue (s.meter.readRequest position) rfl rfl

theorem scanRequest_moves (driver : ScanDriver) (now : ℕ) (s : Stack F) :
    TimesKept s (meterScanRequest driver now s) ∧
      DriverMove now s (meterScanRequest driver now s) :=
  scanRegister_moves driver _ now s

variable [CFloat F]

theorem scanRead_moves {driver : ScanDriver} (hstate : s.meter.state = 1)
    (h : meterScanRead driver env s = some s') : TimesKept s s' ∧
      (s' = s ∧ meterIsResponseReady modbusFcReadInputRegisters s.rs485 = false ∨
        s'.meter.state = 0 ∨ s'.meter.state = 2) := by
  rcases meterScanRead_cases h with ⟨hready, rfl⟩ | ⟨data, s₁, value, address, hresponse, -, -, hscan⟩
  · exact ⟨.refl s', Or.inl ⟨rfl, hready⟩⟩
  · obtain ⟨-, ⟨c, t, a, log, rfl⟩, -⟩ := meterGetReadRegistersResponse_some hresponse
    rcases hscan with ⟨-, b, p, t', cb, rfl⟩ | ⟨-, p, regs, once, calls, rfl, -⟩
    · refine ⟨?_, Or.inr (Or.inl ?_)⟩
      · cases driver <;> cases address <;> exact ⟨rfl, rfl, rfl, rfl⟩
      · cases driver <;> cases address <;> rfl
    · refine ⟨?_, Or.inr (Or.inr ?_)⟩
      · cases address <;> exact ⟨rfl, rfl, rfl, rfl⟩
      · show s.meter.state + 1 = 2
        rw [hstate]

theorem genericTick_moves (hdriver : s.meter.type.driver = some .generic)
    (h : meterGenericTick env s = some s') : TimesKept s s' ∧ DriverMove env.now s s' := by
  rcases meterGenericTick_cases h with ⟨hstate, rfl⟩ | ⟨hstate, hread⟩ | ⟨hstate, phases, rfl⟩
  · exact scanRequest_moves .generic env.now s
  · obtain ⟨hkept, hmoves⟩ := scanRead_moves hstate hread
    refine ⟨hkept, ?_⟩
    rcases hmoves with ⟨rfl, hready⟩ | hstate'
    · apply DriverMove.wait (s'.meter.readRequest (ScanDriver.generic.position s')) rfl _ _ hready
      · rw [Stack.waits, hdriver, hstate]
        rfl
      · rw [outstanding_of_driver hdriver]
        exact if_pos hstate
    · apply DriverMove.change
      · omega
      · apply justAsked_of_not
        rw [Stack.waits, hkept.type, hdriver]
        exact beq_false_of_ne (by omega)
  · refine ⟨⟨rfl, rfl, rfl, rfl⟩, .change ?_ ?_⟩
    · show 0 ≠ s.meter.state
      omega
    · apply justAsked_of_not
      rw [Stack.waits, hdriver]
      rfl

/-! ### The other drivers -/

omit [CFloat F] in
theorem eastronMove_moves (hdriver : s.meter.type.driver = some .eastron)
    (hseven : s.meter.state = 7 → s.meter.connectedSystemType ≠ none)
    (h : EastronMove now s s') : TimesKept s s' ∧ DriverMove now s s' := by
  -- the odd states wait for a response
  have hwaits {t : Stack F} (htype : t.meter.type = s.meter.type) : t.waits =
      (t.meter.state == 1 || t.meter.state == 3 || t.meter.state == 5 || t.meter.state == 7) := by
    rw [Stack.waits, htype, hdriver]
  have hquiet {t : Stack F} (htype : t.meter.type = s.meter.type)
      (hstate : t.meter.state ≠ 1 ∧ t.meter.state ≠ 3 ∧ t.meter.state ≠ 5 ∧ t.meter.state ≠ 7) :
      t.waits = false := by
    simp only [hwaits htype, beq_false_of_ne hstate.1, beq_false_of_ne hstate.2.1,
      beq_false_of_ne hstate.2.2.1, beq_false_of_ne hstate.2.2.2, Bool.or_false]
  cases h with
  | wait fc hfc hstate hready =>
    refine ⟨.refl s, ?_⟩
    have hout : ∃ q : MeterRequest, eastronOutstanding s = some q ∧ q.fc = fc := by
      rcases hstate with hstate | hstate | hstate
      · refine ⟨_, by simp only [eastronOutstanding, hstate]; rfl, ?_⟩
        rw [hfc, hstate]
        rfl
      · refine ⟨s.meter.passwordRequest, by simp only [eastronOutstanding, hstate], ?_⟩
        rw [hfc, hstate]
        rfl
      · obtain ⟨systemType, hsystem⟩ := Option.ne_none_iff_exists'.mp (hseven hstate)
        refine ⟨s.meter.systemTypeRequest systemType, ?_, ?_⟩
        · simp only [eastronOutstanding, hstate, hsystem, Option.map_some]
        · rw [hfc, hstate]
          rfl
    obtain ⟨q, hq, rfl⟩ := hout
    apply DriverMove.wait q rfl _ _ hready
    · rw [hwaits rfl]
      rcases hstate with hstate | hstate | hstate <;> rw [hstate] <;> rfl
    · rw [outstanding_of_driver hdriver]
      exact hq
  | restart phases hstate =>
    refine ⟨⟨rfl, rfl, rfl, rfl⟩, .change hstate.1.symm ?_⟩
    apply justAsked_of_not
    apply hquiet
    · rfl
    · show 0 ≠ 1 ∧ 0 ≠ 3 ∧ 0 ≠ 5 ∧ 0 ≠ 7
      decide
  | take fc phases isNew read hstate hready htaken =>
    obtain ⟨htype, htimeout, hfirst, hlast⟩ := htaken.timesKept
    refine ⟨⟨htype, htimeout, hfirst, hlast⟩, .change (Nat.succ_ne_self s.meter.state) ?_⟩
    apply justAsked_of_not
    apply hquiet
    · exact htype
    · show s.meter.state + 1 ≠ 1 ∧ s.meter.state + 1 ≠ 3 ∧ s.meter.state + 1 ≠ 5 ∧
        s.meter.state + 1 ≠ 7
      omega
  | readSystemType hstate =>
    refine ⟨⟨rfl, rfl, rfl, rfl⟩, .change ?_ ?_⟩
    · show 3 ≠ s.meter.state
      omega
    · exact justAsked_of_issue (.readRegisters modbusFcReadHoldingRegisters s.meter.slaveAddress
        meterSdmHoldingRegSystemType 2) rfl rfl
  | writePassword hstate =>
    refine ⟨⟨rfl, rfl, rfl, rfl⟩, .change ?_ ?_⟩
    · show 5 ≠ s.meter.state
      omega
    · exact fun _ => ⟨rfl, issue_timeRef now s.meter.passwordRequest s.clearRequest⟩
  | writeSystemType systemType hstate hphases =>
    refine ⟨⟨rfl, rfl, rfl, rfl⟩, .change ?_ ?_⟩
    · show 7 ≠ s.meter.state
      omega
    · exact fun _ => ⟨rfl, issue_timeRef now (s.meter.systemTypeRequest systemType) s.clearRequest⟩

theorem eastronTick_moves (hdriver : s.meter.type.driver = some .eastron)
    (hseven : s.meter.state = 7 → s.meter.connectedSystemType ≠ none)
    (h : meterEastronTick env s = some s') : TimesKept s s' ∧ DriverMove env.now s s' := by
  rcases meterEastronTick_cases h with ⟨hstate, rfl⟩ | ⟨hstate, hread⟩ | hmove
  · exact scanRequest_moves .eastron env.now s
  · obtain ⟨hkept, hmoves⟩ := scanRead_moves hstate hread
    refine ⟨hkept, ?_⟩
    rcases hmoves with ⟨rfl, hready⟩ | hstate'
    · apply DriverMove.wait (s'.meter.readRequest (ScanDriver.eastron.position s')) rfl _ _ hready
      · rw [Stack.waits, hdriver, hstate]
        rfl
      · rw [outstanding_of_driver hdriver]
        show eastronOutstanding s' = _
        simp only [eastronOutstanding, hstate]
    · apply DriverMove.change
      · omega
      · apply justAsked_of_not
        rw [Stack.waits, hkept.type, hdriver]
        rcases hstate' with hstate' | hstate' <;> rw [hstate'] <;> rfl
  · exact eastronMove_moves hdriver hseven hmove

omit [CFloat F] in
/-- Behind the last register of the Eltako tables stands the stop marker. -/
theorem eltako_position {position : ℕ} (hdriver : s.meter.type.driver = some .eltako)
    (htable : s.meter.currentMeter = s.meter.type.table)
    (h : (s.meter.definition position).registerAddress ≠ 0) : position < 38 := by
  by_contra hlong
  apply h
  have hlength : (s.meter.type.table.getD []).length ≤ 38 := by
    cases htype : s.meter.type <;> rw [htype] at hdriver <;>
      first | exact absurd hdriver (by decide) | decide
  rw [Meter.definition, htable, List.getD_eq_default _ _ (by omega)]
  rfl

/-- Which response the Eltako driver works on, and how far it is. -/
structure EltakoKept (now : ℕ) (s s' : Stack F) : Prop where
  storing : s'.meter.state = 2 → s'.statics.eltakoDataI ≤ 38 ∧
    (s.meter.state ≠ 2 ∧ s'.statics.eltakoTimeSinceRead = systemTimerGetMs now ∨
      s.meter.state = 2 ∧ s'.statics.eltakoTimeSinceRead = s.statics.eltakoTimeSinceRead)
  calculating : s'.meter.state = 3 → (s.meter.state = 2 ∨ s.meter.state = 3) ∧
    s'.statics.eltakoTimeSinceRead = s.statics.eltakoTimeSinceRead

omit [CFloat F] in
theorem EltakoKept.of_other (h : s'.meter.state ≠ 2 ∧ s'.meter.state ≠ 3) : EltakoKept now s s' :=
  ⟨fun htwo => absurd htwo h.1, fun hthree => absurd hthree h.2⟩

theorem eltakoTick_moves (hdriver : s.meter.type.driver = some .eltako)
    (htable : s.meter.currentMeter = s.meter.type.table) (h : meterEltakoTick env s = some s') :
    TimesKept s s' ∧ DriverMove env.now s s' ∧ EltakoKept env.now s s' := by
  have hquiet {t : Stack F} (htype : t.meter.type = s.meter.type) (hstate : t.meter.state ≠ 1) :
      JustAsked env.now s t := by
    apply justAsked_of_not
    rw [Stack.waits, htype, hdriver]
    exact beq_false_of_ne hstate
  cases meterEltakoTick_cases h with
  | request hstate =>
    refine ⟨⟨rfl, rfl, rfl, rfl⟩, .change ?_ (justAsked_of_issue s.meter.eltakoRequest rfl rfl), ?_⟩
    · show 1 ≠ s.meter.state
      omega
    · apply EltakoKept.of_other
      show 1 ≠ 2 ∧ 1 ≠ 3
      decide
  | wait hstate hready =>
    refine ⟨.refl s, .wait s.meter.eltakoRequest rfl ?_ ?_ hready, ?_⟩
    · rw [Stack.waits, hdriver, hstate]
      rfl
    · rw [outstanding_of_driver hdriver]
      exact if_pos (Or.inl hstate)
    · exact .of_other (by omega)
  | take hstate hresponse =>
    obtain ⟨-, ⟨c, t, a, log, rfl⟩, -⟩ := meterGetReadRegistersResponse_some hresponse
    refine ⟨⟨rfl, rfl, rfl, rfl⟩, .change ?_ (hquiet rfl ?_), ?_⟩
    · show 2 ≠ s.meter.state
      omega
    · show 2 ≠ 1
      decide
    · constructor
      · exact fun _ => ⟨Nat.zero_le 38, Or.inl ⟨by omega, rfl⟩⟩
      · intro hthree
        cases hthree
  | store value address hstate hnew hreg hvalue haddress =>
    -- one value a tick: the index into the table is part of the age
    have hposition := eltako_position hdriver htable hreg
    have hage : Stack.stateAge { s.store address value with
        statics.eltakoDataI := s.statics.eltakoDataI + 1 } = s.stateAge + moveMs := by
      rw [Stack.stateAge, Stack.stateAge, store_meter, hdriver]
      simp only [hstate, if_true]
      exact Nat.mul_succ moveMs s.statics.eltakoDataI
    refine ⟨?_, .advance ?_ (hquiet ?_ ?_) hage, ?_⟩
    · cases address <;> exact ⟨rfl, rfl, rfl, rfl⟩
    · rw [store_meter]
    · rw [store_meter]
    · rw [store_meter]
      omega
    · constructor
      · intro _
        refine ⟨hposition, Or.inr ⟨hstate, ?_⟩⟩
        cases address <;> rfl
      · intro hthree
        rw [store_meter] at hthree
        omega
  | stored phases hstate hnew =>
    refine ⟨⟨rfl, rfl, rfl, rfl⟩, .change ?_ (hquiet rfl ?_), ?_⟩
    · show 3 ≠ s.meter.state
      omega
    · show 3 ≠ 1
      decide
    · constructor
      · intro htwo
        cases htwo
      · exact fun _ => ⟨Or.inl hstate, rfl⟩
  | skip hstate hnew =>
    refine ⟨⟨rfl, rfl, rfl, rfl⟩, .change ?_ (hquiet rfl ?_), ?_⟩
    · show 3 ≠ s.meter.state
      omega
    · show 3 ≠ 1
      decide
    · constructor
      · intro htwo
        cases htwo
      · exact fun _ => ⟨Or.inl hstate, rfl⟩
  | restart hstate =>
    refine ⟨⟨rfl, rfl, rfl, rfl⟩, .change ?_ (hquiet rfl ?_), ?_⟩
    · show 0 ≠ s.meter.state
      omega
    · show 0 ≠ 1
      decide
    · apply EltakoKept.of_other
      show 0 ≠ 2 ∧ 0 ≠ 3
      decide
  | calculate hstate htime hnew hcalculate =>
    obtain ⟨registers, value, once, calls, rfl⟩ := calculated_eltako hcalculate
    refine ⟨⟨rfl, rfl, rfl, rfl⟩, .rest hdriver hstate hstate htime rfl, ?_⟩
    constructor
    · exact fun htwo => absurd (hstate.symm.trans htwo) (by decide)
    · exact fun _ => ⟨Or.inr hstate, rfl⟩
  | calculated hstate htime =>
    refine ⟨⟨rfl, rfl, rfl, rfl⟩, .rest hdriver hstate hstate htime rfl, ?_⟩
    constructor
    · exact fun htwo => absurd (hstate.symm.trans htwo) (by decide)
    · exact fun _ => ⟨Or.inr hstate, rfl⟩
  | rest hstate htime =>
    refine ⟨.refl s, .rest hdriver hstate hstate htime rfl, ?_⟩
    constructor
    · exact fun htwo => absurd (hstate.symm.trans htwo) (by decide)
    · exact fun _ => ⟨Or.inr hstate, rfl⟩
  | default hstate =>
    refine ⟨⟨rfl, rfl, rfl, rfl⟩, .change ?_ (hquiet rfl ?_), ?_⟩
    · show 0 ≠ s.meter.state
      omega
    · show 0 ≠ 1
      decide
    · apply EltakoKept.of_other
      show 0 ≠ 2 ∧ 0 ≠ 3
      decide

omit [CFloat F] in
theorem iskra_stateAge (hdriver : s.meter.type.driver = some .iskra)
    (hstate : s.meter.state = 0) : s.stateAge =
      if s.iskra.fastActive then fastCyclesMs + moveMs * (s.iskra.fastState - 1)
      else fastCyclesMs + moveMs * 3 := by
  rw [Stack.stateAge, hdriver]
  exact if_neg (not_not.mpr hstate)

omit [CFloat F] in
theorem iskra_waits (hdriver : s.meter.type.driver = some .iskra) :
    s.waits = (iskraOutstanding s).isSome := by rw [Stack.waits, hdriver]

omit [CFloat F] in
theorem justAsked_of_none (hdriver : s'.meter.type.driver = some .iskra)
    (h : iskraOutstanding s' = none) : JustAsked now s s' := by
  apply justAsked_of_not
  rw [iskra_waits hdriver, h]
  rfl

/-- The fast cycle takes its moves in state 0 of the slow one. -/
theorem iskraFastMove_moves (hdriver : s.meter.type.driver = some .iskra) (hinv : IskraInv s)
    (hinv' : IskraInv s') (hdue : iskraFastDue env.now s = true) (h : IskraFastMove env s s') :
    TimesKept s s' ∧ DriverMove env.now s s' := by
  -- in state 0 of the slow cycle the age goes by the state of the fast one
  have hage {t : Stack F} (htype : t.meter.type = s.meter.type) (hstate : t.meter.state = 0)
      (hactive : t.iskra.fastActive = true) :
      t.stateAge = fastCyclesMs + moveMs * (t.iskra.fastState - 1) := by
    rw [iskra_stateAge (htype ▸ hdriver) hstate, if_pos hactive]
  have htook {s₁ s₂ : Stack F} (htaken : Taken s s₁) (hmeter : s₂.meter = s₁.meter)
      (hstatics : s₂.statics = s₁.statics) :
      TimesKept s s₂ ∧ s₂.meter.state = s.meter.state := by
    have hkept : TimesKept s₁ s₂ := ⟨congrArg Meter.type hmeter, congrArg Meter.timeout hmeter,
      congrArg Meter.firstTick hmeter, congrArg MeterStatics.lastState hstatics⟩
    exact ⟨htaken.timesKept.trans hkept, (congrArg Meter.state hmeter).trans htaken.state⟩
  cases h with
  | requestVoltages hfast =>
    have hrest : s.iskra.fastActive = false := by
      rcases hinv with ⟨hrest, -⟩ | ⟨-, -, hstate⟩
      · exact hrest
      · omega
    have hstate : s.meter.state = 0 := by
      simp only [iskraFastDue, hrest, Bool.false_or, Bool.and_eq_true, beq_iff_eq] at hdue
      exact hdue.1
    refine ⟨⟨rfl, rfl, rfl, rfl⟩, .startFast rfl ?_ ?_ ?_⟩
    · exact justAsked_of_issue s.meter.iskraVoltageRequest rfl rfl
    · rw [Stack.startsFast, hdriver, hrest, hdue]
      rfl
    · apply hage
      · rfl
      · exact hstate
      · rfl
  | wait hfast hready =>
    have hactive := (hinv.fastActive (by omega)).1
    have hout : ∃ q : MeterRequest, iskraOutstanding s = some q ∧
        q.fc = modbusFcReadInputRegisters := by
      rw [iskraOutstanding_fast hactive]
      rcases hfast with hfast | hfast <;> simp only [iskraFastOutstanding, hfast]
      · exact ⟨s.meter.iskraVoltageRequest, rfl, rfl⟩
      · exact ⟨s.meter.iskraCurrentRequest, rfl, rfl⟩
    obtain ⟨q, hq, hfc⟩ := hout
    refine ⟨.refl s, .wait q rfl ?_ ?_ (hfc ▸ hready)⟩
    · rw [iskra_waits hdriver, hq]
      rfl
    · rw [outstanding_of_driver hdriver]
      exact hq
  | @takeVoltages s₁ s₂ data phases time hfast hresponse hstored =>
    obtain ⟨-, htaken, -⟩ := meterGetReadRegistersResponse_some hresponse
    obtain ⟨-, hmeter, hactive', -, -, -, hstatics, -⟩ := tookCells_kept hstored
    obtain ⟨hactive, hstate⟩ := hinv.fastActive (by omega)
    obtain ⟨⟨htype, htimeout, hfirst, hlast⟩, hsame⟩ := htook htaken hmeter hstatics
    refine ⟨⟨htype, htimeout, hfirst, hlast⟩, .advance hsame (justAsked_of_none ?_ ?_) ?_⟩
    · exact htype ▸ hdriver
    · apply hinv'.outstanding_none
      · show s₂.meter.state ≠ 1 ∧ s₂.meter.state ≠ 4 ∧ s₂.meter.state ≠ 6
        omega
      · show 2 ≠ 1 ∧ 2 ≠ 3
        decide
    · rw [hage rfl hstate hactive, hfast, hage]
      · rfl
      · exact htype
      · exact hsame.trans hstate
      · exact hactive'.trans ((congrArg MeterIskra.fastActive htaken.iskra).trans hactive)
  | requestCurrents hfast =>
    obtain ⟨hactive, hstate⟩ := hinv.fastActive (by omega)
    refine ⟨⟨rfl, rfl, rfl, rfl⟩, .advance rfl ?_ ?_⟩
    · exact justAsked_of_issue s.meter.iskraCurrentRequest rfl rfl
    · rw [hage rfl hstate hactive, hfast, hage]
      · rfl
      · rfl
      · exact hstate
      · exact hactive
  | @takeCurrents s₁ s₂ data hfast hresponse hstored =>
    obtain ⟨-, htaken, -⟩ := meterGetReadRegistersResponse_some hresponse
    obtain ⟨-, hmeter, -, -, -, -, hstatics, -⟩ := tookCells_kept hstored
    obtain ⟨hactive, hstate⟩ := hinv.fastActive (by omega)
    obtain ⟨⟨htype, htimeout, hfirst, hlast⟩, hsame⟩ := htook htaken hmeter hstatics
    refine ⟨⟨htype, htimeout, hfirst, hlast⟩, .advance hsame (justAsked_of_none ?_ ?_) ?_⟩
    · exact htype ▸ hdriver
    · apply hinv'.outstanding_none
      · show s₂.meter.state ≠ 1 ∧ s₂.meter.state ≠ 4 ∧ s₂.meter.state ≠ 6
        omega
      · show 0 ≠ 1 ∧ 0 ≠ 3
        decide
    · rw [hage rfl hstate hactive, hfast, iskra_stateAge]
      · rfl
      · exact htype ▸ hdriver
      · exact hsame.trans hstate
  | reset hfast =>
    rcases hinv with ⟨-, hzero⟩ | ⟨-, -, hstate⟩
    · omega
    · omega

/-- Every move of the slow cycle changes its state. -/
theorem iskraSlowMove_moves (hdriver : s.meter.type.driver = some .iskra)
    (hactive : s.iskra.fastActive = false) (hinv' : IskraInv s')
    (hfast' : s'.iskra.fastState ≠ 1 ∧ s'.iskra.fastState ≠ 3) (h : IskraSlowMove env s s') :
    TimesKept s s' ∧ DriverMove env.now s s' := by
  have hquiet (htype : s'.meter.type = s.meter.type)
      (hstate : s'.meter.state ≠ 1 ∧ s'.meter.state ≠ 4 ∧ s'.meter.state ≠ 6) :
      JustAsked env.now s s' :=
    justAsked_of_none (htype ▸ hdriver) (hinv'.outstanding_none hstate hfast')
  have htook {s₁ : Stack F} (htaken : Taken s s₁) (hkept : TimesKept s₁ s')
      (hone : s.meter.state = 1) (htwo : s'.meter.state = 2) :
      TimesKept s s' ∧ DriverMove env.now s s' := by
    have hkept' := htaken.timesKept.trans hkept
    exact ⟨hkept', .change (by omega) (hquiet hkept'.type (by omega))⟩
  cases h with
  | request hstate =>
    refine ⟨⟨rfl, rfl, rfl, rfl⟩, .change ?_ (justAsked_of_issue s.meter.iskraSlowRequest rfl rfl)⟩
    show 1 ≠ s.meter.state
    omega
  | wait q hq hready =>
    have hout : iskraOutstanding s = some q := (iskraOutstanding_slow hactive).trans hq
    refine ⟨.refl s, .wait q rfl ?_ ?_ hready⟩
    · rw [iskra_waits hdriver, hout]
      rfl
    · rw [outstanding_of_driver hdriver]
      exact hout
  | take value address hstate hresponse hvalue haddress =>
    obtain ⟨-, htaken, -⟩ := meterGetReadRegistersResponse_some hresponse
    exact htook htaken (by cases address <;> exact ⟨rfl, rfl, rfl, rfl⟩) hstate rfl
  | takeLast value address hstate hresponse hvalue haddress =>
    obtain ⟨-, htaken, -⟩ := meterGetReadRegistersResponse_some hresponse
    exact htook htaken (by cases address <;> exact ⟨rfl, rfl, rfl, rfl⟩) hstate rfl
  | restart hstate =>
    refine ⟨⟨rfl, rfl, rfl, rfl⟩, .change ?_ (hquiet rfl ?_)⟩
    · show 0 ≠ s.meter.state
      omega
    · show 0 ≠ 1 ∧ 0 ≠ 4 ∧ 0 ≠ 6
      decide
  | readDone phases hstate =>
    refine ⟨⟨rfl, rfl, rfl, rfl⟩, .change ?_ (hquiet rfl ?_)⟩
    · show 3 ≠ s.meter.state
      omega
    · show 3 ≠ 1 ∧ 3 ≠ 4 ∧ 3 ≠ 6
      decide
  | requestStatus register hstate =>
    refine ⟨⟨rfl, rfl, rfl, rfl⟩, .change (Nat.succ_ne_self s.meter.state) ?_⟩
    exact justAsked_of_issue (s.meter.iskraStatusRequest register) rfl rfl
  | takeStatus q measurement signature hstate hq hready htaken =>
    obtain ⟨htype, htimeout, hfirst, hlast⟩ := htaken.timesKept
    refine ⟨⟨htype, htimeout, hfirst, hlast⟩, .change (Nat.succ_ne_self s.meter.state)
      (hquiet htype ?_)⟩
    show s.meter.state + 1 ≠ 1 ∧ s.meter.state + 1 ≠ 4 ∧ s.meter.state + 1 ≠ 6
    omega

theorem iskraTick_moves (hdriver : s.meter.type.driver = some .iskra)
    (hslave : s.meter.slaveAddress ≠ 0) (hinv : IskraInv s) (hidle : env.ExternalIdle)
    (h : meterIskraTick env s = some s') : TimesKept s s' ∧ DriverMove env.now s s' := by
  rcases iskraTick_cycle hinv hidle h with ⟨hdue, hmove⟩ | ⟨hrest, hmove⟩
  · have hinv' := (iskraFastMove_bus hslave hinv hdue hmove).2
    exact iskraFastMove_moves hdriver hinv hinv' hdue hmove
  · obtain ⟨-, hactive, hfast⟩ := iskraSlowMove_bus hslave hmove
    have hfast' := hfast.trans hrest.2
    have hinv' : IskraInv s' := Or.inl ⟨hactive.trans hrest.1, hfast'⟩
    exact iskraSlowMove_moves hdriver hrest.1 hinv' (by omega) hmove

end Bricklib2
