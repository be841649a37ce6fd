/-
Bricklib2/Warp/DetectionRestart.lean

Detection runs again after every `meter_init`.  The static variables of the
`meter_*_is_connected` are not part of `meter`, so `meter_init` leaves them as they
are: a manufacturer starts from the beginning only if its last detection has put
its state back to 0.  The Eltako detection does not when it finds a DSZ15DZMOD.

Main results: `detection_restarts`, in which runs every detection comes to an end and
starts again; `stuck_run`, what becomes of the others.
-/
import Bricklib2.Warp.SystemTypeChange

namespace Bricklib2

open Machine

variable {F : Type} {s s' : Stack F} {env : TickEnv} {now : ℕ}

/-! ### The machine with `meter_init` -/

/-- Besides what happens in the stack, `meter_init` is called again. -/
inductive RestartEvent
  | stack (event : StackEvent)
  | init (now : ℕ)

/-- It is called only while the bus is idle. -/
def restartStep [CFloat F] (s : Stack F) : RestartEvent → Option (Stack F)
  | .stack event => stackStep s event
  | .init now => if s.rs485.requestState = .ready then some (meterInit now s) else none

/-! ### What restarting means -/

/-- This tick calls `meter_find_meter_type`. -/
def Stack.Detects (now : ℕ) (s : Stack F) : Prop :=
  s.meter.type = .unknown ∧ waiting now s.meter.errorWaitTime 500 = false ∧
    waiting now s.meter.firstTick 2500 = false

instance (now : ℕ) (s : Stack F) : Decidable (s.Detects now) :=
  inferInstanceAs (Decidable (_ ∧ _))

/-- A result is given with the state at 0 and no request on the bus. -/
def Stack.EndsAtRest (env : TickEnv) (s : Stack F) : Prop :=
  ∀ driver, findOrder s.statics.findMeterState = some driver →
    (driver.isConnected env s).1 ≠ .detection →
    driver.findState (driver.isConnected env s).2.statics = 0 ∧
      (driver.isConnected env s).2.rs485.requestState = .ready

/-- The first call of every manufacturer sends its first request. -/
def Stack.StartsFresh (s : Stack F) : Prop :=
  ∀ (env : TickEnv) (driver : MeterDriver),
    (driver.isConnected env s).2.requested = driver.firstRequest :: s.requested

/-- What detection waits for has been requested, and is what the bus waits for. -/
def Stack.AwaitsRequested (s : Stack F) : Prop :=
  s.meter.type = .unknown → ∀ q, s.outstanding = some q →
    s.rs485.requestState = .masterWaitingResponse ∧ s.requested.head? = some q

/-- Every detection that is over can be started again. -/
def Restartable [CFloat F] (s : Stack F) (e : RestartEvent) : Prop :=
  s.AwaitsRequested ∧
    match e with
    | .stack (.meterTick env) => s.Detects env.now → s.started.EndsAtRest env
    | .stack _ => True
    | .init now => s.rs485.requestState = .ready → (meterInit now s).StartsFresh

/-! ### The condition -/

/-- What the Eltako detection takes for the meter code: a failed request leaves the
initial value. -/
def RS485.eltakoMeterCode (r : RS485) : BitVec 32 :=
  if r.responseFailed then 0xFFFFFFFF else bigEndian32 fun i => r.rxFrame (3 + i)

/-- The Eltako detection takes a meter code that is not the one of a DSZ16DZE. -/
def Stack.TakesOtherCode (s : Stack F) : Prop :=
  s.statics.eltakoFindState = 3 ∧
    meterIsResponseReady modbusFcReadHoldingRegisters s.rs485 = true ∧
    s.rs485.eltakoMeterCode ≠ 2 ∧ s.rs485.eltakoMeterCode ≠ 3

instance (s : Stack F) : Decidable s.TakesOtherCode := inferInstanceAs (Decidable (_ ∧ _))

/-- No DSZ15DZMOD is found, and `meter_init` is not called between two requests of the
Eltako detection. -/
def DetectionEnds (s : Stack F) : RestartEvent → Prop
  | .stack (.meterTick env) =>
    s.Detects env.now → s.statics.findMeterState = 2 → ¬ s.TakesOtherCode
  | .stack _ => True
  | .init _ => s.rs485.requestState = .ready → s.statics.eltakoFindState = 0

/-! ### One call -/

/-- What one call of a `meter_*_is_connected` does with its state. -/
inductive FindCall (env : TickEnv) (s : Stack F) : MeterDriver → MeterType → Stack F → Prop
  | first {driver : MeterDriver} (hstate : driver.findState s.statics = 0) :
      FindCall env s driver .detection { s.issue env.now driver.firstRequest with
        statics := driver.setFindState 1 s.statics }
  | further {t : Stack F} (q : MeterRequest) (hstate : s.statics.eltakoFindState ≠ 0)
      (ht : t = s ∨ t = s.clearRequest) (hq : q ≠ MeterDriver.eltako.firstRequest) (state : ℕ) :
      FindCall env s .eltako .detection { t.issue env.now q with
        statics := MeterDriver.setFindState state t.statics .eltako }
  | wait {driver : MeterDriver} (hstate : driver.findState s.statics ≠ 0)
      (hplain : driver ≠ .eltako → driver.findState s.statics = 1) :
      FindCall env s driver .detection s
  | take {driver : MeterDriver} {s₁ : Stack F} (type : MeterType) (state : ℕ)
      (hstate : driver.findState s.statics ≠ 0) (htaken : Taken s s₁)
      (hend : type ≠ .detection → state = 0 ∨ driver = .eltako ∧ s.TakesOtherCode)
      (hplain : driver ≠ .eltako → state = 0) :
      FindCall env s driver type { s₁.clearRequest with
        statics := driver.setFindState state s₁.statics }
  | reset {driver : MeterDriver} (hstate : driver.findState s.statics ≠ 0) :
      FindCall env s driver .unknown { s with statics := driver.setFindState 0 s.statics }

/-- The manufacturers with one request: any answer ends their detection. -/
theorem FindCall.takeEnd (env : TickEnv) {driver : MeterDriver} {s₁ : Stack F} (type : MeterType)
    (hstate : driver.findState s.statics ≠ 0) (htaken : Taken s s₁) :
    FindCall env s driver type { s₁.clearRequest with
      statics := driver.setFindState 0 s₁.statics } :=
  .take type 0 hstate htaken (fun _ => Or.inl rfl) fun _ => rfl

theorem SingleFind.call {driver : MeterDriver} {type : MeterType} {t : Stack F}
    (h : SingleFind driver env s type t) : FindCall env s driver type t := by
  cases h with
  | first hstate => exact .first hstate
  | wait hstate => exact .wait (by omega) fun _ => hstate
  | take type hstate hresponse =>
    obtain ⟨-, htaken, -⟩ := meterGetReadRegistersResponse_some hresponse
    exact .takeEnd env type (by omega) htaken
  | reset hzero hone => exact .reset hzero

theorem eltakoMeterCode_response {data : ℕ → BitVec 32}
    (h : meterGetReadRegistersResponse now modbusFcReadHoldingRegisters (fun _ => 0xFFFFFFFF) 2 s =
      some (data, s')) : data 0 = s.rs485.eltakoMeterCode := by
  obtain ⟨-, -, ⟨hfailed, hdata, -⟩ | ⟨hvalid, hdata, -⟩⟩ := meterGetReadRegistersResponse_some h
  · rw [hdata, RS485.eltakoMeterCode, if_pos hfailed]
  · rw [hdata, RS485.eltakoMeterCode, if_neg (ne_true_of_eq_false hvalid)]
    rfl

theorem eltakoFind_call (env : TickEnv) (s : Stack F) :
    FindCall env s .eltako (meterEltakoIsConnected env s).1 (meterEltakoIsConnected env s).2 := by
  -- the states of the detection in their order; only the first one is 0
  have hne {n : ℕ} (hstate : s.statics.eltakoFindState = n + 1) :
      s.statics.eltakoFindState ≠ 0 := by
    rw [hstate]
    exact Nat.succ_ne_zero n
  unfold meterEltakoIsConnected
  split
  · exact .first ‹_›
  · rename_i hstate
    split
    · exact .wait (hne hstate) fun h => absurd rfl h
    · rename_i hresponse
      obtain ⟨-, htaken, -⟩ := meterGetReadRegistersResponse_some hresponse
      simp only
      split
      · exact .take .detection 2 (hne hstate) htaken (fun h => absurd rfl h) fun h => absurd rfl h
      · exact .takeEnd env .unknown (hne hstate) htaken
  · rename_i hstate
    exact .further _ (hne hstate) (Or.inl rfl) (by decide) 3
  · rename_i hstate
    split
    · exact .wait (hne hstate) fun h => absurd rfl h
    · rename_i data s₁ hresponse
      obtain ⟨hready, htaken, -⟩ := meterGetReadRegistersResponse_some hresponse
      -- the second answer, which tells the meters apart
      have hcode := eltakoMeterCode_response hresponse
      simp only
      split
      · exact .take .detection 4 (hne hstate) htaken (fun h => absurd rfl h) fun h => absurd rfl h
      · rename_i hother
        rw [hcode, not_or] at hother
        have htake : FindCall env s .eltako .dsz15Dzmod { s₁.clearRequest with
            statics := MeterDriver.setFindState s₁.statics.eltakoFindState s₁.statics .eltako } :=
          .take _ _ (hne hstate) htaken (fun _ => Or.inr ⟨rfl, hstate, hready, hother⟩)
            fun h => absurd rfl h
        exact htake
  · rename_i hstate
    exact .further _ (hne hstate) (Or.inr rfl) (by decide) 5
  · rename_i hstate
    split
    · exact .wait (hne hstate) fun h => absurd rfl h
    · rename_i hresponse
      obtain ⟨-, htaken⟩ := meterGetWriteRegisterResponse_some hresponse
      exact .take .detection 6 (hne hstate) htaken (fun h => absurd rfl h) fun h => absurd rfl h
  · rename_i hstate
    exact .further _ (hne hstate) (Or.inr rfl) (by decide) 7
  · rename_i hstate
    split
    · exact .wait (hne hstate) fun h => absurd rfl h
    · rename_i hresponse
      obtain ⟨-, htaken⟩ := meterGetWriteRegisterResponse_some hresponse
      exact .takeEnd env .dsz16Dze (hne hstate) htaken
  · rename_i hzero _ _ _ _ _ _ _
    exact .reset hzero

theorem find_call (driver : MeterDriver) (env : TickEnv) (s : Stack F) :
    FindCall env s driver (driver.isConnected env s).1 (driver.isConnected env s).2 := by
  cases driver with
  | eastron => exact (eastronFind_single env s).call
  | generic => exact (genericFind_single env s).call
  | iskra => exact (iskraFind_single env s).call
  | eltako => exact eltakoFind_call env s

theorem Taken.requested (h : Taken s s') : s'.requested = s.requested := by
  obtain ⟨c, t, a, log, rfl⟩ := h
  rfl

/-- A manufacturer sends its first request exactly from its first state. -/
theorem firstRequest_iff (driver : MeterDriver) (env : TickEnv) (s : Stack F) :
    (driver.isConnected env s).2.requested = driver.firstRequest :: s.requested ↔
      driver.findState s.statics = 0 := by
  have hsame {t : Stack F} (ht : t.requested = s.requested)
      (hstate : driver.findState s.statics ≠ 0) :
      t.requested = driver.firstRequest :: s.requested ↔ driver.findState s.statics = 0 := by
    refine iff_of_false (fun heq => ?_) hstate
    rw [ht] at heq
    exact absurd (congrArg List.length heq) (by simp)
  have hcall := find_call driver env s
  generalize driver.isConnected env s = result at hcall ⊢
  obtain ⟨type, t⟩ := result
  cases hcall with
  | first hstate => exact iff_of_true (requested_issue env.now _ s) hstate
  | @further t q hstate ht hq state =>
    refine iff_of_false (fun heq => ?_) hstate
    have hissue := requested_issue env.now q t
    exact hq (List.cons_eq_cons.mp (hissue.symm.trans heq)).1
  | wait hstate => exact hsame rfl hstate
  | take type state hstate htaken => exact hsame htaken.requested hstate
  | reset hstate => exact hsame rfl hstate

/-- With a result the state is back at 0, unless a DSZ15DZMOD has been found. -/
theorem isConnected_rest {driver : MeterDriver}
    (hother : driver = .eltako → ¬ s.TakesOtherCode)
    (hend : (driver.isConnected env s).1 ≠ .detection) :
    driver.findState (driver.isConnected env s).2.statics = 0 := by
  have hcall := find_call driver env s
  generalize driver.isConnected env s = result at hcall hend ⊢
  obtain ⟨type, t⟩ := result
  cases hcall with
  | first hstate => exact absurd rfl hend
  | further q hstate ht hq state => exact absurd rfl hend
  | wait hstate => exact absurd rfl hend
  | @take _ s₁ type state hstate htaken hrest =>
    obtain rfl | ⟨heltako, hcode⟩ := hrest hend
    · exact setFindState_same driver 0 s₁.statics
    · exact absurd hcode (hother heltako)
  | reset hstate => exact setFindState_same driver 0 s.statics

/-- Apart from the Eltako detection the states are 0 and 1. -/
theorem findState_le {driver : MeterDriver} (hdriver : driver ≠ .eltako) (env : TickEnv)
    (s : Stack F) : driver.findState (driver.isConnected env s).2.statics ≤ 1 := by
  have hcall := find_call driver env s
  generalize driver.isConnected env s = result at hcall ⊢
  obtain ⟨type, t⟩ := result
  cases hcall with
  | first hstate => exact (setFindState_same driver 1 s.statics).le
  | further q hstate ht hq state => exact absurd rfl hdriver
  | wait hstate hplain => exact (hplain hdriver).le
  | @take _ s₁ type state hstate htaken hrest hplain =>
    rw [hplain hdriver]
    exact (setFindState_same driver 0 s₁.statics).trans_le zero_le_one
  | reset hstate => exact (setFindState_same driver 0 s.statics).trans_le zero_le_one

/-- Where a DSZ15DZMOD is found, the state stays at 3. -/
theorem eltakoFind_other (env : TickEnv) (h : s.TakesOtherCode) :
    (meterEltakoIsConnected env s).1 = .dsz15Dzmod ∧
      (meterEltakoIsConnected env s).2.statics.eltakoFindState = 3 := by
  obtain ⟨hstate, hready, hother⟩ := h
  simp only [meterEltakoIsConnected, hstate]
  split
  · rename_i hnone
    rw [meterGetReadRegistersResponse_none hnone] at hready
    cases hready
  · rename_i data s₁ hresponse
    obtain ⟨-, htaken, -⟩ := meterGetReadRegistersResponse_some hresponse
    rw [if_neg]
    · refine ⟨rfl, ?_⟩
      show s₁.statics.eltakoFindState = 3
      rw [htaken.statics, hstate]
    · rw [eltakoMeterCode_response hresponse, not_or]
      exact hother

theorem startsFresh_iff : s.StartsFresh ↔ ∀ driver : MeterDriver, driver.findState s.statics = 0 :=
  ⟨fun h driver => (firstRequest_iff driver (idleEnv 0) s).mp (h (idleEnv 0) driver),
    fun h env driver => (firstRequest_iff driver env s).mpr (h driver)⟩

/-! ### The bus -/

/-- The bus waits for the outstanding request, and for none if there is none. -/
structure BusAgrees (o : Option MeterRequest) (r : RS485) : Prop where
  idle : o = none → r.requestState = .ready
  waiting : ∀ q, o = some q → r.requestState = .masterWaitingResponse ∧
    (r.requests.map IssuedRequest.request).head? = some q

variable {o o' : Option MeterRequest} {r r' : RS485}

theorem BusAgrees.wireStep (h : BusAgrees o r) (hw : WireStep r r') : BusAgrees o r' where
  idle ho := hw.state.trans (h.idle ho)
  waiting q ho := by
    obtain ⟨hstate, hhead⟩ := h.waiting q ho
    rw [hw.state, hw.requests]
    exact ⟨hstate, hhead⟩

theorem startTx_state (r : RS485) : (modbusStartTxFromBuffer r).requestState = r.requestState :=
  (wireStep_txLoop _ { r with stateWire := .tx, txEvent := true }).state

theorem busAgrees_issue (now : ℕ) (q : MeterRequest) (r : RS485) :
    BusAgrees (some q) (meterIssue now q r) := by
  constructor
  · intro ho
    cases ho
  · intro p hp
    obtain rfl := Option.some.inj hp
    rw [meterIssue_eq, modbusStartTx_requests, modbusStartTx, startTx_state, startTx_state]
    exact ⟨rfl, rfl⟩

theorem BusRun.agrees (h : BusRun now r o o' r') (hr : BusAgrees o r) : BusAgrees o' r' := by
  induction h with
  | refl => exact hr
  | counters c _ ih => exact ⟨ih.idle, ih.waiting⟩
  | issue q _ _ _ => exact busAgrees_issue now q _
  | clear _ _ _ =>
    constructor
    · exact fun _ => rfl
    · intro q hq
      cases hq

/-! ### The drivers leave detection alone -/

/-- What a driver does not touch. -/
structure LeavesDetection (s s' : Stack F) : Prop where
  type : s'.meter.type = s.meter.type
  findState : ∀ driver : MeterDriver, driver.findState s'.statics = driver.findState s.statics

theorem LeavesDetection.of_statics (htype : s'.meter.type = s.meter.type)
    (hstatics : s'.statics = s.statics) : LeavesDetection s s' :=
  ⟨htype, fun driver => by rw [hstatics]⟩

theorem Taken.leavesDetection (h : Taken s s') : LeavesDetection s s' :=
  .of_statics h.type h.statics

theorem scanRegister_leavesDetection (driver : ScanDriver) (readFast : Bool) (now : ℕ)
    (s : Stack F) : LeavesDetection s (meterScanRegister driver readFast now s) := by
  have hstatics : (meterScanRegister driver readFast now s).statics =
      (driver.setReadFast readFast s).statics := by
    cases driver <;> rfl
  constructor
  · cases driver <;> rfl
  · intro d
    rw [hstatics]
    cases driver <;> cases d <;> rfl

theorem scanRead_leavesDetection [CFloat F] {driver : ScanDriver}
    (h : meterScanRead driver env s = some s') : LeavesDetection s s' := by
  rcases meterScanRead_cases h with ⟨-, rfl⟩ | ⟨data, s₁, value, address, hresponse, -, -, hscan⟩
  · exact .of_statics rfl rfl
  · obtain ⟨-, ⟨c, t, a, log, rfl⟩, -⟩ := meterGetReadRegistersResponse_some hresponse
    rcases hscan with ⟨-, b, p, t', cb, rfl⟩ | ⟨-, p, registers, once, calls, rfl, -⟩
    · constructor
      · cases driver <;> cases address <;> rfl
      · intro d
        cases driver <;> cases address <;> cases d <;> rfl
    · apply LeavesDetection.of_statics <;> cases address <;> rfl

theorem meterGenericTick_leavesDetection [CFloat F] (h : meterGenericTick env s = some s') :
    LeavesDetection s s' := by
  rcases meterGenericTick_cases h with ⟨-, rfl⟩ | ⟨-, hread⟩ | ⟨-, phases, rfl⟩
  · exact scanRegister_leavesDetection .generic _ env.now s
  · exact scanRead_leavesDetection hread
  · exact .of_statics rfl rfl

theorem meterEastronTick_leavesDetection [CFloat F] (h : meterEastronTick env s = some s') :
    LeavesDetection s s' := by
  rcases meterEastronTick_cases h with ⟨-, rfl⟩ | ⟨-, hread⟩ | hmove
  · exact scanRegister_leavesDetection .eastron _ env.now s
  · exact scanRead_leavesDetection hread
  · cases hmove with
    | wait fc hfc hstate hready => exact .of_statics rfl rfl
    | restart phases hstate => exact .of_statics rfl rfl
    | take fc phases isNew read hstate hready htaken => exact .of_statics htaken.type htaken.statics
    | readSystemType hstate => exact .of_statics rfl rfl
    | writePassword hstate => exact .of_statics rfl rfl
    | writeSystemType systemType hstate hphases => exact .of_statics rfl rfl

theorem meterEltakoTick_leavesDetection [CFloat F] (h : meterEltakoTick env s = some s') :
    LeavesDetection s s' := by
  cases meterEltakoTick_cases h with
  | request hstate => exact .of_statics rfl rfl
  | wait hstate hready => exact .of_statics rfl rfl
  | take hstate hresponse =>
    obtain ⟨-, ⟨c, t, a, log, rfl⟩, -⟩ := meterGetReadRegistersResponse_some hresponse
    exact ⟨rfl, fun d => by cases d <;> rfl⟩
  | store value address hstate hnew hreg hvalue haddress =>
    constructor
    · cases address <;> rfl
    · intro d
      cases address <;> cases d <;> rfl
  | stored phases hstate hnew => exact ⟨rfl, fun d => by cases d <;> rfl⟩
  | skip hstate hnew => exact .of_statics rfl rfl
  | restart hstate => exact ⟨rfl, fun d => by cases d <;> rfl⟩
  | calculate hstate htime hnew hcalculate =>
    obtain ⟨registers, value, once, calls, rfl⟩ := calculated_eltako hcalculate
    exact ⟨rfl, fun d => by cases d <;> rfl⟩
  | calculated hstate htime => exact ⟨rfl, fun d => by cases d <;> rfl⟩
  | rest hstate htime => exact .of_statics rfl rfl
  | default hstate => exact .of_statics rfl rfl

theorem iskraFastMove_leavesDetection [CFloat F] (h : IskraFastMove env s s') :
    LeavesDetection s s' := by
  cases h with
  | requestVoltages hfast => exact .of_statics rfl rfl
  | wait hfast hready => exact .of_statics rfl rfl
  | takeVoltages phases time hfast hresponse hstored =>
    obtain ⟨-, htaken, -⟩ := meterGetReadRegistersResponse_some hresponse
    obtain ⟨-, hmeter, -, -, -, -, hstatics, -⟩ := tookCells_kept hstored
    exact .of_statics ((congrArg Meter.type hmeter).trans htaken.type)
      (hstatics.trans htaken.statics)
  | requestCurrents hfast => exact .of_statics rfl rfl
  | takeCurrents hfast hresponse hstored =>
    obtain ⟨-, htaken, -⟩ := meterGetReadRegistersResponse_some hresponse
    obtain ⟨-, hmeter, -, -, -, -, hstatics, -⟩ := tookCells_kept hstored
    exact .of_statics ((congrArg Meter.type hmeter).trans htaken.type)
      (hstatics.trans htaken.statics)
  | reset hfast => exact .of_statics rfl rfl

theorem iskraSlowMove_leavesDetection [CFloat F] (h : IskraSlowMove env s s') :
    LeavesDetection s s' := by
  cases h with
  | request hstate => exact .of_statics rfl rfl
  | wait q hq hready => exact .of_statics rfl rfl
  | take value address hstate hresponse hvalue haddress =>
    obtain ⟨-, ⟨c, t, a, log, rfl⟩, -⟩ := meterGetReadRegistersResponse_some hresponse
    apply LeavesDetection.of_statics <;> cases address <;> rfl
  | takeLast value address hstate hresponse hvalue haddress =>
    obtain ⟨-, ⟨c, t, a, log, rfl⟩, -⟩ := meterGetReadRegistersResponse_some hresponse
    apply LeavesDetection.of_statics <;> cases address <;> rfl
  | restart hstate => exact .of_statics rfl rfl
  | readDone phases hstate => exact .of_statics rfl rfl
  | requestStatus register hstate => exact .of_statics rfl rfl
  | takeStatus q measurement signature hstate hq hready htaken =>
    exact .of_statics htaken.type htaken.statics

theorem meterDriverTick_leavesDetection [CFloat F] (h : meterDriverTick env s = some s') :
    LeavesDetection s s' := by
  unfold meterDriverTick at h
  split at h
  · exact meterEastronTick_leavesDetection h
  · exact meterGenericTick_leavesDetection h
  · cases meterIskraTick_cases h with
    | init hinit => exact .of_statics rfl rfl
    | transaction hpending => exact .of_statics rfl rfl
    | display hpending => exact .of_statics rfl rfl
    | fast hdue hmove => exact iskraFastMove_leavesDetection hmove
    | slow hdue hmove => exact iskraSlowMove_leavesDetection hmove
  · exact meterEltakoTick_leavesDetection h
  · obtain rfl := Option.some.inj h
    exact .of_statics rfl rfl

/-! ### The invariant -/

/-- While detection goes on, the manufacturers it is not at are in their first state, and
so are all of them once a meter is found. -/
structure RestartInv (s : Stack F) : Prop where
  agrees : s.meter.type = .unknown → BusAgrees s.outstanding s.rs485
  others : s.meter.type = .unknown → ∀ driver,
    findOrder s.statics.findMeterState ≠ some driver → driver.findState s.statics = 0
  plain : ∀ driver : MeterDriver, driver ≠ .eltako → driver.findState s.statics ≤ 1
  found : s.meter.type ≠ .unknown → ∀ driver : MeterDriver, driver.findState s.statics = 0

/-- All manufacturers are in their first state. -/
theorem RestartInv.of_rest (hready : s.rs485.requestState = .ready)
    (hzero : ∀ driver : MeterDriver, driver.findState s.statics = 0) : RestartInv s where
  agrees htype := by
    have hnone : s.outstanding = none := by
      rw [stackOutstanding_unknown htype, Option.bind_eq_none_iff]
      exact fun driver _ => findOutstanding_rest (hzero driver)
    rw [hnone]
    constructor
    · exact fun _ => hready
    · intro q hq
      cases hq
  others _ driver _ := hzero driver
  plain driver _ := (hzero driver).trans_le zero_le_one
  found _ := hzero

theorem RestartInv.of_known (htype : s.meter.type ≠ .unknown)
    (hzero : ∀ driver : MeterDriver, driver.findState s.statics = 0) : RestartInv s :=
  ⟨fun h => absurd h htype, fun h => absurd h htype,
    fun driver _ => (hzero driver).trans_le zero_le_one, fun _ => hzero⟩

theorem findOrder_eltako {n : ℕ} (h : findOrder n = some .eltako) : n = 2 := by
  match n with
  | 0 => cases h
  | 1 => cases h
  | 2 => rfl
  | 3 => cases h
  | _ + 4 => cases h

theorem findOutstanding_one {driver : MeterDriver} (hdriver : driver ≠ .eltako)
    (h : driver.findState s.statics = 1) : ∃ q, driver.findOutstanding s = some q := by
  cases driver with
  | eastron => exact ⟨_, if_pos h⟩
  | generic => exact ⟨_, if_pos h⟩
  | iskra => exact ⟨_, if_pos h⟩
  | eltako => exact absurd rfl hdriver

/-- While the bus is idle only the Eltako detection can be under way. -/
theorem RestartInv.rest (h : RestartInv s) (hready : s.rs485.requestState = .ready)
    (heltako : s.statics.eltakoFindState = 0) (driver : MeterDriver) :
    driver.findState s.statics = 0 := by
  by_cases htype : s.meter.type = .unknown
  · by_cases horder : findOrder s.statics.findMeterState = some driver
    · by_cases hdriver : driver = .eltako
      · rw [hdriver]
        exact heltako
      · have hle := h.plain driver hdriver
        by_contra hne
        have hone : driver.findState s.statics = 1 := by omega
        obtain ⟨q, hq⟩ := findOutstanding_one hdriver hone
        have houtstanding : s.outstanding = some q := by
          rw [stackOutstanding_unknown htype, horder]
          exact hq
        obtain ⟨hwaiting, -⟩ := (h.agrees htype).waiting q houtstanding
        rw [hready] at hwaiting
        cases hwaiting
    · exact h.others htype driver horder
  · exact h.found htype driver

/-- Times are not part of it. -/
theorem RestartInv.times (h : RestartInv s) (errorWaitTime firstTick : ℕ) : RestartInv { s with
    meter.errorWaitTime := errorWaitTime
    meter.firstTick := firstTick } where
  agrees := h.agrees
  others := h.others
  plain := h.plain
  found := h.found

theorem RestartInv.wireStep (h : RestartInv s) (hw : WireStep s.rs485 r) :
    RestartInv { s with rs485 := r } where
  agrees htype := (h.agrees htype).wireStep hw
  others := h.others
  plain := h.plain
  found := h.found

theorem RestartInv.leavesDetection (h : RestartInv s) (htype : s.meter.type ≠ .unknown)
    (hleaves : LeavesDetection s s') : RestartInv s' := by
  apply RestartInv.of_known
  · rw [hleaves.type]
    exact htype
  · intro driver
    rw [hleaves.findState]
    exact h.found htype driver

/-- A call that waits on. -/
theorem RestartInv.findWait {driver : MeterDriver} {t : Stack F} (h : RestartInv s)
    (htype : s.meter.type = .unknown) (horder : findOrder s.statics.findMeterState = some driver)
    (hfind : FindStep driver now s .detection t)
    (hle : driver ≠ .eltako → driver.findState t.statics ≤ 1) :
    RestartInv (meterResetErrorCounter t) := by
  obtain ⟨htype', -, horder'⟩ := hfind.kept
  obtain ⟨state, hstatics, -⟩ := hfind.statics
  rw [htype] at htype'
  have hother (d : MeterDriver) (hd : driver ≠ d) :
      d.findState t.statics = d.findState s.statics := by
    rw [hstatics, setFindState_other hd]
  refine ⟨fun _ => ?_, fun _ d hd => ?_, fun d hd => ?_, fun hne => absurd htype' hne⟩
  · -- a call that waits goes on with its own request
    have hagrees := h.agrees htype
    rw [stackOutstanding_unknown htype, horder] at hagrees
    have hrun := hfind.bus
    rw [if_pos rfl] at hrun
    have hout : (meterResetErrorCounter t).outstanding = driver.findOutstanding t := by
      rw [stackOutstanding_unknown (s := meterResetErrorCounter t) htype']
      show (findOrder t.statics.findMeterState).bind _ = _
      rw [horder', horder]
      cases driver <;> rfl
    rw [hout]
    exact (hrun.counters _).agrees hagrees
  · have hne : driver ≠ d := by
      rintro rfl
      exact hd (horder' ▸ horder)
    have hzero := hother d hne
    rw [h.others htype d fun hd' => hne (Option.some.inj (horder.symm.trans hd'))] at hzero
    exact hzero
  · by_cases heq : driver = d
    · rw [← heq] at hd ⊢
      exact hle hd
    · exact (hother d heq).trans_le (h.plain d hd)

/-- A result leaves no request on the bus. -/
theorem RestartInv.findReady {driver : MeterDriver} {type : MeterType} {t : Stack F}
    (h : RestartInv s) (htype : s.meter.type = .unknown)
    (horder : findOrder s.statics.findMeterState = some driver)
    (hfind : FindStep driver now s type t) (hdetection : type ≠ .detection) :
    t.rs485.requestState = .ready := by
  have hagrees := h.agrees htype
  rw [stackOutstanding_unknown htype, horder] at hagrees
  have hrun := hfind.bus
  rw [if_neg hdetection] at hrun
  exact (hrun.agrees hagrees).idle rfl

/-- Detection keeps the invariant, unless it finds a DSZ15DZMOD. -/
theorem RestartInv.find [CFloat F] (h : RestartInv s) (htype : s.meter.type = .unknown)
    (hother : s.statics.findMeterState = 2 → ¬ s.TakesOtherCode) :
    RestartInv (meterFindMeterType env s) := by
  rw [meterFindMeterType, meterIsConnected_eq]
  cases horder : findOrder s.statics.findMeterState with
  | none =>
    have hidle := h.agrees htype
    rw [stackOutstanding_unknown htype, horder] at hidle
    refine .of_rest (hidle.idle rfl) fun driver => ?_
    have hne : findOrder s.statics.findMeterState ≠ some driver := by
      rw [horder]
      exact (Option.some_ne_none driver).symm
    have hzero := h.others htype driver hne
    cases driver <;> exact hzero
  | some driver =>
    have hfind := find_step driver env s
    have hend : (driver.isConnected env s).1 ≠ .detection →
        driver.findState (driver.isConnected env s).2.statics = 0 :=
      isConnected_rest fun hd => hother (findOrder_eltako (hd ▸ horder))
    have hle : driver ≠ .eltako → driver.findState (driver.isConnected env s).2.statics ≤ 1 :=
      fun hd => findState_le hd env s
    simp only [Option.map_some]
    generalize driver.isConnected env s = result at hfind hend hle ⊢
    obtain ⟨type, t⟩ := result
    -- with a result all manufacturers are in their first state
    have hzero (hdetection : type ≠ .detection) (d : MeterDriver) : d.findState t.statics = 0 := by
      by_cases heq : driver = d
      · rw [← heq]
        exact hend hdetection
      · obtain ⟨state, hstatics, -⟩ := hfind.statics
        rw [hstatics, setFindState_other heq]
        exact h.others htype d fun hd => heq (Option.some.inj (horder.symm.trans hd))
    simp only
    split_ifs with hdetection hunknown
    · subst hdetection
      exact h.findWait htype horder hfind hle
    · obtain ⟨size, definitionSize, hset⟩ :=
        meterSetMeterType_eq env.now type (meterResetErrorCounter t)
      rw [hset]
      refine .of_known hunknown fun d => ?_
      have hd := hzero hdetection d
      cases d <;> exact hd
    · have hready := h.findReady htype horder hfind hdetection
      refine .of_rest hready fun d => ?_
      have hd := hzero hdetection d
      cases d <;> exact hd

/-- A tick without a meter calls `meter_find_meter_type`, or it waits. -/
theorem meterTick_unknown [CFloat F] (htype : s.meter.type = .unknown)
    (h : meterTick env s = some s') :
    s.Detects env.now ∧ s' = meterFindMeterType env s.started ∨
      s' = s ∨ s' = { s with meter.errorWaitTime := 0 } := by
  simp only [meterTick] at h
  split_ifs at h with hunsupported herror hfirst
  · exact Or.inr (Or.inl (Option.some.inj h).symm)
  · exact Or.inr (Or.inl (Option.some.inj h).symm)
  · exact Or.inr (Or.inr (Option.some.inj h).symm)
  · refine Or.inl ⟨⟨htype, ?_, ?_⟩, (Option.some.inj h).symm⟩
    · exact Bool.eq_false_of_not_eq_true herror
    · exact Bool.eq_false_of_not_eq_true hfirst

theorem RestartInv.meterTick [CFloat F] (h : RestartInv s)
    (hends : DetectionEnds s (.stack (.meterTick env))) (htick : meterTick env s = some s') :
    RestartInv s' := by
  by_cases htype : s.meter.type = .unknown
  · rcases meterTick_unknown htype htick with ⟨hdetects, rfl⟩ | rfl | rfl
    · exact (h.times 0 0).find htype (hends hdetects)
    · exact h
    · exact h.times 0 s.meter.firstTick
  · cases meterTick_cases htick with
    | unsupported _ => exact h
    | errorWait _ => exact h
    | firstWait _ _ => exact h.times 0 s.meter.firstTick
    | find hunknown => exact absurd hunknown htype
    | drive _ _ _ hcheck hdrive =>
      have hleaves := meterDriverTick_leavesDetection hdrive
      obtain ⟨timeout, rfl, -⟩ := checked_eq hcheck
      refine h.leavesDetection htype ⟨hleaves.type, fun driver => ?_⟩
      rw [hleaves.findState]
      cases driver <;> rfl

theorem step_restartInv [CFloat F] {e : RestartEvent} (h : RestartInv s)
    (hends : DetectionEnds s e) (hstep : restartStep s e = some s') : RestartInv s' := by
  cases e with
  | init now =>
    simp only [restartStep] at hstep
    split_ifs at hstep with hready
    obtain rfl := Option.some.inj hstep
    have hrest : RestartInv (meterInit now s) := .of_rest hready (h.rest hready (hends hready))
    exact hrest
  | stack e =>
    rcases stackStep_wire hstep with ⟨env, rfl⟩ | ⟨r, rfl, -, hw⟩
    · exact h.meterTick hends hstep
    · exact h.wireStep hw

theorem restartInv_init [CFloat F] (bufferSize txFifoSize now : ℕ) :
    RestartInv (stackInit (F := F) bufferSize txFifoSize now) :=
  .of_rest rfl fun driver => by cases driver <;> rfl

/-! ### Main result -/

theorem RestartInv.awaitsRequested (h : RestartInv s) : s.AwaitsRequested :=
  fun htype q hq => (h.agrees htype).waiting q hq

/-- A detection ends at rest unless it finds a DSZ15DZMOD. -/
theorem RestartInv.endsAtRest_iff (h : RestartInv s) (htype : s.meter.type = .unknown) :
    s.EndsAtRest env ↔ (s.statics.findMeterState = 2 → ¬ s.TakesOtherCode) := by
  constructor
  · intro hrest htwo hcode
    obtain ⟨hfound, hthree⟩ := eltakoFind_other env hcode
    have horder : findOrder s.statics.findMeterState = some .eltako := by
      rw [htwo]
      rfl
    have hdetection : (meterEltakoIsConnected env s).1 ≠ .detection := by
      rw [hfound]
      decide
    obtain ⟨hzero, -⟩ := hrest .eltako horder hdetection
    have hzero' : (meterEltakoIsConnected env s).2.statics.eltakoFindState = 0 := hzero
    omega
  · intro hother driver horder hend
    refine ⟨isConnected_rest (fun hd => hother (findOrder_eltako (hd ▸ horder))) hend, ?_⟩
    exact h.findReady htype horder (find_step driver env s) hend

theorem RestartInv.restartable_iff [CFloat F] (h : RestartInv s) (e : RestartEvent) :
    Restartable s e ↔ DetectionEnds s e := by
  unfold Restartable
  rw [and_iff_right h.awaitsRequested]
  cases e with
  | init now =>
    refine imp_congr_right fun hready => ?_
    rw [startsFresh_iff]
    exact ⟨fun hzero => hzero .eltako, fun heltako => h.rest hready heltako⟩
  | stack e =>
    cases e with
    | meterTick env =>
      exact imp_congr_right fun hdetects => (h.times 0 0).endsAtRest_iff hdetects.1
    | _ => exact Iff.rfl

/-- In a run, with `meter_init` called again on an idle bus at any time, every detection
ends at rest, starts afresh and waits only for what it has requested, exactly if no
DSZ15DZMOD is found and `meter_init` does not come between two requests of the Eltako
detection. -/
theorem detection_restarts [CFloat F] (bufferSize txFifoSize now : ℕ)
    (events : List RestartEvent) :
    Meets restartStep Restartable (stackInit (F := F) bufferSize txFifoSize now) events ↔
      Meets restartStep DetectionEnds (stackInit (F := F) bufferSize txFifoSize now) events :=
  meets_congr_meets (fun _ _ _ hinv hends hstep => step_restartInv hinv hends hstep)
    (fun _ e hinv => hinv.restartable_iff e) (restartInv_init bufferSize txFifoSize now) events

/-! ### Finding a DSZ15DZMOD -/

/-- Detection waits for the meter code of an Eltako meter, and nobody has asked for it. -/
structure Stack.Stuck (s : Stack F) : Prop where
  type : s.meter.type = .unknown
  order : s.statics.findMeterState = 2
  state : s.statics.eltakoFindState = 3
  ready : s.rs485.requestState = .ready

/-- No tick gets any further. -/
theorem stuck_step [CFloat F] {e : StackEvent} (h : s.Stuck) (hstep : stackStep s e = some s') :
    s'.Stuck ∧ s'.requested = s.requested := by
  rcases stackStep_wire hstep with ⟨env, rfl⟩ | ⟨r, rfl, -, hw⟩
  · rcases meterTick_unknown h.type hstep with ⟨-, rfl⟩ | rfl | rfl
    · have hwait : meterEltakoIsConnected env s.started = (.detection, s.started) := by
        have hstate : s.started.statics.eltakoFindState = 3 := h.state
        have hnotReady : meterIsResponseReady modbusFcReadHoldingRegisters s.started.rs485 =
            false := by
          have hready : s.started.rs485.requestState = .ready := h.ready
          simp [meterIsResponseReady, hready]
        simp only [meterEltakoIsConnected, hstate, meterGetReadRegistersResponse, hnotReady,
          if_true]
      have horder : s.started.statics.findMeterState = 2 := h.order
      have hfind : meterFindMeterType env s.started = meterResetErrorCounter s.started := by
        simp only [meterFindMeterType, meterIsConnected, horder, hwait, if_true]
      rw [hfind]
      exact ⟨⟨h.type, h.order, h.state, h.ready⟩, rfl⟩
    · exact ⟨h, rfl⟩
    · exact ⟨⟨h.type, h.order, h.state, h.ready⟩, rfl⟩
  · exact ⟨⟨h.type, h.order, h.state, hw.state.trans h.ready⟩, hw.requests⟩

/-- From then on no request is sent and no meter is found any more. -/
theorem stuck_run [CFloat F] {events : List StackEvent} (h : s.Stuck)
    (hrun : run stackStep s events = some s') : s'.Stuck ∧ s'.requested = s.requested := by
  have hstuck : ∀ u : Stack F, u.Stuck ∧ u.requested = s.requested → ∀ e u',
      stackStep u e = some u' → u'.Stuck ∧ u'.requested = s.requested := by
    rintro u ⟨hu, hsame⟩ e u' hstep
    obtain ⟨hu', hsame'⟩ := stuck_step hu hstep
    exact ⟨hu', hsame'.trans hsame⟩
  exact run_induct (fun u e u' hu hstep => hstuck u hu e u' hstep) ⟨h, rfl⟩ hrun

/-- The first two manufacturers do not answer; the third says that it is Eltako, and that
its meter is a DSZ15DZMOD. -/
def dsz15dzmodFoundRun : List StackEvent :=
  unansweredRequest 1 ++ unansweredRequest 2000 ++
    answeredRequest 4000 3 [1, 3, 4, 0, 0, 0, 13, 59, 246] ++
    answeredRequest 4020 4 [1, 3, 4, 0, 0, 0, 1, 59, 243]

/-- `meter_init` is called again, and the first two manufacturers do not answer. -/
def restartedRun : List RestartEvent :=
  dsz15dzmodFoundRun.map .stack ++ .init 5000 ::
    (unansweredRequest 8000 ++ unansweredRequest 10000).map .stack

/-- Now it would be the turn of the Eltako detection, which is not in its first state: it
waits for an answer to what the first detection has requested, and never gets one. -/
theorem detection_stuck :
    ¬ Meets restartStep Restartable (stackInit (F := ExactFloat) 64 64 0) restartedRun ∧
      ∃ t : Stack ExactFloat, run restartStep (stackInit 64 64 0) restartedRun = some t ∧
        ¬ t.AwaitsRequested ∧
        ∀ events t', run stackStep t events = some t' → t'.Stuck ∧ t'.requested = t.requested := by
  constructor
  · intro hmeets
    have hany : (run restartStep (stackInit (F := ExactFloat) 64 64 0)
        (dsz15dzmodFoundRun.map .stack)).any (fun found => decide
          (found.rs485.requestState = .ready ∧ found.statics.eltakoFindState = 3)) = true := by
      decide +kernel
    obtain ⟨found, hrun, hfound⟩ := (Option.any_eq_true _ _).mp hany
    obtain ⟨hready, hstate⟩ := of_decide_eq_true hfound
    obtain ⟨⟨-, hfresh⟩, -⟩ := (hmeets.append hrun).2
    have hzero : found.statics.eltakoFindState = 0 := startsFresh_iff.mp (hfresh hready) .eltako
    omega
  · have hany : (run restartStep (stackInit (F := ExactFloat) 64 64 0) restartedRun).any
        (fun t => decide ((t.meter.type = .unknown ∧ t.rs485.requestState = .ready) ∧
          t.statics.findMeterState = 2 ∧ t.statics.eltakoFindState = 3)) = true := by
      decide +kernel
    obtain ⟨t, hrun, ht⟩ := (Option.any_eq_true _ _).mp hany
    obtain ⟨⟨htype, hready⟩, horder, hstate⟩ := of_decide_eq_true ht
    refine ⟨t, hrun, ?_, ?_⟩
    · intro hawaits
      have houtstanding : t.outstanding = eltakoFindOutstanding t := by
        rw [stackOutstanding_unknown htype, horder]
        rfl
      have hcode : eltakoFindOutstanding t = some (.readRegisters modbusFcReadHoldingRegisters 0x01
          meterEltakoHoldingRegMeterCode 2) := by
        simp only [eltakoFindOutstanding, hstate]
      obtain ⟨hwaiting, -⟩ := hawaits htype _ (houtstanding.trans hcode)
      rw [hready] at hwaiting
      cases hwaiting
    · intro events t' hrun
      exact stuck_run ⟨htype, horder, hstate, hready⟩ hrun

end Bricklib2
