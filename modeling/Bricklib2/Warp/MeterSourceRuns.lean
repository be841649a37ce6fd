/-
Bricklib2/Warp/MeterSourceRuns.lean

No meter is found before a response has named it, and nothing is stored until then;
with the drivers this gives the sources of the values in whole runs.

Main result: `registers_sourced`, in every run that stores no buffer behind a
failed response a measured field is NaN or what a response said of its register.
-/
import Bricklib2.Warp.MeterSourceDrivers

namespace Bricklib2

open Machine Bytes

variable {F : Type} [CFloat F] {s s' : Stack F} {env : TickEnv}

/-! ### Detection -/

theorem storeTx_requests (data : List UInt8) (r : RS485) :
    (modbusStoreTxFrameDataBytes data r).requests = r.requests := by
  induction data generalizing r with
  | nil => rfl
  | cons byte data ih => exact ih (ringbufferTxAdd r byte)

theorem modbusStartTx_requests (now responseLength : ℕ) (q : MeterRequest) (busFree : Bool)
    (r : RS485) : (modbusStartTx now responseLength q busFree r).requests.map
      IssuedRequest.request = q :: r.requests.map IssuedRequest.request := by
  have hsum : (modbusAddTxFrameChecksum r).requests = r.requests := storeTx_requests _ r
  rw [modbusStartTx, startTx_requests, startTx_requests, ← hsum]
  generalize modbusAddTxFrameChecksum r = summed
  rfl

omit [CFloat F] in
theorem issue_requests (now : ℕ) (q : MeterRequest) (s : Stack F) :
    (s.issue now q).rs485.requests.map IssuedRequest.request =
      q :: s.rs485.requests.map IssuedRequest.request := by
  show (meterIssue now q s.rs485).requests.map IssuedRequest.request = _
  rw [meterIssue_eq, modbusStartTx_requests, storeTx_requests]

/-- Nobody has asked for the block of the Eltako driver, and nobody has had it. -/
structure Searching (s : Stack F) : Prop where
  requests : ∀ q ∈ s.rs485.requests.map IssuedRequest.request,
    q.registerCount < meterEltakoRegisterCount
  responses : ∀ p ∈ s.responses, p.request.registerCount < meterEltakoRegisterCount

omit [CFloat F] in
theorem Searching.of_eq (h : Searching s) (hrequests : s'.rs485.requests.map IssuedRequest.request =
      s.rs485.requests.map IssuedRequest.request)
    (hresponses : s'.responses = s.responses) : Searching s' := by
  refine ⟨fun q hq => h.requests q ?_, fun p hp => h.responses p ?_⟩
  · rw [← hrequests]
    exact hq
  · rw [← hresponses]
    exact hp

omit [CFloat F] in
theorem Searching.issue (h : Searching s) (now : ℕ) {q : MeterRequest}
    (hq : q.registerCount < meterEltakoRegisterCount) : Searching (s.issue now q) := by
  refine ⟨fun p hp => ?_, h.responses⟩
  rw [issue_requests, List.mem_cons] at hp
  rcases hp with rfl | hp
  · exact hq
  · exact h.requests p hp

omit [CFloat F] in
theorem Searching.log (h : Searching s) : Searching s.logResponse := by
  unfold Stack.logResponse
  split
  · exact h
  · rename_i q older hrequests
    refine ⟨h.requests, fun p hp => ?_⟩
    rcases List.mem_cons.mp hp with rfl | hp
    · exact h.requests q.request (by rw [hrequests]; exact List.mem_cons_self)
    · exact h.responses p hp

omit [CFloat F] in
theorem Searching.read {now : ℕ} {fc : UInt8} {data data' : ℕ → BitVec 32} (h : Searching s)
    (hresponse : meterGetReadRegistersResponse now fc data count s = some (data', s')) :
    Searching s' := by
  obtain ⟨-, htaken, hresult⟩ := meterGetReadRegistersResponse_some hresponse
  have hrequests : s'.rs485.requests = s.rs485.requests := by
    obtain ⟨c, t, a, log, rfl⟩ := htaken
    rfl
  rcases hresult with ⟨-, -, hsame⟩ | ⟨-, -, hlog⟩
  · exact h.of_eq (congrArg _ hrequests) hsame
  · refine h.log.of_eq ?_ hlog
    rw [logResponse_eq, hrequests]

omit [CFloat F] in
theorem Searching.write {now : ℕ} {fc : UInt8} (h : Searching s)
    (hresponse : meterGetWriteRegisterResponse now fc s = some s') : Searching s' := by
  unfold meterGetWriteRegisterResponse at hresponse
  split_ifs at hresponse
  obtain rfl := Option.some.inj hresponse
  rcases hf : s.rs485.responseFailed
  · rw [meterHasErrors_ok now (s := { s with openRequest := false }) hf]
    exact h.of_eq rfl rfl
  · obtain ⟨c, t, heq⟩ := meterHasErrors_failed now (s := { s with openRequest := false }) hf
    rw [heq]
    exact h.of_eq rfl rfl

/-- What the detection does to the log and to the register set. -/
structure SearchKept (s s' : Stack F) : Prop where
  searching : Searching s → Searching s'
  registers : s'.registers = s.registers

omit [CFloat F] in
theorem SearchKept.refl (s : Stack F) : SearchKept s s := ⟨id, rfl⟩

omit [CFloat F] in
/-- A change of variables after the last call. -/
theorem SearchKept.then {t : Stack F} (h : SearchKept s t)
    (hrequests : s'.rs485.requests.map IssuedRequest.request =
      t.rs485.requests.map IssuedRequest.request)
    (hresponses : s'.responses = t.responses) (hregisters : s'.registers = t.registers) :
    SearchKept s s' :=
  ⟨fun hs => (h.searching hs).of_eq hrequests hresponses, hregisters.trans h.registers⟩

omit [CFloat F] in
theorem SearchKept.issue (now : ℕ) {q : MeterRequest} (s : Stack F)
    (hq : q.registerCount < meterEltakoRegisterCount) : SearchKept s (s.issue now q) :=
  ⟨fun hs => hs.issue now hq, rfl⟩

omit [CFloat F] in
theorem SearchKept.read {now : ℕ} {fc : UInt8} {data data' : ℕ → BitVec 32}
    (hresponse : meterGetReadRegistersResponse now fc data count s = some (data', s')) :
    SearchKept s s' := by
  obtain ⟨-, htaken, -⟩ := meterGetReadRegistersResponse_some hresponse
  exact ⟨fun hs => hs.read hresponse, htaken.registers⟩

omit [CFloat F] in
theorem SearchKept.write {now : ℕ} {fc : UInt8}
    (hresponse : meterGetWriteRegisterResponse now fc s = some s') : SearchKept s s' :=
  ⟨fun hs => hs.write hresponse, (meterGetWriteRegisterResponse_some hresponse).2.registers⟩

omit [CFloat F] in
theorem SearchKept.of_single {driver : MeterDriver} {env : TickEnv} {type : MeterType}
    (h : SingleFind driver env s type s') : SearchKept s s' := by
  cases h with
  | first hstate =>
    have hsmall : driver.firstRequest.registerCount < meterEltakoRegisterCount := by
      cases driver <;> decide
    exact (SearchKept.issue env.now s hsmall).then rfl rfl rfl
  | wait hstate => exact .refl s
  | take type hstate hresponse => exact (SearchKept.read hresponse).then rfl rfl rfl
  | reset hzero hone => exact (SearchKept.refl s).then rfl rfl rfl

omit [CFloat F] in
theorem isConnected_searchKept (driver : MeterDriver) (env : TickEnv) (s : Stack F) :
    SearchKept s (driver.isConnected env s).2 := by
  cases driver with
  | eastron => exact .of_single (eastronFind_single env s)
  | generic => exact .of_single (genericFind_single env s)
  | iskra => exact .of_single (iskraFind_single env s)
  | eltako =>
    have hclear : SearchKept s s.clearRequest := (SearchKept.refl s).then rfl rfl rfl
    -- the two writes of the Eltako detection come behind another clear
    have hdirection (register value : ℕ) :
        SearchKept s (s.clearRequest.issue env.now (eltakoDirectionRequest register value)) :=
      ⟨fun hs => (hclear.searching hs).issue env.now (show 0 < meterEltakoRegisterCount by decide),
        rfl⟩
    show SearchKept s (meterEltakoIsConnected env s).2
    unfold meterEltakoIsConnected
    split
    · exact (SearchKept.issue env.now s (by decide)).then rfl rfl rfl
    · split
      · exact .refl s
      · rename_i hresponse
        have hread := SearchKept.read hresponse
        simp only
        split <;> exact hread.then rfl rfl rfl
    · exact (SearchKept.issue env.now s (by decide)).then rfl rfl rfl
    · split
      · exact .refl s
      · rename_i hresponse
        have hread := SearchKept.read hresponse
        simp only
        split <;> exact hread.then rfl rfl rfl
    · exact (hdirection _ _).then rfl rfl rfl
    · split
      · exact .refl s
      · rename_i hresponse
        exact (SearchKept.write hresponse).then rfl rfl rfl
    · exact (hdirection _ _).then rfl rfl rfl
    · split
      · exact .refl s
      · rename_i hresponse
        exact (SearchKept.write hresponse).then rfl rfl rfl
    · exact (SearchKept.refl s).then rfl rfl rfl

omit [CFloat F] in
theorem meterFindMeterType_searchKept (env : TickEnv) (s : Stack F) :
    SearchKept s (meterFindMeterType env s) := by
  rw [meterFindMeterType, meterIsConnected_eq]
  cases findOrder s.statics.findMeterState with
  | none => exact (SearchKept.refl s).then rfl rfl rfl
  | some driver =>
    have hkept := isConnected_searchKept driver env s
    simp only [Option.map_some]
    split_ifs
    · exact hkept.then rfl rfl rfl
    · obtain ⟨size, definitionSize, hset⟩ := meterSetMeterType_eq env.now
        (driver.isConnected env s).1 (meterResetErrorCounter (driver.isConnected env s).2)
      rw [hset]
      exact hkept.then rfl rfl rfl
    · exact hkept.then rfl rfl rfl

/-- Both cycles are at rest, and nothing has been read. -/
theorem Sourced.of_rest
    (htable : s.meter.type.driver ≠ none → s.meter.currentMeter = s.meter.type.table)
    (hslave : s.meter.type.driver ≠ none → s.meter.slaveAddress = s.meter.type.slaveAddress)
    (hstate : s.meter.state = 0) (hactive : s.iskra.fastActive = false)
    (hregisters : ∀ name, s.registers name = CFloat.nan) (hsearching : Searching s) :
    Sourced s where
  table := htable
  slave := hslave
  newest q hq := by
    have hnone : s.awaited = none := by
      unfold Stack.awaited
      have hne : s.meter.state ≠ 1 := by omega
      split
      · exact if_neg hne
      · exact if_neg hne
      · exact if_neg hne
      · rw [hactive, if_neg Bool.false_ne_true, if_neg hne]
      · rfl
    rw [hnone] at hq
    cases hq
  block _ hblock := by
    rcases hblock with htwo | ⟨p, hp, hrequest⟩
    · omega
    · have hcount := hsearching.responses p hp
      rw [hrequest] at hcount
      exact absurd hcount (lt_irrefl meterEltakoRegisterCount)
  unread _ := hregisters
  values name _ := Or.inl (hregisters name)

/-- Nothing is stored before a meter is found. -/
theorem Sourced.find (env : TickEnv) (h : Sourced s) (hinv : HandOverInv s)
    (hsearching : Searching s) (htype : s.meter.type = .unknown) :
    Sourced (meterFindMeterType env s) ∧ Searching (meterFindMeterType env s) := by
  have hkept := meterFindMeterType_searchKept env s
  have hsearching' := hkept.searching hsearching
  refine ⟨?_, hsearching'⟩
  have hregisters : ∀ name, (meterFindMeterType env s).registers name = CFloat.nan := by
    rw [hkept.registers]
    exact h.unread (unknown_driver htype)
  obtain ⟨hstate, hactive, -⟩ := hinv.rest htype
  have hnone {t : Stack F} (htype' : t.meter.type = s.meter.type) {P : Prop} :
      t.meter.type.driver ≠ none → P := by
    intro hdriver
    rw [htype', unknown_driver htype] at hdriver
    exact absurd rfl hdriver
  have hmove := meterFindMeterType_cases env s
  generalize meterFindMeterType env s = found at hmove hregisters hsearching' ⊢
  cases hmove with
  | again horder => exact .of_rest (hnone rfl) (hnone rfl) hstate hactive hregisters hsearching'
  | wait horder hfind | next horder hfind =>
    obtain ⟨htype', hstate', -⟩ := hfind.kept
    exact .of_rest (hnone htype') (hnone htype') (hstate'.trans hstate)
      ((congrArg MeterIskra.fastActive hfind.iskra).trans hactive) hregisters hsearching'
  | @found driver type t horder hfind hdetection hunknown =>
    obtain ⟨-, hstate', -⟩ := hfind.kept
    obtain ⟨size, definitionSize, hset⟩ :=
      meterSetMeterType_eq env.now type (meterResetErrorCounter t)
    rw [hset] at hregisters hsearching' ⊢
    exact .of_rest (fun _ => rfl) (fun _ => rfl) (hstate'.trans hstate)
      ((congrArg MeterIskra.fastActive hfind.iskra).trans hactive) hregisters hsearching'

/-! ### Steps -/

/-- The invariant of the sources, over whole runs. -/
structure SourceInv (s : Stack F) : Prop where
  handOver : HandOverInv s
  answer : AnswerInv s.rs485
  sourced : Sourced s
  searching : s.meter.type = .unknown → Searching s

/-- Times of the meter are not part of it. -/
theorem Sourced.times (h : Sourced s) (errorWaitTime firstTick timeout lastState : ℕ) :
    Sourced { s with
      meter.errorWaitTime := errorWaitTime
      meter.firstTick := firstTick
      meter.timeout := timeout
      statics.lastState := lastState } :=
  ⟨h.table, h.slave, h.newest, h.block, h.unread, h.values⟩

omit [CFloat F] in
theorem Searching.times (h : Searching s) (errorWaitTime firstTick timeout lastState : ℕ) :
    Searching { s with
      meter.errorWaitTime := errorWaitTime
      meter.firstTick := firstTick
      meter.timeout := timeout
      statics.lastState := lastState } := ⟨h.requests, h.responses⟩

/-- The wire side leaves the requests and all that has been read. -/
theorem SourceInv.wireStep {r : RS485} (h : SourceInv s) (hanswer : AnswerInv r)
    (hw : WireStep s.rs485 r) : SourceInv { s with rs485 := r } where
  handOver := h.handOver.rs485 r
  answer := hanswer
  sourced := by
    refine ⟨h.sourced.table, h.sourced.slave, fun q hq => ?_, h.sourced.block, h.sourced.unread,
      h.sourced.values⟩
    have hnewest := h.sourced.newest q hq
    rw [Stack.newest, ← List.head?_map] at hnewest ⊢
    show (r.requests.map IssuedRequest.request).head? = some q
    rw [hw.requests]
    exact hnewest
  searching htype := (h.searching htype).of_eq hw.requests rfl

theorem meterTick_sourced (h : SourceInv s) (hsound : StackEvent.Sound s (.meterTick env))
    (htick : meterTick env s = some s') :
    (AnswerInv s'.rs485 → SourceInv s') ∧ (s.TakesFailure →
      ∀ name ∈ s.meter.type.measured, s'.registers name = s.registers name) := by
  have hinv := (h.handOver.tick htick).1
  cases meterTick_cases htick with
  | unsupported htype => exact ⟨fun _ => h, fun _ _ _ => rfl⟩
  | errorWait hwait => exact ⟨fun _ => h, fun _ _ _ => rfl⟩
  | firstWait herror hwait =>
    refine ⟨fun hanswer => ⟨hinv, hanswer, ?_, fun htype => ?_⟩, fun _ _ _ => rfl⟩
    · exact h.sourced.times 0 s.meter.firstTick s.meter.timeout s.statics.lastState
    · exact (h.searching htype).times 0 s.meter.firstTick s.meter.timeout s.statics.lastState
  | find htype =>
    have hstarted := h.sourced.times 0 0 s.meter.timeout s.statics.lastState
    have hsearching := (h.searching htype).times 0 0 s.meter.timeout s.statics.lastState
    have hinv' := h.handOver.times 0 0 s.meter.timeout s.statics.lastState
    obtain ⟨hsourced, hsearching'⟩ := hstarted.find env hinv' hsearching htype
    refine ⟨fun hanswer => ⟨hinv, hanswer, hsourced, fun _ => hsearching'⟩, fun _ name _ => ?_⟩
    exact congrFun (meterFindMeterType_searchKept env s.started).registers name
  | @drive s₁ _ htype herror hfirst hcheck hdrive =>
    -- the driver is given the state with other times, which no value depends on
    have hdriven {t : Stack F} (htimes : Sourced t) (hiskra : t.meter.type.driver = some .iskra →
          IskraInv t) (htype' : t.meter.type = s.meter.type)
        (hsound' : ∀ q, t.awaited = some q →
          (∀ tick ∈ env.lentTo t, (t.external tick).newest = some q) ∧
            (meterIsResponseReady modbusFcReadInputRegisters t.rs485 = true → GoodTake q t))
        (htakes : s.TakesFailure → t.TakesFailure) (hregisters : t.registers = s.registers)
        (ht : meterDriverTick env t = some s') :
        (AnswerInv s'.rs485 → SourceInv s') ∧ (s.TakesFailure →
          ∀ name ∈ s.meter.type.measured, s'.registers name = s.registers name) := by
      obtain ⟨hsourced, htype'', hkept⟩ := driverTick_sourced htimes hiskra hsound' ht
      refine ⟨fun hanswer => ⟨hinv, hanswer, hsourced, fun hunknown => ?_⟩,
        fun hfailure name hname => ?_⟩
      · exact absurd ((htype''.trans htype').symm.trans hunknown) htype
      · rw [hkept (htakes hfailure) name (htype' ▸ hname), hregisters]
    have hiskra : s.meter.type.driver = some .iskra → IskraInv s :=
      fun hdriver => (h.handOver.iskra hdriver).1
    have hgood (q : MeterRequest) (hq : s.awaited = some q) (timeout lastState : ℕ) :
        (∀ tick ∈ env.lentTo s, (s.external tick).newest = some q) ∧
          (meterIsResponseReady modbusFcReadInputRegisters s.rs485 = true →
            GoodTake q { s with
              meter.errorWaitTime := 0
              meter.firstTick := 0
              meter.timeout := timeout
              statics.lastState := lastState }) := by
      obtain ⟨hlent, hresponse⟩ := hsound herror hfirst q hq
      refine ⟨hlent, fun hready => ?_⟩
      have htake := (hresponse hready).take h.answer (h.sourced.newest q hq)
        (h.sourced.awaited_sendable hq) hready
      exact ⟨htake.failed, htake.answer⟩
    rcases (meterCheckState_some hcheck).2 with ⟨-, rfl⟩ | ⟨-, rfl⟩
    · exact hdriven (h.sourced.times 0 0 s.meter.timeout s.statics.lastState) hiskra rfl
        (fun q hq => hgood q hq _ _) id rfl hdrive
    · exact hdriven (h.sourced.times 0 0 (systemTimerGetMs env.now) s.meter.state) hiskra rfl
        (fun q hq => hgood q hq _ _) id rfl hdrive

theorem step_sourced {e : StackEvent} (h : SourceInv s) (hexternal : e.ExternalsUseBus)
    (hsound : e.Sound s) (hstep : stackStep s e = some s') : SourceInv s' := by
  have hanswer := h.answer.step hexternal hstep
  rcases stackStep_wire hstep with ⟨env, rfl⟩ | ⟨r, rfl, -, hw⟩
  · exact (meterTick_sourced h hsound hstep).1 hanswer
  · exact h.wireStep hanswer hw

theorem sourceInv_init {bufferSize : ℕ} (h : 13 < bufferSize - bufferSize / 2)
    (txFifoSize now : ℕ) : SourceInv (stackInit (F := F) bufferSize txFifoSize now) := by
  have hsearching : Searching (stackInit (F := F) bufferSize txFifoSize now) :=
    ⟨fun _ hq => absurd hq List.not_mem_nil, fun _ hp => absurd hp List.not_mem_nil⟩
  refine ⟨handOverInv_init bufferSize txFifoSize now, answerInv_init h txFifoSize now, ?_,
    fun _ => hsearching⟩
  exact .of_rest (fun hdriver => absurd rfl hdriver) (fun hdriver => absurd rfl hdriver) rfl rfl
    (fun _ => rfl) hsearching

/-! ### Main result -/

/-- In every run whose ticks store no buffer behind a failed response, each measured
field is NaN or what the meter has said of a register that is read into it, in an answer
with its slave address and a valid checksum; and a tick that takes a failed response
changes none of them. -/
theorem registers_sourced {bufferSize txFifoSize now : ℕ} {events : List StackEvent} {t : Stack F}
    (hsize : 13 < bufferSize - bufferSize / 2) (hexternal : ∀ e ∈ events, e.ExternalsUseBus)
    (hsound : Meets stackStep (fun (s : Stack F) e => e.Sound s)
      (stackInit bufferSize txFifoSize now) events)
    (hrun : run stackStep (stackInit bufferSize txFifoSize now) events = some t) :
    (∀ name ∈ t.meter.type.measured, t.FromMeter name) ∧
      ∀ env t', StackEvent.Sound t (.meterTick env) → meterTick env t = some t' →
        t.TakesFailure →
        ∀ name ∈ t.meter.type.measured, t'.registers name = t.registers name := by
  have hmeets := hsound.and (.of_forall hexternal _)
  have hinv : SourceInv t :=
    run_induct_meets (fun _ _ _ hinv hc hs => step_sourced hinv hc.2 hc.1 hs)
      (sourceInv_init hsize txFifoSize now) hmeets hrun
  refine ⟨hinv.sourced.values, fun env t' hc htick htakes => ?_⟩
  exact (meterTick_sourced hinv hc htick).2 htakes

/-! ### A run with an answer, and one without -/

/-- A generic meter is found, and asked for a voltage. -/
def voltageAskedRun : List StackEvent :=
  answeredRun ++ [.meterTick (idleEnv 18), .meterTick (idleEnv 20), .rs485Tick 21 noInterrupts]

/-- It answers with 230.000 V. -/
def voltageAnsweredRun : List StackEvent :=
  voltageAskedRun ++
    [1, 4, 4, 0, 3, 130, 112, 106, 192].map (fun value => .receive value (some 2)) ++
    [.rs485Tick 30 noInterrupts, .rs485Tick 36 noInterrupts, .rs485Tick 37 noInterrupts,
      .meterTick (idleEnv 38)]

/-- It does not answer. -/
def voltageTimedOutRun : List StackEvent :=
  voltageAskedRun ++ [.rs485Tick 1030 noInterrupts]

theorem registers_sourced_voltage :
    let t : Stack ExactFloat := after stackStep (stackInit 64 32 0) voltageAnsweredRun
    t.registers .voltageL1N = ⟨some 230⟩ ∧ t.FromMeter .voltageL1N := by
  have hexternal : ∀ e ∈ voltageAnsweredRun, e.ExternalsUseBus := by
    intro e he
    simp only [voltageAnsweredRun, voltageAskedRun, answeredRun, List.mem_append, List.mem_cons,
      List.mem_map, List.not_mem_nil, or_false] at he
    rcases he with (((((rfl | rfl) | ⟨value, -, rfl⟩) | rfl | rfl | rfl) | rfl | rfl | rfl) |
      ⟨value, -, rfl⟩) | rfl | rfl | rfl | rfl
    any_goals exact externalsUseBus_idleEnv _
    all_goals trivial
  refine ⟨by decide +kernel, ?_⟩
  exact (registers_sourced (by decide) hexternal (by decide +kernel)
    (run_eq_after (by decide +kernel))).1 _ (by decide +kernel)

/-- The voltage is what was on the stack, here 0, and nobody has said so. -/
theorem registers_sourced_timedOut :
    ∃ t t' : Stack ExactFloat, run stackStep (stackInit 64 32 0) voltageTimedOutRun = some t ∧
      t.TakesFailure ∧ meterTick (idleEnv 1031) t = some t' ∧
      RegisterName.voltageL1N ∈ t'.meter.type.measured ∧
      t'.registers .voltageL1N ≠ t.registers .voltageL1N ∧ ¬ t'.FromMeter .voltageL1N := by
  let t : Stack ExactFloat := after stackStep (stackInit 64 32 0) voltageTimedOutRun
  let t' : Stack ExactFloat := after stackStep t [.meterTick (idleEnv 1031)]
  have htick : run stackStep t [.meterTick (idleEnv 1031)] = some t' :=
    run_eq_after (by decide +kernel)
  rw [run_singleton] at htick
  have hchanged : t'.registers .voltageL1N ≠ t.registers .voltageL1N := by decide +kernel
  have hvalue : t'.registers .voltageL1N ≠ CFloat.nan := by decide +kernel
  have hresponses : ∀ p ∈ t'.responses,
      p.request = .readRegisters modbusFcReadHoldingRegisters 1 0x100D 1 := by decide +kernel
  refine ⟨t, t', run_eq_after (by decide +kernel), ⟨by decide +kernel, ?_⟩, htick, by decide +kernel,
    hchanged, ?_⟩
  · have hgeneric : t.meter.type.driver ≠ some .eltako := by decide +kernel
    exact fun heltako => absurd heltako hgeneric
  · rintro (hnan | ⟨definition, hdefinition, hname, p, hp, start, count, hrequest, -⟩)
    · exact hvalue hnan
    · -- the one response so far is that of the detection
      rw [hresponses p hp] at hrequest
      cases (MeterRequest.readRegisters.inj hrequest).1

end Bricklib2
