/-
Bricklib2/Warp/StackInvariant.lean

The invariant of the meter stack: the request that detection or the driver waits
for is the one that the RTU master works on.

Main result: `stackInv_run`, the invariant holds in every run in which the
external users of the bus are idle.
-/
import Bricklib2.Warp.MeterFind

namespace Bricklib2

open Machine

variable {F : Type} {driver : MeterDriver} {now : ℕ} {s : Stack F}

/-! ### The invariant -/

/-- The meter before a type is found. -/
structure Finding (s : Stack F) : Prop where
  others : ∀ driver, findOrder s.statics.findMeterState ≠ some driver →
    driver.findState s.statics = 0
  state : s.meter.state = 0
  fastActive : s.iskra.fastActive = false
  fastState : s.iskra.fastState = 0

/-- Control state and bus agree. -/
structure StackInv (s : Stack F) : Prop where
  bus : BusInv s.outstanding s.rs485
  typed : s.meter.type.driver ≠ none →
    s.meter.slaveAddress = s.meter.type.slaveAddress ∧ s.meter.currentMeter = s.meter.type.table
  finding : s.meter.type = .unknown → Finding s
  eltako : s.meter.type.driver = some .eltako → EltakoInv s
  iskra : s.meter.type.driver = some .iskra → IskraInv s

theorem slaveAddress_ne_zero {type : MeterType} (h : type.driver ≠ none) :
    type.slaveAddress ≠ 0 := by
  cases type <;> first | exact absurd rfl h | decide

theorem findOutstanding_rest {s : Stack F} {driver : MeterDriver}
    (h : driver.findState s.statics = 0) : driver.findOutstanding s = none := by
  have hne : driver.findState s.statics ≠ 1 := by omega
  cases driver with
  | eastron => exact if_neg hne
  | generic => exact if_neg hne
  | iskra => exact if_neg hne
  | eltako =>
    have hstate : s.statics.eltakoFindState = 0 := h
    exact eltakoFindOutstanding_none (by omega)

theorem outstanding_rest {s : Stack F} (driver : MeterDriver) (hstate : s.meter.state = 0)
    (hactive : s.iskra.fastActive = false) : driver.outstanding s = none := by
  cases driver with
  | eastron => exact eastronOutstanding_none (by omega)
  | generic => exact if_neg (by omega)
  | iskra => exact (iskraOutstanding_slow hactive).trans (iskraSlowOutstanding_none (by omega))
  | eltako => exact eltakoOutstanding_none (by omega) fun h => by omega

theorem setFindState_other {d d' : MeterDriver} (h : d ≠ d') (state : ℕ)
    (statics : MeterStatics F) : d'.findState (d.setFindState state statics) =
      d'.findState statics := by
  cases d <;> cases d' <;> first | exact absurd rfl h | rfl

theorem setFindState_same (d : MeterDriver) (state : ℕ) (statics : MeterStatics F) :
    d.findState (d.setFindState state statics) = state := by
  cases d <;> rfl

theorem setFindState_findMeterState (d : MeterDriver) (state : ℕ) (statics : MeterStatics F) :
    (d.setFindState state statics).findMeterState = statics.findMeterState := by
  cases d <;> rfl

theorem stackOutstanding_unknown {s : Stack F} (h : s.meter.type = .unknown) :
    s.outstanding = (findOrder s.statics.findMeterState).bind (MeterDriver.findOutstanding s) :=
  if_pos h

theorem stackOutstanding_known {s : Stack F} (h : s.meter.type ≠ .unknown) :
    s.outstanding = s.meter.type.driver.bind (MeterDriver.outstanding s) :=
  if_neg h

/-- A meter without a driver has no request outstanding and no other duties. -/
theorem StackInv.ofRest {s : Stack F} (hbus : BusInv none s.rs485) (hstate : s.meter.state = 0)
    (hactive : s.iskra.fastActive = false) (hfast : s.iskra.fastState = 0)
    (hfind : ∀ driver : MeterDriver, s.meter.type = .unknown → driver.findState s.statics = 0)
    (htyped : s.meter.type.driver ≠ none → s.meter.slaveAddress = s.meter.type.slaveAddress ∧
      s.meter.currentMeter = s.meter.type.table) : StackInv s where
  bus := by
    have hnone : s.outstanding = none := by
      by_cases htype : s.meter.type = .unknown
      · rw [stackOutstanding_unknown htype, Option.bind_eq_none_iff]
        exact fun driver _ => findOutstanding_rest (hfind driver htype)
      · rw [stackOutstanding_known htype, Option.bind_eq_none_iff]
        exact fun driver _ => outstanding_rest driver hstate hactive
    rw [hnone]
    exact hbus
  typed := htyped
  finding htype := ⟨fun driver _ => hfind driver htype, hstate, hactive, hfast⟩
  eltako _ htwo := by omega
  iskra _ := Or.inl ⟨hactive, hfast⟩

theorem unknown_driver {s : Stack F} (h : s.meter.type = .unknown) :
    s.meter.type.driver = none := by
  rw [h]
  rfl

theorem FindStep.kept {type : MeterType} {t : Stack F} (h : FindStep driver now s type t) :
    t.meter.type = s.meter.type ∧ t.meter.state = s.meter.state ∧
      t.statics.findMeterState = s.statics.findMeterState := by
  obtain ⟨time, available, hmeter⟩ := h.meter
  obtain ⟨state, hstatics, -⟩ := h.statics
  rw [hmeter, hstatics, setFindState_findMeterState]
  exact ⟨rfl, rfl, rfl⟩

/-- A manufacturer's detection leaves those of the others alone. -/
theorem FindStep.others {type : MeterType} {t : Stack F} {d : MeterDriver} (h : Finding s)
    (horder : findOrder s.statics.findMeterState = some driver)
    (hstep : FindStep driver now s type t) (hd : driver ≠ d) : d.findState t.statics = 0 := by
  obtain ⟨state, hstatics, -⟩ := hstep.statics
  rw [hstatics, setFindState_other hd]
  refine h.others d fun hsome => hd ?_
  rw [horder] at hsome
  exact Option.some.inj hsome

theorem StackInv.findWait {t : Stack F} (h : StackInv s) (htype : s.meter.type = .unknown)
    (horder : findOrder s.statics.findMeterState = some driver)
    (hfind : FindStep driver now s .detection t) : StackInv (meterResetErrorCounter t) := by
  have hrest := h.finding htype
  obtain ⟨htype', hstate', horder'⟩ := hfind.kept
  rw [htype] at htype'
  rw [← horder'] at horder
  have hbus := h.bus
  rw [stackOutstanding_unknown htype, ← horder', horder] at hbus
  have hrun := hfind.bus
  rw [if_pos rfl] at hrun
  -- the next tick asks the same manufacturer, whose request is the one on the bus
  have hout : (meterResetErrorCounter t).outstanding = driver.findOutstanding t := by
    rw [stackOutstanding_unknown (s := meterResetErrorCounter t) htype']
    show (findOrder t.statics.findMeterState).bind _ = _
    rw [horder]
    cases driver <;> rfl
  have hnone : (meterResetErrorCounter t).meter.type.driver = none := unknown_driver htype'
  refine ⟨?_, fun hdriver => absurd hnone hdriver, fun _ => ⟨?_, ?_, ?_, ?_⟩,
    fun hdriver => ?_, fun hdriver => ?_⟩
  · rw [hout]
    exact (hrun.master hbus).1.counters _
  · intro d hd
    have hne : driver ≠ d := by
      rintro rfl
      exact hd horder
    rw [horder'] at horder
    have hzero := hfind.others hrest horder hne
    exact hzero
  · exact hstate'.trans hrest.state
  · exact (congrArg MeterIskra.fastActive hfind.iskra).trans hrest.fastActive
  · exact (congrArg MeterIskra.fastState hfind.iskra).trans hrest.fastState
  · rw [hnone] at hdriver
    cases hdriver
  · rw [hnone] at hdriver
    cases hdriver

/-- A result of the detection finds the bus without a request. -/
theorem StackInv.findBus {type : MeterType} {t : Stack F} (h : StackInv s)
    (htype : s.meter.type = .unknown) (horder : findOrder s.statics.findMeterState = some driver)
    (hfind : FindStep driver now s type t) (hdetection : type ≠ .detection) :
    BusInv none (meterResetErrorCounter t).rs485 := by
  have hbus := h.bus
  rw [stackOutstanding_unknown htype, horder] at hbus
  have hrun := hfind.bus
  rw [if_neg hdetection] at hrun
  exact (hrun.master hbus).1.counters _

theorem StackInv.findFound {type : MeterType} {t : Stack F} (h : StackInv s)
    (htype : s.meter.type = .unknown) (horder : findOrder s.statics.findMeterState = some driver)
    (hfind : FindStep driver now s type t) (hdetection : type ≠ .detection)
    (hunknown : type ≠ .unknown) :
    StackInv { meterSetMeterType now type (meterResetErrorCounter t) with
      statics.findMeterState := 0 } := by
  have hrest := h.finding htype
  obtain ⟨-, hstate', -⟩ := hfind.kept
  obtain ⟨size, definitionSize, hset⟩ := meterSetMeterType_eq now type (meterResetErrorCounter t)
  rw [hset]
  apply StackInv.ofRest
  · exact h.findBus htype horder hfind hdetection
  · exact hstate'.trans hrest.state
  · exact (congrArg MeterIskra.fastActive hfind.iskra).trans hrest.fastActive
  · exact (congrArg MeterIskra.fastState hfind.iskra).trans hrest.fastState
  · exact fun _ h => absurd h hunknown
  · exact fun _ => ⟨rfl, rfl⟩

theorem StackInv.findNext {t : Stack F} (h : StackInv s) (htype : s.meter.type = .unknown)
    (horder : findOrder s.statics.findMeterState = some driver)
    (hfind : FindStep driver now s .unknown t) :
    StackInv { meterResetErrorCounter t with
      statics.findMeterState := s.statics.findMeterState + 1 } := by
  have hrest := h.finding htype
  obtain ⟨htype', hstate', -⟩ := hfind.kept
  rw [htype] at htype'
  apply StackInv.ofRest
  · exact h.findBus htype horder hfind (by decide)
  · exact hstate'.trans hrest.state
  · exact (congrArg MeterIskra.fastActive hfind.iskra).trans hrest.fastActive
  · exact (congrArg MeterIskra.fastState hfind.iskra).trans hrest.fastState
  · intro d _
    have hzero : d.findState t.statics = 0 := by
      by_cases hd : driver = d
      · obtain ⟨state, hstatics, hzero⟩ := hfind.statics
        rw [← hd, hstatics, setFindState_same, hzero rfl]
      · exact hfind.others hrest horder hd
    cases d <;> exact hzero
  · exact fun hdriver => absurd (unknown_driver htype') hdriver

/-- Detection keeps the invariant. -/
theorem StackInv.find {s' : Stack F} (h : StackInv s) (htype : s.meter.type = .unknown)
    (hmove : FindMove now s s') : StackInv s' := by
  cases hmove with
  | again horder =>
    have hrest := h.finding htype
    have hbus := h.bus
    rw [stackOutstanding_unknown htype, horder] at hbus
    refine .ofRest hbus hrest.state hrest.fastActive hrest.fastState ?_
      fun hdriver => absurd (unknown_driver htype) hdriver
    intro driver _
    have hzero := hrest.others driver (by rw [horder]; exact fun hd => by cases hd)
    cases driver <;> exact hzero
  | wait horder hfind => exact h.findWait htype horder hfind
  | found horder hfind hdetection hunknown =>
    exact h.findFound htype horder hfind hdetection hunknown
  | next horder hfind => exact h.findNext htype horder hfind

/-- Times and counters of the meter are not part of the invariant. -/
theorem StackInv.times (h : StackInv s) (errorWaitTime firstTick timeout lastState : ℕ) :
    StackInv { s with
      meter.errorWaitTime := errorWaitTime
      meter.firstTick := firstTick
      meter.timeout := timeout
      statics.lastState := lastState } := by
  have hout : Stack.outstanding { s with
      meter.errorWaitTime := errorWaitTime
      meter.firstTick := firstTick
      meter.timeout := timeout
      statics.lastState := lastState } = s.outstanding := rfl
  refine ⟨?_, h.typed, fun htype => ?_, h.eltako, h.iskra⟩
  · rw [hout]
    exact h.bus
  · obtain ⟨hothers, hstate, hactive, hfast⟩ := h.finding htype
    exact ⟨hothers, hstate, hactive, hfast⟩

/-- What a driver tick must keep, for its driver. -/
theorem StackInv.drive {s' : Stack F} {o' : Option MeterRequest} (h : StackInv s)
    (hdriver : s.meter.type.driver = some driver)
    (hstep : DriverStep now (driver.outstanding s) o' s s') (ho' : driver.outstanding s' = o')
    (heltako : driver = .eltako → EltakoInv s') (hiskra : driver = .iskra → IskraInv s') :
    StackInv s' := by
  have hunknown : ∀ t : Stack F, t.meter.type = s.meter.type → t.meter.type ≠ .unknown := by
    intro t ht htype
    rw [← ht, htype] at hdriver
    cases hdriver
  have hbus := h.bus
  rw [stackOutstanding_known (hunknown s rfl), hdriver] at hbus
  refine ⟨?_, fun hd => ?_, fun htype => absurd htype (hunknown s' hstep.type), ?_, ?_⟩
  · rw [stackOutstanding_known (hunknown s' hstep.type), hstep.type, hdriver]
    show BusInv (driver.outstanding s') s'.rs485
    rw [ho']
    exact (hstep.bus.master hbus).1
  · rw [hstep.type] at hd
    rw [hstep.slave, hstep.table, hstep.type]
    exact h.typed hd
  · intro hd
    rw [hstep.type, hdriver] at hd
    exact heltako (Option.some.inj hd)
  · intro hd
    rw [hstep.type, hdriver] at hd
    exact hiskra (Option.some.inj hd)

theorem StackInv.slaveAddress (h : StackInv s) (hdriver : s.meter.type.driver = some driver) :
    s.meter.slaveAddress ≠ 0 := by
  have hne : s.meter.type.driver ≠ none := by
    rw [hdriver]
    exact Option.some_ne_none driver
  rw [(h.typed hne).1]
  exact slaveAddress_ne_zero hne

/-- The driver's tick keeps the invariant.  Only the Iskra driver gives the bus away. -/
theorem StackInv.driverTick [CFloat F] {env : TickEnv} {s' : Stack F} (h : StackInv s)
    (hidle : s.meter.type.driver = some .iskra → env.ExternalIdle) (htick : meterDriverTick env s = some s') : StackInv s' := by
  unfold meterDriverTick at htick
  split at htick
  · rename_i hdriver
    have hstep := eastronTick_bus (h.slaveAddress hdriver) htick
    exact h.drive hdriver hstep rfl (fun hd => by cases hd) (fun hd => by cases hd)
  · rename_i hdriver
    have hstep := genericTick_bus (h.slaveAddress hdriver) htick
    exact h.drive hdriver hstep rfl (fun hd => by cases hd) (fun hd => by cases hd)
  · rename_i hdriver
    obtain ⟨hstep, hinv⟩ := iskraTick_bus (h.slaveAddress hdriver) (h.iskra hdriver)
      (hidle hdriver) htick
    exact h.drive hdriver hstep rfl (fun hd => by cases hd) (fun _ => hinv)
  · rename_i hdriver
    obtain ⟨hstep, hinv⟩ := eltakoTick_bus (h.slaveAddress hdriver) (h.eltako hdriver) htick
    exact h.drive hdriver hstep rfl (fun _ => hinv) (fun hd => by cases hd)
  · obtain rfl := Option.some.inj htick
    exact h

theorem StackInv.started (h : StackInv s) : StackInv s.started :=
  h.times 0 0 s.meter.timeout s.statics.lastState

theorem StackInv.checkState {s' : Stack F} (h : StackInv s)
    (hcheck : meterCheckState now s = some s') : StackInv s' := by
  rcases (meterCheckState_some hcheck).2 with ⟨-, rfl⟩ | ⟨-, rfl⟩
  · exact h
  · exact h.times s.meter.errorWaitTime s.meter.firstTick _ _

theorem StackInv.meterTick [CFloat F] {env : TickEnv} {s' : Stack F} (h : StackInv s)
    (hidle : s.meter.type.driver = some .iskra → env.ExternalIdle) (htick : meterTick env s = some s') : StackInv s' := by
  cases meterTick_cases htick with
  | unsupported _ => exact h
  | errorWait _ => exact h
  | firstWait _ _ => exact h.times 0 s.meter.firstTick s.meter.timeout s.statics.lastState
  | find htype => exact h.started.find htype (meterFindMeterType_cases env _)
  | drive _ _ _ hcheck hdrive =>
    refine (h.started.checkState hcheck).driverTick (fun hiskra => hidle ?_) hdrive
    rcases (meterCheckState_some hcheck).2 with ⟨-, rfl⟩ | ⟨-, rfl⟩ <;> exact hiskra

/-- The UART, its interrupts and `rs485_tick`. -/
theorem StackInv.wireStep {r : RS485} (h : StackInv s) (hm : MasterInv r)
    (hw : WireStep s.rs485 r) : StackInv { s with rs485 := r } := by
  have hout : Stack.outstanding { s with rs485 := r } = s.outstanding := rfl
  refine ⟨?_, h.typed, fun htype => ?_, fun hd htwo => ?_, h.iskra⟩
  · rw [hout]
    exact h.bus.wireStep hm hw
  · obtain ⟨hothers, hstate, hactive, hfast⟩ := h.finding htype
    exact ⟨hothers, hstate, hactive, hfast⟩
  · obtain ⟨hcb, hnew⟩ := h.eltako hd htwo
    exact ⟨hw.cbInvoke hcb, hnew⟩

/-- Outside the meter code nothing is done to the bus. -/
def StackEvent.ExternalIdle : StackEvent → Prop
  | .meterTick env => env.ExternalIdle
  | _ => True

instance (e : StackEvent) : Decidable e.ExternalIdle :=
  match e with
  | .meterTick env => inferInstanceAs (Decidable env.ExternalIdle)
  | .receive _ _ | .rxIrq _ | .txIrq | .txShift | .rs485Tick _ _ => isTrue trivial

theorem StackInv.step [CFloat F] {e : StackEvent} {s' : Stack F} (h : StackInv s)
    (hidle : s.meter.type.driver = some .iskra → e.ExternalIdle)
    (hstep : stackStep s e = some s') : StackInv s' := by
  rcases stackStep_wire hstep with ⟨env, rfl⟩ | ⟨r, rfl, ⟨e', hmaster⟩, hw⟩
  · exact h.meterTick hidle hstep
  · exact h.wireStep (h.bus.master.step hmaster) hw

theorem stackInv_init [CFloat F] {bufferSize : ℕ} (txFifoSize now : ℕ)
    (h : 13 < bufferSize - bufferSize / 2) :
    StackInv (stackInit (F := F) bufferSize txFifoSize now) := by
  apply StackInv.ofRest
  · exact ⟨masterInv_rs485Init (by omega) txFifoSize now, h, fun _ => rfl, fun q hq => by cases hq⟩
  · rfl
  · rfl
  · rfl
  · intro driver _
    cases driver <;> rfl
  · exact fun hd => absurd rfl hd

/-- The invariant of the meter stack. -/
theorem stackInv_run [CFloat F] {bufferSize txFifoSize now : ℕ} {events : List StackEvent}
    {t : Stack F} (h : 13 < bufferSize - bufferSize / 2)
    (hidle : ∀ e ∈ events, e.ExternalIdle)
    (hrun : run stackStep (stackInit bufferSize txFifoSize now) events = some t) :
    StackInv t := by
  have hmeets : Meets stackStep (fun _ e => e.ExternalIdle)
      (stackInit (F := F) bufferSize txFifoSize now) events := .of_forall hidle _
  exact run_induct_meets (fun _ _ _ hinv hc hs => hinv.step (fun _ => hc) hs)
    (stackInv_init txFifoSize now h) hmeets hrun

end Bricklib2
