/-
Bricklib2/Warp/MeterTick.lean

Detection and `meter_tick` (meter.c), and the meter stack as a machine: the UART
and its interrupts, `rs485_tick` and `meter_tick`, in any order.
-/
import Bricklib2.Library.Machine
import Bricklib2.Warp.MeterEastron
import Bricklib2.Warp.MeterEltako
import Bricklib2.Warp.MeterIskra

namespace Bricklib2

variable {F : Type} [CFloat F]

/-! ### Detection -/

/-- The manufacturers, in the order in which they are tried. -/
def meterIsConnected (env : TickEnv) (s : Stack F) : Option (MeterType × Stack F) :=
  match s.statics.findMeterState with
  | 0 => some (meterGenericIsConnected env s)
  | 1 => some (meterEastronIsConnected env s)
  | 2 => some (meterEltakoIsConnected env s)
  | 3 => some (meterIskraIsConnected env s)
  | _ => none

/-- The next step of the search, which ends with the first driver that knows the meter. -/
def meterFindMeterType (env : TickEnv) (s : Stack F) : Stack F :=
  match meterIsConnected env s with
  | none => { s with statics.findMeterState := 0 }
  | some (type, s) =>
    -- timeouts are expected here, so they are not to confuse the user
    let s := meterResetErrorCounter s
    if type = .detection then
      s
    else if type ≠ .unknown then
      { meterSetMeterType env.now type s with statics.findMeterState := 0 }
    else
      { s with statics.findMeterState := s.statics.findMeterState + 1 }

/-! ### The tick -/

/-- The drivers. -/
inductive MeterDriver
  | eastron
  | generic
  | iskra
  | eltako
  deriving DecidableEq, Repr

/-- The driver of a meter type, for those that have one. -/
def MeterType.driver : MeterType → Option MeterDriver
  | .sdm72V2 | .sdm630 | .sdm630MctV2 => some .eastron
  | .dem4A | .dmed341Mid7Er => some .generic
  | .wm3M4C | .wm3M4 => some .iskra
  | .dsz15Dzmod | .dsz16Dze => some .eltako
  | .detection | .unknown | .unsupported | .sdm72Ctm => none

/-- The tick of the driver of the meter. -/
def meterDriverTick (env : TickEnv) (s : Stack F) : Option (Stack F) :=
  match s.meter.type.driver with
  | some .eastron => meterEastronTick env s
  | some .generic => meterGenericTick env s
  | some .iskra => meterIskraTick env s
  | some .eltako => meterEltakoTick env s
  | none => some s

/-- Still waiting `time` ms after `start`, where 0 means that nothing was started. -/
def waiting (now start time : ℕ) : Bool :=
  start != 0 && !systemTimerIsTimeElapsedMs now start time

/-- The driver's state has been the same for 60 seconds: the endless loop that
triggers the watchdog. -/
def watchdogLoop (now : ℕ) (s : Stack F) : Bool :=
  s.statics.lastState == s.meter.state && systemTimerIsTimeElapsedMs now s.meter.timeout 60000

/-- The state before the driver runs; `none` is the watchdog loop. -/
def meterCheckState (now : ℕ) (s : Stack F) : Option (Stack F) :=
  if watchdogLoop now s then
    none
  else if s.statics.lastState = s.meter.state then
    some s
  else
    some { s with
      meter.timeout := systemTimerGetMs now
      statics.lastState := s.meter.state }

/-- A tick of the meter module: the search, or the driver with its timeout. -/
def meterTick (env : TickEnv) (s : Stack F) : Option (Stack F) :=
  if s.meter.type = .unsupported then
    some s
  else if waiting env.now s.meter.errorWaitTime 500 then
    some s
  else
    let s := { s with meter.errorWaitTime := 0 }
    if waiting env.now s.meter.firstTick 2500 then
      some s
    else
      let s := { s with meter.firstTick := 0 }
      if s.meter.type = .unknown then
        some (meterFindMeterType env s)
      else
        (meterCheckState env.now s).bind (meterDriverTick env)

/-- The meter after the two waiting times. -/
def Stack.started (s : Stack F) : Stack F :=
  { s with
    meter.errorWaitTime := 0
    meter.firstTick := 0 }

/-- What one `meter_tick` can do. -/
inductive TickMove (env : TickEnv) (s : Stack F) : Stack F → Prop
  | unsupported (htype : s.meter.type = .unsupported) : TickMove env s s
  | errorWait (hwait : waiting env.now s.meter.errorWaitTime 500 = true) : TickMove env s s
  | firstWait (herror : waiting env.now s.meter.errorWaitTime 500 = false)
      (hwait : waiting env.now s.meter.firstTick 2500 = true) :
      TickMove env s { s with meter.errorWaitTime := 0 }
  | find (htype : s.meter.type = .unknown) : TickMove env s (meterFindMeterType env s.started)
  | drive {s₁ s' : Stack F} (htype : s.meter.type ≠ .unknown)
      (herror : waiting env.now s.meter.errorWaitTime 500 = false)
      (hfirst : waiting env.now s.meter.firstTick 2500 = false)
      (hcheck : meterCheckState env.now s.started = some s₁)
      (hdrive : meterDriverTick env s₁ = some s') : TickMove env s s'

theorem meterTick_cases {env : TickEnv} {s s' : Stack F} (h : meterTick env s = some s') :
    TickMove env s s' := by
  simp only [meterTick] at h
  split_ifs at h with hunsupported herror hfirst htype
  · obtain rfl := Option.some.inj h
    exact .unsupported hunsupported
  · obtain rfl := Option.some.inj h
    exact .errorWait herror
  · obtain rfl := Option.some.inj h
    exact .firstWait (Bool.eq_false_of_not_eq_true herror) hfirst
  · obtain rfl := Option.some.inj h
    exact .find htype
  · obtain ⟨s₁, hcheck, hdrive⟩ := Option.bind_eq_some_iff.mp h
    exact .drive htype (Bool.eq_false_of_not_eq_true herror)
      (Bool.eq_false_of_not_eq_true hfirst) hcheck hdrive

omit [CFloat F] in
theorem meterCheckState_some {now : ℕ} {s s' : Stack F} (h : meterCheckState now s = some s') :
    watchdogLoop now s = false ∧
      (s.statics.lastState = s.meter.state ∧ s' = s ∨
        s.statics.lastState ≠ s.meter.state ∧ s' = { s with
          meter.timeout := systemTimerGetMs now
          statics.lastState := s.meter.state }) := by
  unfold meterCheckState at h
  split_ifs at h with hloop hsame
  · exact ⟨Bool.eq_false_of_not_eq_true hloop, Or.inl ⟨hsame, (Option.some.inj h).symm⟩⟩
  · exact ⟨Bool.eq_false_of_not_eq_true hloop, Or.inr ⟨hsame, (Option.some.inj h).symm⟩⟩

/-! ### The machine -/

/-- What happens to the stack: a byte, an interrupt, or a tick of one of its modules. -/
inductive StackEvent
  | receive (value : UInt8) (answers : Option ℕ)
  | rxIrq (now : ℕ)
  | txIrq
  | txShift
  | rs485Tick (now : ℕ) (irq : Interrupts)
  | meterTick (env : TickEnv)

/-- A step of the stack. -/
def stackStep (s : Stack F) : StackEvent → Option (Stack F)
  | .receive value answers => some { s with rs485 := rs485Receive value answers s.rs485 }
  | .rxIrq now => some { s with rs485 := rs485RxIrqHandler now s.rs485 }
  | .txIrq =>
    if s.rs485.txEvent then some { s with rs485 := rs485TxIrqHandler s.rs485 } else none
  | .txShift => some { s with rs485 := rs485TxShift s.rs485 }
  | .rs485Tick now irq => some { s with rs485 := rs485Tick now irq s.rs485 }
  | .meterTick env => meterTick env s

/-- The static variables before the first tick; those that hold measurements or
times are zero. -/
def initialStatics : MeterStatics F where
  findMeterState := 0
  genericFindState := 0
  eastronFindState := 0
  eltakoFindState := 0
  iskraFindState := 0
  genericReadFast := false
  eastronReadFast := false
  eltakoTimeSinceRead := 0
  eltakoData := fun _ => 0
  eltakoDataNew := false
  eltakoDataI := 0
  eltakoValue := CFloat.ofBits 0
  lastState := 255

/-- The zeroed `meter`, before `meter_init`. -/
def zeroMeter : Meter F where
  type := .unknown
  slaveAddress := 0
  state := 0
  registerFullPosition := 0
  registerFastPosition := 0
  registerFastTime := 0
  available := false
  eachValueReadOnce := false
  timeout := 0
  firstTick := 0
  errorWaitTime := 0
  systemTypeRead := 0
  newSystemType := false
  phasesConnected := fun _ => false
  newFastValueCallback := false
  relativeEnergySum := CFloat.ofBits 0
  relativeEnergyImport := CFloat.ofBits 0
  relativeEnergyExport := CFloat.ofBits 0
  currentMeter := none
  currentMeterSize := 0
  currentMeterDefinitionSize := 0

/-- The variables of the driver before its first tick. -/
def zeroIskra : MeterIskra F where
  energyCounterExponent := fun _ => CFloat.ofBits 0
  energyCounter := fun _ => CFloat.ofBits 0
  energyCounter1000x := fun _ => CFloat.ofBits 0
  measurementStatus := 0
  signatureStatus := 0
  fastState := 0
  fastActive := false
  fastStartTime := 0

/-- `rs485_init`, then `meter_init`. -/
def stackInit (bufferSize txFifoSize now : ℕ) : Stack F :=
  meterInit now
    { rs485 := modbusInit now (rs485InitBuffer bufferSize txFifoSize)
      meter := zeroMeter
      registers := fun _ => CFloat.ofBits 0
      iskra := zeroIskra
      statics := initialStatics
      openRequest := false
      handOvers := []
      responses := []
      readDones := 0 }

end Bricklib2
