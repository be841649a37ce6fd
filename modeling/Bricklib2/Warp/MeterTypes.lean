/-
Bricklib2/Warp/MeterTypes.lean

The data model of the Modbus meter drivers (meter.h, meter_iskra.h and the
static variables of meter*.c).  Floats are an arbitrary type with the
operations the code uses: nothing here depends on how they round.
-/
import Mathlib.Data.Rat.Defs
import Mathlib.Logic.Function.Basic
import Bricklib2.Warp.MeterRequest

namespace Bricklib2

/-- The operations of a C `float`.  A literal is given as the number it is
written as; `simpleSqrtf` and `simpleAcosf` are the driver's own functions, whose
body depends on the build. -/
class CFloat (F : Type) extends Add F, Sub F, Mul F, Div F, Neg F where
  nan : F
  ofBits : BitVec 32 → F
  ofInt : ℤ → F
  ofRat : ℚ → F
  fabsf : F → F
  simpleSqrtf : F → F
  simpleAcosf : F → F
  lt : F → F → Bool
  eq : F → F → Bool

/-- The types of a meter. -/
inductive MeterType
  | detection
  | unknown
  | unsupported
  | sdm630
  | sdm72V2
  | sdm72Ctm
  | sdm630MctV2
  | dsz15Dzmod
  | dem4A
  | dmed341Mid7Er
  | dsz16Dze
  | wm3M4C
  | wm3M4
  deriving DecidableEq, Repr

/-- How a meter has its values in its registers. -/
inductive MeterRegisterDataType
  | float
  | int32
  | int16
  | t2
  | t3
  | t5
  | t6
  | t7
  | t16
  | t17
  deriving DecidableEq, Repr

/-- The fields of `MeterRegisterSet`. -/
inductive RegisterName
  | voltageL1N
  | voltageL2N
  | voltageL3N
  | currentL1ImExSum
  | currentL2ImExSum
  | currentL3ImExSum
  | powerActiveL1ImExDiff
  | powerActiveL2ImExDiff
  | powerActiveL3ImExDiff
  | powerApparentL1ImExSum
  | powerApparentL2ImExSum
  | powerApparentL3ImExSum
  | powerReactiveL1IndCapDiff
  | powerReactiveL1IndCapSum
  | powerReactiveL2IndCapDiff
  | powerReactiveL2IndCapSum
  | powerReactiveL3IndCapDiff
  | powerReactiveL3IndCapSum
  | powerFactorL1Directional
  | powerFactorL2Directional
  | powerFactorL3Directional
  | phaseAngleL1
  | phaseAngleL2
  | phaseAngleL3
  | voltageLNAvg
  | currentLAvgImExSum
  | currentLSumImExSum
  | powerActiveLSumImExDiff
  | powerApparentLSumImExSum
  | powerReactiveLSumIndCapDiff
  | powerReactiveLSumIndCapSum
  | powerFactorLSumDirectional
  | phaseAngleLSum
  | frequencyLAvg
  | energyActiveLSumImport
  | energyActiveLSumExport
  | energyReactiveLSumInductive
  | energyReactiveLSumCapacitive
  | energyApparentLSumImExSum
  | electricCharge
  | voltageL1L2
  | voltageL2L3
  | voltageL3L1
  | voltageLLAvg
  | currentNImExSum
  | voltageTHDL1N
  | voltageTHDL2N
  | voltageTHDL3N
  | currentTHDL1
  | currentTHDL2
  | currentTHDL3
  | voltageTHDLNAvg
  | currentTHDLAvg
  | voltageTHDL1L2
  | voltageTHDL2L3
  | voltageTHDL3L1
  | voltageTHDLLAvg
  | energyActiveLSumImExSum
  | energyReactiveLSumIndCapSum
  | energyActiveL1Import
  | energyActiveL2Import
  | energyActiveL3Import
  | energyActiveL1Export
  | energyActiveL2Export
  | energyActiveL3Export
  | energyActiveL1ImExSum
  | energyActiveL2ImExSum
  | energyActiveL3ImExSum
  | energyReactiveL1Inductive
  | energyReactiveL2Inductive
  | energyReactiveL3Inductive
  | energyReactiveL1Capacitive
  | energyReactiveL2Capacitive
  | energyReactiveL3Capacitive
  | energyReactiveL1IndCapSum
  | energyReactiveL2IndCapSum
  | energyReactiveL3IndCapSum
  | energyActiveLSumImExSumResettable
  | energyActiveLSumImportResettable
  | energyActiveLSumExportResettable
  | temperature
  | runTime
  deriving DecidableEq, Repr

/-- What a `register_set_address` can point to. -/
inductive RegisterAddress
  | registerSet (name : RegisterName)
  | energyCounterExponent (i : Fin 2)
  | energyCounter (i : Fin 2)
  | energyCounter1000x (i : Fin 2)
  deriving DecidableEq, Repr

/-- `registerSetAddress` is `none` for `NULL`, the stop marker of a table. -/
structure MeterDefinition where
  registerAddress : ℕ
  registerSetAddress : Option RegisterAddress
  scaleFactor : ℚ
  registerDataType : MeterRegisterDataType
  fastRead : Bool
  deriving DecidableEq, Repr

/-- `{0, NULL, 0.0, 0, false}` -/
def stopMarker : MeterDefinition := ⟨0, none, 0, .float, false⟩

/-- `meter_register_set` -/
abbrev MeterRegisterSet (F : Type) := RegisterName → F

/-- The variables of the meter module. -/
structure Meter (F : Type) where
  type : MeterType
  slaveAddress : UInt8
  state : ℕ
  registerFullPosition : ℕ
  registerFastPosition : ℕ
  registerFastTime : ℕ
  available : Bool
  eachValueReadOnce : Bool
  timeout : ℕ
  firstTick : ℕ
  errorWaitTime : ℕ
  systemTypeRead : BitVec 32
  newSystemType : Bool
  phasesConnected : Fin 3 → Bool
  newFastValueCallback : Bool
  relativeEnergySum : F
  relativeEnergyImport : F
  relativeEnergyExport : F
  currentMeter : Option (List MeterDefinition)
  currentMeterSize : ℕ
  currentMeterDefinitionSize : ℕ

/-- The variables of the driver for Iskra meters. -/
structure MeterIskra (F : Type) where
  energyCounterExponent : Fin 2 → F
  energyCounter : Fin 2 → F
  energyCounter1000x : Fin 2 → F
  measurementStatus : BitVec 16
  signatureStatus : BitVec 16
  fastState : ℕ
  fastActive : Bool
  fastStartTime : ℕ

/-- The static variables of `meter_find_meter_type`, of the four
`meter_*_is_connected` and of the ticks. -/
structure MeterStatics (F : Type) where
  findMeterState : ℕ
  genericFindState : ℕ
  eastronFindState : ℕ
  eltakoFindState : ℕ
  iskraFindState : ℕ
  genericReadFast : Bool
  eastronReadFast : Bool
  eltakoTimeSinceRead : ℕ
  eltakoData : ℕ → BitVec 32
  eltakoDataNew : Bool
  eltakoDataI : ℕ
  eltakoValue : F
  lastState : ℕ

/-- A response that a driver has taken from the RX buffer without an error:
the request it answers and the bytes of the frame that was checked. -/
structure Response where
  request : MeterRequest
  frame : List RxByte
  deriving DecidableEq, Repr

/-- Everything the meter stack works on.  The last four fields are ghosts:
whether the driver has put a request on the bus whose response it has not yet
taken, what this was at every hand-over of the bus, the responses taken, and how
often `meter_handle_register_set_read_done` has been called. -/
structure Stack (F : Type) where
  rs485 : RS485
  meter : Meter F
  registers : MeterRegisterSet F
  iskra : MeterIskra F
  statics : MeterStatics F
  openRequest : Bool
  handOvers : List Bool
  responses : List Response
  readDones : ℕ

/-- What a module outside the meter code does when it is given the bus: anything
to the RS485 driver, and it may set `error_wait_time` and `available`. -/
structure ExternalTick where
  rs485 : RS485 → RS485
  errorWaitTime : ℕ → ℕ
  available : Bool → Bool

/-- What one `meter_tick` finds outside: the time, the stack memory under its
uninitialised buffers, the hardware version (a build without one behaves like
version 2), the measured frequency if valid, and the eichrecht and display
modules. -/
structure TickEnv where
  now : ℕ
  garbage : ℕ → BitVec 32
  isV2 : Bool
  isV4 : Bool
  frequency : Option ℕ
  eichrechtInitDone : Bool
  eichrechtTransaction : Bool
  displayHasWork : Bool
  eichrechtInitTick : ExternalTick
  eichrechtTick : ExternalTick
  displayTick : ExternalTick

end Bricklib2
