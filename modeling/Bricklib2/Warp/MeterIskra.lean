/-
Bricklib2/Warp/MeterIskra.lean

The driver of the Iskra meters (meter_iskra.c).  The slow cycle in `meter.state`
reads one register after the other; every 100 ms the fast cycle in `fast_state`
reads two blocks in between.  The bus is handed over to the eichrecht and display
modules while the slow cycle is at rest.
-/
import Bricklib2.Warp.Meter

namespace Bricklib2

/-- The input registers of the model number. -/
def meterIskraInputRegModelNumber : ℕ := 2

/-- The interval of the fast registers. -/
def meterIskraFastIntervalMs : ℕ := 100

/-- The first register of frequency and voltages. -/
def meterIskraFastRegVfStart : ℕ := 106

/-- The registers of frequency and voltages. -/
def meterIskraFastRegVfCount : ℕ := 8

/-- The first register of the currents. -/
def meterIskraFastRegIStart : ℕ := 127

/-- The registers of the currents. -/
def meterIskraFastRegICount : ℕ := 6

variable {F : Type}

/-- Asks for the model number and compares the answer. -/
def meterIskraIsConnected (env : TickEnv) (s : Stack F) : MeterType × Stack F :=
  match s.statics.iskraFindState with
  | 0 =>
    let s := s.issue env.now
      (.readRegisters modbusFcReadInputRegisters 0x21 meterIskraInputRegModelNumber 4)
    (.detection, { s with statics.iskraFindState := 1 })
  | 1 =>
    match meterGetReadRegistersResponse env.now modbusFcReadInputRegisters
        (fun _ => 0xFFFFFFFF) 4 s with
    | none => (.detection, s)
    | some (modelNumber, s) =>
      let s := { s.clearRequest with statics.iskraFindState := 0 }
      -- WM3M, then 4C or 4
      if modelNumber 0 = 0x574D334D then
        if modelNumber 1 &&& 0xFFFF0000 = 0x34430000 then (.wm3M4C, s)
        else if modelNumber 1 &&& 0xFF000000 = 0x34000000 then (.wm3M4, s)
        else (.unknown, s)
      else
        (.unknown, s)
  | _ => (.unknown, { s with statics.iskraFindState := 0 })

/-! ### Handing the bus over -/

/-- A module outside the meter code is given the bus. -/
def Stack.external (tick : ExternalTick) (s : Stack F) : Stack F :=
  { s with
    rs485 := tick.rs485 s.rs485
    meter.errorWaitTime := tick.errorWaitTime s.meter.errorWaitTime
    meter.available := tick.available s.meter.available }

/-- The eichrecht or the display tick, with the hand-over noted. -/
def Stack.handOver (tick : ExternalTick) (s : Stack F) : Stack F :=
  { s.external tick with handOvers := s.openRequest :: s.handOvers }

/-! ### The fast cycle -/

/-- There is no response, or it is an exception. -/
def meterIskraResponseHadError (r : RS485) : Bool :=
  r.masterRequestTimedOut || r.responseIsException

/-- The request for frequency and voltages. -/
def Meter.iskraVoltageRequest (m : Meter F) : MeterRequest :=
  .readRegisters modbusFcReadInputRegisters m.slaveAddress meterIskraFastRegVfStart
    meterIskraFastRegVfCount

/-- The request for the currents. -/
def Meter.iskraCurrentRequest (m : Meter F) : MeterRequest :=
  .readRegisters modbusFcReadInputRegisters m.slaveAddress meterIskraFastRegIStart
    meterIskraFastRegICount

/-- `meter_wm3m4c_fast[position]` -/
def iskraFastDefinition (position : ℕ) : MeterDefinition :=
  meterWm3m4cFast.getD position stopMarker

section Float

variable [CFloat F]

/-- `if(!meter_iskra_response_had_error())` in state 1 -/
def meterIskraStoreVoltages (env : TickEnv) (data : ℕ → BitVec 32) (s : Stack F) :
    Option (Stack F) :=
  if meterIskraResponseHadError s.rs485 then
    some s
  else do
    let s ← meterHandleNewData (data 0) (iskraFastDefinition 0) s -- FrequencyLAvg
    let s ← meterHandleNewData (data 1) (iskraFastDefinition 1) s -- VoltageL1N
    let s ← meterHandleNewData (data 2) (iskraFastDefinition 2) s -- VoltageL2N
    let s ← meterHandleNewData (data 3) (iskraFastDefinition 3) s -- VoltageL3N
    some { meterHandlePhasesConnected s with
      meter.registerFastTime := systemTimerGetMs env.now }

/-- `if(!meter_iskra_response_had_error())` in state 3 -/
def meterIskraStoreCurrents (data : ℕ → BitVec 32) (s : Stack F) : Option (Stack F) :=
  if meterIskraResponseHadError s.rs485 then
    some s
  else do
    let s ← meterHandleNewData (data 0) (iskraFastDefinition 4) s -- CurrentL1ImExSum
    let s ← meterHandleNewData (data 1) (iskraFastDefinition 5) s -- CurrentL2ImExSum
    meterHandleNewData (data 2) (iskraFastDefinition 6) s -- CurrentL3ImExSum

/-- The fast registers are read, frequency and voltages first. -/
def meterIskraFastTick (env : TickEnv) (s : Stack F) : Option (Stack F) :=
  match s.iskra.fastState with
  | 0 => -- request frequency + 3 voltages
    let s := { s with
      iskra.fastActive := true
      iskra.fastStartTime := systemTimerGetMs env.now }
    let s := s.issue env.now s.meter.iskraVoltageRequest
    some { s with iskra.fastState := 1 }
  | 1 => -- read frequency + 3 voltages
    match meterGetReadRegistersResponse env.now modbusFcReadInputRegisters env.garbage
        meterIskraFastRegVfCount s with
    | none => some s
    | some (data, s) => (meterIskraStoreVoltages env data s).map fun s =>
      { s.clearRequest with iskra.fastState := 2 }
  | 2 => -- request 3 currents
    let s := s.issue env.now s.meter.iskraCurrentRequest
    some { s with iskra.fastState := 3 }
  | 3 => -- read 3 currents
    match meterGetReadRegistersResponse env.now modbusFcReadInputRegisters env.garbage
        meterIskraFastRegICount s with
    | none => some s
    | some (data, s) => (meterIskraStoreCurrents data s).map fun s =>
      { s.clearRequest with
        iskra.fastState := 0
        iskra.fastActive := false }
  | _ => some { s with
      iskra.fastState := 0
      iskra.fastActive := false }

/-! ### The slow cycle -/

/-- Energy is imported in counter 0 and exported in counter 1. -/
local instance neZeroCounters : NeZero 2 := ⟨by decide⟩

/-- The energy counters go into their registers. -/
def meterIskraHandleRegisterSetReadDone (s : Stack F) : Stack F :=
  let s := s.store (.registerSet .energyActiveLSumImport)
    (s.iskra.energyCounter 0 / CFloat.ofRat 1000)
  let s := s.store (.registerSet .energyActiveLSumExport)
    (s.iskra.energyCounter 1 / CFloat.ofRat 1000)
  let s := s.store (.registerSet .energyActiveLSumImExSum)
    (s.registers .energyActiveLSumImport - s.registers .energyActiveLSumExport)
  meterHandleRegisterSetFastReadDone (meterHandleRegisterSetReadDone s)

/-- The request for one 16-bit holding register. -/
def Meter.iskraStatusRequest (m : Meter F) (register : ℕ) : MeterRequest :=
  .readRegisters modbusFcReadHoldingRegisters m.slaveAddress register 1

/-- `switch(meter.state)`; `case 0` and `case 1` read the next register of the
table, 3 to 6 the Eichrecht status registers once per full cycle. -/
def meterIskraSlowTick (env : TickEnv) (s : Stack F) : Option (Stack F) :=
  match s.meter.state with
  | 0 => some { s.issue env.now (.readRegisters modbusFcReadInputRegisters s.meter.slaveAddress
      (s.meter.definition s.meter.registerFullPosition).registerAddress
      (meterGetRegisterSize s.meter s.meter.registerFullPosition)) with meter.state := 1 }
  | 1 =>
    match meterGetReadRegistersResponse env.now modbusFcReadInputRegisters env.garbage
        (meterGetRegisterSize s.meter s.meter.registerFullPosition) s with
    | none => some s
    | some (data, s) => do
      let s ← meterHandleNewData (data 0) (s.meter.definition s.meter.registerFullPosition) s
      let s := { s.clearRequest with
        meter.state := 2
        meter.registerFullPosition := s.meter.registerFullPosition + 1 }
      if (s.meter.definition s.meter.registerFullPosition).registerSetAddress = none then
        some (meterIskraHandleRegisterSetReadDone { s with meter.registerFullPosition := 0 })
      else
        some s
  | 2 =>
    if s.meter.registerFullPosition ≠ 0 ∨ s.meter.eachValueReadOnce = false then
      some { s with meter.state := 0 }
    else
      some { meterHandlePhasesConnected s with meter.state := 3 }
  | 3 => some { s.issue env.now (s.meter.iskraStatusRequest (7000 + 1)) with meter.state := 4 }
  | 4 =>
    match meterGetReadRegistersResponse env.now modbusFcReadHoldingRegisters
        (fun _ => s.iskra.measurementStatus.setWidth 32) 1 s with
    | none => some s
    | some (data, s) => some { s.clearRequest with
        iskra.measurementStatus := (data 0).setWidth 16
        meter.state := 5 }
  | 5 => some { s.issue env.now (s.meter.iskraStatusRequest (7052 + 1)) with meter.state := 6 }
  | 6 =>
    match meterGetReadRegistersResponse env.now modbusFcReadHoldingRegisters
        (fun _ => s.iskra.signatureStatus.setWidth 32) 1 s with
    | none => some s
    | some (data, s) => some { s.clearRequest with
        iskra.signatureStatus := (data 0).setWidth 16
        meter.state := 7 }
  | _ => some { s with meter.state := 0 }

/-- The eichrecht module gets the bus for a transaction. -/
def TickEnv.transactionPending (env : TickEnv) (s : Stack F) : Bool :=
  env.isV4 && s.meter.state == 0 && env.eichrechtTransaction

/-- The display module gets the bus. -/
def TickEnv.displayPending (env : TickEnv) (s : Stack F) : Bool :=
  s.meter.state == 0 && env.displayHasWork

/-- It is the fast cycle's turn. -/
def iskraFastDue (now : ℕ) (s : Stack F) : Bool :=
  s.iskra.fastActive || (s.meter.state == 0 &&
    systemTimerIsTimeElapsedMs now s.iskra.fastStartTime meterIskraFastIntervalMs)

/-- A transaction goes first, then the fast registers, then the full cycle. -/
def meterIskraTick (env : TickEnv) (s : Stack F) : Option (Stack F) :=
  if env.isV4 ∧ env.eichrechtInitDone = false then
    some (s.external env.eichrechtInitTick)
  else if env.transactionPending s then
    some (s.handOver env.eichrechtTick)
  else if env.displayPending s then
    some (s.handOver env.displayTick)
  else if iskraFastDue env.now s then
    meterIskraFastTick env s
  else
    meterIskraSlowTick env s

end Float

/-! ### Which request the driver waits for -/

/-- The request of the search that has no answer yet. -/
def iskraFindOutstanding (s : Stack F) : Option MeterRequest :=
  if s.statics.iskraFindState = 1 then
    some (.readRegisters modbusFcReadInputRegisters 0x21 meterIskraInputRegModelNumber 4)
  else
    none

/-- The request for the register that the slow cycle is at. -/
def Meter.iskraSlowRequest (m : Meter F) : MeterRequest :=
  .readRegisters modbusFcReadInputRegisters m.slaveAddress
    (m.definition m.registerFullPosition).registerAddress
    (meterGetRegisterSize m m.registerFullPosition)

/-- The request for fast registers that has no answer yet. -/
def iskraFastOutstanding (s : Stack F) : Option MeterRequest :=
  match s.iskra.fastState with
  | 1 => some s.meter.iskraVoltageRequest
  | 3 => some s.meter.iskraCurrentRequest
  | _ => none

/-- The request of the full cycle that has no answer yet. -/
def iskraSlowOutstanding (s : Stack F) : Option MeterRequest :=
  match s.meter.state with
  | 1 => some s.meter.iskraSlowRequest
  | 4 => some (s.meter.iskraStatusRequest (7000 + 1))
  | 6 => some (s.meter.iskraStatusRequest (7052 + 1))
  | _ => none

/-- The request of the driver that has no answer yet. -/
def iskraOutstanding (s : Stack F) : Option MeterRequest :=
  if s.iskra.fastActive then iskraFastOutstanding s else iskraSlowOutstanding s

/-! ### What a tick can do -/

/-- The cells of the first block and where they go. -/
def iskraVoltageCells : List (ℕ × MeterDefinition) :=
  [(0, iskraFastDefinition 0), (1, iskraFastDefinition 1), (2, iskraFastDefinition 2),
    (3, iskraFastDefinition 3)]

/-- The cells of the second block and where they go. -/
def iskraCurrentCells : List (ℕ × MeterDefinition) :=
  [(0, iskraFastDefinition 4), (1, iskraFastDefinition 5), (2, iskraFastDefinition 6)]

section Float

variable [CFloat F]

/-- A list of values has been stored, each decoded from its cell of `data`. -/
inductive StoredAll (data : ℕ → BitVec 32) :
    List (ℕ × MeterDefinition) → Stack F → Stack F → Prop
  | nil {s} : StoredAll data [] s s
  | cons {s s' i definition rest} (value : F) (address : RegisterAddress)
      (hvalue : meterDecode (data i) definition = some value)
      (haddress : definition.registerSetAddress = some address)
      (hrest : StoredAll data rest (s.store address value) s') :
      StoredAll data ((i, definition) :: rest) s s'

/-- What a tick for the fast registers does. -/
inductive IskraFastMove (env : TickEnv) : Stack F → Stack F → Prop
  | requestVoltages {s} (hfast : s.iskra.fastState = 0) :
      IskraFastMove env s { s.issue env.now s.meter.iskraVoltageRequest with
        iskra.fastActive := true
        iskra.fastStartTime := systemTimerGetMs env.now
        iskra.fastState := 1 }
  | wait {s} (hfast : s.iskra.fastState = 1 ∨ s.iskra.fastState = 3)
      (hready : meterIsResponseReady modbusFcReadInputRegisters s.rs485 = false) :
      IskraFastMove env s s
  | takeVoltages {s s₁ s₂ data} (phases : Fin 3 → Bool) (time : ℕ)
      (hfast : s.iskra.fastState = 1)
      (hresponse : meterGetReadRegistersResponse env.now modbusFcReadInputRegisters env.garbage
        meterIskraFastRegVfCount s = some (data, s₁))
      (hstored : s.rs485.responseFailed = true ∧ s₂ = s₁ ∨
        s.rs485.responseFailed = false ∧ StoredAll data iskraVoltageCells s₁ s₂) :
      IskraFastMove env s { s₂.clearRequest with
        meter.phasesConnected := phases
        meter.registerFastTime := time
        iskra.fastState := 2 }
  | requestCurrents {s} (hfast : s.iskra.fastState = 2) :
      IskraFastMove env s { s.issue env.now s.meter.iskraCurrentRequest with
        iskra.fastState := 3 }
  | takeCurrents {s s₁ s₂ data} (hfast : s.iskra.fastState = 3)
      (hresponse : meterGetReadRegistersResponse env.now modbusFcReadInputRegisters env.garbage
        meterIskraFastRegICount s = some (data, s₁))
      (hstored : s.rs485.responseFailed = true ∧ s₂ = s₁ ∨
        s.rs485.responseFailed = false ∧ StoredAll data iskraCurrentCells s₁ s₂) :
      IskraFastMove env s { s₂.clearRequest with
        iskra.fastState := 0
        iskra.fastActive := false }
  | reset {s} (hfast : 3 < s.iskra.fastState) :
      IskraFastMove env s { s with
        iskra.fastState := 0
        iskra.fastActive := false }

omit [CFloat F] in
theorem responseFailed_taken {s s' : Stack F} (h : Taken s s') :
    meterIskraResponseHadError s'.rs485 = s.rs485.responseFailed := by
  obtain ⟨c, t, a, log, rfl⟩ := h
  rfl

theorem meterIskraFastTick_cases {env : TickEnv} {s s' : Stack F}
    (h : meterIskraFastTick env s = some s') : IskraFastMove env s s' := by
  unfold meterIskraFastTick at h
  split at h
  · -- the voltages are asked for
    rename_i hfast
    obtain rfl := Option.some.inj h
    exact .requestVoltages hfast
  · -- and taken
    rename_i hfast
    split at h
    · rename_i hnone
      obtain rfl := Option.some.inj h
      exact .wait (Or.inl hfast) (meterGetReadRegistersResponse_none hnone)
    · rename_i data s₁ hresponse
      obtain ⟨-, htaken, -⟩ := meterGetReadRegistersResponse_some hresponse
      obtain ⟨s₂, hstore, rfl⟩ := Option.map_eq_some_iff.mp h
      simp only [meterIskraStoreVoltages, responseFailed_taken htaken] at hstore
      split at hstore
      · rename_i hfailed
        obtain rfl := Option.some.inj hstore
        exact .takeVoltages s₁.meter.phasesConnected s₁.meter.registerFastTime hfast hresponse
          (Or.inl ⟨hfailed, rfl⟩)
      · rename_i hfailed
        -- four values of one block, one after the other
        obtain ⟨t₀, h₀, hstore⟩ := Option.bind_eq_some_iff.mp hstore
        obtain ⟨t₁, h₁, hstore⟩ := Option.bind_eq_some_iff.mp hstore
        obtain ⟨t₂, h₂, hstore⟩ := Option.bind_eq_some_iff.mp hstore
        obtain ⟨t₃, h₃, hstore⟩ := Option.bind_eq_some_iff.mp hstore
        obtain rfl := Option.some.inj hstore
        obtain ⟨v₀, a₀, hv₀, ha₀, rfl⟩ := meterHandleNewData_some h₀
        obtain ⟨v₁, a₁, hv₁, ha₁, rfl⟩ := meterHandleNewData_some h₁
        obtain ⟨v₂, a₂, hv₂, ha₂, rfl⟩ := meterHandleNewData_some h₂
        obtain ⟨v₃, a₃, hv₃, ha₃, rfl⟩ := meterHandleNewData_some h₃
        have hall : StoredAll data iskraVoltageCells s₁ _ :=
          .cons v₀ a₀ hv₀ ha₀ (.cons v₁ a₁ hv₁ ha₁ (.cons v₂ a₂ hv₂ ha₂
            (.cons v₃ a₃ hv₃ ha₃ .nil)))
        have hmove : IskraFastMove env s _ :=
          .takeVoltages (meterHandlePhasesConnected (s₁.store a₀ v₀ |>.store a₁ v₁
              |>.store a₂ v₂ |>.store a₃ v₃)).meter.phasesConnected
            (systemTimerGetMs env.now) hfast hresponse
            (Or.inr ⟨(Bool.not_eq_true _).mp hfailed, hall⟩)
        exact hmove
  · -- the currents are asked for
    rename_i hfast
    obtain rfl := Option.some.inj h
    exact .requestCurrents hfast
  · -- and taken
    rename_i hfast
    split at h
    · rename_i hnone
      obtain rfl := Option.some.inj h
      exact .wait (Or.inr hfast) (meterGetReadRegistersResponse_none hnone)
    · rename_i data s₁ hresponse
      obtain ⟨-, htaken, -⟩ := meterGetReadRegistersResponse_some hresponse
      obtain ⟨s₂, hstore, rfl⟩ := Option.map_eq_some_iff.mp h
      simp only [meterIskraStoreCurrents, responseFailed_taken htaken] at hstore
      split at hstore
      · rename_i hfailed
        obtain rfl := Option.some.inj hstore
        exact .takeCurrents hfast hresponse (Or.inl ⟨hfailed, rfl⟩)
      · rename_i hfailed
        obtain ⟨t₀, h₀, hstore⟩ := Option.bind_eq_some_iff.mp hstore
        obtain ⟨t₁, h₁, hstore⟩ := Option.bind_eq_some_iff.mp hstore
        obtain ⟨v₀, a₀, hv₀, ha₀, rfl⟩ := meterHandleNewData_some h₀
        obtain ⟨v₁, a₁, hv₁, ha₁, rfl⟩ := meterHandleNewData_some h₁
        obtain ⟨v₂, a₂, hv₂, ha₂, rfl⟩ := meterHandleNewData_some hstore
        exact .takeCurrents hfast hresponse
          (Or.inr ⟨(Bool.not_eq_true _).mp hfailed,
            .cons v₀ a₀ hv₀ ha₀ (.cons v₁ a₁ hv₁ ha₁ (.cons v₂ a₂ hv₂ ha₂ .nil))⟩)
  · rename_i h₀ h₁ h₂ h₃
    have hfast : 3 < s.iskra.fastState := by
      have h₀' : s.iskra.fastState ≠ 0 := h₀
      have h₁' : s.iskra.fastState ≠ 1 := h₁
      have h₂' : s.iskra.fastState ≠ 2 := h₂
      have h₃' : s.iskra.fastState ≠ 3 := h₃
      omega
    obtain rfl := Option.some.inj h
    exact .reset hfast

/-- What a tick of the full cycle does. -/
inductive IskraSlowMove (env : TickEnv) : Stack F → Stack F → Prop
  | request {s} (hstate : s.meter.state = 0) :
      IskraSlowMove env s { s.issue env.now s.meter.iskraSlowRequest with meter.state := 1 }
  | wait {s} (q : MeterRequest) (hq : iskraSlowOutstanding s = some q)
      (hready : meterIsResponseReady q.fc s.rs485 = false) : IskraSlowMove env s s
  | take {s s₁ data} (value : F) (address : RegisterAddress) (hstate : s.meter.state = 1)
      (hresponse : meterGetReadRegistersResponse env.now modbusFcReadInputRegisters env.garbage
        (meterGetRegisterSize s.meter s.meter.registerFullPosition) s = some (data, s₁))
      (hvalue : meterDecode (data 0) (s.meter.definition s.meter.registerFullPosition) =
        some value)
      (haddress : (s.meter.definition s.meter.registerFullPosition).registerSetAddress =
        some address) :
      IskraSlowMove env s { (s₁.store address value).clearRequest with
        meter.state := 2
        meter.registerFullPosition := s.meter.registerFullPosition + 1 }
  | takeLast {s s₁ data} (value : F) (address : RegisterAddress) (hstate : s.meter.state = 1)
      (hresponse : meterGetReadRegistersResponse env.now modbusFcReadInputRegisters env.garbage
        (meterGetRegisterSize s.meter s.meter.registerFullPosition) s = some (data, s₁))
      (hvalue : meterDecode (data 0) (s.meter.definition s.meter.registerFullPosition) =
        some value)
      (haddress : (s.meter.definition s.meter.registerFullPosition).registerSetAddress =
        some address) :
      IskraSlowMove env s (meterIskraHandleRegisterSetReadDone
        { (s₁.store address value).clearRequest with
          meter.state := 2
          meter.registerFullPosition := 0 })
  | restart {s} (hstate : s.meter.state = 2 ∨ 6 < s.meter.state) :
      IskraSlowMove env s { s with meter.state := 0 }
  | readDone {s} (phases : Fin 3 → Bool) (hstate : s.meter.state = 2) :
      IskraSlowMove env s { s with meter.phasesConnected := phases, meter.state := 3 }
  | requestStatus {s} (register : ℕ)
      (hstate : s.meter.state = 3 ∧ register = 7000 + 1 ∨
        s.meter.state = 5 ∧ register = 7052 + 1) :
      IskraSlowMove env s { s.issue env.now (s.meter.iskraStatusRequest register) with
        meter.state := s.meter.state + 1 }
  | takeStatus {s s₁} (q : MeterRequest) (measurement signature : BitVec 16)
      (hstate : s.meter.state = 4 ∨ s.meter.state = 6) (hq : iskraSlowOutstanding s = some q)
      (hready : meterIsResponseReady q.fc s.rs485 = true) (htaken : Taken s s₁) :
      IskraSlowMove env s { s₁.clearRequest with
        iskra.measurementStatus := measurement
        iskra.signatureStatus := signature
        meter.state := s.meter.state + 1 }

omit [CFloat F] in
theorem iskraSlowOutstanding_of_state {s : Stack F} :
    (s.meter.state = 1 → iskraSlowOutstanding s = some s.meter.iskraSlowRequest) ∧
      (s.meter.state = 4 →
        iskraSlowOutstanding s = some (s.meter.iskraStatusRequest (7000 + 1))) ∧
      (s.meter.state = 6 →
        iskraSlowOutstanding s = some (s.meter.iskraStatusRequest (7052 + 1))) := by
  refine ⟨fun h => ?_, fun h => ?_, fun h => ?_⟩ <;> simp only [iskraSlowOutstanding, h]

theorem meterIskraSlowTick_cases {env : TickEnv} {s s' : Stack F}
    (h : meterIskraSlowTick env s = some s') : IskraSlowMove env s s' := by
  obtain ⟨hone, hfour, hsix⟩ := iskraSlowOutstanding_of_state (s := s)
  unfold meterIskraSlowTick at h
  split at h
  · -- state 0: the request for the register at the position
    rename_i hstate
    obtain rfl := Option.some.inj h
    exact .request hstate
  · -- state 1: its response
    rename_i hstate
    split at h
    · rename_i hnone
      obtain rfl := Option.some.inj h
      exact .wait _ (hone hstate) (meterGetReadRegistersResponse_none hnone)
    · rename_i data s₁ hresponse
      obtain ⟨-, ⟨c, t, a, log, hs₁⟩, -⟩ := meterGetReadRegistersResponse_some hresponse
      obtain ⟨s₂, hstore, h⟩ := Option.bind_eq_some_iff.mp h
      obtain ⟨value, address, hvalue, haddress, rfl⟩ := meterHandleNewData_some hstore
      have hposition : (s₁.store address value).meter.registerFullPosition =
          s.meter.registerFullPosition := by
        rw [store_meter, hs₁]
      have hdefinition : s₁.meter.definition s₁.meter.registerFullPosition =
          s.meter.definition s.meter.registerFullPosition := by
        rw [hs₁]
        rfl
      rw [hdefinition] at hvalue haddress
      simp only at h
      split at h
      · obtain rfl := Option.some.inj h
        exact .takeLast value address hstate hresponse hvalue haddress
      · obtain rfl := Option.some.inj h
        show IskraSlowMove env s { (s₁.store address value).clearRequest with
          meter.state := 2
          meter.registerFullPosition := (s₁.store address value).meter.registerFullPosition + 1 }
        rw [hposition]
        exact .take value address hstate hresponse hvalue haddress
  · -- state 2: the next round, or on to the status words
    rename_i hstate
    split at h
    · obtain rfl := Option.some.inj h
      exact .restart (Or.inl hstate)
    · obtain rfl := Option.some.inj h
      exact .readDone _ hstate
  · -- state 3
    rename_i hstate
    obtain rfl := Option.some.inj h
    have hmove : IskraSlowMove env s _ := .requestStatus _ (Or.inl ⟨hstate, rfl⟩)
    rw [hstate] at hmove
    exact hmove
  · -- state 4: the measurement status
    rename_i hstate
    split at h
    · rename_i hnone
      obtain rfl := Option.some.inj h
      exact .wait _ (hfour hstate) (meterGetReadRegistersResponse_none hnone)
    · rename_i data s₁ hresponse
      obtain ⟨hready, htaken, -⟩ := meterGetReadRegistersResponse_some hresponse
      obtain rfl := Option.some.inj h
      have hmove : IskraSlowMove env s _ := .takeStatus _ ((data 0).setWidth 16)
        s₁.iskra.signatureStatus (Or.inl hstate) (hfour hstate) hready htaken
      rw [hstate] at hmove
      exact hmove
  · -- state 5
    rename_i hstate
    obtain rfl := Option.some.inj h
    have hmove : IskraSlowMove env s _ := .requestStatus _ (Or.inr ⟨hstate, rfl⟩)
    rw [hstate] at hmove
    exact hmove
  · -- state 6: the signature status
    rename_i hstate
    split at h
    · rename_i hnone
      obtain rfl := Option.some.inj h
      exact .wait _ (hsix hstate) (meterGetReadRegistersResponse_none hnone)
    · rename_i data s₁ hresponse
      obtain ⟨hready, htaken, -⟩ := meterGetReadRegistersResponse_some hresponse
      obtain rfl := Option.some.inj h
      have hmove : IskraSlowMove env s _ := .takeStatus _ s₁.iskra.measurementStatus
        ((data 0).setWidth 16) (Or.inr hstate) (hsix hstate) hready htaken
      rw [hstate] at hmove
      exact hmove
  · rename_i h₀ h₁ h₂ h₃ h₄ h₅ h₆
    have hstate : 6 < s.meter.state := by
      have h₀' : s.meter.state ≠ 0 := h₀
      have h₁' : s.meter.state ≠ 1 := h₁
      have h₂' : s.meter.state ≠ 2 := h₂
      have h₃' : s.meter.state ≠ 3 := h₃
      have h₄' : s.meter.state ≠ 4 := h₄
      have h₅' : s.meter.state ≠ 5 := h₅
      have h₆' : s.meter.state ≠ 6 := h₆
      omega
    obtain rfl := Option.some.inj h
    exact .restart (Or.inr hstate)

/-- A tick of the driver: another module has the bus, or one of the cycles. -/
inductive IskraMove (env : TickEnv) : Stack F → Stack F → Prop
  | init {s} (hinit : env.isV4 = true ∧ env.eichrechtInitDone = false) :
      IskraMove env s (s.external env.eichrechtInitTick)
  | transaction {s} (hpending : env.transactionPending s = true) :
      IskraMove env s (s.handOver env.eichrechtTick)
  | display {s} (hpending : env.displayPending s = true) :
      IskraMove env s (s.handOver env.displayTick)
  | fast {s s'} (hdue : iskraFastDue env.now s = true) (hmove : IskraFastMove env s s') :
      IskraMove env s s'
  | slow {s s'} (hdue : iskraFastDue env.now s = false) (hmove : IskraSlowMove env s s') :
      IskraMove env s s'

theorem meterIskraTick_cases {env : TickEnv} {s s' : Stack F}
    (h : meterIskraTick env s = some s') : IskraMove env s s' := by
  unfold meterIskraTick at h
  split at h
  · rename_i hinit
    obtain rfl := Option.some.inj h
    exact .init hinit
  · split at h
    · rename_i hpending
      obtain rfl := Option.some.inj h
      exact .transaction hpending
    · split at h
      · rename_i hpending
        obtain rfl := Option.some.inj h
        exact .display hpending
      · split at h
        · rename_i hdue
          exact .fast hdue (meterIskraFastTick_cases h)
        · rename_i hdue
          exact .slow ((Bool.not_eq_true _).mp hdue) (meterIskraSlowTick_cases h)

end Float

end Bricklib2
