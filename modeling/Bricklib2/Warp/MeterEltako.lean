/-
Bricklib2/Warp/MeterEltako.lean

The driver of the Eltako meters (meter_eltako.c).  It reads all registers in one
request into a static buffer, stores them one per tick, and then calculates one
further value per tick until 100 ms have passed since the response.
-/
import Bricklib2.Warp.Meter

namespace Bricklib2

/-- The holding registers of the manufacturing code. -/
def meterEltakoHoldingRegManufacturingCode : ℕ := 64515

/-- The holding registers of the meter code. -/
def meterEltakoHoldingRegMeterCode : ℕ := 64525

/-- The two holding registers of the direction. -/
def meterEltakoHoldingRegReverseDirection : ℕ := 63767

/-- The registers that are read at once. -/
def meterEltakoRegisterCount : ℕ := 76

variable {F : Type} [CFloat F]

omit [CFloat F] in
/-- One of the two words of the direction, which are written one by one. -/
def eltakoDirectionRequest (register word : ℕ) : MeterRequest :=
  .writeRegister modbusFcWriteSingleRegister 0x01 register word

omit [CFloat F] in
/-- Asks for the manufacturing code and the meter code, and writes the direction of the DSZ16DZE.
-/
def meterEltakoIsConnected (env : TickEnv) (s : Stack F) : MeterType × Stack F :=
  match s.statics.eltakoFindState with
  | 0 =>
    let s := s.issue env.now
      (.readRegisters modbusFcReadHoldingRegisters 0x01 meterEltakoHoldingRegManufacturingCode 2)
    (.detection, { s with statics.eltakoFindState := 1 })
  | 1 =>
    match meterGetReadRegistersResponse env.now modbusFcReadHoldingRegisters
        (fun _ => 0xFFFFFFFF) 2 s with
    | none => (.detection, s)
    | some (manufacturingCode, s) =>
      let s := s.clearRequest
      if manufacturingCode 0 = 0x0000000D then
        (.detection, { s with statics.eltakoFindState := 2 })
      else
        (.unknown, { s with statics.eltakoFindState := 0 })
  | 2 =>
    let s := s.issue env.now
      (.readRegisters modbusFcReadHoldingRegisters 0x01 meterEltakoHoldingRegMeterCode 2)
    (.detection, { s with statics.eltakoFindState := 3 })
  | 3 =>
    match meterGetReadRegistersResponse env.now modbusFcReadHoldingRegisters
        (fun _ => 0xFFFFFFFF) 2 s with
    | none => (.detection, s)
    | some (meterCode, s) =>
      let s := s.clearRequest
      -- the DSZ15DZMOD is the default, and needs no direction
      if meterCode 0 = 0x00000002 ∨ meterCode 0 = 0x00000003 then
        (.detection, { s with statics.eltakoFindState := 4 })
      else
        (.dsz15Dzmod, s)
  | 4 =>
    let s := s.clearRequest
    let s := s.issue env.now (eltakoDirectionRequest meterEltakoHoldingRegReverseDirection 0)
    (.detection, { s with statics.eltakoFindState := 5 })
  | 5 =>
    match meterGetWriteRegisterResponse env.now modbusFcWriteSingleRegister s with
    | none => (.detection, s)
    | some s => (.detection, { s.clearRequest with statics.eltakoFindState := 6 })
  | 6 =>
    let s := s.clearRequest
    let s := s.issue env.now
      (eltakoDirectionRequest (meterEltakoHoldingRegReverseDirection + 1) 1)
    (.detection, { s with statics.eltakoFindState := 7 })
  | 7 =>
    match meterGetWriteRegisterResponse env.now modbusFcWriteSingleRegister s with
    | none => (.detection, s)
    | some s => (.dsz16Dze, { s.clearRequest with statics.eltakoFindState := 0 })
  | _ => (.unknown, { s with statics.eltakoFindState := 0 })

/-! ### Calculated values -/

/-- A value for one of the registers of the set. -/
def Stack.set (name : RegisterName) (value : F) (s : Stack F) : Stack F :=
  s.store (.registerSet name) value

/-- `power_factor == 0.0f ? 0.0f : value` -/
def unlessZero (x value : F) : F :=
  if CFloat.eq x (CFloat.ofRat 0) then CFloat.ofRat 0 else value

/-- `S = P / PF` -/
def apparentPower (factor power : F) : F := unlessZero factor (power / factor)

/-- `Q = sqrt(S^2 - P^2)` -/
def reactivePower (factor apparent power : F) : F :=
  unlessZero factor (CFloat.simpleSqrtf (apparent * apparent - power * power))

/-- `phi = arccos(P / S)` -/
def phaseAngle (apparent power : F) : F :=
  unlessZero apparent (CFloat.simpleAcosf (power / apparent))

/-- From radians to degrees, with the sign of the reactive power. -/
def phaseAngleDegrees (reactive angle : F) : F :=
  if CFloat.lt reactive (CFloat.ofInt 0) then
    -angle * CFloat.ofRat (57.29577951308232 : ℚ)
  else
    angle * CFloat.ofRat (57.29577951308232 : ℚ)

/-- `meter_eltako_handle_register_set_read_done` for the DSZ15DZMOD and a state
other than 0: `none` behind the last one. -/
def calculateDsz15dzmod (env : TickEnv) (state : ℕ) (s : Stack F) : Option (Stack F) :=
  let r := s.registers
  match state with
  | 1 => some (s.set .powerApparentL1ImExSum
      (apparentPower (r .powerFactorL1Directional) (r .powerActiveL1ImExDiff)))
  | 2 => some (s.set .powerApparentL2ImExSum
      (apparentPower (r .powerFactorL2Directional) (r .powerActiveL2ImExDiff)))
  | 3 => some (s.set .powerApparentL3ImExSum
      (apparentPower (r .powerFactorL3Directional) (r .powerActiveL3ImExDiff)))
  | 4 => some (s.set .powerReactiveL1IndCapSum
      (reactivePower (r .powerFactorL1Directional) (r .powerApparentL1ImExSum)
        (r .powerActiveL1ImExDiff)))
  | 5 => some (s.set .powerReactiveL2IndCapSum
      (reactivePower (r .powerFactorL2Directional) (r .powerApparentL2ImExSum)
        (r .powerActiveL2ImExDiff)))
  | 6 => some (s.set .powerReactiveL3IndCapSum
      (reactivePower (r .powerFactorL3Directional) (r .powerApparentL3ImExSum)
        (r .powerActiveL3ImExDiff)))
  | 7 => some (s.set .phaseAngleL1
      (phaseAngle (r .powerApparentL1ImExSum) (r .powerActiveL1ImExDiff)))
  | 8 => some (s.set .phaseAngleL2
      (phaseAngle (r .powerApparentL2ImExSum) (r .powerActiveL2ImExDiff)))
  | 9 => some (s.set .phaseAngleL3
      (phaseAngle (r .powerApparentL3ImExSum) (r .powerActiveL3ImExDiff)))
  | 10 => some { s with statics.eltakoValue :=
      (r .currentL1ImExSum * r .currentL1ImExSum + r .currentL2ImExSum * r .currentL2ImExSum
        + r .currentL3ImExSum * r .currentL3ImExSum - r .currentL1ImExSum * r .currentL2ImExSum
        - r .currentL1ImExSum * r .currentL3ImExSum
        - r .currentL2ImExSum * r .currentL3ImExSum) }
  | 11 => some (s.set .currentNImExSum (CFloat.simpleSqrtf (CFloat.fabsf s.statics.eltakoValue)))
  | 12 => some (s.set .voltageLNAvg
      ((r .voltageL1N + r .voltageL2N + r .voltageL3N) / CFloat.ofRat 3))
  | 13 => some (s.set .currentLAvgImExSum
      ((r .currentL1ImExSum + r .currentL2ImExSum + r .currentL3ImExSum) / CFloat.ofRat 3))
  | 14 => some (s.set .currentLSumImExSum
      (r .currentL1ImExSum + r .currentL2ImExSum + r .currentL3ImExSum))
  | 15 => some (s.set .powerApparentLSumImExSum
      (r .powerApparentL1ImExSum + r .powerApparentL2ImExSum + r .powerApparentL3ImExSum))
  | 16 => some (s.set .powerReactiveLSumIndCapSum
      (r .powerReactiveL1IndCapDiff + r .powerReactiveL2IndCapDiff
        + r .powerReactiveL3IndCapDiff))
  | 17 => some (s.set .phaseAngleLSum
      (r .phaseAngleL1 + r .phaseAngleL2 + r .phaseAngleL3))
  | 18 => some (s.set .energyActiveLSumImExSum
      (r .energyActiveLSumImport + r .energyActiveLSumExport))
  | 19 => some (s.set .frequencyLAvg
      (match env.frequency with
      | some frequency => CFloat.ofInt frequency * CFloat.ofRat (1 / 1000)
      | none => CFloat.nan))
  | _ => none

/-- The same for the DSZ16DZE, which gives the cosine of its phase angles. -/
def calculateDsz16dze (state : ℕ) (s : Stack F) : Option (Stack F) :=
  let r := s.registers
  match state with
  | 1 => some (s.set .phaseAngleL1 (CFloat.simpleAcosf (r .phaseAngleL1)))
  | 2 => some (s.set .phaseAngleL1
      (phaseAngleDegrees (r .powerReactiveL1IndCapDiff) (r .phaseAngleL1)))
  | 3 => some (s.set .phaseAngleL2 (CFloat.simpleAcosf (r .phaseAngleL2)))
  | 4 => some (s.set .phaseAngleL2
      (phaseAngleDegrees (r .powerReactiveL2IndCapDiff) (r .phaseAngleL2)))
  | 5 => some (s.set .phaseAngleL3 (CFloat.simpleAcosf (r .phaseAngleL3)))
  | 6 => some (s.set .phaseAngleL3
      (phaseAngleDegrees (r .powerReactiveL3IndCapDiff) (r .phaseAngleL3)))
  | 7 => some (s.set .phaseAngleLSum (CFloat.simpleAcosf (r .phaseAngleLSum)))
  | 8 => some (s.set .phaseAngleLSum
      (phaseAngleDegrees (r .powerReactiveLSumIndCapDiff) (r .phaseAngleLSum)))
  | _ => none

/-- `none` for `false`, which leaves everything as it is. -/
def meterEltakoHandleRegisterSetReadDone (env : TickEnv) (state : ℕ) (s : Stack F) :
    Option (Stack F) :=
  if state = 0 then
    some (meterHandleRegisterSetReadDone s)
  else if s.meter.type = .dsz15Dzmod then
    calculateDsz15dzmod env state s
  else if s.meter.type = .dsz16Dze then
    calculateDsz16dze state s
  else
    some s

/-! ### The driver -/

/-- The request for all registers. -/
def Meter.eltakoRequest (m : Meter F) : MeterRequest :=
  .readRegisters modbusFcReadInputRegisters m.slaveAddress (m.definition 0).registerAddress
    meterEltakoRegisterCount

/-- All registers are read at once, then values are calculated from them. -/
def meterEltakoTick (env : TickEnv) (s : Stack F) : Option (Stack F) :=
  match s.meter.state with
  | 0 => some { s.issue env.now s.meter.eltakoRequest with meter.state := 1 }
  | 1 => -- read all registers
    match meterGetReadRegistersResponse env.now modbusFcReadInputRegisters s.statics.eltakoData
        meterEltakoRegisterCount s with
    | none => some s
    | some (data, s) => some { s with
        statics.eltakoData := data
        statics.eltakoTimeSinceRead := systemTimerGetMs env.now
        statics.eltakoDataNew := true
        statics.eltakoDataI := 0
        meter.state := 2 }
  | 2 => -- handle new data
    if s.statics.eltakoDataNew then
      let definition := s.meter.definition s.statics.eltakoDataI
      let reg := definition.registerAddress
      if reg ≠ 0 then do
        let s ← meterHandleNewData (s.statics.eltakoData ((reg - 1) / 2)) definition s
        some { s with statics.eltakoDataI := s.statics.eltakoDataI + 1 }
      else
        let s := meterHandlePhasesConnected s.clearRequest
        -- reuse new and i for the next state and start with i = 1
        some { s with
          meter.state := 3
          statics.eltakoDataNew := true
          statics.eltakoDataI := 1 }
    else
      some { s with meter.state := 3 }
  | 3 => -- calculate values from data
    if systemTimerIsTimeElapsedMs env.now s.statics.eltakoTimeSinceRead 100 then
      some { s with
        statics.eltakoDataNew := false
        statics.eltakoDataI := 0
        meter.state := 0 }
    else if s.statics.eltakoDataNew then
      match meterEltakoHandleRegisterSetReadDone env s.statics.eltakoDataI s with
      | some s => some { s with statics.eltakoDataI := s.statics.eltakoDataI + 1 }
      | none =>
        let s := meterHandleRegisterSetFastReadDone (meterHandleRegisterSetReadDone s)
        some { s with
          statics.eltakoDataNew := false
          statics.eltakoDataI := 0 }
    else
      some s
  | _ => some { s with meter.state := 0 }

/-! ### Which request the driver waits for -/

omit [CFloat F] in
/-- The request of the search that has no answer yet. -/
def eltakoFindOutstanding (s : Stack F) : Option MeterRequest :=
  match s.statics.eltakoFindState with
  | 1 => some
      (.readRegisters modbusFcReadHoldingRegisters 0x01 meterEltakoHoldingRegManufacturingCode 2)
  | 3 => some (.readRegisters modbusFcReadHoldingRegisters 0x01 meterEltakoHoldingRegMeterCode 2)
  | 5 => some (eltakoDirectionRequest meterEltakoHoldingRegReverseDirection 0)
  | 7 => some (eltakoDirectionRequest (meterEltakoHoldingRegReverseDirection + 1) 1)
  | _ => none

omit [CFloat F] in
/-- In state 2 the response has been taken, but the request is not yet cleared. -/
def eltakoOutstanding (s : Stack F) : Option MeterRequest :=
  if s.meter.state = 1 ∨ s.meter.state = 2 ∧ s.statics.eltakoDataNew = true then
    some s.meter.eltakoRequest
  else
    none

/-! ### What a tick can do -/

/-- The calculation of values changes registers, and nothing the driver's
control depends on. -/
def Calculated (s s' : Stack F) : Prop :=
  ∃ registers value once calls, s' = { s with
    registers := registers
    statics.eltakoValue := value
    meter.eachValueReadOnce := once
    readDones := calls }

omit [CFloat F] in
theorem calculated_set (name : RegisterName) (value : F) (s : Stack F) :
    Calculated s (s.set name value) :=
  ⟨Function.update s.registers name value, s.statics.eltakoValue, s.meter.eachValueReadOnce, s.readDones, rfl⟩

theorem calculated_dsz15dzmod {env : TickEnv} {state : ℕ} {s s' : Stack F}
    (h : calculateDsz15dzmod env state s = some s') : Calculated s s' := by
  unfold calculateDsz15dzmod at h
  split at h <;> first
    | cases h; exact calculated_set _ _ s
    | cases h; exact ⟨s.registers, _, s.meter.eachValueReadOnce, s.readDones, rfl⟩
    | cases h

theorem calculated_dsz16dze {state : ℕ} {s s' : Stack F}
    (h : calculateDsz16dze state s = some s') : Calculated s s' := by
  unfold calculateDsz16dze at h
  split at h <;> first
    | cases h; exact calculated_set _ _ s
    | cases h

theorem calculated_readDone (s : Stack F) : Calculated s (meterHandleRegisterSetReadDone s) :=
  ⟨_, s.statics.eltakoValue, true, s.readDones + 1, rfl⟩

theorem calculated_eltako {env : TickEnv} {state : ℕ} {s s' : Stack F}
    (h : meterEltakoHandleRegisterSetReadDone env state s = some s') : Calculated s s' := by
  unfold meterEltakoHandleRegisterSetReadDone at h
  split at h
  · obtain rfl := Option.some.inj h
    exact calculated_readDone s
  · split at h
    · exact calculated_dsz15dzmod h
    · split at h
      · exact calculated_dsz16dze h
      · obtain rfl := Option.some.inj h
        exact ⟨s.registers, s.statics.eltakoValue, s.meter.eachValueReadOnce, s.readDones, rfl⟩

/-- What a tick of the driver does. -/
inductive EltakoMove (env : TickEnv) : Stack F → Stack F → Prop
  | request {s} (hstate : s.meter.state = 0) :
      EltakoMove env s { s.issue env.now s.meter.eltakoRequest with meter.state := 1 }
  | wait {s} (hstate : s.meter.state = 1)
      (hready : meterIsResponseReady modbusFcReadInputRegisters s.rs485 = false) :
      EltakoMove env s s
  | take {s s₁ data} (hstate : s.meter.state = 1)
      (hresponse : meterGetReadRegistersResponse env.now modbusFcReadInputRegisters
        s.statics.eltakoData meterEltakoRegisterCount s = some (data, s₁)) :
      EltakoMove env s { s₁ with
        statics.eltakoData := data
        statics.eltakoTimeSinceRead := systemTimerGetMs env.now
        statics.eltakoDataNew := true
        statics.eltakoDataI := 0
        meter.state := 2 }
  | store {s} (value : F) (address : RegisterAddress) (hstate : s.meter.state = 2)
      (hnew : s.statics.eltakoDataNew = true)
      (hreg : (s.meter.definition s.statics.eltakoDataI).registerAddress ≠ 0)
      (hvalue : meterDecode
        (s.statics.eltakoData
          (((s.meter.definition s.statics.eltakoDataI).registerAddress - 1) / 2))
        (s.meter.definition s.statics.eltakoDataI) = some value)
      (haddress :
        (s.meter.definition s.statics.eltakoDataI).registerSetAddress = some address) :
      EltakoMove env s
        { s.store address value with statics.eltakoDataI := s.statics.eltakoDataI + 1 }
  | stored {s} (phases : Fin 3 → Bool) (hstate : s.meter.state = 2)
      (hnew : s.statics.eltakoDataNew = true) :
      EltakoMove env s { s.clearRequest with
        meter.phasesConnected := phases
        meter.state := 3
        statics.eltakoDataNew := true
        statics.eltakoDataI := 1 }
  | skip {s} (hstate : s.meter.state = 2) (hnew : s.statics.eltakoDataNew = false) :
      EltakoMove env s { s with meter.state := 3 }
  | restart {s} (hstate : s.meter.state = 3) :
      EltakoMove env s { s with
        statics.eltakoDataNew := false
        statics.eltakoDataI := 0
        meter.state := 0 }
  | calculate {s s₁} (hstate : s.meter.state = 3)
      (htime : systemTimerIsTimeElapsedMs env.now s.statics.eltakoTimeSinceRead 100 = false)
      (hnew : s.statics.eltakoDataNew = true)
      (hcalculate : meterEltakoHandleRegisterSetReadDone env s.statics.eltakoDataI s = some s₁) :
      EltakoMove env s { s₁ with statics.eltakoDataI := s.statics.eltakoDataI + 1 }
  | calculated {s} (hstate : s.meter.state = 3)
      (htime : systemTimerIsTimeElapsedMs env.now s.statics.eltakoTimeSinceRead 100 = false) :
      EltakoMove env s { meterHandleRegisterSetFastReadDone (meterHandleRegisterSetReadDone s) with
        statics.eltakoDataNew := false
        statics.eltakoDataI := 0 }
  | rest {s} (hstate : s.meter.state = 3)
      (htime : systemTimerIsTimeElapsedMs env.now s.statics.eltakoTimeSinceRead 100 = false) :
      EltakoMove env s s
  | default {s} (hstate : 3 < s.meter.state) : EltakoMove env s { s with meter.state := 0 }

theorem meterEltakoTick_cases {env : TickEnv} {s s' : Stack F}
    (h : meterEltakoTick env s = some s') : EltakoMove env s s' := by
  unfold meterEltakoTick at h
  split at h
  · -- state 0: the request for all registers
    rename_i hstate
    obtain rfl := Option.some.inj h
    exact .request hstate
  · -- state 1: the response
    rename_i hstate
    split at h
    · rename_i hnone
      obtain rfl := Option.some.inj h
      exact .wait hstate (meterGetReadRegistersResponse_none hnone)
    · rename_i data s₁ hresponse
      obtain rfl := Option.some.inj h
      exact .take hstate hresponse
  · -- state 2: one value a tick, up to the end of the table
    rename_i hstate
    split at h
    · rename_i hnew
      simp only at h
      split at h
      · rename_i hreg
        obtain ⟨s₁, hstore, h⟩ := Option.bind_eq_some_iff.mp h
        obtain ⟨value, address, hvalue, haddress, rfl⟩ := meterHandleNewData_some hstore
        obtain rfl := Option.some.inj h
        have hi : (s.store address value).statics.eltakoDataI = s.statics.eltakoDataI := by
          rw [store_statics]
        rw [hi]
        exact .store value address hstate hnew hreg hvalue haddress
      · obtain rfl := Option.some.inj h
        exact .stored (meterHandlePhasesConnected s.clearRequest).meter.phasesConnected hstate hnew
    · rename_i hnew
      obtain rfl := Option.some.inj h
      exact .skip hstate ((Bool.not_eq_true _).mp hnew)
  · -- state 3: the values that are calculated, and a rest
    rename_i hstate
    split at h
    · obtain rfl := Option.some.inj h
      exact .restart hstate
    · rename_i htime
      have htime' := (Bool.not_eq_true _).mp htime
      split at h
      · rename_i hnew
        split at h
        · rename_i s₁ hcalculate
          obtain rfl := Option.some.inj h
          obtain ⟨registers, value, once, calls, rfl⟩ := calculated_eltako hcalculate
          exact .calculate hstate htime' hnew hcalculate
        · obtain rfl := Option.some.inj h
          exact .calculated hstate htime'
      · obtain rfl := Option.some.inj h
        exact .rest hstate htime'
  · rename_i h₀ h₁ h₂ h₃
    have hstate : 3 < s.meter.state := by
      have h₀' : s.meter.state ≠ 0 := h₀
      have h₁' : s.meter.state ≠ 1 := h₁
      have h₂' : s.meter.state ≠ 2 := h₂
      have h₃' : s.meter.state ≠ 3 := h₃
      omega
    obtain rfl := Option.some.inj h
    exact .default hstate

end Bricklib2
