/-
Bricklib2/Warp/MeterEastron.lean

The driver of the Eastron SDM meters (meter_eastron.c).  After every full read
it compares the system type that is configured in the meter with the phases
that are connected, and writes a new one if they do not fit.
-/
import Bricklib2.Warp.MeterGeneric

namespace Bricklib2

/-- The holding register of the system type. -/
def meterSdmHoldingRegSystemType : ℕ := 11

/-- The holding register that tells whether the password was entered. -/
def meterSdmHoldingRegSystemKppa : ℕ := 15

/-- The holding register that takes the password. -/
def meterSdmHoldingRegPassword : ℕ := 25

/-- The holding register of the meter code. -/
def meterSdmHoldingRegMeterCode : ℕ := 64515

/-- 1.0f, 3.0f and 1000.0f, as the bits of the union. -/
def meterSdmSystemType1P2W : BitVec 32 := 0x3F800000

/-- Three phases and neutral, as the meter has it in a float. -/
def meterSdmSystemType3P4W : BitVec 32 := 0x40400000

/-- The password 1000 as a float. -/
def meterSdmPassword : BitVec 32 := 0x447A0000

variable {F : Type}

section Float

variable [CFloat F]

/-- The system type is to be written if it does not fit to the phases that are connected. -/
def meterEastronHandleNewSystemType (s : Stack F) : Stack F :=
  let s := meterHandlePhasesConnected s
  let phases := s.meter.phasesConnected
  let systemType : F := CFloat.ofBits s.meter.systemTypeRead
  if CFloat.eq systemType (CFloat.ofRat 3) then
    -- 3-phase is configured, but 1-phase is connected
    if phases 0 ∧ ¬ phases 1 ∧ ¬ phases 2 then { s with meter.newSystemType := true } else s
  else if CFloat.eq systemType (CFloat.ofRat 1) then
    -- 1-phase is configured, but 3-phase is connected
    if phases 0 ∧ phases 1 ∧ phases 2 then { s with meter.newSystemType := true } else s
  else
    { s with meter.newSystemType := true }

/-- Asks for the meter code and compares the answer with those of the meters of this kind. -/
def meterEastronIsConnected (env : TickEnv) (s : Stack F) : MeterType × Stack F :=
  match s.statics.eastronFindState with
  | 0 =>
    let s := s.issue env.now
      (.readRegisters modbusFcReadHoldingRegisters 1 meterSdmHoldingRegMeterCode 1)
    (.detection, { s with statics.eastronFindState := 1 })
  | 1 =>
    match meterGetReadRegistersResponse env.now modbusFcReadHoldingRegisters
        (fun _ => 0xFFFF) 1 s with
    | none => (.detection, s)
    | some (meterCode, s) =>
      let s := { s.clearRequest with statics.eastronFindState := 0 }
      let code := (meterCode 0).setWidth 16
      if code = (0x0084 : BitVec 16) then (.unsupported, s)
      else if code = (0x0089 : BitVec 16) then (.sdm72V2, s)
      -- some early versions of the SDM630 return 0x0000 instead of 0x0070
      else if code = (0x0000 : BitVec 16) then if env.isV2 then (.sdm630, s) else (.unknown, s)
      else if code = (0x0070 : BitVec 16) then (.sdm630, s)
      else if code = (0x0079 : BitVec 16) then (.sdm630MctV2, s)
      else (.unknown, s)
  | _ => (.unknown, { s with statics.eastronFindState := 0 })

/-- Where the password for a phase change is written to. -/
def Meter.passwordRequest (m : Meter F) : MeterRequest :=
  .writeRegister modbusFcWriteMultipleRegisters m.slaveAddress
    (if m.type = .sdm72V2 then meterSdmHoldingRegSystemKppa else meterSdmHoldingRegPassword)
    meterSdmPassword.toNat

/-- The request that writes the system type. -/
def Meter.systemTypeRequest (m : Meter F) (systemType : BitVec 32) : MeterRequest :=
  .writeRegister modbusFcWriteMultipleRegisters m.slaveAddress meterSdmHoldingRegSystemType
    systemType.toNat

/-- The scan of the registers, with the system type in between. -/
def meterEastronTick (env : TickEnv) (s : Stack F) : Option (Stack F) :=
  match s.meter.state with
  | 0 => some (meterScanRequest .eastron env.now s)
  | 1 => meterScanRead .eastron env s
  | 2 => -- request system type from holding register
    if s.meter.registerFullPosition ≠ 0 ∨ s.meter.eachValueReadOnce = false then
      some { s with meter.state := 0 }
    else if s.meter.type = .dsz15Dzmod ∨ s.meter.type = .dem4A ∨ s.meter.type = .dmed341Mid7Er ∨
        s.meter.type = .dsz16Dze ∨ s.meter.type = .wm3M4C then
      some { meterHandlePhasesConnected s with meter.state := 0 }
    else
      let s := s.issue env.now (.readRegisters modbusFcReadHoldingRegisters s.meter.slaveAddress
        meterSdmHoldingRegSystemType 2)
      some { s with meter.state := 3 }
  | 3 => -- read system type from holding register
    match meterGetReadRegistersResponse env.now modbusFcReadHoldingRegisters
        (fun _ => s.meter.systemTypeRead) 2 s with
    | none => some s
    | some (systemTypeRead, s) =>
      let s := meterEastronHandleNewSystemType
        { s with meter.systemTypeRead := systemTypeRead 0 }
      some { s.clearRequest with meter.state := 4 }
  | 4 => -- write password for phase change
    if s.meter.newSystemType = false then
      some { s with meter.state := 0 }
    else
      let s := Stack.clearRequest { s with meter.newSystemType := false }
      some { s.issue env.now s.meter.passwordRequest with meter.state := 5 }
  | 5 => -- check write password response
    match meterGetWriteRegisterResponse env.now modbusFcWriteMultipleRegisters s with
    | none => some s
    | some s => some { s.clearRequest with meter.state := 6 }
  | 6 => -- write new system type
    let phases := s.meter.phasesConnected
    if phases 0 ∧ ¬ phases 1 ∧ ¬ phases 2 then
      let s := s.clearRequest
      some { s.issue env.now (s.meter.systemTypeRequest meterSdmSystemType1P2W) with
        meter.state := 7 }
    else if phases 0 ∧ phases 1 ∧ phases 2 then
      let s := s.clearRequest
      some { s.issue env.now (s.meter.systemTypeRequest meterSdmSystemType3P4W) with
        meter.state := 7 }
    else
      some { s with meter.state := 0 }
  | 7 => -- check system type write response
    match meterGetWriteRegisterResponse env.now modbusFcWriteMultipleRegisters s with
    | none => some s
    | some s => some { s.clearRequest with meter.state := 8 }
  | _ => some { s with meter.state := 0 }

end Float

/-! ### Which request the driver waits for -/

/-- The request of the search that has no answer yet. -/
def eastronFindOutstanding (s : Stack F) : Option MeterRequest :=
  if s.statics.eastronFindState = 1 then
    some (.readRegisters modbusFcReadHoldingRegisters 1 meterSdmHoldingRegMeterCode 1)
  else
    none

/-- The system type that fits the connected phases. -/
def Meter.connectedSystemType (m : Meter F) : Option (BitVec 32) :=
  if m.phasesConnected 0 ∧ ¬ m.phasesConnected 1 ∧ ¬ m.phasesConnected 2 then
    some meterSdmSystemType1P2W
  else if m.phasesConnected 0 ∧ m.phasesConnected 1 ∧ m.phasesConnected 2 then
    some meterSdmSystemType3P4W
  else
    none

/-- The request of the driver that has no answer yet. -/
def eastronOutstanding (s : Stack F) : Option MeterRequest :=
  match s.meter.state with
  | 1 => some (s.meter.readRequest (ScanDriver.eastron.position s))
  | 3 => some (.readRegisters modbusFcReadHoldingRegisters s.meter.slaveAddress
      meterSdmHoldingRegSystemType 2)
  | 5 => some s.meter.passwordRequest
  | 7 => s.meter.connectedSystemType.map s.meter.systemTypeRequest
  | _ => none

/-! ### What a tick can do -/

/-- A tick outside of the table scan: it waits, it goes back to state 0, it takes
the response, or it issues the request of the next state. -/
inductive EastronMove (now : ℕ) : Stack F → Stack F → Prop
  | wait {s} (fc : UInt8) (hfc : fc = if s.meter.state = 3 then modbusFcReadHoldingRegisters
        else modbusFcWriteMultipleRegisters)
      (hstate : s.meter.state = 3 ∨ s.meter.state = 5 ∨ s.meter.state = 7)
      (hready : meterIsResponseReady fc s.rs485 = false) : EastronMove now s s
  | restart {s} (phases : Fin 3 → Bool)
      (hstate : s.meter.state ≠ 0 ∧ s.meter.state ≠ 1 ∧ s.meter.state ≠ 3 ∧ s.meter.state ≠ 5 ∧
        s.meter.state ≠ 7) :
      EastronMove now s { s with meter.phasesConnected := phases, meter.state := 0 }
  | take {s s₁} (fc : UInt8) (phases : Fin 3 → Bool) (isNew : Bool) (read : BitVec 32)
      (hstate : s.meter.state = 3 ∨ s.meter.state = 5 ∨ s.meter.state = 7)
      (hready : meterIsResponseReady fc s.rs485 = true) (htaken : Taken s s₁) :
      EastronMove now s { s₁.clearRequest with
        meter.systemTypeRead := read
        meter.phasesConnected := phases
        meter.newSystemType := isNew
        meter.state := s.meter.state + 1 }
  | readSystemType {s} (hstate : s.meter.state = 2) :
      EastronMove now s { s.issue now (.readRegisters modbusFcReadHoldingRegisters
        s.meter.slaveAddress meterSdmHoldingRegSystemType 2) with meter.state := 3 }
  | writePassword {s} (hstate : s.meter.state = 4) :
      EastronMove now s { s.clearRequest.issue now s.meter.passwordRequest with
        meter.newSystemType := false
        meter.state := 5 }
  | writeSystemType {s} (systemType : BitVec 32) (hstate : s.meter.state = 6)
      (hphases : s.meter.connectedSystemType = some systemType) :
      EastronMove now s { s.clearRequest.issue now (s.meter.systemTypeRequest systemType) with
        meter.state := 7 }

section Float

variable [CFloat F]

theorem eastronHandleNewSystemType_eq (s : Stack F) : ∃ phases isNew,
    meterEastronHandleNewSystemType s = { s with
      meter.phasesConnected := phases
      meter.newSystemType := isNew } := by
  unfold meterEastronHandleNewSystemType
  simp only
  split
  · split
    · exact ⟨_, true, rfl⟩
    · exact ⟨_, s.meter.newSystemType, rfl⟩
  · split
    · split
      · exact ⟨_, true, rfl⟩
      · exact ⟨_, s.meter.newSystemType, rfl⟩
    · exact ⟨_, true, rfl⟩

theorem meterEastronTick_cases {env : TickEnv} {s s' : Stack F}
    (h : meterEastronTick env s = some s') :
    s.meter.state = 0 ∧ s' = meterScanRequest .eastron env.now s ∨
      s.meter.state = 1 ∧ meterScanRead .eastron env s = some s' ∨
      EastronMove env.now s s' := by
  -- the states 5 and 7 wait for the answer to a write, and go on
  have hwrite : ∀ fc, fc = modbusFcWriteMultipleRegisters →
      s.meter.state = 5 ∨ s.meter.state = 7 →
      (match meterGetWriteRegisterResponse env.now fc s with
        | none => some s
        | some s₁ => some { s₁.clearRequest with meter.state := s.meter.state + 1 }) = some s' →
      EastronMove env.now s s' := by
    intro fc hfc hstate h
    have hstate' : s.meter.state = 3 ∨ s.meter.state = 5 ∨ s.meter.state = 7 := Or.inr hstate
    split at h
    · rename_i hnone
      obtain rfl := Option.some.inj h
      exact .wait fc (by rw [hfc, if_neg (by omega)]) hstate'
        (meterGetWriteRegisterResponse_none hnone)
    · rename_i s₁ hresponse
      obtain ⟨hready, c, t, a, log, rfl⟩ := meterGetWriteRegisterResponse_some hresponse
      obtain rfl := Option.some.inj h
      exact .take fc s.meter.phasesConnected s.meter.newSystemType s.meter.systemTypeRead hstate'
        hready ⟨c, t, a, log, rfl⟩
  unfold meterEastronTick at h
  split at h
  · -- state 0: the request for a register
    rename_i hstate
    exact Or.inl ⟨hstate, (Option.some.inj h).symm⟩
  · -- state 1: its response
    rename_i hstate
    exact Or.inr (Or.inl ⟨hstate, h⟩)
  · -- state 2: behind a complete read the system type is asked for
    rename_i hstate
    right; right
    split at h
    · obtain rfl := Option.some.inj h
      exact .restart s.meter.phasesConnected (by omega)
    · split at h
      · obtain rfl := Option.some.inj h
        exact .restart _ (by omega)
      · obtain rfl := Option.some.inj h
        exact .readSystemType hstate
  · -- state 3: the answer is judged
    rename_i hstate
    right; right
    split at h
    · rename_i hnone
      obtain rfl := Option.some.inj h
      exact .wait _ (by rw [hstate, if_pos rfl]) (Or.inl hstate)
        (meterGetReadRegistersResponse_none hnone)
    · rename_i data s₁ hresponse
      obtain ⟨hready, htaken, -⟩ := meterGetReadRegistersResponse_some hresponse
      obtain ⟨phases, isNew, heq⟩ := eastronHandleNewSystemType_eq
        { s₁ with meter.systemTypeRead := data 0 }
      obtain rfl := Option.some.inj h
      have htake : EastronMove env.now s _ :=
        .take _ phases isNew (data 0) (Or.inl hstate) hready htaken
      rw [hstate] at htake
      simp only [heq]
      exact htake
  · -- state 4: a change begins with the password
    rename_i hstate
    right; right
    split at h
    · obtain rfl := Option.some.inj h
      exact .restart s.meter.phasesConnected (by omega)
    · obtain rfl := Option.some.inj h
      exact .writePassword hstate
  · -- state 5
    rename_i hstate
    right; right
    apply hwrite _ rfl (Or.inl hstate)
    rw [hstate]
    exact h
  · -- state 6: the system type for the phases that are connected
    rename_i hstate
    right; right
    simp only at h
    split at h
    · rename_i hphases
      obtain rfl := Option.some.inj h
      exact .writeSystemType meterSdmSystemType1P2W hstate (if_pos hphases)
    · rename_i hphases
      split at h
      · rename_i hphases'
        obtain rfl := Option.some.inj h
        exact .writeSystemType meterSdmSystemType3P4W hstate
          ((if_neg hphases).trans (if_pos hphases'))
      · obtain rfl := Option.some.inj h
        exact .restart s.meter.phasesConnected (by omega)
  · -- state 7
    rename_i hstate
    right; right
    apply hwrite _ rfl (Or.inr hstate)
    rw [hstate]
    exact h
  · -- any other state
    rename_i h₀ h₁ h₂ h₃ h₄ h₅ h₆ h₇
    obtain rfl := Option.some.inj h
    exact Or.inr (Or.inr (.restart s.meter.phasesConnected ⟨h₀, h₁, h₃, h₅, h₇⟩))

end Float

end Bricklib2
