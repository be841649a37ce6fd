/-
Bricklib2/Warp/MeterGeneric.lean

The driver of the YTL and Lovato meters (meter_generic.c).  Its first two states
are also those of the Eastron driver: one register of the table is requested
and read, taken from the fast ones if 500 ms have passed since these were last
read, and from the others in between.  The drivers differ in the static variable
that says which of the two is going on.
-/
import Bricklib2.Warp.Meter

namespace Bricklib2

variable {F : Type}

/-! ### The table scan -/

/-- The drivers that have a `read_fast` variable. -/
inductive ScanDriver
  | generic
  | eastron
  deriving DecidableEq, Repr

/-- The scan is at the fast registers. -/
def ScanDriver.readFast : ScanDriver → MeterStatics F → Bool
  | .generic, statics => statics.genericReadFast
  | .eastron, statics => statics.eastronReadFast

/-- The scan goes on with the fast registers, or with the full table. -/
def ScanDriver.setReadFast (readFast : Bool) : ScanDriver → Stack F → Stack F
  | .generic, s => { s with statics.genericReadFast := readFast }
  | .eastron, s => { s with statics.eastronReadFast := readFast }

/-- The position in the table that is being read. -/
def ScanDriver.position (driver : ScanDriver) (s : Stack F) : ℕ :=
  if driver.readFast s.statics then s.meter.registerFastPosition else s.meter.registerFullPosition

/-- The request for the register at `position`. -/
def Meter.readRequest (m : Meter F) (position : ℕ) : MeterRequest :=
  .readRegisters modbusFcReadInputRegisters m.slaveAddress (m.definition position).registerAddress
    (meterGetRegisterSize m position)

/-- Request the next register, which is a fast one or not. -/
def meterScanRegister (driver : ScanDriver) (readFast : Bool) (now : ℕ) (s : Stack F) : Stack F :=
  let position := if readFast then s.meter.registerFastPosition else s.meter.registerFullPosition
  let s := driver.setReadFast readFast (s.issue now (s.meter.readRequest position))
  { s with meter.state := s.meter.state + 1 }

/-- `case 0`: request -/
def meterScanRequest (driver : ScanDriver) (now : ℕ) (s : Stack F) : Stack F :=
  meterScanRegister driver
    (systemTimerIsTimeElapsedMs now s.meter.registerFastTime 500 || driver.readFast s.statics)
    now s

variable [CFloat F]

/-- `case 1`: read -/
def meterScanRead (driver : ScanDriver) (env : TickEnv) (s : Stack F) : Option (Stack F) :=
  match meterGetReadRegistersResponse env.now modbusFcReadInputRegisters env.garbage
      (meterGetRegisterSize s.meter (driver.position s)) s with
  | none => some s
  | some (data, s) => do
    let s ← meterHandleNewData (data 0) (s.meter.definition (driver.position s)) s
    let s := s.clearRequest
    if driver.readFast s.statics then
      meterNextFastRegister (driver.setReadFast false) env.now s.meter.scanFuel
        { s with meter.state := 0 }
    else
      meterNextFullRegister s.meter.scanFuel { s with meter.state := s.meter.state + 1 }

/-! ### The driver -/

/-- Asks for the meter code of YTL meters and compares the answer. -/
def meterGenericIsConnected (env : TickEnv) (s : Stack F) : MeterType × Stack F :=
  match s.statics.genericFindState with
  | 0 =>
    -- read meter code for YTL meters register with slave address 1
    let s := s.issue env.now (.readRegisters modbusFcReadHoldingRegisters 1 0x100D 1)
    (.detection, { s with statics.genericFindState := 1 })
  | 1 =>
    match meterGetReadRegistersResponse env.now modbusFcReadHoldingRegisters
        (fun _ => 0xFFFF) 1 s with
    | none => (.detection, s)
    | some (meterCode, s) =>
      let s := { s.clearRequest with statics.genericFindState := 0 }
      if (meterCode 0).setWidth 16 = (0x0006 : BitVec 16) then (.dem4A, s) else (.unknown, s)
  | _ => (.unknown, { s with statics.genericFindState := 0 })

/-- The scan of the registers, and a pause. -/
def meterGenericTick (env : TickEnv) (s : Stack F) : Option (Stack F) :=
  match s.meter.state with
  | 0 => some (meterScanRequest .generic env.now s)
  | 1 => meterScanRead .generic env s
  | 2 =>
    if s.meter.registerFullPosition ≠ 0 ∨ s.meter.eachValueReadOnce = false then
      some { s with meter.state := 0 }
    else
      some { meterHandlePhasesConnected s with meter.state := 0 }
  | _ => some { s with meter.state := 0 }

/-! ### Which request the driver waits for -/

omit [CFloat F] in
/-- The request of the search that has no answer yet. -/
def genericFindOutstanding (s : Stack F) : Option MeterRequest :=
  if s.statics.genericFindState = 1 then
    some (.readRegisters modbusFcReadHoldingRegisters 1 0x100D 1)
  else
    none

omit [CFloat F] in
/-- The request of the driver that has no answer yet. -/
def genericOutstanding (s : Stack F) : Option MeterRequest :=
  if s.meter.state = 1 then
    some (s.meter.readRequest (ScanDriver.generic.position s))
  else
    none

/-! ### What the scan changes -/

omit [CFloat F] in
@[simp] theorem readFast_setReadFast (driver : ScanDriver) (b : Bool) (s : Stack F) :
    driver.readFast (driver.setReadFast b s).statics = b := by cases driver <;> rfl

/-- Apart from what belongs to the fast read, the scan changes nothing. -/
def FastScanned (driver : ScanDriver) (s s' : Stack F) : Prop :=
  ∃ readFast position time callback, s' = driver.setReadFast readFast { s with
    meter.registerFastPosition := position
    meter.registerFastTime := time
    meter.newFastValueCallback := callback }

omit [CFloat F] in
theorem fastScanned_advance (driver : ScanDriver) (now : ℕ) (s : Stack F) :
    FastScanned driver s (meterAdvanceFast (driver.setReadFast false) now s) := by
  unfold meterAdvanceFast
  simp only
  split
  · generalize nextFastTime now s.meter.registerFastTime = time
    exact ⟨false, 0, time, true, by cases driver <;> rfl⟩
  · exact ⟨driver.readFast s.statics, s.meter.registerFastPosition + 1, s.meter.registerFastTime,
      s.meter.newFastValueCallback, by cases driver <;> rfl⟩

omit [CFloat F] in
theorem FastScanned.trans {driver : ScanDriver} {s s' s'' : Stack F}
    (h : FastScanned driver s s') (h' : FastScanned driver s' s'') :
    FastScanned driver s s'' := by
  obtain ⟨b, p, t, c, rfl⟩ := h
  obtain ⟨b', p', t', c', rfl⟩ := h'
  exact ⟨b', p', t', c', by cases driver <;> rfl⟩

omit [CFloat F] in
theorem fastScanned_next {driver : ScanDriver} {now fuel : ℕ} {s s' : Stack F}
    (h : meterNextFastRegister (driver.setReadFast false) now fuel s = some s') :
    FastScanned driver s s' := by
  induction fuel generalizing s with
  | zero => cases h
  | succ fuel ih =>
    have hadvance := fastScanned_advance driver now s
    simp only [meterNextFastRegister] at h
    split at h
    · obtain rfl := Option.some.inj h
      exact hadvance
    · exact hadvance.trans (ih h)

omit [CFloat F] in
/-- The registers that are calculated from others when a full read is done. -/
def resettableRegisters : List RegisterName :=
  [.energyActiveLSumImportResettable, .energyActiveLSumExportResettable,
    .energyActiveLSumImExSumResettable]

/-- The full scan changes its position, and after the last register the
resettable energy values. -/
def FullScanned (s s' : Stack F) : Prop :=
  ∃ position registers once calls, s' = { s with
    registers := registers
    meter.registerFullPosition := position
    meter.eachValueReadOnce := once
    readDones := calls } ∧
    ∀ name ∉ resettableRegisters, registers name = s.registers name

theorem readDone_registers {s : Stack F} {name : RegisterName} (h : name ∉ resettableRegisters) :
    (meterHandleRegisterSetReadDone s).registers name = s.registers name := by
  simp only [resettableRegisters, List.mem_cons, List.not_mem_nil, or_false, not_or] at h
  obtain ⟨h₁, h₂, h₃⟩ := h
  show Function.update _ _ _ name = _
  rw [Function.update_of_ne h₃]
  show Function.update _ _ _ name = _
  rw [Function.update_of_ne h₂]
  show Function.update _ _ _ name = _
  rw [Function.update_of_ne h₁]

theorem readDone_eq (s : Stack F) :
    meterHandleRegisterSetReadDone s = { s with
      registers := (meterHandleRegisterSetReadDone s).registers
      meter.eachValueReadOnce := true
      readDones := s.readDones + 1 } := rfl

theorem fullScanned_advance (s : Stack F) : FullScanned s (meterAdvanceFull s) := by
  unfold meterAdvanceFull
  simp only
  split
  · refine ⟨0, _, true, s.readDones + 1, readDone_eq _, fun name h => ?_⟩
    rw [readDone_registers h]
  · exact ⟨s.meter.registerFullPosition + 1, s.registers, s.meter.eachValueReadOnce, s.readDones,
      rfl, fun _ _ => rfl⟩

omit [CFloat F] in
theorem FullScanned.trans {s s' s'' : Stack F} (h : FullScanned s s')
    (h' : FullScanned s' s'') : FullScanned s s'' := by
  obtain ⟨p, r, o, n, rfl, hr⟩ := h
  obtain ⟨p', r', o', n', rfl, hr'⟩ := h'
  exact ⟨p', r', o', n', rfl, fun name hn => (hr' name hn).trans (hr name hn)⟩

theorem fullScanned_next {fuel : ℕ} {s s' : Stack F}
    (h : meterNextFullRegister fuel s = some s') : FullScanned s s' := by
  induction fuel generalizing s with
  | zero => cases h
  | succ fuel ih =>
    have hadvance := fullScanned_advance s
    simp only [meterNextFullRegister] at h
    split at h
    · exact hadvance.trans (ih h)
    · obtain rfl := Option.some.inj h
      exact hadvance

/-! ### What a tick can do -/

omit [CFloat F] in
@[simp] theorem setReadFast_rs485 (driver : ScanDriver) (b : Bool) (s : Stack F) :
    (driver.setReadFast b s).rs485 = s.rs485 := by cases driver <;> rfl

omit [CFloat F] in
@[simp] theorem setReadFast_meter (driver : ScanDriver) (b : Bool) (s : Stack F) :
    (driver.setReadFast b s).meter = s.meter := by cases driver <;> rfl

omit [CFloat F] in
@[simp] theorem setReadFast_registers (driver : ScanDriver) (b : Bool) (s : Stack F) :
    (driver.setReadFast b s).registers = s.registers := by cases driver <;> rfl

omit [CFloat F] in
@[simp] theorem setReadFast_iskra (driver : ScanDriver) (b : Bool) (s : Stack F) :
    (driver.setReadFast b s).iskra = s.iskra := by cases driver <;> rfl

omit [CFloat F] in
@[simp] theorem setReadFast_responses (driver : ScanDriver) (b : Bool) (s : Stack F) :
    (driver.setReadFast b s).responses = s.responses := by cases driver <;> rfl

omit [CFloat F] in
theorem position_taken (driver : ScanDriver) {s s' : Stack F} (h : Taken s s') :
    driver.position s' = driver.position s := by
  obtain ⟨c, t, a, log, rfl⟩ := h
  cases driver <;> rfl

omit [CFloat F] in
theorem definition_taken {s s' : Stack F} (h : Taken s s') (position : ℕ) :
    s'.meter.definition position = s.meter.definition position := by
  obtain ⟨c, t, a, log, rfl⟩ := h
  rfl

/-- A response has been stored, the request cleared and the state set: what is
left of the tick is the scan for the next register. -/
def Stack.stored (address : RegisterAddress) (value : F) (state : ℕ) (s : Stack F) : Stack F :=
  { (s.store address value).clearRequest with meter.state := state }

/-- `case 1` either waits or stores the response of the current register and
goes on to the next one. -/
theorem meterScanRead_cases {driver : ScanDriver} {env : TickEnv} {s s' : Stack F}
    (h : meterScanRead driver env s = some s') :
    meterIsResponseReady modbusFcReadInputRegisters s.rs485 = false ∧ s' = s ∨
      ∃ data s₁ value address,
        meterGetReadRegistersResponse env.now modbusFcReadInputRegisters env.garbage
          (meterGetRegisterSize s.meter (driver.position s)) s = some (data, s₁) ∧
        meterDecode (data 0) (s.meter.definition (driver.position s)) = some value ∧
        (s.meter.definition (driver.position s)).registerSetAddress = some address ∧
        (driver.readFast s.statics = true ∧ FastScanned driver (s₁.stored address value 0) s' ∨
          driver.readFast s.statics = false ∧
            FullScanned (s₁.stored address value (s.meter.state + 1)) s') := by
  unfold meterScanRead at h
  split at h
  · rename_i hnone
    obtain rfl := Option.some.inj h
    exact Or.inl ⟨meterGetReadRegistersResponse_none hnone, rfl⟩
  rename_i data s₁ hresponse
  obtain ⟨-, htaken, -⟩ := meterGetReadRegistersResponse_some hresponse
  obtain ⟨s₂, hstore, h⟩ := Option.bind_eq_some_iff.mp h
  obtain ⟨value, address, hvalue, haddress, rfl⟩ := meterHandleNewData_some hstore
  rw [position_taken driver htaken, definition_taken htaken] at hvalue haddress
  -- storing the value changes neither the kind of the read nor the state
  have hreadFast : driver.readFast (s₁.store address value).clearRequest.statics =
      driver.readFast s.statics := by
    obtain ⟨c, t, a, log, rfl⟩ := htaken
    cases address <;> rfl
  have hstate : (s₁.store address value).clearRequest.meter.state = s.meter.state := by
    obtain ⟨c, t, a, log, rfl⟩ := htaken
    cases address <;> rfl
  refine Or.inr ⟨data, s₁, value, address, hresponse, hvalue, haddress, ?_⟩
  simp only [hreadFast, hstate] at h
  split at h
  · rename_i hfast
    exact Or.inl ⟨hfast, fastScanned_next h⟩
  · rename_i hslow
    exact Or.inr ⟨(Bool.not_eq_true _).mp hslow, fullScanned_next h⟩

theorem meterGenericTick_cases {env : TickEnv} {s s' : Stack F}
    (h : meterGenericTick env s = some s') :
    s.meter.state = 0 ∧ s' = meterScanRequest .generic env.now s ∨
      s.meter.state = 1 ∧ meterScanRead .generic env s = some s' ∨
      1 < s.meter.state ∧ ∃ phases, s' = { s with
        meter.phasesConnected := phases
        meter.state := 0 } := by
  unfold meterGenericTick at h
  split at h
  · rename_i hstate
    exact Or.inl ⟨hstate, (Option.some.inj h).symm⟩
  · rename_i hstate
    exact Or.inr (Or.inl ⟨hstate, h⟩)
  · rename_i hstate
    refine Or.inr (Or.inr ⟨by omega, ?_⟩)
    split at h
    · exact ⟨s.meter.phasesConnected, (Option.some.inj h).symm⟩
    · exact ⟨_, (Option.some.inj h).symm⟩
  · rename_i h₀ h₁ h₂
    have hstate : 1 < s.meter.state := by
      have h₀' : s.meter.state ≠ 0 := h₀
      have h₁' : s.meter.state ≠ 1 := h₁
      omega
    exact Or.inr (Or.inr ⟨hstate, s.meter.phasesConnected, (Option.some.inj h).symm⟩)

end Bricklib2
