/-
Bricklib2/Warp/Meter.lean

What the four drivers share (meter.c): issuing requests, taking responses,
decoding register values, and choosing the meter type.

A function that may not return gives an `Option`, and `none` stands for not
returning (or for a store through `NULL`).  Buffers that the source leaves
uninitialised are arguments.
-/
import Mathlib.Data.Fin.VecNotation
import Bricklib2.Warp.MeterTables

namespace Bricklib2

/-! ### Issuing requests -/

variable {F : Type}

/-- `meter_read_registers`, `meter_write_register` and `meter_write_string`, which
all work on the one bus. -/
def Stack.issue (now : ℕ) (request : MeterRequest) (s : Stack F) : Stack F :=
  { s with rs485 := meterIssue now request s.rs485, openRequest := true }

/-- `modbus_clear_request(&rs485)` -/
def Stack.clearRequest (s : Stack F) : Stack F :=
  { s with rs485 := modbusClearRequest s.rs485, openRequest := false }

/-- The error counters start again from zero. -/
def meterResetErrorCounter (s : Stack F) : Stack F :=
  { s with rs485.errorCounters := { s.rs485.errorCounters with
      illegalFunction := 0
      illegalDataAddress := 0
      illegalDataValue := 0
      slaveDeviceFailure := 0
      timeout := 0 } }

/-! ### Taking responses -/

/-- A response to a request with this function code is there, or the request has timed out. -/
def meterIsResponseReady (fc : UInt8) (r : RS485) : Bool :=
  r.mode == .modbusMasterRtu && r.requestState == .masterWaitingResponse && r.txFrame 1 == fc &&
    r.requestCbInvoke

/-- `rx_frame[1] == tx_frame[1] + 0x80` -/
def RS485.responseIsException (r : RS485) : Bool :=
  (r.rxFrame 1).toNat == (r.txFrame 1).toNat + 0x80

/-- Counts an exception with its code. -/
def countException (code : UInt8) (c : RS485ModbusCommonErrorCounters) :
    RS485ModbusCommonErrorCounters :=
  if code = 1 then { c with illegalFunction := c.illegalFunction + 1 }
  else if code = 2 then { c with illegalDataAddress := c.illegalDataAddress + 1 }
  else if code = 3 then { c with illegalDataValue := c.illegalDataValue + 1 }
  else if code = 4 then { c with slaveDeviceFailure := c.slaveDeviceFailure + 1 }
  else c

/-- The request has failed, and the reason goes into the counters. -/
def meterHasErrors (now : ℕ) (s : Stack F) : Bool × Stack F :=
  if s.rs485.masterRequestTimedOut then
    (true, { s with meter.errorWaitTime := systemTimerGetMs now })
  else if s.rs485.responseIsException then
    (true, { s with
      rs485.errorCounters := countException (s.rs485.rxFrame 2) s.rs485.errorCounters })
  else
    (false, s)

/-- `(d[0] << 24) | (d[1] << 16) | (d[2] << 8) | (d[3] << 0)` -/
def bigEndian32 (d : ℕ → UInt8) : BitVec 32 :=
  BitVec.ofNat 32
    ((d 0).toNat * 2 ^ 24 + (d 1).toNat * 2 ^ 16 + (d 2).toNat * 2 ^ 8 + (d 3).toNat)

/-- `(d[0] << 8) | (d[1] << 0)` -/
def bigEndian16 (d : ℕ → UInt8) : BitVec 16 :=
  BitVec.ofNat 16 ((d 0).toNat * 2 ^ 8 + (d 1).toNat)

/-- Store a 16-bit value in a 32-bit cell: the upper half keeps its content. -/
def storeLow (cell : BitVec 32) (value : BitVec 16) : BitVec 32 :=
  cell.extractLsb' 16 16 ++ value

/-- Copy the registers of a response to `data`, an array of 32-bit cells. -/
def readRegistersData (count : ℕ) (d : ℕ → UInt8) (data : ℕ → BitVec 32) : ℕ → BitVec 32 :=
  if count = 1 then
    Function.update data 0 (storeLow (data 0) (bigEndian16 d))
  else if count = 2 then
    Function.update data 0 (bigEndian32 d)
  else
    fun i => if i < count / 2 then bigEndian32 (fun k => d (i * 4 + k)) else data i

/-- What a driver has taken, if it is without errors. -/
def Stack.logResponse (s : Stack F) : Stack F :=
  match s.rs485.requests with
  | [] => s
  | q :: _ => { s with
      responses :=
        ⟨q.request, s.rs485.ringbufferRx.buffer.take s.rs485.acceptedLength⟩ :: s.responses }

/-- `none` for `false`, the new `data` for `true`. -/
def meterGetReadRegistersResponse (now : ℕ) (fc : UInt8) (data : ℕ → BitVec 32) (count : ℕ)
    (s : Stack F) : Option ((ℕ → BitVec 32) × Stack F) :=
  if meterIsResponseReady fc s.rs485 = false then
    none
  else
    match meterHasErrors now { s with openRequest := false } with
    | (true, s) => some (data, s)
    | (false, s) =>
      some (readRegistersData count (fun i => s.rs485.rxFrame (3 + i)) data,
        { s.logResponse with meter.available := true })

/-- The end of a write, with or without an error. -/
def meterGetWriteRegisterResponse (now : ℕ) (fc : UInt8) (s : Stack F) : Option (Stack F) :=
  if meterIsResponseReady fc s.rs485 = false then
    none
  else
    some (meterHasErrors now { s with openRequest := false }).2

/-! ### Register values -/

section Float

variable [CFloat F]

/-- Powers of ten by repeated multiplication.  For -128 the loop counter, an
`int8_t`, never reaches 128. -/
def decadeScale (exponent : ℤ) : Option F :=
  if exponent = -128 then
    none
  else if exponent < 0 then
    some ((· * CFloat.ofRat (1 / 10))^[(-exponent).toNat] (CFloat.ofRat 1))
  else
    some ((· * CFloat.ofRat 10)^[exponent.toNat] (CFloat.ofRat 1))

/-- The value that `meter_handle_new_data` stores. -/
def meterDecode (data : BitVec 32) (definition : MeterDefinition) : Option F :=
  let scaleFactor : F := CFloat.ofRat definition.scaleFactor
  match definition.registerDataType with
  | .float => some (CFloat.ofBits data * scaleFactor)
  | .int32 => some (CFloat.ofInt data.toInt * scaleFactor)
  | .t2 | .int16 => some (CFloat.ofInt (data.setWidth 16).toInt * scaleFactor)
  | .t3 => some (CFloat.ofInt data.toNat * scaleFactor)
  | .t5 => do
    let scale ← decadeScale ((data >>> 24).setWidth 8).toInt
    some (CFloat.ofInt (data.setWidth 24).toNat * scale * scaleFactor)
  | .t6 => do
    let scale ← decadeScale ((data >>> 24).setWidth 8).toInt
    some (CFloat.ofInt (data.setWidth 24).toInt * scale * scaleFactor)
  | .t7 => some (CFloat.ofInt (data.setWidth 16).toNat * CFloat.ofRat (1 / 10000) * scaleFactor)
  | .t16 => some (CFloat.ofInt (data.setWidth 16).toNat * CFloat.ofRat (1 / 100) * scaleFactor)
  | .t17 => some (CFloat.ofInt (data.setWidth 16).toInt * CFloat.ofRat (1 / 100) * scaleFactor)

/-- `address->f = value` -/
def Stack.store (address : RegisterAddress) (value : F) (s : Stack F) : Stack F :=
  match address with
  | .registerSet name => { s with registers := Function.update s.registers name value }
  | .energyCounterExponent i => { s with
      iskra.energyCounterExponent := Function.update s.iskra.energyCounterExponent i value }
  | .energyCounter i => { s with
      iskra.energyCounter := Function.update s.iskra.energyCounter i value }
  | .energyCounter1000x i => { s with
      iskra.energyCounter1000x := Function.update s.iskra.energyCounter1000x i value }

/-- A value that was read is scaled and goes into its register. -/
def meterHandleNewData (data : BitVec 32) (definition : MeterDefinition) (s : Stack F) :
    Option (Stack F) := do
  let value ← meterDecode data definition
  let address ← definition.registerSetAddress
  some (s.store address value)

/-- A phase is connected if it has more than 180 V. -/
def meterHandlePhasesConnected (s : Stack F) : Stack F :=
  { s with meter.phasesConnected := ![
      CFloat.lt (CFloat.ofRat 180) (s.registers .voltageL1N),
      CFloat.lt (CFloat.ofRat 180) (s.registers .voltageL2N),
      CFloat.lt (CFloat.ofRat 180) (s.registers .voltageL3N)] }

/-- The fast registers were read once more. -/
def meterHandleRegisterSetFastReadDone (s : Stack F) : Stack F :=
  { s with meter.newFastValueCallback := true }

/-- The complete register set has been read. -/
def meterHandleRegisterSetReadDone (s : Stack F) : Stack F :=
  let s := s.store (.registerSet .energyActiveLSumImportResettable)
    (s.registers .energyActiveLSumImport - s.meter.relativeEnergyImport)
  let s := s.store (.registerSet .energyActiveLSumExportResettable)
    (s.registers .energyActiveLSumExport - s.meter.relativeEnergyExport)
  let s := s.store (.registerSet .energyActiveLSumImExSumResettable)
    (s.registers .energyActiveLSumImExSum - s.meter.relativeEnergySum)
  { s with
    meter.eachValueReadOnce := true
    readDones := s.readDones + 1 }

/-! ### The register table -/

/-- `meter.current_meter[position]` -/
def Meter.definition (m : Meter F) (position : ℕ) : MeterDefinition :=
  (m.currentMeter.getD []).getD position stopMarker

/-- The Modbus registers that a value takes. -/
def MeterRegisterDataType.size : MeterRegisterDataType → ℕ
  | .t2 | .int16 | .t16 | .t17 => 1
  | .float | .int32 | .t3 | .t5 | .t6 | .t7 => 2

/-- The Modbus registers of the value at a position of the table. -/
def meterGetRegisterSize (m : Meter F) (position : ℕ) : ℕ :=
  (m.definition position).registerDataType.size

/-- The start of the next fast read: 500 ms after the last one, or now if that
is past too. -/
def nextFastTime (now registerFastTime : ℕ) : ℕ :=
  let time := (registerFastTime + 500) % 2 ^ 32
  if systemTimerIsTimeElapsedMs now time 500 then systemTimerGetMs now else time

/-- One step of the scan for the next fast register.  At the stop marker the
scan starts again in front, and the fast registers have all been read. -/
def meterAdvanceFast (clearReadFast : Stack F → Stack F) (now : ℕ) (s : Stack F) : Stack F :=
  let s := { s with meter.registerFastPosition := s.meter.registerFastPosition + 1 }
  if (s.meter.definition s.meter.registerFastPosition).registerSetAddress = none then
    meterHandleRegisterSetFastReadDone (clearReadFast { s with
      meter.registerFastPosition := 0
      meter.registerFastTime := nextFastTime now s.meter.registerFastTime })
  else
    s

/-- `do { .. } while(!fast_read)` -/
def meterNextFastRegister (clearReadFast : Stack F → Stack F) (now : ℕ) :
    (fuel : ℕ) → Stack F → Option (Stack F)
  | 0, _ => none
  | fuel + 1, s =>
    let s := meterAdvanceFast clearReadFast now s
    if (s.meter.definition s.meter.registerFastPosition).fastRead then
      some s
    else
      meterNextFastRegister clearReadFast now fuel s

/-- One step of the scan for the next register of the full read. -/
def meterAdvanceFull (s : Stack F) : Stack F :=
  let s := { s with meter.registerFullPosition := s.meter.registerFullPosition + 1 }
  if (s.meter.definition s.meter.registerFullPosition).registerSetAddress = none then
    meterHandleRegisterSetReadDone { s with meter.registerFullPosition := 0 }
  else
    s

/-- `do { .. } while(fast_read)` -/
def meterNextFullRegister : (fuel : ℕ) → Stack F → Option (Stack F)
  | 0, _ => none
  | fuel + 1, s =>
    let s := meterAdvanceFull s
    if (s.meter.definition s.meter.registerFullPosition).fastRead then
      meterNextFullRegister fuel s
    else
      some s

/-- A scan that has passed the whole table twice never ends. -/
def Meter.scanFuel (m : Meter F) : ℕ := 2 * (m.currentMeter.getD []).length + 2

/-! ### Initialisation and the meter type -/

omit [CFloat F] in
/-- The table of a meter type, `NULL` for one without a driver. -/
def MeterType.table : MeterType → Option (List MeterDefinition)
  | .sdm72V2 => some meterSdm72v2
  | .sdm630 => some meterSdm630
  | .sdm630MctV2 => some meterSdm630
  | .dsz15Dzmod => some meterDsz15dzmod
  | .dem4A => some meterDem4a
  | .dmed341Mid7Er => some meterDmed341mid7er
  | .dsz16Dze => some meterDsz16dze
  | .wm3M4C => some meterWm3m4c
  | .wm3M4 => some meterWm3m4c
  | .detection | .unknown | .unsupported | .sdm72Ctm => none

/-- The address that meters of a type have on the bus. -/
def MeterType.slaveAddress : MeterType → UInt8
  | .sdm72V2 | .sdm630 | .sdm630MctV2 | .dsz15Dzmod | .dem4A | .dmed341Mid7Er | .dsz16Dze => 0x01
  | .wm3M4C | .wm3M4 => 0x21
  | .detection | .unknown | .unsupported | .sdm72Ctm => 0

/-- Whether an entry of the table is a value of the register set, rather than
the stop marker or a temporary variable. -/
def MeterDefinition.inRegisterSet (d : MeterDefinition) : Bool :=
  match d.registerSetAddress with
  | some (.registerSet _) => true
  | _ => false

/-- `meter_update_size`: all entries and those of the register set, also behind
the stop marker. -/
def meterUpdateSize (m : Meter F) : Meter F :=
  match m.currentMeter with
  | none => { m with currentMeterSize := 0, currentMeterDefinitionSize := 0 }
  | some table => { m with
      currentMeterSize := (table.filter MeterDefinition.inRegisterSet).length
      currentMeterDefinitionSize := table.length }

/-- The type that was found, with its table, its address and the start of the timeout. -/
def meterSetMeterType (now : ℕ) (type : MeterType) (s : Stack F) : Stack F :=
  { s with meter := { meterUpdateSize { s.meter with
      type := type
      slaveAddress := type.slaveAddress
      currentMeter := type.table } with timeout := systemTimerGetMs now } }

/-- `meter_init`: everything is zero, the registers are NaN, and only the
relative energy values are kept. -/
def meterInit (now : ℕ) (s : Stack F) : Stack F :=
  { s with
    registers := fun _ => CFloat.nan
    meter := {
      type := .unknown
      slaveAddress := 0
      state := 0
      registerFullPosition := 0
      registerFastPosition := 0
      registerFastTime := systemTimerGetMs now
      available := false
      eachValueReadOnce := false
      timeout := 0
      firstTick := systemTimerGetMs now
      errorWaitTime := 0
      systemTypeRead := 0
      newSystemType := false
      phasesConnected := fun _ => false
      newFastValueCallback := false
      relativeEnergySum := s.meter.relativeEnergySum
      relativeEnergyImport := s.meter.relativeEnergyImport
      relativeEnergyExport := s.meter.relativeEnergyExport
      currentMeter := none
      currentMeterSize := 0
      currentMeterDefinitionSize := 0 } }

end Float

/-- Apart from the sizes of the table, a found type sets these. -/
theorem meterSetMeterType_eq (now : ℕ) (type : MeterType) (s : Stack F) :
    ∃ size definitionSize, meterSetMeterType now type s = { s with meter := { s.meter with
      type := type
      slaveAddress := type.slaveAddress
      currentMeter := type.table
      currentMeterSize := size
      currentMeterDefinitionSize := definitionSize
      timeout := systemTimerGetMs now } } := by
  rw [meterSetMeterType, meterUpdateSize]
  split <;> exact ⟨_, _, rfl⟩

/-! ### What taking a response changes -/

/-- The request has failed: it has timed out, or the slave has answered with an
exception. -/
def RS485.responseFailed (r : RS485) : Bool :=
  r.masterRequestTimedOut || r.responseIsException

theorem meterHasErrors_failed (now : ℕ) {s : Stack F} (h : s.rs485.responseFailed = true) :
    ∃ c t, meterHasErrors now s =
      (true, { s with rs485.errorCounters := c, meter.errorWaitTime := t }) := by
  unfold meterHasErrors
  split
  · exact ⟨s.rs485.errorCounters, _, rfl⟩
  · rename_i htimedOut
    have hexception : s.rs485.responseIsException = true := by
      rcases Bool.or_eq_true_iff.mp h with ht | he
      · exact absurd ht htimedOut
      · exact he
    rw [if_pos hexception]
    exact ⟨_, s.meter.errorWaitTime, rfl⟩

theorem meterHasErrors_ok (now : ℕ) {s : Stack F} (h : s.rs485.responseFailed = false) :
    meterHasErrors now s = (false, s) := by
  obtain ⟨ht, he⟩ := Bool.or_eq_false_iff.mp h
  simp only [meterHasErrors, ht, he, Bool.false_eq_true, if_false]

theorem logResponse_eq (s : Stack F) :
    s.logResponse = { s with responses := s.logResponse.responses } := by
  unfold Stack.logResponse
  split <;> rfl

theorem logResponse_responses (s : Stack F) :
    ∃ log, s.logResponse.responses = log ++ s.responses := by
  unfold Stack.logResponse
  split
  · exact ⟨[], rfl⟩
  · exact ⟨[_], rfl⟩

theorem logResponse_openRequest (s : Stack F) (b : Bool) :
    Stack.logResponse { s with openRequest := b } = { s.logResponse with openRequest := b } := by
  unfold Stack.logResponse
  simp only
  split <;> rfl

/-- A response has been taken: all that this changes. -/
def Taken (s s' : Stack F) : Prop :=
  ∃ c t a log, s' = { s with
    rs485.errorCounters := c
    meter.errorWaitTime := t
    meter.available := a
    openRequest := false
    responses := log ++ s.responses }

theorem Taken.type {s s' : Stack F} (h : Taken s s') : s'.meter.type = s.meter.type := by
  obtain ⟨c, t, a, log, rfl⟩ := h
  rfl

theorem Taken.slaveAddress {s s' : Stack F} (h : Taken s s') :
    s'.meter.slaveAddress = s.meter.slaveAddress := by
  obtain ⟨c, t, a, log, rfl⟩ := h
  rfl

theorem Taken.currentMeter {s s' : Stack F} (h : Taken s s') :
    s'.meter.currentMeter = s.meter.currentMeter := by
  obtain ⟨c, t, a, log, rfl⟩ := h
  rfl

theorem Taken.state {s s' : Stack F} (h : Taken s s') : s'.meter.state = s.meter.state := by
  obtain ⟨c, t, a, log, rfl⟩ := h
  rfl

theorem Taken.registers {s s' : Stack F} (h : Taken s s') : s'.registers = s.registers := by
  obtain ⟨c, t, a, log, rfl⟩ := h
  rfl

theorem Taken.iskra {s s' : Stack F} (h : Taken s s') : s'.iskra = s.iskra := by
  obtain ⟨c, t, a, log, rfl⟩ := h
  rfl

theorem Taken.statics {s s' : Stack F} (h : Taken s s') : s'.statics = s.statics := by
  obtain ⟨c, t, a, log, rfl⟩ := h
  rfl

theorem Taken.handOvers {s s' : Stack F} (h : Taken s s') : s'.handOvers = s.handOvers := by
  obtain ⟨c, t, a, log, rfl⟩ := h
  rfl

/-- The log only grows. -/
theorem Taken.responses {s s' : Stack F} (h : Taken s s') :
    ∀ p ∈ s.responses, p ∈ s'.responses := by
  obtain ⟨c, t, a, log, rfl⟩ := h
  exact fun p hp => List.mem_append_right log hp

theorem Taken.openRequest {s s' : Stack F} (h : Taken s s') : s'.openRequest = false := by
  obtain ⟨c, t, a, log, rfl⟩ := h
  rfl

/-- A failed response leaves `data` alone; the registers of any other go there. -/
theorem meterGetReadRegistersResponse_some {now count : ℕ} {fc : UInt8}
    {data data' : ℕ → BitVec 32} {s s' : Stack F}
    (h : meterGetReadRegistersResponse now fc data count s = some (data', s')) :
    meterIsResponseReady fc s.rs485 = true ∧ Taken s s' ∧
      (s.rs485.responseFailed = true ∧ data' = data ∧ s'.responses = s.responses ∨
        s.rs485.responseFailed = false ∧
          data' = readRegistersData count (fun i => s.rs485.rxFrame (3 + i)) data ∧
          s'.responses = s.logResponse.responses) := by
  unfold meterGetReadRegistersResponse at h
  split at h
  · cases h
  rename_i hready
  refine ⟨(Bool.not_eq_false _).mp hready, ?_⟩
  rcases hf : s.rs485.responseFailed with _ | _
  · rw [meterHasErrors_ok now (s := { s with openRequest := false }) hf] at h
    obtain ⟨rfl, rfl⟩ := Prod.mk.inj (Option.some.inj h)
    obtain ⟨log, hlog⟩ := logResponse_responses s
    refine ⟨⟨s.rs485.errorCounters, s.meter.errorWaitTime, true, log, ?_⟩, Or.inr ⟨rfl, rfl, ?_⟩⟩
    · rw [← hlog, logResponse_openRequest, logResponse_eq]
    · rw [logResponse_openRequest]
  · obtain ⟨c, t, herr⟩ := meterHasErrors_failed now (s := { s with openRequest := false }) hf
    rw [herr] at h
    obtain ⟨rfl, rfl⟩ := Prod.mk.inj (Option.some.inj h)
    exact ⟨⟨c, t, s.meter.available, [], rfl⟩, Or.inl ⟨rfl, rfl, rfl⟩⟩

theorem meterGetReadRegistersResponse_none {now count : ℕ} {fc : UInt8}
    {data : ℕ → BitVec 32} {s : Stack F}
    (h : meterGetReadRegistersResponse now fc data count s = none) :
    meterIsResponseReady fc s.rs485 = false := by
  unfold meterGetReadRegistersResponse at h
  split at h
  · rename_i hready
    exact hready
  · split at h <;> cases h

theorem meterGetWriteRegisterResponse_some {now : ℕ} {fc : UInt8} {s s' : Stack F}
    (h : meterGetWriteRegisterResponse now fc s = some s') :
    meterIsResponseReady fc s.rs485 = true ∧ Taken s s' := by
  unfold meterGetWriteRegisterResponse at h
  split at h
  · cases h
  rename_i hready
  refine ⟨(Bool.not_eq_false _).mp hready, ?_⟩
  obtain rfl := Option.some.inj h
  rcases hf : s.rs485.responseFailed with _ | _
  · rw [meterHasErrors_ok now (s := { s with openRequest := false }) hf]
    exact ⟨s.rs485.errorCounters, s.meter.errorWaitTime, s.meter.available, [], rfl⟩
  · obtain ⟨c, t, herr⟩ := meterHasErrors_failed now (s := { s with openRequest := false }) hf
    rw [herr]
    exact ⟨c, t, s.meter.available, [], rfl⟩

theorem meterGetWriteRegisterResponse_none {now : ℕ} {fc : UInt8} {s : Stack F}
    (h : meterGetWriteRegisterResponse now fc s = none) :
    meterIsResponseReady fc s.rs485 = false := by
  unfold meterGetWriteRegisterResponse at h
  split at h
  · rename_i hready
    exact hready
  · cases h

theorem meterIsResponseReady_cbInvoke {fc : UInt8} {r : RS485}
    (h : meterIsResponseReady fc r = true) : r.requestCbInvoke = true :=
  (Bool.and_eq_true_iff.mp h).2

/-! ### What storing a value changes -/

@[simp] theorem store_rs485 (a : RegisterAddress) (v : F) (s : Stack F) :
    (s.store a v).rs485 = s.rs485 := by cases a <;> rfl

@[simp] theorem store_meter (a : RegisterAddress) (v : F) (s : Stack F) :
    (s.store a v).meter = s.meter := by cases a <;> rfl

@[simp] theorem store_statics (a : RegisterAddress) (v : F) (s : Stack F) :
    (s.store a v).statics = s.statics := by cases a <;> rfl

@[simp] theorem store_openRequest (a : RegisterAddress) (v : F) (s : Stack F) :
    (s.store a v).openRequest = s.openRequest := by cases a <;> rfl

@[simp] theorem store_handOvers (a : RegisterAddress) (v : F) (s : Stack F) :
    (s.store a v).handOvers = s.handOvers := by cases a <;> rfl

@[simp] theorem store_responses (a : RegisterAddress) (v : F) (s : Stack F) :
    (s.store a v).responses = s.responses := by cases a <;> rfl

@[simp] theorem store_fastState (a : RegisterAddress) (v : F) (s : Stack F) :
    (s.store a v).iskra.fastState = s.iskra.fastState := by cases a <;> rfl

@[simp] theorem store_fastActive (a : RegisterAddress) (v : F) (s : Stack F) :
    (s.store a v).iskra.fastActive = s.iskra.fastActive := by cases a <;> rfl

@[simp] theorem store_fastStartTime (a : RegisterAddress) (v : F) (s : Stack F) :
    (s.store a v).iskra.fastStartTime = s.iskra.fastStartTime := by cases a <;> rfl

theorem meterHandleNewData_some [CFloat F] {data : BitVec 32} {definition : MeterDefinition}
    {s s' : Stack F} (h : meterHandleNewData data definition s = some s') :
    ∃ value address, meterDecode data definition = some value ∧
      definition.registerSetAddress = some address ∧ s' = s.store address value := by
  obtain ⟨value, hvalue, h⟩ := Option.bind_eq_some_iff.mp h
  obtain ⟨address, haddress, h⟩ := Option.bind_eq_some_iff.mp h
  exact ⟨value, address, hvalue, haddress, (Option.some.inj h).symm⟩

end Bricklib2
