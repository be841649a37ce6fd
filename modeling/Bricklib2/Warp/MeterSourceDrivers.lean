/-
Bricklib2/Warp/MeterSourceDrivers.lean

One tick of each driver keeps the sources of the values: the table scans store one
register of a single response, Eltako and the fast Iskra states the cells of a block.

Main result: `driverTick_sourced`.
-/
import Bricklib2.Warp.MeterSource

namespace Bricklib2

open Machine Bytes

variable {F : Type} [CFloat F] {s s' : Stack F} {env : TickEnv} {count : ℕ}

/-! ### Steps of a driver -/

omit [CFloat F] in
theorem startTx_requests (r : RS485) : (modbusStartTxFromBuffer r).requests.map
    IssuedRequest.request = r.requests.map IssuedRequest.request :=
  (wireStep_txLoop _ { r with stateWire := .tx, txEvent := true }).requests

omit [CFloat F] in
/-- A request that has been issued is the newest one. -/
theorem issue_newest (now : ℕ) (q : MeterRequest) (s : Stack F) :
    (s.issue now q).newest = some q := by
  show (meterIssue now q s.rs485).requests.head?.map IssuedRequest.request = some q
  rw [← List.head?_map, meterIssue_eq, modbusStartTx, startTx_requests, startTx_requests]
  rfl

/-- What a driver's tick does to the sources: new values come from the meter. -/
structure SourcedStep (s s' : Stack F) : Prop where
  type : s'.meter.type = s.meter.type
  table : s'.meter.currentMeter = s.meter.currentMeter
  slave : s'.meter.slaveAddress = s.meter.slaveAddress
  newest : ∀ q, s'.awaited = some q → s'.newest = some q
  responses : ∀ p ∈ s.responses, p ∈ s'.responses
  values : ∀ name ∈ s.meter.type.measured,
    s'.registers name = s.registers name ∨ s'.FromMeter name
  failed : s.meter.type.driver ≠ some .eltako → s.rs485.responseFailed = true →
    ∀ name ∈ s.meter.type.measured, s'.registers name = s.registers name

omit [CFloat F] in
theorem awaited_of_driver {driver : ScanDriver}
    (hdriver : s.meter.type.driver = some driver.meterDriver) :
    s.awaited = scanOutstanding driver s := by
  cases driver <;> simp only [Stack.awaited, hdriver, ScanDriver.meterDriver]

omit [CFloat F] in
theorem awaited_of_scan (driver : ScanDriver)
    (hdriver : s.meter.type.driver = some driver.meterDriver) (hstate : s.meter.state ≠ 1) :
    s.awaited = none := by
  rw [awaited_of_driver hdriver, scanOutstanding, if_neg hstate]

/-- Nothing is stored. -/
theorem SourcedStep.of_kept (htype : s'.meter.type = s.meter.type)
    (htable : s'.meter.currentMeter = s.meter.currentMeter)
    (hslave : s'.meter.slaveAddress = s.meter.slaveAddress)
    (hnewest : ∀ q, s'.awaited = some q → s'.newest = some q)
    (hresponses : ∀ p ∈ s.responses, p ∈ s'.responses)
    (hregisters : s'.registers = s.registers) : SourcedStep s s' :=
  ⟨htype, htable, hslave, hnewest, hresponses, fun _ _ => Or.inl (congrFun hregisters _),
    fun _ _ _ _ => congrFun hregisters _⟩

/-- No response is awaited any longer. -/
theorem SourcedStep.of_values (htype : s'.meter.type = s.meter.type)
    (htable : s'.meter.currentMeter = s.meter.currentMeter)
    (hslave : s'.meter.slaveAddress = s.meter.slaveAddress) (hawaited : s'.awaited = none)
    (hresponses : ∀ p ∈ s.responses, p ∈ s'.responses)
    (hvalues : ∀ name ∈ s.meter.type.measured,
      s'.registers name = s.registers name ∨ s'.FromMeter name)
    (hfailed : s.rs485.responseFailed = true →
      ∀ name ∈ s.meter.type.measured, s'.registers name = s.registers name) :
    SourcedStep s s' := by
  refine ⟨htype, htable, hslave, fun q hq => ?_, hresponses, hvalues, fun _ => hfailed⟩
  rw [hawaited] at hq
  cases hq

theorem SourcedStep.of_unawaited (htype : s'.meter.type = s.meter.type)
    (htable : s'.meter.currentMeter = s.meter.currentMeter)
    (hslave : s'.meter.slaveAddress = s.meter.slaveAddress) (hawaited : s'.awaited = none)
    (hresponses : ∀ p ∈ s.responses, p ∈ s'.responses)
    (hregisters : s'.registers = s.registers) : SourcedStep s s' :=
  .of_values htype htable hslave hawaited hresponses (fun _ _ => Or.inl (congrFun hregisters _))
    fun _ _ _ => congrFun hregisters _

/-- One value has been stored. -/
theorem stored_values {definition : MeterDefinition} {address : RegisterAddress} {value : F}
    {p : Response} {registers : MeterRegisterSet F}
    (htype : s'.meter.type = s.meter.type)
    (hslave : s'.meter.slaveAddress = s.meter.slaveAddress)
    (hdefinition : definition ∈ s.meter.type.readDefinitions)
    (haddress : definition.registerSetAddress = some address) (hp : p ∈ s'.responses)
    (hsaid : p.Says s.meter.slaveAddress definition value) (hold : registers = s.registers)
    (hstored : ∀ name ∈ s.meter.type.measured, s'.registers name =
      if address = .registerSet name then value else registers name) :
    ∀ name ∈ s.meter.type.measured, s'.registers name = s.registers name ∨ s'.FromMeter name := by
  intro name hname
  have hvalue := hstored name hname
  split_ifs at hvalue with hthis
  · subst hthis
    refine Or.inr (Or.inr ⟨definition, ?_, ?_, p, hp, ?_⟩)
    · rw [htype]
      exact hdefinition
    · simp only [MeterDefinition.name?, haddress]
    · rw [hvalue, hslave]
      exact hsaid
  · exact Or.inl (hvalue.trans (congrFun hold name))

omit [CFloat F] in
theorem store_registers (address : RegisterAddress) (value : F) (s : Stack F)
    (name : RegisterName) : (s.store address value).registers name =
      if address = .registerSet name then value else s.registers name := by
  cases address with
  | registerSet stored =>
    show Function.update s.registers stored value name = _
    by_cases hname : name = stored
    · subst hname
      rw [Function.update_self, if_pos rfl]
    · rw [Function.update_of_ne hname, if_neg fun h => hname (RegisterAddress.registerSet.inj h).symm]
  | _ => rfl

omit [CFloat F] in
/-- A definition that is stored is one of the table. -/
theorem definition_mem {position : ℕ} {address : RegisterAddress}
    (htable : s.meter.currentMeter = s.meter.type.table)
    (h : (s.meter.definition position).registerSetAddress = some address) :
    s.meter.definition position ∈ s.meter.type.table.getD [] := by
  rw [Meter.definition, htable] at h ⊢
  rw [List.getD_eq_getElem?_getD] at h ⊢
  cases hget : (s.meter.type.table.getD [])[position]? with
  | none =>
    rw [hget] at h
    cases h
  | some definition => exact List.mem_of_getElem? hget

omit [CFloat F] in
theorem table_subset {type : MeterType} {definition : MeterDefinition}
    (h : definition ∈ type.table.getD []) : definition ∈ type.readDefinitions :=
  List.mem_append_left _ h

theorem scanRead_sourced (driver : ScanDriver) (h : Sourced s)
    (hdriver : s.meter.type.driver = some driver.meterDriver) (hstate : s.meter.state = 1)
    (hsound : ∀ q, s.awaited = some q →
      meterIsResponseReady modbusFcReadInputRegisters s.rs485 = true → GoodTake q s)
    (hread : meterScanRead driver env s = some s') : SourcedStep s s' := by
  have htable := h.table (by rw [hdriver]; exact Option.some_ne_none _)
  rcases meterScanRead_cases hread with ⟨-, rfl⟩ |
    ⟨data, s₁, value, address, hresponse, hvalue, haddress, hscan⟩
  · exact .of_kept rfl rfl rfl h.newest (fun _ hp => hp) rfl
  obtain ⟨hready, htaken, -⟩ := meterGetReadRegistersResponse_some hresponse
  have hawaited : s.awaited = some (s.meter.readRequest (driver.position s)) := by
    rw [awaited_of_driver hdriver, scanOutstanding, if_pos hstate]
  have hgood := hsound _ hawaited hready
  have hok : s.rs485.responseFailed = false := by
    -- these drivers do not look for a failure
    rw [← Bool.not_eq_true]
    intro hfailed
    rcases hgood.failed hfailed with ⟨hiskra, -⟩ | ⟨heltako, -⟩
    · rw [hdriver] at hiskra
      cases driver <;> cases hiskra
    · rw [hdriver] at heltako
      cases driver <;> cases heltako
  obtain ⟨p, hlog, hrequest, hanswer, hdelivered⟩ :=
    taken_delivered (h.newest _ hawaited) hgood hresponse hok
  have hsaid : p.Says s.meter.slaveAddress (s.meter.definition (driver.position s)) value :=
    says_single hrequest hanswer hdelivered hvalue
  have hdefinition := table_subset (definition_mem htable haddress)
  have hshape : s'.meter.type = s₁.meter.type ∧ s'.meter.currentMeter = s₁.meter.currentMeter ∧
      s'.meter.slaveAddress = s₁.meter.slaveAddress ∧ s'.meter.state ≠ 1 ∧ s'.responses = s₁.responses ∧
      ∀ name ∉ resettableRegisters, s'.registers name = (s₁.store address value).registers name := by
    rcases hscan with ⟨-, b, position, time, callback, rfl⟩ | ⟨-, position, registers, once, calls, rfl, hold⟩
    · cases driver <;> cases address <;>
        exact ⟨rfl, rfl, rfl, Nat.zero_ne_one, rfl, fun _ _ => rfl⟩
    · have htwo : s.meter.state + 1 ≠ 1 := by omega
      cases address <;> exact ⟨rfl, rfl, rfl, htwo, rfl, hold⟩
  obtain ⟨htype, htable', hslave, hstate', hresponses, hregisters⟩ := hshape
  have htype' := htype.trans htaken.type
  have hawaited' : s'.awaited = none := by
    rw [awaited_of_driver (htype' ▸ hdriver), scanOutstanding, if_neg hstate']
  have hslave' := hslave.trans htaken.slaveAddress
  refine .of_values htype' (htable'.trans htaken.currentMeter) hslave' hawaited'
    (fun r hr => ?_) ?_ ?_
  · rw [hresponses, hlog]
    exact List.mem_cons_of_mem p hr
  · refine stored_values htype' hslave' hdefinition haddress (p := p) ?_ hsaid htaken.registers ?_
    · rw [hresponses, hlog]
      exact List.mem_cons_self
    · intro name hname
      rw [hregisters name (resettable_not_measured _ hname), store_registers]
  · intro hfailed
    rw [hok] at hfailed
    cases hfailed

theorem scanRequest_sourced (driver : ScanDriver) (now : ℕ)
    (hdriver : s.meter.type.driver = some driver.meterDriver) (hstate : s.meter.state = 0) :
    SourcedStep s (meterScanRequest driver now s) := by
  have hstep (readFast : Bool) : SourcedStep s (meterScanRegister driver readFast now s) := by
    let position := if readFast then s.meter.registerFastPosition else s.meter.registerFullPosition
    have hdriver' : (meterScanRegister driver readFast now s).meter.type.driver =
        some driver.meterDriver := by
      cases driver <;> exact hdriver
    have hnewest : (meterScanRegister driver readFast now s).newest =
        some (s.meter.readRequest position) := by
      cases driver <;> exact issue_newest now _ s
    have hawaited : (meterScanRegister driver readFast now s).awaited =
        some (s.meter.readRequest position) := by
      rw [awaited_of_driver hdriver', scanOutstanding, if_pos]
      · cases driver <;> rfl
      · cases driver <;> exact congrArg (· + 1) hstate
    refine .of_kept ?_ ?_ ?_ ?_ ?_ ?_
    · cases driver <;> rfl
    · cases driver <;> rfl
    · cases driver <;> rfl
    · intro q hq
      rw [hnewest, ← hawaited, hq]
    · cases driver <;> exact fun _ hp => hp
    · cases driver <;> rfl
  exact hstep _

theorem genericTick_sourced (h : Sourced s) (hdriver : s.meter.type.driver = some .generic)
    (hsound : ∀ q, s.awaited = some q →
      meterIsResponseReady modbusFcReadInputRegisters s.rs485 = true → GoodTake q s)
    (htick : meterGenericTick env s = some s') : SourcedStep s s' := by
  rcases meterGenericTick_cases htick with ⟨hstate, rfl⟩ | ⟨hstate, hread⟩ | ⟨-, phases, rfl⟩
  · exact scanRequest_sourced .generic env.now hdriver hstate
  · exact scanRead_sourced .generic h hdriver hstate hsound hread
  · exact .of_unawaited rfl rfl rfl (awaited_of_scan .generic hdriver Nat.zero_ne_one)
      (fun _ hp => hp) rfl

theorem eastronTick_sourced (h : Sourced s) (hdriver : s.meter.type.driver = some .eastron)
    (hsound : ∀ q, s.awaited = some q →
      meterIsResponseReady modbusFcReadInputRegisters s.rs485 = true → GoodTake q s)
    (htick : meterEastronTick env s = some s') : SourcedStep s s' := by
  rcases meterEastronTick_cases htick with ⟨hstate, rfl⟩ | ⟨hstate, hread⟩ | hmove
  · exact scanRequest_sourced .eastron env.now hdriver hstate
  · exact scanRead_sourced .eastron h hdriver hstate hsound hread
  · have hnone (n : ℕ) (hn : n ≠ 1) {t : Stack F} (htype : t.meter.type = s.meter.type)
        (hstate : t.meter.state = n) : t.awaited = none :=
      awaited_of_scan .eastron (htype ▸ hdriver) (hstate ▸ hn)
    cases hmove with
    | wait fc hfc hstate hready => exact .of_kept rfl rfl rfl h.newest (fun _ hp => hp) rfl
    | take fc phases isNew read hstate hready htaken =>
      exact .of_unawaited htaken.type htaken.currentMeter htaken.slaveAddress
        (hnone (s.meter.state + 1) (by omega) htaken.type rfl)
        htaken.responses htaken.registers
    | restart phases hstate =>
      exact .of_unawaited rfl rfl rfl (hnone 0 (by decide) rfl rfl) (fun _ hp => hp) rfl
    | readSystemType hstate =>
      exact .of_unawaited rfl rfl rfl (hnone 3 (by decide) rfl rfl) (fun _ hp => hp) rfl
    | writePassword hstate =>
      exact .of_unawaited rfl rfl rfl (hnone 5 (by decide) rfl rfl) (fun _ hp => hp) rfl
    | writeSystemType systemType hstate hphases =>
      exact .of_unawaited rfl rfl rfl (hnone 7 (by decide) rfl rfl) (fun _ hp => hp) rfl

/-! ### The Eltako driver -/

theorem Sourced.of_step (h : Sourced s) (hdriver : s.meter.type.driver ≠ none)
    (hstep : SourcedStep s s') (hblock : s'.meter.type.driver = some .eltako →
      s'.meter.state = 2 ∨ s'.BlockSeen → s'.BlockFilled) : Sourced s' where
  table _ := by
    rw [hstep.table, hstep.type]
    exact h.table hdriver
  slave _ := by
    rw [hstep.slave, hstep.type]
    exact h.slave hdriver
  newest := hstep.newest
  block := hblock
  unread hnone := absurd (hstep.type ▸ hnone) hdriver
  values name hname := by
    have hname' : name ∈ s.meter.type.measured := hstep.type ▸ hname
    rcases hstep.values name hname' with hsame | hnew
    · rw [Stack.FromMeter, hsame, hstep.type, hstep.slave]
      rcases h.values name hname' with hnan | ⟨definition, hdefinition, hthis, p, hp, hsaid⟩
      · exact Or.inl hnan
      · exact Or.inr ⟨definition, hdefinition, hthis, p, hstep.responses p hp, hsaid⟩
    · exact hnew

/-- The tables of the Eltako meters lie in the one block that is read. -/
theorem eltako_block {type : MeterType} (hdriver : type.driver = some .eltako) :
    ((type.table.getD []).getD 0 stopMarker).registerAddress = 1 ∧
      ∀ definition ∈ type.table.getD [], definition.registerAddress ≠ 0 →
        definition.registerDataType.size = 2 ∧
        definition.registerAddress = 1 + 2 * ((definition.registerAddress - 1) / 2) ∧
        (definition.registerAddress - 1) / 2 < meterEltakoRegisterCount / 2 := by
  cases type with
  | dsz15Dzmod | dsz16Dze => decide +kernel
  | _ => cases hdriver

omit [CFloat F] in
theorem awaited_eltako (hdriver : s.meter.type.driver = some .eltako) :
    s.awaited = if s.meter.state = 1 then some s.meter.eltakoRequest else none := by
  simp only [Stack.awaited, hdriver]

omit [CFloat F] in
/-- The buffer is untouched and no response has come. -/
theorem block_of_kept (hrequest : s'.meter.eltakoRequest = s.meter.eltakoRequest)
    (hslave : s'.meter.slaveAddress = s.meter.slaveAddress)
    (hresponses : s'.responses = s.responses)
    (hdata : s'.statics.eltakoData = s.statics.eltakoData)
    (hstate : s'.meter.state = 2 → s.meter.state = 2)
    (h : s.meter.state = 2 ∨ s.BlockSeen → s.BlockFilled) :
    s'.meter.state = 2 ∨ s'.BlockSeen → s'.BlockFilled := by
  rw [Stack.BlockSeen, Stack.BlockFilled, hrequest, hresponses, hdata, hslave]
  exact fun hblock => h (hblock.imp_left hstate)

/-- Where nothing is stored or taken. -/
theorem Sourced.eltako_kept (h : Sourced s) (hdriver : s.meter.type.driver = some .eltako)
    (htype : s'.meter.type = s.meter.type) (htable : s'.meter.currentMeter = s.meter.currentMeter)
    (hslave : s'.meter.slaveAddress = s.meter.slaveAddress)
    (hawaited : s'.meter.state ≠ 1) (hresponses : s'.responses = s.responses)
    (hdata : s'.statics.eltakoData = s.statics.eltakoData)
    (hstate : s'.meter.state = 2 → s.meter.state = 2)
    (hregisters : ∀ name ∈ s.meter.type.measured, s'.registers name = s.registers name) :
    Sourced s' := by
  have hdriver' : s'.meter.type.driver = some .eltako := htype ▸ hdriver
  have hrequest : s'.meter.eltakoRequest = s.meter.eltakoRequest := by
    simp only [Meter.eltakoRequest, Meter.definition, hslave, htable]
  refine h.of_step (by rw [hdriver]; exact Option.some_ne_none _) ⟨htype, htable, hslave,
    fun q hq => ?_, fun p hp => hresponses ▸ hp, fun name hname => Or.inl (hregisters name hname),
    fun hne => absurd hdriver hne⟩
    fun _ => block_of_kept hrequest hslave hresponses hdata hstate (h.block hdriver)
  rw [awaited_eltako hdriver', if_neg hawaited] at hq
  cases hq

theorem eltakoTake_sourced {data : ℕ → BitVec 32} {s₁ : Stack F} (h : Sourced s)
    (hdriver : s.meter.type.driver = some .eltako) (hstate : s.meter.state = 1)
    (hsound : ∀ q, s.awaited = some q →
      meterIsResponseReady modbusFcReadInputRegisters s.rs485 = true → GoodTake q s)
    (hresponse : meterGetReadRegistersResponse env.now modbusFcReadInputRegisters
      s.statics.eltakoData meterEltakoRegisterCount s = some (data, s₁)) (timeSinceRead : ℕ) :
    Sourced { s₁ with
      statics.eltakoData := data
      statics.eltakoTimeSinceRead := timeSinceRead
      statics.eltakoDataNew := true
      statics.eltakoDataI := 0
      meter.state := 2 } := by
  obtain ⟨hready, htaken, hresult⟩ := meterGetReadRegistersResponse_some hresponse
  have hawaited : s.awaited = some s.meter.eltakoRequest := by
    rw [awaited_eltako hdriver, if_pos hstate]
  have hgood := hsound _ hawaited hready
  have hdriver' : s₁.meter.type.driver = some .eltako := htaken.type ▸ hdriver
  have hrequest : s₁.meter.eltakoRequest = s.meter.eltakoRequest := by
    simp only [Meter.eltakoRequest, Meter.definition, htaken.slaveAddress, htaken.currentMeter]
  refine h.of_step (by rw [hdriver]; exact Option.some_ne_none _)
    ⟨htaken.type, htaken.currentMeter, htaken.slaveAddress, fun q hq => ?_, htaken.responses,
      fun name _ => Or.inl (congrFun htaken.registers name), fun hne => absurd hdriver hne⟩
    fun _ _ => ?_
  · rw [awaited_eltako (by exact hdriver')] at hq
    cases hq
  · rcases hresult with ⟨hfailed, hdata, -⟩ | ⟨hok, -, -⟩
    · -- the buffer still holds the block of an earlier response
      have hseen : s.BlockSeen := by
        rcases hgood.failed hfailed with ⟨hiskra, -⟩ | ⟨-, hseen⟩
        · rw [hdriver] at hiskra
          cases hiskra
        · exact hseen
      obtain ⟨p, hp, hthis, hanswer, old, hdelivered⟩ := h.block hdriver (Or.inr hseen)
      rw [← hdata] at hdelivered
      exact ⟨p, htaken.responses p hp, hthis.trans hrequest.symm, htaken.slaveAddress.symm ▸ hanswer,
        old, hdelivered⟩
    · obtain ⟨p, hlog, hthis, hanswer, hdelivered⟩ :=
        taken_delivered (h.newest _ hawaited) hgood hresponse hok
      refine ⟨p, ?_, hthis.trans hrequest.symm, htaken.slaveAddress.symm ▸ hanswer,
        s.statics.eltakoData, hdelivered⟩
      show p ∈ s₁.responses
      rw [hlog]
      exact List.mem_cons_self

theorem eltakoStore_sourced {value : F} {address : RegisterAddress} (h : Sourced s)
    (hdriver : s.meter.type.driver = some .eltako) (hstate : s.meter.state = 2)
    (hreg : (s.meter.definition s.statics.eltakoDataI).registerAddress ≠ 0)
    (hvalue : meterDecode (s.statics.eltakoData
      (((s.meter.definition s.statics.eltakoDataI).registerAddress - 1) / 2))
      (s.meter.definition s.statics.eltakoDataI) = some value)
    (haddress : (s.meter.definition s.statics.eltakoDataI).registerSetAddress = some address) :
    Sourced { s.store address value with statics.eltakoDataI := s.statics.eltakoDataI + 1 } := by
  have hknown : s.meter.type.driver ≠ none := by
    rw [hdriver]
    exact Option.some_ne_none _
  have htable := h.table hknown
  obtain ⟨hstart, hblock⟩ := eltako_block hdriver
  have hmem := definition_mem htable haddress
  obtain ⟨hsize, hposition, hin⟩ := hblock _ hmem hreg
  obtain ⟨p, hp, hrequest, hanswer, old, hdelivered⟩ := h.block hdriver (Or.inl hstate)
  have hfirst : (s.meter.definition 0).registerAddress = 1 := by
    rw [Meter.definition, htable]
    exact hstart
  rw [Meter.eltakoRequest, hfirst] at hrequest
  -- the value is decoded from the block at the offset of its register
  have hsaid : p.Says s.meter.slaveAddress (s.meter.definition s.statics.eltakoDataI) value :=
    says_block hrequest hanswer hdelivered (by decide) hin hsize hposition hvalue
  have hkept : (s.store address value).meter = s.meter ∧
      (s.store address value).statics = s.statics ∧
      (s.store address value).responses = s.responses := by
    cases address <;> exact ⟨rfl, rfl, rfl⟩
  obtain ⟨hmeter, hstatics, hresponses⟩ := hkept
  refine h.of_step hknown ⟨congrArg Meter.type hmeter, congrArg Meter.currentMeter hmeter,
    congrArg Meter.slaveAddress hmeter, fun q hq => ?_, fun r hr => ?_, ?_, fun hne => absurd hdriver hne⟩ fun _ => ?_
  · have hdriver' : (s.store address value).meter.type.driver = some .eltako := hmeter ▸ hdriver
    have hstate' : (s.store address value).meter.state ≠ 1 := by
      rw [hmeter]
      omega
    rw [awaited_eltako (by exact hdriver'), if_neg hstate'] at hq
    cases hq
  · show r ∈ (s.store address value).responses
    rw [hresponses]
    exact hr
  · refine stored_values (congrArg Meter.type hmeter) (congrArg Meter.slaveAddress hmeter)
      (table_subset hmem) haddress
      (p := p) ?_ hsaid rfl fun name _ => store_registers address value s name
    show p ∈ (s.store address value).responses
    rw [hresponses]
    exact hp
  · have hdata : (s.store address value).statics.eltakoData = s.statics.eltakoData :=
      congrArg MeterStatics.eltakoData hstatics
    exact block_of_kept (congrArg Meter.eltakoRequest hmeter)
      (congrArg Meter.slaveAddress hmeter) hresponses hdata
      (fun _ => hstate) (h.block hdriver)

theorem eltakoTick_sourced (h : Sourced s) (hdriver : s.meter.type.driver = some .eltako)
    (hsound : ∀ q, s.awaited = some q →
      meterIsResponseReady modbusFcReadInputRegisters s.rs485 = true → GoodTake q s)
    (htick : meterEltakoTick env s = some s') : Sourced s' := by
  have hthree : (3 : ℕ) ≠ 1 := by decide
  cases meterEltakoTick_cases htick with
  | request hstate =>
    refine h.of_step (by rw [hdriver]; exact Option.some_ne_none _) (.of_kept rfl rfl rfl ?_
      (fun _ hp => hp) rfl) fun _ => ?_
    · intro q hq
      rw [awaited_eltako (by exact hdriver), if_pos rfl] at hq
      exact (issue_newest env.now s.meter.eltakoRequest s).trans hq
    · exact block_of_kept (s := s) rfl rfl rfl rfl (fun hone => by cases hone) (h.block hdriver)
  | wait hstate hready => exact h
  | take hstate hresponse =>
    exact eltakoTake_sourced h hdriver hstate hsound hresponse (systemTimerGetMs env.now)
  | store value address hstate hnew hreg hvalue haddress =>
    exact eltakoStore_sourced h hdriver hstate hreg hvalue haddress
  | stored phases hstate hnew =>
    exact h.eltako_kept hdriver rfl rfl rfl hthree rfl rfl (fun _ => hstate) fun _ _ => rfl
  | skip hstate hnew =>
    exact h.eltako_kept hdriver rfl rfl rfl hthree rfl rfl (fun _ => hstate) fun _ _ => rfl
  | restart hstate =>
    exact h.eltako_kept hdriver rfl rfl rfl Nat.zero_ne_one rfl rfl (fun htwo => by cases htwo)
      fun _ _ => rfl
  | calculate hstate htime hnew hcalculate =>
    -- what is calculated from other values is not measured
    have hregisters : ∀ name ∈ s.meter.type.measured, _ :=
      fun name hname => eltako_registers hcalculate hname
    obtain ⟨registers, value, once, calls, rfl⟩ := calculated_eltako hcalculate
    exact h.eltako_kept hdriver rfl rfl rfl (hstate ▸ hthree) rfl rfl id hregisters
  | calculated hstate htime =>
    have hregisters : ∀ name ∈ s.meter.type.measured,
        (meterHandleRegisterSetReadDone s).registers name = s.registers name :=
      fun name hname => readDone_registers (resettable_not_measured _ hname)
    rw [meterHandleRegisterSetFastReadDone, readDone_eq]
    generalize (meterHandleRegisterSetReadDone s).registers = registers at hregisters ⊢
    exact h.eltako_kept hdriver rfl rfl rfl (hstate ▸ hthree) rfl rfl id hregisters
  | rest hstate htime => exact h
  | default hstate =>
    exact h.eltako_kept hdriver rfl rfl rfl Nat.zero_ne_one rfl rfl (fun htwo => by cases htwo)
      fun _ _ => rfl

/-! ### The Iskra driver -/

omit [CFloat F] in
theorem awaited_fast (hdriver : s.meter.type.driver = some .iskra)
    (hactive : s.iskra.fastActive = true) : s.awaited = iskraFastOutstanding s := by
  simp only [Stack.awaited, hdriver, hactive, if_true]

omit [CFloat F] in
theorem awaited_slow (hdriver : s.meter.type.driver = some .iskra)
    (hactive : s.iskra.fastActive = false) :
    s.awaited = if s.meter.state = 1 then some s.meter.iskraSlowRequest else none := by
  simp only [Stack.awaited, hdriver, hactive, Bool.false_eq_true, if_false]

/-- Each cell of a block is stored as the response has it. -/
theorem storedAll_values {data : ℕ → BitVec 32} {cells : List (ℕ × MeterDefinition)}
    {p : Response} {slave : UInt8}
    (hsaid : ∀ cell ∈ cells, ∀ value : F,
      meterDecode (data cell.1) cell.2 = some value → p.Says slave cell.2 value)
    (h : StoredAll data cells s s') (name : RegisterName) :
    s'.registers name = s.registers name ∨
      ∃ cell ∈ cells, cell.2.name? = some name ∧ p.Says slave cell.2 (s'.registers name) := by
  induction h with
  | nil => exact Or.inl rfl
  | @cons s s' i definition rest value address hvalue haddress hrest ih =>
    rcases ih fun cell hcell => hsaid cell (List.mem_cons_of_mem _ hcell) with
      hsame | ⟨cell, hcell, hname, hvalue'⟩
    · rw [store_registers] at hsame
      split_ifs at hsame with hthis
      · subst hthis
        refine Or.inr ⟨(i, definition), List.mem_cons_self, ?_, ?_⟩
        · simp only [MeterDefinition.name?, haddress]
        · rw [hsame]
          exact hsaid (i, definition) List.mem_cons_self value hvalue
      · exact Or.inl hsame
    · exact Or.inr ⟨cell, List.mem_cons_of_mem _ hcell, hname, hvalue'⟩

/-- A block of the fast cycle, from `start` on. -/
def FastBlock (start count : ℕ) (cells : List (ℕ × MeterDefinition)) : Prop :=
  ∀ cell ∈ cells, cell.2 ∈ meterWm3m4cFast ∧ cell.2.registerDataType.size = 2 ∧
    cell.2.registerAddress = start + 2 * cell.1 ∧ cell.1 < count / 2

theorem fastBlock_voltages :
    FastBlock meterIskraFastRegVfStart meterIskraFastRegVfCount iskraVoltageCells := by
  unfold FastBlock
  decide +kernel

theorem fastBlock_currents :
    FastBlock meterIskraFastRegIStart meterIskraFastRegICount iskraCurrentCells := by
  unfold FastBlock
  decide +kernel

/-- The response to a block of the fast cycle, stored or not. -/
theorem fastTake_values {start : ℕ} {cells : List (ℕ × MeterDefinition)} {s₁ s₂ : Stack F}
    {data : ℕ → BitVec 32} (h : Sourced s) (hdriver : s.meter.type.driver = some .iskra)
    (hawaited : s.awaited = some
      (.readRegisters modbusFcReadInputRegisters s.meter.slaveAddress start count))
    (hgood : GoodTake
      (.readRegisters modbusFcReadInputRegisters s.meter.slaveAddress start count) s)
    (hcount : count ≠ 1) (hblock : FastBlock start count cells)
    (hresponse : meterGetReadRegistersResponse env.now modbusFcReadInputRegisters env.garbage
      count s = some (data, s₁))
    (hstored : s.rs485.responseFailed = true ∧ s₂ = s₁ ∨
      s.rs485.responseFailed = false ∧ StoredAll data cells s₁ s₂) :
    (∀ name ∈ s.meter.type.measured, s₂.registers name = s.registers name ∨ s₂.FromMeter name) ∧
      (s.rs485.responseFailed = true → s₂.registers = s.registers) := by
  obtain ⟨-, htaken, -⟩ := meterGetReadRegistersResponse_some hresponse
  refine ⟨?_, fun hfailed => ?_⟩
  rotate_left
  · rcases hstored with ⟨-, rfl⟩ | ⟨hok, -⟩
    · exact htaken.registers
    · rw [hok] at hfailed
      cases hfailed
  intro name _
  rcases hstored with ⟨-, rfl⟩ | ⟨hok, hall⟩
  · exact Or.inl (congrFun htaken.registers name)
  · obtain ⟨p, hlog, hrequest, hanswer, hdelivered⟩ :=
      taken_delivered (h.newest _ hawaited) hgood hresponse hok
    -- every cell of the block lies within the response
    have hsaid : ∀ cell ∈ cells, ∀ value : F,
        meterDecode (data cell.1) cell.2 = some value →
          p.Says s.meter.slaveAddress cell.2 value := by
      intro cell hcell value hvalue
      obtain ⟨-, hsize, haddress, hin⟩ := hblock cell hcell
      exact says_block hrequest hanswer hdelivered hcount hin hsize haddress hvalue
    obtain ⟨-, hmeter, -, -, -, -, -, hresponses⟩ := storedAll_kept hall
    -- a register was written by one of the cells, or by none
    rcases storedAll_values hsaid hall name with hsame | ⟨cell, hcell, hname, hvalue⟩
    · exact Or.inl (hsame.trans (congrFun htaken.registers name))
    · refine Or.inr (Or.inr ⟨cell.2, ?_, hname, p, ?_, ?_⟩)
      · rw [hmeter, htaken.type, MeterType.readDefinitions, if_pos hdriver]
        exact List.mem_append_right _ (hblock cell hcell).1
      · rw [hresponses, hlog]
        exact List.mem_cons_self
      · rw [hmeter, htaken.slaveAddress]
        exact hvalue

theorem iskraFast_sourced (h : Sourced s) (hdriver : s.meter.type.driver = some .iskra)
    (hinv : IskraInv s) (hsound : ∀ q, s.awaited = some q →
      meterIsResponseReady modbusFcReadInputRegisters s.rs485 = true → GoodTake q s)
    (hmove : IskraFastMove env s s') : SourcedStep s s' := by
  cases hmove with
  | requestVoltages hfast =>
    refine .of_kept rfl rfl rfl (fun q hq => ?_) (fun _ hp => hp) rfl
    rw [awaited_fast (by exact hdriver) rfl] at hq
    exact (issue_newest env.now s.meter.iskraVoltageRequest s).trans hq
  | wait hfast hready => exact .of_kept rfl rfl rfl h.newest (fun _ hp => hp) rfl
  | @takeVoltages s₁ s₂ data phases time hfast hresponse hstored =>
    have hactive := (hinv.fastActive (by omega)).1
    obtain ⟨hready, htaken, -⟩ := meterGetReadRegistersResponse_some hresponse
    obtain ⟨-, hmeter, hactive', -, -, -, -, hlog⟩ := tookCells_kept hstored
    have hawaited : s.awaited = some s.meter.iskraVoltageRequest := by
      rw [awaited_fast hdriver hactive]
      simp only [iskraFastOutstanding, hfast]
    obtain ⟨hvalues, hfailed⟩ := fastTake_values h hdriver hawaited (hsound _ hawaited hready)
      (by decide) fastBlock_voltages hresponse hstored
    have htype : s₂.meter.type = s.meter.type := (congrArg Meter.type hmeter).trans htaken.type
    have hactive₂ : s₂.iskra.fastActive = true :=
      hactive'.trans ((congrArg MeterIskra.fastActive htaken.iskra).trans hactive)
    -- nothing is awaited between the two requests of the cycle
    have hnone {t : Stack F} (htype' : t.meter.type = s₂.meter.type)
        (hfast' : t.iskra.fastActive = s₂.iskra.fastActive) (htwo : t.iskra.fastState = 2) :
        t.awaited = none := by
      rw [awaited_fast (by rw [htype', htype, hdriver]) (hfast'.trans hactive₂)]
      simp only [iskraFastOutstanding, htwo]
    refine .of_values htype ((congrArg Meter.currentMeter hmeter).trans htaken.currentMeter)
      ((congrArg Meter.slaveAddress hmeter).trans htaken.slaveAddress)
      (hnone rfl rfl rfl) (fun p hp => ?_) hvalues fun hf name _ => congrFun (hfailed hf) name
    show p ∈ s₂.responses
    rw [hlog]
    exact htaken.responses p hp
  | requestCurrents hfast =>
    have hactive := (hinv.fastActive (by omega)).1
    refine .of_kept rfl rfl rfl (fun q hq => ?_) (fun _ hp => hp) rfl
    rw [awaited_fast (by exact hdriver) (by exact hactive)] at hq
    exact (issue_newest env.now s.meter.iskraCurrentRequest s).trans hq
  | @takeCurrents s₁ s₂ data hfast hresponse hstored =>
    obtain ⟨hactive, hstate⟩ := hinv.fastActive (by omega)
    obtain ⟨hready, htaken, -⟩ := meterGetReadRegistersResponse_some hresponse
    obtain ⟨-, hmeter, -, -, -, -, -, hlog⟩ := tookCells_kept hstored
    have hawaited : s.awaited = some s.meter.iskraCurrentRequest := by
      rw [awaited_fast hdriver hactive]
      simp only [iskraFastOutstanding, hfast]
    obtain ⟨hvalues, hfailed⟩ := fastTake_values h hdriver hawaited (hsound _ hawaited hready)
      (by decide) fastBlock_currents hresponse hstored
    have htype : s₂.meter.type = s.meter.type := (congrArg Meter.type hmeter).trans htaken.type
    have hstate₂ : s₂.meter.state = 0 :=
      (congrArg Meter.state hmeter).trans (htaken.state.trans hstate)
    have hnone {t : Stack F} (htype' : t.meter.type = s₂.meter.type)
        (hfast' : t.iskra.fastActive = false) (hstate' : t.meter.state = s₂.meter.state) :
        t.awaited = none := by
      rw [awaited_slow (by rw [htype', htype, hdriver]) hfast', hstate', hstate₂,
        if_neg Nat.zero_ne_one]
    refine .of_values htype ((congrArg Meter.currentMeter hmeter).trans htaken.currentMeter)
      ((congrArg Meter.slaveAddress hmeter).trans htaken.slaveAddress)
      (hnone rfl rfl rfl) (fun p hp => ?_) hvalues fun hf name _ => congrFun (hfailed hf) name
    show p ∈ s₂.responses
    rw [hlog]
    exact htaken.responses p hp
  | reset hfast =>
    rcases hinv with ⟨-, hzero⟩ | ⟨-, -, hstate⟩
    · omega
    · omega

/-- The register that the slow cycle has read, and that the response was not a failure. -/
theorem iskraTake_values {address : RegisterAddress} {value : F} {s₁ : Stack F}
    {data : ℕ → BitVec 32} (h : Sourced s) (hdriver : s.meter.type.driver = some .iskra)
    (hactive : s.iskra.fastActive = false) (hstate : s.meter.state = 1)
    (hsound : ∀ q, s.awaited = some q →
      meterIsResponseReady modbusFcReadInputRegisters s.rs485 = true → GoodTake q s)
    (hresponse : meterGetReadRegistersResponse env.now modbusFcReadInputRegisters env.garbage
      (meterGetRegisterSize s.meter s.meter.registerFullPosition) s = some (data, s₁))
    (hvalue : meterDecode (data 0) (s.meter.definition s.meter.registerFullPosition) = some value)
    (haddress : (s.meter.definition s.meter.registerFullPosition).registerSetAddress =
      some address) :
    (∀ s' : Stack F, s'.meter.type = s.meter.type →
      s'.meter.slaveAddress = s.meter.slaveAddress → s'.responses = s₁.responses →
      (∀ name ∈ s.meter.type.measured,
        s'.registers name = (s₁.store address value).registers name) →
      ∀ name ∈ s.meter.type.measured,
        s'.registers name = s.registers name ∨ s'.FromMeter name) ∧
      s.rs485.responseFailed = false := by
  obtain ⟨hready, htaken, -⟩ := meterGetReadRegistersResponse_some hresponse
  have hawaited : s.awaited = some s.meter.iskraSlowRequest := by
    rw [awaited_slow hdriver hactive, if_pos hstate]
  have hgood := hsound _ hawaited hready
  have hok : s.rs485.responseFailed = false := by
    -- the slow cycle does not look for a failure
    rw [← Bool.not_eq_true]
    intro hfailed
    rcases hgood.failed hfailed with ⟨-, hfast⟩ | ⟨heltako, -⟩
    · rw [hactive] at hfast
      cases hfast
    · rw [hdriver] at heltako
      cases heltako
  refine ⟨fun s' htype hslave hresponses hregisters => ?_, hok⟩
  obtain ⟨p, hlog, hrequest, hanswer, hdelivered⟩ :=
    taken_delivered (h.newest _ hawaited) hgood hresponse hok
  have hsaid : p.Says s.meter.slaveAddress (s.meter.definition s.meter.registerFullPosition) value :=
    says_single hrequest hanswer hdelivered hvalue
  have htable := h.table (by rw [hdriver]; exact Option.some_ne_none _)
  refine stored_values htype hslave (table_subset (definition_mem htable haddress)) haddress
    (p := p) ?_ hsaid htaken.registers fun name hname => ?_
  · rw [hresponses, hlog]
    exact List.mem_cons_self
  · rw [hregisters name hname, store_registers]

omit [CFloat F] in
theorem stored_kept {s₁ : Stack F} (htaken : Taken s s₁) (address : RegisterAddress) (value : F) :
    (s₁.store address value).meter.type = s.meter.type ∧
      (s₁.store address value).meter.currentMeter = s.meter.currentMeter ∧
      (s₁.store address value).meter.slaveAddress = s.meter.slaveAddress ∧
      (s₁.store address value).iskra.fastActive = s.iskra.fastActive ∧
      (s₁.store address value).responses = s₁.responses := by
  refine ⟨?_, ?_, ?_, ?_, store_responses address value s₁⟩
  · rw [store_meter, htaken.type]
  · rw [store_meter, htaken.currentMeter]
  · rw [store_meter, htaken.slaveAddress]
  · rw [store_fastActive, htaken.iskra]

theorem iskraSlow_sourced (h : Sourced s) (hdriver : s.meter.type.driver = some .iskra)
    (hactive : s.iskra.fastActive = false) (hsound : ∀ q, s.awaited = some q →
      meterIsResponseReady modbusFcReadInputRegisters s.rs485 = true → GoodTake q s)
    (hmove : IskraSlowMove env s s') : SourcedStep s s' := by
  have hnone (n : ℕ) (hn : n ≠ 1) {t : Stack F} (htype : t.meter.type = s.meter.type)
      (hfast : t.iskra.fastActive = s.iskra.fastActive) (hstate : t.meter.state = n) :
      t.awaited = none := by
    rw [awaited_slow (htype ▸ hdriver) (hfast.trans hactive), if_neg (hstate ▸ hn)]
  -- the last register of the table ends the round, and changes no more than the others
  have htook {value : F} {address : RegisterAddress} {s₁ t : Stack F} {data : ℕ → BitVec 32}
      (hstate : s.meter.state = 1)
      (hresponse : meterGetReadRegistersResponse env.now modbusFcReadInputRegisters env.garbage
        (meterGetRegisterSize s.meter s.meter.registerFullPosition) s = some (data, s₁))
      (hvalue : meterDecode (data 0) (s.meter.definition s.meter.registerFullPosition) =
        some value)
      (haddress : (s.meter.definition s.meter.registerFullPosition).registerSetAddress =
        some address)
      (htype' : t.meter.type = (s₁.store address value).meter.type)
      (htable' : t.meter.currentMeter = (s₁.store address value).meter.currentMeter)
      (hslave' : t.meter.slaveAddress = (s₁.store address value).meter.slaveAddress)
      (hfast' : t.iskra.fastActive = (s₁.store address value).iskra.fastActive)
      (hstate' : t.meter.state = 2) (hlog' : t.responses = (s₁.store address value).responses)
      (hregisters : ∀ name ∈ s.meter.type.measured,
        t.registers name = (s₁.store address value).registers name) : SourcedStep s t := by
    obtain ⟨-, htaken, -⟩ := meterGetReadRegistersResponse_some hresponse
    obtain ⟨htype, htable, hslave, hfast, hlog⟩ := stored_kept htaken address value
    have hvalues := iskraTake_values h hdriver hactive hstate hsound hresponse hvalue haddress
    apply SourcedStep.of_values
    · exact htype'.trans htype
    · exact htable'.trans htable
    · exact hslave'.trans hslave
    · exact hnone 2 (by decide) (htype'.trans htype) (hfast'.trans hfast) hstate'
    · intro p hp
      rw [hlog', hlog]
      exact htaken.responses p hp
    · exact hvalues.1 t (htype'.trans htype) (hslave'.trans hslave) (hlog'.trans hlog) hregisters
    · exact fun hfailed => absurd (hvalues.2.symm.trans hfailed) Bool.false_ne_true
  cases hmove with
  | request hstate =>
    refine .of_kept rfl rfl rfl (fun q hq => ?_) (fun _ hp => hp) rfl
    rw [awaited_slow (by exact hdriver) (by exact hactive), if_pos rfl] at hq
    exact (issue_newest env.now s.meter.iskraSlowRequest s).trans hq
  | wait q hq hready => exact .of_kept rfl rfl rfl h.newest (fun _ hp => hp) rfl
  | take value address hstate hresponse hvalue haddress =>
    refine htook hstate hresponse hvalue haddress ?_ ?_ ?_ ?_ ?_ ?_ fun _ _ => ?_ <;> rfl
  | takeLast value address hstate hresponse hvalue haddress =>
    obtain ⟨-, htaken, -⟩ := meterGetReadRegistersResponse_some hresponse
    have htype := (stored_kept htaken address value).1
    refine htook hstate hresponse hvalue haddress ?_ ?_ ?_ ?_ ?_ ?_ fun name hname => ?_
    rotate_right
    · rw [iskra_registers (by exact htype ▸ hdriver) (by exact htype ▸ hname)]
      rfl
    all_goals rfl
  | restart hstate =>
    exact .of_unawaited rfl rfl rfl (hnone 0 (by decide) rfl rfl rfl) (fun _ hp => hp) rfl
  | readDone phases hstate =>
    exact .of_unawaited rfl rfl rfl (hnone 3 (by decide) rfl rfl rfl) (fun _ hp => hp) rfl
  | requestStatus register hstate =>
    exact .of_unawaited rfl rfl rfl (hnone (s.meter.state + 1) (by omega) rfl rfl rfl)
      (fun _ hp => hp) rfl
  | takeStatus q measurement signature hstate hq hready htaken =>
    have hfast := congrArg MeterIskra.fastActive htaken.iskra
    exact .of_unawaited htaken.type htaken.currentMeter htaken.slaveAddress
      (hnone (s.meter.state + 1) (by omega) htaken.type hfast rfl) htaken.responses
      htaken.registers

theorem iskraTick_sourced (h : Sourced s) (hdriver : s.meter.type.driver = some .iskra)
    (hinv : IskraInv s) (hsound : ∀ q, s.awaited = some q →
      (∀ tick ∈ env.lentTo s, (s.external tick).newest = some q) ∧
        (meterIsResponseReady modbusFcReadInputRegisters s.rs485 = true → GoodTake q s))
    (htick : meterIskraTick env s = some s') : SourcedStep s s' := by
  have hgood : ∀ q, s.awaited = some q →
      meterIsResponseReady modbusFcReadInputRegisters s.rs485 = true → GoodTake q s :=
    fun q hq => (hsound q hq).2
  have hexternal {tick : ExternalTick} (hlent : env.lentTo s = some tick) :
      SourcedStep s (s.external tick) :=
    .of_kept rfl rfl rfl (fun q hq => (hsound q hq).1 tick hlent) (fun _ hp => hp) rfl
  unfold meterIskraTick at htick
  unfold TickEnv.lentTo at hexternal
  rw [if_neg (not_not.mpr hdriver)] at hexternal
  split_ifs at htick hexternal with hinit htransaction hdisplay hdue
  · obtain rfl := Option.some.inj htick
    exact hexternal rfl
  · obtain rfl := Option.some.inj htick
    have hstep := hexternal rfl
    exact ⟨hstep.type, hstep.table, hstep.slave, hstep.newest, hstep.responses, hstep.values,
      hstep.failed⟩
  · obtain rfl := Option.some.inj htick
    have hstep := hexternal rfl
    exact ⟨hstep.type, hstep.table, hstep.slave, hstep.newest, hstep.responses, hstep.values,
      hstep.failed⟩
  · exact iskraFast_sourced h hdriver hinv hgood (meterIskraFastTick_cases htick)
  · have hactive : s.iskra.fastActive = false := by
      rw [iskraFastDue, Bool.or_eq_true, not_or] at hdue
      exact Bool.eq_false_of_not_eq_true hdue.1
    exact iskraSlow_sourced h hdriver hactive hgood (meterIskraSlowTick_cases htick)

/-! ### Any driver -/

/-- A response that the driver takes, and that has failed. -/
def Stack.TakesFailure (s : Stack F) : Prop :=
  s.rs485.responseFailed = true ∧ (s.meter.type.driver = some .eltako → s.awaited ≠ none)

/-- The Eltako driver stores nothing in the tick that takes its block. -/
theorem eltakoTick_takes (hdriver : s.meter.type.driver = some .eltako) (hawaited : s.awaited ≠ none)
    (htick : meterEltakoTick env s = some s') : s'.registers = s.registers := by
  have hstate : s.meter.state = 1 := by
    rw [awaited_eltako hdriver] at hawaited
    by_contra hne
    exact hawaited (if_neg hne)
  cases meterEltakoTick_cases htick with
  | take _ hresponse =>
    obtain ⟨-, htaken, -⟩ := meterGetReadRegistersResponse_some hresponse
    exact htaken.registers
  | wait => rfl
  | request hother | store _ _ hother | stored _ hother | skip hother | restart hother
  | calculate hother | calculated hother | rest hother | default hother => omega

theorem driverTick_sourced (h : Sourced s)
    (hinv : s.meter.type.driver = some .iskra → IskraInv s)
    (hsound : ∀ q, s.awaited = some q →
      (∀ tick ∈ env.lentTo s, (s.external tick).newest = some q) ∧
        (meterIsResponseReady modbusFcReadInputRegisters s.rs485 = true → GoodTake q s))
    (htick : meterDriverTick env s = some s') :
    Sourced s' ∧ s'.meter.type = s.meter.type ∧ (s.TakesFailure →
      ∀ name ∈ s.meter.type.measured, s'.registers name = s.registers name) := by
  have hgood : ∀ q, s.awaited = some q →
      meterIsResponseReady modbusFcReadInputRegisters s.rs485 = true → GoodTake q s :=
    fun q hq => (hsound q hq).2
  have hstep (driver : MeterDriver) (hdriver : s.meter.type.driver = some driver)
      (hother : driver ≠ .eltako) (hstep : SourcedStep s s') :
      Sourced s' ∧ s'.meter.type = s.meter.type ∧ (s.TakesFailure →
        ∀ name ∈ s.meter.type.measured, s'.registers name = s.registers name) := by
    have hne : s.meter.type.driver ≠ some .eltako := by
      rw [hdriver]
      exact fun heq => hother (Option.some.inj heq)
    refine ⟨h.of_step ?_ hstep fun heltako => ?_, hstep.type, fun htakes => hstep.failed hne htakes.1⟩
    · rw [hdriver]
      exact Option.some_ne_none _
    · rw [hstep.type] at heltako
      exact absurd heltako hne
  rcases hdriver : s.meter.type.driver with - | driver
  · simp only [meterDriverTick, hdriver] at htick
    obtain rfl := Option.some.inj htick
    exact ⟨h, rfl, fun _ _ _ => rfl⟩
  · cases driver with
    | eastron =>
      simp only [meterDriverTick, hdriver] at htick
      exact hstep _ hdriver (by decide) (eastronTick_sourced h hdriver hgood htick)
    | generic =>
      simp only [meterDriverTick, hdriver] at htick
      exact hstep _ hdriver (by decide) (genericTick_sourced h hdriver hgood htick)
    | iskra =>
      simp only [meterDriverTick, hdriver] at htick
      exact hstep _ hdriver (by decide) (iskraTick_sourced h hdriver (hinv hdriver) hsound htick)
    | eltako =>
      simp only [meterDriverTick, hdriver] at htick
      refine ⟨eltakoTick_sourced h hdriver hgood htick, (meterEltakoTick_keepsBus htick).1,
        fun htakes name _ => ?_⟩
      exact congrFun (eltakoTick_takes hdriver (htakes.2 hdriver) htick) name

end Bricklib2
