/-
Bricklib2/Warp/MeterSource.lean

What `meter_register_set` may hold: NaN, or what a response has said of a register.
A failed response leaves the buffer of the driver as it was, and the buffer is stack
memory in the generic, the Eastron and the slow Iskra states, a static one in the
Eltako driver.

`Sourced` is the invariant of the values, `StackEvent.Sound` the ticks that store no
such buffer.
-/
import Bricklib2.Warp.MeterAnswer
import Bricklib2.Warp.MeterHandOver

namespace Bricklib2

open Machine Bytes

variable {F : Type} [CFloat F] {s s' : Stack F} {env : TickEnv} {count : ℕ}

/-! ### What a response says -/

omit [CFloat F] in
/-- The bytes of a response. -/
def Response.bytes (p : Response) : List UInt8 := p.frame.map RxByte.value

/-- The registers of `definition`, in a frame whose first register is `start`. -/
def Response.registerBytes (p : Response) (start : ℕ) (definition : MeterDefinition) :
    List UInt8 :=
  (p.bytes.drop (3 + 2 * (definition.registerAddress - start))).take
    (2 * definition.registerDataType.size)

/-- The response answers a read of input registers of `slave` that covers the register,
its frame is the whole answer with a valid checksum, and `value` is what it holds there. -/
def Response.Says (p : Response) (slave : UInt8) (definition : MeterDefinition) (value : F) :
    Prop :=
  ∃ start count, p.request = .readRegisters modbusFcReadInputRegisters slave start count ∧
    start ≤ definition.registerAddress ∧
    definition.registerAddress + definition.registerDataType.size ≤ start + count ∧
    AnswersRead modbusFcReadInputRegisters slave count p.bytes ∧
    meterDecode (BitVec.ofNat 32 (bigEndian (p.registerBytes start definition))) definition =
      some value

/-- Of a register of 16 bits only the low half of the cell counts. -/
theorem meterDecode_congr {x y : BitVec 32} {definition : MeterDefinition}
    (hsize : definition.registerDataType.size = 1) (h : x.setWidth 16 = y.setWidth 16) :
    meterDecode (F := F) x definition = meterDecode y definition := by
  cases htype : definition.registerDataType with
  | t2 | int16 | t16 | t17 => simp only [meterDecode, htype, h]
  | float | int32 | t3 | t5 | t6 | t7 =>
    rw [htype] at hsize
    cases hsize

omit [CFloat F] in
theorem rxFrame_taken {r : RS485} {i : ℕ} (h : i < r.takenFrame.length) :
    (r.takenFrame.map RxByte.value)[i]? = some (r.rxFrame i) := by
  rw [RS485.takenFrame, List.length_take] at h
  have hmap : i < (r.ringbufferRx.buffer.map RxByte.value).length := by
    rw [List.length_map]
    omega
  rw [RS485.takenFrame, List.map_take, List.getElem?_take_of_lt (by omega), RS485.rxFrame,
    List.getD_eq_getElem?_getD, List.getElem?_append_left hmap, List.getElem?_eq_getElem hmap]
  rfl

/-- A block of two registers and more: the cells at even distances from its start. -/
theorem cell_of_block {p : Response} {definition : MeterDefinition} {start count i : ℕ}
    {data data' : ℕ → BitVec 32}
    (h : Delivered count ((p.bytes.drop 3).take (2 * count)) data data') (hcount : count ≠ 1)
    (hi : i < count / 2) (hsize : definition.registerDataType.size = 2)
    (haddress : definition.registerAddress = start + 2 * i) :
    data' i = BitVec.ofNat 32 (bigEndian (p.registerBytes start definition)) := by
  have hbytes : (((p.bytes.drop 3).take (2 * count)).drop (4 * i)).take 4 =
      p.registerBytes start definition := by
    rw [window_take (by omega), List.drop_drop, Response.registerBytes, hsize, haddress]
    congr 2
    omega
  rw [← hbytes, ← h.double hcount i hi, BitVec.ofNat_toNat, BitVec.setWidth_eq]

omit [CFloat F] in
theorem registerDataType_size (type : MeterRegisterDataType) : type.size = 1 ∨ type.size = 2 := by
  cases type <;> first | exact Or.inl rfl | exact Or.inr rfl

/-- A single register, of one word or two. -/
theorem decode_of_single {p : Response} {definition : MeterDefinition}
    {data data' : ℕ → BitVec 32} (hcount : count = definition.registerDataType.size)
    (h : Delivered count ((p.bytes.drop 3).take (2 * count)) data data') :
    meterDecode (F := F) (data' 0) definition = meterDecode
      (BitVec.ofNat 32 (bigEndian (p.registerBytes definition.registerAddress definition)))
      definition := by
  rcases registerDataType_size definition.registerDataType with hsize | hsize
  · have hone : count = 1 := hcount.trans hsize
    subst hone
    apply meterDecode_congr hsize
    have hbytes : ((p.bytes.drop 3).take (2 * 1)).take 2 =
        p.registerBytes definition.registerAddress definition := by
      rw [Response.registerBytes, hsize, Nat.sub_self, List.take_take]
      rfl
    have hlow := (h.single rfl).1
    rw [hbytes] at hlow
    apply BitVec.eq_of_toNat_eq
    rw [BitVec.toNat_setWidth, BitVec.toNat_setWidth, BitVec.toNat_ofNat, hlow]
    omega
  · have htwo : count = 2 := hcount.trans hsize
    rw [cell_of_block h (by omega) (by omega) hsize rfl]

/-! ### Measured fields -/

/-- The registers that the driver of a meter type reads, fast ones included. -/
def MeterType.readDefinitions (type : MeterType) : List MeterDefinition :=
  type.table.getD [] ++ if type.driver = some .iskra then meterWm3m4cFast else []

/-- The register that a definition is for. -/
def MeterDefinition.name? (definition : MeterDefinition) : Option RegisterName :=
  match definition.registerSetAddress with
  | some (.registerSet name) => some name
  | _ => none

/-- The fields that are stored as they are read: those that the table does not list
among the calculated values behind its stop marker. -/
def MeterType.measured (type : MeterType) : List RegisterName :=
  let calculated := (type.table.getD []).dropWhile fun d => d.registerSetAddress.isSome
  (type.readDefinitions.filterMap MeterDefinition.name?).filter
    (· ∉ calculated.filterMap MeterDefinition.name?)

/-- A measured field is NaN, or a response of the meter has said so of a register that is
read into it. -/
def Stack.FromMeter (s : Stack F) (name : RegisterName) : Prop :=
  s.registers name = CFloat.nan ∨
    ∃ definition ∈ s.meter.type.readDefinitions, definition.name? = some name ∧
      ∃ p ∈ s.responses, p.Says s.meter.slaveAddress definition (s.registers name)

omit [CFloat F] in
/-- The calculations at the end of a full read write no measured field. -/
theorem resettable_not_measured (type : MeterType) {name : RegisterName}
    (h : name ∈ type.measured) : name ∉ resettableRegisters := by
  have hnone : ∀ type : MeterType, ∀ name ∈ resettableRegisters, name ∉ type.measured := by
    intro type
    cases type <;> decide +kernel
  exact fun hname => hnone type name hname h

omit [CFloat F] in
theorem update_of_not_measured {type : MeterType} {name calculated : RegisterName}
    (hname : name ∈ type.measured) (h : calculated ∉ type.measured)
    (registers : MeterRegisterSet F) (value : F) :
    Function.update registers calculated value name = registers name := by
  refine Function.update_of_ne ?_ _ _
  rintro rfl
  exact h hname

theorem dsz15dzmod_registers {state : ℕ} (h : calculateDsz15dzmod env state s = some s')
    {name : RegisterName} (hname : name ∈ MeterType.measured .dsz15Dzmod) :
    s'.registers name = s.registers name := by
  have hset (calculated : RegisterName) (value : F)
      (hcalculated : calculated ∉ MeterType.measured .dsz15Dzmod) :
      (s.set calculated value).registers name = s.registers name :=
    update_of_not_measured hname hcalculated _ _
  unfold calculateDsz15dzmod at h
  split at h <;> first
    | cases h; exact hset _ _ (by decide +kernel)
    | cases h; rfl
    | cases h

theorem dsz16dze_registers {state : ℕ} (h : calculateDsz16dze state s = some s')
    {name : RegisterName} (hname : name ∈ MeterType.measured .dsz16Dze) :
    s'.registers name = s.registers name := by
  have hset (calculated : RegisterName) (value : F)
      (hcalculated : calculated ∉ MeterType.measured .dsz16Dze) :
      (s.set calculated value).registers name = s.registers name :=
    update_of_not_measured hname hcalculated _ _
  unfold calculateDsz16dze at h
  split at h <;> first
    | cases h; exact hset _ _ (by decide +kernel)
    | cases h

theorem eltako_registers {state : ℕ} (h : meterEltakoHandleRegisterSetReadDone env state s = some s')
    {name : RegisterName} (hname : name ∈ s.meter.type.measured) :
    s'.registers name = s.registers name := by
  unfold meterEltakoHandleRegisterSetReadDone at h
  split_ifs at h with hzero hdsz15 hdsz16
  · obtain rfl := Option.some.inj h
    exact readDone_registers (resettable_not_measured _ hname)
  · rw [hdsz15] at hname
    exact dsz15dzmod_registers h hname
  · rw [hdsz16] at hname
    exact dsz16dze_registers h hname
  · obtain rfl := Option.some.inj h
    rfl

omit [CFloat F] in
theorem iskraSums_not_measured {type : MeterType} (h : type.driver = some .iskra) :
    RegisterName.energyActiveLSumImport ∉ type.measured ∧
      RegisterName.energyActiveLSumExport ∉ type.measured ∧
      RegisterName.energyActiveLSumImExSum ∉ type.measured := by
  cases type with
  | wm3M4C | wm3M4 => decide +kernel
  | _ => cases h

theorem iskra_registers {name : RegisterName} (hdriver : s.meter.type.driver = some .iskra)
    (hname : name ∈ s.meter.type.measured) :
    (meterIskraHandleRegisterSetReadDone s).registers name = s.registers name := by
  obtain ⟨himport, hexport, hsum⟩ := iskraSums_not_measured hdriver
  have hset {t : Stack F} {calculated : RegisterName} (h : calculated ∉ s.meter.type.measured)
      (value : F) : (t.store (.registerSet calculated) value).registers name = t.registers name :=
    update_of_not_measured hname h t.registers value
  have hdone (t : Stack F) : (meterHandleRegisterSetFastReadDone t).registers = t.registers := rfl
  rw [meterIskraHandleRegisterSetReadDone, hdone,
    readDone_registers (resettable_not_measured _ hname), hset hsum, hset hexport, hset himport]

/-! ### Responses that are stored -/

/-- The driver that has the scan. -/
def ScanDriver.meterDriver : ScanDriver → MeterDriver
  | .generic => .generic
  | .eastron => .eastron

omit [CFloat F] in
/-- The request whose response the driver stores in the register set. -/
def Stack.awaited (s : Stack F) : Option MeterRequest :=
  match s.meter.type.driver with
  | some .generic => scanOutstanding .generic s
  | some .eastron => scanOutstanding .eastron s
  | some .eltako => if s.meter.state = 1 then some s.meter.eltakoRequest else none
  | some .iskra =>
    if s.iskra.fastActive then
      iskraFastOutstanding s
    else if s.meter.state = 1 then
      some s.meter.iskraSlowRequest
    else
      none
  | none => none

/-- The registers that are asked for. -/
def MeterRequest.registerCount : MeterRequest → ℕ
  | .readRegisters _ _ _ count => count
  | .writeRegister _ _ _ _ | .writeString _ _ _ => 0

omit [CFloat F] in
/-- The newest request on the bus. -/
def Stack.newest (s : Stack F) : Option MeterRequest :=
  s.rs485.requests.head?.map IssuedRequest.request

omit [CFloat F] in
/-- The Eltako driver has had its block of registers before. -/
def Stack.BlockSeen (s : Stack F) : Prop := ∃ p ∈ s.responses, p.request = s.meter.eltakoRequest

omit [CFloat F] in
/-- The static buffer of the Eltako driver holds a block that a response has sent. -/
def Stack.BlockFilled (s : Stack F) : Prop :=
  ∃ p ∈ s.responses, p.request = s.meter.eltakoRequest ∧
    AnswersRead modbusFcReadInputRegisters s.meter.slaveAddress meterEltakoRegisterCount
      p.bytes ∧
    ∃ data, Delivered meterEltakoRegisterCount
      ((p.bytes.drop 3).take (2 * meterEltakoRegisterCount)) data s.statics.eltakoData

/-- A measured field is what the meter has said, and so is what will be stored. -/
structure Sourced (s : Stack F) : Prop where
  table : s.meter.type.driver ≠ none → s.meter.currentMeter = s.meter.type.table
  slave : s.meter.type.driver ≠ none → s.meter.slaveAddress = s.meter.type.slaveAddress
  newest : ∀ q, s.awaited = some q → s.newest = some q
  block : s.meter.type.driver = some .eltako → s.meter.state = 2 ∨ s.BlockSeen → s.BlockFilled
  unread : s.meter.type.driver = none → ∀ name, s.registers name = CFloat.nan
  values : ∀ name ∈ s.meter.type.measured, s.FromMeter name

/-- The answer to the driver's request, when it is taken: the request was put on a free
bus; unless the driver looks for failures (or has a block to fall back to) the answer is
no failure, and a frame that is stored is as long as the request asks for. -/
structure GoodResponse (q : MeterRequest) (s : Stack F) : Prop where
  busFree : ∀ issued ∈ s.rs485.requests.head?, issued.busFree = true
  failed : s.rs485.responseFailed = true →
    s.meter.type.driver = some .iskra ∧ s.iskra.fastActive = true ∨
      s.meter.type.driver = some .eltako ∧ s.BlockSeen
  fits : s.rs485.responseFailed = false → s.rs485.Fits q.registerCount

/-- The module that `meter_iskra_tick` gives the bus to. -/
def TickEnv.lentTo (env : TickEnv) (s : Stack F) : Option ExternalTick :=
  if s.meter.type.driver ≠ some .iskra then
    none
  else if env.isV4 ∧ env.eichrechtInitDone = false then
    some env.eichrechtInitTick
  else if env.transactionPending s then
    some env.eichrechtTick
  else if env.displayPending s then
    some env.displayTick
  else
    none

/-- In a tick that reaches the driver while a response is awaited that will be stored:
a module that is given the bus puts no request of its own on it, and the response is a
good one when it is taken. -/
def StackEvent.Sound (s : Stack F) : StackEvent → Prop
  | .meterTick env => waiting env.now s.meter.errorWaitTime 500 = false →
    waiting env.now s.meter.firstTick 2500 = false → ∀ q ∈ s.awaited,
      (∀ tick ∈ env.lentTo s, (s.external tick).newest = some q) ∧
        (meterIsResponseReady modbusFcReadInputRegisters s.rs485 = true → GoodResponse q s)
  | .receive _ _ | .rxIrq _ | .txIrq | .txShift | .rs485Tick _ _ => True

omit [CFloat F] in
theorem goodResponse_iff {q : MeterRequest} : GoodResponse q s ↔
    (∀ issued ∈ s.rs485.requests.head?, issued.busFree = true) ∧
      (s.rs485.responseFailed = true →
        s.meter.type.driver = some .iskra ∧ s.iskra.fastActive = true ∨
          s.meter.type.driver = some .eltako ∧ s.BlockSeen) ∧
      (s.rs485.responseFailed = false → s.rs485.Fits q.registerCount) :=
  ⟨fun h => ⟨h.busFree, h.failed, h.fits⟩, fun h => ⟨h.1, h.2.1, h.2.2⟩⟩

instance : Decidable s.BlockSeen :=
  inferInstanceAs (Decidable (∃ p ∈ s.responses, p.request = s.meter.eltakoRequest))

instance (q : MeterRequest) : Decidable (GoodResponse q s) :=
  decidable_of_iff _ goodResponse_iff.symm

instance (s : Stack F) (e : StackEvent) : Decidable (e.Sound s) :=
  match e with
  | .meterTick _ => inferInstanceAs (Decidable (_ → _ → ∀ _ ∈ s.awaited, _))
  | .receive _ _ | .rxIrq _ | .txIrq | .txShift | .rs485Tick _ _ => isTrue trivial

/-- What a good response means to the driver that takes it. -/
structure GoodTake (q : MeterRequest) (s : Stack F) : Prop where
  failed : s.rs485.responseFailed = true →
    s.meter.type.driver = some .iskra ∧ s.iskra.fastActive = true ∨
      s.meter.type.driver = some .eltako ∧ s.BlockSeen
  answer : s.rs485.responseFailed = false →
    AnswersRead q.fc q.slaveAddress q.registerCount (s.rs485.takenFrame.map RxByte.value)

omit [CFloat F] in
theorem GoodResponse.take {fc : UInt8} {q : MeterRequest} (h : GoodResponse q s)
    (hanswer : AnswerInv s.rs485) (hnewest : s.newest = some q) (hq : q.Sendable)
    (hready : meterIsResponseReady fc s.rs485 = true) : GoodTake q s := by
  obtain ⟨issued, hissued, rfl⟩ := Option.map_eq_some_iff.mp hnewest
  have hclean : issued.Clean := ⟨h.busFree issued hissued, hq⟩
  exact ⟨h.failed, fun hok => hanswer.answersRead hissued hclean hready hok (h.fits hok)⟩

omit [CFloat F] in
/-- Whatever a driver awaits, it is a read of input registers of its meter. -/
theorem awaited_read {q : MeterRequest} (h : s.awaited = some q) :
    s.meter.type.driver ≠ none ∧ ∃ start count, q =
      .readRegisters modbusFcReadInputRegisters s.meter.slaveAddress start count := by
  unfold Stack.awaited at h
  split at h
  · rename_i hdriver
    obtain ⟨-, hq⟩ := Option.ite_none_right_eq_some.mp h
    exact ⟨by rw [hdriver]; exact Option.some_ne_none _, _, _, (Option.some.inj hq).symm⟩
  · rename_i hdriver
    obtain ⟨-, hq⟩ := Option.ite_none_right_eq_some.mp h
    exact ⟨by rw [hdriver]; exact Option.some_ne_none _, _, _, (Option.some.inj hq).symm⟩
  · rename_i hdriver
    obtain ⟨-, hq⟩ := Option.ite_none_right_eq_some.mp h
    exact ⟨by rw [hdriver]; exact Option.some_ne_none _, _, _, (Option.some.inj hq).symm⟩
  · rename_i hdriver
    refine ⟨by rw [hdriver]; exact Option.some_ne_none _, ?_⟩
    split_ifs at h
    · unfold iskraFastOutstanding at h
      split at h <;> first | exact ⟨_, _, (Option.some.inj h).symm⟩ | cases h
    · exact ⟨_, _, (Option.some.inj h).symm⟩
  · cases h

/-- The meter of a driver has no broadcast address. -/
theorem Sourced.awaited_sendable {q : MeterRequest} (h : Sourced s) (hq : s.awaited = some q) :
    q.Sendable := by
  obtain ⟨hdriver, start, count, rfl⟩ := awaited_read hq
  apply sendable_readRegisters
  rw [h.slave hdriver]
  exact slaveAddress_ne_zero hdriver

omit [CFloat F] in
/-- The frame of a response, once it is in `data'`. -/
theorem taken_delivered {fc : UInt8} {q : MeterRequest} {data data' : ℕ → BitVec 32} {now : ℕ}
    (hnewest : s.newest = some q) (hgood : GoodTake q s)
    (hresponse : meterGetReadRegistersResponse now fc data q.registerCount s = some (data', s'))
    (hok : s.rs485.responseFailed = false) :
    ∃ p, s'.responses = p :: s.responses ∧ p.request = q ∧
      AnswersRead q.fc q.slaveAddress q.registerCount p.bytes ∧
      Delivered q.registerCount ((p.bytes.drop 3).take (2 * q.registerCount)) data data' := by
  obtain ⟨-, -, hfailed | ⟨-, hdata, hlog⟩⟩ := meterGetReadRegistersResponse_some hresponse
  · rw [hok] at hfailed
    cases hfailed.1
  have hanswer := hgood.answer hok
  have hlong : s.rs485.takenFrame.length = 2 * q.registerCount + 5 := by
    rw [← hanswer.length, List.length_map]
  refine ⟨⟨q, s.rs485.takenFrame⟩, ?_, rfl, hanswer, ?_⟩
  · rw [hlog]
    obtain ⟨issued, hissued, rfl⟩ := Option.map_eq_some_iff.mp hnewest
    obtain ⟨older, hrequests⟩ := List.head?_eq_some_iff.mp hissued
    simp only [Stack.logResponse, hrequests]
    rfl
  · have hpayload : s.rs485.rxPayload q.registerCount =
        ((s.rs485.takenFrame.map RxByte.value).drop 3).take (2 * q.registerCount) :=
      rxPayload_of_bytes fun i hi => rxFrame_taken (by omega)
    have hdelivered := delivered_readRegistersData s.rs485 q.registerCount data
    rw [hpayload, ← hdata] at hdelivered
    exact hdelivered

/-- A single register. -/
theorem says_single {p : Response} {definition : MeterDefinition} {slave : UInt8} {value : F}
    {data data' : ℕ → BitVec 32}
    (hrequest : p.request = .readRegisters modbusFcReadInputRegisters slave
      definition.registerAddress definition.registerDataType.size)
    (hanswer : AnswersRead modbusFcReadInputRegisters slave definition.registerDataType.size
      p.bytes)
    (h : Delivered definition.registerDataType.size
      ((p.bytes.drop 3).take (2 * definition.registerDataType.size)) data data')
    (hvalue : meterDecode (data' 0) definition = some value) : p.Says slave definition value := by
  refine ⟨_, _, hrequest, le_refl _, le_refl _, hanswer, ?_⟩
  rw [← decode_of_single rfl h, hvalue]

/-- A register of a block. -/
theorem says_block {p : Response} {definition : MeterDefinition} {slave : UInt8} {value : F}
    {start i : ℕ} {data data' : ℕ → BitVec 32}
    (hrequest : p.request = .readRegisters modbusFcReadInputRegisters slave start count)
    (hanswer : AnswersRead modbusFcReadInputRegisters slave count p.bytes)
    (h : Delivered count ((p.bytes.drop 3).take (2 * count)) data data')
    (hcount : count ≠ 1) (hi : i < count / 2) (hsize : definition.registerDataType.size = 2)
    (haddress : definition.registerAddress = start + 2 * i)
    (hvalue : meterDecode (data' i) definition = some value) : p.Says slave definition value := by
  refine ⟨start, count, hrequest, by omega, by omega, hanswer, ?_⟩
  rw [← cell_of_block h hcount hi hsize haddress, hvalue]

end Bricklib2
