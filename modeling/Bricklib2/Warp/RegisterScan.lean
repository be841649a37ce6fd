/-
Bricklib2/Warp/RegisterScan.lean

Which registers the generic and the Eastron driver request.  Two positions go round the
same table, one from fast register to fast register and one over the others; every
500 ms the fast ones are all read before the full read goes on.  `ScanMove` is this
schedule without the rest of the driver, and every tick of a driver is such a move.  An
observer notes the reads of input registers that a tick puts on the bus, whatever its
state, and its calls of `meter_handle_register_set_read_done`.

Main result: `registers_scheduled`, a full read requests every register that is not fast
once and in order, and when all values have been read once, all have been requested,
provided that the fast registers are due at the first tick: the 32-bit timer may have gone
round since `meter_init`.
-/
import Bricklib2.Library.CyclicScan
import Bricklib2.Warp.SystemTypeChange

namespace Bricklib2

open Machine CyclicScan

variable {F : Type} {s s' : Stack F} {env : TickEnv} {driver : ScanDriver}
  {slave : UInt8} {table : List MeterDefinition} {now : ℕ}

/-! ### Tables -/

/-- The number of entries before the stop marker. -/
def registerCount (table : List MeterDefinition) : ℕ :=
  table.findIdx fun definition => definition.registerSetAddress.isNone

/-- The register at a position is one of the fast ones. -/
def isFast (table : List MeterDefinition) (position : ℕ) : Bool :=
  (table.getD position stopMarker).fastRead

/-- The registers that only the full read requests. -/
def isSlow (table : List MeterDefinition) (position : ℕ) : Bool := !isFast table position

/-- A table that ends in a stop marker, with a fast register before it and one in front
that is not fast. -/
structure Scannable (table : List MeterDefinition) : Prop where
  terminated : registerCount table < table.length
  fast : ∃ position < registerCount table, isFast table position = true
  front : isFast table 0 = false

/-- The positions that are not fast, in table order. -/
def slowPositions (table : List MeterDefinition) : List ℕ :=
  below (isSlow table) (registerCount table)

theorem address_ne_none {position : ℕ} (h : position < registerCount table) :
    (table.getD position stopMarker).registerSetAddress ≠ none := by
  have hlt : position < table.length := h.trans_le List.findIdx_le_length
  have hsome := List.not_of_lt_findIdx h
  rw [List.getD_eq_getElem _ _ hlt]
  intro hnone
  rw [hnone] at hsome
  cases hsome

theorem address_stop (table : List MeterDefinition) :
    (table.getD (registerCount table) stopMarker).registerSetAddress = none := by
  by_cases h : registerCount table < table.length
  · rw [List.getD_eq_getElem _ _ h]
    exact Option.isNone_iff_eq_none.mp (List.findIdx_getElem (w := h))
  · rw [List.getD_eq_default _ _ (not_lt.mp h)]
    rfl

theorem definition_eq (h : s.meter.currentMeter = some table) (position : ℕ) :
    s.meter.definition position = table.getD position stopMarker := by
  rw [Meter.definition, h]
  rfl

theorem Scannable.pos (h : Scannable table) : 0 < registerCount table := by
  obtain ⟨position, hlt, -⟩ := h.fast
  omega

theorem Scannable.slow (h : Scannable table) :
    ∃ position < registerCount table, isSlow table position = true := by
  refine ⟨0, h.pos, ?_⟩
  rw [isSlow, h.front]
  rfl

/-! ### The loops -/

theorem advanceFast_inside (clear : Stack F → Stack F) (now : ℕ)
    (htable : s.meter.currentMeter = some table)
    (h : s.meter.registerFastPosition + 1 < registerCount table) :
    meterAdvanceFast clear now s =
      { s with meter.registerFastPosition := s.meter.registerFastPosition + 1 } := by
  have haddress := address_ne_none h
  rw [← definition_eq htable] at haddress
  exact if_neg haddress

theorem advanceFast_last (clear : Stack F → Stack F) (now : ℕ)
    (htable : s.meter.currentMeter = some table)
    (h : s.meter.registerFastPosition + 1 = registerCount table) :
    meterAdvanceFast clear now s = meterHandleRegisterSetFastReadDone (clear { s with
      meter.registerFastPosition := 0
      meter.registerFastTime := nextFastTime now s.meter.registerFastTime }) := by
  have haddress := address_stop table
  rw [← h, ← definition_eq htable] at haddress
  exact if_pos haddress

theorem advanceFull_inside [CFloat F] (htable : s.meter.currentMeter = some table)
    (h : s.meter.registerFullPosition + 1 < registerCount table) :
    meterAdvanceFull s =
      { s with meter.registerFullPosition := s.meter.registerFullPosition + 1 } := by
  have haddress := address_ne_none h
  rw [← definition_eq htable] at haddress
  exact if_neg haddress

theorem advanceFull_last [CFloat F] (htable : s.meter.currentMeter = some table)
    (h : s.meter.registerFullPosition + 1 = registerCount table) :
    meterAdvanceFull s =
      meterHandleRegisterSetReadDone { s with meter.registerFullPosition := 0 } := by
  have haddress := address_stop table
  rw [← h, ← definition_eq htable] at haddress
  exact if_pos haddress

theorem nextFast_succ {clear : Stack F → Stack F} {fuel : ℕ} {t : Stack F}
    (hadvance : meterAdvanceFast clear now s = t) (htable : t.meter.currentMeter = some table) :
    meterNextFastRegister clear now (fuel + 1) s =
      if isFast table t.meter.registerFastPosition then some t
      else meterNextFastRegister clear now fuel t := by
  rw [meterNextFastRegister, hadvance]
  rw [definition_eq htable]
  rfl

theorem nextFull_succ [CFloat F] {fuel : ℕ} {t : Stack F} (hadvance : meterAdvanceFull s = t)
    (htable : t.meter.currentMeter = some table) : meterNextFullRegister (fuel + 1) s =
      if isSlow table t.meter.registerFullPosition then some t
      else meterNextFullRegister fuel t := by
  rw [meterNextFullRegister, hadvance]
  rw [definition_eq htable, isSlow, isFast]
  cases (table.getD t.meter.registerFullPosition stopMarker).fastRead <;> rfl

/-- The loop for the fast registers is a scan of the table, and once it comes past the
front the fast read is over. -/
theorem nextFast_scan (driver : ScanDriver) (now : ℕ) {fuel j rounds : ℕ}
    (htable : s.meter.currentMeter = some table)
    (hlt : s.meter.registerFastPosition < registerCount table)
    (hnext : next (isFast table) (registerCount table) fuel s.meter.registerFastPosition =
      some (j, rounds)) :
    ∃ s', meterNextFastRegister (driver.setReadFast false) now fuel s = some s' ∧
      s'.meter.registerFastPosition = j ∧
      driver.readFast s'.statics = (driver.readFast s.statics && rounds == 0) := by
  induction fuel generalizing s rounds with
  | zero => cases hnext
  | succ fuel ih =>
    -- the position moves inside the table, or wraps around behind the last register
    rcases Nat.lt_or_eq_of_le (Nat.succ_le_of_lt hlt) with hinside | hlast
    · rw [nextFast_succ (advanceFast_inside _ now htable hinside) htable]
      rw [next_inside hinside] at hnext
      by_cases hfast : isFast table (s.meter.registerFastPosition + 1) = true
      · rw [if_pos hfast] at hnext
        obtain ⟨rfl, rfl⟩ := Prod.mk.inj (Option.some.inj hnext)
        exact ⟨_, if_pos hfast, rfl, (Bool.and_true _).symm⟩
      · -- not a fast one: the loop goes on
        rw [if_neg hfast] at hnext
        rw [if_neg hfast]
        exact ih htable hinside hnext
    · obtain ⟨t, ht⟩ : ∃ t, meterAdvanceFast (driver.setReadFast false) now s = t := ⟨_, rfl⟩
      have hwrapped := advanceFast_last (driver.setReadFast false) now htable hlast
      rw [ht] at hwrapped
      have htable' : t.meter.currentMeter = some table := by
        rw [hwrapped]
        cases driver <;> exact htable
      have hfront : t.meter.registerFastPosition = 0 := by
        rw [hwrapped]
        cases driver <;> rfl
      -- wrapping around ends the fast read, for good in this loop
      have hover : driver.readFast t.statics = false := by
        rw [hwrapped]
        exact readFast_setReadFast driver false _
      rw [nextFast_succ ht htable', hfront]
      rw [next_last hlast] at hnext
      by_cases hfast : isFast table 0 = true
      · rw [if_pos hfast] at hnext
        obtain ⟨rfl, rfl⟩ := Prod.mk.inj (Option.some.inj hnext)
        exact ⟨t, if_pos hfast, hfront, hover.trans (Bool.and_false _).symm⟩
      · rw [if_neg hfast] at hnext
        obtain ⟨⟨j', rounds'⟩, hrest, hmore⟩ := Option.map_eq_some_iff.mp hnext
        obtain ⟨rfl, rfl⟩ := Prod.mk.inj hmore
        rw [if_neg hfast]
        rw [← hfront] at hrest
        obtain ⟨s', hs', hj, hread⟩ := ih htable' (by omega) hrest
        refine ⟨s', hs', hj, ?_⟩
        rw [hread, hover, Bool.false_and]
        exact (Bool.and_false _).symm

/-- So is the other one, which calls `meter_handle_register_set_read_done` every time that
it comes past the front. -/
theorem nextFull_scan [CFloat F] {fuel j rounds : ℕ} (htable : s.meter.currentMeter = some table)
    (hlt : s.meter.registerFullPosition < registerCount table)
    (hnext : next (isSlow table) (registerCount table) fuel s.meter.registerFullPosition =
      some (j, rounds)) :
    ∃ s', meterNextFullRegister fuel s = some s' ∧ s'.readDones = s.readDones + rounds ∧
      s'.meter.registerFullPosition = j ∧
      s'.meter.eachValueReadOnce = (s.meter.eachValueReadOnce || rounds != 0) := by
  induction fuel generalizing s rounds with
  | zero => cases hnext
  | succ fuel ih =>
    -- as above, but the call at the front is counted
    rcases Nat.lt_or_eq_of_le (Nat.succ_le_of_lt hlt) with hinside | hlast
    · rw [nextFull_succ (advanceFull_inside htable hinside) htable]
      rw [next_inside hinside] at hnext
      by_cases hslow : isSlow table (s.meter.registerFullPosition + 1) = true
      · rw [if_pos hslow] at hnext
        obtain ⟨rfl, rfl⟩ := Prod.mk.inj (Option.some.inj hnext)
        exact ⟨_, if_pos hslow, rfl, rfl, (Bool.or_false _).symm⟩
      · rw [if_neg hslow] at hnext
        rw [if_neg hslow]
        exact ih htable hinside hnext
    · rw [nextFull_succ (advanceFull_last htable hlast) htable]
      rw [next_last hlast] at hnext
      by_cases hslow : isSlow table 0 = true
      · rw [if_pos hslow] at hnext
        obtain ⟨rfl, rfl⟩ := Prod.mk.inj (Option.some.inj hnext)
        exact ⟨_, if_pos hslow, rfl, rfl, (Bool.or_true _).symm⟩
      · rw [if_neg hslow] at hnext
        obtain ⟨⟨j', rounds'⟩, hrest, hmore⟩ := Option.map_eq_some_iff.mp hnext
        obtain ⟨rfl, rfl⟩ := Prod.mk.inj hmore
        obtain ⟨s', hs', hdones, hj, honce⟩ := ih
          (s := meterHandleRegisterSetReadDone { s with meter.registerFullPosition := 0 }) htable
          (by show 0 < _; omega) hrest
        refine ⟨s', ?_, ?_, hj, ?_⟩
        · rw [← hs']
          exact if_neg hslow
        · have hcall : (meterHandleRegisterSetReadDone { s with
              meter.registerFullPosition := 0 }).readDones = s.readDones + 1 := rfl
          rw [hdones, hcall]
          omega
        · rw [honce]
          exact (Bool.or_true _).symm

/-! ### The schedule -/

/-- What the schedule knows of the meter. -/
@[ext]
structure ScanState where
  state : ℕ
  readFast : Bool
  fast : ℕ
  full : ℕ
  once : Bool

/-- Where a driver is with its scan. -/
def ScanDriver.scan (s : Stack F) (driver : ScanDriver) : ScanState where
  state := s.meter.state
  readFast := driver.readFast s.statics
  fast := s.meter.registerFastPosition
  full := s.meter.registerFullPosition
  once := s.meter.eachValueReadOnce

/-- What has been requested as a fast register, what the full read has requested since the
last call of `meter_handle_register_set_read_done`, and what it has requested before each
call. -/
structure ScanLog where
  fast : List MeterRequest
  pass : List MeterRequest
  passes : List (List MeterRequest)
  deriving DecidableEq, Repr

/-- Nothing was asked for yet. -/
def ScanLog.empty : ScanLog := ⟨[], [], []⟩

/-- A request of the scan. -/
def ScanLog.request (readFast : Bool) (log : ScanLog) (q : MeterRequest) : ScanLog :=
  if readFast then { log with fast := q :: log.fast } else { log with pass := log.pass ++ [q] }

/-- The end of a pass. -/
def ScanLog.readDone (log : ScanLog) : ScanLog :=
  { log with pass := [], passes := log.passes ++ [log.pass] }

/-- The request for the register at `position`. -/
def tableRead (slave : UInt8) (table : List MeterDefinition) (position : ℕ) : MeterRequest :=
  .readRegisters modbusFcReadInputRegisters slave
    (table.getD position stopMarker).registerAddress
    (table.getD position stopMarker).registerDataType.size

/-- One tick of the schedule; `due` says that 500 ms have passed since the last fast
read. -/
inductive ScanMove (slave : UInt8) (table : List MeterDefinition) (due : Bool) (v : ScanState)
    (log : ScanLog) : ScanState → ScanLog → Prop
  | request (readFast : Bool) (hstate : v.state = 0) (hread : readFast = (due || v.readFast)) :
      ScanMove slave table due v log { v with state := 1, readFast := readFast }
        (log.request readFast (tableRead slave table (if readFast then v.fast else v.full)))
  | wait (hstate : v.state = 1) : ScanMove slave table due v log v log
  | takeFast {j rounds : ℕ} (hstate : v.state = 1) (hread : v.readFast = true)
      (hnext : Next (isFast table) (registerCount table) v.fast j rounds) :
      ScanMove slave table due v log { v with state := 0, readFast := rounds == 0, fast := j } log
  | takeFull {j rounds : ℕ} (hstate : v.state = 1) (hread : v.readFast = false)
      (hnext : Next (isSlow table) (registerCount table) v.full j rounds) :
      ScanMove slave table due v log
        { v with state := 2, full := j, once := v.once || rounds != 0 }
        (ScanLog.readDone^[rounds] log)
  | other (state : ℕ) (hstate : 1 < v.state) (hstate' : state ≠ 1) :
      ScanMove slave table due v log { v with state := state } log

/-! ### The drivers as a machine -/

/-- The tick of the driver that has the scan. -/
def ScanDriver.tick [CFloat F] (env : TickEnv) (s : Stack F) : ScanDriver → Option (Stack F)
  | .generic => meterGenericTick env s
  | .eastron => meterEastronTick env s

/-- Between two ticks anything may happen on the bus. -/
inductive ScanEvent
  | bus (rs485 : RS485)
  | tick (env : TickEnv)

/-- A step of the scan, or of the bus under it. -/
def scanStep [CFloat F] (driver : ScanDriver) (s : Stack F) : ScanEvent → Option (Stack F)
  | .bus rs485 => some { s with rs485 := rs485 }
  | .tick env => driver.tick env s

/-- `meter_init`, and then a meter with this table is found. -/
def scanInit [CFloat F] (now : ℕ) (type : MeterType) (table : List MeterDefinition)
    (s : Stack F) : Stack F :=
  { meterInit now s with meter := { (meterInit now s).meter with
      type := type
      slaveAddress := type.slaveAddress
      currentMeter := some table } }

/-- The request reads input registers. -/
def MeterRequest.isInputRead : MeterRequest → Bool
  | .readRegisters fc _ _ _ => fc == modbusFcReadInputRegisters
  | .writeRegister _ _ _ _ | .writeString _ _ _ => false

/-- The reads of input registers that have been put on the bus between two states, the
oldest first. -/
def tableReads (s s' : Stack F) : List MeterRequest :=
  ((s'.requested.take (s'.requested.length - s.requested.length)).filter
    MeterRequest.isInputRead).reverse

/-- The reads of a tick are part of the fast or of the full read, as `read_fast` says.  Its
calls of `meter_handle_register_set_read_done` come behind them. -/
def scanNote (driver : ScanDriver) (s : Stack F) (e : ScanEvent) (s' : Stack F)
    (log : ScanLog) : ScanLog :=
  match e with
  | .bus _ => log
  | .tick _ => ScanLog.readDone^[s'.readDones - s.readDones]
      ((tableReads s s').foldl (ScanLog.request (driver.readFast s'.statics)) log)

theorem tableReads_same (h : s'.requested = s.requested) : tableReads s s' = [] := by
  rw [tableReads, h, Nat.sub_self, List.take_zero]
  rfl

theorem tableReads_cons {q : MeterRequest} (h : s'.requested = q :: s.requested) :
    tableReads s s' = if q.isInputRead then [q] else [] := by
  have hone : (q :: s.requested).length - s.requested.length = 1 := by
    rw [List.length_cons]
    omega
  rw [tableReads, h, hone, List.take_succ_cons, List.take_zero, List.filter_cons]
  cases q.isInputRead <;> rfl

theorem scanNote_quiet {log : ScanLog} (hreads : tableReads s s' = [])
    (hdones : s'.readDones = s.readDones) : scanNote driver s (.tick env) s' log = log := by
  rw [scanNote, hreads, hdones, Nat.sub_self]
  rfl

theorem scanNote_request {log : ScanLog} {q : MeterRequest}
    (h : s'.requested = q :: s.requested) (hq : q.isInputRead = true)
    (hdones : s'.readDones = s.readDones) :
    scanNote driver s (.tick env) s' log = log.request (driver.readFast s'.statics) q := by
  rw [scanNote, tableReads_cons h, if_pos hq, hdones, Nat.sub_self]
  rfl

theorem scanNote_readDone {log : ScanLog} {rounds : ℕ} (h : s'.requested = s.requested)
    (hdones : s'.readDones = s.readDones + rounds) :
    scanNote driver s (.tick env) s' log = ScanLog.readDone^[rounds] log := by
  rw [scanNote, tableReads_same h, hdones, Nat.add_sub_cancel_left]
  rfl

/-! ### Every tick is a move of the schedule -/

theorem scanRegister_meter (driver : ScanDriver) (readFast : Bool) (now : ℕ) (s : Stack F) :
    (meterScanRegister driver readFast now s).meter =
      { s.meter with state := s.meter.state + 1 } := by
  cases driver <;> rfl

theorem scanRegister_readFast (driver : ScanDriver) (readFast : Bool) (now : ℕ) (s : Stack F) :
    driver.readFast (meterScanRegister driver readFast now s).statics = readFast := by
  cases driver <;> rfl

/-- What is sent is the request for the current position. -/
theorem scanRegister_requested (driver : ScanDriver) (readFast : Bool) (now : ℕ) (s : Stack F) :
    (meterScanRegister driver readFast now s).requested = s.meter.readRequest
      (if readFast then s.meter.registerFastPosition else s.meter.registerFullPosition) ::
        s.requested := by
  cases driver <;> exact requested_issue now _ s

theorem scanRegister_readDones (driver : ScanDriver) (readFast : Bool) (now : ℕ) (s : Stack F) :
    (meterScanRegister driver readFast now s).readDones = s.readDones := by
  cases driver <;> rfl

/-- Enough for two rounds. -/
theorem le_scanFuel (htable : s.meter.currentMeter = some table) :
    2 * registerCount table ≤ s.meter.scanFuel := by
  have hle : registerCount table ≤ table.length := List.findIdx_le_length
  rw [Meter.scanFuel, htable, Option.getD_some]
  omega

/-- The driver reads the registers of `table` from the meter at `slave`. -/
structure Stack.Reads (slave : UInt8) (table : List MeterDefinition) (s : Stack F) : Prop where
  current : s.meter.currentMeter = some table
  slave : s.meter.slaveAddress = slave

theorem Stack.Reads.congr (h : s.Reads slave table)
    (htable : s'.meter.currentMeter = s.meter.currentMeter)
    (hslave : s'.meter.slaveAddress = s.meter.slaveAddress) : s'.Reads slave table :=
  ⟨htable.trans h.current, hslave.trans h.slave⟩

theorem Stack.Reads.readRequest_eq (h : s.Reads slave table) (position : ℕ) :
    s.meter.readRequest position = tableRead slave table position := by
  rw [Meter.readRequest, meterGetRegisterSize, definition_eq h.current, h.slave, tableRead]

/-- Storing a value and clearing the request is nothing to the schedule. -/
theorem stored_scan (driver : ScanDriver) {s₁ : Stack F} (htaken : Taken s s₁)
    (address : RegisterAddress) (value : F) :
    driver.scan (s₁.store address value).clearRequest = driver.scan s ∧
      (s₁.store address value).clearRequest.meter.currentMeter = s.meter.currentMeter ∧
      (s₁.store address value).clearRequest.meter.slaveAddress = s.meter.slaveAddress ∧
      (s₁.store address value).clearRequest.readDones = s.readDones := by
  obtain ⟨c, t, a, log, rfl⟩ := htaken
  cases driver <;> cases address <;> exact ⟨rfl, rfl, rfl, rfl⟩

theorem FastScanned.kept (h : FastScanned driver s s') :
    s'.meter.state = s.meter.state ∧
      s'.meter.registerFullPosition = s.meter.registerFullPosition ∧
      s'.meter.eachValueReadOnce = s.meter.eachValueReadOnce ∧ s'.readDones = s.readDones := by
  obtain ⟨readFast, position, time, callback, rfl⟩ := h
  cases driver <;> exact ⟨rfl, rfl, rfl, rfl⟩

theorem FastScanned.reads (h : FastScanned driver s s') (hreads : s.Reads slave table) :
    s'.Reads slave table := by
  obtain ⟨readFast, position, time, callback, rfl⟩ := h
  cases driver <;> exact hreads.congr rfl rfl

theorem FullScanned.kept [CFloat F] (h : FullScanned s s') :
    s'.meter.state = s.meter.state ∧
      s'.meter.registerFastPosition = s.meter.registerFastPosition ∧
      s'.statics = s.statics := by
  obtain ⟨position, registers, once, calls, rfl, -⟩ := h
  exact ⟨rfl, rfl, rfl⟩

theorem FullScanned.reads [CFloat F] (h : FullScanned s s') (hreads : s.Reads slave table) :
    s'.Reads slave table := by
  obtain ⟨position, registers, once, calls, rfl, -⟩ := h
  exact hreads.congr rfl rfl

/-- What is left of `case 1` once the response is stored and the request cleared. -/
def ScanDriver.nextRegister [CFloat F] (env : TickEnv) (s : Stack F) (driver : ScanDriver) :
    Option (Stack F) :=
  if driver.readFast s.statics then
    meterNextFastRegister (driver.setReadFast false) env.now s.meter.scanFuel
      { s with meter.state := 0 }
  else
    meterNextFullRegister s.meter.scanFuel { s with meter.state := s.meter.state + 1 }

theorem scanRead_stored [CFloat F] {data : ℕ → BitVec 32} {s₁ : Stack F}
    (hresponse : meterGetReadRegistersResponse env.now modbusFcReadInputRegisters env.garbage
      (meterGetRegisterSize s.meter (driver.position s)) s = some (data, s₁)) :
    meterScanRead driver env s =
      (meterHandleNewData (data 0) (s₁.meter.definition (driver.position s₁)) s₁).bind
        fun t => driver.nextRegister env t.clearRequest := by
  rw [meterScanRead, hresponse]
  rfl

/-- The fast read goes on to the next fast register. -/
theorem nextRegister_fast [CFloat F] (env : TickEnv) {j rounds : ℕ}
    (hreads : s.Reads slave table) (hread : driver.readFast s.statics = true)
    (hlt : s.meter.registerFastPosition < registerCount table)
    (hnext : next (isFast table) (registerCount table) s.meter.scanFuel
      s.meter.registerFastPosition = some (j, rounds)) :
    ∃ s', driver.nextRegister env s = some s' ∧ s'.Reads slave table ∧
      s'.readDones = s.readDones ∧
      driver.scan s' = { driver.scan s with
        state := 0
        readFast := rounds == 0
        fast := j } := by
  obtain ⟨s', hs', hfast, hread'⟩ := nextFast_scan driver env.now
    (s := { s with meter.state := 0 }) hreads.current hlt hnext
  have hscanned := fastScanned_next hs'
  obtain ⟨hstate, hfull, honce, hdones⟩ := hscanned.kept
  refine ⟨s', (if_pos hread).trans hs', hscanned.reads (hreads.congr rfl rfl), hdones, ?_⟩
  have hrounds : driver.readFast s'.statics = (rounds == 0) := by
    rw [hread', hread, Bool.true_and]
  exact ScanState.ext hstate hrounds hfast hfull honce

/-- The full read goes on to the next register that is not fast. -/
theorem nextRegister_full [CFloat F] (env : TickEnv) {j rounds : ℕ}
    (hreads : s.Reads slave table) (hread : driver.readFast s.statics = false)
    (hlt : s.meter.registerFullPosition < registerCount table)
    (hnext : next (isSlow table) (registerCount table) s.meter.scanFuel
      s.meter.registerFullPosition = some (j, rounds)) :
    ∃ s', driver.nextRegister env s = some s' ∧ s'.Reads slave table ∧
      s'.readDones = s.readDones + rounds ∧
      driver.scan s' = { driver.scan s with
        state := s.meter.state + 1
        full := j
        once := s.meter.eachValueReadOnce || rounds != 0 } := by
  obtain ⟨s', hs', hdones, hfull, honce⟩ := nextFull_scan
    (s := { s with meter.state := s.meter.state + 1 }) hreads.current hlt hnext
  have hscanned := fullScanned_next hs'
  obtain ⟨hstate, hfast, hstatics⟩ := hscanned.kept
  refine ⟨s', (if_neg ?_).trans hs', hscanned.reads (hreads.congr rfl rfl), hdones, ?_⟩
  · rw [hread]
    exact Bool.false_ne_true
  · exact ScanState.ext hstate (congrArg driver.readFast hstatics) hfast hfull honce

/-- Both positions are before the stop marker. -/
structure Stack.OnTable (slave : UInt8) (table : List MeterDefinition) (s : Stack F) : Prop where
  reads : s.Reads slave table
  fast : s.meter.registerFastPosition < registerCount table
  full : s.meter.registerFullPosition < registerCount table

theorem scanRead_move [CFloat F] {due : Bool} {log : ScanLog} (hscan : Scannable table)
    (hon : s.OnTable slave table) (hstate : s.meter.state = 1)
    (h : meterScanRead driver env s = some s') :
    s'.Reads slave table ∧ ScanMove slave table due (driver.scan s) log (driver.scan s')
      (scanNote driver s (.tick env) s' log) := by
  have hcurrent := hon.reads.current
  have hrequested := scanRead_requested h
  cases hresponse : meterGetReadRegistersResponse env.now modbusFcReadInputRegisters env.garbage
      (meterGetRegisterSize s.meter (driver.position s)) s with
  | none =>
    have hwait : meterScanRead driver env s = some s := by
      rw [meterScanRead, hresponse]
    obtain rfl := Option.some.inj (hwait.symm.trans h)
    rw [scanNote_quiet (tableReads_same rfl) rfl]
    exact ⟨hon.reads, .wait hstate⟩
  | some taken =>
    -- the value is stored first, which the schedule does not see
    obtain ⟨data, s₁⟩ := taken
    obtain ⟨-, htaken, -⟩ := meterGetReadRegistersResponse_some hresponse
    rw [scanRead_stored hresponse] at h
    obtain ⟨s₂, hstore, h⟩ := Option.bind_eq_some_iff.mp h
    obtain ⟨value, address, -, -, rfl⟩ := meterHandleNewData_some hstore
    obtain ⟨hview, htable, hslave, hdones⟩ := stored_scan driver htaken address value
    generalize (s₁.store address value).clearRequest = t at h hview htable hslave hdones
    have hfuel : t.meter.scanFuel = s.meter.scanFuel := by
      rw [Meter.scanFuel, Meter.scanFuel, htable]
    have hreads : t.Reads slave table := hon.reads.congr htable hslave
    obtain ⟨hstate', hread', hfast', hfull', honce'⟩ := ScanState.ext_iff.mp hview
    dsimp only [ScanDriver.scan] at hstate' hread' hfast' hfull' honce'
    -- then one of the two loops looks for the next register
    cases hread : driver.readFast s.statics with
    | true =>
      obtain ⟨j, rounds, hnext, hspec⟩ := exists_next hon.fast hscan.fast (le_scanFuel hcurrent)
      have hlt := hon.fast
      rw [← hfuel, ← hfast'] at hnext
      rw [← hfast'] at hlt
      obtain ⟨t', ht', hreads', hdones', hview'⟩ :=
        nextRegister_fast env hreads (hread'.trans hread) hlt hnext
      obtain rfl := Option.some.inj (ht'.symm.trans h)
      rw [scanNote_quiet (tableReads_same hrequested) (hdones'.trans hdones), hview', hview]
      exact ⟨hreads', .takeFast hstate hread hspec⟩
    | false =>
      obtain ⟨j, rounds, hnext, hspec⟩ := exists_next hon.full hscan.slow (le_scanFuel hcurrent)
      have hlt := hon.full
      rw [← hfuel, ← hfull'] at hnext
      rw [← hfull'] at hlt
      obtain ⟨t', ht', hreads', hdones', hview'⟩ :=
        nextRegister_full env hreads (hread'.trans hread) hlt hnext
      obtain rfl := Option.some.inj (ht'.symm.trans h)
      rw [hdones] at hdones'
      rw [scanNote_readDone hrequested hdones', hview', hview, hstate', honce', hstate]
      exact ⟨hreads', .takeFull hstate hread hspec⟩

theorem scanRequest_move [CFloat F] {log : ScanLog} (hon : s.OnTable slave table)
    (hstate : s.meter.state = 0) :
    (meterScanRequest driver env.now s).Reads slave table ∧
      ScanMove slave table (systemTimerIsTimeElapsedMs env.now s.meter.registerFastTime 500)
        (driver.scan s) log (driver.scan (meterScanRequest driver env.now s))
        (scanNote driver s (.tick env) (meterScanRequest driver env.now s) log) := by
  unfold meterScanRequest
  generalize hread : (systemTimerIsTimeElapsedMs env.now s.meter.registerFastTime 500 ||
    driver.readFast s.statics) = readFast
  have hrequested := scanRegister_requested driver readFast env.now s
  have hdones := scanRegister_readDones driver readFast env.now s
  have hmeter := scanRegister_meter driver readFast env.now s
  have hread' := scanRegister_readFast driver readFast env.now s
  generalize meterScanRegister driver readFast env.now s = s' at *
  have hview : driver.scan s' = { driver.scan s with state := 1, readFast := readFast } := by
    rw [ScanDriver.scan, hmeter, hread', hstate]
    rfl
  rw [hon.reads.readRequest_eq] at hrequested
  rw [hview, scanNote_request hrequested (by rfl) hdones, hread']
  refine ⟨hon.reads.congr ?_ ?_, .request readFast hstate hread.symm⟩
  · rw [hmeter]
  · rw [hmeter]

/-- A tick in a later state has nothing to do with the table. -/
theorem other_move [CFloat F] {due : Bool} {log : ScanLog} (hon : s.OnTable slave table)
    (hlater : 1 < s.meter.state) (htable : s'.meter.currentMeter = s.meter.currentMeter)
    (hslave : s'.meter.slaveAddress = s.meter.slaveAddress) (hreads : tableReads s s' = [])
    (hdones : s'.readDones = s.readDones) (state : ℕ) (hstate : state ≠ 1)
    (hview : driver.scan s' = { driver.scan s with state := state }) :
    s'.Reads slave table ∧ ScanMove slave table due (driver.scan s) log (driver.scan s')
      (scanNote driver s (.tick env) s' log) := by
  rw [scanNote_quiet hreads hdones, hview]
  exact ⟨hon.reads.congr htable hslave, .other state hlater hstate⟩

/-- The other requests of the Eastron driver are no reads of input registers. -/
theorem other_reads {q : MeterRequest} (h : s'.requested = q :: s.requested)
    (hq : q.isInputRead = false) : tableReads s s' = [] := by
  rw [tableReads_cons h, hq]
  rfl

/-- Every tick of a driver is a move of the schedule. -/
theorem tick_move [CFloat F] (log : ScanLog) (hscan : Scannable table)
    (hon : s.OnTable slave table) (h : driver.tick env s = some s') :
    s'.Reads slave table ∧
      ScanMove slave table (systemTimerIsTimeElapsedMs env.now s.meter.registerFastTime 500)
        (driver.scan s) log (driver.scan s') (scanNote driver s (.tick env) s' log) := by
  cases driver with
  | generic =>
    rcases meterGenericTick_cases h with ⟨hstate, rfl⟩ | ⟨hstate, hread⟩ | ⟨hstate, phases, rfl⟩
    · exact scanRequest_move hon hstate
    · exact scanRead_move hscan hon hstate hread
    · exact other_move hon hstate rfl rfl (tableReads_same rfl) rfl 0 (by decide) rfl
  | eastron =>
    rcases meterEastronTick_cases h with ⟨hstate, rfl⟩ | ⟨hstate, hread⟩ | hmove
    · exact scanRequest_move hon hstate
    · exact scanRead_move hscan hon hstate hread
    · cases hmove with
      | wait fc hfc hstate hready =>
        exact other_move hon (by omega) rfl rfl (tableReads_same rfl) rfl s.meter.state (by omega)
          rfl
      | restart phases hstate =>
        exact other_move hon (by omega) rfl rfl (tableReads_same rfl) rfl 0 (by decide) rfl
      | take fc phases isNew read hstate hready htaken =>
        obtain ⟨c, t, a, log, rfl⟩ := htaken
        exact other_move hon (by omega) rfl rfl (tableReads_same rfl) rfl (s.meter.state + 1)
          (by omega) rfl
      | readSystemType hstate =>
        exact other_move hon (by omega) rfl rfl (other_reads (requested_issue env.now _ s) rfl) rfl
          3 (by decide) rfl
      | writePassword hstate =>
        exact other_move hon (by omega) rfl rfl
          (other_reads (requested_issue env.now _ s.clearRequest) rfl) rfl 5 (by decide) rfl
      | writeSystemType systemType hstate hphases =>
        exact other_move hon (by omega) rfl rfl
          (other_reads (requested_issue env.now _ s.clearRequest) rfl) rfl 7 (by decide) rfl

/-! ### The loops end -/

/-- The decoding of the response to be taken does not return. -/
def DecodeHangs [CFloat F] (driver : ScanDriver) (env : TickEnv) (s : Stack F) : Prop :=
  ∃ data s₁, meterGetReadRegistersResponse env.now modbusFcReadInputRegisters env.garbage
      (meterGetRegisterSize s.meter (driver.position s)) s = some (data, s₁) ∧
    meterDecode (F := F) (data 0) (s.meter.definition (driver.position s)) = none

theorem scanRead_returns [CFloat F] (hscan : Scannable table) (hon : s.OnTable slave table)
    (h : meterScanRead driver env s = none) : DecodeHangs driver env s := by
  cases hresponse : meterGetReadRegistersResponse env.now modbusFcReadInputRegisters env.garbage
      (meterGetRegisterSize s.meter (driver.position s)) s with
  | none =>
    rw [meterScanRead, hresponse] at h
    cases h
  | some taken =>
    obtain ⟨data, s₁⟩ := taken
    obtain ⟨hready, htaken, -⟩ := meterGetReadRegistersResponse_some hresponse
    refine ⟨data, s₁, hresponse, ?_⟩
    -- with a value to store, the loop would have to hang
    by_contra hdecode
    obtain ⟨value, hvalue⟩ := Option.ne_none_iff_exists'.mp hdecode
    have hposition : driver.position s < registerCount table := by
      unfold ScanDriver.position
      split
      · exact hon.fast
      · exact hon.full
    have haddress := address_ne_none hposition
    rw [← definition_eq hon.reads.current] at haddress
    obtain ⟨address, haddress⟩ := Option.ne_none_iff_exists'.mp haddress
    have hstore : meterHandleNewData (data 0) (s₁.meter.definition (driver.position s₁)) s₁ =
        some (s₁.store address value) := by
      rw [position_taken driver htaken, definition_taken htaken, meterHandleNewData, hvalue,
        haddress]
      rfl
    rw [scanRead_stored hresponse, hstore] at h
    obtain ⟨hview, htable, hslave, -⟩ := stored_scan driver htaken address value
    have hnone : driver.nextRegister env (s₁.store address value).clearRequest = none := h
    generalize (s₁.store address value).clearRequest = t at hview htable hslave hnone
    obtain ⟨-, -, hfast, hfull, -⟩ := ScanState.ext_iff.mp hview
    have hreads : t.Reads slave table := hon.reads.congr htable hslave
    have hfuel := le_scanFuel hreads.current
    have hlt : t.meter.registerFastPosition < registerCount table := hfast.trans_lt hon.fast
    have hlt' : t.meter.registerFullPosition < registerCount table := hfull.trans_lt hon.full
    -- neither loop does: the table has a register of each kind
    cases hread : driver.readFast t.statics with
    | true =>
      obtain ⟨j, rounds, hnext, -⟩ := exists_next hlt hscan.fast hfuel
      obtain ⟨t', ht', -⟩ := nextRegister_fast env hreads hread hlt hnext
      rw [hnone] at ht'
      cases ht'
    | false =>
      obtain ⟨j, rounds, hnext, -⟩ := exists_next hlt' hscan.slow hfuel
      obtain ⟨t', ht', -⟩ := nextRegister_full env hreads hread hlt' hnext
      rw [hnone] at ht'
      cases ht'

/-- A tick that does not return is not in one of the two loops. -/
theorem tick_returns [CFloat F] (hscan : Scannable table) (hon : s.OnTable slave table)
    (h : driver.tick env s = none) : DecodeHangs driver env s := by
  cases driver with
  | generic =>
    have hread : meterScanRead .generic env s = none := by
      simp only [ScanDriver.tick, meterGenericTick] at h
      split at h
      · cases h
      · exact h
      · split at h <;> cases h
      · cases h
    exact scanRead_returns hscan hon hread
  | eastron =>
    have hread : meterScanRead .eastron env s = none := by
      simp only [ScanDriver.tick, meterEastronTick] at h
      split at h
      · cases h
      · exact h
      all_goals (repeat' split at h) <;> cases h
    exact scanRead_returns hscan hon hread

/-! ### Every register in its turn -/

/-- The requests of a full read, in table order. -/
def slowReads (slave : UInt8) (table : List MeterDefinition) : List MeterRequest :=
  (slowPositions table).map (tableRead slave table)

/-- The full read has requested what is in front of its position, and it stands on a
register that is not fast. -/
structure PassInv (slave : UInt8) (table : List MeterDefinition) (v : ScanState)
    (log : ScanLog) : Prop where
  fast : v.fast < registerCount table
  full : v.full < registerCount table
  slow : isSlow table v.full = true
  pass : log.pass = (below (isSlow table)
    (if v.state = 1 ∧ v.readFast = false then v.full + 1 else v.full)).map (tableRead slave table)
  passes : ∀ pass ∈ log.passes, pass = slowReads slave table
  once : v.once = true → log.passes ≠ []

variable {v v' : ScanState} {log log' : ScanLog} {due : Bool}

theorem PassInv.move (h : PassInv slave table v log)
    (hmove : ScanMove slave table due v log v' log') : PassInv slave table v' log' := by
  have hrest : v.state ≠ 1 →
      log.pass = (below (isSlow table) v.full).map (tableRead slave table) := by
    intro hstate
    rw [h.pass, if_neg fun hout => hstate hout.1]
  cases hmove with
  | request readFast hstate hread =>
    have hpass := hrest (by omega)
    cases readFast with
    | true => exact ⟨h.fast, h.full, h.slow, hpass, h.passes, h.once⟩
    | false =>
      refine ⟨h.fast, h.full, h.slow, ?_, h.passes, h.once⟩
      show log.pass ++ [tableRead slave table v.full] =
        (below (isSlow table) (v.full + 1)).map (tableRead slave table)
      rw [below_succ h.slow, List.map_append, hpass]
      rfl
  | wait hstate => exact h
  | takeFast hstate hread hnext =>
    -- the full read is not asked in a fast turn
    have hpass : log.pass = (below (isSlow table) v.full).map (tableRead slave table) := by
      rw [h.pass, hread, if_neg fun hout => Bool.noConfusion hout.2]
    exact ⟨hnext.lt, h.full, h.slow, hpass, h.passes, h.once⟩
  | @takeFull j rounds hstate hread hnext =>
    have hpass : log.pass = (below (isSlow table) (v.full + 1)).map (tableRead slave table) := by
      rw [h.pass, if_pos ⟨hstate, hread⟩]
    rcases hnext.rounds with rfl | rfl
    · refine ⟨h.fast, hnext.lt, hnext.selected, ?_, h.passes, ?_⟩
      · show log.pass = (below (isSlow table) j).map (tableRead slave table)
        rw [hpass, hnext.below_ahead]
      · exact fun honce => h.once ((Bool.or_false _).symm.trans honce)
    · -- the pass is complete, and the next one begins
      obtain ⟨hcomplete, hempty⟩ := hnext.below_around h.full
      refine ⟨h.fast, hnext.lt, hnext.selected, ?_, ?_, ?_⟩
      · show [] = (below (isSlow table) j).map (tableRead slave table)
        rw [hempty]
        rfl
      · intro pass hmem
        rcases List.mem_append.mp hmem with hmem | hmem
        · exact h.passes pass hmem
        · rw [List.mem_singleton.mp hmem, hpass, hcomplete]
          rfl
      · exact fun _ => List.append_ne_nil_of_right_ne_nil _ (List.cons_ne_nil _ _)
  | other state hstate hstate' =>
    refine ⟨h.fast, h.full, h.slow, ?_, h.passes, h.once⟩
    rw [hrest (by omega)]
    have hpass : (if state = 1 ∧ v.readFast = false then v.full + 1 else v.full) = v.full :=
      if_neg fun hout => hstate' hout.1
    rw [hpass]

/-- The pass that is going on has come so far. -/
theorem PassInv.pass_prefix (h : PassInv slave table v log) :
    log.pass <+: slowReads slave table := by
  have hbegins {i : ℕ} (hle : i ≤ registerCount table) :
      below (isSlow table) i <+: slowPositions table := by
    have htake : List.range i = (List.range (registerCount table)).take i := by
      rw [List.take_range, Nat.min_eq_left hle]
    rw [slowPositions, below, below, htake]
    exact (List.take_prefix i _).filter _
  have hfull := h.full
  rw [h.pass]
  split_ifs
  · exact (hbegins (by omega)).map _
  · exact (hbegins (by omega)).map _

/-- All fast registers have been requested, or the first fast read is not over and the full
one has not begun. -/
def FastInv (slave : UInt8) (table : List MeterDefinition) (v : ScanState) (log : ScanLog) :
    Prop :=
  (∀ k < registerCount table, isFast table k = true → tableRead slave table k ∈ log.fast) ∨
    v.once = false ∧ v.readFast = true ∧ v.state ≤ 1 ∧
      ∀ k, isFast table k = true → k < v.fast ∨ v.state = 1 ∧ k = v.fast →
        tableRead slave table k ∈ log.fast

theorem mem_request {p q : MeterRequest} (readFast : Bool) (h : p ∈ log.fast) :
    p ∈ (log.request readFast q).fast := by
  cases readFast with
  | true => exact List.mem_cons_of_mem _ h
  | false => exact h

theorem readDone_fast (n : ℕ) (log : ScanLog) : (ScanLog.readDone^[n] log).fast = log.fast := by
  induction n with
  | zero => rfl
  | succ n ih =>
    rw [Function.iterate_succ_apply']
    exact ih

theorem FastInv.move (h : FastInv slave table v log)
    (hmove : ScanMove slave table due v log v' log') : FastInv slave table v' log' := by
  rcases h with hall | ⟨honce, hread, hstate, hfirst⟩
  · -- once all are requested they stay so
    left
    intro k hk hfast
    have hmem := hall k hk hfast
    cases hmove with
    | request readFast => exact mem_request _ hmem
    | wait => exact hmem
    | takeFast => exact hmem
    | takeFull =>
      rw [readDone_fast]
      exact hmem
    | other => exact hmem
  · -- the first fast read: what lies behind its position has been requested
    cases hmove with
    | request readFast hzero hread' =>
      rw [hread, Bool.or_true] at hread'
      subst hread'
      refine Or.inr ⟨honce, rfl, le_rfl, ?_⟩
      rintro k hfast (hlt | ⟨-, rfl⟩)
      · exact List.mem_cons_of_mem _ (hfirst k hfast (Or.inl hlt))
      · exact List.mem_cons_self
    | wait hone => exact Or.inr ⟨honce, hread, hstate, hfirst⟩
    | @takeFast j rounds hone _ hnext =>
      have hasked {k : ℕ} (hfast : isFast table k = true) (hle : k ≤ v.fast) :
          tableRead slave table k ∈ log.fast := by
        rcases Nat.lt_or_eq_of_le hle with hlt | heq
        · exact hfirst k hfast (Or.inl hlt)
        · exact hfirst k hfast (Or.inr ⟨hone, heq⟩)
      rcases hnext.rounds with rfl | rfl
      · refine Or.inr ⟨honce, rfl, Nat.zero_le 1, ?_⟩
        rintro k hfast (hlt | ⟨hone', -⟩)
        · exact hasked hfast (hnext.passed_ahead hlt hfast)
        · cases hone'
      · -- past the front: all of them have had their turn
        exact Or.inl fun k hk hfast => hasked hfast (hnext.passed_around hk hfast)
    | takeFull _ hslow =>
      rw [hread] at hslow
      cases hslow
    | other _ hlater => omega

/-! ### Runs -/

theorem PassInv.onTable (h : PassInv slave table (driver.scan s) log)
    (hreads : s.Reads slave table) : s.OnTable slave table := ⟨hreads, h.fast, h.full⟩

/-- What the runs keep. -/
structure ScheduleInv (slave : UInt8) (table : List MeterDefinition) (driver : ScanDriver)
    (s : Stack F) (log : ScanLog) : Prop where
  reads : s.Reads slave table
  pass : PassInv slave table (driver.scan s) log

theorem ScheduleInv.step [CFloat F] {e : ScanEvent} (hscan : Scannable table)
    (h : ScheduleInv slave table driver s log) (hstep : scanStep driver s e = some s') :
    ScheduleInv slave table driver s' (scanNote driver s e s' log) ∧
      (FastInv slave table (driver.scan s) log →
        FastInv slave table (driver.scan s') (scanNote driver s e s' log)) := by
  cases e with
  | bus rs485 =>
    obtain rfl := Option.some.inj hstep
    have hsame : driver.scan { s with rs485 := rs485 } = driver.scan s := rfl
    rw [hsame]
    refine ⟨⟨h.reads.congr rfl rfl, ?_⟩, id⟩
    rw [hsame]
    exact h.pass
  | tick env =>
    obtain ⟨hreads, hmove⟩ := tick_move log hscan (h.pass.onTable h.reads) hstep
    exact ⟨⟨hreads, h.pass.move hmove⟩, fun hfast => hfast.move hmove⟩

theorem scheduleInv_init [CFloat F] (hscan : Scannable table) (driver : ScanDriver)
    (now : ℕ) (type : MeterType) (s : Stack F) :
    ScheduleInv type.slaveAddress table driver (scanInit now type table s) .empty := by
  have hslow : isSlow table 0 = true := by
    rw [isSlow, hscan.front]
    rfl
  refine ⟨⟨rfl, rfl⟩, hscan.pos, hscan.pos, hslow, rfl, ?_, ?_⟩
  · exact fun pass hmem => absurd hmem List.not_mem_nil
  · intro honce
    cases honce

/-- The first tick of a run. -/
def firstTick : List ScanEvent → Option TickEnv
  | [] => none
  | .bus _ :: events => firstTick events
  | .tick env :: _ => some env

/-- The timer counts modulo 2^32. -/
theorem elapsed_of_mod {start time : ℕ} (hle : start ≤ now)
    (h : time ≤ (now - start) % 2 ^ 32) :
    systemTimerIsTimeElapsedMs now (systemTimerGetMs start) time = true := by
  rw [systemTimerIsTimeElapsedMs, systemTimerGetMs, systemTimerGetMs, decide_eq_true_iff]
  omega

/-- The first tick finds that the fast registers are due. -/
theorem fastInv_first [CFloat F] (hscan : Scannable table) {start : ℕ} {type : MeterType}
    (hle : start ≤ env.now) (hdue : 500 ≤ (env.now - start) % 2 ^ 32)
    (h : driver.tick env (scanInit start type table s) = some s') :
    FastInv type.slaveAddress table (driver.scan s')
      (scanNote driver (scanInit start type table s) (.tick env) s' .empty) := by
  have hinv := scheduleInv_init hscan driver start type s
  have hzero : (driver.scan (scanInit start type table s)).state = 0 := rfl
  have hfast : (driver.scan (scanInit start type table s)).fast = 0 := rfl
  have honce : (driver.scan (scanInit start type table s)).once = false := rfl
  have htime : (scanInit start type table s).meter.registerFastTime = systemTimerGetMs start := rfl
  obtain ⟨-, hmove⟩ := tick_move .empty hscan (hinv.pass.onTable hinv.reads) h
  rw [htime, elapsed_of_mod hle hdue] at hmove
  generalize driver.scan (scanInit start type table s) = v at hmove hzero hfast honce
  generalize driver.scan s' = v' at hmove ⊢
  generalize scanNote driver (scanInit start type table s) (.tick env) s' .empty = log' at hmove ⊢
  cases hmove with
  | request readFast _ hread =>
    rw [Bool.true_or] at hread
    subst hread
    refine Or.inr ⟨honce, rfl, le_rfl, ?_⟩
    rintro k - (hlt | ⟨-, rfl⟩)
    · rw [hfast] at hlt
      exact absurd hlt (Nat.not_lt_zero k)
    · exact List.mem_cons_self
  | wait hstate => omega
  | takeFast hstate => omega
  | takeFull hstate => omega
  | other state hstate => omega

theorem run_scheduleInv [CFloat F] (hscan : Scannable table) {t : Stack F} {log' : ScanLog}
    {events : List ScanEvent} (h : ScheduleInv slave table driver s log)
    (hrun : run (observed (scanStep driver) (scanNote driver)) (s, log) events =
      some (t, log')) :
    ScheduleInv slave table driver t log' ∧
      (FastInv slave table (driver.scan s) log → FastInv slave table (driver.scan t) log') := by
  let P : Stack F × ScanLog → Prop := fun p => ScheduleInv slave table driver p.1 p.2 ∧
    (FastInv slave table (driver.scan s) log → FastInv slave table (driver.scan p.1) p.2)
  have hstep : ∀ p e p', P p → observed (scanStep driver) (scanNote driver) p e = some p' →
      P p' := by
    rintro p e p' ⟨hinv, hfast⟩ hobserved
    obtain ⟨hnext, hnote⟩ := observed_eq_some.mp hobserved
    obtain ⟨hinv', hfast'⟩ := hinv.step hscan hnext
    rw [← hnote] at hinv' hfast'
    exact ⟨hinv', fun hstart => hfast' (hfast hstart)⟩
  exact run_induct hstep ⟨h, id⟩ hrun

/-- From the first tick on the fast registers come first. -/
theorem run_fastInv [CFloat F] (hscan : Scannable table) {start : ℕ} {type : MeterType}
    {events : List ScanEvent} {t : Stack F}
    (hfirst : ∀ env, firstTick events = some env →
      start ≤ env.now ∧ 500 ≤ (env.now - start) % 2 ^ 32)
    (hrun : run (observed (scanStep driver) (scanNote driver))
      (scanInit start type table s, .empty) events = some (t, log)) :
    t.meter.eachValueReadOnce = false ∨ FastInv type.slaveAddress table (driver.scan t) log := by
  induction events generalizing s with
  | nil =>
    obtain ⟨rfl, rfl⟩ := Prod.mk.inj (Option.some.inj hrun)
    exact Or.inl rfl
  | cons e events ih =>
    obtain ⟨⟨s', log'⟩, he, hrest⟩ := run_cons_eq_some.mp hrun
    obtain ⟨hstep, hnote⟩ := observed_eq_some.mp he
    dsimp only at hstep hnote
    cases e with
    | bus rs485 =>
      -- the bus may as well have been like this from the beginning
      obtain rfl := Option.some.inj hstep
      subst hnote
      exact ih (s := { s with rs485 := rs485 }) hfirst hrest
    | tick env =>
      obtain ⟨hle, hdue⟩ := hfirst env rfl
      have hinv := scheduleInv_init hscan driver start type s
      have hfast := fastInv_first hscan hle hdue hstep
      have hinv' := (hinv.step hscan hstep).1
      rw [← hnote] at hfast hinv'
      exact Or.inr ((run_scheduleInv hscan hinv' hrest).2 hfast)

/-! ### Main result -/

/-- In every run from `meter_init`, whatever happens on the bus: the loops over the table
end, both positions stay before the stop marker, each full read requests the registers that
are not fast once and in table order, and the one that is going on has come some way.  Once
all values have been read every register has been requested, if less than 500 ms modulo
2^32 have not been the time to the first tick. -/
theorem registers_scheduled [CFloat F] {start : ℕ} {type : MeterType} {t : Stack F}
    {events : List ScanEvent} (hscan : Scannable table)
    (hrun : run (observed (scanStep driver) (scanNote driver))
      (scanInit start type table s, .empty) events = some (t, log)) :
    (∀ env, driver.tick env t = none → DecodeHangs driver env t) ∧
      (t.meter.registerFastPosition < registerCount table ∧
        t.meter.registerFullPosition < registerCount table) ∧
      (∀ pass ∈ log.passes, pass = slowReads type.slaveAddress table) ∧
      log.pass <+: slowReads type.slaveAddress table ∧
      ((∀ env, firstTick events = some env →
          start ≤ env.now ∧ 500 ≤ (env.now - start) % 2 ^ 32) →
        t.meter.eachValueReadOnce = true → ∀ position < registerCount table,
          if isFast table position then tableRead type.slaveAddress table position ∈ log.fast
          else ∃ pass ∈ log.passes, tableRead type.slaveAddress table position ∈ pass) := by
  have hinv := (run_scheduleInv hscan (scheduleInv_init hscan driver start type s) hrun).1
  have hon := hinv.pass.onTable hinv.reads
  refine ⟨fun env => tick_returns hscan hon, ⟨hon.fast, hon.full⟩, hinv.pass.passes,
    hinv.pass.pass_prefix, ?_⟩
  intro hfirst honce position hlt
  -- a fast register is in the log of the fast reads, any other one in the first full pass
  cases hfast : isFast table position with
  | true =>
    rw [if_pos rfl]
    rcases run_fastInv hscan hfirst hrun with hnot | hall | ⟨hnot, -⟩
    · rw [honce] at hnot
      cases hnot
    · exact hall position hlt hfast
    · have honce' : t.meter.eachValueReadOnce = false := hnot
      rw [honce] at honce'
      cases honce'
  | false =>
    rw [if_neg Bool.false_ne_true]
    obtain ⟨pass, hmem⟩ := List.exists_mem_of_ne_nil _ (hinv.pass.once honce)
    refine ⟨pass, hmem, ?_⟩
    rw [hinv.pass.passes pass hmem, slowReads]
    apply List.mem_map_of_mem
    rw [slowPositions, mem_below, isSlow, hfast]
    exact ⟨hlt, rfl⟩

/-! ### The tables of the two drivers -/

theorem table_scannable {type : MeterType}
    (h : type.driver = some .generic ∨ type.driver = some .eastron) :
    Scannable (type.table.getD []) := by
  cases type with
  | sdm72V2 | sdm630 | sdm630MctV2 | dem4A | dmed341Mid7Er =>
    exact ⟨by decide +kernel, by decide +kernel, by decide +kernel⟩
  | detection | unknown | unsupported | sdm72Ctm | dsz15Dzmod | dsz16Dze | wm3M4C | wm3M4 =>
    rcases h with h | h <;> cases h

/-- A bus on which every request has just been answered with zeros. -/
def answeringBus : RS485 :=
  { meterIssue 0 (.readRegisters modbusFcReadInputRegisters 1 0 2)
      (modbusInit 0 (rs485InitBuffer 64 64)) with requestCbInvoke := true }

/-- As many registers of a DEM4A as there are, and one more are read, all at `now`. -/
def dem4aScanRun (now : ℕ) : List ScanEvent :=
  (List.replicate 102 [.bus answeringBus, .tick (idleEnv now)]).flatten

/-- The fast registers come first, and then all the others. -/
theorem registers_scheduled_dem4a :
    ∃ t log, run (observed (scanStep .generic) (scanNote .generic)) (scanInit 0 .dem4A meterDem4a
        (stackInit (F := ExactFloat) 64 64 0), .empty) (dem4aScanRun 2500) = some (t, log) ∧
      t.meter.eachValueReadOnce = true ∧ log.passes = [slowReads 1 meterDem4a] ∧
      ∀ position < registerCount meterDem4a,
        if isFast meterDem4a position then tableRead 1 meterDem4a position ∈ log.fast
        else ∃ pass ∈ log.passes, tableRead 1 meterDem4a position ∈ pass := by
  have hany : (run (observed (scanStep .generic) (scanNote .generic)) (scanInit 0 .dem4A meterDem4a
      (stackInit (F := ExactFloat) 64 64 0), .empty) (dem4aScanRun 2500)).any (fun p => decide
        (p.1.meter.eachValueReadOnce = true ∧ p.2.passes = [slowReads 1 meterDem4a])) = true := by
    decide +kernel
  obtain ⟨⟨t, log⟩, hrun, hread⟩ := (Option.any_eq_true _ _).mp hany
  obtain ⟨honce, hpasses⟩ := of_decide_eq_true hread
  have hscan : Scannable meterDem4a := table_scannable (Or.inl rfl : MeterType.dem4A.driver = _ ∨ _)
  have hfirst : ∀ env, firstTick (dem4aScanRun 2500) = some env →
      0 ≤ env.now ∧ 500 ≤ (env.now - 0) % 2 ^ 32 := by
    intro env henv
    obtain rfl : idleEnv 2500 = env := Option.some.inj henv
    decide
  obtain ⟨-, -, -, -, hrequested⟩ := registers_scheduled hscan hrun
  exact ⟨t, log, hrun, honce, hpasses, hrequested hfirst honce⟩

/-- With the first tick 100 ms after the timer has gone round, the full read comes first,
and all values have been read once without a fast register having been requested. -/
theorem registers_scheduled_wrapped :
    ∃ t log, run (observed (scanStep .generic) (scanNote .generic)) (scanInit 0 .dem4A meterDem4a
        (stackInit (F := ExactFloat) 64 64 0), .empty) (dem4aScanRun (2 ^ 32 + 100)) =
          some (t, log) ∧
      Scannable meterDem4a ∧
      (∀ env, firstTick (dem4aScanRun (2 ^ 32 + 100)) = some env → 0 + 2500 ≤ env.now) ∧
      t.meter.eachValueReadOnce = true ∧
      ∃ position < registerCount meterDem4a, tableRead 1 meterDem4a position ∉ log.fast ∧
        ∀ pass ∈ log.passes, tableRead 1 meterDem4a position ∉ pass := by
  have hany : (run (observed (scanStep .generic) (scanNote .generic)) (scanInit 0 .dem4A meterDem4a
      (stackInit (F := ExactFloat) 64 64 0), .empty) (dem4aScanRun (2 ^ 32 + 100))).any (fun p =>
        decide (p.1.meter.eachValueReadOnce = true ∧
          ∃ position < registerCount meterDem4a, tableRead 1 meterDem4a position ∉ p.2.fast ∧
            ∀ pass ∈ p.2.passes, tableRead 1 meterDem4a position ∉ pass)) = true := by
    decide +kernel
  obtain ⟨⟨t, log⟩, hrun, hread⟩ := (Option.any_eq_true _ _).mp hany
  obtain ⟨honce, hmissing⟩ := of_decide_eq_true hread
  have hscan : Scannable meterDem4a := table_scannable (Or.inl rfl : MeterType.dem4A.driver = _ ∨ _)
  refine ⟨t, log, hrun, hscan, fun env henv => ?_, honce, hmissing⟩
  obtain rfl : idleEnv (2 ^ 32 + 100) = env := Option.some.inj henv
  decide

end Bricklib2
