/-
Bricklib2/Warp/BusCalls.lean

What a tick of the meter stack does to the RS485 driver: calls of the functions of
meter.c and modbus.c, in any order, and nothing else.  Here nothing is said about
when a call is allowed, so this holds from every state, and for the external users
of the bus as well as for the drivers.

Main result: `meterTick_calls`.
-/
import Bricklib2.Warp.MeterFind

namespace Bricklib2

variable {F : Type} {r r' : RS485}

/-- A sequence of calls takes the RS485 driver from `r` to `r'`. -/
inductive BusCalls (r : RS485) : RS485 → Prop
  | refl : BusCalls r r
  | counters {r' : RS485} (c : RS485ModbusCommonErrorCounters) (h : BusCalls r r') :
      BusCalls r { r' with errorCounters := c }
  | issue {r' : RS485} (now : ℕ) (q : MeterRequest) (h : BusCalls r r') :
      BusCalls r (meterIssue now q r')
  | clear {r' : RS485} (h : BusCalls r r') : BusCalls r (modbusClearRequest r')

/-- What keeps a predicate in every call, keeps it in the sequence. -/
theorem BusCalls.induct {P : RS485 → Prop}
    (hcounters : ∀ r c, P r → P { r with errorCounters := c })
    (hissue : ∀ r now q, P r → P (meterIssue now q r))
    (hclear : ∀ r, P r → P (modbusClearRequest r)) (hr : P r) (h : BusCalls r r') : P r' := by
  induction h with
  | refl => exact hr
  | counters c _ ih => exact hcounters _ c ih
  | issue now q _ ih => exact hissue _ now q ih
  | clear _ ih => exact hclear _ ih

theorem BusRun.calls {now : ℕ} {o o' : Option MeterRequest} (h : BusRun now r o o' r') :
    BusCalls r r' := by
  induction h with
  | refl => exact .refl
  | counters c _ ih => exact .counters c ih
  | issue q _ _ ih => exact .issue now q ih
  | clear _ _ ih => exact .clear ih

theorem Taken.calls {s s' : Stack F} (h : Taken s s') : BusCalls s.rs485 s'.rs485 := by
  obtain ⟨c, t, a, log, rfl⟩ := h
  exact .counters c .refl

/-! ### The external users -/

/-- A module outside uses the bus through the same functions. -/
def ExternalTick.UsesBus (tick : ExternalTick) : Prop := ∀ r, BusCalls r (tick.rs485 r)

/-- What is outside of the meter module only uses the bus while the meter has it lent. -/
structure TickEnv.ExternalsUseBus (env : TickEnv) : Prop where
  eichrechtInit : env.eichrechtInitTick.UsesBus
  eichrecht : env.eichrechtTick.UsesBus
  display : env.displayTick.UsesBus

/-! ### The drivers -/

variable {env : TickEnv} {s s' : Stack F}

theorem meterScanRegister_calls (driver : ScanDriver) (readFast : Bool) (now : ℕ) (s : Stack F) :
    BusCalls s.rs485 (meterScanRegister driver readFast now s).rs485 := by
  let position := if readFast then s.meter.registerFastPosition else s.meter.registerFullPosition
  cases driver <;> exact .issue now (s.meter.readRequest position) .refl

theorem meterScanRead_calls [CFloat F] {driver : ScanDriver}
    (h : meterScanRead driver env s = some s') : BusCalls s.rs485 s'.rs485 := by
  rcases meterScanRead_cases h with ⟨-, rfl⟩ | ⟨data, s₁, value, address, hresponse, -, -, hscan⟩
  · exact .refl
  · obtain ⟨-, htaken, -⟩ := meterGetReadRegistersResponse_some hresponse
    have hclear := htaken.calls.clear
    rcases hscan with ⟨-, b, p, t', cb, rfl⟩ | ⟨-, p, regs, once, calls, rfl, -⟩
    · simpa [Stack.stored, Stack.clearRequest] using hclear
    · simpa [Stack.stored, Stack.clearRequest] using hclear

theorem meterGenericTick_calls [CFloat F] (h : meterGenericTick env s = some s') :
    BusCalls s.rs485 s'.rs485 := by
  rcases meterGenericTick_cases h with ⟨-, rfl⟩ | ⟨-, hread⟩ | ⟨-, phases, rfl⟩
  · exact meterScanRegister_calls _ _ _ _
  · exact meterScanRead_calls hread
  · exact .refl

theorem eastronMove_calls {now : ℕ} (h : EastronMove now s s') : BusCalls s.rs485 s'.rs485 := by
  cases h with
  | wait fc hfc hstate hready => exact .refl
  | restart phases hstate => exact .refl
  | take fc phases isNew read hstate hready htaken => exact htaken.calls.clear
  | readSystemType hstate =>
    exact .issue now (.readRegisters modbusFcReadHoldingRegisters s.meter.slaveAddress
      meterSdmHoldingRegSystemType 2) .refl
  | writePassword hstate => exact .issue now s.meter.passwordRequest (.clear .refl)
  | writeSystemType systemType hstate hphases =>
    exact .issue now (s.meter.systemTypeRequest systemType) (.clear .refl)

theorem meterEastronTick_calls [CFloat F] (h : meterEastronTick env s = some s') :
    BusCalls s.rs485 s'.rs485 := by
  rcases meterEastronTick_cases h with ⟨-, rfl⟩ | ⟨-, hread⟩ | hmove
  · exact meterScanRegister_calls _ _ _ _
  · exact meterScanRead_calls hread
  · exact eastronMove_calls hmove

theorem meterEltakoTick_calls [CFloat F] (h : meterEltakoTick env s = some s') :
    BusCalls s.rs485 s'.rs485 := by
  cases meterEltakoTick_cases h with
  | request hstate => exact .issue env.now s.meter.eltakoRequest .refl
  | wait hstate hready => exact .refl
  | take hstate hresponse =>
    obtain ⟨-, htaken, -⟩ := meterGetReadRegistersResponse_some hresponse
    exact htaken.calls
  | store value address hstate hnew hreg hvalue haddress => cases address <;> exact .refl
  | stored phases hstate hnew => exact .clear .refl
  | skip hstate hnew => exact .refl
  | restart hstate => exact .refl
  | calculate hstate htime hnew hcalculate =>
    obtain ⟨registers, value, once, calls, rfl⟩ := calculated_eltako hcalculate
    exact .refl
  | calculated hstate htime => exact .refl
  | rest hstate htime => exact .refl
  | default hstate => exact .refl

theorem iskraFastMove_calls [CFloat F] (h : IskraFastMove env s s') :
    BusCalls s.rs485 s'.rs485 := by
  cases h with
  | requestVoltages hfast => exact .issue env.now s.meter.iskraVoltageRequest .refl
  | wait hfast hready => exact .refl
  | takeVoltages phases time hfast hresponse hstored =>
    obtain ⟨-, htaken, -⟩ := meterGetReadRegistersResponse_some hresponse
    have hclear := htaken.calls.clear
    rw [← (tookCells_kept hstored).1] at hclear
    exact hclear
  | requestCurrents hfast => exact .issue env.now s.meter.iskraCurrentRequest .refl
  | takeCurrents hfast hresponse hstored =>
    obtain ⟨-, htaken, -⟩ := meterGetReadRegistersResponse_some hresponse
    have hclear := htaken.calls.clear
    rw [← (tookCells_kept hstored).1] at hclear
    exact hclear
  | reset hfast => exact .refl

theorem iskraSlowMove_calls [CFloat F] (h : IskraSlowMove env s s') :
    BusCalls s.rs485 s'.rs485 := by
  cases h with
  | request hstate => exact .issue env.now s.meter.iskraSlowRequest .refl
  | wait q hq hready => exact .refl
  | take value address hstate hresponse hvalue haddress =>
    obtain ⟨-, htaken, -⟩ := meterGetReadRegistersResponse_some hresponse
    cases address <;> exact htaken.calls.clear
  | takeLast value address hstate hresponse hvalue haddress =>
    obtain ⟨-, htaken, -⟩ := meterGetReadRegistersResponse_some hresponse
    cases address <;> exact htaken.calls.clear
  | restart hstate => exact .refl
  | readDone phases hstate => exact .refl
  | requestStatus register hstate =>
    exact .issue env.now (s.meter.iskraStatusRequest register) .refl
  | takeStatus q measurement signature hstate hq hready htaken => exact htaken.calls.clear

theorem meterIskraTick_calls [CFloat F] (hexternal : env.ExternalsUseBus)
    (h : meterIskraTick env s = some s') : BusCalls s.rs485 s'.rs485 := by
  cases meterIskraTick_cases h with
  | init hinit => exact hexternal.eichrechtInit s.rs485
  | transaction hpending => exact hexternal.eichrecht s.rs485
  | display hpending => exact hexternal.display s.rs485
  | fast hdue hmove => exact iskraFastMove_calls hmove
  | slow hdue hmove => exact iskraSlowMove_calls hmove

/-! ### The tick -/

theorem meterDriverTick_calls [CFloat F] (hexternal : env.ExternalsUseBus)
    (h : meterDriverTick env s = some s') : BusCalls s.rs485 s'.rs485 := by
  unfold meterDriverTick at h
  split at h
  · exact meterEastronTick_calls h
  · exact meterGenericTick_calls h
  · exact meterIskraTick_calls hexternal h
  · exact meterEltakoTick_calls h
  · obtain rfl := Option.some.inj h
    exact .refl

theorem findMove_calls {now : ℕ} (h : FindMove now s s') : BusCalls s.rs485 s'.rs485 := by
  cases h with
  | again horder => exact .refl
  | wait horder hfind => exact hfind.bus.calls.counters _
  | found horder hfind hdetection hunknown => exact hfind.bus.calls.counters _
  | next horder hfind => exact hfind.bus.calls.counters _

theorem meterTick_calls [CFloat F] (hexternal : env.ExternalsUseBus)
    (h : meterTick env s = some s') : BusCalls s.rs485 s'.rs485 := by
  cases meterTick_cases h with
  | unsupported _ => exact .refl
  | errorWait _ => exact .refl
  | firstWait _ _ => exact .refl
  | find _ => exact findMove_calls (s := s.started) (meterFindMeterType_cases env _)
  | drive _ _ _ hcheck hdrive =>
    have hdriver := meterDriverTick_calls hexternal hdrive
    rcases (meterCheckState_some hcheck).2 with ⟨-, rfl⟩ | ⟨-, rfl⟩
    · exact hdriver
    · exact hdriver

end Bricklib2
