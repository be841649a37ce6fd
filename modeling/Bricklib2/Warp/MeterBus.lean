/-
Bricklib2/Warp/MeterBus.lean

The drivers keep the rules of the RTU master: a driver issues a request only in a
state in which it waits for none.  `MeterDriver.outstanding` reads off the control
state which request a driver waits for, and every driver's tick is a `BusRun`
from the request outstanding before it to the one outstanding after it.
-/
import Bricklib2.Warp.BusRun
import Bricklib2.Warp.MeterTick

namespace Bricklib2

open Machine

variable {F : Type}

/-! ### Which request is outstanding -/

/-- The request of a driver that has no answer yet. -/
def MeterDriver.outstanding (s : Stack F) : MeterDriver → Option MeterRequest
  | .eastron => eastronOutstanding s
  | .generic => genericOutstanding s
  | .iskra => iskraOutstanding s
  | .eltako => eltakoOutstanding s

/-! ### The wire side -/

/-- Whatever is not a tick of the meter is a step of the master, and leaves the record of the
request alone. -/
theorem stackStep_wire [CFloat F] {s s' : Stack F} {e : StackEvent}
    (h : stackStep s e = some s') :
    (∃ env, e = .meterTick env) ∨ ∃ r, s' = { s with rs485 := r } ∧
      (∃ e', masterStep s.rs485 e' = some r) ∧ WireStep s.rs485 r := by
  cases e with
  | receive value answers =>
    obtain rfl := Option.some.inj h
    exact Or.inr ⟨_, rfl, ⟨.receive value answers, rfl⟩, wireStep_receive value answers s.rs485⟩
  | rxIrq now =>
    obtain rfl := Option.some.inj h
    exact Or.inr ⟨_, rfl, ⟨.rxIrq now, rfl⟩, wireStep_rxIrq now s.rs485⟩
  | txIrq =>
    simp only [stackStep] at h
    split_ifs at h with hevent
    obtain rfl := Option.some.inj h
    exact Or.inr ⟨_, rfl, ⟨.txIrq, if_pos hevent⟩, wireStep_txLoop _ _⟩
  | txShift =>
    obtain rfl := Option.some.inj h
    exact Or.inr ⟨_, rfl, ⟨.txShift, rfl⟩, ⟨rfl, rfl, rfl, rfl, id, rfl, rfl⟩⟩
  | rs485Tick now irq =>
    obtain rfl := Option.some.inj h
    exact Or.inr ⟨_, rfl, ⟨.tick now irq, rfl⟩, wireStep_tick now irq s.rs485⟩
  | meterTick env => exact Or.inl ⟨env, rfl⟩

/-! ### Driver ticks -/

/-- One tick of a driver: what it does to the bus, and what it does not touch. -/
structure DriverStep (now : ℕ) (o o' : Option MeterRequest) (s s' : Stack F) : Prop where
  bus : BusRun now s.rs485 o o' s'.rs485
  type : s'.meter.type = s.meter.type
  slave : s'.meter.slaveAddress = s.meter.slaveAddress
  table : s'.meter.currentMeter = s.meter.currentMeter

theorem DriverStep.of {now : ℕ} {o o' o₀ o₁ : Option MeterRequest} {s s' : Stack F}
    (ho : o = o₀) (ho' : o' = o₁) (hbus : BusRun now s.rs485 o₀ o₁ s'.rs485)
    (ht : s'.meter.type = s.meter.type) (hs : s'.meter.slaveAddress = s.meter.slaveAddress)
    (hc : s'.meter.currentMeter = s.meter.currentMeter) : DriverStep now o o' s s' := by
  rw [ho, ho']
  exact ⟨hbus, ht, hs, hc⟩

/-- Taking a response and clearing the request, on the bus. -/
theorem busRun_take {o : Option MeterRequest} (now : ℕ) {s s₁ : Stack F} {fc : UInt8}
    (hready : meterIsResponseReady fc s.rs485 = true) (htaken : Taken s s₁) :
    BusRun now s.rs485 o none (modbusClearRequest s₁.rs485) := by
  obtain ⟨c, t, a, log, rfl⟩ := htaken
  exact .clear (Or.inr (meterIsResponseReady_cbInvoke hready)) (.counters c .refl)

theorem sendable_readRequest {s : Stack F} (h : s.meter.slaveAddress ≠ 0) (position : ℕ) :
    (s.meter.readRequest position).Sendable := sendable_readRegisters h _ _

/-- The outstanding request of the table scan, whose state is 1. -/
def scanOutstanding (driver : ScanDriver) (s : Stack F) : Option MeterRequest :=
  if s.meter.state = 1 then some (s.meter.readRequest (driver.position s)) else none

theorem scanRegister_bus (driver : ScanDriver) (readFast : Bool) (now : ℕ) {s : Stack F}
    (hstate : s.meter.state = 0) (hslave : s.meter.slaveAddress ≠ 0) :
    DriverStep now none (scanOutstanding driver (meterScanRegister driver readFast now s)) s
      (meterScanRegister driver readFast now s) := by
  let position := if readFast then s.meter.registerFastPosition else s.meter.registerFullPosition
  have heq : meterScanRegister driver readFast now s =
      { driver.setReadFast readFast (s.issue now (s.meter.readRequest position)) with
        meter.state := s.meter.state + 1 } := by
    cases driver <;> rfl
  have hrequest : scanOutstanding driver (meterScanRegister driver readFast now s) =
      some (s.meter.readRequest position) := by
    rw [heq, hstate]
    cases driver <;> rfl
  rw [hrequest, heq]
  refine ⟨?_, ?_, ?_, ?_⟩
  · rw [setReadFast_rs485]
    exact .issue _ (sendable_readRequest hslave _) .refl
  all_goals cases driver <;> rfl

theorem eastronOutstanding_none {s : Stack F} (h : s.meter.state ≠ 1 ∧ s.meter.state ≠ 3 ∧
    s.meter.state ≠ 5 ∧ s.meter.state ≠ 7) : eastronOutstanding s = none := by
  unfold eastronOutstanding
  split
  · exact absurd ‹_› h.1
  · exact absurd ‹_› h.2.1
  · exact absurd ‹_› h.2.2.1
  · exact absurd ‹_› h.2.2.2
  · rfl

theorem eastronOutstanding_scan {s : Stack F} (h : s.meter.state = 0 ∨ s.meter.state = 1 ∨
    s.meter.state = 2) : eastronOutstanding s = scanOutstanding .eastron s := by
  rcases h with h | h | h <;> simp only [eastronOutstanding, scanOutstanding, h] <;> rfl

theorem scanRead_bus [CFloat F] {driver : ScanDriver} {env : TickEnv} {s s' : Stack F}
    (hstate : s.meter.state = 1) (h : meterScanRead driver env s = some s') :
    DriverStep env.now (scanOutstanding driver s)
      (if s'.meter.state = 1 then scanOutstanding driver s else none) s s' ∧
      (s'.meter.state = 1 ∧ s' = s ∨ s'.meter.state = 0 ∨ s'.meter.state = 2) := by
  rcases meterScanRead_cases h with ⟨-, rfl⟩ | ⟨data, s₁, value, address, hresponse, -, -, hscan⟩
  · refine ⟨?_, Or.inl ⟨hstate, rfl⟩⟩
    rw [if_pos hstate]
    exact .of rfl rfl .refl rfl rfl rfl
  · obtain ⟨hready, htaken, -⟩ := meterGetReadRegistersResponse_some hresponse
    have hclear := busRun_take (o := scanOutstanding driver s) env.now hready htaken
    obtain ⟨c, t, a, log, rfl⟩ := htaken
    rcases hscan with ⟨-, b, p, t', cb, rfl⟩ | ⟨-, p, regs, once, calls, rfl, -⟩
    · refine ⟨⟨?_, ?_, ?_, ?_⟩, Or.inr (Or.inl ?_)⟩
      · simpa [Stack.stored, Stack.clearRequest] using hclear
      all_goals cases driver <;> cases address <;> rfl
    · refine ⟨⟨?_, ?_, ?_, ?_⟩, Or.inr (Or.inr ?_)⟩
      · simpa [Stack.stored, Stack.clearRequest, hstate] using hclear
      · cases address <;> rfl
      · cases address <;> rfl
      · cases address <;> rfl
      · show s.meter.state + 1 = 2
        rw [hstate]

theorem genericTick_bus [CFloat F] {env : TickEnv} {s s' : Stack F}
    (hslave : s.meter.slaveAddress ≠ 0)
    (h : meterGenericTick env s = some s') :
    DriverStep env.now (genericOutstanding s) (genericOutstanding s') s s' := by
  rcases meterGenericTick_cases h with ⟨hstate, rfl⟩ | ⟨hstate, hread⟩ | ⟨hstate, phases, rfl⟩
  · have hnone : genericOutstanding s = none := if_neg (by omega)
    rw [hnone]
    exact scanRegister_bus .generic _ env.now hstate hslave
  · obtain ⟨hstep, hstate'⟩ := scanRead_bus hstate hread
    have houtstanding : genericOutstanding s' =
        if s'.meter.state = 1 then scanOutstanding .generic s else none := by
      rcases hstate' with ⟨hone, rfl⟩ | hzero | htwo
      · rw [if_pos hone]
        rfl
      · rw [genericOutstanding, if_neg (by omega), if_neg (by omega)]
      · rw [genericOutstanding, if_neg (by omega), if_neg (by omega)]
    rw [houtstanding]
    exact hstep
  · exact .of (if_neg (by omega)) (if_neg Nat.zero_ne_one) .refl rfl rfl rfl

theorem eastronMove_bus {now : ℕ} {s s' : Stack F} (hslave : s.meter.slaveAddress ≠ 0)
    (h : EastronMove now s s') :
    DriverStep now (eastronOutstanding s) (eastronOutstanding s') s s' := by
  cases h with
  | wait fc hfc hstate hready => exact .of rfl rfl .refl rfl rfl rfl
  | restart phases hstate =>
    exact .of (eastronOutstanding_none (by omega)) rfl .refl rfl rfl rfl
  | take fc phases isNew read hstate hready htaken =>
    have hclear := busRun_take (o := eastronOutstanding s) now hready htaken
    have hstate' : s.meter.state + 1 ≠ 1 ∧ s.meter.state + 1 ≠ 3 ∧ s.meter.state + 1 ≠ 5 ∧
        s.meter.state + 1 ≠ 7 := by omega
    exact .of rfl (eastronOutstanding_none hstate') hclear htaken.type htaken.slaveAddress
      htaken.currentMeter
  | readSystemType hstate =>
    exact .of (eastronOutstanding_none (by omega)) rfl
      (.issue _ (sendable_readRegisters hslave _ _) .refl) rfl rfl rfl
  | writePassword hstate =>
    exact .of (eastronOutstanding_none (by omega)) rfl
      (.issue _ (sendable_writeRegister hslave _ _) (.clear (Or.inl rfl) .refl)) rfl rfl rfl
  | writeSystemType systemType hstate hphases =>
    have houtstanding : eastronOutstanding
        { s.clearRequest.issue now (s.meter.systemTypeRequest systemType) with
          meter.state := 7 } = some (s.meter.systemTypeRequest systemType) := by
      show s.meter.connectedSystemType.map s.meter.systemTypeRequest = _
      rw [hphases]
      rfl
    exact .of (eastronOutstanding_none (by omega)) houtstanding
      (.issue _ (sendable_writeRegister hslave _ _) (.clear (Or.inl rfl) .refl)) rfl rfl rfl

theorem eastronTick_bus [CFloat F] {env : TickEnv} {s s' : Stack F}
    (hslave : s.meter.slaveAddress ≠ 0)
    (h : meterEastronTick env s = some s') :
    DriverStep env.now (eastronOutstanding s) (eastronOutstanding s') s s' := by
  rcases meterEastronTick_cases h with ⟨hstate, rfl⟩ | ⟨hstate, hread⟩ | hmove
  · have hstep := fun readFast => scanRegister_bus .eastron readFast env.now hstate hslave
    have hone : ∀ readFast,
        (meterScanRegister .eastron readFast env.now s).meter.state = s.meter.state + 1 :=
      fun _ => rfl
    rw [eastronOutstanding_none (by omega), eastronOutstanding_scan]
    · exact hstep _
    · right; left
      rw [meterScanRequest, hone, hstate]
  · obtain ⟨hstep, hstate'⟩ := scanRead_bus hstate hread
    rw [eastronOutstanding_scan (Or.inr (Or.inl hstate))]
    rcases hstate' with ⟨hone, rfl⟩ | hzero | htwo
    · rw [if_pos hone] at hstep
      rw [eastronOutstanding_scan (Or.inr (Or.inl hone))]
      exact hstep
    · rw [if_neg (by omega)] at hstep
      rw [eastronOutstanding_none (by omega)]
      exact hstep
    · rw [if_neg (by omega)] at hstep
      rw [eastronOutstanding_none (by omega)]
      exact hstep
  · exact eastronMove_bus hslave hmove

theorem eltakoOutstanding_none {s : Stack F} (h : s.meter.state ≠ 1)
    (h' : s.meter.state = 2 → s.statics.eltakoDataNew = false) : eltakoOutstanding s = none := by
  refine if_neg ?_
  rintro (hone | ⟨htwo, hnew⟩)
  · exact h hone
  · rw [h' htwo] at hnew
    cases hnew

/-- Once the response has been taken, the request is over. -/
def EltakoInv (s : Stack F) : Prop :=
  s.meter.state = 2 → s.rs485.requestCbInvoke = true ∧ s.statics.eltakoDataNew = true

theorem eltakoTick_bus [CFloat F] {env : TickEnv} {s s' : Stack F}
    (hslave : s.meter.slaveAddress ≠ 0)
    (hinv : EltakoInv s) (h : meterEltakoTick env s = some s') :
    DriverStep env.now (eltakoOutstanding s) (eltakoOutstanding s') s s' ∧ EltakoInv s' := by
  cases meterEltakoTick_cases h with
  | request hstate =>
    have hnone := eltakoOutstanding_none (s := s) (by omega) (by omega)
    refine ⟨.of hnone rfl (.issue _ (sendable_readRegisters hslave _ _) .refl) rfl rfl rfl, ?_⟩
    intro hstate'
    cases hstate'
  | wait hstate hready => exact ⟨.of rfl rfl .refl rfl rfl rfl, hinv⟩
  | take hstate hresponse =>
    -- the request stays outstanding until the values are stored
    obtain ⟨hready, htaken, -⟩ := meterGetReadRegistersResponse_some hresponse
    have hcb := meterIsResponseReady_cbInvoke hready
    obtain ⟨c, t, a, log, rfl⟩ := htaken
    refine ⟨.of (if_pos (Or.inl hstate)) (if_pos (Or.inr ⟨rfl, rfl⟩)) ?_ rfl rfl rfl, ?_⟩
    · exact .counters c .refl
    · exact fun _ => ⟨hcb, rfl⟩
  | store value address hstate hnew hreg hvalue haddress =>
    cases address <;> exact ⟨.of (if_pos (Or.inr ⟨hstate, hnew⟩))
      (if_pos (Or.inr ⟨hstate, hnew⟩)) .refl rfl rfl rfl, fun _ => hinv hstate⟩
  | stored phases hstate hnew =>
    -- now it is cleared: the callback has been invoked before
    have hover : some s.meter.eltakoRequest = none ∨ s.rs485.requestCbInvoke = true :=
      Or.inr (hinv hstate).1
    refine ⟨.of (if_pos (Or.inr ⟨hstate, hnew⟩)) rfl (.clear hover .refl) rfl rfl rfl, ?_⟩
    intro hstate'
    cases hstate'
  | skip hstate hnew =>
    rw [(hinv hstate).2] at hnew
    cases hnew
  | restart hstate =>
    have hnone := eltakoOutstanding_none (s := s) (by omega) (by omega)
    refine ⟨.of hnone rfl .refl rfl rfl rfl, ?_⟩
    intro hstate'
    cases hstate'
  | calculate hstate htime hnew hcalculate =>
    obtain ⟨registers, value, once, calls, rfl⟩ := calculated_eltako hcalculate
    have hnone := eltakoOutstanding_none (s := s) (by omega) (by omega)
    have hthree : s.meter.state ≠ 1 ∧ s.meter.state ≠ 2 := by omega
    refine ⟨.of hnone (eltakoOutstanding_none hthree.1 fun h => absurd h hthree.2) .refl
      rfl rfl rfl, fun h => absurd h hthree.2⟩
  | calculated hstate htime =>
    have hnone := eltakoOutstanding_none (s := s) (by omega) (by omega)
    have hthree : s.meter.state ≠ 1 ∧ s.meter.state ≠ 2 := by omega
    refine ⟨.of hnone (eltakoOutstanding_none hthree.1 fun h => absurd h hthree.2) .refl
      rfl rfl rfl, fun h => absurd h hthree.2⟩
  | rest hstate htime => exact ⟨.of rfl rfl .refl rfl rfl rfl, hinv⟩
  | default hstate =>
    have hnone := eltakoOutstanding_none (s := s) (by omega) (by omega)
    refine ⟨.of hnone rfl .refl rfl rfl rfl, ?_⟩
    intro hstate'
    cases hstate'

/-! ### The Iskra driver -/

/-- The fast cycle is at rest, or it is active and the slow one is at rest. -/
def IskraInv (s : Stack F) : Prop :=
  s.iskra.fastActive = false ∧ s.iskra.fastState = 0 ∨
    s.iskra.fastActive = true ∧ s.meter.state = 0 ∧
      (s.iskra.fastState = 1 ∨ s.iskra.fastState = 2 ∨ s.iskra.fastState = 3)

/-- The external users of the bus are idle. -/
def TickEnv.ExternalIdle (env : TickEnv) : Prop :=
  (env.isV4 = true → env.eichrechtInitDone = true ∧ env.eichrechtTransaction = false) ∧
    env.displayHasWork = false

instance (env : TickEnv) : Decidable env.ExternalIdle := inferInstanceAs (Decidable (_ ∧ _))

theorem iskraOutstanding_fast {s : Stack F} (h : s.iskra.fastActive = true) :
    iskraOutstanding s = iskraFastOutstanding s := if_pos h

theorem iskraOutstanding_slow {s : Stack F} (h : s.iskra.fastActive = false) :
    iskraOutstanding s = iskraSlowOutstanding s := by
  rw [iskraOutstanding, h, if_neg Bool.false_ne_true]

theorem iskraSlowOutstanding_none {s : Stack F} (h : s.meter.state ≠ 1 ∧ s.meter.state ≠ 4 ∧
    s.meter.state ≠ 6) : iskraSlowOutstanding s = none := by
  unfold iskraSlowOutstanding
  split
  · exact absurd ‹_› h.1
  · exact absurd ‹_› h.2.1
  · exact absurd ‹_› h.2.2
  · rfl

theorem storedAll_kept [CFloat F] {data : ℕ → BitVec 32} {cells : List (ℕ × MeterDefinition)}
    {s s' : Stack F} (h : StoredAll data cells s s') :
    s'.rs485 = s.rs485 ∧ s'.meter = s.meter ∧ s'.iskra.fastActive = s.iskra.fastActive ∧
      s'.iskra.fastState = s.iskra.fastState ∧ s'.openRequest = s.openRequest ∧
      s'.handOvers = s.handOvers ∧ s'.statics = s.statics ∧ s'.responses = s.responses := by
  induction h with
  | nil => exact ⟨rfl, rfl, rfl, rfl, rfl, rfl, rfl, rfl⟩
  | cons value address hvalue haddress hrest ih =>
    simpa only [store_rs485, store_meter, store_fastActive, store_fastState, store_openRequest,
      store_handOvers, store_statics, store_responses] using ih

/-- Whether the values of a block have been stored or not. -/
theorem tookCells_kept [CFloat F] {data : ℕ → BitVec 32} {cells : List (ℕ × MeterDefinition)}
    {s s' : Stack F} {p q : Prop} (h : p ∧ s' = s ∨ q ∧ StoredAll data cells s s') :
    s'.rs485 = s.rs485 ∧ s'.meter = s.meter ∧ s'.iskra.fastActive = s.iskra.fastActive ∧
      s'.iskra.fastState = s.iskra.fastState ∧ s'.openRequest = s.openRequest ∧
      s'.handOvers = s.handOvers ∧ s'.statics = s.statics ∧ s'.responses = s.responses := by
  rcases h with ⟨-, rfl⟩ | ⟨-, hstored⟩
  · exact ⟨rfl, rfl, rfl, rfl, rfl, rfl, rfl, rfl⟩
  · exact storedAll_kept hstored

theorem iskraFastMove_bus [CFloat F] {env : TickEnv} {s s' : Stack F}
    (hslave : s.meter.slaveAddress ≠ 0) (hinv : IskraInv s)
    (hdue : iskraFastDue env.now s = true) (h : IskraFastMove env s s') :
    DriverStep env.now (iskraOutstanding s) (iskraOutstanding s') s s' ∧ IskraInv s' := by
  have hactive : s.iskra.fastState ≠ 0 → s.iskra.fastActive = true ∧ s.meter.state = 0 := by
    intro hne
    rcases hinv with ⟨-, hzero⟩ | ⟨hactive, hstate, -⟩
    · exact absurd hzero hne
    · exact ⟨hactive, hstate⟩
  cases h with
  | requestVoltages hfast =>
    have hrest : s.iskra.fastActive = false ∧ s.meter.state = 0 := by
      rcases hinv with ⟨hrest, -⟩ | ⟨-, -, hstate⟩
      · refine ⟨hrest, ?_⟩
        simp only [iskraFastDue, hrest, Bool.false_or, Bool.and_eq_true, beq_iff_eq] at hdue
        exact hdue.1
      · omega
    have hnone : iskraOutstanding s = none := by
      rw [iskraOutstanding_slow hrest.1, iskraSlowOutstanding_none]
      omega
    exact ⟨.of hnone rfl (.issue _ (sendable_readRegisters hslave _ _) .refl) rfl rfl rfl,
      Or.inr ⟨rfl, hrest.2, Or.inl rfl⟩⟩
  | wait hfast hready => exact ⟨.of rfl rfl .refl rfl rfl rfl, hinv⟩
  | takeVoltages phases time hfast hresponse hstored =>
    -- the second request of the cycle is still to come
    obtain ⟨hready, htaken, -⟩ := meterGetReadRegistersResponse_some hresponse
    have hclear := busRun_take (o := iskraOutstanding s) env.now hready htaken
    obtain ⟨hac, hst⟩ := hactive (by omega)
    obtain ⟨hbus, hmeter, hac', -⟩ := tookCells_kept hstored
    rw [← hbus] at hclear
    have hac'' := hac'.trans ((congrArg MeterIskra.fastActive htaken.iskra).trans hac)
    have hst' : _ = 0 := (congrArg Meter.state hmeter).trans (htaken.state.trans hst)
    refine ⟨.of rfl (iskraOutstanding_fast hac'') hclear ?_ ?_ ?_,
      Or.inr ⟨hac'', hst', Or.inr (Or.inl rfl)⟩⟩
    · exact (congrArg Meter.type hmeter).trans htaken.type
    · exact (congrArg Meter.slaveAddress hmeter).trans htaken.slaveAddress
    · exact (congrArg Meter.currentMeter hmeter).trans htaken.currentMeter
  | requestCurrents hfast =>
    obtain ⟨hac, hst⟩ := hactive (by omega)
    have hnone : iskraOutstanding s = none := by
      simp only [iskraOutstanding_fast hac, iskraFastOutstanding, hfast]
    refine ⟨.of hnone (iskraOutstanding_fast hac)
      (.issue _ (sendable_readRegisters hslave _ _) .refl) rfl rfl rfl,
      Or.inr ⟨hac, hst, Or.inr (Or.inr rfl)⟩⟩
  | @takeCurrents s₁ s₂ data hfast hresponse hstored =>
    -- the end of the cycle: both are at rest
    obtain ⟨hready, htaken, -⟩ := meterGetReadRegistersResponse_some hresponse
    have hclear := busRun_take (o := iskraOutstanding s) env.now hready htaken
    obtain ⟨hac, hst⟩ := hactive (by omega)
    obtain ⟨hbus, hmeter, -, -⟩ := tookCells_kept hstored
    rw [← hbus] at hclear
    have hst' : s₂.meter.state = 0 :=
      (congrArg Meter.state hmeter).trans (htaken.state.trans hst)
    have hslow : s₂.meter.state ≠ 1 ∧ s₂.meter.state ≠ 4 ∧ s₂.meter.state ≠ 6 := by omega
    refine ⟨.of rfl ?_ hclear ?_ ?_ ?_, Or.inl ⟨rfl, rfl⟩⟩
    · exact (iskraOutstanding_slow rfl).trans (iskraSlowOutstanding_none hslow)
    · exact (congrArg Meter.type hmeter).trans htaken.type
    · exact (congrArg Meter.slaveAddress hmeter).trans htaken.slaveAddress
    · exact (congrArg Meter.currentMeter hmeter).trans htaken.currentMeter
  | reset hfast =>
    rcases hinv with ⟨-, hzero⟩ | ⟨-, -, hstate⟩
    · omega
    · omega

theorem iskraSlowMove_bus [CFloat F] {env : TickEnv} {s s' : Stack F}
    (hslave : s.meter.slaveAddress ≠ 0) (h : IskraSlowMove env s s') :
    DriverStep env.now (iskraSlowOutstanding s) (iskraSlowOutstanding s') s s' ∧
      s'.iskra.fastActive = s.iskra.fastActive ∧ s'.iskra.fastState = s.iskra.fastState := by
  cases h with
  | request hstate =>
    exact ⟨.of (iskraSlowOutstanding_none (by omega)) rfl
      (.issue _ (sendable_readRegisters hslave _ _) .refl) rfl rfl rfl, rfl, rfl⟩
  | wait q hq hready => exact ⟨.of rfl rfl .refl rfl rfl rfl, rfl, rfl⟩
  | take value address hstate hresponse hvalue haddress =>
    obtain ⟨hready, htaken, -⟩ := meterGetReadRegistersResponse_some hresponse
    have hclear := busRun_take (o := iskraSlowOutstanding s) env.now hready htaken
    obtain ⟨c, t, a, log, rfl⟩ := htaken
    cases address <;> exact ⟨.of rfl rfl hclear rfl rfl rfl, rfl, rfl⟩
  | takeLast value address hstate hresponse hvalue haddress =>
    obtain ⟨hready, htaken, -⟩ := meterGetReadRegistersResponse_some hresponse
    have hclear := busRun_take (o := iskraSlowOutstanding s) env.now hready htaken
    obtain ⟨c, t, a, log, rfl⟩ := htaken
    cases address <;> exact ⟨.of rfl rfl hclear rfl rfl rfl, rfl, rfl⟩
  | restart hstate =>
    exact ⟨.of (iskraSlowOutstanding_none (by omega)) rfl .refl rfl rfl rfl, rfl, rfl⟩
  | readDone phases hstate =>
    exact ⟨.of (iskraSlowOutstanding_none (by omega)) rfl .refl rfl rfl rfl, rfl, rfl⟩
  | requestStatus register hstate =>
    have hissue : BusRun env.now s.rs485 none (some (s.meter.iskraStatusRequest register))
        (meterIssue env.now (s.meter.iskraStatusRequest register) s.rs485) :=
      .issue _ (sendable_readRegisters hslave register 1) .refl
    refine ⟨.of (iskraSlowOutstanding_none (by omega)) ?_ hissue rfl rfl rfl, rfl, rfl⟩
    rcases hstate with ⟨hthree, rfl⟩ | ⟨hfive, rfl⟩
    · rw [hthree]
      rfl
    · rw [hfive]
      rfl
  | takeStatus q measurement signature hstate hq hready htaken =>
    have hclear := busRun_take (o := iskraSlowOutstanding s) env.now hready htaken
    have hactive := congrArg MeterIskra.fastActive htaken.iskra
    have hfast := congrArg MeterIskra.fastState htaken.iskra
    have hstate' : s.meter.state + 1 ≠ 1 ∧ s.meter.state + 1 ≠ 4 ∧ s.meter.state + 1 ≠ 6 := by
      omega
    exact ⟨.of rfl (iskraSlowOutstanding_none hstate') hclear htaken.type htaken.slaveAddress
      htaken.currentMeter, hactive, hfast⟩

/-- With the modules outside idle a tick moves one of the two cycles, and the slow one only
while the fast one is at rest. -/
theorem iskraTick_cycle [CFloat F] {env : TickEnv} {s s' : Stack F} (hinv : IskraInv s)
    (hidle : env.ExternalIdle) (h : meterIskraTick env s = some s') :
    iskraFastDue env.now s = true ∧ IskraFastMove env s s' ∨
      (s.iskra.fastActive = false ∧ s.iskra.fastState = 0) ∧ IskraSlowMove env s s' := by
  obtain ⟨heichrecht, hdisplay⟩ := hidle
  cases meterIskraTick_cases h with
  | init hinit =>
    rw [(heichrecht hinit.1).1] at hinit
    cases hinit.2
  | transaction hpending =>
    simp only [TickEnv.transactionPending, Bool.and_eq_true] at hpending
    rw [(heichrecht hpending.1.1).2] at hpending
    cases hpending.2
  | display hpending =>
    rw [TickEnv.displayPending, hdisplay, Bool.and_false] at hpending
    cases hpending
  | fast hdue hmove => exact Or.inl ⟨hdue, hmove⟩
  | slow hdue hmove =>
    refine Or.inr ⟨?_, hmove⟩
    rw [iskraFastDue, Bool.or_eq_false_iff] at hdue
    rcases hinv with hrest | ⟨hactive, -⟩
    · exact hrest
    · rw [hdue.1] at hactive
      cases hactive

theorem iskraTick_bus [CFloat F] {env : TickEnv} {s s' : Stack F}
    (hslave : s.meter.slaveAddress ≠ 0) (hinv : IskraInv s) (hidle : env.ExternalIdle)
    (h : meterIskraTick env s = some s') :
    DriverStep env.now (iskraOutstanding s) (iskraOutstanding s') s s' ∧ IskraInv s' := by
  rcases iskraTick_cycle hinv hidle h with ⟨hdue, hmove⟩ | ⟨hrest, hmove⟩
  · exact iskraFastMove_bus hslave hinv hdue hmove
  · obtain ⟨hstep, hactive, hfast⟩ := iskraSlowMove_bus hslave hmove
    have hrest' := hactive.trans hrest.1
    rw [iskraOutstanding_slow hrest.1, iskraOutstanding_slow hrest']
    exact ⟨hstep, Or.inl ⟨hrest', hfast.trans hrest.2⟩⟩

end Bricklib2
