/-
Bricklib2/Warp/MeterHandOver.lean

When the Iskra driver gives the bus away.  The eichrecht and the display module
are given the bus while `meter.state` is 0, which is the rest of the slow cycle.
The fast cycle runs in that state too and waits there for its two responses.

Main result: `handOver_idle`, no run hands the bus over during a request of the
driver exactly if the fast cycle waits for no response whenever it is handed over.
-/
import Bricklib2.Warp.ExactFloat
import Bricklib2.Warp.Transmission

namespace Bricklib2

open Machine

variable {F : Type} {s s' : Stack F} {env : TickEnv}

/-! ### The other drivers and detection keep the bus -/

/-- What a tick keeps that does not hand the bus over. -/
def KeepsBus (s s' : Stack F) : Prop :=
  s'.meter.type = s.meter.type ∧ s'.handOvers = s.handOvers

theorem Taken.keepsBus (h : Taken s s') : KeepsBus s s' := ⟨h.type, h.handOvers⟩

theorem meterScanRequest_keepsBus (driver : ScanDriver) (now : ℕ) (s : Stack F) :
    KeepsBus s (meterScanRequest driver now s) := by
  cases driver <;> exact ⟨rfl, rfl⟩

theorem stored_keepsBus (address : RegisterAddress) (value : F) (state : ℕ) (s : Stack F) :
    KeepsBus s (s.stored address value state) := by
  cases address <;> exact ⟨rfl, rfl⟩

theorem meterScanRead_keepsBus [CFloat F] {driver : ScanDriver}
    (h : meterScanRead driver env s = some s') : KeepsBus s s' := by
  rcases meterScanRead_cases h with ⟨-, rfl⟩ | ⟨data, s₁, value, address, hresponse, -, -, hscan⟩
  · exact ⟨rfl, rfl⟩
  · obtain ⟨-, htaken, -⟩ := meterGetReadRegistersResponse_some hresponse
    have htype (state : ℕ) : (s₁.stored address value state).meter.type = s.meter.type :=
      (stored_keepsBus address value state s₁).1.trans htaken.type
    have hovers (state : ℕ) : (s₁.stored address value state).handOvers = s.handOvers :=
      (stored_keepsBus address value state s₁).2.trans htaken.handOvers
    rcases hscan with ⟨-, b, p, t, cb, rfl⟩ | ⟨-, p, regs, once, calls, rfl, -⟩
    · exact ⟨by cases driver <;> exact htype 0, by cases driver <;> exact hovers 0⟩
    · exact ⟨htype (s.meter.state + 1), hovers (s.meter.state + 1)⟩

theorem meterGenericTick_keepsBus [CFloat F] (h : meterGenericTick env s = some s') :
    KeepsBus s s' := by
  rcases meterGenericTick_cases h with ⟨-, rfl⟩ | ⟨-, hread⟩ | ⟨-, phases, rfl⟩
  · exact meterScanRequest_keepsBus _ _ _
  · exact meterScanRead_keepsBus hread
  · exact ⟨rfl, rfl⟩

theorem meterEastronTick_keepsBus [CFloat F] (h : meterEastronTick env s = some s') :
    KeepsBus s s' := by
  rcases meterEastronTick_cases h with ⟨-, rfl⟩ | ⟨-, hread⟩ | hmove
  · exact meterScanRequest_keepsBus _ _ _
  · exact meterScanRead_keepsBus hread
  · cases hmove with
    | take fc phases isNew read hstate hready htaken => exact htaken.keepsBus
    | _ => exact ⟨rfl, rfl⟩

theorem meterEltakoTick_keepsBus [CFloat F] (h : meterEltakoTick env s = some s') :
    KeepsBus s s' := by
  cases meterEltakoTick_cases h with
  | take hstate hresponse =>
    obtain ⟨-, htaken, -⟩ := meterGetReadRegistersResponse_some hresponse
    exact htaken.keepsBus
  | store value address hstate hnew hreg hvalue haddress =>
    cases address <;> exact ⟨rfl, rfl⟩
  | calculate hstate htime hnew hcalculate =>
    obtain ⟨registers, value, once, calls, rfl⟩ := calculated_eltako hcalculate
    exact ⟨rfl, rfl⟩
  | _ => exact ⟨rfl, rfl⟩

theorem isConnected_handOvers (driver : MeterDriver) (env : TickEnv) (s : Stack F) :
    (driver.isConnected env s).2.handOvers = s.handOvers := by
  have hread {fc count data data' s₁}
      (h : meterGetReadRegistersResponse env.now fc data count s = some (data', s₁)) :
      s₁.handOvers = s.handOvers := by
    obtain ⟨-, htaken, -⟩ := meterGetReadRegistersResponse_some h
    exact htaken.handOvers
  have hwrite {fc s₁} (h : meterGetWriteRegisterResponse env.now fc s = some s₁) :
      s₁.handOvers = s.handOvers := (meterGetWriteRegisterResponse_some h).2.handOvers
  have hsingle {driver : MeterDriver} {type : MeterType} {t : Stack F}
      (h : SingleFind driver env s type t) : t.handOvers = s.handOvers := by
    cases h with
    | take type hstate hresponse =>
      have hovers := hread hresponse
      exact hovers
    | _ => rfl
  cases driver with
  | eastron => exact hsingle (eastronFind_single env s)
  | generic => exact hsingle (genericFind_single env s)
  | iskra => exact hsingle (iskraFind_single env s)
  | eltako =>
    show (meterEltakoIsConnected env s).2.handOvers = _
    unfold meterEltakoIsConnected
    split
    · rfl
    · split
      · rfl
      · rename_i hresponse
        have hovers := hread hresponse
        simp only
        split <;> exact hovers
    · rfl
    · split
      · rfl
      · rename_i hresponse
        have hovers := hread hresponse
        simp only
        split <;> exact hovers
    · rfl
    · split
      · rfl
      · rename_i hresponse
        have hovers := hwrite hresponse
        exact hovers
    · rfl
    · split
      · rfl
      · rename_i hresponse
        have hovers := hwrite hresponse
        exact hovers
    · rfl

theorem meterFindMeterType_handOvers [CFloat F] (env : TickEnv) (s : Stack F) :
    (meterFindMeterType env s).handOvers = s.handOvers := by
  rw [meterFindMeterType, meterIsConnected_eq]
  cases findOrder s.statics.findMeterState with
  | none => rfl
  | some driver =>
    have hovers := isConnected_handOvers driver env s
    simp only [Option.map_some]
    split_ifs
    · exact hovers
    · obtain ⟨size, definitionSize, hset⟩ := meterSetMeterType_eq env.now
        (driver.isConnected env s).1 (meterResetErrorCounter (driver.isConnected env s).2)
      rw [hset]
      exact hovers
    · exact hovers

/-! ### The Iskra driver -/

/-- The ghost says that a request is open exactly while the Iskra driver waits
for its response. -/
structure HandOverInv (s : Stack F) : Prop where
  rest : s.meter.type = .unknown →
    s.meter.state = 0 ∧ s.iskra.fastActive = false ∧ s.iskra.fastState = 0
  slave : s.meter.type.driver = some .iskra → s.meter.slaveAddress ≠ 0
  iskra : s.meter.type.driver = some .iskra →
    IskraInv s ∧ s.openRequest = (iskraOutstanding s).isSome

theorem IskraInv.fastActive (h : IskraInv s) (hfast : s.iskra.fastState ≠ 0) :
    s.iskra.fastActive = true ∧ s.meter.state = 0 := by
  rcases h with ⟨-, hzero⟩ | ⟨hactive, hstate, -⟩
  · exact absurd hzero hfast
  · exact ⟨hactive, hstate⟩

theorem IskraInv.outstanding_none (h : IskraInv s) (hstate : s.meter.state ≠ 1 ∧
    s.meter.state ≠ 4 ∧ s.meter.state ≠ 6)
    (hfast : s.iskra.fastState ≠ 1 ∧ s.iskra.fastState ≠ 3) : iskraOutstanding s = none := by
  rcases h with ⟨hactive, -⟩ | ⟨hactive, -, htwo⟩
  · rw [iskraOutstanding_slow hactive, iskraSlowOutstanding_none hstate]
  · have htwo' : s.iskra.fastState = 2 := by omega
    simp only [iskraOutstanding_fast hactive, iskraFastOutstanding, htwo']

theorem iskraFastMove_open [CFloat F] (hinv : IskraInv s) (hinv' : IskraInv s')
    (hopen : s.openRequest = (iskraOutstanding s).isSome) (h : IskraFastMove env s s') :
    s'.openRequest = (iskraOutstanding s').isSome ∧ s'.handOvers = s.handOvers := by
  cases h with
  | requestVoltages hfast => exact ⟨rfl, rfl⟩
  | wait hfast hready => exact ⟨hopen, rfl⟩
  | @takeVoltages s₁ s₂ data phases time hfast hresponse hstored =>
    obtain ⟨-, htaken, -⟩ := meterGetReadRegistersResponse_some hresponse
    obtain ⟨-, hmeter, -, -, -, hovers, -⟩ := tookCells_kept hstored
    have hstate : s₂.meter.state = 0 :=
      (congrArg Meter.state hmeter).trans (htaken.state.trans (hinv.fastActive (by omega)).2)
    have hslow : s₂.meter.state ≠ 1 ∧ s₂.meter.state ≠ 4 ∧ s₂.meter.state ≠ 6 := by omega
    have htwo : (2 : ℕ) ≠ 1 ∧ (2 : ℕ) ≠ 3 := by decide
    rw [hinv'.outstanding_none hslow htwo]
    exact ⟨rfl, hovers.trans htaken.handOvers⟩
  | requestCurrents hfast =>
    have hactive := (hinv.fastActive (by omega)).1
    have hout : iskraOutstanding { s.issue env.now s.meter.iskraCurrentRequest with
        iskra.fastState := 3 } = some s.meter.iskraCurrentRequest := iskraOutstanding_fast hactive
    exact ⟨(congrArg Option.isSome hout).symm, rfl⟩
  | @takeCurrents s₁ s₂ data hfast hresponse hstored =>
    obtain ⟨-, htaken, -⟩ := meterGetReadRegistersResponse_some hresponse
    obtain ⟨-, hmeter, -, -, -, hovers, -⟩ := tookCells_kept hstored
    have hstate : s₂.meter.state = 0 :=
      (congrArg Meter.state hmeter).trans (htaken.state.trans (hinv.fastActive (by omega)).2)
    have hslow : s₂.meter.state ≠ 1 ∧ s₂.meter.state ≠ 4 ∧ s₂.meter.state ≠ 6 := by omega
    have hzero : (0 : ℕ) ≠ 1 ∧ (0 : ℕ) ≠ 3 := by decide
    rw [hinv'.outstanding_none hslow hzero]
    exact ⟨rfl, hovers.trans htaken.handOvers⟩
  | reset hfast =>
    rcases hinv with ⟨-, hzero⟩ | ⟨-, -, hstate⟩
    · omega
    · omega

theorem iskraSlowMove_open [CFloat F] (hinv' : IskraInv s') (hactive : s.iskra.fastActive = false)
    (hactive' : s'.iskra.fastActive = false) (hfast' : s'.iskra.fastState = 0)
    (hopen : s.openRequest = (iskraOutstanding s).isSome) (h : IskraSlowMove env s s') :
    s'.openRequest = (iskraOutstanding s').isSome ∧ s'.handOvers = s.handOvers := by
  have hfast : s'.iskra.fastState ≠ 1 ∧ s'.iskra.fastState ≠ 3 := by omega
  have hslow {n : ℕ} (hn : n = 0 ∨ n = 2 ∨ n = 3) : n ≠ 1 ∧ n ≠ 4 ∧ n ≠ 6 := by omega
  -- a request is open exactly in the states that wait for its answer
  have hnone (hstate : s.meter.state ≠ 1 ∧ s.meter.state ≠ 4 ∧ s.meter.state ≠ 6) :
      s.openRequest = false := by
    rw [hopen, iskraOutstanding_slow hactive, iskraSlowOutstanding_none hstate]
    rfl
  cases h with
  | request hstate =>
    rw [iskraOutstanding_slow hactive']
    exact ⟨rfl, rfl⟩
  | wait q hq hready => exact ⟨hopen, rfl⟩
  | take value address hstate hresponse hvalue haddress =>
    obtain ⟨-, htaken, -⟩ := meterGetReadRegistersResponse_some hresponse
    rw [hinv'.outstanding_none (hslow (Or.inr (Or.inl rfl))) hfast]
    cases address <;> exact ⟨rfl, htaken.handOvers⟩
  | takeLast value address hstate hresponse hvalue haddress =>
    obtain ⟨-, htaken, -⟩ := meterGetReadRegistersResponse_some hresponse
    rw [hinv'.outstanding_none (hslow (Or.inr (Or.inl rfl))) hfast]
    cases address <;> exact ⟨rfl, htaken.handOvers⟩
  | restart hstate =>
    rw [hinv'.outstanding_none (hslow (Or.inl rfl)) hfast]
    exact ⟨hnone (by omega), rfl⟩
  | readDone phases hstate =>
    rw [hinv'.outstanding_none (hslow (Or.inr (Or.inr rfl))) hfast]
    exact ⟨hnone (by omega), rfl⟩
  | requestStatus register hstate =>
    rw [iskraOutstanding_slow hactive']
    rcases hstate with ⟨hthree, -⟩ | ⟨hfive, -⟩
    · simp only [iskraSlowOutstanding, hthree]
      exact ⟨rfl, rfl⟩
    · simp only [iskraSlowOutstanding, hfive]
      exact ⟨rfl, rfl⟩
  | takeStatus q measurement signature hstate hq hready htaken =>
    have hstate' : s.meter.state + 1 ≠ 1 ∧ s.meter.state + 1 ≠ 4 ∧ s.meter.state + 1 ≠ 6 := by
      omega
    rw [hinv'.outstanding_none hstate' hfast]
    exact ⟨rfl, htaken.handOvers⟩

/-! ### Steps -/

/-- A driver that never hands the bus over has nothing to keep. -/
theorem HandOverInv.of_keepsBus (hkeep : KeepsBus s s')
    (hunknown : s.meter.type ≠ .unknown) (hiskra : s.meter.type.driver ≠ some .iskra) :
    HandOverInv s' := by
  obtain ⟨htype, -⟩ := hkeep
  refine ⟨fun hu => ?_, fun hd => ?_, fun hd => ?_⟩
  · exact absurd (htype ▸ hu) hunknown
  · exact absurd (htype ▸ hd) hiskra
  · exact absurd (htype ▸ hd) hiskra

/-- The Iskra driver gives the bus to the eichrecht or to the display module. -/
def TickEnv.passesBus (env : TickEnv) (s : Stack F) : Bool :=
  s.meter.type.driver == some .iskra && !(env.isV4 && !env.eichrechtInitDone) &&
    (env.transactionPending s || env.displayPending s)

/-- The tick does so: neither waiting time of `meter_tick` is on. -/
def TickEnv.handsOver (env : TickEnv) (s : Stack F) : Bool :=
  !waiting env.now s.meter.errorWaitTime 500 && !waiting env.now s.meter.firstTick 2500 &&
    env.passesBus s

/-- The bus is handed over only while the fast cycle is in none of the states in
which it waits for a response. -/
def StackEvent.FastIdle (s : Stack F) : StackEvent → Prop
  | .meterTick env =>
    env.handsOver s = true → s.iskra.fastState ≠ 1 ∧ s.iskra.fastState ≠ 3
  | .receive _ _ | .rxIrq _ | .txIrq | .txShift | .rs485Tick _ _ => True

instance (s : Stack F) (e : StackEvent) : Decidable (e.FastIdle s) :=
  match e with
  | .meterTick env =>
    inferInstanceAs (Decidable (env.handsOver s = true → _ ∧ _))
  | .receive _ _ | .rxIrq _ | .txIrq | .txShift | .rs485Tick _ _ => isTrue trivial

/-- No hand-over so far was during a request of the driver. -/
def Stack.HandOversIdle (s : Stack F) : Prop := ∀ b ∈ s.handOvers, b = false

theorem HandOverInv.open_fast (h : HandOverInv s) (hdriver : s.meter.type.driver = some .iskra)
    (hstate : s.meter.state = 0) :
    s.openRequest = false ↔ s.iskra.fastState ≠ 1 ∧ s.iskra.fastState ≠ 3 := by
  obtain ⟨hinv, hopen⟩ := h.iskra hdriver
  rw [hopen]
  constructor
  · intro hnone
    constructor
    · intro hone
      rw [iskraOutstanding_fast (hinv.fastActive (by omega)).1] at hnone
      simp only [iskraFastOutstanding, hone, Option.isSome_some, Bool.true_eq_false] at hnone
    · intro hthree
      rw [iskraOutstanding_fast (hinv.fastActive (by omega)).1] at hnone
      simp only [iskraFastOutstanding, hthree, Option.isSome_some, Bool.true_eq_false] at hnone
  · intro hfast
    rw [hinv.outstanding_none (by omega) hfast]
    rfl

theorem state_of_pending (h : (env.transactionPending s || env.displayPending s) = true) :
    s.meter.state = 0 := by
  rcases Bool.or_eq_true_iff.mp h with h | h
  · simp only [TickEnv.transactionPending, Bool.and_eq_true, beq_iff_eq] at h
    exact h.1.2
  · simp only [TickEnv.displayPending, Bool.and_eq_true, beq_iff_eq] at h
    exact h.1

/-- A hand-over touches nothing that the invariant is about, but for the log. -/
theorem HandOverInv.handOver (h : HandOverInv s) (tick : ExternalTick) :
    HandOverInv (s.handOver tick) := ⟨h.rest, h.slave, h.iskra⟩

theorem HandOverInv.external (h : HandOverInv s) (tick : ExternalTick) :
    HandOverInv (s.external tick) := ⟨h.rest, h.slave, h.iskra⟩

omit F in
theorem initialised_of (h : ¬(env.isV4 = true ∧ env.eichrechtInitDone = false)) :
    (env.isV4 && !env.eichrechtInitDone) = false := by
  cases hv4 : env.isV4 with
  | false => rfl
  | true =>
    cases hdone : env.eichrechtInitDone with
    | false => exact absurd ⟨hv4, hdone⟩ h
    | true => rfl

theorem HandOverInv.iskraTick [CFloat F] (h : HandOverInv s)
    (hdriver : s.meter.type.driver = some .iskra) (htick : meterIskraTick env s = some s') :
    HandOverInv s' ∧ (env.passesBus s = true ∧ s'.handOvers = s.openRequest :: s.handOvers ∨
      env.passesBus s = false ∧ s'.handOvers = s.handOvers) := by
  obtain ⟨hinv, hopen⟩ := h.iskra hdriver
  have hslave := h.slave hdriver
  have hkept {s' : Stack F} (ht : s'.meter.type = s.meter.type)
      (hs : s'.meter.slaveAddress = s.meter.slaveAddress) (hi : IskraInv s')
      (ho : s'.openRequest = (iskraOutstanding s').isSome) : HandOverInv s' := by
    refine ⟨fun hu => ?_, fun _ => hs ▸ hslave, fun _ => ⟨hi, ho⟩⟩
    rw [← ht, hu] at hdriver
    cases hdriver
  have hpasses : env.passesBus s = (!(env.isV4 && !env.eichrechtInitDone) &&
      (env.transactionPending s || env.displayPending s)) := by
    rw [TickEnv.passesBus, hdriver, beq_self_eq_true, Bool.true_and]
  rw [hpasses]
  unfold meterIskraTick at htick
  split_ifs at htick with hinit htransaction hdisplay hdue
  · obtain rfl := Option.some.inj htick
    refine ⟨h.external _, Or.inr ⟨?_, rfl⟩⟩
    rw [hinit.1, hinit.2]
    rfl
  · obtain rfl := Option.some.inj htick
    refine ⟨h.handOver _, Or.inl ⟨?_, rfl⟩⟩
    rw [initialised_of hinit, htransaction]
    rfl
  · obtain rfl := Option.some.inj htick
    refine ⟨h.handOver _, Or.inl ⟨?_, rfl⟩⟩
    rw [initialised_of hinit, hdisplay, Bool.or_true]
    rfl
  · have hmove := meterIskraFastTick_cases htick
    obtain ⟨hstep, hinv'⟩ := iskraFastMove_bus hslave hinv hdue hmove
    obtain ⟨hopen', hovers⟩ := iskraFastMove_open hinv hinv' hopen hmove
    refine ⟨hkept hstep.type hstep.slave hinv' hopen', Or.inr ⟨?_, hovers⟩⟩
    rw [Bool.eq_false_of_not_eq_true htransaction, Bool.eq_false_of_not_eq_true hdisplay]
    exact Bool.and_false _
  · have hmove := meterIskraSlowTick_cases htick
    -- the fast cycle is at rest
    have hrest : s.iskra.fastActive = false ∧ s.iskra.fastState = 0 := by
      rw [iskraFastDue, Bool.or_eq_true, not_or] at hdue
      rcases hinv with hrest | ⟨hactive, -⟩
      · exact hrest
      · exact absurd hactive hdue.1
    obtain ⟨hstep, hactive, hfast⟩ := iskraSlowMove_bus hslave hmove
    have hinv' : IskraInv s' := Or.inl ⟨hactive.trans hrest.1, hfast.trans hrest.2⟩
    obtain ⟨hopen', hovers⟩ := iskraSlowMove_open hinv' hrest.1 (hactive.trans hrest.1)
      (hfast.trans hrest.2) hopen hmove
    refine ⟨hkept hstep.type hstep.slave hinv' hopen', Or.inr ⟨?_, hovers⟩⟩
    rw [Bool.eq_false_of_not_eq_true htransaction, Bool.eq_false_of_not_eq_true hdisplay]
    exact Bool.and_false _

/-- Times of the meter are not part of the invariant. -/
theorem HandOverInv.times (h : HandOverInv s) (errorWaitTime firstTick timeout lastState : ℕ) :
    HandOverInv { s with
      meter.errorWaitTime := errorWaitTime
      meter.firstTick := firstTick
      meter.timeout := timeout
      statics.lastState := lastState } := ⟨h.rest, h.slave, h.iskra⟩

/-- Detection has nothing to do with the Iskra driver's cycles. -/
theorem HandOverInv.of_unknown (htype : s.meter.type = .unknown) (hstate : s.meter.state = 0)
    (hactive : s.iskra.fastActive = false) (hfast : s.iskra.fastState = 0) : HandOverInv s := by
  have hnone : s.meter.type.driver = some .iskra → False := by
    intro hdriver
    rw [unknown_driver htype] at hdriver
    cases hdriver
  exact ⟨fun _ => ⟨hstate, hactive, hfast⟩, fun hd => (hnone hd).elim, fun hd => (hnone hd).elim⟩

/-- Both cycles are at rest and no request is open. -/
theorem HandOverInv.of_rest (hstate : s.meter.state = 0) (hactive : s.iskra.fastActive = false)
    (hfast : s.iskra.fastState = 0) (hopen : s.openRequest = false)
    (hslave : s.meter.type.driver = some .iskra → s.meter.slaveAddress ≠ 0) : HandOverInv s where
  rest _ := ⟨hstate, hactive, hfast⟩
  slave := hslave
  iskra _ := by
    have hinv : IskraInv s := Or.inl ⟨hactive, hfast⟩
    rw [hopen, hinv.outstanding_none (by omega) (by omega)]
    exact ⟨hinv, rfl⟩

theorem HandOverInv.find {now : ℕ} (h : HandOverInv s) (htype : s.meter.type = .unknown)
    (hmove : FindMove now s s') : HandOverInv s' := by
  obtain ⟨hstate, hactive, hfast⟩ := h.rest htype
  cases hmove with
  | again horder => exact ⟨h.rest, h.slave, h.iskra⟩
  | @wait driver t horder hfind =>
    obtain ⟨htype', hstate', -⟩ := hfind.kept
    apply HandOverInv.of_unknown
    · exact htype'.trans htype
    · exact hstate'.trans hstate
    · exact (congrArg MeterIskra.fastActive hfind.iskra).trans hactive
    · exact (congrArg MeterIskra.fastState hfind.iskra).trans hfast
  | @found driver type t horder hfind hdetection hunknown =>
    -- the meter that was found starts with both cycles at rest
    obtain ⟨-, hstate', -⟩ := hfind.kept
    obtain ⟨size, definitionSize, hset⟩ :=
      meterSetMeterType_eq now type (meterResetErrorCounter t)
    rw [hset]
    apply HandOverInv.of_rest
    · exact hstate'.trans hstate
    · exact (congrArg MeterIskra.fastActive hfind.iskra).trans hactive
    · exact (congrArg MeterIskra.fastState hfind.iskra).trans hfast
    · exact hfind.openRequest hdetection hunknown
    · intro hd
      have hne : type.driver ≠ none := by
        rw [show type.driver = some .iskra from hd]
        exact Option.some_ne_none _
      exact slaveAddress_ne_zero hne
  | @next driver t horder hfind =>
    obtain ⟨htype', hstate', -⟩ := hfind.kept
    apply HandOverInv.of_unknown
    · exact htype'.trans htype
    · exact hstate'.trans hstate
    · exact (congrArg MeterIskra.fastActive hfind.iskra).trans hactive
    · exact (congrArg MeterIskra.fastState hfind.iskra).trans hfast

theorem meterDriverTick_keepsBus [CFloat F] (hdriver : s.meter.type.driver ≠ some .iskra)
    (h : meterDriverTick env s = some s') : KeepsBus s s' := by
  unfold meterDriverTick at h
  split at h
  · exact meterEastronTick_keepsBus h
  · exact meterGenericTick_keepsBus h
  · exact absurd ‹_› hdriver
  · exact meterEltakoTick_keepsBus h
  · obtain rfl := Option.some.inj h
    exact ⟨rfl, rfl⟩

/-- A driver's tick hands over what the ghost says, or keeps the log. -/
theorem HandOverInv.driverTick [CFloat F] (h : HandOverInv s) (hunknown : s.meter.type ≠ .unknown)
    (htick : meterDriverTick env s = some s') :
    HandOverInv s' ∧ (env.passesBus s = true ∧ s'.handOvers = s.openRequest :: s.handOvers ∨
      env.passesBus s = false ∧ s'.handOvers = s.handOvers) := by
  by_cases hdriver : s.meter.type.driver = some .iskra
  · have hiskra : meterIskraTick env s = some s' := by
      simpa only [meterDriverTick, hdriver] using htick
    exact h.iskraTick hdriver hiskra
  · have hkeep := meterDriverTick_keepsBus hdriver htick
    refine ⟨.of_keepsBus hkeep hunknown hdriver, Or.inr ⟨?_, hkeep.2⟩⟩
    rw [TickEnv.passesBus, beq_false_of_ne hdriver, Bool.false_and, Bool.false_and]

theorem HandOverInv.tick [CFloat F] (h : HandOverInv s) (htick : meterTick env s = some s') :
    HandOverInv s' ∧ (env.handsOver s = true ∧ s'.handOvers = s.openRequest :: s.handOvers ∨
      env.handsOver s = false ∧ s'.handOvers = s.handOvers) := by
  have hdriverless (hnone : s.meter.type.driver = none) : env.handsOver s = false := by
    simp only [TickEnv.handsOver, TickEnv.passesBus, hnone, Bool.and_eq_false_iff]
    exact Or.inr (Or.inl (Or.inl rfl))
  cases meterTick_cases htick with
  | unsupported htype =>
    refine ⟨h, Or.inr ⟨hdriverless ?_, rfl⟩⟩
    rw [htype]
    rfl
  | errorWait hwait =>
    refine ⟨h, Or.inr ⟨?_, rfl⟩⟩
    rw [TickEnv.handsOver, hwait]
    rfl
  | firstWait herror hwait =>
    refine ⟨h.times 0 s.meter.firstTick s.meter.timeout s.statics.lastState, Or.inr ⟨?_, rfl⟩⟩
    rw [TickEnv.handsOver, hwait, Bool.not_true, Bool.and_false, Bool.false_and]
  | find htype =>
    have hstarted := h.times 0 0 s.meter.timeout s.statics.lastState
    exact ⟨hstarted.find htype (meterFindMeterType_cases env s.started),
      Or.inr ⟨hdriverless (unknown_driver htype), meterFindMeterType_handOvers env s.started⟩⟩
  | @drive s₁ _ htype herror hfirst hcheck hdrive =>
    -- with neither waiting time on, it is up to the driver
    have hhands : env.handsOver s = env.passesBus s := by
      rw [TickEnv.handsOver, herror, hfirst]
      rfl
    rw [hhands]
    have hstarted : HandOverInv s.started := h.times 0 0 s.meter.timeout s.statics.lastState
    rcases (meterCheckState_some hcheck).2 with ⟨-, rfl⟩ | ⟨-, rfl⟩
    · exact hstarted.driverTick htype hdrive
    · exact (hstarted.times s.started.meter.errorWaitTime s.started.meter.firstTick
        _ _).driverTick htype hdrive

/-! ### Runs -/

theorem driver_of_handsOver (h : env.handsOver s = true) :
    s.meter.type.driver = some .iskra ∧ s.meter.state = 0 := by
  simp only [TickEnv.handsOver, TickEnv.passesBus, Bool.and_eq_true, beq_iff_eq] at h
  exact ⟨h.2.1.1, state_of_pending h.2.2⟩

theorem HandOverInv.rs485 (h : HandOverInv s) (r : RS485) : HandOverInv { s with rs485 := r } :=
  ⟨h.rest, h.slave, h.iskra⟩

/-- A tick hands the bus over during a request exactly if the fast cycle waits. -/
theorem HandOverInv.idle_iff [CFloat F] (h : HandOverInv s) (hidle : s.HandOversIdle)
    (htick : meterTick env s = some s') :
    s'.HandOversIdle ↔ StackEvent.FastIdle s (.meterTick env) := by
  rcases (h.tick htick).2 with ⟨hhands, hovers⟩ | ⟨hhands, hovers⟩
  · obtain ⟨hdriver, hstate⟩ := driver_of_handsOver hhands
    have hlog : s'.HandOversIdle ↔ s.openRequest = false := by
      rw [Stack.HandOversIdle, hovers, List.forall_mem_cons]
      exact and_iff_left hidle
    rw [hlog, h.open_fast hdriver hstate]
    exact ⟨fun hfast _ => hfast, fun hfast => hfast hhands⟩
  · rw [Stack.HandOversIdle, hovers]
    refine iff_of_true hidle fun htrue => ?_
    rw [hhands] at htrue
    cases htrue

/-- The UART, its interrupts and `rs485_tick` have no part in it. -/
theorem HandOverInv.step [CFloat F] {e : StackEvent} (h : HandOverInv s)
    (hstep : stackStep s e = some s') :
    HandOverInv s' ∧ (s.HandOversIdle → (s'.HandOversIdle ↔ e.FastIdle s)) := by
  cases e with
  | txIrq =>
    simp only [stackStep] at hstep
    split_ifs at hstep
    obtain rfl := Option.some.inj hstep
    exact ⟨h.rs485 _, fun hidle => iff_of_true hidle trivial⟩
  | meterTick env => exact ⟨(h.tick hstep).1, fun hidle => h.idle_iff hidle hstep⟩
  | receive _ _ | rxIrq _ | txShift | rs485Tick _ _ =>
    obtain rfl := Option.some.inj hstep
    exact ⟨h.rs485 _, fun hidle => iff_of_true hidle trivial⟩

theorem handOverInv_init [CFloat F] (bufferSize txFifoSize now : ℕ) :
    HandOverInv (stackInit (F := F) bufferSize txFifoSize now) :=
  .of_unknown rfl rfl rfl rfl

/-- In no state of a run has the bus been handed over during a request of the meter
driver, exactly if the fast cycle waits for no response when it is handed over. -/
theorem handOver_idle [CFloat F] {bufferSize txFifoSize now : ℕ} {events : List StackEvent}
    {t : Stack F} (hrun : run stackStep (stackInit bufferSize txFifoSize now) events = some t) :
    (∀ before after u, events = before ++ after →
        run stackStep (stackInit bufferSize txFifoSize now) before = some u →
        Stack.HandOversIdle (F := F) u) ↔
      Meets stackStep (fun (s : Stack F) e => e.FastIdle s)
        (stackInit bufferSize txFifoSize now) events := by
  apply meets_iff_reached (I := HandOverInv) (P := Stack.HandOversIdle) ?_ ?_ ?_ ?_ hrun
  · exact fun s e s' hinv hstep => (hinv.step hstep).1
  · exact fun s e s' hinv hidle hstep => (hinv.step hstep).2 hidle
  · exact handOverInv_init bufferSize txFifoSize now
  · exact fun b hb => absurd hb List.not_mem_nil

/-- A request of the detection that nobody answers. -/
def unansweredRequest (now : ℕ) : List StackEvent :=
  [.meterTick (idleEnv now), .rs485Tick (now + 1) noInterrupts,
    .rs485Tick (now + 1002) noInterrupts, .meterTick (idleEnv (now + 1002))]

/-- The fourth manufacturer answers with its model number, WM3M4C. -/
def iskraFoundRun : List StackEvent :=
  unansweredRequest 1 ++ unansweredRequest 2000 ++ unansweredRequest 4000 ++
    [.meterTick (idleEnv 6000), .rs485Tick 6001 noInterrupts] ++
    [0x21, 4, 8, 0x57, 0x4D, 0x33, 0x4D, 0x34, 0x43, 0, 0, 128, 58].map
      (fun value => .receive value (some 4)) ++
    [.rs485Tick 6010 noInterrupts, .rs485Tick 6016 noInterrupts, .rs485Tick 6017 noInterrupts,
      .meterTick (idleEnv 6018)]

/-- The display has something to show. -/
def displayEnv (now : ℕ) : TickEnv := { idleEnv now with displayHasWork := true }

/-- The display module is given the bus before the first request of the driver. -/
def displayFirstRun : List StackEvent := iskraFoundRun ++ [.meterTick (displayEnv 6020)]

/-- The display has work one tick after the request of the fast cycle. -/
def displayLaterRun : List StackEvent :=
  iskraFoundRun ++ [.meterTick (idleEnv 6020), .meterTick (displayEnv 6021)]

theorem handOver_idle_first :
    (after stackStep (stackInit (F := ExactFloat) 64 64 0) displayFirstRun).handOvers = [false] ∧
      ∀ before rest u, displayFirstRun = before ++ rest →
        run stackStep (stackInit (F := ExactFloat) 64 64 0) before = some u → u.HandOversIdle := by
  refine ⟨by decide +kernel, ?_⟩
  exact (handOver_idle (run_eq_after (by decide +kernel))).mpr (by decide +kernel)

/-- The display module gets the bus while the meter owes the driver an answer. -/
theorem handOver_idle_later :
    ∃ t : Stack ExactFloat, run stackStep (stackInit 64 64 0) displayLaterRun = some t ∧
      t.handOvers = [true] ∧ t.iskra.fastState = 1 ∧
      t.rs485.requestState = .masterWaitingResponse ∧ t.rs485.requestCbInvoke = false :=
  ⟨_, run_eq_after (by decide +kernel), by decide +kernel, by decide +kernel,
    by decide +kernel, by decide +kernel⟩

end Bricklib2
