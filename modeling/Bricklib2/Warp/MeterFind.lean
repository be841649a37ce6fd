/-
Bricklib2/Warp/MeterFind.lean

Detection on the bus.  One call of a `meter_*_is_connected` is a `FindStep`, and
`FindMove` lists what `meter_find_meter_type` does with its result.
-/
import Bricklib2.Warp.MeterBus

namespace Bricklib2

variable {F : Type}

/-! ### Which request is outstanding -/

/-- The request that a `meter_*_is_connected` waits for. -/
def MeterDriver.findOutstanding (s : Stack F) : MeterDriver → Option MeterRequest
  | .eastron => eastronFindOutstanding s
  | .generic => genericFindOutstanding s
  | .iskra => iskraFindOutstanding s
  | .eltako => eltakoFindOutstanding s

/-- Where the search of a driver is. -/
def MeterDriver.findState (statics : MeterStatics F) : MeterDriver → ℕ
  | .eastron => statics.eastronFindState
  | .generic => statics.genericFindState
  | .iskra => statics.iskraFindState
  | .eltako => statics.eltakoFindState

/-- The manufacturer that detection is at. -/
def findOrder : ℕ → Option MeterDriver
  | 0 => some .generic
  | 1 => some .eastron
  | 2 => some .eltako
  | 3 => some .iskra
  | _ => none

/-- The request of the meter module that has no answer yet. -/
def Stack.outstanding (s : Stack F) : Option MeterRequest :=
  if s.meter.type = .unknown then
    (findOrder s.statics.findMeterState).bind (MeterDriver.findOutstanding s)
  else
    s.meter.type.driver.bind (MeterDriver.outstanding s)

/-! ### One call -/

/-- The statics with another state of the search of a driver. -/
def MeterDriver.setFindState (state : ℕ) (statics : MeterStatics F) :
    MeterDriver → MeterStatics F
  | .eastron => { statics with eastronFindState := state }
  | .generic => { statics with genericFindState := state }
  | .iskra => { statics with iskraFindState := state }
  | .eltako => { statics with eltakoFindState := state }

/-- The search of a driver. -/
def MeterDriver.isConnected (env : TickEnv) (s : Stack F) : MeterDriver → MeterType × Stack F
  | .eastron => meterEastronIsConnected env s
  | .generic => meterGenericIsConnected env s
  | .iskra => meterIskraIsConnected env s
  | .eltako => meterEltakoIsConnected env s

theorem meterIsConnected_eq (env : TickEnv) (s : Stack F) : meterIsConnected env s =
    (findOrder s.statics.findMeterState).map (MeterDriver.isConnected env s) := by
  unfold meterIsConnected
  rcases s.statics.findMeterState with _ | _ | _ | _ | n <;> rfl

/-- One call of `meter_*_is_connected`: while detection goes on it waits for what
its state says, and with a result no request is outstanding. -/
structure FindStep (driver : MeterDriver) (now : ℕ) (s : Stack F) (type : MeterType)
    (s' : Stack F) : Prop where
  bus : BusRun now s.rs485 (driver.findOutstanding s)
    (if type = .detection then driver.findOutstanding s' else none) s'.rs485
  statics : ∃ state, s'.statics = driver.setFindState state s.statics ∧
    (type = .unknown → state = 0)
  meter : ∃ t a, s'.meter = { s.meter with errorWaitTime := t, available := a }
  iskra : s'.iskra = s.iskra
  openRequest : type ≠ .detection → type ≠ .unknown → s'.openRequest = false

variable {driver : MeterDriver} {now : ℕ} {s s₁ : Stack F}

theorem setFindState_self (driver : MeterDriver) (statics : MeterStatics F) :
    driver.setFindState (driver.findState statics) statics = statics := by
  cases driver <;> rfl

theorem FindStep.wait : FindStep driver now s .detection s where
  bus := .refl
  statics := by
    refine ⟨driver.findState s.statics, (setFindState_self driver _).symm, ?_⟩
    intro htype
    cases htype
  meter := ⟨s.meter.errorWaitTime, s.meter.available, rfl⟩
  iskra := rfl
  openRequest htype := absurd rfl htype

theorem FindStep.issue {q : MeterRequest} {state : ℕ} (hq : q.Sendable)
    (hnone : driver.findOutstanding s = none)
    (hsome : driver.findOutstanding { s.issue now q with
      statics := driver.setFindState state s.statics } = some q) :
    FindStep driver now s .detection { s.issue now q with
      statics := driver.setFindState state s.statics } where
  bus := by
    rw [if_pos rfl, hnone, hsome]
    exact .issue q hq .refl
  statics := by
    refine ⟨state, rfl, ?_⟩
    intro htype
    cases htype
  meter := ⟨s.meter.errorWaitTime, s.meter.available, rfl⟩
  iskra := rfl
  openRequest htype := absurd rfl htype

/-- Issue after another clear. -/
theorem FindStep.clearIssue {q : MeterRequest} {state : ℕ} (hq : q.Sendable)
    (hnone : driver.findOutstanding s = none)
    (hsome : driver.findOutstanding { s.clearRequest.issue now q with
      statics := driver.setFindState state s.statics } = some q) :
    FindStep driver now s .detection { s.clearRequest.issue now q with
      statics := driver.setFindState state s.statics } where
  bus := by
    rw [if_pos rfl, hnone, hsome]
    exact .issue q hq (.clear (Or.inl rfl) .refl)
  statics := by
    refine ⟨state, rfl, ?_⟩
    intro htype
    cases htype
  meter := ⟨s.meter.errorWaitTime, s.meter.available, rfl⟩
  iskra := rfl
  openRequest htype := absurd rfl htype

theorem FindStep.take {type : MeterType} {state : ℕ} {fc : UInt8}
    (hready : meterIsResponseReady fc s.rs485 = true) (htaken : Taken s s₁)
    (hnone : type = .detection → driver.findOutstanding { s₁.clearRequest with
      statics := driver.setFindState state s₁.statics } = none)
    (hunknown : type = .unknown → state = 0) :
    FindStep driver now s type { s₁.clearRequest with
      statics := driver.setFindState state s₁.statics } where
  bus := by
    have htake := busRun_take (o := driver.findOutstanding s) now hready htaken
    split
    · rw [hnone ‹_›]
      exact htake
    · exact htake
  statics := by
    refine ⟨state, ?_, hunknown⟩
    show driver.setFindState state s₁.statics = _
    rw [htaken.statics]
  meter := by
    obtain ⟨c, t, a, log, rfl⟩ := htaken
    exact ⟨t, a, rfl⟩
  iskra := htaken.iskra
  openRequest _ _ := rfl

/-- A state that the machine does not have. -/
theorem FindStep.reset (hnone : driver.findOutstanding s = none) :
    FindStep driver now s .unknown { s with statics := driver.setFindState 0 s.statics } where
  bus := by
    rw [hnone, if_neg (by decide)]
    exact .refl
  statics := ⟨0, rfl, fun _ => rfl⟩
  meter := ⟨s.meter.errorWaitTime, s.meter.available, rfl⟩
  iskra := rfl
  openRequest _ htype := absurd rfl htype

/-! ### The manufacturers with one request -/

/-- The request that a `meter_*_is_connected` starts with. -/
def MeterDriver.firstRequest : MeterDriver → MeterRequest
  | .generic => .readRegisters modbusFcReadHoldingRegisters 1 0x100D 1
  | .eastron => .readRegisters modbusFcReadHoldingRegisters 1 meterSdmHoldingRegMeterCode 1
  | .eltako =>
    .readRegisters modbusFcReadHoldingRegisters 0x01 meterEltakoHoldingRegManufacturingCode 2
  | .iskra => .readRegisters modbusFcReadInputRegisters 0x21 meterIskraInputRegModelNumber 4

/-- One call for a manufacturer that is asked once. -/
inductive SingleFind (driver : MeterDriver) (env : TickEnv) (s : Stack F) :
    MeterType → Stack F → Prop
  | first (hstate : driver.findState s.statics = 0) :
      SingleFind driver env s .detection { s.issue env.now driver.firstRequest with
        statics := driver.setFindState 1 s.statics }
  | wait (hstate : driver.findState s.statics = 1) : SingleFind driver env s .detection s
  | take {fc : UInt8} {garbage data : ℕ → BitVec 32} {count : ℕ} {s₁ : Stack F} (type : MeterType)
      (hstate : driver.findState s.statics = 1)
      (hresponse : meterGetReadRegistersResponse env.now fc garbage count s = some (data, s₁)) :
      SingleFind driver env s type { s₁.clearRequest with
        statics := driver.setFindState 0 s₁.statics }
  | reset (hzero : driver.findState s.statics ≠ 0) (hone : driver.findState s.statics ≠ 1) :
      SingleFind driver env s .unknown { s with statics := driver.setFindState 0 s.statics }

theorem genericFind_single (env : TickEnv) (s : Stack F) :
    SingleFind .generic env s (meterGenericIsConnected env s).1
      (meterGenericIsConnected env s).2 := by
  unfold meterGenericIsConnected
  split
  · exact .first ‹_›
  · rename_i hstate
    split
    · exact .wait hstate
    · rename_i data s₁ hresponse
      have htake (type : MeterType) : SingleFind .generic env s type
          { s₁.clearRequest with statics.genericFindState := 0 } := .take type hstate hresponse
      simp only
      split <;> exact htake _
  · exact .reset ‹_› ‹_›

theorem eastronFind_single (env : TickEnv) (s : Stack F) :
    SingleFind .eastron env s (meterEastronIsConnected env s).1
      (meterEastronIsConnected env s).2 := by
  unfold meterEastronIsConnected
  split
  · exact .first ‹_›
  · rename_i hstate
    split
    · exact .wait hstate
    · rename_i data s₁ hresponse
      have htake (type : MeterType) : SingleFind .eastron env s type
          { s₁.clearRequest with statics.eastronFindState := 0 } := .take type hstate hresponse
      simp only
      split_ifs <;> exact htake _
  · exact .reset ‹_› ‹_›

theorem iskraFind_single (env : TickEnv) (s : Stack F) :
    SingleFind .iskra env s (meterIskraIsConnected env s).1 (meterIskraIsConnected env s).2 := by
  unfold meterIskraIsConnected
  split
  · exact .first ‹_›
  · rename_i hstate
    split
    · exact .wait hstate
    · rename_i data s₁ hresponse
      have htake (type : MeterType) : SingleFind .iskra env s type
          { s₁.clearRequest with statics.iskraFindState := 0 } := .take type hstate hresponse
      simp only
      split_ifs <;> exact htake _
  · exact .reset ‹_› ‹_›

theorem findOutstanding_single (hplain : driver ≠ .eltako) (s : Stack F) :
    driver.findOutstanding s =
      if driver.findState s.statics = 1 then some driver.firstRequest else none := by
  cases driver with
  | eltako => exact absurd rfl hplain
  | _ => rfl

theorem findState_setFindState (driver : MeterDriver) (state : ℕ) (statics : MeterStatics F) :
    driver.findState (driver.setFindState state statics) = state := by
  cases driver <;> rfl

theorem sendable_firstRequest (driver : MeterDriver) : driver.firstRequest.Sendable := by
  cases driver <;> exact sendable_readRegisters (by decide) _ _

theorem SingleFind.step {env : TickEnv} {type : MeterType} {s' : Stack F}
    (hplain : driver ≠ .eltako) (h : SingleFind driver env s type s') :
    FindStep driver env.now s type s' := by
  cases h with
  | first hstate =>
    apply FindStep.issue (sendable_firstRequest driver)
    · rw [findOutstanding_single hplain, if_neg (by omega)]
    · rw [findOutstanding_single hplain]
      exact if_pos (findState_setFindState driver 1 s.statics)
  | wait hstate => exact .wait
  | @take fc _ _ _ s₁ _ hstate hresponse =>
    obtain ⟨hready, htaken, -⟩ := meterGetReadRegistersResponse_some hresponse
    refine .take hready htaken (fun _ => ?_) fun _ => rfl
    rw [findOutstanding_single hplain]
    show (if driver.findState (driver.setFindState 0 s₁.statics) = 1 then _ else _) = none
    rw [findState_setFindState, if_neg zero_ne_one]
  | reset hzero hone =>
    apply FindStep.reset
    rw [findOutstanding_single hplain, if_neg hone]

/-! ### The Eltako detection -/

theorem eltakoFindOutstanding_none {s : Stack F} (h : s.statics.eltakoFindState ≠ 1 ∧
    s.statics.eltakoFindState ≠ 3 ∧ s.statics.eltakoFindState ≠ 5 ∧
    s.statics.eltakoFindState ≠ 7) : eltakoFindOutstanding s = none := by
  unfold eltakoFindOutstanding
  split
  · exact absurd ‹_› h.1
  · exact absurd ‹_› h.2.1
  · exact absurd ‹_› h.2.2.1
  · exact absurd ‹_› h.2.2.2
  · rfl

theorem eltakoFind_step (env : TickEnv) (s : Stack F) :
    FindStep .eltako env.now s (meterEltakoIsConnected env s).1
      (meterEltakoIsConnected env s).2 := by
  unfold meterEltakoIsConnected
  split
  · rename_i hstate
    have hnone := eltakoFindOutstanding_none (s := s) (by omega)
    exact .issue (sendable_readRegisters (by decide) _ _) hnone rfl
  · split
    · exact .wait
    · rename_i data s₁ hresponse
      obtain ⟨hready, htaken, -⟩ := meterGetReadRegistersResponse_some hresponse
      simp only
      split
      · exact .take hready htaken (fun _ => rfl) fun htype => by cases htype
      · exact .take hready htaken (fun _ => rfl) fun _ => rfl
  · rename_i hstate
    have hnone := eltakoFindOutstanding_none (s := s) (by omega)
    exact .issue (sendable_readRegisters (by decide) _ _) hnone rfl
  · rename_i hstate
    split
    · exact .wait
    · rename_i data s₁ hresponse
      obtain ⟨hready, htaken, -⟩ := meterGetReadRegistersResponse_some hresponse
      simp only
      split
      · exact .take hready htaken (fun _ => rfl) fun htype => by cases htype
      · -- found, and the state of the detection stays where it is
        have htake : FindStep .eltako env.now s .dsz15Dzmod { s₁.clearRequest with
            statics := MeterDriver.setFindState s₁.statics.eltakoFindState s₁.statics .eltako } :=
          .take hready htaken (fun htype => by cases htype) (fun htype => by cases htype)
        exact htake
  · rename_i hstate
    have hnone := eltakoFindOutstanding_none (s := s) (by omega)
    exact .clearIssue (sendable_writeRegister (by decide) _ _) hnone rfl
  · split
    · exact .wait
    · rename_i s₁ hresponse
      obtain ⟨hready, htaken⟩ := meterGetWriteRegisterResponse_some hresponse
      exact .take hready htaken (fun _ => rfl) fun htype => by cases htype
  · rename_i hstate
    have hnone := eltakoFindOutstanding_none (s := s) (by omega)
    exact .clearIssue (sendable_writeRegister (by decide) _ _) hnone rfl
  · split
    · exact .wait
    · rename_i s₁ hresponse
      obtain ⟨hready, htaken⟩ := meterGetWriteRegisterResponse_some hresponse
      exact .take hready htaken (fun _ => rfl) fun _ => rfl
  · rename_i h₀ h₁ h₂ h₃ h₄ h₅ h₆ h₇
    exact .reset (eltakoFindOutstanding_none ⟨h₁, h₃, h₅, h₇⟩)

theorem find_step (driver : MeterDriver) (env : TickEnv) (s : Stack F) :
    FindStep driver env.now s (driver.isConnected env s).1 (driver.isConnected env s).2 := by
  cases driver with
  | eastron => exact (eastronFind_single env s).step nofun
  | generic => exact (genericFind_single env s).step nofun
  | iskra => exact (iskraFind_single env s).step nofun
  | eltako => exact eltakoFind_step env s

/-! ### The result -/

/-- What detection does with the result of the manufacturer it is at. -/
inductive FindMove (now : ℕ) (s : Stack F) : Stack F → Prop
  | again (horder : findOrder s.statics.findMeterState = none) :
      FindMove now s { s with statics.findMeterState := 0 }
  | wait {driver : MeterDriver} {t : Stack F}
      (horder : findOrder s.statics.findMeterState = some driver)
      (hfind : FindStep driver now s .detection t) : FindMove now s (meterResetErrorCounter t)
  | found {driver : MeterDriver} {type : MeterType} {t : Stack F}
      (horder : findOrder s.statics.findMeterState = some driver)
      (hfind : FindStep driver now s type t) (hdetection : type ≠ .detection)
      (hunknown : type ≠ .unknown) :
      FindMove now s { meterSetMeterType now type (meterResetErrorCounter t) with
        statics.findMeterState := 0 }
  | next {driver : MeterDriver} {t : Stack F}
      (horder : findOrder s.statics.findMeterState = some driver)
      (hfind : FindStep driver now s .unknown t) :
      FindMove now s { meterResetErrorCounter t with
        statics.findMeterState := s.statics.findMeterState + 1 }

theorem meterFindMeterType_cases [CFloat F] (env : TickEnv) (s : Stack F) :
    FindMove env.now s (meterFindMeterType env s) := by
  rw [meterFindMeterType, meterIsConnected_eq]
  cases horder : findOrder s.statics.findMeterState with
  | none => exact .again horder
  | some driver =>
    have hfind := find_step driver env s
    simp only [Option.map_some]
    generalize driver.isConnected env s = result at hfind ⊢
    obtain ⟨type, t⟩ := result
    simp only
    split_ifs with hdetection hunknown
    · subst hdetection
      exact .wait horder hfind
    · exact .found horder hfind hdetection hunknown
    · obtain rfl := not_not.mp hunknown
      obtain ⟨state, hstatics, -⟩ := hfind.statics
      have hstate : t.statics.findMeterState = s.statics.findMeterState := by
        rw [hstatics]
        cases driver <;> rfl
      have hnext := FindMove.next horder hfind
      rw [← hstate] at hnext
      exact hnext

end Bricklib2
