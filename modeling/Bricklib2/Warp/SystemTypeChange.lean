/-
Bricklib2/Warp/SystemTypeChange.lean

When the Eastron driver changes the configuration of its meter.  It writes the
password and a new system type once the configured one is not allowed or does not
fit the connected phases.  The configured one is read first; but a failed read is
judged like a valid one, by the value that an earlier read has left behind, or by
the zero of `meter_init`, and a frame of the wrong length by whatever bytes stand where
the two registers should be.

Main result: `writes_founded`, a run writes on the ground of a valid response only,
exactly if no other outcome of the read is judged to ask for a change.
-/
import Bricklib2.Warp.MeterSourceRuns
import Bricklib2.Warp.MeterWatchdog

namespace Bricklib2

open Machine

variable {F : Type} {s s' : Stack F} {env : TickEnv} {now : ℕ}

/-! ### What is written, and on what ground -/

/-- The requests that have been issued, the newest first. -/
def Stack.requested (s : Stack F) : List MeterRequest :=
  s.rs485.requests.map IssuedRequest.request

/-- The Eastron driver issues the password write or a system-type write. -/
def WritesConfiguration (s s' : Stack F) : Prop :=
  s.meter.type.driver = some .eastron ∧
    ∃ q, s'.requested = q :: s.requested ∧
      (q = s.meter.passwordRequest ∨ ∃ systemType, q = s.meter.systemTypeRequest systemType)

/-- The tick gives the Eastron driver the response to its system-type read. -/
def Stack.takesSystemType (now : ℕ) (s : Stack F) : Bool :=
  s.meter.type.driver == some .eastron && s.meter.state == 3 &&
    !waiting now s.meter.errorWaitTime 500 && !waiting now s.meter.firstTick 2500 &&
    meterIsResponseReady modbusFcReadHoldingRegisters s.rs485

/-- The system type in the response. -/
def RS485.systemType (r : RS485) : BitVec 32 := bigEndian32 fun i => r.rxFrame (3 + i)

variable [CFloat F]

/-- The phases on which a voltage has been measured. -/
def Stack.livePhases (s : Stack F) : Fin 3 → Bool :=
  (meterHandlePhasesConnected s).meter.phasesConnected

/-- The phases L1 to L3 are the indices 0 to 2. -/
local instance neZeroPhases : NeZero 3 := ⟨by decide⟩

/-- A system type that is not allowed, three phases with only L1 connected, or one phase
with all of them connected. -/
def Stack.requiresChange (systemType : BitVec 32) (s : Stack F) : Bool :=
  let systemType : F := CFloat.ofBits systemType
  if CFloat.eq systemType (CFloat.ofRat 3) then
    s.livePhases 0 && !s.livePhases 1 && !s.livePhases 2
  else if CFloat.eq systemType (CFloat.ofRat 1) then
    s.livePhases 0 && s.livePhases 1 && s.livePhases 2
  else
    true

omit [CFloat F] in
/-- The meter has answered the read of its system type: with a whole frame for the two
registers, whose slave address, function code, byte count and checksum are right. -/
def Stack.systemTypeAnswered (s : Stack F) : Bool :=
  !s.rs485.responseFailed && decide (AnswersRead modbusFcReadHoldingRegisters
    s.meter.slaveAddress 2 (s.rs485.takenFrame.map RxByte.value))

/-- Whether the system-type read of this cycle was answered by a valid response whose
value requires a change.  A cycle starts with the read. -/
def changeNote (s : Stack F) (e : StackEvent) (_ : Stack F) (founded : Bool) : Bool :=
  match e with
  | .meterTick env =>
    if s.takesSystemType env.now then
      s.systemTypeAnswered && s.requiresChange s.rs485.systemType
    else if s.meter.state = 2 then
      false
    else
      founded
  | .receive _ _ | .rxIrq _ | .txIrq | .txShift | .rs485Tick _ _ => founded

omit [CFloat F] in
/-- The value that the driver judges: a failed read leaves the old one, and a frame is not
asked for its length. -/
def Stack.judgedSystemType (s : Stack F) : BitVec 32 :=
  if s.rs485.responseFailed then s.meter.systemTypeRead else s.rs485.systemType

/-- A read that fails, or brings a frame of the wrong length, is not judged to ask for a
change. -/
def StackEvent.NoStaleChange (s : Stack F) : StackEvent → Prop
  | .meterTick env => s.takesSystemType env.now = true →
      s.rs485.responseFailed = true ∨ ¬ s.rs485.Fits 2 →
      s.requiresChange s.judgedSystemType = false
  | .receive _ _ | .rxIrq _ | .txIrq | .txShift | .rs485Tick _ _ => True

instance (s : Stack F) (e : StackEvent) : Decidable (e.NoStaleChange s) :=
  match e with
  | .meterTick _ => inferInstanceAs (Decidable (_ → _ → _))
  | .receive _ _ | .rxIrq _ | .txIrq | .txShift | .rs485Tick _ _ => isTrue trivial

/-! ### One tick of the driver -/

theorem handleNewSystemType_eq (s : Stack F) : meterEastronHandleNewSystemType s = { s with
    meter.phasesConnected := s.livePhases
    meter.newSystemType := s.meter.newSystemType || s.requiresChange s.meter.systemTypeRead } := by
  have hset (b : Bool) (p : Prop) [Decidable p] (hb : b = true ↔ p) : (if p then
      { meterHandlePhasesConnected s with meter.newSystemType := true }
      else meterHandlePhasesConnected s) = { s with
        meter.phasesConnected := s.livePhases
        meter.newSystemType := s.meter.newSystemType || b } := by
    split
    · rename_i h
      rw [hb.mpr h, Bool.or_true]
      rfl
    · rename_i h
      rw [Bool.eq_false_of_not_eq_true fun ht => h (hb.mp ht), Bool.or_false]
      rfl
  unfold meterEastronHandleNewSystemType
  -- three phases, one phase, or a system type that no meter should have
  by_cases hthree : CFloat.eq (CFloat.ofBits s.meter.systemTypeRead : F) (CFloat.ofRat 3) = true
  · apply (if_pos hthree).trans
    apply hset
    rw [Stack.requiresChange, if_pos hthree]
    simp only [Bool.and_eq_true, Bool.not_eq_true', and_assoc, Bool.not_eq_true]
    rfl
  · apply (if_neg hthree).trans
    by_cases hone : CFloat.eq (CFloat.ofBits s.meter.systemTypeRead : F) (CFloat.ofRat 1) = true
    · apply (if_pos hone).trans
      apply hset
      rw [Stack.requiresChange, if_neg hthree, if_pos hone]
      simp only [Bool.and_eq_true, and_assoc]
      rfl
    · apply (if_neg hone).trans
      rw [Stack.requiresChange, if_neg hthree, if_neg hone, Bool.or_true]
      rfl

theorem livePhases_congr (h : s'.registers = s.registers) : s'.livePhases = s.livePhases := by
  rw [Stack.livePhases, Stack.livePhases, meterHandlePhasesConnected, h]
  rfl

theorem requiresChange_congr (h : s'.registers = s.registers) (systemType : BitVec 32) :
    s'.requiresChange systemType = s.requiresChange systemType := by
  rw [Stack.requiresChange, Stack.requiresChange, livePhases_congr h]

/-- State 3 takes the response and judges. -/
theorem eastronTick_judge (hstate : s.meter.state = 3) (htick : meterEastronTick env s = some s') :
    meterIsResponseReady modbusFcReadHoldingRegisters s.rs485 = false ∧ s' = s ∨
      meterIsResponseReady modbusFcReadHoldingRegisters s.rs485 = true ∧ ∃ c t a log, s' = { s with
        rs485 := modbusClearRequest { s.rs485 with errorCounters := c }
        meter := { s.meter with
          errorWaitTime := t
          available := a
          systemTypeRead := s.judgedSystemType
          phasesConnected := s.livePhases
          newSystemType := s.meter.newSystemType || s.requiresChange s.judgedSystemType
          state := 4 }
        openRequest := false
        responses := log ++ s.responses } := by
  simp only [meterEastronTick, hstate] at htick
  split at htick
  · rename_i hnone
    obtain rfl := Option.some.inj htick
    exact Or.inl ⟨meterGetReadRegistersResponse_none hnone, rfl⟩
  · rename_i data s₁ hresponse
    obtain ⟨hready, htaken, hdata⟩ := meterGetReadRegistersResponse_some hresponse
    -- behind a failed read the buffer still holds the value of the last one
    have hjudged : data 0 = s.judgedSystemType := by
      rcases hdata with ⟨hfailed, hdata, -⟩ | ⟨hvalid, hdata, -⟩
      · rw [hdata, Stack.judgedSystemType, if_pos hfailed]
      · rw [hdata, Stack.judgedSystemType, if_neg (ne_true_of_eq_false hvalid)]
        rfl
    have hregisters := htaken.registers
    obtain ⟨c, t, a, log, htaken⟩ := htaken
    refine Or.inr ⟨hready, c, t, a, log, ?_⟩
    obtain rfl := Option.some.inj htick
    rw [handleNewSystemType_eq, hjudged]
    have hphases : Stack.livePhases { s₁ with meter.systemTypeRead := s.judgedSystemType } =
        s.livePhases := livePhases_congr hregisters
    have hchange : Stack.requiresChange s.judgedSystemType
        { s₁ with meter.systemTypeRead := s.judgedSystemType } =
        s.requiresChange s.judgedSystemType := requiresChange_congr hregisters _
    rw [hphases]
    simp only [hchange]
    rw [htaken]
    rfl

/-- Without a need for a change, state 4 writes nothing. -/
theorem eastronTick_keep (hstate : s.meter.state = 4) (hnew : s.meter.newSystemType = false) :
    meterEastronTick env s = some { s with meter.state := 0 } := by
  simp only [meterEastronTick, hstate, hnew, if_true]

theorem eastronTick_password (hstate : s.meter.state = 4) (hnew : s.meter.newSystemType = true) :
    meterEastronTick env s = some { Stack.issue env.now s.meter.passwordRequest
      (Stack.clearRequest { s with meter.newSystemType := false }) with meter.state := 5 } := by
  simp only [meterEastronTick, hstate, hnew, Bool.true_eq_false, if_false]
  rfl

/-! ### Which ticks write -/

omit [CFloat F] in
theorem requested_issue (now : ℕ) (q : MeterRequest) (s : Stack F) :
    (s.issue now q).requested = q :: s.requested := issue_requests now q s

omit [CFloat F] in
theorem not_writes_of_same (h : s'.requested = s.requested) : ¬ WritesConfiguration s s' := by
  rintro ⟨-, q, hq, -⟩
  rw [h] at hq
  exact absurd (congrArg List.length hq) (by simp)

omit [CFloat F] in
theorem not_writes_of_read {fc slave : UInt8} {address count : ℕ}
    (h : s'.requested = .readRegisters fc slave address count :: s.requested) :
    ¬ WritesConfiguration s s' := by
  rintro ⟨-, q, hq, hwrite⟩
  obtain ⟨rfl, -⟩ := List.cons_eq_cons.mp (h.symm.trans hq)
  rcases hwrite with hwrite | ⟨systemType, hwrite⟩ <;> cases hwrite

theorem scanRead_requested {driver : ScanDriver} (h : meterScanRead driver env s = some s') :
    s'.requested = s.requested := by
  rcases meterScanRead_cases h with ⟨-, rfl⟩ | ⟨data, s₁, value, address, hresponse, -, -, hscan⟩
  · rfl
  · obtain ⟨-, ⟨c, t, a, log, rfl⟩, -⟩ := meterGetReadRegistersResponse_some hresponse
    rcases hscan with ⟨-, b, p, t', cb, rfl⟩ | ⟨-, p, registers, once, calls, rfl, -⟩
    · cases driver <;> cases address <;> rfl
    · cases address <;> rfl

/-- The driver writes in two states only. -/
theorem eastronTick_writes (htick : meterEastronTick env s = some s')
    (hwrites : WritesConfiguration s s') :
    s.meter.state = 4 ∧ s.meter.newSystemType = true ∨ s.meter.state = 6 := by
  by_contra hnot
  obtain ⟨hfour, hsix⟩ := not_or.mp hnot
  rcases meterEastronTick_cases htick with ⟨-, rfl⟩ | ⟨-, hread⟩ | hmove
  · exact not_writes_of_read (requested_issue env.now _ s) hwrites
  · exact not_writes_of_same (scanRead_requested hread) hwrites
  · cases hmove with
    | wait fc hfc hstate hready => exact not_writes_of_same rfl hwrites
    | restart phases hstate => exact not_writes_of_same rfl hwrites
    | take fc phases isNew read hstate hready htaken =>
      obtain ⟨c, t, a, log, rfl⟩ := htaken
      exact not_writes_of_same rfl hwrites
    | readSystemType hstate => exact not_writes_of_read (requested_issue env.now _ s) hwrites
    | writePassword hstate =>
      have hnew : s.meter.newSystemType = false :=
        Bool.eq_false_of_not_eq_true fun hnew => hfour ⟨hstate, hnew⟩
      rw [eastronTick_keep hstate hnew] at htick
      rw [← Option.some.inj htick] at hwrites
      exact not_writes_of_same rfl hwrites
    | writeSystemType systemType hstate hphases => exact hsix hstate

/-! ### What a tick leaves of the ground -/

/-- A new system type is asked for, or being written, on the ground of a valid response. -/
structure ChangeInv (s : Stack F) (founded : Bool) : Prop where
  rest : s.meter.type.driver = none → s.meter.state = 0 ∧ s.meter.newSystemType = false
  flag : s.meter.type.driver = some .eastron → s.meter.newSystemType = true →
    s.meter.state = 4 ∧ founded = true
  writing : s.meter.type.driver = some .eastron → s.meter.state = 5 ∨ s.meter.state = 6 →
    founded = true

omit [CFloat F] in
theorem ChangeInv.of_eastron {founded : Bool} (hdriver : s.meter.type.driver = some .eastron)
    (hflag : s.meter.newSystemType = true → s.meter.state = 4 ∧ founded = true)
    (hwriting : s.meter.state = 5 ∨ s.meter.state = 6 → founded = true) : ChangeInv s founded := by
  refine ⟨fun hnone => ?_, fun _ => hflag, fun _ => hwriting⟩
  rw [hdriver] at hnone
  cases hnone

omit [CFloat F] in
/-- Other drivers do not write to an Eastron meter. -/
theorem ChangeInv.of_other {founded : Bool} (hnone : s.meter.type.driver ≠ none)
    (heastron : s.meter.type.driver ≠ some .eastron) : ChangeInv s founded :=
  ⟨fun h => absurd h hnone, fun h => absurd h heastron, fun h => absurd h heastron⟩

theorem scanRead_change {driver : ScanDriver} (hstate : s.meter.state = 1)
    (h : meterScanRead driver env s = some s') :
    s'.meter.newSystemType = s.meter.newSystemType ∧ s'.meter.state ≤ 2 := by
  rcases meterScanRead_cases h with ⟨-, rfl⟩ | ⟨data, s₁, value, address, hresponse, -, -, hscan⟩
  · exact ⟨rfl, by omega⟩
  · obtain ⟨-, ⟨c, t, a, log, rfl⟩, -⟩ := meterGetReadRegistersResponse_some hresponse
    rcases hscan with ⟨-, b, p, t', cb, rfl⟩ | ⟨-, p, registers, once, calls, rfl, -⟩
    · cases driver <;> cases address <;> exact ⟨rfl, Nat.zero_le 2⟩
    · rw [hstate]
      cases address <;> exact ⟨rfl, Nat.le_refl 2⟩

/-- Outside of the states 3 and 4 no change is decided. -/
theorem eastronTick_undecided (hthree : s.meter.state ≠ 3) (hfour : s.meter.state ≠ 4)
    (htick : meterEastronTick env s = some s') :
    s'.meter.newSystemType = s.meter.newSystemType ∧
      (s'.meter.state = 5 ∨ s'.meter.state = 6 → s.meter.state = 5) := by
  unfold meterEastronTick at htick
  -- the states in the order of the driver
  split at htick
  · rename_i hstate
    obtain rfl := Option.some.inj htick
    refine ⟨rfl, fun hwrite => ?_⟩
    have hone : (meterScanRequest .eastron env.now s).meter.state = s.meter.state + 1 := rfl
    omega
  · rename_i hstate
    obtain ⟨hnew, hle⟩ := scanRead_change hstate htick
    exact ⟨hnew, by omega⟩
  · split at htick
    · obtain rfl := Option.some.inj htick
      exact ⟨rfl, fun hwrite => by rcases hwrite with h | h <;> cases h⟩
    · split at htick <;> obtain rfl := Option.some.inj htick <;>
        exact ⟨rfl, fun hwrite => by rcases hwrite with h | h <;> cases h⟩
  · exact absurd ‹_› hthree
  · exact absurd ‹_› hfour
  · rename_i hstate
    split at htick
    · obtain rfl := Option.some.inj htick
      exact ⟨rfl, fun _ => hstate⟩
    · rename_i s₁ hresponse
      obtain ⟨-, c, t, a, log, rfl⟩ := meterGetWriteRegisterResponse_some hresponse
      obtain rfl := Option.some.inj htick
      exact ⟨rfl, fun _ => hstate⟩
  · simp only at htick
    split_ifs at htick <;> obtain rfl := Option.some.inj htick <;>
      exact ⟨rfl, fun hwrite => by rcases hwrite with h | h <;> cases h⟩
  · rename_i hstate
    split at htick
    · obtain rfl := Option.some.inj htick
      exact ⟨rfl, by omega⟩
    · rename_i s₁ hresponse
      obtain ⟨-, c, t, a, log, rfl⟩ := meterGetWriteRegisterResponse_some hresponse
      obtain rfl := Option.some.inj htick
      exact ⟨rfl, fun hwrite => by rcases hwrite with h | h <;> cases h⟩
  · obtain rfl := Option.some.inj htick
    exact ⟨rfl, fun hwrite => by rcases hwrite with h | h <;> cases h⟩

/-- What a tick of the driver makes of the ground. -/
def Stack.founds (founded : Bool) (s : Stack F) : Bool :=
  if s.meter.state == 3 && meterIsResponseReady modbusFcReadHoldingRegisters s.rs485 then
    s.systemTypeAnswered && s.requiresChange s.rs485.systemType
  else if s.meter.state = 2 then
    false
  else
    founded

theorem ChangeInv.eastronTick {founded : Bool} (h : ChangeInv s founded)
    (hdriver : s.meter.type.driver = some .eastron)
    (hstale : s.meter.state = 3 →
      meterIsResponseReady modbusFcReadHoldingRegisters s.rs485 = true →
      s.systemTypeAnswered = false → s.requiresChange s.judgedSystemType = false)
    (htick : meterEastronTick env s = some s') : ChangeInv s' (s.founds founded) := by
  have hdriver' : s'.meter.type.driver = some .eastron := by
    rw [(meterEastronTick_keepsBus htick).1]
    exact hdriver
  by_cases hthree : s.meter.state = 3
  · have hnew : s.meter.newSystemType = false := by
      apply Bool.eq_false_of_not_eq_true
      intro hnew
      have hfour := (h.flag hdriver hnew).1
      omega
    -- the tick judges the value, and notes whether the response asks for a change
    rcases eastronTick_judge hthree htick with ⟨hready, rfl⟩ | ⟨hready, c, t, a, log, rfl⟩
    · rw [Stack.founds, hthree, hready]
      exact h
    · have hfounds : s.founds founded =
          (s.systemTypeAnswered && s.requiresChange s.rs485.systemType) := by
        rw [Stack.founds, hthree, hready]
        rfl
      rw [hfounds]
      apply ChangeInv.of_eastron hdriver'
      · intro hchange
        refine ⟨rfl, ?_⟩
        -- the flag was off, so it is set for this value
        have hjudged : (s.meter.newSystemType || s.requiresChange s.judgedSystemType) = true :=
          hchange
        rw [hnew, Bool.false_or] at hjudged
        cases hanswered : s.systemTypeAnswered with
        | true =>
          have hok := (Bool.and_eq_true_iff.mp hanswered).1
          rw [Stack.judgedSystemType, if_neg (ne_true_of_eq_false ((Bool.not_eq_true' _).mp hok))]
            at hjudged
          exact hjudged
        | false =>
          rw [hstale hthree hready hanswered] at hjudged
          cases hjudged
      · intro hwrite
        rcases hwrite with h | h <;> cases h
  · have hfounds : s.meter.state ≠ 2 → s.founds founded = founded := by
      intro htwo
      rw [Stack.founds, beq_false_of_ne hthree, Bool.false_and, if_neg Bool.false_ne_true,
        if_neg htwo]
    -- state 4 acts on the flag, and no other state sets it
    by_cases hfour : s.meter.state = 4
    · rw [hfounds (by omega)]
      cases hnew : s.meter.newSystemType with
      | false =>
        obtain rfl := Option.some.inj ((eastronTick_keep hfour hnew).symm.trans htick)
        apply ChangeInv.of_eastron hdriver'
        · intro hchange
          exact absurd (hnew.symm.trans hchange) Bool.false_ne_true
        · intro hwrite
          rcases hwrite with h | h <;> cases h
      | true =>
        obtain rfl := Option.some.inj ((eastronTick_password hfour hnew).symm.trans htick)
        apply ChangeInv.of_eastron hdriver'
        · intro hchange
          cases hchange
        · exact fun _ => (h.flag hdriver hnew).2
    · obtain ⟨hsame, hwrite⟩ := eastronTick_undecided hthree hfour htick
      apply ChangeInv.of_eastron hdriver'
      · intro hchange
        exact absurd (h.flag hdriver (hsame.symm.trans hchange)).1 hfour
      · intro hstate
        have hfive := hwrite hstate
        rw [hfounds (by omega)]
        exact h.writing hdriver (Or.inl hfive)

/-! ### Runs -/

theorem meterIskraTick_type (h : HandOverInv s) (hdriver : s.meter.type.driver = some .iskra)
    (htick : meterIskraTick env s = some s') : s'.meter.type = s.meter.type := by
  unfold meterIskraTick at htick
  split_ifs at htick with hinit htransaction hdisplay hdue
  · obtain rfl := Option.some.inj htick
    rfl
  · obtain rfl := Option.some.inj htick
    rfl
  · obtain rfl := Option.some.inj htick
    rfl
  · have hmove := meterIskraFastTick_cases htick
    exact (iskraFastMove_bus (h.slave hdriver) (h.iskra hdriver).1 hdue hmove).1.type
  · exact (iskraSlowMove_bus (h.slave hdriver) (meterIskraSlowTick_cases htick)).1.type

theorem meterDriverTick_type (h : HandOverInv s) (htick : meterDriverTick env s = some s') :
    s'.meter.type = s.meter.type := by
  by_cases hdriver : s.meter.type.driver = some .iskra
  · have hiskra : meterIskraTick env s = some s' := by
      simpa only [meterDriverTick, hdriver] using htick
    exact meterIskraTick_type h hdriver hiskra
  · exact (meterDriverTick_keepsBus hdriver htick).1

omit [CFloat F] in
theorem ChangeInv.of_rest {founded : Bool} (hstate : s.meter.state = 0)
    (hnew : s.meter.newSystemType = false) : ChangeInv s founded := by
  refine ⟨fun _ => ⟨hstate, hnew⟩, fun _ hchange => ?_, fun _ hwrite => ?_⟩
  · exact absurd (hnew.symm.trans hchange) Bool.false_ne_true
  · omega

omit [CFloat F] in
theorem ChangeInv.congr {founded : Bool} (h : ChangeInv s founded)
    (htype : s'.meter.type = s.meter.type) (hstate : s'.meter.state = s.meter.state)
    (hnew : s'.meter.newSystemType = s.meter.newSystemType) : ChangeInv s' founded := by
  refine ⟨?_, ?_, ?_⟩
  · rw [htype, hstate, hnew]
    exact h.rest
  · rw [htype, hstate, hnew]
    exact h.flag
  · rw [htype, hstate]
    exact h.writing

/-- A tick that takes no system type keeps the ground, or starts the next cycle. -/
theorem ChangeInv.untaken {founded : Bool} (h : ChangeInv s founded)
    (htakes : s.takesSystemType env.now = false) :
    ChangeInv s (changeNote s (.meterTick env) s' founded) := by
  rw [changeNote, htakes, if_neg Bool.false_ne_true]
  split
  · rename_i htwo
    refine ⟨h.rest, fun hdriver hnew => ?_, fun hdriver hwrite => ?_⟩
    · have hfour := (h.flag hdriver hnew).1
      omega
    · omega
  · exact h

omit [CFloat F] in
theorem takesSystemType_of_driver (h : s.meter.type.driver ≠ some .eastron) :
    s.takesSystemType now = false := by
  rw [Stack.takesSystemType, beq_false_of_ne h]
  rfl

omit [CFloat F] in
theorem ChangeInv.find {founded : Bool} (h : ChangeInv s founded)
    (htype : s.meter.type = .unknown) (hmove : FindMove now s s') (founded' : Bool) :
    ChangeInv s' founded' := by
  obtain ⟨hstate, hnew⟩ := h.rest (unknown_driver htype)
  have hkept {driver : MeterDriver} {type : MeterType} {t : Stack F}
      (hfind : FindStep driver now s type t) :
      t.meter.state = 0 ∧ t.meter.newSystemType = false := by
    obtain ⟨time, available, hmeter⟩ := hfind.meter
    rw [hmeter]
    exact ⟨hstate, hnew⟩
  cases hmove with
  | again horder => exact .of_rest hstate hnew
  | wait horder hfind => exact .of_rest (hkept hfind).1 (hkept hfind).2
  | @found driver type t horder hfind hdetection hunknown =>
    obtain ⟨size, definitionSize, hset⟩ :=
      meterSetMeterType_eq now type (meterResetErrorCounter t)
    rw [hset]
    exact .of_rest (hkept hfind).1 (hkept hfind).2
  | next horder hfind => exact .of_rest (hkept hfind).1 (hkept hfind).2

omit [CFloat F] in
/-- Behind the request for the system type the RTU master accepts answers to it only, so
the length is what is left to ask for. -/
theorem StackInv.systemTypeAnswered_iff (h : StackInv s)
    (hdriver : s.meter.type.driver = some .eastron) (hthree : s.meter.state = 3)
    (hready : meterIsResponseReady modbusFcReadHoldingRegisters s.rs485 = true) :
    s.systemTypeAnswered = true ↔ s.rs485.responseFailed = false ∧ s.rs485.Fits 2 := by
  have hknown : s.meter.type ≠ .unknown := by
    intro htype
    rw [htype] at hdriver
    cases hdriver
  have hout : s.outstanding = some (.readRegisters modbusFcReadHoldingRegisters
      s.meter.slaveAddress meterSdmHoldingRegSystemType 2) := by
    rw [stackOutstanding_known hknown, hdriver]
    show eastronOutstanding s = _
    simp only [eastronOutstanding, hthree]
  obtain ⟨hwaits, hhead⟩ := h.bus.waiting _ hout
  obtain ⟨q, older, hw⟩ := h.bus.master.awaits hwaits
  rw [hw.requests, List.map_cons, List.head?_cons, Option.some.injEq] at hhead
  rw [Stack.systemTypeAnswered, Bool.and_eq_true, Bool.not_eq_true', decide_eq_true_iff]
  refine and_congr_right fun hok => ?_
  obtain ⟨htimedOut, hplain⟩ := Bool.or_eq_false_iff.mp hok
  have haccepted := hw.accepted (meterIsResponseReady_cbInvoke hready) htimedOut
  have hiff : AnswersRead q.request.fc q.request.slaveAddress 2
      (s.rs485.takenFrame.map RxByte.value) ↔
      s.rs485.Fits 2 := haccepted.answersRead_iff h.bus.master.rx hw.txFrame.2 hplain
  rw [hhead] at hiff
  exact hiff

theorem ChangeInv.meterTick {founded : Bool} (hhand : HandOverInv s)
    (hstack : s.meter.type.driver = some .iskra ∨ StackInv s) (h : ChangeInv s founded)
    (hstale : StackEvent.NoStaleChange s (.meterTick env)) (htick : meterTick env s = some s') :
    ChangeInv s' (changeNote s (.meterTick env) s' founded) := by
  cases meterTick_cases htick with
  | unsupported htype =>
    -- only a tick that takes the system type changes the note
    apply h.untaken
    apply takesSystemType_of_driver
    rw [htype]
    decide
  | errorWait hwait =>
    apply h.untaken
    rw [Stack.takesSystemType, hwait, Bool.not_true, Bool.and_false, Bool.false_and, Bool.false_and]
  | firstWait herror hwait =>
    have hsame : ChangeInv s (changeNote s (.meterTick env) s founded) := by
      apply h.untaken
      rw [Stack.takesSystemType, hwait, Bool.not_true, Bool.and_false, Bool.false_and]
    exact hsame.congr rfl rfl rfl
  | find htype =>
    have hstarted : ChangeInv s.started founded := h.congr rfl rfl rfl
    exact hstarted.find htype (meterFindMeterType_cases env s.started) _
  | @drive s₁ _ htype herror hfirst hcheck hdrive =>
    obtain ⟨timeout, hchecked, -⟩ := checked_eq hcheck
    have h₁ : ChangeInv s₁ founded := by
      rw [hchecked]
      exact h.congr rfl rfl rfl
    have hhand₁ : HandOverInv s₁ := by
      rw [hchecked]
      exact hhand.times 0 0 timeout s.meter.state
    have htype₁ : s₁.meter.type = s.meter.type := by rw [hchecked]
    have htype' := meterDriverTick_type hhand₁ hdrive
    -- the other drivers have no such flag
    by_cases hdriver : s.meter.type.driver = some .eastron
    · have heastron : meterEastronTick env s₁ = some s' := by
        simpa only [meterDriverTick, htype₁, hdriver] using hdrive
      have htakes : s.takesSystemType env.now = (s.meter.state == 3 &&
          meterIsResponseReady modbusFcReadHoldingRegisters s.rs485) := by
        rw [Stack.takesSystemType, hdriver, herror, hfirst]
        simp only [beq_self_eq_true, Bool.true_and, Bool.not_false, Bool.and_true]
      have hnote : changeNote s (.meterTick env) s' founded = s₁.founds founded := by
        rw [changeNote, htakes, hchecked]
        rfl
      rw [hnote]
      refine h₁.eastronTick (by rw [htype₁]; exact hdriver) ?_ heastron
      intro hthree hready hunanswered
      rw [hchecked] at hthree hready hunanswered ⊢
      have hinv : StackInv s := hstack.resolve_left (by rw [hdriver]; decide)
      apply hstale
      · rw [htakes, Bool.and_eq_true, beq_iff_eq]
        exact ⟨hthree, hready⟩
      · have hnot := mt (hinv.systemTypeAnswered_iff hdriver hthree hready).mpr
          (ne_true_of_eq_false hunanswered)
        rcases hfailed : s.rs485.responseFailed
        · exact Or.inr fun hfits => hnot ⟨hfailed, hfits⟩
        · exact Or.inl rfl
    · by_cases hnone : s.meter.type.driver = none
      · have hsame : s' = s₁ := by
          simp only [meterDriverTick, htype₁, hnone] at hdrive
          exact (Option.some.inj hdrive).symm
        obtain ⟨hstate, hnew⟩ := h.rest hnone
        rw [hsame, hchecked]
        exact .of_rest hstate hnew
      · apply ChangeInv.of_other
        · rw [htype', htype₁]
          exact hnone
        · rw [htype', htype₁]
          exact hdriver

/-- A meter that is found is not lost again. -/
theorem stackStep_iskra (hhand : HandOverInv s) {e : StackEvent}
    (hdriver : s.meter.type.driver = some .iskra) (hstep : stackStep s e = some s') :
    s'.meter.type.driver = some .iskra := by
  rcases stackStep_wire hstep with ⟨env, rfl⟩ | ⟨r, rfl, -, -⟩
  · cases meterTick_cases hstep with
    | unsupported _ | errorWait _ | firstWait _ _ => exact hdriver
    | find htype =>
      rw [unknown_driver htype] at hdriver
      cases hdriver
    | @drive s₁ _ htype herror hfirst hcheck hdrive =>
      obtain ⟨timeout, hchecked, -⟩ := checked_eq hcheck
      have hhand₁ : HandOverInv s₁ := by
        rw [hchecked]
        exact hhand.times 0 0 timeout s.meter.state
      rw [meterDriverTick_type hhand₁ hdrive, hchecked]
      exact hdriver
  · exact hdriver

/-- Without an Iskra meter nobody else uses the bus. -/
theorem stackInv_or_iskra {e : StackEvent} (hhand : HandOverInv s)
    (h : s.meter.type.driver = some .iskra ∨ StackInv s) (hstep : stackStep s e = some s') :
    s'.meter.type.driver = some .iskra ∨ StackInv s' := by
  by_cases hdriver : s.meter.type.driver = some .iskra
  · exact Or.inl (stackStep_iskra hhand hdriver hstep)
  · exact Or.inr ((h.resolve_left hdriver).step (fun hiskra => absurd hiskra hdriver) hstep)

theorem ChangeInv.step {founded : Bool} (hhand : HandOverInv s)
    (hstack : s.meter.type.driver = some .iskra ∨ StackInv s) (h : ChangeInv s founded)
    {e : StackEvent} (hstale : e.NoStaleChange s) (hstep : stackStep s e = some s') :
    ChangeInv s' (changeNote s e s' founded) := by
  cases e with
  | meterTick env => exact h.meterTick hhand hstack hstale hstep
  | txIrq =>
    simp only [stackStep] at hstep
    split_ifs at hstep
    obtain rfl := Option.some.inj hstep
    exact h.congr rfl rfl rfl
  | receive _ _ | rxIrq _ | txShift | rs485Tick _ _ =>
    obtain rfl := Option.some.inj hstep
    exact h.congr rfl rfl rfl

/-- A tick that writes does so in the states 4 and 6, and has a ground. -/
theorem founded_of_writes {founded : Bool} (h : ChangeInv s founded)
    (htick : meterTick env s = some s') (hwrites : WritesConfiguration s s') :
    founded = true := by
  have hdriver := hwrites.1
  cases meterTick_cases htick with
  | unsupported htype =>
    rw [htype] at hdriver
    cases hdriver
  | errorWait hwait => exact absurd hwrites (not_writes_of_same (rfl : s.requested = s.requested))
  | firstWait herror hwait => exact absurd hwrites (not_writes_of_same rfl)
  | find htype =>
    rw [unknown_driver htype] at hdriver
    cases hdriver
  | @drive s₁ _ htype herror hfirst hcheck hdrive =>
    obtain ⟨timeout, hchecked, -⟩ := checked_eq hcheck
    have htype₁ : s₁.meter.type = s.meter.type := by rw [hchecked]
    have heastron : meterEastronTick env s₁ = some s' := by
      simpa only [meterDriverTick, htype₁, hdriver] using hdrive
    have hwrites₁ : WritesConfiguration s₁ s' := by
      rw [hchecked]
      exact hwrites
    rcases eastronTick_writes heastron hwrites₁ with ⟨-, hnew⟩ | hsix
    · rw [hchecked] at hnew
      exact (h.flag hdriver hnew).2
    · rw [hchecked] at hsix
      exact h.writing hdriver (Or.inr hsix)

/-- State 4 writes the password as soon as no error is waited for. -/
theorem writes_password (hdriver : s.meter.type.driver = some .eastron)
    (hfour : s.meter.state = 4) (hnew : s.meter.newSystemType = true)
    (hfirst : s.meter.firstTick = 0) (hlast : s.statics.lastState ≠ s.meter.state) :
    ∃ env s', meterTick env s = some s' ∧ WritesConfiguration s s' := by
  have hsupported : s.meter.type ≠ .unsupported ∧ s.meter.type ≠ .unknown := by
    constructor <;> intro htype <;> rw [htype] at hdriver <;> cases hdriver
  -- half a second after the last error the tick is let through
  obtain ⟨now, hnow⟩ : ∃ now, now = s.meter.errorWaitTime + 500 := ⟨_, rfl⟩
  have herror : waiting (idleEnv now).now s.meter.errorWaitTime 500 = false := by
    apply Bool.eq_false_of_not_eq_true
    intro hwait
    obtain ⟨-, hlt⟩ := waiting_iff.mp hwait
    have henv : (idleEnv now).now = now := rfl
    omega
  have hfirstWait : waiting (idleEnv now).now s.meter.firstTick 2500 = false := by
    rw [hfirst]
    rfl
  let checked : Stack F := { s with
    meter.errorWaitTime := 0
    meter.firstTick := 0
    meter.timeout := systemTimerGetMs now
    statics.lastState := s.meter.state }
  have hchanged : s.started.statics.lastState ≠ s.started.meter.state := hlast
  -- and the state has just changed, so the watchdog is quiet
  have hloop : ¬ watchdogLoop now s.started = true := by
    rw [watchdogLoop, beq_false_of_ne hchanged, Bool.false_and]
    exact Bool.false_ne_true
  have hcheck : meterCheckState now s.started = some checked := by
    rw [meterCheckState, if_neg hloop, if_neg hchanged]
    rfl
  have htick : meterTick (idleEnv now) s = some { Stack.issue now s.meter.passwordRequest
      (Stack.clearRequest { checked with meter.newSystemType := false }) with
        meter.state := 5 } := by
    rw [meterTick_known hsupported.1 hsupported.2 herror hfirstWait]
    show (meterCheckState now s.started).bind (meterDriverTick (idleEnv now)) = _
    have hdriver' : checked.meter.type.driver = some .eastron := hdriver
    rw [hcheck, Option.bind_some, meterDriverTick, hdriver']
    exact eastronTick_password hfour hnew
  refine ⟨idleEnv now, _, htick, hdriver, s.meter.passwordRequest, ?_, Or.inl rfl⟩
  exact requested_issue now _ _

/-- Behind a read that is judged to ask for a change, there is a tick that writes. -/
theorem writes_of_judged (htick : meterTick env s = some s')
    (htakes : s.takesSystemType env.now = true)
    (hchange : s.requiresChange s.judgedSystemType = true) :
    ∃ env' s'', meterTick env' s' = some s'' ∧ WritesConfiguration s' s'' := by
  simp only [Stack.takesSystemType, Bool.and_eq_true, beq_iff_eq, Bool.not_eq_true'] at htakes
  obtain ⟨⟨⟨⟨hdriver, hthree⟩, herror⟩, hfirst⟩, hready⟩ := htakes
  have hsupported : s.meter.type ≠ .unsupported ∧ s.meter.type ≠ .unknown := by
    constructor <;> intro htype <;> rw [htype] at hdriver <;> cases hdriver
  rw [meterTick_known hsupported.1 hsupported.2 herror hfirst] at htick
  obtain ⟨s₁, hcheck, hdrive⟩ := Option.bind_eq_some_iff.mp htick
  obtain ⟨timeout, hchecked, -⟩ := checked_eq hcheck
  have htype₁ : s₁.meter.type = s.meter.type := by rw [hchecked]
  have heastron : meterEastronTick env s₁ = some s' := by
    simpa only [meterDriverTick, htype₁, hdriver] using hdrive
  have hthree₁ : s₁.meter.state = 3 := by
    rw [hchecked]
    exact hthree
  -- the tick judges the value
  rcases eastronTick_judge hthree₁ heastron with ⟨hwaits, -⟩ | ⟨-, c, t, a, log, heq⟩
  · rw [hchecked] at hwaits
    exact absurd (hready.symm.trans hwaits) (by decide)
  have hjudged : s₁.judgedSystemType = s.judgedSystemType := by
    rw [hchecked]
    rfl
  -- which sets the flag, and the next tick in state 4 writes
  have hnew : s'.meter.newSystemType = true := by
    have hsame : s₁.requiresChange s₁.judgedSystemType = s.requiresChange s.judgedSystemType := by
      rw [hjudged]
      apply requiresChange_congr
      rw [hchecked]
    rw [heq]
    show (s₁.meter.newSystemType || s₁.requiresChange s₁.judgedSystemType) = true
    rw [hsame, hchange, Bool.or_true]
  have hfour : s'.meter.state = 4 := by rw [heq]
  have hfirst' : s'.meter.firstTick = 0 := by rw [heq, hchecked]
  have hlast : s'.statics.lastState = 3 := by
    rw [heq, hchecked]
    exact hthree
  have htype' : s'.meter.type = s.meter.type := by rw [heq, hchecked]
  exact writes_password (by rw [htype']; exact hdriver) hfour hnew hfirst' (by omega)

theorem changeInvs_run {bufferSize txFifoSize start : ℕ} {events : List StackEvent} {t : Stack F}
    (hsize : 13 < bufferSize - bufferSize / 2)
    (hrun : run stackStep (stackInit bufferSize txFifoSize start) events = some t) :
    HandOverInv t ∧ (t.meter.type.driver = some .iskra ∨ StackInv t) := by
  refine run_induct (P := fun s : Stack F => HandOverInv s ∧
    (s.meter.type.driver = some .iskra ∨ StackInv s)) ?_
    ⟨handOverInv_init bufferSize txFifoSize start, Or.inr (stackInv_init txFifoSize start hsize)⟩
    hrun
  rintro s e s' ⟨hhand, hstack⟩ hstep
  exact ⟨(hhand.step hstep).1, stackInv_or_iskra hhand hstack hstep⟩

/-- In every state of a run, a tick issues the password write or a system-type write only
after a valid response that asks for it, exactly if no system-type read of the run that
fails, or brings a frame of the wrong length, is judged to ask for a change. -/
theorem writes_founded {bufferSize txFifoSize start : ℕ} {events : List StackEvent} {t : Stack F}
    (hsize : 13 < bufferSize - bufferSize / 2)
    (hrun : run stackStep (stackInit bufferSize txFifoSize start) events = some t) :
    (∀ before rest u founded, events = before ++ rest →
        run (observed stackStep changeNote) (stackInit (F := F) bufferSize txFifoSize start, false)
          before = some (u, founded) →
        ∀ env u', meterTick env u = some u' → WritesConfiguration u u' → founded = true) ↔
      Meets stackStep (fun (s : Stack F) e => e.NoStaleChange s)
        (stackInit bufferSize txFifoSize start) events := by
  constructor
  · intro hfounded
    refine meets_iff_next.mpr fun before e rest u hsplit hu => ?_
    cases e with
    | meterTick env =>
      intro htakes hunfit
      -- a value that asks for a change without ground is written in the tick behind
      by_contra hchange
      obtain ⟨founded, hobserved⟩ := exists_run_observed changeNote hu false
      rw [hsplit, run_append, hu] at hrun
      obtain ⟨u', htick, -⟩ := run_cons_eq_some.mp hrun
      obtain ⟨env', u'', htick', hwrites⟩ :=
        writes_of_judged htick htakes ((Bool.not_eq_false _).mp hchange)
      have hunanswered : u.systemTypeAnswered = false := by
        have htakes' := htakes
        simp only [Stack.takesSystemType, Bool.and_eq_true, beq_iff_eq] at htakes'
        obtain ⟨⟨⟨⟨hdriver, hthree⟩, -⟩, -⟩, hready⟩ := htakes'
        have hinv : StackInv u :=
          (changeInvs_run hsize hu).2.resolve_left (by rw [hdriver]; decide)
        apply Bool.eq_false_of_not_eq_true
        rw [hinv.systemTypeAnswered_iff hdriver hthree hready]
        rintro ⟨hok, hfits⟩
        rcases hunfit with hfailed | hunfit
        · exact Bool.false_ne_true (hok.symm.trans hfailed)
        · exact hunfit hfits
      have hnote : changeNote u (.meterTick env) u' founded = false := by
        rw [changeNote, if_pos htakes, hunanswered]
        rfl
      have hnext : run (observed stackStep changeNote)
          (stackInit (F := F) bufferSize txFifoSize start, false)
          (before ++ [.meterTick env]) = some (u', false) := by
        refine run_append_eq_some.mpr ⟨(u, founded), hobserved, ?_⟩
        rw [run_singleton]
        exact observed_eq_some.mpr ⟨htick, hnote.symm⟩
      have hfalse := hfounded (before ++ [.meterTick env]) rest u' false
        (by rw [hsplit, List.append_assoc]; rfl) hnext env' u'' htick' hwrites
      cases hfalse
    | receive _ _ | rxIrq _ | txIrq | txShift | rs485Tick _ _ => trivial
  · rintro hmeets before rest u founded rfl hu env u' htick hwrites
    have hmeets' : Meets (observed stackStep changeNote)
        (fun (p : Stack F × Bool) e => e.NoStaleChange p.1)
        (stackInit bufferSize txFifoSize start, false) (before ++ rest) := meets_observed.mpr hmeets
    -- the invariant and the note go through the run together
    have hinv : HandOverInv u ∧ (u.meter.type.driver = some .iskra ∨ StackInv u) ∧
        ChangeInv u founded := by
      refine run_induct_meets (P := fun p : Stack F × Bool => HandOverInv p.1 ∧
        (p.1.meter.type.driver = some .iskra ∨ StackInv p.1) ∧ ChangeInv p.1 p.2)
        ?_ ?_ (hmeets'.append hu).1 hu
      · rintro p e p' ⟨hhand, hstack, hchange⟩ hstale hstep
        obtain ⟨hnext, hnote⟩ := observed_eq_some.mp hstep
        rw [hnote]
        exact ⟨(hhand.step hnext).1, stackInv_or_iskra hhand hstack hnext,
          hchange.step hhand hstack hstale hnext⟩
      · exact ⟨handOverInv_init bufferSize txFifoSize start,
          Or.inr (stackInv_init txFifoSize start hsize), .of_rest rfl rfl⟩
    exact founded_of_writes hinv.2.2 htick hwrites

/-! ### A meter that is not read -/

/-- A request, its answer, and the tick that takes it. -/
def answeredRequest (now request : ℕ) (answer : List UInt8) : List StackEvent :=
  [.meterTick (idleEnv now), .rs485Tick (now + 1) noInterrupts] ++ shiftedOut ++
    answer.map (fun value => .receive value (some request)) ++
    [.rs485Tick (now + 2) noInterrupts, .rs485Tick (now + 7) noInterrupts,
      .rs485Tick (now + 7) noInterrupts, .meterTick (idleEnv (now + 8))]

/-- The second manufacturer answers with the meter code of the SDM72V2. -/
def sdm72v2FoundRun : List StackEvent :=
  unansweredRequest 1 ++ answeredRequest 2000 2 [1, 3, 2, 0, 0x89, 121, 226]

/-- Every register is 230.0; the scan for the fast ones starts with the first register of
the table, and then come the others. -/
def sdm72v2ScanRun : List StackEvent :=
  sdm72v2FoundRun ++
    ((List.range 5).flatMap fun k =>
      answeredRequest (2510 + 10 * k) (3 + k) [1, 4, 4, 67, 102, 0, 0, 14, 31]) ++
    (List.range 31).flatMap fun k =>
      answeredRequest (2560 + 10 * k) (8 + k) [1, 4, 4, 67, 102, 0, 0, 14, 31] ++
        [.meterTick (idleEnv (2569 + 10 * k))]

/-- The first system-type read is not answered. -/
def systemTypeTimedOutRun : List StackEvent :=
  sdm72v2ScanRun ++ [.rs485Tick 2870 noInterrupts] ++ shiftedOut ++
    [.rs485Tick 3869 noInterrupts, .meterTick (idleEnv 3870)]

/-- The meter is configured for one phase, all three are connected, and it says so. -/
def systemTypeAnsweredRun : List StackEvent :=
  sdm72v2ScanRun ++ [.rs485Tick 2870 noInterrupts] ++ shiftedOut ++
    [1, 3, 4, 63, 128, 0, 0, 247, 207].map (fun value => .receive value (some 39)) ++
    [.rs485Tick 2880 noInterrupts, .rs485Tick 2885 noInterrupts, .rs485Tick 2885 noInterrupts,
      .meterTick (idleEnv 2886)]

/-- The tick at `now` writes the password. -/
def WritesPassword (now : ℕ) (s : Stack ExactFloat) : Prop :=
  s.meter.type.driver = some .eastron ∧
    ∃ s' ∈ meterTick (idleEnv now) s, s'.requested = s.meter.passwordRequest :: s.requested

instance (now : ℕ) (s : Stack ExactFloat) : Decidable (WritesPassword now s) :=
  inferInstanceAs (Decidable (_ ∧ _))

theorem WritesPassword.exists_tick {now : ℕ} {s : Stack ExactFloat} (h : WritesPassword now s) :
    ∃ s', meterTick (idleEnv now) s = some s' ∧ WritesConfiguration s s' := by
  obtain ⟨hdriver, s', htick, hrequested⟩ := h
  exact ⟨s', htick, hdriver, _, hrequested, Or.inl rfl⟩

/-- Behind the answer the password is written, and with reason. -/
theorem writes_founded_answered : ∃ (u u' : Stack ExactFloat) (founded : Bool),
    run (observed stackStep changeNote) (stackInit 64 64 0, false) systemTypeAnsweredRun =
      some (u, founded) ∧
    meterTick (idleEnv 2887) u = some u' ∧ WritesConfiguration u u' ∧ founded = true := by
  have hrun : run stackStep (stackInit (F := ExactFloat) 64 64 0) systemTypeAnsweredRun = some _ :=
    run_eq_after (by decide +kernel)
  have hall := (writes_founded (by decide) hrun).mpr (by decide +kernel)
  have hany : ((run (observed stackStep changeNote) (stackInit (F := ExactFloat) 64 64 0, false)
      systemTypeAnsweredRun).any fun p => decide (WritesPassword 2887 p.1)) = true := by
    decide +kernel
  obtain ⟨⟨u, founded⟩, hrun, hwrites⟩ := (Option.any_eq_true _ _).mp hany
  obtain ⟨u', htick, hwrites⟩ := (of_decide_eq_true hwrites).exists_tick
  exact ⟨u, u', founded, hrun, htick, hwrites,
    hall systemTypeAnsweredRun [] u founded (List.append_nil _).symm hrun _ u' htick hwrites⟩

/-- A meter that has never said how it is configured is configured anew. -/
theorem writes_unfounded : ∃ u u' : Stack ExactFloat,
    run (observed stackStep changeNote) (stackInit 64 64 0, false) systemTypeTimedOutRun =
      some (u, false) ∧
    meterTick (idleEnv 4370) u = some u' ∧ WritesConfiguration u u' := by
  have hany : ((run (observed stackStep changeNote) (stackInit (F := ExactFloat) 64 64 0, false)
      systemTypeTimedOutRun).any fun p =>
        decide (p.2 = false ∧ WritesPassword 4370 p.1)) = true := by decide +kernel
  obtain ⟨⟨u, founded⟩, hrun, hwrites⟩ := (Option.any_eq_true _ _).mp hany
  obtain ⟨hfounded, hwrites⟩ := of_decide_eq_true hwrites
  obtain rfl : founded = false := hfounded
  obtain ⟨u', htick, hwrites⟩ := hwrites.exists_tick
  exact ⟨u, u', hrun, htick, hwrites⟩

end Bricklib2
