/-
Bricklib2/Warp/MeterWatchdog.lean

The endless loop of `meter_tick`, which is entered when `meter.state` has been the
same for 60 seconds.  The fast cycle of the Iskra driver runs in state 0 and goes
first: when its two responses take 100 ms it is due again at once, and the slow cycle
never gets its turn.

Main result: `watchdog_quiet`, in every run in which the slow cycle has its turn at
least every 55 seconds no state lasts for 60 and the loop is not entered.
-/
import Bricklib2.Warp.MeterSourceRuns
import Bricklib2.Warp.StateClock

namespace Bricklib2

open Machine

variable {F : Type} {s s' : Stack F} {c c' : StateClock} {env : TickEnv} {now start : ℕ}

/-! ### The invariant -/

/-- The driver has made its last move at `start`. -/
structure Phase (s : Stack F) (c : StateClock) (start : ℕ) : Prop where
  since_le : c.since ≤ start
  le_last : start ≤ c.last
  age : start ≤ c.since + s.stateAge
  asked : s.waits = true → s.meter.errorWaitTime = 0 ∧
    s.rs485.timeRefMasterRequestTimeout = systemTimerGetMs start
  errorWait : s.meter.errorWaitTime = 0 ∨ c.last = start ∨
    ∃ n, start ≤ n ∧ n ≤ start + tickGapMs ∧ n ≤ c.last ∧
      waiting n s.meter.errorWaitTime 500 = true
  soon : c.last ≤ start + answerMs

/-- The clock and the times that the code has noted. -/
structure ClockInv (s : Stack F) (c : StateClock) : Prop where
  stack : StackInv s
  phase : s.meter.type.driver ≠ none → ∃ start, Phase s c start
  noticed : s.meter.type.driver ≠ none → s.statics.lastState = s.meter.state →
    ∃ t, s.meter.timeout = systemTimerGetMs t ∧ c.since ≤ t ∧ t ≤ c.last
  firstTick : s.meter.type.driver ≠ none → s.meter.firstTick = 0
  storing : s.meter.type.driver = some .eltako → s.meter.state = 2 →
    s.statics.eltakoDataI ≤ 38 ∧ s.statics.eltakoTimeSinceRead = systemTimerGetMs c.since
  calculating : s.meter.type.driver = some .eltako → s.meter.state = 3 →
    ∃ t, s.statics.eltakoTimeSinceRead = systemTimerGetMs t ∧ t ≤ c.since ∧ c.since ≤ t + 60000
  phases : s.meter.type.driver = some .eastron → s.meter.state = 7 →
    s.meter.connectedSystemType ≠ none

/-- A move at the last tick. -/
theorem Phase.fresh (hlast : c.last = now) (hsince : c.since ≤ now)
    (hage : now ≤ c.since + s.stateAge) (hasked : s.waits = true → s.meter.errorWaitTime = 0 ∧
      s.rs485.timeRefMasterRequestTimeout = systemTimerGetMs now) : Phase s c now where
  since_le := hsince
  le_last := hlast.ge
  age := hage
  asked := hasked
  errorWait := Or.inr (Or.inl hlast)
  soon := hlast.trans_le (Nat.le_add_right now answerMs)

/-- The moves of a state add up to less than a minute. -/
theorem ClockInv.stateAge_le (h : ClockInv s c) : s.stateAge ≤ fastCyclesMs + moveMs * 3 := by
  cases hdriver : s.meter.type.driver with
  | none => simp only [Stack.stateAge, hdriver, Nat.zero_le]
  | some driver =>
    cases driver with
    | eastron => simp only [Stack.stateAge, hdriver, Nat.zero_le]
    | generic => simp only [Stack.stateAge, hdriver, Nat.zero_le]
    | eltako =>
      rw [Stack.stateAge, hdriver]
      simp only
      split_ifs with htwo
      · have hposition := (h.storing hdriver htwo).1
        calc moveMs * s.statics.eltakoDataI ≤ moveMs * 38 := Nat.mul_le_mul_left moveMs hposition
          _ ≤ fastCyclesMs + moveMs * 3 := by decide
      · exact Nat.zero_le _
    | iskra =>
      rw [Stack.stateAge, hdriver]
      simp only
      split_ifs with hstate hactive
      · exact Nat.zero_le _
      · have hfast : s.iskra.fastState - 1 ≤ 3 := by
          rcases h.stack.iskra hdriver with ⟨hrest, -⟩ | ⟨-, -, hfast⟩
          · rw [hrest] at hactive
            cases hactive
          · omega
        exact Nat.add_le_add_left (Nat.mul_le_mul_left moveMs hfast) fastCyclesMs
      · exact le_rfl

/-- At the next tick the state is younger than a minute. -/
theorem ClockInv.young (h : ClockInv s c) (hdriver : s.meter.type.driver ≠ none)
    (hnow : now ≤ c.last + tickGapMs) : now < c.since + 60000 := by
  obtain ⟨start, hphase⟩ := h.phase hdriver
  have hage := h.stateAge_le
  have hmoves : fastCyclesMs + moveMs * 3 + moveMs < 60000 := by decide
  calc now ≤ c.last + tickGapMs := hnow
    _ ≤ start + answerMs + tickGapMs := Nat.add_le_add_right hphase.soon tickGapMs
    _ = start + moveMs := Nat.add_assoc start answerMs tickGapMs
    _ ≤ c.since + s.stateAge + moveMs := Nat.add_le_add_right hphase.age moveMs
    _ < c.since + 60000 := by omega

/-- So the endless loop is not entered there. -/
theorem ClockInv.noLoop (h : ClockInv s c) (hdriver : s.meter.type.driver ≠ none)
    (hlast : c.last ≤ now) (hnow : now ≤ c.last + tickGapMs) : watchdogLoop now s = false := by
  have hyoung := h.young hdriver hnow
  rw [watchdogLoop, Bool.and_eq_false_iff, beq_eq_false_iff_ne]
  by_cases hsame : s.statics.lastState = s.meter.state
  · obtain ⟨t, htimeout, hsince, hle⟩ := h.noticed hdriver hsame
    refine Or.inr (Bool.eq_false_of_not_eq_true fun helapsed => ?_)
    rw [htimeout, systemTimerIsTimeElapsedMs_iff (by omega) (by omega)] at helapsed
    omega
  · exact Or.inl hsame

/-! ### One tick of a driver -/

/-- A request that has been answered is ready for the driver. -/
theorem StackInv.ready {q : MeterRequest} (h : StackInv s) (hout : s.outstanding = some q)
    (hanswered : s.rs485.requestCbInvoke = true) :
    meterIsResponseReady q.fc s.rs485 = true := by
  obtain ⟨hstate, hhead⟩ := h.bus.waiting q hout
  obtain ⟨p, older, hawaits⟩ := h.bus.master.awaits hstate
  rw [hawaits.requests] at hhead
  obtain rfl : p.request = q := Option.some.inj hhead
  rw [meterIsResponseReady, h.bus.master.mode, hstate, hawaits.txFrame.2, hanswered]
  simp only [beq_self_eq_true, Bool.and_self]

/-- The system type is written for phases that stay as they are. -/
theorem eastronMove_phases (hphases : s.meter.state = 7 → s.meter.connectedSystemType ≠ none)
    (h : EastronMove now s s') (hseven : s'.meter.state = 7) :
    s'.meter.connectedSystemType ≠ none := by
  cases h with
  | wait fc hfc hstate hready => exact hphases hseven
  | restart phases hstate => cases hseven
  | take fc phases isNew read hstate hready htaken =>
    have hsucc : s.meter.state + 1 = 7 := hseven
    omega
  | readSystemType hstate => cases hseven
  | writePassword hstate => cases hseven
  | writeSystemType systemType hstate hphases' =>
    show s.meter.connectedSystemType ≠ none
    rw [hphases']
    exact Option.some_ne_none systemType

/-- A tick of any driver, with what the Eltako and the Eastron driver keep. -/
theorem driverTick_moves [CFloat F] (h : StackInv s) (hidle : env.ExternalIdle)
    (hphases : s.meter.type.driver = some .eastron → s.meter.state = 7 →
      s.meter.connectedSystemType ≠ none) (hdriver : s.meter.type.driver ≠ none)
    (htick : meterDriverTick env s = some s') :
    TimesKept s s' ∧ DriverMove env.now s s' ∧
      (s.meter.type.driver = some .eltako → EltakoKept env.now s s') ∧
      (s.meter.type.driver = some .eastron → s'.meter.state = 7 →
        s'.meter.connectedSystemType ≠ none) := by
  have hother {driver driver' : MeterDriver} {p : Prop} (hd : s.meter.type.driver = some driver)
      (hne : driver ≠ driver') (hd' : s.meter.type.driver = some driver') : p :=
    absurd (Option.some.inj (hd.symm.trans hd')) hne
  unfold meterDriverTick at htick
  split at htick
  · rename_i hd
    obtain ⟨hkept, hmove⟩ := eastronTick_moves hd (hphases hd) htick
    refine ⟨hkept, hmove, hother hd (by decide), fun _ hseven => ?_⟩
    -- state 7 is entered with a system type to write
    rcases meterEastronTick_cases htick with ⟨hstate, rfl⟩ | ⟨hstate, hread⟩ | hmove
    · have hone : s.meter.state + 1 = 7 := hseven
      omega
    · rcases (scanRead_moves hstate hread).2 with ⟨rfl, -⟩ | hstate'
      · exact hphases hd hseven
      · omega
    · exact eastronMove_phases (hphases hd) hmove hseven
  · rename_i hd
    obtain ⟨hkept, hmove⟩ := genericTick_moves hd htick
    exact ⟨hkept, hmove, hother hd (by decide), hother hd (by decide)⟩
  · rename_i hd
    obtain ⟨hkept, hmove⟩ := iskraTick_moves hd (h.slaveAddress hd) (h.iskra hd) hidle htick
    exact ⟨hkept, hmove, hother hd (by decide), hother hd (by decide)⟩
  · rename_i hd
    have hne : s.meter.type.driver ≠ none := by
      rw [hd]
      exact Option.some_ne_none _
    obtain ⟨hkept, hmove, hread⟩ := eltakoTick_moves hd (h.typed hne).2 htick
    exact ⟨hkept, hmove, fun _ => hread, hother hd (by decide)⟩
  · rename_i hd
    exact absurd hd hdriver

/-- What the driver is given: the times are those of `meter_tick`. -/
theorem checked_eq (hcheck : meterCheckState now s.started = some s') :
    ∃ timeout, s' = { s with
        meter.errorWaitTime := 0
        meter.firstTick := 0
        meter.timeout := timeout
        statics.lastState := s.meter.state } ∧
      (s.statics.lastState = s.meter.state ∧ timeout = s.meter.timeout ∨
        timeout = systemTimerGetMs now) := by
  rcases (meterCheckState_some hcheck).2 with ⟨hsame, rfl⟩ | ⟨-, rfl⟩
  · have hlast : s.statics.lastState = s.meter.state := hsame
    refine ⟨s.meter.timeout, ?_, Or.inl ⟨hlast, rfl⟩⟩
    rw [← hlast]
    rfl
  · exact ⟨systemTimerGetMs now, rfl, Or.inr rfl⟩

/-- A move of the driver: how old the state is by then. -/
theorem DriverMove.phase {u : Stack F} (h : DriverMove now u s') (hstack : StackInv u)
    (herror : u.meter.errorWaitTime = 0) (hphase : Phase u c start) (hlast : c.last ≤ now)
    (hnow : now ≤ c.last + tickGapMs)
    (hread : u.meter.type.driver = some .eltako → u.meter.state = 3 →
      ∃ t, u.statics.eltakoTimeSinceRead = systemTimerGetMs t ∧ t ≤ c.since ∧ c.since ≤ t + 60000)
    (hanswered : u.outstanding.isSome = true →
      systemTimerIsTimeElapsedMs now u.rs485.timeRefMasterRequestTimeout answerMs = true →
      u.rs485.requestCbInvoke = true)
    (hserved : u.startsFast now = true → now < c.since + fastCyclesMs)
    (htype : s'.meter.type = u.meter.type) :
    ∃ start, Phase s' (if s'.meter.state ≠ u.meter.state then ⟨now, now⟩ else ⟨now, c.since⟩)
      start := by
  have hstart := hphase.le_last.trans hlast
  have hsince := hphase.since_le
  have hgap : now ≤ start + moveMs := hnow.trans (Nat.add_le_add_right hphase.soon tickGapMs)
  have hlong : moveMs < 2 ^ 32 := by decide
  have hasked (hasks : JustAsked now u s') : s'.waits = true → s'.meter.errorWaitTime = 0 ∧
      s'.rs485.timeRefMasterRequestTimeout = systemTimerGetMs now := by
    intro hwaits
    obtain ⟨hsame, hissued⟩ := hasks hwaits
    exact ⟨hsame.trans herror, hissued⟩
  cases h with
  | wait q hsame hwaits hout hready =>
    subst hsame
    rw [if_neg (not_not.mpr rfl)]
    have hasked := hphase.asked hwaits
    refine ⟨start, hsince, hstart, hphase.age, fun _ => hasked, Or.inl herror, ?_⟩
    -- an answer or the time-out would have been there by now
    by_contra hlate
    have hover : s'.rs485.requestCbInvoke = true := by
      apply hanswered
      · rw [hout]
        rfl
      · rw [hasked.2, systemTimerIsTimeElapsedMs_iff hstart (by omega)]
        show answerMs ≤ now - start
        have hlate' : ¬ now ≤ start + answerMs := hlate
        omega
    rw [hstack.ready hout hover] at hready
    cases hready
  | rest hdriver hstate hstate' htime herror' =>
    rw [if_neg (not_not.mpr (hstate'.trans hstate.symm))]
    obtain ⟨t, hstamp, ht, hsince'⟩ := hread hdriver hstate
    have hage : u.stateAge = 0 := by
      rw [Stack.stateAge, hdriver]
      exact if_neg (by omega)
    have hnear := hphase.age
    rw [hage, Nat.add_zero] at hnear
    -- the Eltako driver rests for 100 ms at most
    have hnow' : now < t + 100 := by
      rw [hstamp] at htime
      by_contra hlate
      have hmoves : moveMs = 1200 := rfl
      have helapsed : systemTimerIsTimeElapsedMs now (systemTimerGetMs t) 100 = true :=
        (systemTimerIsTimeElapsedMs_iff (by omega) (by omega)).mpr (by omega)
      rw [helapsed] at htime
      cases htime
    refine ⟨start, hsince, hstart, ?_, ?_, Or.inl (herror'.trans herror), ?_⟩
    · exact hnear.trans (Nat.le_add_right _ _)
    · intro hwaits
      rw [Stack.waits, htype, hdriver, hstate'] at hwaits
      cases hwaits
    · have hlimit : 100 ≤ answerMs := by decide
      show now ≤ start + answerMs
      omega
  | change hstate hasks =>
    rw [if_pos hstate]
    exact ⟨now, .fresh rfl le_rfl (Nat.le_add_right _ _) (hasked hasks)⟩
  | advance hstate hasks hage =>
    -- the age of the state grows by no more than a move may last
    rw [if_neg (not_not.mpr hstate)]
    refine ⟨now, .fresh rfl (hsince.trans hstart) ?_ (hasked hasks)⟩
    rw [hage]
    have hnear := hphase.age
    show now ≤ c.since + (u.stateAge + moveMs)
    omega
  | startFast hstate hasks hstarts hage =>
    rw [if_neg (not_not.mpr hstate)]
    refine ⟨now, .fresh rfl (hsince.trans hstart) ?_ (hasked hasks)⟩
    rw [hage]
    exact (hserved hstarts).le

theorem ClockInv.drive [CFloat F] {u : Stack F} (h : ClockInv s c)
    (hdriver : s.meter.type.driver ≠ none) (hserved : StackEvent.SlowServed (s, c) (.meterTick env))
    (hpunctual : StackEvent.Punctual tickGapMs answerMs (s, c) (.meterTick env))
    (herror : waiting env.now s.meter.errorWaitTime 500 = false) (hstack : StackInv s')
    (hcheck : meterCheckState env.now s.started = some u)
    (hdrive : meterDriverTick env u = some s') :
    ClockInv s' (StateClock.note s (.meterTick env) s' c) := by
  obtain ⟨hidle, hpunctual⟩ := hpunctual
  obtain ⟨hlast, hnow, hanswered⟩ := hpunctual hdriver
  obtain ⟨start, hphase⟩ := h.phase hdriver
  obtain ⟨timeout, hu, htimeout⟩ := checked_eq hcheck
  have hyoung := h.young hdriver hnow
  have hsince : c.since ≤ env.now := (hphase.since_le.trans hphase.le_last).trans hlast
  -- `meter_check_state` notes the time when it sees a new state
  have hnoticed : ∃ t, timeout = systemTimerGetMs t ∧ c.since ≤ t ∧ t ≤ env.now := by
    rcases htimeout with ⟨hsame, rfl⟩ | rfl
    · obtain ⟨t, ht, hle, hle'⟩ := h.noticed hdriver hsame
      exact ⟨t, ht, hle, hle'.trans hlast⟩
    · exact ⟨env.now, rfl, hsince, le_rfl⟩
  have hstack' : StackInv u := hu ▸ h.stack.times 0 0 timeout s.meter.state
  have hphase' : Phase u c start := by
    subst hu
    exact ⟨hphase.since_le, hphase.le_last, hphase.age, fun hw => ⟨rfl, (hphase.asked hw).2⟩,
      Or.inl rfl, hphase.soon⟩
  have htype : u.meter.type = s.meter.type := by rw [hu]
  have hstate : u.meter.state = s.meter.state := by rw [hu]
  have hout : u.outstanding = s.outstanding := by rw [hu]; rfl
  have hbus : u.rs485 = s.rs485 := by rw [hu]
  have hread : u.statics.eltakoTimeSinceRead = s.statics.eltakoTimeSinceRead := by rw [hu]
  have hstarts : u.startsFast env.now = s.startsFast env.now := by rw [hu]; rfl
  have hphases : u.meter.connectedSystemType = s.meter.connectedSystemType := by rw [hu]; rfl
  obtain ⟨hkept, hmove, heltako, heastron⟩ := driverTick_moves hstack' hidle
    (fun hd hs => by rw [hphases]; exact h.phases (htype ▸ hd) (hstate ▸ hs))
    (htype ▸ hdriver) hdrive
  -- the clock of the state starts again exactly when the driver changes it
  have hclock : StateClock.note s (.meterTick env) s' c =
      if s'.meter.state ≠ u.meter.state then ⟨env.now, env.now⟩ else ⟨env.now, c.since⟩ := by
    rw [hstate]
    exact if_congr (or_iff_right hdriver) rfl rfl
  have htype' := hkept.type.trans htype
  rw [hclock]
  constructor
  · exact hstack
  · intro _
    apply hmove.phase hstack' (by rw [hu]) hphase' hlast hnow _ _ _ hkept.type
    · rw [htype, hstate, hread]
      exact h.calculating
    · rw [hout, hbus]
      exact hanswered
    · rw [hstarts]
      exact hserved herror
  · intro _ hsame
    have hlast' : s'.statics.lastState = u.meter.state := by rw [hkept.lastState, hu]
    rw [if_neg (not_not.mpr (hsame.symm.trans hlast')), hkept.timeout, hu]
    exact hnoticed
  · intro _
    rw [hkept.firstTick, hu]
  · intro hd htwo
    obtain ⟨hposition, hstamp⟩ := (heltako (hkept.type ▸ hd)).storing htwo
    refine ⟨hposition, ?_⟩
    rcases hstamp with ⟨hne, hstamp⟩ | ⟨hsame, hstamp⟩
    · rw [if_pos (by omega)]
      exact hstamp
    · rw [if_neg (by omega), hstamp, hread]
      exact (h.storing (htype' ▸ hd) (hstate ▸ hsame)).2
  · intro hd hthree
    obtain ⟨hfrom, hstamp⟩ := (heltako (hkept.type ▸ hd)).calculating hthree
    rcases hfrom with htwo | hsame
    · refine ⟨c.since, ?_, ?_⟩
      · rw [hstamp, hread]
        exact (h.storing (htype' ▸ hd) (hstate ▸ htwo)).2
      · rw [if_pos (by omega)]
        exact ⟨hsince, hyoung.le⟩
    · rw [if_neg (by omega), hstamp, hread]
      exact h.calculating (htype' ▸ hd) (hstate ▸ hsame)
  · intro hd hseven
    exact heastron (hkept.type ▸ hd) hseven

/-! ### Steps -/

/-- A meter without a driver. -/
theorem ClockInv.of_none (hstack : StackInv s) (h : s.meter.type.driver = none) :
    ClockInv s c where
  stack := hstack
  phase hd := absurd h hd
  noticed hd := absurd h hd
  firstTick hd := absurd h hd
  storing hd := by
    rw [h] at hd
    cases hd
  calculating hd := by
    rw [h] at hd
    cases hd
  phases hd := by
    rw [h] at hd
    cases hd

theorem ClockInv.errorWait (h : ClockInv s c) (hdriver : s.meter.type.driver ≠ none)
    (hlast : c.last ≤ env.now) (hnow : env.now ≤ c.last + tickGapMs)
    (hwait : waiting env.now s.meter.errorWaitTime 500 = true) :
    ClockInv s ⟨env.now, c.since⟩ := by
  obtain ⟨start, hphase⟩ := h.phase hdriver
  have hstart := hphase.le_last.trans hlast
  have hwaited : ∃ n, start ≤ n ∧ n ≤ start + tickGapMs ∧ n ≤ env.now ∧
      waiting n s.meter.errorWaitTime 500 = true := by
    rcases hphase.errorWait with hnever | hfresh | ⟨n, hn, hgap, hle, hn'⟩
    · rw [hnever] at hwait
      cases hwait
    · exact ⟨env.now, hstart, hfresh ▸ hnow, le_rfl, hwait⟩
    · exact ⟨n, hn, hgap, hle.trans hlast, hn'⟩
  refine ⟨h.stack, fun _ => ⟨start, hphase.since_le, hstart, hphase.age, hphase.asked,
    Or.inr (Or.inr hwaited), ?_⟩, fun hd hsame => ?_, h.firstTick, h.storing, h.calculating,
    h.phases⟩
  · obtain ⟨n, hn, hgap, hle, hn'⟩ := hwaited
    have hsoon := hphase.soon
    have hmoves : answerMs + tickGapMs < 2 ^ 31 ∧ tickGapMs + 500 ≤ answerMs := by decide
    have hshort := waiting_short hn' hwait hle (by omega) (by decide)
    show env.now ≤ start + answerMs
    omega
  · obtain ⟨t, htimeout, hsince, hle⟩ := h.noticed hd hsame
    exact ⟨t, htimeout, hsince, hle.trans hlast⟩

theorem waits_rest (hstate : s.meter.state = 0) (hactive : s.iskra.fastActive = false) :
    s.waits = false := by
  have hslow : iskraOutstanding s = none :=
    (iskraOutstanding_slow hactive).trans (iskraSlowOutstanding_none (by omega))
  cases hdriver : s.meter.type.driver with
  | none => simp only [Stack.waits, hdriver]
  | some driver => cases driver <;> simp only [Stack.waits, hdriver, hstate, hslow] <;> rfl

/-- The clock starts anew when a meter is found. -/
theorem ClockInv.find (h : ClockInv s c) (hstack : StackInv s')
    (htype : s.meter.type = .unknown) (hmove : FindMove now s.started s') :
    ClockInv s' ⟨now, now⟩ := by
  have hunknown {t : Stack F} (ht : t.meter.type = s.meter.type) : t.meter.type.driver = none :=
    unknown_driver (ht.trans htype)
  obtain ⟨-, hstate, hactive, -⟩ := h.stack.finding htype
  cases hmove with
  | again horder => exact .of_none hstack (hunknown rfl)
  | wait horder hfind | next horder hfind =>
    exact .of_none hstack (hunknown hfind.kept.1)
  | @found driver type t horder hfind hdetection hknown =>
    obtain ⟨size, definitionSize, hset⟩ :=
      meterSetMeterType_eq now type (meterResetErrorCounter t)
    obtain ⟨errorWaitTime, available, hmeter⟩ := hfind.meter
    rw [hset] at hstack ⊢
    have hstate' : t.meter.state = 0 := by
      rw [hmeter]
      exact hstate
    -- the driver that was found is in state 0, and none of its counters runs
    refine ⟨hstack, fun _ => ⟨now, .fresh rfl le_rfl (Nat.le_add_right _ _) ?_⟩,
      fun _ _ => ⟨now, rfl, le_rfl, le_rfl⟩, ?_, fun _ htwo => ?_, fun _ hthree => ?_,
      fun _ hseven => ?_⟩
    · intro hwaits
      refine absurd hwaits (Bool.eq_false_iff.mp (waits_rest ?_ ?_))
      · exact hstate'
      · exact (congrArg MeterIskra.fastActive hfind.iskra).trans hactive
    · intro _
      show t.meter.firstTick = 0
      rw [hmeter]
      rfl
    · have htwo' : t.meter.state = 2 := htwo
      omega
    · have hthree' : t.meter.state = 3 := hthree
      omega
    · have hseven' : t.meter.state = 7 := hseven
      omega

theorem ClockInv.meterTick [CFloat F] (h : ClockInv s c)
    (hpunctual : StackEvent.Punctual tickGapMs answerMs (s, c) (.meterTick env))
    (hserved : StackEvent.SlowServed (s, c) (.meterTick env)) (htick : meterTick env s = some s') :
    ClockInv s' (StateClock.note s (.meterTick env) s' c) := by
  have hstack := h.stack.meterTick (fun _ => hpunctual.1) htick
  have hnone (hd : s.meter.type.driver = none) {t : Stack F} :
      StateClock.note s (.meterTick env) t c = ⟨env.now, env.now⟩ := if_pos (Or.inl hd)
  have hsame (hd : s.meter.type.driver ≠ none) :
      StateClock.note s (.meterTick env) s c = ⟨env.now, c.since⟩ :=
    if_neg (not_or.mpr ⟨hd, not_not.mpr rfl⟩)
  cases meterTick_cases htick with
  | unsupported htype => exact .of_none hstack (by rw [htype]; rfl)
  | errorWait hwait =>
    by_cases hd : s.meter.type.driver = none
    · exact .of_none hstack hd
    · obtain ⟨hlast, hnow, -⟩ := hpunctual.2 hd
      rw [hsame hd]
      exact h.errorWait hd hlast hnow hwait
  | firstWait herror hwait =>
    -- behind the first tick of a driver this wait is over
    by_cases hd : s.meter.type.driver = none
    · exact .of_none hstack hd
    · rw [h.firstTick hd] at hwait
      cases hwait
  | find htype =>
    rw [hnone (unknown_driver htype)]
    exact h.find hstack htype (meterFindMeterType_cases env s.started)
  | drive htype herror hfirst hcheck hdrive =>
    by_cases hd : s.meter.type.driver = none
    · have hsame' : s'.meter.type = s.meter.type := by
        obtain ⟨timeout, rfl, -⟩ := checked_eq hcheck
        simp only [meterDriverTick, hd] at hdrive
        rw [← Option.some.inj hdrive]
      exact .of_none hstack (hsame' ▸ hd)
    · exact h.drive hd hserved hpunctual herror hstack hcheck hdrive

/-- The UART, its interrupts and `rs485_tick`. -/
theorem ClockInv.rs485 {r : RS485} (h : ClockInv s c) (hstack : StackInv { s with rs485 := r })
    (hr : r.timeRefMasterRequestTimeout = s.rs485.timeRefMasterRequestTimeout) :
    ClockInv { s with rs485 := r } c where
  stack := hstack
  phase hd := by
    obtain ⟨start, hphase⟩ := h.phase hd
    refine ⟨start, hphase.since_le, hphase.le_last, hphase.age, fun hwaits => ?_,
      hphase.errorWait, hphase.soon⟩
    show _ ∧ r.timeRefMasterRequestTimeout = _
    rw [hr]
    exact hphase.asked hwaits
  noticed := h.noticed
  firstTick := h.firstTick
  storing := h.storing
  calculating := h.calculating
  phases := h.phases

theorem ClockInv.step [CFloat F] {e : StackEvent} (h : ClockInv s c)
    (hpunctual : e.Punctual tickGapMs answerMs (s, c)) (hserved : e.SlowServed (s, c))
    (hstep : stackStep s e = some s') : ClockInv s' (StateClock.note s e s' c) := by
  have hidle : e.ExternalIdle := by
    cases e with
    | meterTick env => exact hpunctual.1
    | _ => exact trivial
  have hstack := h.stack.step (fun _ => hidle) hstep
  cases e with
  | receive value answers =>
    obtain rfl := Option.some.inj hstep
    exact h.rs485 hstack rfl
  | rxIrq now =>
    obtain rfl := Option.some.inj hstep
    apply h.rs485 hstack
    obtain ⟨ring, overrun, hloop⟩ := rxLoop_eq s.rs485
    rw [rs485RxIrqHandler, hloop]
  | txIrq =>
    simp only [stackStep] at hstep
    split_ifs at hstep
    obtain rfl := Option.some.inj hstep
    exact h.rs485 hstack (txLoop_timeRef _ _)
  | txShift =>
    obtain rfl := Option.some.inj hstep
    exact h.rs485 hstack rfl
  | rs485Tick now irq =>
    obtain rfl := Option.some.inj hstep
    exact h.rs485 hstack (rs485Tick_timeRef _ _ _)
  | meterTick env => exact h.meterTick hpunctual hserved hstep

/-! ### Main result -/

/-- In a run whose ticks come in time and whose requests are answered in time, and in
which no fast cycle is started when the slow one has not had its turn for 55 seconds,
no state of a driver lasts for 60 seconds and no tick enters the endless loop. -/
theorem watchdog_quiet [CFloat F] {bufferSize txFifoSize now : ℕ} {events : List StackEvent}
    {t : Stack F} {c : StateClock} (hsize : 13 < bufferSize - bufferSize / 2)
    (hpunctual : Meets clockedStep
      (fun (p : Stack F × StateClock) e => e.Punctual tickGapMs answerMs p)
      (stackInit bufferSize txFifoSize now, ⟨now, now⟩) events)
    (hserved : Meets clockedStep (fun (p : Stack F × StateClock) e => e.SlowServed p)
      (stackInit bufferSize txFifoSize now, ⟨now, now⟩) events)
    (hrun : run clockedStep (stackInit bufferSize txFifoSize now, ⟨now, now⟩) events =
      some (t, c)) (hdriver : t.meter.type.driver ≠ none) :
    c.last < c.since + 60000 ∧
      ∀ env, StackEvent.Punctual tickGapMs answerMs (t, c) (.meterTick env) →
        env.now < c.since + 60000 ∧ watchdogLoop env.now t = false := by
  have hinv : ClockInv t c := by
    refine run_induct_meets (P := fun p : Stack F × StateClock => ClockInv p.1 p.2) ?_ ?_
      (hpunctual.and hserved) hrun
    · intro p e p' hinv hc hstep
      obtain ⟨hstep, hnote⟩ := observed_eq_some.mp hstep
      rw [hnote]
      exact hinv.step hc.1 hc.2 hstep
    · exact .of_none (stackInv_init txFifoSize now hsize) rfl
  refine ⟨hinv.young hdriver (Nat.le_add_right c.last tickGapMs), fun env htick => ?_⟩
  obtain ⟨hlast, hnow, -⟩ := htick.2 hdriver
  exact ⟨hinv.young hdriver hnow, hinv.noLoop hdriver hlast hnow⟩

theorem watchdog_quiet_voltage : ∃ (t : Stack ExactFloat) (c : StateClock),
    run clockedStep (stackInit 64 32 0, ⟨0, 0⟩) voltageAnsweredRun = some (t, c) ∧
      t.meter.type = .dem4A ∧ c.last < c.since + 60000 ∧
      ∀ env, StackEvent.Punctual tickGapMs answerMs (t, c) (.meterTick env) →
        env.now < c.since + 60000 ∧ watchdogLoop env.now t = false := by
  have hfound : ((run clockedStep (stackInit (F := ExactFloat) 64 32 0, ⟨0, 0⟩)
      voltageAnsweredRun).any fun p => decide (p.1.meter.type = .dem4A)) = true := by
    decide +kernel
  obtain ⟨⟨t, c⟩, hrun, htype⟩ := (Option.any_eq_true _ _).mp hfound
  have htype : t.meter.type = .dem4A := of_decide_eq_true htype
  refine ⟨t, c, hrun, htype, ?_⟩
  apply watchdog_quiet (by decide) (by decide +kernel) (by decide +kernel) hrun
  rw [htype]
  decide

/-! ### A meter that is unplugged -/

/-- `count` ticks, one every 5 ms, after a last one. -/
def ticksAfter : (count last : ℕ) → List StackEvent
  | 0, _ => []
  | count + 1, last => .meterTick (idleEnv (last + 5)) :: ticksAfter count (last + 5)

/-- From `first` to `last` nothing happens in a tick: it waits behind an error, or the
fast cycle waits for a response that is not there. -/
structure Stack.Quiet (s : Stack F) (first last : ℕ) : Prop where
  timer : last < 2 ^ 32
  driver : s.meter.type.driver = some .iskra
  asked : s.outstanding.isSome = true → s.rs485.timeRefMasterRequestTimeout ≤ first ∧
    last < s.rs485.timeRefMasterRequestTimeout + 1005
  waits : s.meter.errorWaitTime ≠ 0 ∧ s.meter.errorWaitTime ≤ first ∧
      last < s.meter.errorWaitTime + 500 ∨
    s.meter.errorWaitTime = 0 ∧ s.meter.firstTick = 0 ∧ s.statics.lastState = s.meter.state ∧
      s.meter.timeout ≤ first ∧ last < s.meter.timeout + 60000 ∧ s.iskra.fastActive = true ∧
      (s.iskra.fastState = 1 ∨ s.iskra.fastState = 3) ∧ s.rs485.requestCbInvoke = false

theorem quiet_iff {first last : ℕ} : s.Quiet first last ↔ last < 2 ^ 32 ∧
    s.meter.type.driver = some .iskra ∧
    (s.outstanding.isSome = true → s.rs485.timeRefMasterRequestTimeout ≤ first ∧
      last < s.rs485.timeRefMasterRequestTimeout + 1005) ∧
    (s.meter.errorWaitTime ≠ 0 ∧ s.meter.errorWaitTime ≤ first ∧
        last < s.meter.errorWaitTime + 500 ∨
      s.meter.errorWaitTime = 0 ∧ s.meter.firstTick = 0 ∧ s.statics.lastState = s.meter.state ∧
        s.meter.timeout ≤ first ∧ last < s.meter.timeout + 60000 ∧ s.iskra.fastActive = true ∧
        (s.iskra.fastState = 1 ∨ s.iskra.fastState = 3) ∧ s.rs485.requestCbInvoke = false) :=
  ⟨fun h => ⟨h.timer, h.driver, h.asked, h.waits⟩, fun h => ⟨h.1, h.2.1, h.2.2.1, h.2.2.2⟩⟩

instance (s : Stack F) (first last : ℕ) : Decidable (s.Quiet first last) :=
  decidable_of_iff _ quiet_iff.symm

/-- The code's comparison of times below the wrap-around. -/
theorem elapsed_iff {start time : ℕ} (hle : start ≤ now) (hlt : now < 2 ^ 32) :
    systemTimerIsTimeElapsedMs now start time = true ↔ time ≤ now - start := by
  have hstart : start = systemTimerGetMs start := (Nat.mod_eq_of_lt (by omega)).symm
  rw [hstart, systemTimerIsTimeElapsedMs_iff hle (by omega), ← hstart]

theorem meterTick_known [CFloat F] (hsupported : s.meter.type ≠ .unsupported)
    (hknown : s.meter.type ≠ .unknown) (herror : waiting env.now s.meter.errorWaitTime 500 = false)
    (hfirst : waiting env.now s.meter.firstTick 2500 = false) :
    meterTick env s = (meterCheckState env.now s.started).bind (meterDriverTick env) := by
  simp only [meterTick, if_neg hsupported, herror, hfirst, if_neg hknown, Bool.false_eq_true,
    if_false]
  rfl

theorem Stack.Quiet.tick [CFloat F] {first last : ℕ} (h : s.Quiet first last) (hfirst : first ≤ now)
    (hlast : now ≤ last) : meterTick (idleEnv now) s = some s := by
  have htimer := h.timer
  have htyped : s.meter.type ≠ .unsupported ∧ s.meter.type ≠ .unknown := by
    constructor <;> intro htype <;> have hdriver := h.driver <;> rw [htype] at hdriver <;>
      cases hdriver
  rcases h.waits with ⟨hne, hle, hlt⟩ | ⟨herror, hfirstTick, hstate, hle, hlt, hactive, hfast, hcb⟩
  · -- an error is waited for
    have hwait : waiting now s.meter.errorWaitTime 500 = true := by
      rw [waiting, Bool.and_eq_true, bne_iff_ne, Bool.not_eq_true', ← Bool.not_eq_true,
        elapsed_iff (by omega) (by omega)]
      exact ⟨hne, by omega⟩
    rw [meterTick, if_neg htyped.1]
    exact if_pos hwait
  · -- a fast cycle waits for its response, and its state is less than a minute old
    have hyoung : ¬ 60000 ≤ now - s.meter.timeout := by omega
    have hloop : watchdogLoop now s = false := by
      rw [watchdogLoop, Bool.and_eq_false_iff, ← Bool.not_eq_true (systemTimerIsTimeElapsedMs _ _ _),
        elapsed_iff (by omega) (by omega)]
      exact Or.inr hyoung
    have hstarted : s.started = s := by
      have hsame : s.started = { s with
          meter.errorWaitTime := s.meter.errorWaitTime
          meter.firstTick := s.meter.firstTick } := by
        rw [herror, hfirstTick]
        rfl
      exact hsame
    have hcheck : meterCheckState now s = some s := by
      rw [meterCheckState, hloop, if_neg Bool.false_ne_true, if_pos hstate]
    have hready (fc : UInt8) : meterIsResponseReady fc s.rs485 = false := by
      rw [meterIsResponseReady, hcb, Bool.and_false]
    have hfastTick : meterIskraFastTick (idleEnv now) s = some s := by
      rcases hfast with hfast | hfast <;>
        simp only [meterIskraFastTick, hfast, meterGetReadRegistersResponse, hready, if_true]
    have hdue : iskraFastDue (idleEnv now).now s = true := by
      rw [iskraFastDue, hactive, Bool.true_or]
    have hdrive : meterDriverTick (idleEnv now) s = some s := by
      simp only [meterDriverTick, h.driver]
      rw [meterIskraTick, if_neg (fun hinit => Bool.false_ne_true hinit.1),
        if_neg (by simp only [TickEnv.transactionPending, idleEnv, Bool.false_and]; decide),
        if_neg (by simp only [TickEnv.displayPending, idleEnv, Bool.and_false]; decide),
        if_pos hdue]
      exact hfastTick
    have hwait : waiting (idleEnv now).now s.meter.errorWaitTime 500 = false := by
      rw [herror]
      rfl
    have hfirstWait : waiting (idleEnv now).now s.meter.firstTick 2500 = false := by
      rw [hfirstTick]
      rfl
    rw [meterTick_known htyped.1 htyped.2 hwait hfirstWait, hstarted]
    show (meterCheckState now s).bind (meterDriverTick (idleEnv now)) = some s
    rw [hcheck]
    exact hdrive

theorem Stack.Quiet.mono {first first' last : ℕ} (h : s.Quiet first last) (hle : first ≤ first') :
    s.Quiet first' last where
  timer := h.timer
  driver := h.driver
  asked hout := ⟨(h.asked hout).1.trans hle, (h.asked hout).2⟩
  waits := by
    rcases h.waits with ⟨hne, herror, hlt⟩ | ⟨herror, hfirst, hstate, htimeout, hrest⟩
    · exact Or.inl ⟨hne, herror.trans hle, hlt⟩
    · exact Or.inr ⟨herror, hfirst, hstate, htimeout.trans hle, hrest⟩

/-- While it is quiet, only the clock goes on. -/
theorem Stack.Quiet.run [CFloat F] {count : ℕ}
    (h : s.Quiet c.last (c.last + 5 * count)) :
    run clockedStep (s, c) (ticksAfter count c.last) =
        some (s, ⟨c.last + 5 * count, c.since⟩) ∧
      Meets clockedStep (fun (p : Stack F × StateClock) e => e.Punctual 5 1005 p) (s, c)
        (ticksAfter count c.last) := by
  induction count generalizing c with
  | zero => exact ⟨rfl, trivial⟩
  | succ count ih =>
    have htick : meterTick (idleEnv (c.last + 5)) s = some s := h.tick (by omega) (by omega)
    -- the state does not change, so only the time of the last tick is noted
    have hnote : StateClock.note s (.meterTick (idleEnv (c.last + 5))) s c =
        ⟨c.last + 5, c.since⟩ := by
      refine if_neg (not_or.mpr ⟨?_, not_not.mpr rfl⟩)
      rw [h.driver]
      exact Option.some_ne_none _
    have hstep : clockedStep (s, c) (.meterTick (idleEnv (c.last + 5))) =
        some (s, ⟨c.last + 5, c.since⟩) := observed_eq_some.mpr ⟨htick, hnote.symm⟩
    have hend : c.last + 5 + 5 * count = c.last + 5 * (count + 1) := by omega
    have hrest : s.Quiet (c.last + 5) (c.last + 5 + 5 * count) := by
      rw [hend]
      exact h.mono (Nat.le_add_right c.last 5)
    obtain ⟨hrun, hmeets⟩ := ih (c := ⟨c.last + 5, c.since⟩) hrest
    refine ⟨?_, ?_, ?_⟩
    · rw [ticksAfter, run_cons, hstep, ← hend]
      exact hrun
    · refine ⟨⟨fun hv4 => absurd hv4 Bool.false_ne_true, rfl⟩, fun _ => ⟨Nat.le_add_right _ _, le_rfl, ?_⟩⟩
      intro hout helapsed
      obtain ⟨hle, hlt⟩ := h.asked hout
      have htimer := h.timer
      have hlate : 1005 ≤ c.last + 5 - s.rs485.timeRefMasterRequestTimeout :=
        (elapsed_iff (by omega) (by omega)).mp helapsed
      omega
    · intro p hp
      obtain rfl := Option.some.inj (hstep.symm.trans hp)
      exact hmeets

/-- Events, and quiet ticks behind a last one. -/
structure Stretch where
  events : List StackEvent
  last : ℕ
  count : ℕ

/-- The events of a stretch with the ticks behind them. -/
def Stretch.paced (st : Stretch) : List StackEvent := st.events ++ ticksAfter st.count st.last

/-- The run of all stretches, without making the quiet ticks; `none` where one of them
would not be quiet, or an event not be punctual. -/
def played [CFloat F] : List Stretch → Stack F × StateClock → Option (Stack F × StateClock)
  | [], p => some p
  | st :: stretches, p =>
    (run clockedStep p st.events).bind fun q =>
      if Meets clockedStep (fun (p : Stack F × StateClock) e => e.Punctual 5 1005 p) p st.events ∧
          q.2.last = st.last ∧ q.1.Quiet st.last (st.last + 5 * st.count) then
        played stretches (q.1, ⟨st.last + 5 * st.count, q.2.since⟩)
      else
        none

theorem run_of_played [CFloat F] {stretches : List Stretch} {p p' : Stack F × StateClock}
    (h : played stretches p = some p') :
    run clockedStep p (stretches.flatMap Stretch.paced) = some p' ∧
      Meets clockedStep (fun (p : Stack F × StateClock) e => e.Punctual 5 1005 p) p
        (stretches.flatMap Stretch.paced) := by
  induction stretches generalizing p with
  | nil => exact ⟨h, trivial⟩
  | cons st stretches ih =>
    obtain ⟨q, hq, hplayed⟩ := Option.bind_eq_some_iff.mp h
    split_ifs at hplayed with hst
    obtain ⟨hevents, hlast, hquiet⟩ := hst
    rw [← hlast] at hquiet hplayed
    obtain ⟨hticks, hpunctual⟩ := hquiet.run
    obtain ⟨hrest, hmeets⟩ := ih hplayed
    have hpaced : run clockedStep p st.paced =
        some (q.1, ⟨q.2.last + 5 * st.count, q.2.since⟩) := by
      rw [Stretch.paced, run_append, hq, ← hlast]
      exact hticks
    rw [List.flatMap_cons]
    constructor
    · rw [run_append, hpaced]
      exact hrest
    · refine Meets.join ?_ hpaced hmeets
      rw [Stretch.paced, ← hlast]
      exact hevents.join hq hpunctual

/-- The eight bytes of a request leave the UART. -/
def shiftedOut : List StackEvent := List.replicate 8 .txShift

/-- One fast cycle, started at `now`, of a meter that does not answer: both requests
time out, and behind each of them `meter_tick` waits for 500 ms. -/
def unansweredCycle (before : List StackEvent) (now : ℕ) : List Stretch :=
  [⟨before ++ [.meterTick (idleEnv now), .rs485Tick (now + 1) noInterrupts] ++ shiftedOut,
      now, 200⟩,
    ⟨[.rs485Tick (now + 1000) noInterrupts, .meterTick (idleEnv (now + 1005))], now + 1005, 99⟩,
    ⟨[.meterTick (idleEnv (now + 1505)), .rs485Tick (now + 1506) noInterrupts] ++ shiftedOut,
      now + 1505, 200⟩,
    ⟨[.rs485Tick (now + 2505) noInterrupts, .meterTick (idleEnv (now + 2510))], now + 2510, 99⟩]

/-- A WM3M4C is found and unplugged. -/
def unpluggedRun : List Stretch :=
  unansweredCycle iskraFoundRun 6020 ++
    (List.range 19).flatMap fun k => unansweredCycle [] (9030 + 3010 * k)

/-- The next tick comes in time and finds the state 60 seconds old. -/
def Starved (p : Stack ExactFloat × StateClock) : Prop :=
  p.1.meter.type = .wm3M4C ∧ StackEvent.Punctual 5 1005 p (.meterTick (idleEnv 66220)) ∧
    p.2.since + 60000 ≤ 66220 ∧ waiting 66220 p.1.meter.errorWaitTime 500 = false ∧
    p.1.meter.firstTick = 0 ∧ watchdogLoop 66220 p.1 = true

instance (p : Stack ExactFloat × StateClock) : Decidable (Starved p) :=
  inferInstanceAs (Decidable (_ ∧ _ ∧ _ ∧ _ ∧ _ ∧ _))

/-- With a tick every 5 ms and every request timing out after 1000 ms, `meter_tick`
enters the endless loop 60 seconds after the meter was found. -/
theorem watchdog_unplugged : ∃ (events : List StackEvent) (t : Stack ExactFloat) (c : StateClock),
    run clockedStep (stackInit 64 64 0, ⟨0, 0⟩) events = some (t, c) ∧
      Meets clockedStep (fun (p : Stack ExactFloat × StateClock) e => e.Punctual 5 1005 p)
        (stackInit 64 64 0, ⟨0, 0⟩) events ∧
      Starved (t, c) ∧ meterTick (idleEnv 66220) t = none := by
  have hplayed : ((played unpluggedRun (stackInit 64 64 0, ⟨0, 0⟩)).any
      fun p => decide (Starved p)) = true := by decide +kernel
  obtain ⟨⟨t, c⟩, hrun, hstarved⟩ := (Option.any_eq_true _ _).mp hplayed
  have hstarved := of_decide_eq_true hstarved
  obtain ⟨hrun, hmeets⟩ := run_of_played hrun
  refine ⟨unpluggedRun.flatMap Stretch.paced, t, c, hrun, hmeets, hstarved, ?_⟩
  obtain ⟨htype, -, -, herror, hfirst, hloop⟩ := hstarved
  have htype' : t.meter.type = .wm3M4C := htype
  have hfirst' : waiting (idleEnv 66220).now t.meter.firstTick 2500 = false := by
    rw [show t.meter.firstTick = 0 from hfirst]
    rfl
  have hloop' : watchdogLoop (idleEnv 66220).now t.started = true := hloop
  rw [meterTick_known (by rw [htype']; decide) (by rw [htype']; decide) herror hfirst',
    meterCheckState, if_pos hloop']
  rfl

end Bricklib2
