/-
Bricklib2/Warp/ContactorCheck.lean

The contactor check of the EVSE (contactor_check.c).  A combination of the auxiliary
contacts that cannot be is reported when it has been there for some time.  One time
stamp serves for that: 0 stands for no error, and after a report it is set back by
251 ms, so that the next tick reports again.

That is enough for a contactor that is not active (250 ms), but not for an active one
(500 ms): the error comes and goes.

Main results: `contactorError_debounced`, no report without 250 ms of errors, and
`contactorError_stable_iff`, which spacings of the ticks a report outlasts.
-/
import Bricklib2.Hal.SystemTimer
import Bricklib2.Library.Machine
import Mathlib.Data.Bool.Basic
import Mathlib.Data.UInt

namespace Bricklib2

open Machine

/-! ### State -/

/-- The static variables of the module. -/
structure ContactorCheck where
  ac1EdgeCount : UInt32
  ac2EdgeCount : UInt32
  ac1LastValue : Bool
  ac2LastValue : Bool
  lastCheck : ℕ
  invalidCounter : UInt8
  state : UInt8
  error : UInt8
  peEdgeCount : UInt32
  peLastValue : Bool
  lastErrorTime : ℕ

/-- `hardware_version.is_v2` and `CONTACTOR_CHECK_RELAY_PIN_IS_INVERTED`. -/
structure ContactorConfig where
  isV2 : Bool
  relayPinIsInverted : Bool

/-- What one call of `contactor_check_tick` reads: the pins, and the clock at most five
times. -/
structure ContactorTick where
  ac1 : Bool
  ac2 : Bool
  checkNL1 : Bool
  checkL2L3 : Bool
  checkPe : Bool
  contactor : Bool
  phaseSwitch : Bool
  oveR37Disabled : Bool
  nowStart : ℕ
  nowCheck : ℕ
  nowChecked : ℕ
  nowError : ℕ
  nowReport : ℕ

/-- `CONTACTOR_CHECK_INTERVAL` -/
def contactorCheckInterval : ℕ := 250

/-- `CONTACTOR_CHECK_INTERVAL_V3` -/
def contactorCheckIntervalV3 : ℕ := 1000

/-- `contactor_check_init` -/
def contactorCheckInit (config : ContactorConfig) (ac1 ac2 checkPe : Bool) : ContactorCheck where
  ac1EdgeCount := 0
  ac2EdgeCount := 0
  ac1LastValue := config.isV2 && ac1
  ac2LastValue := config.isV2 && ac2
  lastCheck := 0
  invalidCounter := 0
  state := 0
  error := 0
  peEdgeCount := 0
  peLastValue := !config.isV2 && checkPe
  lastErrorTime := 0

/-! ### Version 2 -/

/-- `ac1_live | (ac2_live << 1)` -/
def contactorState (ac1Live ac2Live : Bool) : UInt8 := ac1Live.toUInt8 ||| (ac2Live.toUInt8 <<< 1)

/-- The error of a state of the relay and of the voltages on both sides of it. -/
def relayError (relayState : Bool) (state : UInt8) (error : UInt8) : UInt8 :=
  if relayState then
    -- switched on, 230V AC on both sides are expected
    if state = 0 then 1 else if state = 1 then 2 else if state = 2 then 3
    else if state = 3 then 0 else error
  else
    -- switched off, 230V AC on AC1 and nothing on AC2
    if state = 0 then 4 else if state = 1 then 0 else if state = 2 then 5
    else if state = 3 then 6 else error

/-- A tick of the hardware that has no PE input. -/
def ContactorCheck.tickV2 (config : ContactorConfig) (t : ContactorTick) (s : ContactorCheck) :
    ContactorCheck :=
  let s := if t.ac1 != s.ac1LastValue then
    { s with ac1LastValue := t.ac1, ac1EdgeCount := s.ac1EdgeCount + 1 } else s
  let s := if t.ac2 != s.ac2LastValue then
    { s with ac2LastValue := t.ac2, ac2EdgeCount := s.ac2EdgeCount + 1 } else s
  if systemTimerIsTimeElapsedMs t.nowCheck s.lastCheck contactorCheckInterval then
    let s := { s with lastCheck := systemTimerGetMs t.nowChecked }
    let s :=
      if 0 < s.invalidCounter then
        { s with invalidCounter := s.invalidCounter - 1 }
      else
        let state := contactorState (10 < s.ac1EdgeCount) (10 < s.ac2EdgeCount)
        let relayState := if config.relayPinIsInverted then !t.contactor else t.contactor
        { s with state := state, error := relayError relayState state s.error }
    { s with ac1EdgeCount := 0, ac2EdgeCount := 0 }
  else
    s

/-! ### Version 3 and 4 -/

/-- The pins as the `switch` has them. -/
def ContactorTick.combination (t : ContactorTick) : ℕ :=
  (t.contactor.toNat <<< 3) ||| (t.phaseSwitch.toNat <<< 2) ||| (t.checkNL1.toNat <<< 1) |||
    (t.checkL2L3.toNat <<< 0)

/-- The cases of the `switch`: active with three phases, active with one phase, and twice
not active. -/
def contactorErrorCodes : List UInt8 :=
  [0, 1, 2, 3,
   4, 0, 5, 6,
   7, 8, 9, 0,
   10, 11, 12, 0]

/-- The `switch`; 13 is its `default`. -/
def ContactorTick.errorCode (t : ContactorTick) : UInt8 := contactorErrorCodes.getD t.combination 13

/-- An edge of the PE input. -/
def ContactorCheck.countPeEdge (t : ContactorTick) (s : ContactorCheck) : ContactorCheck :=
  if t.checkPe != s.peLastValue then
    { s with peLastValue := t.checkPe, peEdgeCount := s.peEdgeCount + 1 }
  else
    s

/-- The edges of the last second, if the check is valid; it is off in OVE R37 mode. -/
def ContactorCheck.evaluatePeEdges (t : ContactorTick) (s : ContactorCheck) : ContactorCheck :=
  if 0 < s.invalidCounter then
    { s with invalidCounter := s.invalidCounter - 1 }
  else if t.oveR37Disabled then
    { s with error := if 10 < s.peEdgeCount then 0 else 1 }
  else
    { s with error := 0 }

/-- The PE check. -/
def ContactorCheck.peCheck (t : ContactorTick) (s : ContactorCheck) : ContactorCheck :=
  let s := s.countPeEdge t
  if systemTimerIsTimeElapsedMs t.nowCheck s.lastCheck contactorCheckIntervalV3 then
    let s := { s with lastCheck := systemTimerGetMs t.nowChecked }
    { s.evaluatePeEdges t with peEdgeCount := 0 }
  else
    s

/-- The N/L1 and L2/L3 check with its debounce. -/
def ContactorCheck.auxCheck (t : ContactorTick) (s : ContactorCheck) : ContactorCheck :=
  if t.errorCode = 0 then
    { s with lastErrorTime := 0 }
  else if s.lastErrorTime = 0 then
    { s with lastErrorTime := systemTimerGetMs t.nowError }
  else if (t.contactor && systemTimerIsTimeElapsedMs t.nowError s.lastErrorTime 250) ||
      (!t.contactor && systemTimerIsTimeElapsedMs t.nowError s.lastErrorTime 500) then
    { s with
      error := s.error ||| (t.errorCode <<< 1)
      lastErrorTime := (systemTimerGetMs t.nowReport + 2 ^ 32 - 251) % 2 ^ 32 }
  else
    s

/-- The data for the Brick, "active high". -/
def ContactorTick.stateBits (t : ContactorTick) (error : UInt8) : UInt8 :=
  (!t.checkNL1).toUInt8 ||| ((!t.checkL2L3).toUInt8 <<< 1) ||| ((error != 0).toUInt8 <<< 2) |||
    ((!t.contactor).toUInt8 <<< 3) ||| ((!t.phaseSwitch).toUInt8 <<< 4)

/-- `contactor_check.error & 1`, the last value of the PE check. -/
def ContactorCheck.keepPe (s : ContactorCheck) : ContactorCheck := { s with error := s.error &&& 1 }

/-- The state as it is reported, with the error in its upper bits. -/
def ContactorCheck.setState (t : ContactorTick) (s : ContactorCheck) : ContactorCheck :=
  { s with state := t.stateBits s.error }

/-- A tick of the hardware with a PE input. -/
def ContactorCheck.tickV3 (t : ContactorTick) (s : ContactorCheck) : ContactorCheck :=
  ((s.peCheck t).keepPe.auxCheck t).setState t

/-- `contactor_check_tick` -/
def contactorCheckTick (config : ContactorConfig) (t : ContactorTick) (s : ContactorCheck) :
    ContactorCheck :=
  let s := if s.lastCheck = 0 then { s with lastCheck := systemTimerGetMs t.nowStart } else s
  if config.isV2 then s.tickV2 config t else s.tickV3 t

/-! ### Runs -/

/-- The contactor check and the time up to which it has run. -/
structure ContactorSystem where
  clock : ℕ
  check : ContactorCheck

/-- The clock does not go back during a tick. -/
def ContactorTick.Ordered (t : ContactorTick) : Prop :=
  t.nowStart ≤ t.nowCheck ∧ t.nowCheck ≤ t.nowChecked ∧ t.nowChecked ≤ t.nowError ∧
    t.nowError ≤ t.nowReport

instance (t : ContactorTick) : Decidable t.Ordered := inferInstanceAs (Decidable (_ ∧ _))

/-- Ticks come one after the other. -/
def contactorStep (config : ContactorConfig) (p : ContactorSystem) (t : ContactorTick) :
    Option ContactorSystem :=
  if p.clock ≤ t.nowStart ∧ t.Ordered then some ⟨t.nowReport, contactorCheckTick config t p.check⟩
  else none

variable {config : ContactorConfig} {t t' : ContactorTick} {s : ContactorCheck}
variable {p q : ContactorSystem} {ticks : List ContactorTick}

theorem contactorStep_eq_some : contactorStep config p t = some q ↔
    (p.clock ≤ t.nowStart ∧ t.Ordered) ∧ q = ⟨t.nowReport, contactorCheckTick config t p.check⟩ := by
  unfold contactorStep
  by_cases h : p.clock ≤ t.nowStart ∧ t.Ordered
  · rw [if_pos h]
    exact ⟨fun hq => ⟨h, (Option.some.inj hq).symm⟩, fun hq => congrArg some hq.2.symm⟩
  · rw [if_neg h]
    exact ⟨fun hq => absurd hq (Option.some_ne_none q).symm, fun hq => absurd hq.1 h⟩

/-! ### What a tick reports -/

/-- The code of the auxiliary contacts in `contactor_check.error`; the PE check has bit 0. -/
def ContactorCheck.auxCode (s : ContactorCheck) : UInt8 := s.error >>> 1

/-- The debounce of a tick in milliseconds. -/
def ContactorTick.debounce (t : ContactorTick) : ℕ := if t.contactor then 250 else 500

/-- An error that has been there for long enough. -/
def Reports (lastErrorTime : ℕ) (t : ContactorTick) : Prop :=
  t.errorCode ≠ 0 ∧ lastErrorTime ≠ 0 ∧
    systemTimerIsTimeElapsedMs t.nowError lastErrorTime t.debounce = true

instance (lastErrorTime : ℕ) (t : ContactorTick) : Decidable (Reports lastErrorTime t) :=
  inferInstanceAs (Decidable (_ ∧ _ ∧ _))

theorem elapsed_debounce (last : ℕ) :
    ((t.contactor && systemTimerIsTimeElapsedMs t.nowError last 250) ||
      (!t.contactor && systemTimerIsTimeElapsedMs t.nowError last 500)) =
      systemTimerIsTimeElapsedMs t.nowError last t.debounce := by
  unfold ContactorTick.debounce
  cases t.contactor <;> simp

/-- The debounce by its four cases. -/
theorem auxCheck_eq : s.auxCheck t =
    if t.errorCode = 0 then
      { s with lastErrorTime := 0 }
    else if s.lastErrorTime = 0 then
      { s with lastErrorTime := systemTimerGetMs t.nowError }
    else if Reports s.lastErrorTime t then
      { s with
        error := s.error ||| (t.errorCode <<< 1)
        lastErrorTime := (systemTimerGetMs t.nowReport + 2 ^ 32 - 251) % 2 ^ 32 }
    else
      s := by
  unfold ContactorCheck.auxCheck
  rw [elapsed_debounce]
  by_cases hcode : t.errorCode = 0
  · rw [if_pos hcode, if_pos hcode]
  rw [if_neg hcode, if_neg hcode]
  by_cases hlast : s.lastErrorTime = 0
  · rw [if_pos hlast, if_pos hlast]
  rw [if_neg hlast, if_neg hlast]
  exact if_congr (by simp [Reports, hcode, hlast]) rfl rfl

theorem errorCode_lt (t : ContactorTick) : t.errorCode < 16 := by
  unfold ContactorTick.errorCode ContactorTick.combination
  cases t.contactor <;> cases t.phaseSwitch <;> cases t.checkNL1 <;> cases t.checkL2L3 <;> decide

theorem shiftRight_pe (error : UInt8) : (error &&& 1) >>> 1 = 0 := by
  apply UInt8.toNat_inj.mp
  rw [UInt8.toNat_shiftRight, UInt8.toNat_and]
  show (error.toNat &&& 1) >>> 1 = 0
  rw [Nat.and_one_is_mod, Nat.shiftRight_eq_div_pow]
  omega

theorem shiftRight_code {code : UInt8} (h : code < 16) : (code <<< 1) >>> 1 = code := by
  have hlt : code.toNat < 16 := UInt8.lt_iff_toNat_lt.mp h
  apply UInt8.toNat_inj.mp
  rw [UInt8.toNat_shiftRight, UInt8.toNat_shiftLeft]
  show (code.toNat <<< 1 % 2 ^ 8) >>> 1 = code.toNat
  rw [Nat.shiftLeft_eq, Nat.shiftRight_eq_div_pow]
  omega

theorem auxCode_report {code error : UInt8} (h : code < 16) :
    ((error &&& (1 : UInt8)) ||| (code <<< (1 : UInt8))) >>> (1 : UInt8) = code := by
  rw [UInt8.shiftRight_or, shiftRight_pe, shiftRight_code h, UInt8.zero_or]

theorem error_keepPe : s.keepPe.error = s.error &&& 1 := rfl

theorem lastErrorTime_keepPe : s.keepPe.lastErrorTime = s.lastErrorTime := rfl

theorem error_setState : (s.setState t).error = s.error := rfl

theorem lastErrorTime_setState : (s.setState t).lastErrorTime = s.lastErrorTime := rfl

theorem lastErrorTime_countPeEdge : (s.countPeEdge t).lastErrorTime = s.lastErrorTime := by
  unfold ContactorCheck.countPeEdge
  split_ifs <;> rfl

theorem lastErrorTime_evaluatePeEdges : (s.evaluatePeEdges t).lastErrorTime = s.lastErrorTime := by
  unfold ContactorCheck.evaluatePeEdges
  split_ifs <;> rfl

/-- The PE check does not touch the time stamp. -/
theorem lastErrorTime_peCheck : (s.peCheck t).lastErrorTime = s.lastErrorTime := by
  rw [ContactorCheck.peCheck, apply_ite ContactorCheck.lastErrorTime]
  dsimp only
  rw [lastErrorTime_evaluatePeEdges, lastErrorTime_countPeEdge, ite_self]

theorem error_auxCheck : (s.auxCheck t).error =
    if Reports s.lastErrorTime t then s.error ||| (t.errorCode <<< 1) else s.error := by
  rw [auxCheck_eq]
  by_cases hreports : Reports s.lastErrorTime t
  · rw [if_neg hreports.1, if_neg hreports.2.1, if_pos hreports, if_pos hreports]
  · rw [if_neg hreports, if_neg hreports]
    split_ifs <;> rfl

theorem lastErrorTime_auxCheck : (s.auxCheck t).lastErrorTime =
    if t.errorCode = 0 then 0
    else if s.lastErrorTime = 0 then systemTimerGetMs t.nowError
    else if Reports s.lastErrorTime t then (systemTimerGetMs t.nowReport + 2 ^ 32 - 251) % 2 ^ 32
    else s.lastErrorTime := by
  rw [auxCheck_eq, apply_ite ContactorCheck.lastErrorTime, apply_ite ContactorCheck.lastErrorTime,
    apply_ite ContactorCheck.lastErrorTime]

/-- The code that a tick leaves in the error, next to the PE check. -/
theorem auxCode_tickV3 : (s.tickV3 t).auxCode =
    if Reports s.lastErrorTime t then t.errorCode else 0 := by
  rw [ContactorCheck.auxCode, ContactorCheck.tickV3, error_setState, error_auxCheck,
    lastErrorTime_keepPe, lastErrorTime_peCheck, error_keepPe]
  split_ifs
  · exact auxCode_report (errorCode_lt t)
  · exact shiftRight_pe _

/-- What a tick leaves in the time stamp. -/
theorem lastErrorTime_tickV3 : (s.tickV3 t).lastErrorTime =
    if t.errorCode = 0 then 0
    else if s.lastErrorTime = 0 then systemTimerGetMs t.nowError
    else if Reports s.lastErrorTime t then (systemTimerGetMs t.nowReport + 2 ^ 32 - 251) % 2 ^ 32
    else s.lastErrorTime := by
  rw [ContactorCheck.tickV3, lastErrorTime_setState, lastErrorTime_auxCheck, lastErrorTime_keepPe,
    lastErrorTime_peCheck]

/-- The check of versions 3 and 4, behind the first lines of the tick. -/
theorem exists_tickV3 (hv3 : config.isV2 = false) (t : ContactorTick) (s : ContactorCheck) :
    ∃ s' : ContactorCheck, contactorCheckTick config t s = s'.tickV3 t ∧ s'.lastErrorTime = s.lastErrorTime := by
  unfold contactorCheckTick
  rw [hv3]
  exact ⟨_, rfl, by split_ifs <;> rfl⟩

theorem auxCode_tick (hv3 : config.isV2 = false) : (contactorCheckTick config t s).auxCode =
    if Reports s.lastErrorTime t then t.errorCode else 0 := by
  obtain ⟨s', hs', hlast⟩ := exists_tickV3 hv3 t s
  rw [hs', auxCode_tickV3, hlast]

theorem lastErrorTime_tick (hv3 : config.isV2 = false) :
    (contactorCheckTick config t s).lastErrorTime =
      if t.errorCode = 0 then 0
      else if s.lastErrorTime = 0 then systemTimerGetMs t.nowError
      else if Reports s.lastErrorTime t then (systemTimerGetMs t.nowReport + 2 ^ 32 - 251) % 2 ^ 32
      else s.lastErrorTime := by
  obtain ⟨s', hs', hlast⟩ := exists_tickV3 hv3 t s
  rw [hs', lastErrorTime_tickV3, hlast]

/-! ### No report without the debounce -/

/-- The ticks from `first` on have been erroneous up to now, and there is one. -/
def ErroneousSince (first : ContactorTick) (ticks : List ContactorTick) : Prop :=
  ∃ before rest, ticks = before ++ first :: rest ∧ ∀ t ∈ first :: rest, t.errorCode ≠ 0

/-- A time stamp that is not 0 comes from the first of the erroneous ticks, or 250 ms have
passed since that one. -/
def DebounceInv (ticks : List ContactorTick) (p : ContactorSystem) : Prop :=
  p.check.lastErrorTime ≠ 0 → ∃ first, ErroneousSince first ticks ∧ first.nowError ≤ p.clock ∧
    (p.check.lastErrorTime = systemTimerGetMs first.nowError ∨ first.nowError + 250 ≤ p.clock)

theorem ErroneousSince.next {first : ContactorTick} (h : ErroneousSince first ticks)
    (ht : t.errorCode ≠ 0) : ErroneousSince first (ticks ++ [t]) := by
  obtain ⟨before, rest, rfl, hall⟩ := h
  refine ⟨before, rest ++ [t], by rw [List.append_assoc, List.cons_append], ?_⟩
  intro x hx
  rw [← List.cons_append] at hx
  rcases List.mem_append.mp hx with hx | hx
  · exact hall x hx
  · exact List.mem_singleton.mp hx ▸ ht

theorem erroneousSince_self (ht : t.errorCode ≠ 0) : ErroneousSince t (ticks ++ [t]) :=
  ⟨ticks, [], rfl, fun _ hx => List.mem_singleton.mp hx ▸ ht⟩

/-- Time that seems to have elapsed has elapsed, whatever the wrap-around hides. -/
theorem le_of_isTimeElapsed {now start time : ℕ} (hle : start ≤ now)
    (h : systemTimerIsTimeElapsedMs now (systemTimerGetMs start) time = true) :
    start + time ≤ now := by
  unfold systemTimerIsTimeElapsedMs systemTimerGetMs at h
  have h' := of_decide_eq_true h
  omega

theorem debounce_ge (t : ContactorTick) : 250 ≤ t.debounce := by
  unfold ContactorTick.debounce
  split_ifs <;> omega

/-- A tick that reports comes 250 ms after the first of the erroneous ticks. -/
theorem DebounceInv.reports (h : DebounceInv ticks p) (hclock : p.clock ≤ t.nowStart)
    (ht : t.Ordered) (hr : Reports p.check.lastErrorTime t) :
    ∃ first, ErroneousSince first (ticks ++ [t]) ∧ first.nowError + 250 ≤ t.nowError := by
  obtain ⟨hcode, hlast, helapsed⟩ := hr
  obtain ⟨hcheck, hchecked, herror, -⟩ := ht
  obtain ⟨first, hsince, hle, harmed | hlong⟩ := h hlast
  · refine ⟨first, hsince.next hcode, ?_⟩
    rw [harmed] at helapsed
    have hdebounce := debounce_ge t
    have := le_of_isTimeElapsed (by omega) helapsed
    omega
  · exact ⟨first, hsince.next hcode, by omega⟩

theorem DebounceInv.step (hv3 : config.isV2 = false) (h : DebounceInv ticks p)
    (hs : contactorStep config p t = some q) : DebounceInv (ticks ++ [t]) q := by
  obtain ⟨⟨hclock, ht⟩, rfl⟩ := contactorStep_eq_some.mp hs
  have hle : p.clock ≤ t.nowReport := by
    unfold ContactorTick.Ordered at ht
    omega
  have herror : t.nowError ≤ t.nowReport := ht.2.2.2
  unfold DebounceInv
  rw [lastErrorTime_tick hv3]
  by_cases hcode : t.errorCode = 0
  · rw [if_pos hcode]
    exact fun hne => absurd rfl hne
  rw [if_neg hcode]
  by_cases hlast : p.check.lastErrorTime = 0
  · -- the first erroneous tick, or the time stamp has been 0 by chance
    rw [if_pos hlast]
    exact fun _ => ⟨t, erroneousSince_self hcode, herror, Or.inl rfl⟩
  rw [if_neg hlast]
  intro hne
  by_cases hr : Reports p.check.lastErrorTime t
  · obtain ⟨first, hsince, hlong⟩ := h.reports hclock ht hr
    refine ⟨first, hsince, ?_, Or.inr ?_⟩
    · exact (Nat.le_add_right _ 250).trans (hlong.trans herror)
    · exact hlong.trans herror
  · obtain ⟨first, hsince, hfirst, hor⟩ := h hlast
    rw [if_neg hr]
    exact ⟨first, hsince.next hcode, hfirst.trans hle, hor.imp_right hle.trans'⟩

/-- **Debounced errors**: whatever the pins do and however far apart the ticks are, a code of
the auxiliary contacts is the one of the pins at this tick, and every tick of the last 250 ms
at least has found an error. -/
theorem contactorError_debounced (hv3 : config.isV2 = false) {clock : ℕ} {ac1 ac2 checkPe : Bool}
    {before : List ContactorTick}
    (hr : run (contactorStep config) ⟨clock, contactorCheckInit config ac1 ac2 checkPe⟩
      (before ++ [t]) = some q) (herror : q.check.auxCode ≠ 0) :
    q.check.auxCode = t.errorCode ∧
      ∃ first, ErroneousSince first (before ++ [t]) ∧ first.nowError + 250 ≤ t.nowError := by
  obtain ⟨p, hp, hs⟩ := run_append_eq_some.mp hr
  rw [run_singleton] at hs
  have hinv : DebounceInv before p := by
    refine run_induct_history (P := DebounceInv) (fun hne => absurd rfl hne) ?_ hp
    intro ticks t u u' _ hu hs
    exact hu.step hv3 hs
  obtain ⟨⟨hclock, ht⟩, rfl⟩ := contactorStep_eq_some.mp hs
  rw [auxCode_tick hv3] at herror ⊢
  by_cases hreports : Reports p.check.lastErrorTime t
  · rw [if_pos hreports]
    exact ⟨rfl, hinv.reports hclock ht hreports⟩
  · rw [if_neg hreports] at herror
    exact absurd rfl herror

/-- A tick at which the clock stands still, in OVE R37 mode. -/
def contactorTickAt (contactor phaseSwitch checkNL1 checkL2L3 : Bool) (now : ℕ) : ContactorTick where
  ac1 := false
  ac2 := false
  checkNL1 := checkNL1
  checkL2L3 := checkL2L3
  checkPe := false
  contactor := contactor
  phaseSwitch := phaseSwitch
  oveR37Disabled := false
  nowStart := now
  nowCheck := now
  nowChecked := now
  nowError := now
  nowReport := now

/-- The state after two ticks, and the contactor check of version 3 in front of them. -/
def contactorAfterTwo (t t' : ContactorTick) : Option ContactorSystem :=
  run (contactorStep ⟨false, false⟩) ⟨0, contactorCheckInit ⟨false, false⟩ false false false⟩
    ([t] ++ [t'])

/-- An inactive contactor with both checks active, after 250 ms. -/
theorem contactorError_inactive :
    ∃ p, contactorAfterTwo (contactorTickAt true false false false 1000)
        (contactorTickAt true false false false 1250) = some p ∧ p.check.auxCode = 7 ∧
      ∃ first, ErroneousSince first
        [contactorTickAt true false false false 1000, contactorTickAt true false false false 1250] ∧
        first.nowError + 250 ≤ 1250 := by
  obtain ⟨p, hp⟩ : ∃ p, contactorAfterTwo (contactorTickAt true false false false 1000)
    (contactorTickAt true false false false 1250) = some p := ⟨_, rfl⟩
  have hcode : p.check.auxCode = 7 := by
    obtain rfl := Option.some.inj hp
    decide
  have hne : p.check.auxCode ≠ 0 := by
    rw [hcode]
    decide
  exact ⟨p, hp, hcode, (contactorError_debounced rfl hp hne).2⟩

/-! ### Reports that last -/

/-- The time stamp that `t` has set back lets the next tick report again: it is not 0, and
the 251 ms and the time between the ticks make up the debounce. -/
def StaysReported (t t' : ContactorTick) : Prop :=
  systemTimerGetMs t.nowReport ≠ 251 ∧ t'.debounce ≤ (t'.nowError + 251 - t.nowReport) % 2 ^ 32

instance (t t' : ContactorTick) : Decidable (StaysReported t t') :=
  inferInstanceAs (Decidable (_ ∧ _))

/-- The state in which a tick that reports leaves the check. -/
structure ReportedAt (t : ContactorTick) (p : ContactorSystem) : Prop where
  clock : p.clock = t.nowReport
  stamp : p.check.lastErrorTime = (systemTimerGetMs t.nowReport + 2 ^ 32 - 251) % 2 ^ 32
  code : p.check.auxCode = t.errorCode
  error : t.errorCode ≠ 0

/-- A code after a tick comes from this tick. -/
theorem reportedAt_of_auxCode (hv3 : config.isV2 = false)
    (hs : contactorStep config p t = some q) (herror : q.check.auxCode ≠ 0) : ReportedAt t q := by
  obtain ⟨-, rfl⟩ := contactorStep_eq_some.mp hs
  rw [auxCode_tick hv3] at herror
  by_cases hreports : Reports p.check.lastErrorTime t
  · refine ⟨rfl, ?_, ?_, hreports.1⟩
    · rw [lastErrorTime_tick hv3, if_neg hreports.1, if_neg hreports.2.1, if_pos hreports]
    · rw [auxCode_tick hv3, if_pos hreports]
  · rw [if_neg hreports] at herror
    exact absurd rfl herror

/-- Whether the next tick reports as well. -/
theorem ReportedAt.reports_iff (h : ReportedAt t p) (hclock : p.clock ≤ t'.nowStart)
    (ht' : t'.Ordered) (hcode : t'.errorCode ≠ 0) :
    Reports p.check.lastErrorTime t' ↔ StaysReported t t' := by
  have hle : t.nowReport ≤ t'.nowError := by
    rw [h.clock] at hclock
    unfold ContactorTick.Ordered at ht'
    omega
  have hstamp : (systemTimerGetMs t.nowReport + 2 ^ 32 - 251) % 2 ^ 32 ≠ 0 ↔
      systemTimerGetMs t.nowReport ≠ 251 := by
    unfold systemTimerGetMs
    omega
  have helapsed : (systemTimerGetMs t'.nowError + 2 ^ 32 -
      (systemTimerGetMs t.nowReport + 2 ^ 32 - 251) % 2 ^ 32 % 2 ^ 32) % 2 ^ 32 =
      (t'.nowError + 251 - t.nowReport) % 2 ^ 32 := by
    unfold systemTimerGetMs
    omega
  rw [Reports, h.stamp, hstamp, systemTimerIsTimeElapsedMs, helapsed, decide_eq_true_iff]
  exact and_iff_right hcode

/-- After each of the ticks the code is the one in `p`. -/
def ErrorStable (config : ContactorConfig) (p : ContactorSystem) (ticks : List ContactorTick) :
    Prop :=
  ∀ done rest q, ticks = done ++ rest → run (contactorStep config) p done = some q →
    q.check.auxCode = p.check.auxCode

/-- The first tick keeps the code, and then the others do. -/
theorem errorStable_cons (hs : contactorStep config p t = some q) :
    ErrorStable config p (t :: ticks) ↔
      q.check.auxCode = p.check.auxCode ∧ ErrorStable config q ticks := by
  constructor
  · intro h
    have hcode := h [t] ticks q rfl ((run_singleton p t).trans hs)
    refine ⟨hcode, fun done rest u hsplit hu => ?_⟩
    have hrun := run_cons_eq_some.mpr ⟨q, hs, hu⟩
    exact (h (t :: done) rest u (congrArg (List.cons t) hsplit) hrun).trans hcode.symm
  · rintro ⟨hcode, h⟩ done rest u hsplit hu
    cases done with
    | nil =>
      obtain rfl := Option.some.inj hu
      rfl
    | cons t' done =>
      obtain ⟨rfl, hrest⟩ := List.cons_eq_cons.mp hsplit
      obtain ⟨q', hq', hu⟩ := run_cons_eq_some.mp hu
      obtain rfl := Option.some.inj (hs.symm.trans hq')
      exact (h done rest u hrest hu).trans hcode

theorem ReportedAt.stable_iff (hv3 : config.isV2 = false) (h : ReportedAt t p)
    (hsame : ∀ t' ∈ ticks, t'.combination = t.combination)
    (hr : (run (contactorStep config) p ticks).isSome = true) :
    ErrorStable config p ticks ↔ List.IsChain StaysReported (t :: ticks) := by
  induction ticks generalizing t p with
  | nil =>
    refine iff_of_true (fun done rest q hsplit hq => ?_) (List.IsChain.singleton t)
    obtain ⟨rfl, -⟩ := List.nil_eq_append_iff.mp hsplit
    obtain rfl := Option.some.inj hq
    rfl
  | cons t' ticks ih =>
    obtain ⟨r, hr⟩ := Option.isSome_iff_exists.mp hr
    obtain ⟨q, hs, hrest⟩ := run_cons_eq_some.mp hr
    obtain ⟨⟨hclock, ht'⟩, hq⟩ := contactorStep_eq_some.mp hs
    have hcode : t'.errorCode = t.errorCode := by
      unfold ContactorTick.errorCode
      rw [hsame t' List.mem_cons_self]
    have hiff := h.reports_iff hclock ht' (hcode ▸ h.error)
    have hkeeps : q.check.auxCode = p.check.auxCode ↔ StaysReported t t' := by
      rw [h.code, hq, auxCode_tick hv3, ← hiff]
      split_ifs with hreports
      · exact iff_of_true hcode hreports
      · exact iff_of_false h.error.symm hreports
    rw [errorStable_cons hs, List.isChain_cons_cons, hkeeps]
    refine and_congr_right fun hstays => ?_
    have hnext : ReportedAt t' q := by
      apply reportedAt_of_auxCode hv3 hs
      rw [hkeeps.mpr hstays, h.code]
      exact h.error
    refine ih hnext (fun x hx => ?_) (Option.isSome_iff_exists.mpr ⟨r, hrest⟩)
    exact (hsame x (List.mem_cons_of_mem t' hx)).trans (hsame t' List.mem_cons_self).symm

/-- **Errors that stay**: once a code is reported and the pins keep their combination, it stays
exactly as long as each tick comes at the right time after the last report. -/
theorem contactorError_stable_iff (hv3 : config.isV2 = false) {clock : ℕ} {ac1 ac2 checkPe : Bool}
    {before : List ContactorTick}
    (hr : run (contactorStep config) ⟨clock, contactorCheckInit config ac1 ac2 checkPe⟩
      (before ++ [t]) = some p) (herror : p.check.auxCode ≠ 0)
    (hsame : ∀ t' ∈ ticks, t'.combination = t.combination)
    (hticks : (run (contactorStep config) p ticks).isSome = true) :
    ErrorStable config p ticks ↔ List.IsChain StaysReported (t :: ticks) := by
  obtain ⟨u, -, hs⟩ := run_append_eq_some.mp hr
  rw [run_singleton] at hs
  exact (reportedAt_of_auxCode hv3 hs herror).stable_iff hv3 hsame hticks

/-- An inactive contactor: the error is still reported a millisecond later. -/
theorem contactorError_inactive_stays :
    ∃ p, contactorAfterTwo (contactorTickAt true false false false 1000)
        (contactorTickAt true false false false 1250) = some p ∧
      ErrorStable ⟨false, false⟩ p [contactorTickAt true false false false 1251] := by
  obtain ⟨p, hp⟩ : ∃ p, contactorAfterTwo (contactorTickAt true false false false 1000)
    (contactorTickAt true false false false 1250) = some p := ⟨_, rfl⟩
  refine ⟨p, hp, (contactorError_stable_iff rfl hp ?_ (by decide) ?_).mpr (by decide)⟩
  · obtain rfl := Option.some.inj hp
    decide
  · obtain rfl := Option.some.inj hp
    rfl

/-- An active contactor: the error is reported after half a second and not a millisecond
later. -/
theorem contactorError_active_flickers :
    ∃ p, contactorAfterTwo (contactorTickAt false false false true 1000)
        (contactorTickAt false false false true 1500) = some p ∧ p.check.auxCode = 1 ∧
      ¬ ErrorStable ⟨false, false⟩ p [contactorTickAt false false false true 1501] := by
  refine ⟨_, rfl, by decide, fun h => ?_⟩
  have hcode := h [contactorTickAt false false false true 1501] [] _ rfl rfl
  exact absurd hcode (by decide)

end Bricklib2
