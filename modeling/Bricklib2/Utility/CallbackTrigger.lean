/-
Bricklib2/Utility/CallbackTrigger.lean

When a poll of a callback value triggers, said in terms of the history: of the last
configuration that was accepted, and of the time and the value of the last trigger.

Main result: `callback_triggers`.  Behind a configuration every poll is due until one of
them triggers, so that the first piece of data is sent at once.
-/
import Bricklib2.Utility.CallbackRuns

namespace Bricklib2

open Machine

variable {ι : Type*} {t : CallbackValueType}

/-! ### The getter -/

/-- `GetCallbackValueCallbackConfiguration_Response` -/
structure GetCallbackValueCallbackConfigurationResponse (t : CallbackValueType) where
  period : UInt32
  valueHasToChange : Bool
  option : Char
  min : CallbackValueT t
  max : CallbackValueT t

/-- `get_callback_value_callback_configuration` -/
def getCallbackValueCallbackConfiguration (channelNum : Option ℕ) (channel : ℕ)
    (callbackValues : ℕ → CallbackValue t) :
    BootloaderHandleMessageResponse × Option (GetCallbackValueCallbackConfigurationResponse t) :=
  match callbackValueChannel channelNum channel with
  | none => (.invalidParameter, none)
  | some channel =>
    let callbackValue := callbackValues channel
    (.newMessage, some {
      period := callbackValue.period
      valueHasToChange := callbackValue.valueHasToChange
      option := callbackValue.thresholdOptionUser
      min := callbackValue.thresholdMinUser
      max := callbackValue.thresholdMaxUser })

/-- The character of an option. -/
def ThresholdOption.char : ThresholdOption → Char
  | .off => 'x'
  | .outside => 'o'
  | .inside => 'i'
  | .smaller => '<'
  | .greater => '>'

/-- A configuration as the host sent it. -/
def CallbackConfiguration.response (c : CallbackConfiguration (CallbackValueT t)) :
    GetCallbackValueCallbackConfigurationResponse t where
  period := c.period
  valueHasToChange := c.valueHasToChange
  option := c.option.char
  min := c.min
  max := c.max

theorem char_of_ofChar {option : Char} {o : ThresholdOption}
    (h : ThresholdOption.ofChar option = some o) : option = o.char := by
  unfold ThresholdOption.ofChar at h
  split at h
  case h_6 => cases h
  all_goals
    obtain rfl := Option.some.inj h
    rfl

/-- **The getter** returns the configuration that the fields stand for. -/
theorem getCallbackValueCallbackConfiguration_represents {channelNum : Option ℕ}
    {channel i : ℕ} {callbackValues : ℕ → CallbackValue t}
    {c : CallbackConfiguration (CallbackValueT t)} (hv : (callbackValues i).Represents c)
    (hchannel : callbackValueChannel channelNum channel = some i) :
    getCallbackValueCallbackConfiguration channelNum channel callbackValues =
      (.newMessage, some c.response) := by
  rw [getCallbackValueCallbackConfiguration, hchannel]
  dsimp only
  rw [hv.period_eq, hv.change_eq, char_of_ofChar hv.option_user, hv.min_user, hv.max_user]
  rfl

/-! ### History -/

/-- What the period is counted from. -/
inductive CallbackSince
  | start
  | configured (time : ℕ)
  | triggered (time : ℕ)

/-- What the history says about one channel of an array: the last trigger or accepted
configuration, whether there was a poll since, and the value of the last trigger. -/
structure CallbackPast (t : CallbackValueType) where
  since : CallbackSince := .start
  polled : Bool := false
  value : CallbackValueT t := .max

section History

variable (channelNum : Option ℕ)

/-- With nothing buffered, a poll triggers: its callback is sent or buffered. -/
def CallbackSystem.triggered (s : CallbackSystem ι t) (array : ι) (channel : ℕ)
    (poll : CallbackPoll t) : Bool :=
  !(s.buffers channel).isBuffered && ((s.handled channelNum array channel poll).sent.isSome ||
    (s.handled channelNum array channel poll).buffer.isBuffered)

variable [DecidableEq ι] (array : ι) (channel : ℕ)

/-- The history behind an event. -/
def CallbackPast.after (s : CallbackSystem ι t) (p : CallbackPast t) :
    CallbackEvent ι t → CallbackPast t
  | .set array' now data =>
    if array' = array ∧ callbackValueChannel channelNum data.channel = some channel ∧
        data.configuration.isSome then
      { p with since := .configured now, polled := false }
    else
      p
  | .handle array' channel' poll =>
    if array' = array ∧ callbackValueChannel channelNum channel' = some channel then
      if s.triggered channelNum array channel poll then
        { since := .triggered poll.nowStored, polled := true, value := poll.valueCurrent }
      else
        { p with polled := true }
    else
      p

/-- The system with the history of one channel of an array. -/
def trackedStep (u : CallbackSystem ι t × CallbackPast t) (e : CallbackEvent ι t) :
    Option (CallbackSystem ι t × CallbackPast t) :=
  (u.1.step channelNum e).map fun s => (s, u.2.after channelNum array channel u.1 e)

end History

/-- The period is over: it is counted from the last trigger, and behind a configuration each
poll is due. -/
def CallbackPast.Elapsed (p : CallbackPast t) (period now : ℕ) : Prop :=
  match p.since with
  | .start => True
  | .configured _ => True
  | .triggered time => period ≤ now - time

/-- The poll is less than 2^32 ms behind what the period is counted from; a period that is
counted as over when it begins takes part in that. -/
def CallbackPast.Timely (p : CallbackPast t) (period now : ℕ) : Prop :=
  match p.since with
  | .start => True
  | .configured time => time ≤ now ∧ now - time + period < 2 ^ 32
  | .triggered time => time ≤ now ∧ now - time < 2 ^ 32

/-! ### What the fields keep of the history -/

section Records

variable {channelNum : Option ℕ} {array : ι} {channel : ℕ} {s s' : CallbackSystem ι t}
  {p : CallbackPast t} {c : CallbackConfiguration (CallbackValueT t)} {v : CallbackValue t}
  {es : List (CallbackEvent ι t)} {e : CallbackEvent ι t} {now : ℕ}

/-- The fields have the time and the value of the history. -/
structure CallbackValue.Records (v : CallbackValue t)
    (c : CallbackConfiguration (CallbackValueT t)) (p : CallbackPast t) : Prop where
  value : v.valueLast = p.value
  time : match p.since with
    | .start => c.period = 0
    | .configured time => v.lastTime = UInt32.ofNat (systemTimerGetMs time) - c.period
    | .triggered time => v.lastTime = UInt32.ofNat (systemTimerGetMs time)

theorem toNat_systemTimerGetMs (time : ℕ) :
    (UInt32.ofNat (systemTimerGetMs time)).toNat = systemTimerGetMs time :=
  UInt32.toNat_ofNat_of_lt' (Nat.mod_lt _ (by decide))

/-- **The time comparison** of the code says that the period is over. -/
theorem CallbackValue.Records.elapsed_iff (h : v.Records c p)
    (htimely : p.Timely c.period.toNat now) (hon : c.period ≠ 0) :
    systemTimerIsTimeElapsedMs now v.lastTime.toNat c.period.toNat = true ↔
      p.Elapsed c.period.toNat now := by
  obtain ⟨-, htime⟩ := h
  unfold CallbackPast.Timely at htimely
  unfold CallbackPast.Elapsed
  rcases hsince : p.since with - | time | time
  · rw [hsince] at htime
    exact absurd htime hon
  · rw [hsince] at htime htimely
    dsimp only at htime htimely ⊢
    have hperiod := c.period.toNat_lt
    rw [htime, systemTimerIsTimeElapsedMs, UInt32.toNat_sub, toNat_systemTimerGetMs,
      decide_eq_true_iff]
    unfold systemTimerGetMs
    refine iff_of_true ?_ trivial
    omega
  · rw [hsince] at htime htimely
    dsimp only at htime htimely ⊢
    rw [htime, toNat_systemTimerGetMs, systemTimerIsTimeElapsedMs_iff htimely.1 htimely.2]

/-- With nothing buffered, a poll triggers exactly if it is due. -/
theorem triggered_iff_due (poll : CallbackPoll t)
    (hv : (s.callbackValues array channel).Represents c)
    (hbuffer : (s.buffers channel).isBuffered = false) :
    s.triggered channelNum array channel poll = true ↔
      c.Due (s.callbackValues array channel).valueLast (s.callbackValues array channel).lastTime
        poll.nowElapsed poll.valueCurrent := by
  rw [CallbackSystem.triggered, CallbackSystem.handled, hbuffer, Bool.not_false, Bool.true_and]
  by_cases hdue : c.Due (s.callbackValues array channel).valueLast
      (s.callbackValues array channel).lastTime poll.nowElapsed poll.valueCurrent
  · rw [handleCallbackValueCallback_due hv hbuffer hdue, sendCallbackValue]
    refine iff_of_true ?_ hdue
    cases poll.sendPossible <;> rfl
  · rw [handleCallbackValueCallback_quiet hv hbuffer hdue]
    exact iff_of_false (by simp [hbuffer]) hdue

/-- What a poll leaves: a trigger has its time and its value. -/
theorem handled_callbackValue (poll : CallbackPoll t)
    (hv : (s.callbackValues array channel).Represents c) :
    (s.handled channelNum array channel poll).callbackValue =
      if s.triggered channelNum array channel poll = true then
        { s.callbackValues array channel with
          lastTime := UInt32.ofNat (systemTimerGetMs poll.nowStored)
          valueLast := poll.valueCurrent }
      else
        s.callbackValues array channel := by
  rcases hbuffer : (s.buffers channel).isBuffered
  · split_ifs with htriggered
    · have hdue := (triggered_iff_due poll hv hbuffer).mp htriggered
      rw [CallbackSystem.handled, handleCallbackValueCallback_due hv hbuffer hdue,
        sendCallbackValue]
      cases poll.sendPossible <;> rfl
    · have hquiet := mt (triggered_iff_due poll hv hbuffer).mpr htriggered
      rw [CallbackSystem.handled, handleCallbackValueCallback_quiet hv hbuffer hquiet]
  · have hnot : s.triggered channelNum array channel poll = false := by
      rw [CallbackSystem.triggered, hbuffer, Bool.not_true, Bool.false_and]
    rw [if_neg (by simp [hnot]), CallbackSystem.handled,
      handleCallbackValueCallback_buffered hbuffer, sendCallbackValue]
    cases poll.sendPossible <;> rfl

variable [DecidableEq ι]

/-- The fields of a channel behind an event. -/
theorem records_step (hinv : CallbackInv channelNum es s)
    (h : (s.callbackValues array channel).Records (inForce channelNum array channel es) p)
    (he : s.step channelNum e = some s') :
    (s'.callbackValues array channel).Records (inForce channelNum array channel (es ++ [e]))
      (p.after channelNum array channel s e) := by
  rw [inForce_snoc]
  cases e with
  | set array' now data =>
    obtain rfl := Option.some.inj he
    show (Function.update s.callbackValues array' _ array channel).Records
      (Option.getD (if _ then _ else _) _) _
    rw [CallbackPast.after]
    by_cases harray : array' = array
    · subst harray
      rw [Function.update_self]
      rcases hchannel : callbackValueChannel channelNum data.channel with - | i
      · rw [setCallbackValueCallbackConfiguration_refused now _ (.inl hchannel),
          if_neg (by simp), if_neg (by simp)]
        exact h
      · rcases hc : data.configuration with - | c
        · rw [setCallbackValueCallbackConfiguration_refused now _ (.inr hc), ite_self,
            if_neg (by simp)]
          exact h
        · obtain ⟨v, hset, -, hvalue, htime⟩ := setCallbackValueCallbackConfiguration_accepted now
            (s.callbackValues array') hchannel hc
          rw [hset]
          show (Function.update (s.callbackValues array') i v channel).Records _ _
          by_cases hi : i = channel
          · subst hi
            rw [Function.update_self, if_pos ⟨rfl, rfl⟩, if_pos ⟨rfl, rfl, rfl⟩]
            exact ⟨hvalue.trans h.value, htime⟩
          · rw [Function.update_of_ne (Ne.symm hi), if_neg (by simp [hi]), if_neg (by simp [hi])]
            exact h
    · rw [Function.update_of_ne (Ne.symm harray), if_neg (fun h => harray h.1),
        if_neg (fun h => harray h.1)]
      exact h
  | handle array' channel' poll =>
    obtain ⟨i, hi, rfl⟩ := Option.map_eq_some_iff.mp he
    show (Function.update s.callbackValues array' _ array channel).Records
      (inForce channelNum array channel es) _
    rw [CallbackPast.after]
    by_cases hmine : array' = array ∧ callbackValueChannel channelNum channel' = some channel
    · rw [if_pos hmine]
      obtain ⟨rfl, hchannel⟩ := hmine
      obtain rfl : i = channel := Option.some.inj (hi.symm.trans hchannel)
      rw [Function.update_self, Function.update_self,
        handled_callbackValue poll (hinv.represents array' i)]
      split_ifs
      · exact ⟨rfl, rfl⟩
      · exact ⟨h.value, h.time⟩
    · rw [if_neg hmine]
      by_cases harray : array' = array
      · subst harray
        have hne : channel ≠ i := fun heq => hmine ⟨rfl, heq ▸ hi⟩
        rwa [Function.update_self, Function.update_of_ne hne]
      · rwa [Function.update_of_ne (Ne.symm harray)]

/-- **Along every run** the fields have the configuration and the history. -/
theorem run_records (hrun : run (trackedStep channelNum array channel) (callbackSystemInit, {}) es =
      some (s, p)) :
    CallbackInv channelNum es s ∧
      (s.callbackValues array channel).Records (inForce channelNum array channel es) p := by
  have hinv := run_induct_history (P := fun es (u : CallbackSystem ι t × CallbackPast t) =>
      run (CallbackSystem.step channelNum) callbackSystemInit es = some u.1 ∧
        (u.1.callbackValues array channel).Records (inForce channelNum array channel es) u.2)
    ⟨rfl, rfl, rfl⟩ (fun es e u u' _ h he => ?_) hrun
  · exact ⟨run_callbackInv hinv.1, hinv.2⟩
  · obtain ⟨s', hs', rfl⟩ := Option.map_eq_some_iff.mp he
    refine ⟨run_append_eq_some.mpr ⟨u.1, h.1, ?_⟩, records_step (run_callbackInv h.1) h.2 hs'⟩
    rwa [run_singleton]

end Records

/-! ### Main result -/

/-- **When a poll triggers.**  Behind any configurations and polls, of this array or of others,
a poll with nothing buffered triggers exactly if the callback is on, its period is over, the
value is not the last triggered one where it has to change, and the option of the host holds.
A configuration with another option changes nothing, and the getter returns the last one that
was accepted. -/
theorem callback_triggers [DecidableEq ι] (channelNum : Option ℕ) (array : ι) (channel : ℕ)
    (es : List (CallbackEvent ι t)) (s : CallbackSystem ι t) (p : CallbackPast t)
    (hrun : run (trackedStep channelNum array channel) (callbackSystemInit, {}) es =
      some (s, p)) :
    let c := inForce channelNum array channel es
    (∀ poll : CallbackPoll t, (s.buffers channel).isBuffered = false →
      p.Timely c.period.toNat poll.nowElapsed →
      (s.triggered channelNum array channel poll = true ↔
        c.period ≠ 0 ∧ p.Elapsed c.period.toNat poll.nowElapsed ∧
          (c.valueHasToChange = true → poll.valueCurrent ≠ p.value) ∧
          c.Accepts poll.valueCurrent)) ∧
      (∀ (array' : ι) (now : ℕ) (data : SetCallbackValueCallbackConfiguration t),
        data.option ∉ ['x', 'o', 'i', '<', '>'] →
        s.step channelNum (.set array' now data) = some s) ∧
      ∀ channel', callbackValueChannel channelNum channel' = some channel →
        getCallbackValueCallbackConfiguration channelNum channel' (s.callbackValues array) =
          (.newMessage, some c.response) := by
  obtain ⟨hinv, hrecords⟩ := run_records hrun
  have hv := hinv.represents array channel
  refine ⟨fun poll hbuffer htimely => ?_, fun array' now data hoption => ?_,
    fun channel' => getCallbackValueCallbackConfiguration_represents hv⟩
  · rw [triggered_iff_due poll hv hbuffer]
    constructor
    · rintro ⟨hon, helapsed, hchanged, haccepts⟩
      refine ⟨hon, (hrecords.elapsed_iff htimely hon).mp helapsed, ?_, haccepts⟩
      rwa [← hrecords.value]
    · rintro ⟨hon, helapsed, hchanged, haccepts⟩
      refine ⟨hon, (hrecords.elapsed_iff htimely hon).mpr helapsed, ?_, haccepts⟩
      rwa [hrecords.value]
  · have hnone : data.configuration = none := by
      refine Option.map_eq_none_iff.mpr ?_
      unfold ThresholdOption.ofChar
      split
      case h_6 => rfl
      all_goals simp_all
    show some _ = some s
    rw [setCallbackValueCallbackConfiguration_refused now _ (.inr hnone),
      Function.update_eq_self]

/-- Values below 10, each second. -/
def belowTen : SetCallbackValueCallbackConfiguration .uint8 where
  channel := 0
  period := 1000
  valueHasToChange := false
  option := '<'
  min := ⟨10, by decide⟩
  max := .zero

/-- A poll of a byte-sized value. -/
def pollOf (now : ℕ) (value : CallbackValueT .uint8) : CallbackPoll .uint8 where
  uid := 1
  fid := 4
  valueCurrent := value
  nowElapsed := now
  nowStored := now
  sendPossible := true

/-- The first poll behind the configuration has a value that the threshold stops. -/
def stoppedFirst : List (CallbackEvent Unit .uint8) :=
  [.set () 0 belowTen, .handle () 0 (pollOf 1 ⟨20, by decide⟩)]

/-- The second one triggers two milliseconds behind the configuration. -/
theorem callback_triggers_stoppedFirst : ∃ s p,
    run (trackedStep none () 0) (callbackSystemInit, {}) stoppedFirst = some (s, p) ∧
      s.triggered none () 0 (pollOf 2 ⟨5, by decide⟩) = true := by
  refine ⟨_, _, rfl, ?_⟩
  refine ((callback_triggers none () 0 stoppedFirst _ _ rfl).1 (pollOf 2 ⟨5, by decide⟩) rfl
    ⟨by decide, by decide⟩).mpr ⟨by decide, trivial, fun h => absurd h (by decide), ?_⟩
  show (5 : ℤ) < 10
  decide

/-- Any value, and the longest period there is. -/
def longestPeriod : SetCallbackValueCallbackConfiguration .uint8 :=
  { belowTen with period := 0xFFFFFFFF, option := 'x' }

/-- A first poll that comes 1 ms behind this configuration is late: the time since then and
the period are 2^32 ms, and it does not trigger. -/
example : ∃ s p, run (trackedStep none () 0) (callbackSystemInit, {})
    [.set () 0 longestPeriod] = some (s, p) ∧
      p.Elapsed 0xFFFFFFFF 1 ∧ ¬ p.Timely 0xFFFFFFFF 1 ∧
      s.triggered none () 0 (pollOf 0 ⟨5, by decide⟩) = true ∧
      s.triggered none () 0 (pollOf 1 ⟨5, by decide⟩) = false :=
  ⟨_, _, rfl, trivial, by rintro ⟨-, hsum⟩; revert hsum; decide, rfl, rfl⟩

/-- The period is over only for the first poll behind a configuration. -/
def CallbackPast.ElapsedOrFirst (p : CallbackPast t) (period now : ℕ) : Prop :=
  match p.since with
  | .start => True
  | .configured time => p.polled = false ∨ period ≤ now - time
  | .triggered time => period ≤ now - time

/-- Later polls behind a configuration do not wait for the period. -/
theorem callback_not_first : ¬ ∀ (es : List (CallbackEvent Unit .uint8))
    (s : CallbackSystem Unit .uint8) (p : CallbackPast .uint8),
    run (trackedStep none () 0) (callbackSystemInit, {}) es = some (s, p) →
    ∀ poll : CallbackPoll .uint8, (s.buffers 0).isBuffered = false →
      p.Timely (inForce none () 0 es).period.toNat poll.nowElapsed →
      (s.triggered none () 0 poll = true ↔
        (inForce none () 0 es).period ≠ 0 ∧
          p.ElapsedOrFirst (inForce none () 0 es).period.toNat poll.nowElapsed ∧
          ((inForce none () 0 es).valueHasToChange = true → poll.valueCurrent ≠ p.value) ∧
          (inForce none () 0 es).Accepts poll.valueCurrent) := by
  intro htriggers
  have hpoll := htriggers stoppedFirst _ _ rfl (pollOf 2 ⟨5, by decide⟩) rfl
    ⟨by decide, by decide⟩
  obtain ⟨-, hfirst | hperiod, -⟩ := hpoll.mp rfl
  · exact absurd hfirst (by decide)
  · exact absurd hperiod (by decide)

end Bricklib2
