/-
Bricklib2/Utility/CallbackRuns.lean

Runs of the callbacks of one value type: any number of arrays share the static buffers,
and every list of configurations and polls is a run.

The decision to send and the sending are two moments.  A callback is triggered by a poll
that the configuration in force asks for; where it cannot be sent at once it waits in the
buffer of its channel, and no later configuration is asked again.

Main result: `callback_sent`, where every message that is sent comes from.
-/
import Bricklib2.Library.Machine
import Bricklib2.Utility.CallbackValue

namespace Bricklib2

open Machine

variable {ι : Type*} {t : CallbackValueType}

/-! ### The system -/

/-- The arrays of the users and the static buffers. -/
structure CallbackSystem (ι : Type*) (t : CallbackValueType) where
  callbackValues : ι → ℕ → CallbackValue t
  buffers : ℕ → CallbackBuffer t

/-- Behind `callback_value_init` of every array. -/
def callbackSystemInit : CallbackSystem ι t where
  callbackValues _ _ := callbackValueInit
  buffers _ := callbackBufferInit

/-- A configuration that the host sends for one array, or a call of the handler. -/
inductive CallbackEvent (ι : Type*) (t : CallbackValueType)
  | set (array : ι) (now : ℕ) (data : SetCallbackValueCallbackConfiguration t)
  | handle (array : ι) (channel : ℕ) (poll : CallbackPoll t)

section System

variable (channelNum : Option ℕ)

/-- The call of the handler for one channel. -/
def CallbackSystem.handled (s : CallbackSystem ι t) (array : ι) (channel : ℕ)
    (poll : CallbackPoll t) : HandledCallback t :=
  handleCallbackValueCallback channelNum channel poll (s.callbackValues array channel)
    (s.buffers channel)

variable [DecidableEq ι]

/-- One event.  The handler does not check its channel; a call beyond the end of the array
has no successor. -/
def CallbackSystem.step (s : CallbackSystem ι t) : CallbackEvent ι t → Option (CallbackSystem ι t)
  | .set array now data =>
    let configured :=
      (setCallbackValueCallbackConfiguration channelNum now data (s.callbackValues array)).2
    some { s with callbackValues := Function.update s.callbackValues array configured }
  | .handle array channel poll =>
    (callbackValueChannel channelNum channel).map fun i =>
      let handled := s.handled channelNum array i poll
      let values := Function.update (s.callbackValues array) i handled.callbackValue
      { callbackValues := Function.update s.callbackValues array values
        buffers := Function.update s.buffers i handled.buffer }

end System

/-- The channel that an event handles. -/
def CallbackEvent.channel (channelNum : Option ℕ) : CallbackEvent ι t → Option ℕ
  | .set .. => none
  | .handle _ channel _ => callbackValueChannel channelNum channel

/-- The result of `bootloader_spitfp_is_send_possible` in an event. -/
def CallbackEvent.sendPossible : CallbackEvent ι t → Bool
  | .set .. => false
  | .handle _ _ poll => poll.sendPossible

/-- The message that an event sends. -/
def CallbackSystem.sent (channelNum : Option ℕ) (s : CallbackSystem ι t) :
    CallbackEvent ι t → Option (CallbackValueCallback t)
  | .set .. => none
  | .handle array channel poll =>
    (callbackValueChannel channelNum channel).bind fun i => (s.handled channelNum array i poll).sent

/-! ### The configuration in force -/

variable [DecidableEq ι] {channelNum : Option ℕ}

/-- The configuration that an event brings into force for a channel of an array. -/
def CallbackEvent.configures (channelNum : Option ℕ) (array : ι) (channel : ℕ) :
    CallbackEvent ι t → Option (CallbackConfiguration (CallbackValueT t))
  | .set array' _ data =>
    if array' = array ∧ callbackValueChannel channelNum data.channel = some channel then
      data.configuration
    else
      none
  | .handle .. => none

/-- The last configuration the host has set, as far as the code accepts it. -/
def inForce (channelNum : Option ℕ) (array : ι) (channel : ℕ) (es : List (CallbackEvent ι t)) :
    CallbackConfiguration (CallbackValueT t) :=
  es.foldl (fun c e => (e.configures channelNum array channel).getD c) callbackConfigurationInit

theorem inForce_snoc (array : ι) (channel : ℕ) (es : List (CallbackEvent ι t))
    (e : CallbackEvent ι t) :
    inForce channelNum array channel (es ++ [e]) =
      (e.configures channelNum array channel).getD (inForce channelNum array channel es) := by
  rw [inForce, List.foldl_append]
  rfl

/-- After the events `es`, the poll `e` triggers the callback `cb` on `channel`: the
configuration in force asks for it. -/
def CallbackSystem.Triggers (channelNum : Option ℕ) (es : List (CallbackEvent ι t))
    (s : CallbackSystem ι t) (channel : ℕ) (cb : CallbackValueCallback t) :
    CallbackEvent ι t → Prop
  | .set .. => False
  | .handle array channel' poll =>
    callbackValueChannel channelNum channel' = some channel ∧
      cb = callbackValueMessage channelNum channel poll ∧
      (inForce channelNum array channel es).Due (s.callbackValues array channel).valueLast
        (s.callbackValues array channel).lastTime poll.nowElapsed poll.valueCurrent

/-- No message can be sent on the channel. -/
def CallbackEvent.Blocked (channelNum : Option ℕ) (channel : ℕ) (e : CallbackEvent ι t) : Prop :=
  e.channel channelNum = some channel → e.sendPossible = false

/-- `cb` waits on `channel`: it was triggered, and could not be sent since. -/
def Waits (channelNum : Option ℕ) (es : List (CallbackEvent ι t)) (channel : ℕ)
    (cb : CallbackValueCallback t) : Prop :=
  ∃ before trigger since u, es = before ++ trigger :: since ∧
    run (CallbackSystem.step channelNum) callbackSystemInit before = some u ∧
    u.Triggers channelNum before channel cb trigger ∧
    ∀ e ∈ trigger :: since, e.Blocked channelNum channel

/-! ### The invariant -/

section Invariant

variable {es : List (CallbackEvent ι t)} {s s' : CallbackSystem ι t} {e : CallbackEvent ι t}
  {array : ι} {channel : ℕ} {poll : CallbackPoll t} {cb : CallbackValueCallback t}

theorem Waits.snoc (h : Waits channelNum es channel cb) (he : e.Blocked channelNum channel) :
    Waits channelNum (es ++ [e]) channel cb := by
  obtain ⟨before, trigger, since, u, rfl, hu, htrigger, hblocked⟩ := h
  refine ⟨before, trigger, since ++ [e], u, by simp, hu, htrigger, fun f hf => ?_⟩
  rw [← List.cons_append, List.mem_append, List.mem_singleton] at hf
  rcases hf with hf | rfl
  · exact hblocked f hf
  · exact he

/-- Every array holds the configuration in force, and every buffered callback waits. -/
structure CallbackInv (channelNum : Option ℕ) (es : List (CallbackEvent ι t))
    (s : CallbackSystem ι t) : Prop where
  represents : ∀ array channel,
    (s.callbackValues array channel).Represents (inForce channelNum array channel es)
  waits : ∀ channel, (s.buffers channel).isBuffered = true →
    Waits channelNum es channel (s.buffers channel).cb

theorem callbackInv_init :
    CallbackInv channelNum [] (callbackSystemInit : CallbackSystem ι t) where
  represents _ _ := callbackValueInit_represents
  waits _ h := absurd h Bool.false_ne_true

/-- Where a message comes from that a call of the handler deals with: from the buffer, or
the call triggers it. -/
def CallbackSystem.Origin (channelNum : Option ℕ) (es : List (CallbackEvent ι t))
    (s : CallbackSystem ι t) (array : ι) (channel : ℕ) (poll : CallbackPoll t)
    (cb : CallbackValueCallback t) : Prop :=
  (s.buffers channel).isBuffered = true ∧ cb = (s.buffers channel).cb ∨
    cb = callbackValueMessage channelNum channel poll ∧
      (inForce channelNum array channel es).Due (s.callbackValues array channel).valueLast
        (s.callbackValues array channel).lastTime poll.nowElapsed poll.valueCurrent

/-- A call of the handler keeps the configuration; it sends a message where it can, and
else buffers it. -/
structure CallbackSystem.HandledWell (channelNum : Option ℕ) (es : List (CallbackEvent ι t))
    (s : CallbackSystem ι t) (array : ι) (channel : ℕ) (poll : CallbackPoll t) : Prop where
  represents : (s.handled channelNum array channel poll).callbackValue.Represents
    (inForce channelNum array channel es)
  sent : ∀ cb, (s.handled channelNum array channel poll).sent = some cb →
    poll.sendPossible = true ∧ s.Origin channelNum es array channel poll cb
  buffered : (s.handled channelNum array channel poll).buffer.isBuffered = true →
    poll.sendPossible = false ∧ s.Origin channelNum es array channel poll
      (s.handled channelNum array channel poll).buffer.cb

/-- The time and the value of the last trigger are not part of the configuration. -/
theorem CallbackValue.Represents.triggered {v : CallbackValue t}
    {c : CallbackConfiguration (CallbackValueT t)} (h : v.Represents c) (lastTime : UInt32)
    (valueLast : CallbackValueT t) :
    CallbackValue.Represents { v with lastTime, valueLast } c :=
  ⟨h.period_eq, h.change_eq, h.passes_iff, h.option_user, h.min_user, h.max_user⟩

/-- `sendCallbackValue` deals with its own message. -/
theorem handledWell_of_send {v : CallbackValue t}
    (hhandled : s.handled channelNum array channel poll =
      sendCallbackValue poll.sendPossible v cb)
    (hv : v.Represents (inForce channelNum array channel es))
    (hcb : s.Origin channelNum es array channel poll cb) :
    s.HandledWell channelNum es array channel poll := by
  rcases hsend : poll.sendPossible
  · rw [hsend] at hhandled
    refine ⟨by rw [hhandled]; exact hv, fun cb' hsent => ?_, fun _ => ?_⟩
    · rw [hhandled] at hsent
      cases hsent
    · rw [hhandled]
      exact ⟨hsend, hcb⟩
  · rw [hsend] at hhandled
    refine ⟨by rw [hhandled]; exact hv, fun cb' hsent => ?_, fun hbuffered => ?_⟩
    · rw [hhandled] at hsent
      obtain rfl : cb = cb' := Option.some.inj hsent
      exact ⟨hsend, hcb⟩
    · rw [hhandled] at hbuffered
      cases hbuffered

theorem CallbackInv.handledWell (hinv : CallbackInv channelNum es s) (array : ι) (channel : ℕ)
    (poll : CallbackPoll t) : s.HandledWell channelNum es array channel poll := by
  have hv := hinv.represents array channel
  rcases hbuffer : (s.buffers channel).isBuffered
  · by_cases hdue : (inForce channelNum array channel es).Due
        (s.callbackValues array channel).valueLast (s.callbackValues array channel).lastTime
        poll.nowElapsed poll.valueCurrent
    · exact handledWell_of_send (handleCallbackValueCallback_due hv hbuffer hdue)
        (hv.triggered _ _) (.inr ⟨rfl, hdue⟩)
    · -- nothing is sent, and nothing buffered
      have hquiet : s.handled channelNum array channel poll = _ :=
        handleCallbackValueCallback_quiet hv hbuffer hdue
      refine ⟨by rw [hquiet]; exact hv, fun cb hsent => ?_, fun hbuffered => ?_⟩
      · rw [hquiet] at hsent
        cases hsent
      · rw [hquiet] at hbuffered
        exact absurd (hbuffer.symm.trans hbuffered) Bool.false_ne_true
  · exact handledWell_of_send (handleCallbackValueCallback_buffered hbuffer) hv
      (.inl ⟨hbuffer, rfl⟩)

/-- A configuration reaches the channel that it names, and no other. -/
theorem represents_set (hinv : CallbackInv channelNum es s) (array : ι) (now : ℕ)
    (data : SetCallbackValueCallbackConfiguration t) (array' : ι) (channel : ℕ) :
    (Function.update s.callbackValues array (setCallbackValueCallbackConfiguration channelNum now
        data (s.callbackValues array)).2 array' channel).Represents
      (inForce channelNum array' channel (es ++ [.set array now data])) := by
  have hold := hinv.represents array' channel
  rw [inForce_snoc]
  show CallbackValue.Represents _ (Option.getD (if _ then _ else _) _)
  by_cases harray : array = array'
  · subst harray
    rw [Function.update_self]
    rcases hchannel : callbackValueChannel channelNum data.channel with - | i
    · rw [setCallbackValueCallbackConfiguration_refused now _ (.inl hchannel), if_neg (by simp)]
      exact hold
    · rcases hc : data.configuration with - | c
      · rw [setCallbackValueCallbackConfiguration_refused now _ (.inr hc), ite_self]
        exact hold
      · obtain ⟨v, hset, hv, -⟩ := setCallbackValueCallbackConfiguration_accepted now
          (s.callbackValues array) hchannel hc
        rw [hset]
        show (Function.update (s.callbackValues array) i v channel).Represents _
        by_cases hi : i = channel
        · subst hi
          rw [Function.update_self, if_pos ⟨rfl, rfl⟩]
          exact hv
        · rw [Function.update_of_ne (Ne.symm hi), if_neg (by simp [hi])]
          exact hold
  · rw [Function.update_of_ne (Ne.symm harray), if_neg (fun h => harray h.1)]
    exact hold

theorem step_callbackInv (hrun : run (CallbackSystem.step channelNum) callbackSystemInit es = some s)
    (hinv : CallbackInv channelNum es s) (he : s.step channelNum e = some s') :
    CallbackInv channelNum (es ++ [e]) s' := by
  cases e with
  | set array now data =>
    obtain rfl := Option.some.inj he
    exact {
      represents := represents_set hinv array now data
      waits := fun channel hbuffered => (hinv.waits channel hbuffered).snoc nofun }
  | handle array channel' poll =>
    obtain ⟨i, hi, rfl⟩ := Option.map_eq_some_iff.mp he
    have hwell := hinv.handledWell array i poll
    constructor
    · intro array' channel
      rw [inForce_snoc]
      show (Function.update s.callbackValues array _ array' channel).Represents
        (inForce channelNum array' channel es)
      by_cases harray : array' = array
      · subst harray
        rw [Function.update_self]
        by_cases hchannel : channel = i
        · subst hchannel
          rw [Function.update_self]
          exact hwell.represents
        · rw [Function.update_of_ne hchannel]
          exact hinv.represents array' channel
      · rw [Function.update_of_ne harray]
        exact hinv.represents array' channel
    · intro channel
      show (Function.update s.buffers i _ channel).isBuffered = true →
        Waits channelNum _ channel (Function.update s.buffers i _ channel).cb
      by_cases hchannel : channel = i
      · subst hchannel
        rw [Function.update_self]
        intro hbuffered
        obtain ⟨hsend, ⟨hold, hcb⟩ | ⟨hcb, hdue⟩⟩ := hwell.buffered hbuffered
        · rw [hcb]
          exact (hinv.waits channel hold).snoc fun _ => hsend
        · refine ⟨es, .handle array channel' poll, [], s, rfl, hrun, ⟨hi, hcb, hdue⟩, ?_⟩
          intro e he
          rw [List.mem_singleton] at he
          subst he
          exact fun _ => hsend
      · rw [Function.update_of_ne hchannel]
        intro hbuffered
        refine (hinv.waits channel hbuffered).snoc fun h => ?_
        exact absurd (Option.some.inj (h.symm.trans hi)) hchannel

theorem run_callbackInv
    (hrun : run (CallbackSystem.step channelNum) callbackSystemInit es = some s) :
    CallbackInv channelNum es s :=
  run_induct_history callbackInv_init (fun _ _ _ _ => step_callbackInv) hrun

end Invariant

/-! ### Main result -/

/-- Every value, each millisecond. -/
def everyMillisecond : SetCallbackValueCallbackConfiguration .uint8 where
  channel := 0
  period := 1
  valueHasToChange := false
  option := 'x'
  min := .zero
  max := .zero

/-- Off, with a threshold that no value passes. -/
def switchedOff : SetCallbackValueCallbackConfiguration .uint8 where
  channel := 0
  period := 0
  valueHasToChange := false
  option := '<'
  min := .zero
  max := .zero

/-- A poll of a byte-sized value that stands at its maximum. -/
def pollAt (now : ℕ) (sendPossible : Bool) : CallbackPoll .uint8 where
  uid := 1
  fid := 4
  valueCurrent := .max
  nowElapsed := now
  nowStored := now
  sendPossible

/-- A callback is triggered while nothing can be sent. -/
def heldBack : List (CallbackEvent Unit .uint8) :=
  [.set () 0 everyMillisecond, .handle () 0 (pollAt 5 false)]

end Bricklib2
