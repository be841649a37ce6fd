/-
Bricklib2/Utility/CallbackValue.lean

Callbacks of a value (callback_value.h): the host sets a period, a threshold and whether
the value has to change, and `handle_callback_value_callback` polls the value and sends it
when it is due.

The header is compiled once for each value type.  All its users of one type share one
static buffer per channel, in which a callback waits until it can be sent.

What the host asks for is a `CallbackConfiguration`; the code keeps '<' and '>' as an
outside-threshold with the limits of the type (`Represents`).

Main result: `handleCallbackValueCallback_due` and `handleCallbackValueCallback_quiet`,
with nothing buffered a callback is triggered exactly when the configuration asks for it.
-/
import Bricklib2.Hal.SystemTimer
import Bricklib2.Protocols.Tfp
import Mathlib.Logic.Function.Basic
import Mathlib.Order.Basic

namespace Bricklib2

/-! ### Configurations -/

/-- The threshold options of a callback. -/
inductive ThresholdOption
  | off
  | outside
  | inside
  | smaller
  | greater
  deriving DecidableEq

/-- A callback configuration as the host means it. -/
structure CallbackConfiguration (V : Type*) where
  period : UInt32
  valueHasToChange : Bool
  option : ThresholdOption
  min : V
  max : V
  deriving DecidableEq

section Accepts

variable {V : Type*} [LinearOrder V]

/-- The values that the threshold lets through. -/
def ThresholdOption.Accepts (min max value : V) : ThresholdOption → Prop
  | .off => True
  | .outside => value < min ∨ max < value
  | .inside => min ≤ value ∧ value ≤ max
  | .smaller => value < min
  | .greater => min < value

/-- The threshold lets a value pass. -/
def CallbackConfiguration.Accepts (c : CallbackConfiguration V) (value : V) : Prop :=
  c.option.Accepts c.min c.max value

instance (min max value : V) :
    ∀ option : ThresholdOption, Decidable (option.Accepts min max value)
  | .off => inferInstanceAs (Decidable True)
  | .outside => inferInstanceAs (Decidable (_ ∨ _))
  | .inside => inferInstanceAs (Decidable (_ ∧ _))
  | .smaller => inferInstanceAs (Decidable (_ < _))
  | .greater => inferInstanceAs (Decidable (_ < _))

instance (c : CallbackConfiguration V) (value : V) : Decidable (c.Accepts value) :=
  inferInstanceAs (Decidable (c.option.Accepts c.min c.max value))

/-- A poll at time `now` asks for a callback: the callback is on, its period is over, the
value has changed where it has to, and the threshold lets it pass. -/
structure CallbackConfiguration.Due (c : CallbackConfiguration V) (valueLast : V)
    (lastTime : UInt32) (now : ℕ) (value : V) : Prop where
  on : c.period ≠ 0
  elapsed : systemTimerIsTimeElapsedMs now lastTime.toNat c.period.toNat = true
  changed : c.valueHasToChange = true → value ≠ valueLast
  accepts : c.Accepts value

end Accepts

/-! ### Value types -/

/-- `CALLBACK_VALUE_TYPE` -/
inductive CallbackValueType
  | int8
  | uint8
  | int16
  | uint16
  | int32
  | uint32
  deriving DecidableEq

/-- `CALLBACK_VALUE_MIN` -/
def callbackValueMin : CallbackValueType → ℤ
  | .int8 => -2 ^ 7
  | .int16 => -2 ^ 15
  | .int32 => -2 ^ 31
  | .uint8 | .uint16 | .uint32 => 0

/-- `CALLBACK_VALUE_MAX` -/
def callbackValueMax : CallbackValueType → ℤ
  | .int8 => 2 ^ 7 - 1
  | .uint8 => 2 ^ 8 - 1
  | .int16 => 2 ^ 15 - 1
  | .uint16 => 2 ^ 16 - 1
  | .int32 => 2 ^ 31 - 1
  | .uint32 => 2 ^ 32 - 1

/-- `sizeof(CALLBACK_VALUE_T)` -/
def callbackValueSize : CallbackValueType → ℕ
  | .int8 | .uint8 => 1
  | .int16 | .uint16 => 2
  | .int32 | .uint32 => 4

/-- `CALLBACK_VALUE_T` -/
abbrev CallbackValueT (t : CallbackValueType) :=
  { value : ℤ // callbackValueMin t ≤ value ∧ value ≤ callbackValueMax t }

namespace CallbackValueT

variable {t : CallbackValueType}

instance : DecidableLE (CallbackValueT t) := fun value limit => Int.decLe value.1 limit.1

instance : DecidableLT (CallbackValueT t) := fun value limit => Int.decLt value.1 limit.1

/-- The least value of the type. -/
def min : CallbackValueT t := ⟨callbackValueMin t, le_refl _, by cases t <;> decide⟩

/-- The greatest value of the type. -/
def max : CallbackValueT t := ⟨callbackValueMax t, by cases t <;> decide, le_refl _⟩

/-- The value after the initialisation. -/
def zero : CallbackValueT t := ⟨0, by cases t <;> decide⟩

theorem not_lt_min (value : CallbackValueT t) : ¬ value < min := not_lt.mpr value.2.1

theorem not_max_lt (value : CallbackValueT t) : ¬ max < value := not_lt.mpr value.2.2

end CallbackValueT

/-! ### Data -/

section Code

variable {t : CallbackValueType}

/-- `CallbackValue`, without its getter: what that returns is part of a poll. -/
structure CallbackValue (t : CallbackValueType) where
  valueLast : CallbackValueT t
  period : UInt32
  lastTime : UInt32
  valueHasToChange : Bool
  thresholdMin : CallbackValueT t
  thresholdMax : CallbackValueT t
  thresholdOption : Char
  thresholdMinUser : CallbackValueT t
  thresholdMaxUser : CallbackValueT t
  thresholdOptionUser : Char

/-- `callback_value_init`, for one channel. -/
def callbackValueInit : CallbackValue t where
  valueLast := .max
  period := 0
  lastTime := 0
  valueHasToChange := false
  thresholdMin := .zero
  thresholdMax := .zero
  thresholdOption := 'x'
  thresholdMinUser := .zero
  thresholdMaxUser := .zero
  thresholdOptionUser := 'x'

/-- `SetCallbackValueCallbackConfiguration` -/
structure SetCallbackValueCallbackConfiguration (t : CallbackValueType) where
  channel : ℕ
  period : UInt32
  valueHasToChange : Bool
  option : Char
  min : CallbackValueT t
  max : CallbackValueT t

/-- `CallbackValue_Callback` -/
structure CallbackValueCallback (t : CallbackValueType) where
  header : List UInt8
  channel : Option ℕ
  value : CallbackValueT t
  deriving DecidableEq

/-- `is_buffered_` and `cb_` of one channel. -/
structure CallbackBuffer (t : CallbackValueType) where
  isBuffered : Bool
  cb : CallbackValueCallback t

/-- The static variables at the start. -/
def callbackBufferInit : CallbackBuffer t where
  isBuffered := false
  cb := { header := [], channel := none, value := .zero }

/-- `BootloaderHandleMessageResponse` -/
inductive BootloaderHandleMessageResponse
  | newMessage
  | empty
  | notSupported
  | invalidParameter
  | none
  deriving DecidableEq

/-- The element of the array that a channel selects.  Without `CALLBACK_VALUE_CHANNEL_NUM`
there is one, and no channel is read. -/
def callbackValueChannel (channelNum : Option ℕ) (channel : ℕ) : Option ℕ :=
  match channelNum with
  | none => some 0
  | some num => if num ≤ channel then none else some channel

/-! ### Functions -/

/-- `threshold_option`, `threshold_min` and `threshold_max` for the option of the host. -/
def callbackValueThreshold (data : SetCallbackValueCallbackConfiguration t) :
    Option (Char × CallbackValueT t × CallbackValueT t) :=
  if data.option = 'o' ∨ data.option = 'i' ∨ data.option = 'x' then
    some (data.option, data.min, data.max)
  else if data.option = '<' then
    some ('o', data.min, .max)
  else if data.option = '>' then
    some ('o', .min, data.min)
  else
    none

/-- The fields that `set_callback_value_callback_configuration` writes. -/
def configureCallbackValue (now : ℕ) (data : SetCallbackValueCallbackConfiguration t)
    (option : Char) (min max : CallbackValueT t) (callbackValue : CallbackValue t) :
    CallbackValue t :=
  { callbackValue with
    thresholdOption := option
    thresholdMin := min
    thresholdMax := max
    thresholdOptionUser := data.option
    thresholdMinUser := data.min
    thresholdMaxUser := data.max
    period := data.period
    valueHasToChange := data.valueHasToChange
    -- so that the first callback is due at once
    lastTime := UInt32.ofNat (systemTimerGetMs now) - data.period }

/-- `set_callback_value_callback_configuration` -/
def setCallbackValueCallbackConfiguration (channelNum : Option ℕ) (now : ℕ)
    (data : SetCallbackValueCallbackConfiguration t) (callbackValues : ℕ → CallbackValue t) :
    BootloaderHandleMessageResponse × (ℕ → CallbackValue t) :=
  match callbackValueChannel channelNum data.channel with
  | none => (.invalidParameter, callbackValues)
  | some channel =>
    match callbackValueThreshold data with
    | none => (.invalidParameter, callbackValues)
    | some (option, min, max) =>
      (.empty, Function.update callbackValues channel
        (configureCallbackValue now data option min max (callbackValues channel)))

/-- What the surroundings decide during one call: the arguments, the value, the clock when
it is compared and when it is stored, and whether a message can be sent. -/
structure CallbackPoll (t : CallbackValueType) where
  uid : ℕ
  fid : ℕ
  valueCurrent : CallbackValueT t
  nowElapsed : ℕ
  nowStored : ℕ
  sendPossible : Bool

/-- What a call returns and leaves, and the message it sends. -/
structure HandledCallback (t : CallbackValueType) where
  result : Bool
  callbackValue : CallbackValue t
  buffer : CallbackBuffer t
  sent : Option (CallbackValueCallback t)

/-- The end of `handle_callback_value_callback`: send, or keep for the next call. -/
def sendCallbackValue (sendPossible : Bool) (callbackValue : CallbackValue t)
    (cb : CallbackValueCallback t) : HandledCallback t :=
  if sendPossible then
    { result := true, callbackValue, buffer := { isBuffered := false, cb }, sent := some cb }
  else
    { result := false, callbackValue, buffer := { isBuffered := true, cb }, sent := none }

/-- The header that `tfp_make_default_header` writes. -/
def callbackValueHeader (channelNum : Option ℕ) (t : CallbackValueType) (uid fid : ℕ) :
    List UInt8 :=
  tfpMakeDefaultHeader [] uid
    (tfpHeaderSize + (if channelNum.isSome then 1 else 0) + callbackValueSize t) fid

/-- `handle_callback_value_callback` -/
def handleCallbackValueCallback (channelNum : Option ℕ) (channel : ℕ) (poll : CallbackPoll t)
    (callbackValue : CallbackValue t) (buffer : CallbackBuffer t) : HandledCallback t :=
  if buffer.isBuffered then
    sendCallbackValue poll.sendPossible callbackValue buffer.cb
  else
    let value := poll.valueCurrent
    let cb := { buffer.cb with header := callbackValueHeader channelNum t poll.uid poll.fid }
    let quiet : HandledCallback t :=
      { result := false, callbackValue, buffer := { buffer with cb }, sent := none }
    if callbackValue.period = 0 ∨ systemTimerIsTimeElapsedMs poll.nowElapsed
        callbackValue.lastTime.toNat callbackValue.period.toNat = false then
      quiet
    else if callbackValue.valueHasToChange = true ∧ value = callbackValue.valueLast then
      quiet
    else if callbackValue.thresholdOption = 'o' ∧
        (callbackValue.thresholdMin ≤ value ∧ value ≤ callbackValue.thresholdMax) then
      quiet
    else if callbackValue.thresholdOption = 'i' ∧
        (value < callbackValue.thresholdMin ∨ callbackValue.thresholdMax < value) then
      quiet
    else
      sendCallbackValue poll.sendPossible
        { callbackValue with
          lastTime := UInt32.ofNat (systemTimerGetMs poll.nowStored)
          valueLast := value }
        { cb with channel := channelNum.map fun _ => channel, value := value }

/-! ### What the code keeps of a configuration -/

/-- The option a character stands for. -/
def ThresholdOption.ofChar : Char → Option ThresholdOption
  | 'x' => some .off
  | 'o' => some .outside
  | 'i' => some .inside
  | '<' => some .smaller
  | '>' => some .greater
  | _ => none

/-- The configuration a message asks for. -/
def SetCallbackValueCallbackConfiguration.configuration
    (data : SetCallbackValueCallbackConfiguration t) :
    Option (CallbackConfiguration (CallbackValueT t)) :=
  (ThresholdOption.ofChar data.option).map fun option =>
    { period := data.period
      valueHasToChange := data.valueHasToChange
      option
      min := data.min
      max := data.max }

/-- The configuration after the start. -/
def callbackConfigurationInit : CallbackConfiguration (CallbackValueT t) where
  period := 0
  valueHasToChange := false
  option := .off
  min := .zero
  max := .zero

/-- Neither of the two threshold tests stops the value. -/
structure ThresholdPasses (option : Char) (min max value : CallbackValueT t) : Prop where
  outside : ¬ (option = 'o' ∧ (min ≤ value ∧ value ≤ max))
  inside : ¬ (option = 'i' ∧ (value < min ∨ max < value))

/-- The fields stand for the configuration: the internal threshold lets the same values
pass, and the user's view is the configuration itself. -/
structure CallbackValue.Represents (v : CallbackValue t)
    (c : CallbackConfiguration (CallbackValueT t)) : Prop where
  period_eq : v.period = c.period
  change_eq : v.valueHasToChange = c.valueHasToChange
  passes_iff : ∀ value,
    ThresholdPasses v.thresholdOption v.thresholdMin v.thresholdMax value ↔ c.Accepts value
  option_user : ThresholdOption.ofChar v.thresholdOptionUser = some c.option
  min_user : v.thresholdMinUser = c.min
  max_user : v.thresholdMaxUser = c.max

section Threshold

variable {min max value : CallbackValueT t}

theorem thresholdPasses_off : ThresholdPasses 'x' min max value :=
  ⟨fun h => absurd h.1 (by decide), fun h => absurd h.1 (by decide)⟩

theorem thresholdPasses_outside :
    ThresholdPasses 'o' min max value ↔ value < min ∨ max < value := by
  constructor
  · rintro ⟨hout, -⟩
    rcases lt_or_ge value min with hlt | hge
    · exact .inl hlt
    · exact .inr (not_le.mp fun hle => hout ⟨rfl, hge, hle⟩)
  · rintro hout
    refine ⟨fun h => ?_, fun h => absurd h.1 (by decide)⟩
    rcases hout with hlt | hlt
    · exact not_le.mpr hlt h.2.1
    · exact not_le.mpr hlt h.2.2

theorem thresholdPasses_inside :
    ThresholdPasses 'i' min max value ↔ min ≤ value ∧ value ≤ max := by
  constructor
  · rintro ⟨-, hin⟩
    exact ⟨not_lt.mp fun hlt => hin ⟨rfl, .inl hlt⟩, not_lt.mp fun hlt => hin ⟨rfl, .inr hlt⟩⟩
  · rintro ⟨hmin, hmax⟩
    refine ⟨fun h => absurd h.1 (by decide), fun h => ?_⟩
    rcases h.2 with hlt | hlt
    · exact not_lt.mpr hmin hlt
    · exact not_lt.mpr hmax hlt

end Threshold

theorem callbackValueInit_represents :
    (callbackValueInit : CallbackValue t).Represents callbackConfigurationInit where
  period_eq := rfl
  change_eq := rfl
  passes_iff _ := iff_of_true thresholdPasses_off trivial
  option_user := rfl
  min_user := rfl
  max_user := rfl

/-- The threshold set for an option lets the values pass that the option accepts; for '<'
and '>' no value is beyond the limit of its type. -/
theorem callbackValueThreshold_accepts {data : SetCallbackValueCallbackConfiguration t}
    {c : CallbackConfiguration (CallbackValueT t)} (h : data.configuration = some c) :
    ∃ option min max, callbackValueThreshold data = some (option, min, max) ∧
      ∀ value, ThresholdPasses option min max value ↔ c.Accepts value := by
  obtain ⟨o, ho, rfl⟩ := Option.map_eq_some_iff.mp h
  show ∃ option min max, callbackValueThreshold data = some (option, min, max) ∧
    ∀ value, ThresholdPasses option min max value ↔ o.Accepts data.min data.max value
  unfold callbackValueThreshold
  unfold ThresholdOption.ofChar at ho
  split at ho
  case h_1 hx =>
    obtain rfl := Option.some.inj ho
    rw [hx]
    exact ⟨_, _, _, rfl, fun _ => iff_of_true thresholdPasses_off trivial⟩
  case h_2 hx =>
    obtain rfl := Option.some.inj ho
    rw [hx]
    exact ⟨_, _, _, rfl, fun _ => thresholdPasses_outside⟩
  case h_3 hx =>
    obtain rfl := Option.some.inj ho
    rw [hx]
    exact ⟨_, _, _, rfl, fun _ => thresholdPasses_inside⟩
  case h_4 hx =>
    obtain rfl := Option.some.inj ho
    rw [hx]
    refine ⟨_, _, _, rfl, fun value => thresholdPasses_outside.trans ?_⟩
    exact or_iff_left value.not_max_lt
  case h_5 hx =>
    obtain rfl := Option.some.inj ho
    rw [hx]
    refine ⟨_, _, _, rfl, fun value => thresholdPasses_outside.trans ?_⟩
    exact or_iff_right value.not_lt_min
  case h_6 => exact absurd ho (by simp)

theorem callbackValueThreshold_none {data : SetCallbackValueCallbackConfiguration t}
    (h : data.configuration = none) : callbackValueThreshold data = none := by
  have ho : ThresholdOption.ofChar data.option = none := Option.map_eq_none_iff.mp h
  have hne : ∀ o, ThresholdOption.ofChar o ≠ none → data.option ≠ o := by
    rintro o ho' rfl
    exact ho' ho
  unfold callbackValueThreshold
  rw [if_neg, if_neg (hne '<' (by decide)), if_neg (hne '>' (by decide))]
  rintro (h' | h' | h')
  · exact hne 'o' (by decide) h'
  · exact hne 'i' (by decide) h'
  · exact hne 'x' (by decide) h'

/-! ### What the functions do -/

section Functions

variable {channelNum : Option ℕ} {channel : ℕ} {data : SetCallbackValueCallbackConfiguration t}
  {c : CallbackConfiguration (CallbackValueT t)} {v : CallbackValue t}
  {buffer : CallbackBuffer t} {poll : CallbackPoll t}

/-- A configuration that is accepted is the one in force from then on. -/
theorem setCallbackValueCallbackConfiguration_accepted (now : ℕ)
    (callbackValues : ℕ → CallbackValue t)
    (hchannel : callbackValueChannel channelNum data.channel = some channel)
    (hc : data.configuration = some c) :
    ∃ v, setCallbackValueCallbackConfiguration channelNum now data callbackValues =
        (.empty, Function.update callbackValues channel v) ∧
      v.Represents c ∧ v.valueLast = (callbackValues channel).valueLast ∧
      v.lastTime = UInt32.ofNat (systemTimerGetMs now) - c.period := by
  obtain ⟨option, min, max, hthreshold, haccepts⟩ := callbackValueThreshold_accepts hc
  obtain ⟨o, ho, rfl⟩ := Option.map_eq_some_iff.mp hc
  refine ⟨configureCallbackValue now data option min max (callbackValues channel), ?_, ?_, rfl,
    rfl⟩
  · rw [setCallbackValueCallbackConfiguration, hchannel]
    show (match callbackValueThreshold data with
      | none => _
      | some (option, min, max) => _) = _
    rw [hthreshold]
  · exact ⟨rfl, rfl, haccepts, ho, rfl, rfl⟩

/-- Any other one is refused. -/
theorem setCallbackValueCallbackConfiguration_refused (now : ℕ)
    (callbackValues : ℕ → CallbackValue t)
    (h : callbackValueChannel channelNum data.channel = none ∨ data.configuration = none) :
    setCallbackValueCallbackConfiguration channelNum now data callbackValues =
      (.invalidParameter, callbackValues) := by
  unfold setCallbackValueCallbackConfiguration
  rcases hchannel : callbackValueChannel channelNum data.channel with - | channel
  · rfl
  · have hc : data.configuration = none :=
      h.resolve_left fun hnone => by rw [hnone] at hchannel; cases hchannel
    rw [callbackValueThreshold_none hc]

/-- The message of a callback. -/
def callbackValueMessage (channelNum : Option ℕ) (channel : ℕ) (poll : CallbackPoll t) :
    CallbackValueCallback t where
  header := callbackValueHeader channelNum t poll.uid poll.fid
  channel := channelNum.map fun _ => channel
  value := poll.valueCurrent

/-- A callback that is due is triggered. -/
theorem handleCallbackValueCallback_due (hv : v.Represents c)
    (hbuffer : buffer.isBuffered = false)
    (hdue : c.Due v.valueLast v.lastTime poll.nowElapsed poll.valueCurrent) :
    handleCallbackValueCallback channelNum channel poll v buffer =
      sendCallbackValue poll.sendPossible
        { v with
          lastTime := UInt32.ofNat (systemTimerGetMs poll.nowStored)
          valueLast := poll.valueCurrent }
        (callbackValueMessage channelNum channel poll) := by
  have hpasses := (hv.passes_iff poll.valueCurrent).mpr hdue.accepts
  unfold handleCallbackValueCallback
  rw [if_neg (by simp [hbuffer]), if_neg, if_neg, if_neg hpasses.outside, if_neg hpasses.inside]
  · rfl
  · rintro ⟨hchange, hsame⟩
    exact hdue.changed (hv.change_eq ▸ hchange) hsame
  · rw [hv.period_eq]
    rintro (hoff | helapsed)
    · exact hdue.on hoff
    · exact absurd (hdue.elapsed.symm.trans helapsed) (by decide)

/-- One that is not leaves everything but the header of the buffer. -/
theorem handleCallbackValueCallback_quiet (hv : v.Represents c)
    (hbuffer : buffer.isBuffered = false)
    (hquiet : ¬ c.Due v.valueLast v.lastTime poll.nowElapsed poll.valueCurrent) :
    handleCallbackValueCallback channelNum channel poll v buffer =
      { result := false, callbackValue := v,
        buffer := { buffer with cb := { buffer.cb with
          header := callbackValueHeader channelNum t poll.uid poll.fid } },
        sent := none } := by
  unfold handleCallbackValueCallback
  rw [if_neg (by simp [hbuffer])]
  dsimp only
  split_ifs with hoff hsame hout hin
  · rfl
  · rfl
  · rfl
  · rfl
  · refine absurd ?_ hquiet
    rw [hv.period_eq, not_or] at hoff
    refine ⟨hoff.1, Bool.eq_true_of_not_eq_false hoff.2, fun hchange hlast => ?_,
      (hv.passes_iff poll.valueCurrent).mp ⟨hout, hin⟩⟩
    exact hsame ⟨hv.change_eq.trans hchange, hlast⟩

/-- What waits is sent as it is, or goes on waiting. -/
theorem handleCallbackValueCallback_buffered (hbuffer : buffer.isBuffered = true) :
    handleCallbackValueCallback channelNum channel poll v buffer =
      sendCallbackValue poll.sendPossible v buffer.cb := if_pos hbuffer

end Functions

end Code

end Bricklib2
