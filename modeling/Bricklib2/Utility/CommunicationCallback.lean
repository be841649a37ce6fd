/-
Bricklib2/Utility/CommunicationCallback.lean

The list of callback handlers (communication_callback.c).  A tick walks along the
array and rotates it while it walks: a handler that has sent a callback goes to the
end, so that in the next tick the others are asked first.

While a tick runs the array has three parts: the handlers that had nothing to send,
those not called yet, and those that sent (`tickLoop_parts`).

Main result: `callbacks_scheduled`.
-/
import Bricklib2.Hal.SystemTimer
import Bricklib2.Library.CString
import Bricklib2.Library.Machine

namespace Bricklib2

open CString Machine

variable {H : Type*}

/-! ### The code -/

/-- The static variables: `communication_callbacks` and `last_tick`. -/
structure CommunicationCallback (H : Type*) where
  callbacks : List H
  lastTick : ℕ := 0

/-- `for(i = cb_index; i < NUM - 1; i++) callbacks[i] = callbacks[i + 1];` -/
def shiftLoop : (rounds i : ℕ) → List H → Option (List H)
  | 0, _, callbacks => some callbacks
  | rounds + 1, i, callbacks => do
    let next ← callbacks[i + 1]?
    let callbacks ← store callbacks i next
    shiftLoop rounds (i + 1) callbacks

/-- The handler at `cbIndex` is moved to the end. -/
def moveToEnd (cbIndex : ℕ) (callbacks : List H) : Option (List H) := do
  let current ← callbacks[cbIndex]?
  let callbacks ← shiftLoop (callbacks.length - 1 - cbIndex) cbIndex callbacks
  store callbacks (callbacks.length - 1) current

/-- The loop of a tick from its round `k` on; `returns` has the results of the calls.
The second list has the handlers that were called. -/
def tickLoop (returns : ℕ → Bool) :
    (rounds k cbIndex : ℕ) → List H → List H → Option (List H × List H)
  | 0, _, _, callbacks, called => some (callbacks, called)
  | rounds + 1, k, cbIndex, callbacks, called => do
    let handler ← callbacks[cbIndex]?
    let called := called ++ [handler]
    if returns k then
      let callbacks ← moveToEnd cbIndex callbacks
      tickLoop returns rounds (k + 1) cbIndex callbacks called
    else
      tickLoop returns rounds (k + 1) (cbIndex + 1) callbacks called

/-- What a call of `communication_callback_tick` meets: the clock when it is compared and
when it is stored, `COMMUNICATION_CALLBACK_TICK_WAIT_MS`, and the results of the handlers. -/
structure CallbackTick where
  nowElapsed : ℕ
  nowStored : ℕ
  tickWaitMs : ℕ
  returns : ℕ → Bool

/-- `communication_callback_tick`, with the handlers that it calls. -/
def communicationCallbackTick (tick : CallbackTick) (s : CommunicationCallback H) :
    Option (CommunicationCallback H × List H) :=
  if systemTimerIsTimeElapsedMs tick.nowElapsed s.lastTick tick.tickWaitMs = false then
    some (s, [])
  else
    (tickLoop tick.returns s.callbacks.length 0 0 s.callbacks []).map fun (callbacks, called) =>
      ({ callbacks, lastTick := systemTimerGetMs tick.nowStored }, called)

/-- The ticks of a run. -/
def CommunicationCallback.step (s : CommunicationCallback H) (tick : CallbackTick) :
    Option (CommunicationCallback H) :=
  (communicationCallbackTick tick s).map Prod.fst

/-! ### Handlers by what they returned -/

/-- The handlers from number `k` on whose call returned `result`. -/
def returning (returns : ℕ → Bool) (result : Bool) (k : ℕ) (handlers : List H) : List H :=
  ((handlers.zipIdx k).filter fun h => returns h.2 == result).map Prod.fst

section Returning

variable {returns : ℕ → Bool} {result : Bool} {k : ℕ} {h : H} {handlers : List H}

@[simp] theorem returning_nil : returning returns result k ([] : List H) = [] := rfl

theorem returning_cons_of_eq (hr : returns k = result) :
    returning returns result k (h :: handlers) =
      h :: returning returns result (k + 1) handlers := by
  simp [returning, hr]

theorem returning_cons_of_ne (hr : returns k ≠ result) :
    returning returns result k (h :: handlers) = returning returns result (k + 1) handlers := by
  simp [returning, hr]

/-- Every handler returned one of the two. -/
theorem returning_perm (returns : ℕ → Bool) (k : ℕ) (handlers : List H) :
    (returning returns false k handlers ++ returning returns true k handlers).Perm handlers := by
  induction handlers generalizing k with
  | nil => exact List.Perm.nil
  | cons h handlers ih =>
    cases hr : returns k with
    | false =>
      rw [returning_cons_of_eq hr, returning_cons_of_ne (by simp [hr])]
      exact (ih (k + 1)).cons h
    | true =>
      rw [returning_cons_of_ne (by simp [hr]), returning_cons_of_eq hr]
      exact List.perm_middle.trans ((ih (k + 1)).cons h)

end Returning

/-! ### The rotation -/

/-- Every handler behind `cbIndex` moves one place to the front; the last place still has
the last handler. -/
theorem shiftLoop_eq (front : List H) (h : H) (rest : List H) :
    ∃ last, shiftLoop rest.length front.length (front ++ h :: rest) =
      some (front ++ rest ++ [last]) := by
  induction rest generalizing front h with
  | nil => exact ⟨h, by rw [List.append_nil]; rfl⟩
  | cons next rest ih =>
    obtain ⟨last, hlast⟩ := ih (front ++ [next]) next
    refine ⟨last, ?_⟩
    have hget : (front ++ h :: next :: rest)[front.length + 1]? = some next := by simp
    have hstore : store (front ++ h :: next :: rest) front.length next =
        some (front ++ [next] ++ next :: rest) := by simp [store]
    rw [List.length_append, List.length_singleton] at hlast
    rw [List.length_cons, shiftLoop, hget, Option.bind_eq_bind, Option.bind_some, hstore]
    refine hlast.trans ?_
    rw [List.append_assoc front]
    rfl

theorem moveToEnd_eq (front : List H) (h : H) (rest : List H) :
    moveToEnd front.length (front ++ h :: rest) = some (front ++ rest ++ [h]) := by
  obtain ⟨last, hlast⟩ := shiftLoop_eq front h rest
  have hget : (front ++ h :: rest)[front.length]? = some h := by simp
  have hrounds : (front ++ h :: rest).length - 1 - front.length = rest.length := by
    rw [List.length_append, List.length_cons]
    omega
  rw [moveToEnd, hget, Option.bind_eq_bind, Option.bind_some, hrounds, hlast]
  have hlength : (front ++ rest ++ [last]).length - 1 = (front ++ rest).length := by simp
  show store (front ++ rest ++ [last]) _ h = _
  rw [hlength]
  simp [store]

/-- **The loop of a tick.**  `quiet` and `sent` are the handlers called before, `rest` are
those not called yet. -/
theorem tickLoop_parts (returns : ℕ → Bool) (k : ℕ) (quiet rest sent called : List H) :
    tickLoop returns rest.length k quiet.length (quiet ++ rest ++ sent) called =
      some (quiet ++ returning returns false k rest ++ (sent ++ returning returns true k rest),
        called ++ rest) := by
  induction rest generalizing k quiet sent called with
  | nil => simp [tickLoop]
  | cons h rest ih =>
    have hget : (quiet ++ h :: rest ++ sent)[quiet.length]? = some h := by simp
    rw [List.length_cons, tickLoop, hget, Option.bind_eq_bind, Option.bind_some]
    cases hr : returns k with
    | false =>
      -- the handler stays where it is, and joins the quiet ones
      rw [if_neg Bool.false_ne_true, returning_cons_of_eq hr, returning_cons_of_ne (by simp [hr])]
      have hrest := ih (k + 1) (quiet ++ [h]) sent (called ++ [h])
      rw [List.length_append, List.length_singleton] at hrest
      simpa using hrest
    | true =>
      -- the next handler moves to its place
      rw [if_pos rfl, returning_cons_of_ne (by simp [hr]), returning_cons_of_eq hr,
        List.append_assoc, List.cons_append, moveToEnd_eq]
      have hrest := ih (k + 1) quiet (sent ++ [h]) (called ++ [h])
      simpa using hrest

theorem tickLoop_eq (returns : ℕ → Bool) (callbacks : List H) :
    tickLoop returns callbacks.length 0 0 callbacks [] =
      some (returning returns false 0 callbacks ++ returning returns true 0 callbacks,
        callbacks) := by
  simpa using tickLoop_parts returns 0 [] callbacks [] []

/-! ### Main result -/

theorem communicationCallbackTick_due {tick : CallbackTick} {s : CommunicationCallback H}
    (hdue : systemTimerIsTimeElapsedMs tick.nowElapsed s.lastTick tick.tickWaitMs = true) :
    communicationCallbackTick tick s = some
      ({ callbacks := returning tick.returns false 0 s.callbacks ++
            returning tick.returns true 0 s.callbacks
         lastTick := systemTimerGetMs tick.nowStored }, s.callbacks) := by
  rw [communicationCallbackTick, if_neg (by simp [hdue]), tickLoop_eq]
  rfl

/-- A tick calls handlers or not; it neither loses one nor adds one. -/
theorem step_perm {tick : CallbackTick} {s s' : CommunicationCallback H}
    (h : s.step tick = some s') : s'.callbacks.Perm s.callbacks := by
  obtain ⟨⟨u, called⟩, htick, rfl⟩ := Option.map_eq_some_iff.mp h
  cases hdue : systemTimerIsTimeElapsedMs tick.nowElapsed s.lastTick tick.tickWaitMs with
  | false =>
    rw [communicationCallbackTick, if_pos hdue] at htick
    obtain ⟨rfl, -⟩ := Prod.mk.inj (Option.some.inj htick)
    exact List.Perm.refl _
  | true =>
    rw [communicationCallbackTick_due hdue] at htick
    obtain ⟨rfl, -⟩ := Prod.mk.inj (Option.some.inj htick)
    exact returning_perm tick.returns 0 s.callbacks

theorem step_isSome (s : CommunicationCallback H) (tick : CallbackTick) :
    (s.step tick).isSome = true := by
  cases hdue : systemTimerIsTimeElapsedMs tick.nowElapsed s.lastTick tick.tickWaitMs with
  | false => simp [CommunicationCallback.step, communicationCallbackTick, hdue]
  | true => simp [CommunicationCallback.step, communicationCallbackTick_due hdue]

/-- **Callback scheduling.**  A tick that is due calls every handler once, in the order of
the list, and leaves those that returned false in front of those that returned true; so the
list is always a permutation of the first one. -/
theorem callbacks_scheduled :
    (∀ (tick : CallbackTick) (s : CommunicationCallback H),
      systemTimerIsTimeElapsedMs tick.nowElapsed s.lastTick tick.tickWaitMs = true →
      communicationCallbackTick tick s = some
        ({ callbacks := returning tick.returns false 0 s.callbacks ++
              returning tick.returns true 0 s.callbacks
           lastTick := systemTimerGetMs tick.nowStored }, s.callbacks)) ∧
    ∀ (s : CommunicationCallback H) (ticks : List CallbackTick),
      ∃ s', run CommunicationCallback.step s ticks = some s' ∧ s'.callbacks.Perm s.callbacks := by
  refine ⟨fun tick s hdue => communicationCallbackTick_due hdue, fun s ticks => ?_⟩
  have hsome : (run CommunicationCallback.step s ticks).isSome = true := by
    induction ticks generalizing s with
    | nil => rfl
    | cons tick ticks ih =>
      obtain ⟨u, hu⟩ := Option.isSome_iff_exists.mp (step_isSome s tick)
      rw [run_cons, hu]
      exact ih u
  obtain ⟨s', hs'⟩ := Option.isSome_iff_exists.mp hsome
  refine ⟨s', hs', ?_⟩
  exact run_induct (P := fun u => u.callbacks.Perm s.callbacks)
    (fun u tick u' hperm hstep => (step_perm hstep).trans hperm) (List.Perm.refl _) hs'

/-- A tick in which the first and the third handler send. -/
def twoSend : CallbackTick where
  nowElapsed := 10
  nowStored := 10
  tickWaitMs := 5
  returns := fun k => k == 0 || k == 2

/-- They go to the end. -/
theorem callbacks_scheduled_twoSend :
    communicationCallbackTick twoSend { callbacks := ['a', 'b', 'c', 'd'] } =
      some ({ callbacks := ['b', 'd', 'a', 'c'], lastTick := 10 }, ['a', 'b', 'c', 'd']) :=
  (callbacks_scheduled.1 twoSend { callbacks := ['a', 'b', 'c', 'd'] } (by decide)).trans rfl

end Bricklib2
