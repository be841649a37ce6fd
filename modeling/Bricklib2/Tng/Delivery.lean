/-
Bricklib2/Tng/Delivery.lean

Once the host has sent everything, every tick that finds the response buffer
free handles one more message, so no message is left over: the liveness half
of framing, and the framing theorem itself.

A tick that starts free must get past two comparisons that load the fill count
and the header separately, in either order.  `TNG.WillHandle` is what is known at each place in
between; it is kept because no byte arrives any more, so an interrupt can only
deliver an empty transfer.
-/
import Bricklib2.Tng.Framing

namespace Bricklib2

open Bytes Machine

variable {δ : Type} {d : TNGDevice δ} {msgs : List (List UInt8)}

/-! ### A free tick handles a message -/

/-- The tick that is under way is going to handle a message. -/
def TNG.WillHandle (s : TNG δ) : Prop :=
  s.responseLength = 0 ∧
    match s.pc with
    | .load | .load2 => s.Complete
    | .compareLength length | .compareLength2 length => s.Complete ∧ length = s.requestLength
    | .compareHeader header | .compareHeader2 header => s.Complete ∧ header = s.headerLength
    | .recv | .checkResponse | .checkRequest | .handle => True
    | .idle | .shift | .send => False

/-- Since there were `start` free ticks, each further one has handled a
message, and so will the one under way; or all are handled. -/
def Progress (msgs : List (List UInt8)) (start : ℕ) (s : TNG δ) : Prop :=
  s.handled = msgs ∨
    s.freeTicks ≤ start + s.handled.length ∧
      (s.tickFree = true → s.pc ≠ .idle →
        s.freeTicks + 1 ≤ start + s.handled.length ∨ s.WillHandle)

/-- With nothing left in the USB buffer, the request buffer holds the rest of
the stream, which starts with a complete message. -/
theorem Aligned.complete_of_unread_nil {s : TNG δ} (h : Aligned msgs s)
    (hwf : ∀ m ∈ msgs, WellFormed m) (hall : s.received = msgs.flatten)
    (hpc : s.pc ≠ .shift) (hne : s.handled ≠ msgs) (hempty : s.usb.unread = []) :
    s.Complete := by
  obtain ⟨rest, hrest⟩ := h.handled
  have hbuf : s.buffered = rest.flatten := by
    have hs := h.stream
    rw [hall, ← hrest, List.flatten_append, TNG.pending_of_ne hpc, hempty, List.append_nil] at hs
    exact (List.append_cancel_left hs).symm
  have hlen := h.stored.length_buffered
  rcases rest with - | ⟨m, rest⟩
  · rw [List.append_nil] at hrest
    exact absurd hrest hne
  have h8 : 8 ≤ m.length := (hwf m (by rw [← hrest]; simp)).min_le
  have hle : m.length ≤ s.requestLength := by
    rw [← hlen, hbuf, List.flatten_cons, List.length_append]
    exact Nat.le_add_right _ _
  obtain ⟨m', rest', hmsgs, hheader, -, -⟩ :=
    h.next hwf (hall ▸ List.prefix_rfl) hpc (by omega)
  have hm : m = m' := by
    rw [← hrest] at hmsgs
    exact (List.cons.inj (List.append_cancel_left hmsgs)).1
  rw [TNG.Complete, hheader, ← hm]
  exact ⟨h8, hle⟩

theorem tngTryUsbRecv_of_empty {s : TNG δ} {rearm₁ rearm₂ : Bool}
    (h : s.usb.outBufferLength = 0) : tngTryUsbRecv rearm₁ rearm₂ s = some s := by
  have hrecv : ∀ r, usbRecvRequest r s = some s := by
    intro r
    simp [usbRecvRequest, usbRecv, h]
  simp only [tngTryUsbRecv, hrecv, ite_self, Option.bind_some]

/-- An interrupt that brings no byte changes the USB buffers only. -/
theorem usbdTfpDataOut_nil {s s' : TNG δ} {chunk : List UInt8} {rearm₁ rearm₂ : Bool}
    (h : s.Stored) (hs : usbdTfpDataOut chunk rearm₁ rearm₂ s = some s')
    (hr : s'.received = s.received) : ∃ usb, s' = { s with usb := usb } := by
  obtain ⟨usb, hu, ht⟩ := Option.bind_eq_some_iff.mp hs
  have hchunk : chunk = [] := by
    have hgrow := tngTryUsbRecv_received ht
    rw [hr] at hgrow
    exact List.self_eq_append_right.mp hgrow
  have hspec := (usbReceive_spec h.recv hu).2.2.2
  rw [hchunk] at hspec ht
  rw [tngTryUsbRecv_of_empty hspec, List.append_nil] at ht
  exact ⟨usb, (Option.some.inj ht).symm⟩

/-- A step within a tick keeps `Progress` if what the tick will handle stays so. -/
theorem Progress.goto {s s' : TNG δ} {start : ℕ} (hp : Progress msgs start s)
    (hpc : s.pc ≠ .idle) (hhandled : s'.handled = s.handled) (hfree : s'.tickFree = s.tickFree)
    (hticks : s'.freeTicks = s.freeTicks)
    (hwill : s'.handled ≠ msgs → s.WillHandle → s'.WillHandle) : Progress msgs start s' := by
  by_cases hne : s'.handled = msgs
  · exact Or.inl hne
  obtain ⟨hcount, hcur⟩ := hp.resolve_left (hhandled ▸ hne)
  rw [Progress, hhandled, hfree, hticks]
  refine Or.inr ⟨hcount, fun htick _ => ?_⟩
  rcases hcur htick hpc with hdone | hw
  · exact Or.inl hdone
  · exact Or.inr (hwill hne hw)

/-- A micro step of the main loop keeps `Progress`. -/
theorem progress_tick {s s' : TNG δ} {start : ℕ} {headerFirst rearm₁ rearm₂ transmit : Bool}
    (h : Aligned msgs s) (h' : Aligned msgs s') (hwf : ∀ m ∈ msgs, WellFormed m)
    (hall : s.received = msgs.flatten) (hp : Progress msgs start s)
    (hadm : Admitted d s (.main headerFirst rearm₁ rearm₂ transmit))
    (hs : tngTick d headerFirst rearm₁ rearm₂ transmit s = some s') : Progress msgs start s' := by
  have hall' : s'.received = msgs.flatten := (tngTick_received hs).trans hall
  obtain ⟨rfl, rfl, hvalid⟩ := hadm
  unfold tngTick at hs
  cases e : s.pc with
  | idle =>
    simp only [e, Option.some.injEq] at hs
    subst hs
    by_cases hne' : s.handled = msgs
    · exact Or.inl hne'
    obtain ⟨hcount, -⟩ := hp.resolve_left hne'
    refine Or.inr ⟨hcount, fun hfree _ => Or.inr ⟨of_decide_eq_true hfree, ?_⟩⟩
    by_cases hcan : usbCanRecv s.usb = true
    · simp only [hcan, if_true]
    · simp only [hcan]
      have hempty : s.usb.unread = [] := by
        simp only [usbCanRecv, bne_iff_ne, ne_eq, not_not] at hcan
        rw [TFUSB.unread, hcan, List.take_zero]
      exact h.complete_of_unread_nil hwf hall (by rw [e]; rintro ⟨⟩) hne' hempty
  | load =>
    simp only [e, Option.some.injEq] at hs
    subst hs
    refine hp.goto (by rw [e]; rintro ⟨⟩) rfl rfl rfl fun _ hw => ?_
    simp only [TNG.WillHandle, e] at hw
    refine ⟨hw.1, ?_⟩
    cases headerFirst with
    | true => exact ⟨hw.2, rfl⟩
    | false => exact ⟨hw.2, rfl⟩
  | compareLength length =>
    simp only [e, Option.some.injEq] at hs
    subst hs
    refine hp.goto (by rw [e]; rintro ⟨⟩) rfl rfl rfl fun _ hw => ?_
    simp only [TNG.WillHandle, e] at hw
    obtain ⟨hresp, hc, rfl⟩ := hw
    refine ⟨hresp, ?_⟩
    simp only [if_pos hc.2]
  | compareHeader header =>
    simp only [e, Option.some.injEq] at hs
    subst hs
    refine hp.goto (by rw [e]; rintro ⟨⟩) rfl rfl rfl fun _ hw => ?_
    simp only [TNG.WillHandle, e] at hw
    obtain ⟨hresp, hc, rfl⟩ := hw
    refine ⟨hresp, ?_⟩
    simp only [if_pos hc.2]
  | recv =>
    simp only [e] at hs
    obtain ⟨t, ht, rfl⟩ := Option.map_eq_some_iff.mp hs
    obtain ⟨hr, hcases⟩ := tngTryUsbRecv_spec h.stored ht
    have hf := hr.frame
    refine hp.goto (by rw [e]; rintro ⟨⟩) (by rw [hf]) (by rw [hf]) (by rw [hf]) fun hne' hw => ?_
    simp only [TNG.WillHandle, e] at hw
    refine ⟨(congrArg TNG.responseLength hf).trans hw.1, ?_⟩
    -- either the request was complete, or the USB buffer is empty now
    rcases hcases with ⟨rfl, h8, hle⟩ | hempty
    · obtain ⟨m, rest, -, hm, hm8, -⟩ :=
        h'.next hwf (hall' ▸ List.prefix_rfl) (by rintro ⟨⟩) (by show 5 ≤ t.requestLength; omega)
      exact ⟨hm ▸ hm8, hle⟩
    · exact h'.complete_of_unread_nil hwf hall' (by rintro ⟨⟩) hne' hempty
  | load2 =>
    simp only [e, Option.some.injEq] at hs
    subst hs
    refine hp.goto (by rw [e]; rintro ⟨⟩) rfl rfl rfl fun _ hw => ?_
    simp only [TNG.WillHandle, e] at hw
    refine ⟨hw.1, ?_⟩
    cases headerFirst with
    | true => exact ⟨hw.2, rfl⟩
    | false => exact ⟨hw.2, rfl⟩
  | compareLength2 length =>
    simp only [e, Option.some.injEq] at hs
    subst hs
    refine hp.goto (by rw [e]; rintro ⟨⟩) rfl rfl rfl fun _ hw => ?_
    simp only [TNG.WillHandle, e] at hw
    obtain ⟨hresp, hc, rfl⟩ := hw
    refine ⟨hresp, ?_⟩
    simp only [if_pos hc.2]
  | compareHeader2 header =>
    simp only [e, Option.some.injEq] at hs
    subst hs
    refine hp.goto (by rw [e]; rintro ⟨⟩) rfl rfl rfl fun _ hw => ?_
    simp only [TNG.WillHandle, e] at hw
    obtain ⟨hresp, hc, rfl⟩ := hw
    refine ⟨hresp, ?_⟩
    simp only [if_pos hc.2]
  | checkResponse =>
    simp only [e, Option.some.injEq] at hs
    subst hs
    refine hp.goto (by rw [e]; rintro ⟨⟩) rfl rfl rfl fun _ hw => ?_
    simp only [TNG.WillHandle, e] at hw
    refine ⟨hw.1, ?_⟩
    simp only [if_pos hw.1]
  | checkRequest =>
    simp only [e, Option.some.injEq, hvalid e, if_true] at hs
    subst hs
    refine hp.goto (by rw [e]; rintro ⟨⟩) rfl rfl rfl fun _ hw => ?_
    simp only [TNG.WillHandle, e] at hw
    exact ⟨hw.1, trivial⟩
  | handle =>
    simp only [e] at hs
    obtain ⟨t, ht, rfl⟩ := Option.map_eq_some_iff.mp hs
    obtain ⟨r, -, rfl⟩ := Option.map_eq_some_iff.mp ht
    have hne : s.handled ≠ msgs := by
      intro heq
      have hle := h'.handled.length_le
      simp only [heq, List.length_append, List.length_cons, List.length_nil] at hle
      omega
    obtain ⟨hcount, -⟩ := hp.resolve_left hne
    right
    simp only [List.length_append, List.length_cons, List.length_nil]
    exact ⟨by omega, fun _ _ => Or.inl (by omega)⟩
  | shift =>
    have hshift : (tngShiftRequest s).handled = s.handled ∧
        (tngShiftRequest s).tickFree = s.tickFree ∧
        (tngShiftRequest s).freeTicks = s.freeTicks := by
      unfold tngShiftRequest
      split <;> exact ⟨rfl, rfl, rfl⟩
    simp only [e, Option.some.injEq] at hs
    subst hs
    refine hp.goto (by rw [e]; rintro ⟨⟩) hshift.1 hshift.2.1 hshift.2.2 fun _ hw => ?_
    simp only [TNG.WillHandle, e] at hw
    exact hw.2.elim
  | send =>
    have hhandled : (tngSendResponse transmit s).handled = s.handled := by
      unfold tngSendResponse
      split
      · split <;> rfl
      · rfl
    simp only [e, Option.some.injEq] at hs
    subst hs
    by_cases hne' : s.handled = msgs
    · exact Or.inl (hhandled.trans hne')
    obtain ⟨hcount, hcur⟩ := hp.resolve_left hne'
    right
    simp only [hhandled]
    refine ⟨?_, fun _ hidle => absurd rfl hidle⟩
    by_cases hfree : s.tickFree = true
    · rw [if_pos hfree]
      rcases hcur hfree (by rw [e]; rintro ⟨⟩) with hdone | hw
      · exact hdone
      · simp only [TNG.WillHandle, e] at hw
        exact hw.2.elim
    · rw [if_neg hfree]
      exact hcount

/-- Every step that receives nothing keeps `Progress`. -/
theorem progress_step {s s' : TNG δ} {start : ℕ} {e : TickEvent δ}
    (h : Aligned msgs s) (hwf : ∀ m ∈ msgs, WellFormed m) (hall : s.received = msgs.flatten)
    (hall' : s'.received = msgs.flatten) (hp : Progress msgs start s) (hc : Framed d s e)
    (hs : tngStep d s e = some s') : Progress msgs start s' := by
  cases e with
  | main headerFirst rearm₁ rearm₂ transmit =>
    have h' := aligned_step h hwf (hall ▸ List.prefix_rfl) hc.1 hc.2 hs
    exact progress_tick h h' hwf hall hp hc.1 hs
  | dataOut chunk rearm₁ rearm₂ =>
    obtain ⟨usb, rfl⟩ := usbdTfpDataOut_nil h.stored hs (hall'.trans hall.symm)
    exact hp
  | dataIn transmit =>
    obtain rfl := Option.some.inj hs
    exact hp
  | callback device transmit data =>
    simp only [tngStep] at hs
    split at hs
    · obtain rfl := Option.some.inj hs
      exact hp
    · cases hs

/-! ### The framing theorem -/

/-- **Framing.**  In a run of `tng_tick` and the data-out interrupt that has
received a prefix of well-formed messages, the handled messages are a prefix of
the sent ones; and once every byte has been received, as many free ticks as
there are messages handle them all. -/
theorem tng_framing (d : TNGDevice δ) (device : δ) (hwf : ∀ m ∈ msgs, WellFormed m)
    {es : List (TickEvent δ)} {s : TNG δ} (hr : run (tngStep d) (tngInit device) es = some s)
    (hp : s.received <+: msgs.flatten)
    (hm : Meets (tngStep d) (Framed d) (tngInit device) es) :
    s.handled <+: msgs ∧
      ∀ fs t, s.pc = .idle → s.received = msgs.flatten → run (tngStep d) s fs = some t →
        t.received = msgs.flatten → Meets (tngStep d) (Framed d) s fs →
        s.freeTicks + msgs.length ≤ t.freeTicks → t.handled = msgs := by
  have hs := aligned_run (aligned_tngInit msgs device) hwf hm hr hp
  refine ⟨hs.handled, ?_⟩
  intro fs t hidle hall hrt hallt hmt hticks
  have hstart : Progress msgs s.freeTicks s :=
    Or.inr ⟨Nat.le_add_right _ _, fun _ hpc => absurd hidle hpc⟩
  have hinv : msgs.flatten <+: t.received ∧ (t.received <+: msgs.flatten →
      Aligned msgs t ∧ Progress msgs s.freeTicks t) := by
    refine run_induct_meets (P := fun u => msgs.flatten <+: u.received ∧
      (u.received <+: msgs.flatten → Aligned msgs u ∧ Progress msgs s.freeTicks u)) ?_
      ⟨hall ▸ List.prefix_rfl, fun _ => ⟨hs, hstart⟩⟩ hmt hrt
    rintro u e u' ⟨hfull, hu⟩ hc hstep
    refine ⟨hfull.trans (received_mono hstep), fun hpre => ?_⟩
    have hpre' := (received_mono hstep).trans hpre
    obtain ⟨hal, hprog⟩ := hu hpre'
    have hallu : u.received = msgs.flatten := hpre'.eq_of_length_le hfull.length_le
    have hallu' : u'.received = msgs.flatten :=
      hpre.eq_of_length_le (hfull.trans (received_mono hstep)).length_le
    exact ⟨aligned_step hal hwf hpre' hc.1 hc.2 hstep,
      progress_step hal hwf hallu hallu' hprog hc hstep⟩
  obtain ⟨hal, hprog⟩ := hinv.2 (hallt ▸ List.prefix_rfl)
  rcases hprog with hdone | ⟨hcount, -⟩
  · exact hdone
  · exact hal.handled.eq_of_length_le (by omega)

/-! ### Runs of a device that supports no message of its own -/

/-- A device that answers every request with NOT_SUPPORTED. -/
def quietDevice : TNGDevice Unit where
  tngGetUid _ := 2
  tngHandleMessage device _ response := some (device, response, .notSupported)
  handleMessage device _ response := some (device, response, .notSupported)

/-- The request with function id `fid` and no payload, no response expected. -/
def plainRequest (fid : UInt8) : List UInt8 := [0, 0, 0, 0, 8, fid, 0, 0]

/-- `n` ticks of eleven micro steps. -/
def plainTicks (n : ℕ) : List (TickEvent Unit) :=
  List.replicate (11 * n) (.main false true true true)

/-- The machine after one transfer with `message`, before the first tick. -/
def transferred (message : List UInt8) : TNG Unit :=
  after (tngStep quietDevice) (tngInit ()) [.dataOut message true true]

/-- One request that has arrived before the first tick is handled by it. -/
theorem tng_framing_single :
    (transferred (plainRequest 1)).handled <+: [plainRequest 1] ∧
      (after (tngStep quietDevice) (transferred (plainRequest 1)) (plainTicks 1)).handled =
        [plainRequest 1] := by
  have hwf : ∀ m ∈ [plainRequest 1], WellFormed m := by decide
  have hs : run (tngStep quietDevice) (tngInit ()) [.dataOut (plainRequest 1) true true] =
      some (transferred (plainRequest 1)) := run_eq_after (by decide +kernel)
  have h := tng_framing quietDevice () hwf hs (by decide +kernel) (by decide +kernel)
  refine ⟨h.1, ?_⟩
  exact h.2 (plainTicks 1) _ (by decide +kernel) (by decide +kernel)
    (run_eq_after (by decide +kernel)) (by decide +kernel) (by decide +kernel)
    (by decide +kernel)

/-- Two requests in one transfer before the first tick, and two ticks. -/
def gluedRun : List (TickEvent Unit) :=
  .dataOut (plainRequest 1 ++ plainRequest 2) true true :: plainTicks 2

/-- **Glued requests.**  The first request is handled twice and the second one
never. -/
theorem tng_framing_glued :
    (∀ m ∈ [plainRequest 1, plainRequest 2], WellFormed m) ∧
      Meets (tngStep quietDevice) (Admitted quietDevice) (tngInit ()) gluedRun ∧
      ∃ s, run (tngStep quietDevice) (tngInit ()) gluedRun = some s ∧
        s.received = [plainRequest 1, plainRequest 2].flatten ∧
        s.handled = [plainRequest 1, plainRequest 1] ∧
        ¬ s.handled <+: [plainRequest 1, plainRequest 2] := by
  refine ⟨by decide, by decide +kernel, after (tngStep quietDevice) (tngInit ()) gluedRun,
    run_eq_after (by decide +kernel), by decide +kernel, by decide +kernel, by decide +kernel⟩

/-- A request, and the first four bytes of a longer one while it is handled.  In the next
tick the header is loaded first, and four more bytes come before the fill count is. -/
def staleRun : List (TickEvent Unit) :=
  .dataOut (plainRequest 1) true true :: List.replicate 9 (.main true true true true) ++
    .dataOut [0, 0, 0, 0] true true :: List.replicate 5 (.main true true true true) ++
    .dataOut [16, 2, 0, 0] true true :: List.replicate 4 (.main true true true true)

/-- The longer request is handled with its second half missing. -/
example : (run (tngStep quietDevice) (tngInit ()) staleRun).map TNG.handled =
    some [plainRequest 1, [0, 0, 0, 0, 16, 2, 0, 0] ++ List.replicate 8 0] := by
  decide +kernel

/-- Before the first byte, a tick handles a message of length 0. -/
example : (run (tngStep quietDevice) (tngInit ()) (plainTicks 1)).map TNG.handled = some [[]] := by
  decide +kernel

end Bricklib2
