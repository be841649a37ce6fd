/-
Bricklib2/Tng/Framing.lean

Which messages `tng_tick` hands to `tng_handle_message`, for every way the
byte stream is cut into transfers and every interleaving of the data-out
interrupt with the main loop.

Three things spoil framing in the source.  `tng_request_data` is zeroed at the
start, so until the first length byte has arrived the header announces a
message of length 0, which is complete at once.  The comparison of the fill count
with the header is not atomic: with the old header loaded first, an interrupt can
deliver the beginning of a longer message before the fill count is loaded.  And
when a second message has been received together with the first, `memmove` copies
the first message over the second one instead of the other way round.  `Unglued` is
the condition that none of them happens in a step; under it every byte is in exactly one of four
places (`Aligned.stream`):

    received = handled messages ++ request buffer ++ USB buffer

Main result: `aligned_run`, the invariant at the end of every run that meets
the condition.  `Delivery.lean` draws the conclusions.
-/
import Bricklib2.Tng.Tick

namespace Bricklib2

open Bytes Machine

variable {δ : Type} {d : TNGDevice δ} {msgs : List (List UInt8)}

/-- A well-formed TFP message on the wire. -/
structure WellFormed (message : List UInt8) : Prop where
  min_le : tfpMessageMinLength ≤ message.length
  le_max : message.length ≤ tfpMessageMaxLength
  header : tfpGetLengthFromMessage message = message.length

instance (message : List UInt8) : Decidable (WellFormed message) :=
  decidable_of_iff
    (tfpMessageMinLength ≤ message.length ∧ message.length ≤ tfpMessageMaxLength ∧
      tfpGetLengthFromMessage message = message.length)
    ⟨fun h => ⟨h.1, h.2.1, h.2.2⟩, fun h => ⟨h.1, h.2, h.3⟩⟩

/-! ### Conditions on a step -/

/-- Re-arming succeeds, and a request that is checked has uid 0 or the uid the
device has at that moment. -/
def Admitted (d : TNGDevice δ) (s : TNG δ) : TickEvent δ → Prop
  | .main _ rearm₁ rearm₂ _ =>
    rearm₁ = true ∧ rearm₂ = true ∧ (s.pc = .checkRequest → tngIsValidRequest d s = true)
  | .dataOut _ rearm₁ rearm₂ => rearm₁ = true ∧ rearm₂ = true
  | .dataIn _ => True
  | .callback _ _ _ => True

/-- The step neither compares against a header of length 0 nor against one that an
interrupt has replaced by that of a longer, incomplete request; nor does it drop a
request that has another one glued to it. -/
def Unglued (s : TNG δ) : TickEvent δ → Prop
  | .main _ _ _ _ =>
    match s.pc with
    | .compareLength2 _ => s.headerLength ≠ 0
    | .compareHeader2 header =>
      s.headerLength ≠ 0 ∧ (header ≤ s.requestLength → s.headerLength ≤ s.requestLength)
    | .shift => s.requestLength ≤ s.headerLength
    | _ => True
  | .dataOut _ _ _ => True
  | .dataIn _ => True
  | .callback _ _ _ => True

instance (d : TNGDevice δ) (s : TNG δ) : ∀ e, Decidable (Admitted d s e)
  | .main _ _ _ _ => inferInstanceAs (Decidable (_ ∧ _ ∧ (_ → _)))
  | .dataOut _ _ _ => inferInstanceAs (Decidable (_ ∧ _))
  | .dataIn _ | .callback _ _ _ => isTrue trivial

instance (s : TNG δ) : ∀ e, Decidable (Unglued s e)
  | .main _ _ _ _ => by unfold Unglued; cases s.pc <;> infer_instance
  | .dataOut _ _ _ | .dataIn _ | .callback _ _ _ => isTrue trivial

/-! ### The invariant -/

/-- The buffered bytes that have not been handled yet. -/
def TNG.pending (s : TNG δ) : List UInt8 :=
  if s.pc = .shift then s.buffered.drop s.headerLength else s.buffered

/-- What the main loop knows about the request buffer at its place. -/
def TNG.AtPc (s : TNG δ) : Prop :=
  match s.pc with
  | .compareLength2 length => length ≤ s.requestLength
  | .checkResponse | .checkRequest | .handle | .shift => s.Complete
  | _ => True

/-- The stream is cut at its message boundaries so far, and the rest of it is in the buffers. -/
structure Aligned (msgs : List (List UInt8)) (s : TNG δ) : Prop where
  stored : s.Stored
  handled : s.handled <+: msgs
  stream : s.received = s.handled.flatten ++ (s.pending ++ s.usb.unread)
  stale : s.requestLength ≤ 4 → s.headerLength = 0 ∨ 8 ≤ s.headerLength
  atPc : s.AtPc

theorem TNG.pending_of_ne {s : TNG δ} (h : s.pc ≠ .shift) : s.pending = s.buffered := if_neg h

theorem aligned_tngInit (msgs : List (List UInt8)) (device : δ) :
    Aligned msgs (tngInit device) where
  stored := ⟨usbInit_recvInv, List.length_replicate, Nat.zero_le _⟩
  handled := List.nil_prefix
  stream := rfl
  stale _ := Or.inl rfl
  atPc := trivial

/-- The bytes that are not handled yet are a prefix of the messages that are
not handled yet. -/
theorem Aligned.unhandled {s : TNG δ} (h : Aligned msgs s) (hp : s.received <+: msgs.flatten) :
    ∃ rest, msgs = s.handled ++ rest ∧ s.pending ++ s.usb.unread <+: rest.flatten := by
  obtain ⟨rest, hrest⟩ := h.handled
  refine ⟨rest, hrest.symm, ?_⟩
  rw [h.stream, ← hrest, List.flatten_append] at hp
  exact (List.prefix_append_right_inj _).mp hp

/-- As soon as the length byte is in the request buffer, the header is that of
the next message. -/
theorem Aligned.next {s : TNG δ} (h : Aligned msgs s) (hwf : ∀ m ∈ msgs, WellFormed m)
    (hp : s.received <+: msgs.flatten) (hpc : s.pc ≠ .shift) (h5 : 5 ≤ s.requestLength) :
    ∃ m rest, msgs = s.handled ++ m :: rest ∧ s.headerLength = m.length ∧
      8 ≤ m.length ∧ s.buffered ++ s.usb.unread <+: (m :: rest).flatten := by
  obtain ⟨rest, hmsgs, hpre⟩ := h.unhandled hp
  rw [TNG.pending_of_ne hpc] at hpre
  have hlen := h.stored.length_buffered
  rcases rest with - | ⟨m, rest⟩
  · have hnil := List.prefix_nil.mp hpre
    rw [(List.append_eq_nil_iff.mp hnil).1, List.length_nil] at hlen
    omega
  have hm : WellFormed m := hwf m (by rw [hmsgs]; simp)
  have h8 : 8 ≤ m.length := hm.min_le
  refine ⟨m, rest, hmsgs, ?_, h8, hpre⟩
  -- the header is the same in the buffer, in the stream and in the message
  obtain ⟨ys, hys⟩ := (List.prefix_append _ _).trans hpre
  calc s.headerLength = tfpGetLengthFromMessage s.buffered := TNG.headerLength_eq_buffered h5
    _ = tfpGetLengthFromMessage (s.buffered ++ ys) :=
      (tfpGetLength_append_left (by omega)).symm
    _ = tfpGetLengthFromMessage (m ++ rest.flatten) := by rw [hys, List.flatten_cons]
    _ = tfpGetLengthFromMessage m := tfpGetLength_append_left (by omega)
    _ = m.length := hm.header

/-- A complete request is the next message. -/
theorem Aligned.next_complete {s : TNG δ} (h : Aligned msgs s)
    (hwf : ∀ m ∈ msgs, WellFormed m) (hp : s.received <+: msgs.flatten) (hpc : s.pc ≠ .shift)
    (hc : s.Complete) :
    ∃ rest, msgs = s.handled ++ s.requestData.take s.headerLength :: rest := by
  have h5 : 5 ≤ s.requestLength := by have := hc.1; have := hc.2; omega
  obtain ⟨m, rest, hmsgs, hlen, -, hpre⟩ := h.next hwf hp hpc h5
  have hle : m.length ≤ s.buffered.length := by
    rw [h.stored.length_buffered, ← hlen]
    exact hc.2
  have htake := (prefix_flatten_cons ((List.prefix_append _ _).trans hpre) hle).1
  refine ⟨rest, ?_⟩
  rw [hmsgs, hlen, ← htake, TNG.buffered, List.take_take, ← hlen, Nat.min_eq_left hc.2,
    List.length_take_of_le]
  rw [h.stored.requestData_length]
  exact hc.2.trans h.stored.requestLength_le

/-! ### One step keeps the invariant -/

/-- The place of the main loop, the response buffer and the tick counters do
not matter for the bytes. -/
theorem Aligned.goto {s : TNG δ} (h : Aligned msgs s) (hpc : s.pc ≠ .shift) {pc : TickPc}
    {response : List UInt8} {free : Bool} {n : ℕ} (hpc' : pc ≠ .shift)
    (hat : ({ s with pc := pc } : TNG δ).AtPc) :
    Aligned msgs { s with
      responseData := response, pc := pc, tickFree := free, freeTicks := n } where
  stored := ⟨h.stored.recv, h.stored.requestData_length, h.stored.requestLength_le⟩
  handled := h.handled
  stream := by
    rw [TNG.pending_of_ne hpc']
    have hs := h.stream
    rwa [TNG.pending_of_ne hpc] at hs
  stale := h.stale
  atPc := hat

/-- Receiving moves bytes from the USB buffer to the request buffer. -/
theorem Aligned.receive {s s' : TNG δ} (h : Aligned msgs s) (hr : Received s s')
    (hc : s' = s ∨ s.pc ≠ .shift ∧ s'.AtPc) : Aligned msgs s' := by
  rcases hc with rfl | ⟨hpc, hat⟩
  · exact h
  · have hf := hr.frame
    have hpc' : s'.pc ≠ .shift := by rw [hf]; exact hpc
    have hhandled : s'.handled = s.handled := by rw [hf]
    have hreceived : s'.received = s.received := by rw [hf]
    refine ⟨hr.stored, ?_, ?_, ?_, hat⟩
    · rw [hhandled]; exact h.handled
    · rw [hhandled, hreceived, TNG.pending_of_ne hpc', hr.bytes, ← TNG.pending_of_ne hpc]
      exact h.stream
    · intro hl
      rw [hr.header hl]
      exact h.stale (hr.grows.trans hl)

/-- Growing the request keeps what the main loop knows, except where it has
found the request complete. -/
theorem TNG.AtPc.receive {s s' : TNG δ} (h : s.AtPc) (hr : Received s s')
    (hc : ¬ s.Complete) : s'.AtPc := by
  have hpc : s'.pc = s.pc := by rw [hr.frame]
  unfold TNG.AtPc at h ⊢
  rw [hpc]
  cases e : s.pc with
  | compareLength2 length =>
    simp only [e] at h ⊢
    exact h.trans hr.grows
  | checkResponse | checkRequest | handle | shift =>
    simp only [e] at h
    exact absurd h hc
  | idle | load | compareLength | compareHeader | recv | load2 | compareHeader2 | send => trivial

/-- The state at the start of the data-out handler: the transfer is in the USB
buffer. -/
theorem Aligned.transfer {s : TNG δ} {chunk : List UInt8} {usb : TFUSB} (h : Aligned msgs s)
    (hu : usbReceive chunk s.usb = some usb) :
    Aligned msgs { s with usb := usb, received := s.received ++ chunk } := by
  obtain ⟨hrecv, hempty, hunread, -⟩ := usbReceive_spec h.stored.recv hu
  refine ⟨⟨hrecv, h.stored.requestData_length, h.stored.requestLength_le⟩, h.handled, ?_,
    h.stale, h.atPc⟩
  have hs := h.stream
  rw [hempty, List.append_nil] at hs
  show s.received ++ chunk = s.handled.flatten ++ (s.pending ++ usb.unread)
  rw [hs, hunread, List.append_assoc]

theorem aligned_dataOut {s s' : TNG δ} {chunk : List UInt8} (h : Aligned msgs s)
    (hs : usbdTfpDataOut chunk true true s = some s') : Aligned msgs s' := by
  obtain ⟨usb, hu, hr⟩ := Option.bind_eq_some_iff.mp hs
  have ht := h.transfer hu
  by_cases hc : s.Complete
  · have hc' : TNG.Complete { s with usb := usb, received := s.received ++ chunk } := hc
    rw [tngTryUsbRecv_of_complete hc' hr]
    exact ht
  · have hspec := (tngTryUsbRecv_spec ht.stored hr).1
    have hpc : s.pc ≠ .shift := by
      intro e
      have hat := h.atPc
      rw [TNG.AtPc, e] at hat
      exact hc hat
    exact ht.receive hspec (Or.inr ⟨hpc, ht.atPc.receive hspec hc⟩)

/-- A change of the sending half of the USB buffers. -/
theorem Aligned.sendSide {s : TNG δ} {usb : TFUSB} {device : δ} (h : Aligned msgs s)
    (hu : usb.outBuffer = s.usb.outBuffer ∧ usb.outBufferLength = s.usb.outBufferLength ∧
      usb.outEndpoint = s.usb.outEndpoint) :
    Aligned msgs { s with usb := usb, device := device } := by
  obtain ⟨hbuf, hlen, hend⟩ := hu
  have hunread : usb.unread = s.usb.unread := by rw [TFUSB.unread, hbuf, hlen, TFUSB.unread]
  have hr := h.stored.recv
  refine ⟨⟨⟨?_, ?_, ?_, ?_⟩, h.stored.requestData_length, h.stored.requestLength_le⟩,
    h.handled, ?_, h.stale, h.atPc⟩
  · show usb.outBuffer.length = usbBufferSize
    rw [hbuf]; exact hr.outBuffer_length
  · show usb.outBufferLength ≤ usbBufferSize
    rw [hlen]; exact hr.outBufferLength_le
  · intro n hn
    show usb.outBufferLength = 0
    rw [hlen]
    exact hr.armed_empty n (hend ▸ hn)
  · intro n hn
    exact hr.armed_le n (hend ▸ hn)
  · show s.received = s.handled.flatten ++ (s.pending ++ usb.unread)
    rw [hunread]
    exact h.stream

/-- Handling the next message moves it from the request buffer to the handled
ones. -/
theorem aligned_handle {s s' : TNG δ} (h : Aligned msgs s) (hwf : ∀ m ∈ msgs, WellFormed m)
    (hp : s.received <+: msgs.flatten) (hpc : s.pc = .handle)
    (hs : tngHandleRequest d s = some s') : Aligned msgs { s' with pc := .shift } := by
  have hne : s.pc ≠ .shift := by rw [hpc]; nofun
  have hc : s.Complete := by
    have hat := h.atPc
    rwa [TNG.AtPc, hpc] at hat
  obtain ⟨⟨device, response, ret⟩, -, hs'⟩ := Option.map_eq_some_iff.mp hs
  subst hs'
  obtain ⟨rest, hmsgs⟩ := h.next_complete hwf hp hne hc
  refine ⟨⟨h.stored.recv, h.stored.requestData_length, h.stored.requestLength_le⟩, ?_, ?_,
    h.stale, hc⟩
  · exact ⟨rest, by rw [hmsgs]; simp⟩
  · -- the handled message and what is behind it are the buffered bytes
    have hsplit : s.requestData.take s.headerLength ++ s.buffered.drop s.headerLength =
        s.buffered := by
      have hle : s.requestData.take s.headerLength = s.buffered.take s.headerLength := by
        rw [TNG.buffered, List.take_take, Nat.min_eq_left hc.2]
      rw [hle, List.take_append_drop]
    have hstream := h.stream
    rw [TNG.pending_of_ne hne, ← hsplit] at hstream
    show s.received = (s.handled ++ [s.requestData.take s.headerLength]).flatten ++
      (s.buffered.drop s.headerLength ++ s.usb.unread)
    rw [hstream, List.flatten_append]
    simp only [List.flatten_cons, List.flatten_nil, List.append_nil, List.append_assoc]

/-- Dropping a request with nothing behind it empties the request buffer. -/
theorem aligned_shift {s : TNG δ} (h : Aligned msgs s) (hpc : s.pc = .shift)
    (hglue : s.requestLength ≤ s.headerLength) :
    Aligned msgs { tngShiftRequest s with pc := .send } := by
  have hc : s.Complete := by
    have hat := h.atPc
    rwa [TNG.AtPc, hpc] at hat
  have hs : tngShiftRequest s = { s with requestLength := 0 } :=
    if_neg (Nat.not_lt.mpr hglue)
  rw [hs]
  refine ⟨⟨h.stored.recv, h.stored.requestData_length, Nat.zero_le _⟩, h.handled, ?_,
    fun _ => Or.inr hc.1, trivial⟩
  have hpend : s.pending = [] := by
    rw [TNG.pending, if_pos hpc]
    apply List.drop_eq_nil_of_le
    rw [h.stored.length_buffered]
    exact hglue
  have hstream := h.stream
  rwa [hpend] at hstream

/-- What is not shorter than its header, if that is not 0, is a complete request. -/
theorem Aligned.complete {s : TNG δ} (h : Aligned msgs s) (hwf : ∀ m ∈ msgs, WellFormed m)
    (hp : s.received <+: msgs.flatten) (hpc : s.pc ≠ .shift) (hz : s.headerLength ≠ 0)
    (hle : s.headerLength ≤ s.requestLength) : s.Complete := by
  refine ⟨?_, hle⟩
  by_cases h5 : 5 ≤ s.requestLength
  · obtain ⟨m, rest, -, hm, h8, -⟩ := h.next hwf hp hpc h5
    rw [hm]
    exact h8
  · -- a stale header is too long for so few bytes
    exact (h.stale (by omega)).resolve_left hz

/-- Every micro step of `tng_tick` keeps the invariant. -/
theorem aligned_tick {s s' : TNG δ} {headerFirst rearm₁ rearm₂ transmit : Bool} (h : Aligned msgs s)
    (hwf : ∀ m ∈ msgs, WellFormed m) (hp : s.received <+: msgs.flatten)
    (hadm : Admitted d s (.main headerFirst rearm₁ rearm₂ transmit))
    (hcond : Unglued s (.main headerFirst rearm₁ rearm₂ transmit))
    (hs : tngTick d headerFirst rearm₁ rearm₂ transmit s = some s') : Aligned msgs s' := by
  obtain ⟨rfl, rfl, hvalid⟩ := hadm
  unfold Unglued at hcond
  have hat := h.atPc
  unfold tngTick at hs
  unfold TNG.AtPc at hat
  cases e : s.pc with
  | idle =>
    simp only [e, Option.some.injEq] at hs
    subst hs
    have hpc : s.pc ≠ .shift := by rw [e]; nofun
    split
    · exact h.goto hpc nofun trivial
    · exact h.goto hpc nofun trivial
  | load =>
    simp only [e, Option.some.injEq] at hs
    subst hs
    have hpc : s.pc ≠ .shift := by rw [e]; nofun
    split
    · exact h.goto hpc nofun trivial
    · exact h.goto hpc nofun trivial
  | compareLength | compareHeader =>
    simp only [e, Option.some.injEq] at hs
    subst hs
    have hpc : s.pc ≠ .shift := by rw [e]; nofun
    split
    · exact h.goto hpc nofun trivial
    · exact h.goto hpc nofun trivial
  | recv =>
    simp only [e] at hs
    obtain ⟨t, ht, rfl⟩ := Option.map_eq_some_iff.mp hs
    have hpc : s.pc ≠ .shift := by rw [e]; nofun
    have hr := (tngTryUsbRecv_spec h.stored ht).1
    have htpc : t.pc = .recv := by rw [hr.frame]; exact e
    have hrec : Aligned msgs t := h.receive hr (Or.inr ⟨hpc, by rw [TNG.AtPc, htpc]; trivial⟩)
    exact hrec.goto (by rw [htpc]; nofun) nofun trivial
  | load2 =>
    simp only [e, Option.some.injEq] at hs
    subst hs
    have hpc : s.pc ≠ .shift := by rw [e]; nofun
    split
    · exact h.goto hpc nofun trivial
    · exact h.goto hpc nofun (Nat.le_refl _)
  | compareLength2 length =>
    -- the fill count was loaded before and has only grown since
    simp only [e, Option.some.injEq] at hs
    subst hs
    have hpc : s.pc ≠ .shift := by rw [e]; nofun
    rw [e] at hcond hat
    split
    · rename_i hle
      exact h.goto hpc nofun (h.complete hwf hp hpc hcond (hle.trans hat))
    · exact h.goto hpc nofun trivial
  | compareHeader2 header =>
    -- the header was loaded before, and may be that of another request by now
    simp only [e, Option.some.injEq] at hs
    subst hs
    have hpc : s.pc ≠ .shift := by rw [e]; nofun
    rw [e] at hcond
    split
    · rename_i hle
      exact h.goto hpc nofun (h.complete hwf hp hpc hcond.1 (hcond.2 hle))
    · exact h.goto hpc nofun trivial
  | checkResponse =>
    simp only [e, Option.some.injEq] at hs hat
    subst hs
    have hpc : s.pc ≠ .shift := by rw [e]; nofun
    split
    · exact h.goto hpc nofun hat
    · exact h.goto hpc nofun trivial
  | checkRequest =>
    simp only [e, Option.some.injEq, hvalid e, if_true] at hs hat
    subst hs
    exact h.goto (by rw [e]; nofun) nofun hat
  | handle =>
    simp only [e] at hs
    obtain ⟨t, ht, rfl⟩ := Option.map_eq_some_iff.mp hs
    exact aligned_handle h hwf hp e ht
  | shift =>
    -- the handled message is taken off the front
    simp only [e, Option.some.injEq] at hs
    subst hs
    exact aligned_shift h e (by rwa [e] at hcond)
  | send =>
    simp only [e, Option.some.injEq] at hs
    subst hs
    have hpc : s.pc ≠ .shift := by rw [e]; nofun
    have hside := usbSend_recvSide transmit (s.responseData.take s.responseLength) s.usb
    have hsend : Aligned msgs { s with
        usb := (usbSend transmit (s.responseData.take s.responseLength) s.usb).2 } :=
      h.sendSide hside
    unfold tngSendResponse
    split
    · split
      all_goals
        rename_i usb hu
        rw [hu] at hsend
        exact hsend.goto hpc nofun trivial
    · exact h.goto hpc nofun trivial

/-! ### Runs -/

/-- Reading the USB buffer receives nothing new. -/
theorem tngTryUsbRecv_received {rearm₁ rearm₂ : Bool} {s s' : TNG δ}
    (hs : tngTryUsbRecv rearm₁ rearm₂ s = some s') : s'.received = s.received := by
  have hrecv : ∀ {r : Bool} {t t' : TNG δ}, usbRecvRequest r t = some t' →
      t'.received = t.received := by
    intro r t t' ht
    obtain ⟨⟨n, data, usb⟩, -, rfl⟩ := Option.map_eq_some_iff.mp ht
    rfl
  obtain ⟨u, hu, ht⟩ := Option.bind_eq_some_iff.mp hs
  have hfirst : u.received = s.received := by
    split at hu
    · exact hrecv hu
    · rw [Option.some.inj hu]
  split at ht
  · exact (hrecv ht).trans hfirst
  · rw [← Option.some.inj ht]
    exact hfirst

/-- The main loop receives nothing new. -/
theorem tngTick_received {headerFirst rearm₁ rearm₂ transmit : Bool} {s s' : TNG δ}
    (hs : tngTick d headerFirst rearm₁ rearm₂ transmit s = some s') : s'.received = s.received := by
  unfold tngTick at hs
  cases e : s.pc with
  | recv =>
    simp only [e] at hs
    obtain ⟨t, ht, rfl⟩ := Option.map_eq_some_iff.mp hs
    have hrec := tngTryUsbRecv_received ht
    exact hrec
  | handle =>
    simp only [e] at hs
    obtain ⟨t, ht, rfl⟩ := Option.map_eq_some_iff.mp hs
    obtain ⟨r, -, rfl⟩ := Option.map_eq_some_iff.mp ht
    rfl
  | shift =>
    simp only [e, tngShiftRequest, Option.some.injEq] at hs
    subst hs
    split <;> rfl
  | send =>
    simp only [e, tngSendResponse, Option.some.injEq] at hs
    subst hs
    split
    · split <;> rfl
    · rfl
  | idle | load | compareLength | compareHeader | load2 | compareLength2 | compareHeader2
  | checkResponse | checkRequest =>
    simp only [e, Option.some.injEq] at hs
    subst hs
    rfl

/-- Received bytes stay received. -/
theorem received_mono {s s' : TNG δ} {e : TickEvent δ} (hs : tngStep d s e = some s') :
    s.received <+: s'.received := by
  cases e with
  | main headerFirst rearm₁ rearm₂ transmit => exact (tngTick_received hs) ▸ List.prefix_rfl
  | dataOut chunk rearm₁ rearm₂ =>
    obtain ⟨usb, -, ht⟩ := Option.bind_eq_some_iff.mp hs
    rw [tngTryUsbRecv_received ht]
    exact List.prefix_append _ _
  | dataIn transmit =>
    obtain rfl := Option.some.inj hs
    exact List.prefix_rfl
  | callback device transmit data =>
    simp only [tngStep] at hs
    split at hs
    · obtain rfl := Option.some.inj hs
      exact List.prefix_rfl
    · cases hs

/-- Every step that meets the two conditions keeps the invariant. -/
theorem aligned_step {s s' : TNG δ} {e : TickEvent δ} (h : Aligned msgs s)
    (hwf : ∀ m ∈ msgs, WellFormed m) (hp : s.received <+: msgs.flatten)
    (hadm : Admitted d s e) (hcond : Unglued s e) (hs : tngStep d s e = some s') :
    Aligned msgs s' := by
  cases e with
  | main headerFirst rearm₁ rearm₂ transmit => exact aligned_tick h hwf hp hadm hcond hs
  | dataOut chunk rearm₁ rearm₂ =>
    obtain ⟨rfl, rfl⟩ := hadm
    exact aligned_dataOut h hs
  | dataIn transmit =>
    obtain rfl := Option.some.inj hs
    exact h.sendSide (usbdTfpDataIn_recvSide transmit s.usb)
  | callback device transmit data =>
    simp only [tngStep] at hs
    split at hs
    · obtain rfl := Option.some.inj hs
      exact h.sendSide (usbSend_recvSide transmit data s.usb)
    · cases hs

/-- The condition of the framing theorem on a step. -/
def Framed (d : TNGDevice δ) (s : TNG δ) (e : TickEvent δ) : Prop := Admitted d s e ∧ Unglued s e

instance (d : TNGDevice δ) (s : TNG δ) (e : TickEvent δ) : Decidable (Framed d s e) :=
  inferInstanceAs (Decidable (_ ∧ _))

theorem aligned_run {s t : TNG δ} {es : List (TickEvent δ)} (h : Aligned msgs s)
    (hwf : ∀ m ∈ msgs, WellFormed m) (hm : Meets (tngStep d) (Framed d) s es)
    (hr : run (tngStep d) s es = some t) (hp : t.received <+: msgs.flatten) :
    Aligned msgs t := by
  refine run_induct_meets (P := fun u => u.received <+: msgs.flatten → Aligned msgs u) ?_
    (fun _ => h) hm hr hp
  intro u e u' hu hc hs hpre
  have hpre' := (received_mono hs).trans hpre
  exact aligned_step (hu hpre') hwf hpre' hc.1 hc.2 hs

end Bricklib2
