/-
Bricklib2/Tng/RequestBuffer.lean

What goes into the request buffer and what is taken out of it, for every stream of
bytes, well formed or not, and whether or not the endpoint can be armed again.

`usb_recv` copies a whole transfer, whatever room there is behind the bytes of an
incomplete request.  A header of length 0 to 7 is handled like any other one, so that
fewer bytes are consumed than a header has, down to none; and with a length of 1 to 4,
`memmove` puts another byte where the length is, and more may be subtracted from the
fill count than it has.

Main results: `tng_request_inBounds` and `tng_handled_consume`.
-/
import Bricklib2.Tng.Delivery

namespace Bricklib2

open Bytes Machine

variable {δ : Type} {d : TNGDevice δ} {s s' : TNG δ}

/-! ### Receiving, with or without re-arming -/

/-- Bytes have moved from the USB buffer to the end of the request buffer; without
re-arming they stay, and only the cells behind the request are written. -/
structure Moved (s s' : TNG δ) : Prop where
  stored : s'.Stored
  bytes : s'.buffered ++ s'.usb.unread = s.buffered ++ s.usb.unread
  frame : s' = { s with
    requestData := s'.requestData, requestLength := s'.requestLength, usb := s'.usb }

theorem Moved.refl (h : s.Stored) : Moved s s := ⟨h, rfl, rfl⟩

theorem Moved.trans {s'' : TNG δ} (h : Moved s s') (h' : Moved s' s'') : Moved s s'' where
  stored := h'.stored
  bytes := h'.bytes.trans h.bytes
  frame := by
    rw [h'.frame, h.frame]

theorem Received.moved (h : Received s s') : Moved s s' := ⟨h.stored, h.bytes, h.frame⟩

/-- One call of `usb_recv`: it takes everything or nothing. -/
theorem usbRecvRequest_moved {rearm : Bool} (h : s.Stored)
    (hr : usbRecvRequest rearm s = some s') :
    Moved s s' ∧ (s'.usb.outBufferLength = 0 ∨ s'.requestLength = s.requestLength) := by
  unfold usbRecvRequest usbRecv at hr
  -- nothing to take
  by_cases hzero : s.usb.outBufferLength = 0
  · rw [if_pos hzero] at hr
    obtain rfl := Option.some.inj hr
    exact ⟨Moved.refl h, .inr rfl⟩
  rw [if_neg hzero] at hr
  by_cases hfit : s.requestLength + s.usb.outBufferLength ≤ s.requestData.length
  · rw [if_pos hfit] at hr
    have hlen := h.recv.length_unread
    have hoff : s.requestLength ≤ s.requestData.length := by omega
    have hcopy : s.requestLength + s.usb.unread.length ≤ s.requestData.length := by
      rw [hlen]
      exact hfit
    -- the bytes are copied in any case, but count only if the endpoint is armed again
    cases rearm with
    | true =>
      obtain rfl := Option.some.inj hr
      have htake := take_overwrite s.usb.unread hoff
      rw [hlen] at htake
      refine ⟨⟨⟨⟨h.recv.outBuffer_length, Nat.zero_le _, fun _ _ => rfl, ?_⟩, ?_, ?_⟩, ?_, rfl⟩,
        .inl rfl⟩
      · intro n hn
        obtain rfl := Option.some.inj hn
        exact le_rfl
      · exact (length_overwrite hcopy).trans h.requestData_length
      · rw [← h.requestData_length]
        exact hfit
      · show (overwrite s.requestData s.requestLength s.usb.unread).take
            (s.requestLength + s.usb.outBufferLength) ++ List.take 0 s.usb.outBuffer = _
        rw [htake, List.take_zero, List.append_nil]
        rfl
    | false =>
      obtain rfl := Option.some.inj hr
      refine ⟨⟨⟨h.recv, ?_, h.requestLength_le⟩, ?_, rfl⟩, .inr rfl⟩
      · exact (length_overwrite hcopy).trans h.requestData_length
      · show (overwrite s.requestData s.requestLength s.usb.unread).take s.requestLength ++ _ = _
        rw [take_overwrite_of_le hoff le_rfl]
        rfl
  · rw [if_neg hfit] at hr
    cases hr

theorem tngTryUsbRecv_moved {rearm₁ rearm₂ : Bool} (h : s.Stored)
    (hr : tngTryUsbRecv rearm₁ rearm₂ s = some s') : Moved s s' := by
  obtain ⟨t, ht, hs'⟩ := Option.bind_eq_some_iff.mp hr
  have hfirst : Moved s t := by
    split at ht
    · exact (usbRecvRequest_moved h ht).1
    · rw [← Option.some.inj ht]
      exact Moved.refl h
  split at hs'
  · exact hfirst.trans (usbRecvRequest_moved hfirst.stored hs').1
  · rw [← Option.some.inj hs']
    exact hfirst

/-- The allocation is all that is needed of the buffers to say what receiving leaves alone. -/
theorem usbRecvRequest_allocated {rearm : Bool} (h : s.Allocated)
    (hr : usbRecvRequest rearm s = some s') : s'.Allocated ∧ s' = { s with
      requestData := s'.requestData, requestLength := s'.requestLength, usb := s'.usb } := by
  unfold usbRecvRequest usbRecv at hr
  by_cases hzero : s.usb.outBufferLength = 0
  · rw [if_pos hzero] at hr
    obtain rfl := Option.some.inj hr
    exact ⟨h, rfl⟩
  rw [if_neg hzero] at hr
  by_cases hfit : s.requestLength + s.usb.outBufferLength ≤ s.requestData.length
  · rw [if_pos hfit] at hr
    have hcopy : s.requestLength + s.usb.unread.length ≤ s.requestData.length := by
      rw [h.recv.length_unread]
      exact hfit
    have hdata := (length_overwrite hcopy).trans h.requestData_length
    cases rearm with
    | true =>
      obtain rfl := Option.some.inj hr
      refine ⟨⟨⟨h.recv.outBuffer_length, Nat.zero_le _, fun _ _ => rfl, fun n hn => ?_⟩, hdata⟩, rfl⟩
      obtain rfl := Option.some.inj hn
      exact le_rfl
    | false =>
      obtain rfl := Option.some.inj hr
      exact ⟨⟨h.recv, hdata⟩, rfl⟩
  · rw [if_neg hfit] at hr
    cases hr

theorem tngTryUsbRecv_allocated {rearm₁ rearm₂ : Bool} (h : s.Allocated)
    (hr : tngTryUsbRecv rearm₁ rearm₂ s = some s') : s'.Allocated ∧ s' = { s with
      requestData := s'.requestData, requestLength := s'.requestLength, usb := s'.usb } := by
  obtain ⟨t, ht, hs'⟩ := Option.bind_eq_some_iff.mp hr
  have hfirst : t.Allocated ∧ t = { s with
      requestData := t.requestData, requestLength := t.requestLength, usb := t.usb } := by
    split at ht
    · exact usbRecvRequest_allocated h ht
    · rw [← Option.some.inj ht]
      exact ⟨h, rfl⟩
  split at hs'
  · obtain ⟨halloc, hframe⟩ := usbRecvRequest_allocated hfirst.1 hs'
    refine ⟨halloc, ?_⟩
    rw [hframe, hfirst.2]
  · rw [← Option.some.inj hs']
    exact hfirst

/-! ### The storage invariant -/

/-- The state when the data-out handler starts. -/
theorem TNG.Stored.transfer {chunk : List UInt8} {usb : TFUSB} (h : s.Stored)
    (hu : usbReceive chunk s.usb = some usb) :
    TNG.Stored { s with usb := usb, received := s.received ++ chunk } :=
  ⟨(usbReceive_spec h.recv hu).1, h.requestData_length, h.requestLength_le⟩

theorem TNG.Allocated.transfer {chunk : List UInt8} {usb : TFUSB} (h : s.Allocated)
    (hu : usbReceive chunk s.usb = some usb) :
    TNG.Allocated { s with usb := usb, received := s.received ++ chunk } :=
  ⟨(usbReceive_spec h.recv hu).1, h.requestData_length⟩

theorem TNG.Allocated.sendSide {usb : TFUSB} (h : s.Allocated)
    (hu : usb.outBuffer = s.usb.outBuffer ∧ usb.outBufferLength = s.usb.outBufferLength ∧
      usb.outEndpoint = s.usb.outEndpoint) : usb.RecvInv := by
  obtain ⟨hbuffer, hlength, hendpoint⟩ := hu
  have hr := h.recv
  refine ⟨?_, ?_, ?_, ?_⟩
  · rw [hbuffer]
    exact hr.outBuffer_length
  · rw [hlength]
    exact hr.outBufferLength_le
  · intro n hn
    rw [hlength]
    exact hr.armed_empty n (hendpoint ▸ hn)
  · intro n hn
    exact hr.armed_le n (hendpoint ▸ hn)

theorem headerLength_lt (s : TNG δ) : s.headerLength < tngBufferSize :=
  (byteAt s.requestData 4).toNat_lt

/-- The move of the bytes behind a request ends with the buffer. -/
theorem shift_inBounds (h : s.requestData.length = tngBufferSize) :
    s.headerLength + (s.requestData.take (tngBufferSize - s.headerLength)).length ≤
      s.requestData.length := by
  have hlt := headerLength_lt s
  rw [List.length_take, h]
  omega

/-- The length that the header has when the bytes have been moved. -/
def TNG.movedLength (s : TNG δ) : ℕ :=
  if 1 ≤ s.headerLength ∧ s.headerLength ≤ 4 then
    (byteAt s.requestData (4 - s.headerLength)).toNat
  else
    s.headerLength

/-- The move puts a byte of the header onto the length, if it is by four places or less. -/
theorem tfpGetLength_moved (h : s.requestData.length = tngBufferSize) :
    tfpGetLengthFromMessage (overwrite s.requestData s.headerLength
      (s.requestData.take (tngBufferSize - s.headerLength))) = s.movedLength := by
  have hlt := headerLength_lt s
  have hlength : s.headerLength ≤ s.requestData.length := by omega
  have htake : (s.requestData.take s.headerLength).length = s.headerLength :=
    List.length_take_of_le hlength
  rw [tfpGetLengthFromMessage, TNG.movedLength, overwrite, List.append_assoc]
  by_cases hfour : s.headerLength ≤ 4
  · have hbyte : byteAt (s.requestData.take (tngBufferSize - s.headerLength) ++
        s.requestData.drop (s.headerLength +
          (s.requestData.take (tngBufferSize - s.headerLength)).length)) (4 - s.headerLength) =
        byteAt s.requestData (4 - s.headerLength) := by
      rw [byteAt_append_left, byteAt_take]
      · rw [tngBufferSize]
        omega
      · rw [List.length_take, h, tngBufferSize]
        omega
    rw [byteAt_append_right (by omega), htake, hbyte]
    by_cases hone : 1 ≤ s.headerLength
    · rw [if_pos ⟨hone, hfour⟩]
    · rw [if_neg fun hc => hone hc.1]
      have hzero : s.headerLength = 0 := by omega
      rw [hzero]
      exact hzero
  · rw [if_neg fun hc => hfour hc.2, byteAt_append_left (by omega), byteAt_take (by omega)]
    rfl

/-- The length that is subtracted is not more than the fill count.  It is that of the
request unless the move has put another byte there. -/
def TNG.ShiftFits (s : TNG δ) : Prop :=
  s.headerLength < s.requestLength → 1 ≤ s.headerLength → s.headerLength ≤ 4 →
    (byteAt s.requestData (4 - s.headerLength)).toNat ≤ s.requestLength

instance (s : TNG δ) : Decidable s.ShiftFits := inferInstanceAs (Decidable (_ → _ → _ → _))

theorem TNG.shiftFits_iff : s.ShiftFits ↔
    (s.headerLength < s.requestLength → s.movedLength ≤ s.requestLength) := by
  rw [TNG.ShiftFits, TNG.movedLength]
  split
  · rename_i hmoved
    exact ⟨fun h hless => h hless hmoved.1 hmoved.2, fun h hless _ _ => h hless⟩
  · rename_i hkept
    exact iff_of_true (fun _ hone hfour => absurd ⟨hone, hfour⟩ hkept) Nat.le_of_lt

/-- What is left in the buffer. -/
theorem tngShiftRequest_eq (h : s.requestData.length = tngBufferSize) :
    ∃ data, data.length = tngBufferSize ∧ tngShiftRequest s = { s with
      requestData := data
      requestLength := if s.headerLength < s.requestLength then
        (s.requestLength + 2 ^ 16 - s.movedLength) % 2 ^ 16 else 0 } := by
  unfold tngShiftRequest
  split
  · refine ⟨_, (length_overwrite (shift_inBounds h)).trans h, ?_⟩
    rw [← tfpGetLength_moved h]
    rfl
  · exact ⟨s.requestData, h, rfl⟩

/-- The fill count stays in the buffer exactly if the subtraction does not wrap. -/
theorem shift_requestLength_iff (h : s.Stored) :
    (tngShiftRequest s).requestLength ≤ tngBufferSize ↔ s.ShiftFits := by
  have hlength := h.requestLength_le
  have hmoved : s.movedLength < 256 := by
    unfold TNG.movedLength
    split
    · exact (byteAt s.requestData _).toNat_lt
    · exact headerLength_lt s
  obtain ⟨data, -, hshift⟩ := tngShiftRequest_eq h.requestData_length
  rw [hshift, TNG.shiftFits_iff]
  unfold tngBufferSize at *
  split
  · rename_i hless
    constructor
    · intro hle _
      dsimp only at hle
      omega
    · intro hle
      have hfits := hle hless
      dsimp only
      omega
  · rename_i hless
    exact iff_of_true (Nat.zero_le _) fun hc => absurd hc hless

theorem TNG.Allocated.shift (h : s.Allocated) : (tngShiftRequest s).Allocated := by
  obtain ⟨data, hdata, hshift⟩ := tngShiftRequest_eq h.requestData_length
  rw [hshift]
  exact ⟨h.recv, hdata⟩

theorem TNG.Stored.shift (h : s.Stored) (hfits : s.ShiftFits) : (tngShiftRequest s).Stored :=
  ⟨h.allocated.shift.recv, h.allocated.shift.requestData_length,
    (shift_requestLength_iff h).mpr hfits⟩

/-- The end of the tick does not touch the receive side. -/
theorem tngSendResponse_eq (transmit : Bool) (s : TNG δ) :
    ∃ usb response, tngSendResponse transmit s = { s with usb := usb, responseData := response } ∧
      usb.outBuffer = s.usb.outBuffer ∧ usb.outBufferLength = s.usb.outBufferLength ∧
      usb.outEndpoint = s.usb.outEndpoint := by
  have hside := usbSend_recvSide transmit (s.responseData.take s.responseLength) s.usb
  unfold tngSendResponse
  split
  · split
    all_goals
      rename_i usb hu
      rw [hu] at hside
      exact ⟨_, _, rfl, hside⟩
  · exact ⟨s.usb, s.responseData, rfl, rfl, rfl, rfl⟩

theorem allocated_tick {headerFirst rearm₁ rearm₂ transmit : Bool} (h : s.Allocated)
    (hs : tngTick d headerFirst rearm₁ rearm₂ transmit s = some s') : s'.Allocated := by
  unfold tngTick at hs
  cases e : s.pc with
  | recv =>
    simp only [e] at hs
    obtain ⟨t, ht, rfl⟩ := Option.map_eq_some_iff.mp hs
    have hmoved := (tngTryUsbRecv_allocated h ht).1
    exact ⟨hmoved.recv, hmoved.requestData_length⟩
  | handle =>
    simp only [e] at hs
    obtain ⟨t, ht, rfl⟩ := Option.map_eq_some_iff.mp hs
    obtain ⟨r, -, rfl⟩ := Option.map_eq_some_iff.mp ht
    exact ⟨h.recv, h.requestData_length⟩
  | shift =>
    simp only [e, Option.some.injEq] at hs
    subst hs
    exact ⟨h.shift.recv, h.shift.requestData_length⟩
  | send =>
    simp only [e, Option.some.injEq] at hs
    subst hs
    obtain ⟨usb, response, hsend, hside⟩ := tngSendResponse_eq transmit s
    rw [hsend]
    exact ⟨h.sendSide hside, h.requestData_length⟩
  | idle | load | compareLength | compareHeader | load2 | compareLength2 | compareHeader2
  | checkResponse | checkRequest =>
    simp only [e, Option.some.injEq] at hs
    subst hs
    exact ⟨h.recv, h.requestData_length⟩

theorem allocated_step (s : TNG δ) (e : TickEvent δ) (s' : TNG δ) (h : s.Allocated)
    (hs : tngStep d s e = some s') : s'.Allocated := by
  cases e with
  | main headerFirst rearm₁ rearm₂ transmit => exact allocated_tick h hs
  | dataOut chunk rearm₁ rearm₂ =>
    obtain ⟨usb, hu, ht⟩ := Option.bind_eq_some_iff.mp hs
    exact (tngTryUsbRecv_allocated (h.transfer hu) ht).1
  | dataIn transmit =>
    obtain rfl := Option.some.inj hs
    exact ⟨h.sendSide (usbdTfpDataIn_recvSide transmit s.usb), h.requestData_length⟩
  | callback device transmit data =>
    simp only [tngStep] at hs
    split at hs
    · obtain rfl := Option.some.inj hs
      exact ⟨h.sendSide (usbSend_recvSide transmit data s.usb), h.requestData_length⟩
    · cases hs

/-- The subtraction of the step, if it makes one, does not wrap. -/
def StepShiftFits (s : TNG δ) : TickEvent δ → Prop
  | .main _ _ _ _ => s.pc = .shift → s.ShiftFits
  | .dataOut _ _ _ => True
  | .dataIn _ => True
  | .callback _ _ _ => True

instance (s : TNG δ) : ∀ e, Decidable (StepShiftFits s e)
  | .main _ _ _ _ => inferInstanceAs (Decidable (_ → _))
  | .dataOut _ _ _ | .dataIn _ | .callback _ _ _ => isTrue trivial

/-- The fill count of the next state is in bounds exactly if the subtraction does not wrap. -/
theorem requestLength_tick_iff {headerFirst rearm₁ rearm₂ transmit : Bool} (h : s.Stored)
    (hs : tngTick d headerFirst rearm₁ rearm₂ transmit s = some s') :
    s'.requestLength ≤ tngBufferSize ↔ (s.pc = .shift → s.ShiftFits) := by
  have hlength := h.requestLength_le
  unfold tngTick at hs
  cases e : s.pc with
  | recv =>
    simp only [e] at hs
    obtain ⟨t, ht, rfl⟩ := Option.map_eq_some_iff.mp hs
    exact iff_of_true (tngTryUsbRecv_moved h ht).stored.requestLength_le nofun
  | handle =>
    simp only [e] at hs
    obtain ⟨t, ht, rfl⟩ := Option.map_eq_some_iff.mp hs
    obtain ⟨r, -, rfl⟩ := Option.map_eq_some_iff.mp ht
    exact iff_of_true hlength nofun
  | shift =>
    simp only [e, Option.some.injEq] at hs
    subst hs
    have hfits := shift_requestLength_iff h
    exact ⟨fun hle _ => hfits.mp hle, fun hall => hfits.mpr (hall rfl)⟩
  | send =>
    simp only [e, Option.some.injEq] at hs
    subst hs
    obtain ⟨usb, response, hsend, -⟩ := tngSendResponse_eq transmit s
    rw [hsend]
    exact iff_of_true hlength nofun
  | idle | load | compareLength | compareHeader | load2 | compareLength2 | compareHeader2
  | checkResponse | checkRequest =>
    simp only [e, Option.some.injEq] at hs
    subst hs
    exact iff_of_true hlength nofun

theorem requestLength_step_iff {e : TickEvent δ} (h : s.Stored) (hs : tngStep d s e = some s') :
    s'.requestLength ≤ tngBufferSize ↔ StepShiftFits s e := by
  cases e with
  | main headerFirst rearm₁ rearm₂ transmit => exact requestLength_tick_iff h hs
  | dataOut chunk rearm₁ rearm₂ =>
    obtain ⟨usb, hu, ht⟩ := Option.bind_eq_some_iff.mp hs
    exact iff_of_true (tngTryUsbRecv_moved (h.transfer hu) ht).stored.requestLength_le trivial
  | dataIn transmit =>
    obtain rfl := Option.some.inj hs
    exact iff_of_true h.requestLength_le trivial
  | callback device transmit data =>
    simp only [tngStep] at hs
    split at hs
    · obtain rfl := Option.some.inj hs
      exact iff_of_true h.requestLength_le trivial
    · cases hs

theorem stored_step (s : TNG δ) (e : TickEvent δ) (s' : TNG δ) (h : s.Stored)
    (hfits : StepShiftFits s e) (hs : tngStep d s e = some s') : s'.Stored := by
  have halloc := allocated_step s e s' h.allocated hs
  exact ⟨halloc.recv, halloc.requestData_length, (requestLength_step_iff h hs).mpr hfits⟩

theorem stored_tngInit (device : δ) : (tngInit device).Stored :=
  ⟨usbInit_recvInv, List.length_replicate, Nat.zero_le _⟩

/-! ### Copies into the request buffer -/

/-- More bytes are wanted: the header or the rest of the request. -/
def TNG.NeedsBytes (s : TNG δ) : Prop :=
  s.requestLength < tfpHeaderSize ∨ s.requestLength < s.headerLength

instance (s : TNG δ) : Decidable s.NeedsBytes := inferInstanceAs (Decidable (_ ∨ _))

theorem usbRecvRequest_isSome (h : s.Stored) (rearm : Bool) :
    (usbRecvRequest rearm s).isSome = true ↔
      s.requestLength + s.usb.outBufferLength ≤ tngBufferSize := by
  have hle := h.requestLength_le
  unfold usbRecvRequest usbRecv
  rw [Option.isSome_map, h.requestData_length]
  by_cases hzero : s.usb.outBufferLength = 0
  · rw [if_pos hzero, hzero]
    exact iff_of_true rfl hle
  rw [if_neg hzero]
  by_cases hfit : s.requestLength + s.usb.outBufferLength ≤ tngBufferSize
  · rw [if_pos hfit]
    cases rearm
    · exact iff_of_true rfl hfit
    · exact iff_of_true rfl hfit
  · rw [if_neg hfit]
    exact iff_of_false Bool.false_ne_true hfit

/-- A fetch stays in the buffer if the bytes fit behind those of the request. -/
theorem tngTryUsbRecv_isSome (h : s.Stored) (rearm₁ rearm₂ : Bool) :
    (tngTryUsbRecv rearm₁ rearm₂ s).isSome = true ↔
      (s.NeedsBytes → s.requestLength + s.usb.outBufferLength ≤ tngBufferSize) := by
  unfold tngTryUsbRecv
  by_cases hheader : s.requestLength < tfpHeaderSize
  · rw [if_pos hheader, ← usbRecvRequest_isSome h rearm₁]
    have hneeds : s.NeedsBytes := .inl hheader
    cases hfirst : usbRecvRequest rearm₁ s with
    | none => exact iff_of_false Bool.false_ne_true fun hall => Bool.false_ne_true (hall hneeds)
    | some t =>
      obtain ⟨hmoved, hlast⟩ := usbRecvRequest_moved h hfirst
      refine iff_of_true ?_ fun _ => rfl
      rw [Option.bind_some]
      split
      · rename_i hmore
        apply (usbRecvRequest_isSome hmoved.stored rearm₂).mpr
        -- the first call has taken everything, or it has not added a byte
        rcases hlast with hempty | hsame
        · rw [hempty]
          exact hmoved.stored.requestLength_le
        · omega
      · rfl
  · rw [if_neg hheader, Option.bind_some]
    by_cases hmore : s.requestLength < s.headerLength
    · rw [if_pos ⟨Nat.not_lt.mp hheader, hmore⟩, usbRecvRequest_isSome h rearm₂]
      exact ⟨fun hfit _ => hfit, fun hall => hall (.inr hmore)⟩
    · rw [if_neg fun hc => hmore hc.2]
      exact iff_of_true rfl fun hneeds => absurd (hneeds.resolve_left hheader) hmore

/-- No copy of this step into the request buffer goes past its end. -/
def InBounds (s : TNG δ) : TickEvent δ → Prop
  | .main _ rearm₁ rearm₂ _ =>
    match s.pc with
    | .recv => (tngTryUsbRecv rearm₁ rearm₂ s).isSome = true
    | .shift => s.headerLength +
        (s.requestData.take (tngBufferSize - s.headerLength)).length ≤ s.requestData.length
    | _ => True
  | .dataOut chunk rearm₁ rearm₂ => ∀ usb, usbReceive chunk s.usb = some usb →
      (tngTryUsbRecv rearm₁ rearm₂
        { s with usb := usb, received := s.received ++ chunk }).isSome = true
  | .dataIn _ => True
  | .callback _ _ _ => True

/-- While a request is incomplete, what is fetched for it fits behind its bytes. -/
def FetchFits (s : TNG δ) : TickEvent δ → Prop
  | .main _ _ _ _ => s.pc = .recv → s.NeedsBytes →
      s.requestLength + s.usb.outBufferLength ≤ tngBufferSize
  | .dataOut chunk _ _ => (usbReceive chunk s.usb).isSome = true → s.NeedsBytes →
      s.requestLength + chunk.length ≤ tngBufferSize
  | .dataIn _ => True
  | .callback _ _ _ => True

instance (s : TNG δ) : ∀ e, Decidable (FetchFits s e)
  | .main _ _ _ _ => inferInstanceAs (Decidable (_ → _ → _))
  | .dataOut _ _ _ => inferInstanceAs (Decidable (_ → _ → _))
  | .dataIn _ | .callback _ _ _ => isTrue trivial

theorem inBounds_iff (s : TNG δ) (e : TickEvent δ) (h : s.Stored) :
    InBounds s e ↔ FetchFits s e := by
  cases e with
  | main headerFirst rearm₁ rearm₂ transmit =>
    unfold InBounds FetchFits
    cases s.pc with
    | recv =>
      have hfits := tngTryUsbRecv_isSome h rearm₁ rearm₂
      exact ⟨fun hall _ => hfits.mp hall, fun hall => hfits.mpr (hall rfl)⟩
    | shift => exact iff_of_true (shift_inBounds h.requestData_length) nofun
    | idle | load | compareLength | compareHeader | load2 | compareLength2 | compareHeader2
    | checkResponse | checkRequest | handle | send => exact iff_of_true trivial nofun
  | dataOut chunk rearm₁ rearm₂ =>
    unfold InBounds FetchFits
    -- a transfer that the endpoint does not accept changes nothing
    rcases hu : usbReceive chunk s.usb with - | usb
    · refine iff_of_true (fun usb husb => ?_) fun hsome => ?_
      · rw [hu] at husb
        cases husb
      · rw [hu] at hsome
        cases hsome
    · have hlength := (usbReceive_spec h.recv hu).2.2.2
      have hfits := tngTryUsbRecv_isSome (h.transfer hu) rearm₁ rearm₂
      constructor
      · intro hall _ hneeds
        have hroom := hfits.mp (hall usb hu) hneeds
        rwa [hlength] at hroom
      · intro hall usb' husb'
        obtain rfl := Option.some.inj (hu.symm.trans husb')
        apply hfits.mpr
        intro hneeds
        rw [hlength]
        exact hall (Option.isSome_of_eq_some hu) hneeds
  | dataIn transmit => exact Iff.rfl
  | callback device transmit data => exact Iff.rfl

/-- The condition of the theorem on a step. -/
def BufferFits (s : TNG δ) (e : TickEvent δ) : Prop := FetchFits s e ∧ StepShiftFits s e

instance (s : TNG δ) (e : TickEvent δ) : Decidable (BufferFits s e) :=
  inferInstanceAs (Decidable (_ ∧ _))

/-- What a step must not do: copy past the end of the buffer, or leave more in it than
there can be. -/
def KeepsBuffer (d : TNGDevice δ) (s : TNG δ) (e : TickEvent δ) : Prop :=
  InBounds s e ∧ ∀ s', tngStep d s e = some s' → s'.requestLength ≤ tngBufferSize

theorem keepsBuffer_iff (s : TNG δ) (e : TickEvent δ) (h : s.Stored) :
    KeepsBuffer d s e ∧ StepShiftFits s e ↔ BufferFits s e := by
  rw [KeepsBuffer, BufferFits, inBounds_iff s e h]
  constructor
  · rintro ⟨⟨hfetch, -⟩, hshift⟩
    exact ⟨hfetch, hshift⟩
  · rintro ⟨hfetch, hshift⟩
    exact ⟨⟨hfetch, fun s' hs => (requestLength_step_iff h hs).mpr hshift⟩, hshift⟩

/-- A step that subtracts has a successor. -/
theorem stepShiftFits_of_keeps {e : TickEvent δ} (h : s.Stored) (hkeeps : KeepsBuffer d s e) :
    StepShiftFits s e := by
  cases e with
  | main headerFirst rearm₁ rearm₂ transmit =>
    intro hpc
    have hs : tngStep d s (.main headerFirst rearm₁ rearm₂ transmit) =
        some { tngShiftRequest s with pc := .send } := by
      simp only [tngStep, tngTick, hpc]
    have hle := hkeeps.2 _ hs
    exact (shift_requestLength_iff h).mp hle
  | dataOut | dataIn | callback => trivial

/-- **The request buffer.**  In a run the fill level stays in bounds and no copy goes past
the end of the buffer exactly if every fetch for an incomplete request fits and no
subtraction wraps. -/
theorem tng_request_inBounds (d : TNGDevice δ) (device : δ) (es : List (TickEvent δ)) :
    (∀ pre post u, es = pre ++ post → run (tngStep d) (tngInit device) pre = some u →
      u.requestLength ≤ tngBufferSize ∧ ∀ e rest, post = e :: rest → InBounds u e) ↔
      Meets (tngStep d) BufferFits (tngInit device) es := by
  have hcongr : Meets (tngStep d) (KeepsBuffer d) (tngInit device) es ↔
      Meets (tngStep d) BufferFits (tngInit device) es := by
    refine meets_congr_meets (fun s e s' h hfits hs => stored_step s e s' h hfits.2 hs)
      (fun s e h => ?_) (stored_tngInit device) es
    rw [← keepsBuffer_iff (d := d) s e h]
    exact ⟨fun hkeeps => ⟨hkeeps, stepShiftFits_of_keeps h hkeeps⟩, And.left⟩
  constructor
  · intro hall
    rw [← hcongr, meets_iff_next]
    intro pre e post u hsplit hu
    refine ⟨(hall pre (e :: post) u hsplit hu).2 e post rfl, fun s' hs => ?_⟩
    -- the state behind the step is that of a longer prefix
    have hsplit' : es = (pre ++ [e]) ++ post := by
      rw [hsplit, List.append_assoc]
      rfl
    have hrun : run (tngStep d) (tngInit device) (pre ++ [e]) = some s' :=
      run_append_eq_some.mpr ⟨u, hu, (run_singleton u e).trans hs⟩
    exact (hall _ post s' hsplit' hrun).1
  · rintro hmeets pre post u rfl hu
    obtain ⟨hpre, hpost⟩ := hmeets.append hu
    have hstored : u.Stored := run_induct_meets
      (fun s e s' h hfits hs => stored_step s e s' h hfits.2 hs) (stored_tngInit device) hpre hu
    refine ⟨hstored.requestLength_le, ?_⟩
    rintro e rest rfl
    exact (inBounds_iff u e hstored).mpr hpost.1.1

/-- Four bytes of a header and then a transfer of 256 bytes, which is what the endpoint is
armed for: the copy ends four bytes behind the buffer. -/
theorem tng_request_overrun :
    ∃ u, run (tngStep quietDevice) (tngInit ()) [.dataOut [0, 0, 0, 0] true true] = some u ∧
      (usbReceive (List.replicate 256 0) u.usb).isSome = true ∧
      ¬ InBounds u (.dataOut (List.replicate 256 0) true true) := by
  have hrun : run (tngStep quietDevice) (tngInit ()) [.dataOut [0, 0, 0, 0] true true] = some
      (after (tngStep quietDevice) (tngInit ()) [.dataOut [0, 0, 0, 0] true true]) :=
    run_eq_after (by decide +kernel)
  have hmeets : Meets (tngStep quietDevice) StepShiftFits (tngInit ())
      [.dataOut [0, 0, 0, 0] true true] := by
    decide +kernel
  have hstored := run_induct_meets (stored_step (d := quietDevice)) (stored_tngInit ()) hmeets hrun
  refine ⟨_, hrun, by decide +kernel, ?_⟩
  rw [inBounds_iff _ _ hstored]
  decide +kernel

/-- A request of length 4 with uid 200: the move puts the 200 onto the length, and it is
subtracted from a fill count of 8. -/
example : ∃ s, run (tngStep quietDevice) (tngInit ())
    (.dataOut [200, 0, 0, 0, 4, 0, 0, 0] true true :: plainTicks 1) = some s ∧
      s.requestLength = 65344 :=
  ⟨_, run_eq_after (by decide +kernel), by decide +kernel⟩

/-! ### Bytes that are handled -/

/-- A request is handled only where it is complete, and taken from the buffer only with no
byte behind it. -/
def TakesRequest (s : TNG δ) : TickEvent δ → Prop
  | .main _ _ _ _ =>
    match s.pc with
    | .handle => s.Complete
    | .shift => s.requestLength ≤ s.headerLength
    | _ => True
  | .dataOut _ _ _ => True
  | .dataIn _ => True
  | .callback _ _ _ => True

instance (s : TNG δ) : Decidable s.Complete := inferInstanceAs (Decidable (_ ∧ _))

theorem takesRequest_main_iff {headerFirst rearm₁ rearm₂ transmit : Bool} :
    TakesRequest s (.main headerFirst rearm₁ rearm₂ transmit) ↔
      (s.pc = .handle → s.Complete) ∧ (s.pc = .shift → s.requestLength ≤ s.headerLength) := by
  unfold TakesRequest
  cases s.pc <;> simp

instance (s : TNG δ) (e : TickEvent δ) : Decidable (TakesRequest s e) := by
  cases e with
  | main headerFirst rearm₁ rearm₂ transmit => exact decidable_of_iff' _ takesRequest_main_iff
  | dataOut | dataIn | callback => exact isTrue trivial

/-- The received bytes fall into pieces, those that are kept in the request buffer and those
that have not been read; each handled message is a piece of its own. -/
structure Consumed (s : TNG δ) : Prop where
  stored : s.Stored
  long : ∀ m ∈ s.handled, 8 ≤ m.length
  stream : ∃ pieces kept, s.received = pieces.flatten ++ (kept ++ s.usb.unread) ∧
    s.handled.Sublist pieces ∧
      (kept = s.buffered ∨ s.pc = .shift ∧ s.Complete ∧ kept = s.buffered.drop s.headerLength)

theorem consumed_tngInit (device : δ) : Consumed (tngInit device) where
  stored := stored_tngInit device
  long := nofun
  stream := ⟨[], [], rfl, List.Sublist.refl _, .inl rfl⟩

theorem Consumed.kept (h : Consumed s) (hpc : s.pc ≠ .shift) :
    ∃ pieces, s.received = pieces.flatten ++ (s.buffered ++ s.usb.unread) ∧
      s.handled.Sublist pieces := by
  obtain ⟨pieces, kept, hstream, hhandled, hkept⟩ := h.stream
  rcases hkept with rfl | ⟨hshift, -⟩
  · exact ⟨pieces, hstream, hhandled⟩
  · exact absurd hshift hpc

/-- A step from a place in front of `shift` that changes neither the bytes nor the messages. -/
theorem Consumed.goto (h : Consumed s) (hpc : s.pc ≠ .shift) (hs' : s'.Stored)
    (hbytes : s'.buffered ++ s'.usb.unread = s.buffered ++ s.usb.unread)
    (hreceived : s'.received = s.received) (hhandled : s'.handled = s.handled) : Consumed s' := by
  obtain ⟨pieces, hstream, hpieces⟩ := h.kept hpc
  refine ⟨hs', hhandled ▸ h.long, pieces, s'.buffered, ?_, hhandled ▸ hpieces, .inl rfl⟩
  rw [hreceived, hstream, hbytes]

theorem Consumed.sendSide {usb : TFUSB} {device : δ} (h : Consumed s)
    (hu : usb.outBuffer = s.usb.outBuffer ∧ usb.outBufferLength = s.usb.outBufferLength ∧
      usb.outEndpoint = s.usb.outEndpoint) :
    Consumed { s with usb := usb, device := device } := by
  have hunread : usb.unread = s.usb.unread := by
    rw [TFUSB.unread, hu.1, hu.2.1, TFUSB.unread]
  refine ⟨⟨h.stored.allocated.sendSide hu, h.stored.requestData_length, h.stored.requestLength_le⟩, h.long,
    ?_⟩
  obtain ⟨pieces, kept, hstream, hrest⟩ := h.stream
  refine ⟨pieces, kept, ?_, hrest⟩
  rw [← hunread] at hstream
  exact hstream

theorem consumed_dataOut {chunk : List UInt8} {rearm₁ rearm₂ : Bool} (h : Consumed s)
    (hs : usbdTfpDataOut chunk rearm₁ rearm₂ s = some s') : Consumed s' := by
  obtain ⟨usb, hu, ht⟩ := Option.bind_eq_some_iff.mp hs
  obtain ⟨-, hempty, hunread, -⟩ := usbReceive_spec h.stored.recv hu
  have hmoved := tngTryUsbRecv_moved (h.stored.transfer hu) ht
  have hreceived := tngTryUsbRecv_received ht
  have hhandled : s'.handled = s.handled := by rw [hmoved.frame]
  obtain ⟨pieces, kept, hstream, hpieces, hkept⟩ := h.stream
  rw [hempty, List.append_nil] at hstream
  refine ⟨hmoved.stored, hhandled ▸ h.long, ?_⟩
  rcases hkept with rfl | ⟨hpc, hcomplete, rfl⟩
  · refine ⟨pieces, s'.buffered, ?_, hhandled ▸ hpieces, .inl rfl⟩
    show s'.received = _
    rw [hreceived, hmoved.bytes]
    show s.received ++ chunk = pieces.flatten ++ (s.buffered ++ usb.unread)
    rw [hstream, hunread, List.append_assoc]
  · -- a complete request is left alone
    have hcomplete' : TNG.Complete { s with usb := usb, received := s.received ++ chunk } :=
      hcomplete
    obtain rfl := tngTryUsbRecv_of_complete hcomplete' ht
    refine ⟨pieces, s.buffered.drop s.headerLength, ?_, hpieces, .inr ⟨hpc, hcomplete, rfl⟩⟩
    show s.received ++ chunk =
      pieces.flatten ++ (s.buffered.drop s.headerLength ++ usb.unread)
    rw [hstream, hunread, List.append_assoc]

/-- Handling a complete request makes it a piece. -/
theorem consumed_handle (h : Consumed s) (hpc : s.pc = .handle) (hcomplete : s.Complete)
    (hs : tngHandleRequest d s = some s') : Consumed { s' with pc := .shift } := by
  obtain ⟨⟨device, response, ret⟩, -, rfl⟩ := Option.map_eq_some_iff.mp hs
  obtain ⟨pieces, hstream, hpieces⟩ := h.kept (by rw [hpc]; nofun)
  have hmessage : s.requestData.take s.headerLength = s.buffered.take s.headerLength := by
    rw [TNG.buffered, List.take_take, Nat.min_eq_left hcomplete.2]
  have hlength : (s.requestData.take s.headerLength).length = s.headerLength := by
    rw [List.length_take_of_le]
    rw [h.stored.requestData_length]
    exact hcomplete.2.trans h.stored.requestLength_le
  refine ⟨⟨h.stored.recv, h.stored.requestData_length, h.stored.requestLength_le⟩, ?_, ?_⟩
  · intro m hm
    rcases List.mem_append.mp hm with hold | hnew
    · exact h.long m hold
    · rw [List.mem_singleton.mp hnew, hlength]
      exact hcomplete.1
  · refine ⟨pieces ++ [s.requestData.take s.headerLength], s.buffered.drop s.headerLength, ?_,
      hpieces.append (List.Sublist.refl _), .inr ⟨rfl, hcomplete, rfl⟩⟩
    show s.received = (pieces ++ [s.requestData.take s.headerLength]).flatten ++
      (s.buffered.drop s.headerLength ++ s.usb.unread)
    rw [hstream, List.flatten_append, hmessage, List.flatten_cons, List.flatten_nil,
      List.append_nil, List.append_assoc, ← List.append_assoc (s.buffered.take _),
      List.take_append_drop]

/-- With nothing behind the request the buffer is empty afterwards. -/
theorem consumed_shift (h : Consumed s) (hglue : s.requestLength ≤ s.headerLength) :
    Consumed { tngShiftRequest s with pc := .send } := by
  have hs : tngShiftRequest s = { s with requestLength := 0 } := if_neg (Nat.not_lt.mpr hglue)
  obtain ⟨pieces, kept, hstream, hpieces, hkept⟩ := h.stream
  rw [hs]
  refine ⟨⟨h.stored.recv, h.stored.requestData_length, Nat.zero_le _⟩, h.long, ?_⟩
  rcases hkept with rfl | ⟨-, hcomplete, rfl⟩
  · -- a request for another device is a piece that is not handled
    refine ⟨pieces ++ [s.buffered], [], ?_, List.sublist_append_of_sublist_left hpieces, .inl rfl⟩
    show s.received = (pieces ++ [s.buffered]).flatten ++ ([] ++ s.usb.unread)
    rw [hstream, List.flatten_append, List.flatten_cons, List.flatten_nil, List.append_nil,
      List.append_assoc, List.nil_append]
  · refine ⟨pieces, [], ?_, hpieces, .inl rfl⟩
    have hnil : s.buffered.drop s.headerLength = [] := by
      apply List.drop_eq_nil_of_le
      rw [h.stored.length_buffered]
      exact hglue
    rwa [hnil] at hstream

theorem consumed_tick {headerFirst rearm₁ rearm₂ transmit : Bool} (h : Consumed s)
    (hcond : TakesRequest s (.main headerFirst rearm₁ rearm₂ transmit))
    (hs : tngTick d headerFirst rearm₁ rearm₂ transmit s = some s') : Consumed s' := by
  have hstored : s'.Stored := by
    apply stored_step s (.main headerFirst rearm₁ rearm₂ transmit) s' h.stored _ hs
    intro hpc hless
    rw [takesRequest_main_iff] at hcond
    exact absurd (hcond.2 hpc) (Nat.not_le.mpr hless)
  unfold TakesRequest at hcond
  unfold tngTick at hs
  cases e : s.pc with
  | recv =>
    simp only [e] at hs
    obtain ⟨t, ht, rfl⟩ := Option.map_eq_some_iff.mp hs
    have hmoved := tngTryUsbRecv_moved h.stored ht
    have hhandled : t.handled = s.handled := by rw [hmoved.frame]
    have hreceived := tngTryUsbRecv_received ht
    exact h.goto (by rw [e]; rintro ⟨⟩) hstored hmoved.bytes hreceived hhandled
  | handle =>
    simp only [e] at hs hcond
    obtain ⟨t, ht, rfl⟩ := Option.map_eq_some_iff.mp hs
    exact consumed_handle h e hcond ht
  | shift =>
    simp only [e, Option.some.injEq] at hs hcond
    subst hs
    exact consumed_shift h hcond
  | send =>
    simp only [e, Option.some.injEq] at hs
    subst hs
    obtain ⟨usb, response, hsend, hside⟩ := tngSendResponse_eq transmit s
    rw [hsend] at hstored ⊢
    have hunread : usb.unread = s.usb.unread := by
      rw [TFUSB.unread, hside.1, hside.2.1, TFUSB.unread]
    exact h.goto (by rw [e]; rintro ⟨⟩) hstored (congrArg (s.buffered ++ ·) hunread) rfl rfl
  | idle | load | compareLength | compareHeader | load2 | compareLength2 | compareHeader2
  | checkResponse | checkRequest =>
    simp only [e, Option.some.injEq] at hs
    subst hs
    exact h.goto (by rw [e]; rintro ⟨⟩) hstored rfl rfl rfl

theorem consumed_step (s : TNG δ) (e : TickEvent δ) (s' : TNG δ) (h : Consumed s)
    (hcond : TakesRequest s e) (hs : tngStep d s e = some s') : Consumed s' := by
  cases e with
  | main headerFirst rearm₁ rearm₂ transmit => exact consumed_tick h hcond hs
  | dataOut chunk rearm₁ rearm₂ => exact consumed_dataOut h hs
  | dataIn transmit =>
    obtain rfl := Option.some.inj hs
    exact h.sendSide (usbdTfpDataIn_recvSide transmit s.usb)
  | callback device transmit data =>
    simp only [tngStep] at hs
    split at hs
    · obtain rfl := Option.some.inj hs
      exact h.sendSide (usbSend_recvSide transmit data s.usb)
    · cases hs

theorem length_flatten_of_sublist {handled pieces : List (List UInt8)}
    (hsub : handled.Sublist pieces) (hlong : ∀ m ∈ handled, 8 ≤ m.length) :
    8 * handled.length ≤ pieces.flatten.length := by
  induction hsub with
  | slnil => exact Nat.le_refl _
  | cons m _ ih =>
    rw [List.flatten_cons, List.length_append]
    exact Nat.le_trans (ih hlong) (Nat.le_add_left _ _)
  | cons_cons m _ ih =>
    have hm := hlong m List.mem_cons_self
    have hrest := ih fun x hx => hlong x (List.mem_cons_of_mem m hx)
    rw [List.flatten_cons, List.length_append, List.length_cons]
    omega

/-- **Progress.**  In a run whose requests are taken so, every handled message is a piece of
the received bytes of its own, with a whole header. -/
theorem tng_handled_consume (d : TNGDevice δ) (device : δ) {es : List (TickEvent δ)} {t : TNG δ}
    (hm : Meets (tngStep d) TakesRequest (tngInit device) es)
    (hr : run (tngStep d) (tngInit device) es = some t) :
    8 * t.handled.length ≤ t.received.length ∧ (∀ m ∈ t.handled, 8 ≤ m.length) ∧
      ∃ pieces, pieces.flatten <+: t.received ∧ t.handled.Sublist pieces := by
  have h := run_induct_meets consumed_step (consumed_tngInit device) hm hr
  obtain ⟨pieces, kept, hstream, hpieces, -⟩ := h.stream
  have hprefix : pieces.flatten <+: t.received := ⟨_, hstream.symm⟩
  refine ⟨?_, h.long, pieces, hprefix, hpieces⟩
  exact (length_flatten_of_sublist hpieces h.long).trans hprefix.length_le

/-- Two requests, one after the other. -/
def separateRun : List (TickEvent Unit) :=
  .dataOut (plainRequest 1) true true :: plainTicks 1 ++
    .dataOut (plainRequest 2) true true :: plainTicks 1

theorem tng_handled_consume_two :
    8 * (after (tngStep quietDevice) (tngInit ()) separateRun).handled.length ≤ 16 ∧
      (after (tngStep quietDevice) (tngInit ()) separateRun).handled.length = 2 := by
  refine ⟨?_, by decide +kernel⟩
  exact (tng_handled_consume quietDevice () (by decide +kernel)
    (run_eq_after (by decide +kernel))).1.trans (by decide +kernel)

/-- A header of length 0 is handled in every tick, and without any byte so is the zeroed
buffer. -/
theorem tng_handled_zero :
    (∃ s, run (tngStep quietDevice) (tngInit ()) (plainTicks 1) = some s ∧
      s.received = [] ∧ s.handled.length = 1) ∧
    ∃ s, run (tngStep quietDevice) (tngInit ())
        (.dataOut [0, 0, 0, 0, 0, 1, 0, 0] true true :: plainTicks 2) = some s ∧
      s.received.length = 8 ∧ s.handled.length = 2 ∧
      ¬ 8 * s.handled.length ≤ s.received.length :=
  ⟨⟨_, run_eq_after (by decide +kernel), by decide +kernel, by decide +kernel⟩,
    ⟨_, run_eq_after (by decide +kernel), by decide +kernel, by decide +kernel,
      by decide +kernel⟩⟩

end Bricklib2
