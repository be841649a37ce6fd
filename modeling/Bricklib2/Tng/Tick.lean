/-
Bricklib2/Tng/Tick.lean

`tng_tick` and the USB data-out interrupt (tng.c) as one machine.

The main loop and the interrupt share the request buffer, its fill count and
the USB buffers, so the machine works in micro steps: `TickPc` names the
places of `tng_tick` between two accesses to shared memory, and a data-out
interrupt may fire before every micro step.  The two parts of `tng_tick` that
run with the interrupt disabled are one micro step each.

    idle → load → compareLength or compareHeader → recv
         → load2 → compareLength2 or compareHeader2
         → checkResponse → checkRequest → handle → shift → send → idle

C does not say which side of `tng_request_length >= tng_request_header->length`
is loaded first, so the event of a load does.

`received` and `handled` are ghost fields: every byte the peripheral has put
into `out_buffer`, and every message given to `tng_handle_message`.  `tickFree`
and `freeTicks` count the ticks that found the response buffer free.

The handlers are parameters (`TNGDevice`): framing does not depend on what a
request means.
-/
import Bricklib2.Library.Machine
import Bricklib2.Tng.Usb

namespace Bricklib2

open Bytes

/-- `TNGHandleMessageResponse` -/
inductive TNGHandleMessageResponse
  | newMessage
  | empty
  | notSupported
  | invalidParameter
  | none
  deriving DecidableEq

/-- The bytes of a request or response buffer. -/
def tngBufferSize : ℕ := 256

/-- What a firmware plugs into `tng_tick`: its uid and its two handlers.  A
handler reads the request buffer and writes the response buffer; `none` means
that it does not return (`NVIC_SystemReset`). -/
structure TNGDevice (δ : Type) where
  tngGetUid : δ → ℕ
  tngHandleMessage : δ → List UInt8 → List UInt8 →
    Option (δ × List UInt8 × TNGHandleMessageResponse)
  handleMessage : δ → List UInt8 → List UInt8 →
    Option (δ × List UInt8 × TNGHandleMessageResponse)

/-- Where `tng_tick` is.  The argument is what the comparison has already loaded, the
value of `tng_request_length` or that of `tng_request_header->length`. -/
inductive TickPc
  | idle
  | load
  | compareLength (length : ℕ)
  | compareHeader (header : ℕ)
  | recv
  | load2
  | compareLength2 (length : ℕ)
  | compareHeader2 (header : ℕ)
  | checkResponse
  | checkRequest
  | handle
  | shift
  | send
  deriving DecidableEq

/-- The static variables of `tng.c` with the device behind it, and the messages handled so far. -/
structure TNG (δ : Type) where
  requestData : List UInt8
  responseData : List UInt8
  requestLength : ℕ
  usb : TFUSB
  pc : TickPc
  device : δ
  received : List UInt8
  handled : List (List UInt8)
  tickFree : Bool
  freeTicks : ℕ

/-- After the start the buffers are empty and no tick is under way. -/
def tngInit {δ : Type} (device : δ) : TNG δ where
  requestData := List.replicate tngBufferSize 0
  responseData := List.replicate tngBufferSize 0
  requestLength := 0
  usb := usbInit
  pc := .idle
  device := device
  received := []
  handled := []
  tickFree := false
  freeTicks := 0

variable {δ : Type}

/-- `tng_request_header->length` -/
def TNG.headerLength (s : TNG δ) : ℕ := tfpGetLengthFromMessage s.requestData

/-- `tng_response_header->length` -/
def TNG.responseLength (s : TNG δ) : ℕ := tfpGetLengthFromMessage s.responseData

/-- The request is for this module or for all of them. -/
def tngIsValidRequest (d : TNGDevice δ) (s : TNG δ) : Bool :=
  let uid := tfpGetUidFromMessage s.requestData
  !(uid != 0 && d.tngGetUid s.device != uid)

/-! ### Receiving -/

/-- `tng_request_length += usb_recv(tng_request_data + tng_request_length, ..)` -/
def usbRecvRequest (rearm : Bool) (s : TNG δ) : Option (TNG δ) :=
  (usbRecv rearm s.requestData s.requestLength s.usb).map fun (n, data, usb) =>
    { s with requestData := data, requestLength := s.requestLength + n, usb := usb }

/-- Receives up to the header, and with the header up to the end of the message. -/
def tngTryUsbRecv (rearm₁ rearm₂ : Bool) (s : TNG δ) : Option (TNG δ) :=
  (if s.requestLength < tfpHeaderSize then usbRecvRequest rearm₁ s else some s).bind fun s =>
    if tfpHeaderSize ≤ s.requestLength ∧ s.requestLength < s.headerLength then
      usbRecvRequest rearm₂ s
    else
      some s

/-- The data-out interrupt, `usbd_tfp_data_out`. -/
def usbdTfpDataOut (chunk : List UInt8) (rearm₁ rearm₂ : Bool) (s : TNG δ) :
    Option (TNG δ) :=
  (usbReceive chunk s.usb).bind fun usb =>
    tngTryUsbRecv rearm₁ rearm₂ { s with usb := usb, received := s.received ++ chunk }

/-! ### Handling a request -/

/-- The error code of a response that is expected. -/
def tngFinishResponse (ret : TNGHandleMessageResponse) (response : List UInt8) : List UInt8 :=
  if tfpIsReturnExpected response then
    let response :=
      if tfpGetLengthFromMessage response = 0 then tfpSetLength response 8 else response
    match ret with
    | .empty => tfpSetError response 0
    | .notSupported => tfpSetError response 2
    | .invalidParameter => tfpSetError response 1
    | .newMessage | .none => response
  else
    response

/-- First the common messages, then those of the device. -/
def tngDispatch (d : TNGDevice δ) (device : δ) (request response : List UInt8) :
    Option (δ × List UInt8 × TNGHandleMessageResponse) :=
  match d.tngHandleMessage device request response with
  | some (device, response, .notSupported) => d.handleMessage device request response
  | r => r

/-- The request in the buffer is handled, and its response gets its header and length. -/
def tngHandleRequest (d : TNGDevice δ) (s : TNG δ) : Option (TNG δ) :=
  let response := tfpSetLength (overwrite s.responseData 0 (s.requestData.take tfpHeaderSize)) 0
  (tngDispatch d s.device s.requestData response).map fun (device, response, ret) =>
    { s with
      responseData := tngFinishResponse ret response
      device := device
      handled := s.handled ++ [s.requestData.take s.headerLength] }

/-- `tng_request_length -= tng_request_header->length`, a `uint16_t` -/
def TNG.subtractHeader (s : TNG δ) : TNG δ :=
  { s with requestLength := (s.requestLength + 2 ^ 16 - s.headerLength) % 2 ^ 16 }

/-- Drop the handled request.  The source moves `tng_request_data` up by one
message, `memmove(data + length, data, 256 - length)`, and subtracts the length that
the header has after that. -/
def tngShiftRequest (s : TNG δ) : TNG δ :=
  if s.headerLength < s.requestLength then
    TNG.subtractHeader { s with
      requestData :=
        overwrite s.requestData s.headerLength
          (s.requestData.take (tngBufferSize - s.headerLength)) }
  else
    { s with requestLength := 0 }

/-- The end of the tick: offer a pending response to `usb_send`. -/
def tngSendResponse (transmit : Bool) (s : TNG δ) : TNG δ :=
  if 8 ≤ s.responseLength then
    match usbSend transmit (s.responseData.take s.responseLength) s.usb with
    | (true, usb) => { s with usb := usb, responseData := tfpSetLength s.responseData 0 }
    | (false, usb) => { s with usb := usb }
  else
    s

/-! ### The machine -/

/-- One micro step of `tng_tick`.  `headerFirst` says which side of a comparison is
loaded first. -/
def tngTick (d : TNGDevice δ) (headerFirst rearm₁ rearm₂ transmit : Bool) (s : TNG δ) :
    Option (TNG δ) :=
  match s.pc with
  | .idle =>
    some { s with
      tickFree := s.responseLength == 0
      pc := if usbCanRecv s.usb then .recv else .load }
  | .load =>
    some { s with
      pc := if headerFirst then .compareHeader s.headerLength else .compareLength s.requestLength }
  | .compareLength length =>
    some { s with pc := if s.headerLength ≤ length then .recv else .send }
  | .compareHeader header =>
    some { s with pc := if header ≤ s.requestLength then .recv else .send }
  | .recv => (tngTryUsbRecv rearm₁ rearm₂ s).map fun s => { s with pc := .load2 }
  | .load2 =>
    some { s with
      pc := if headerFirst then .compareHeader2 s.headerLength
        else .compareLength2 s.requestLength }
  | .compareLength2 length =>
    some { s with pc := if s.headerLength ≤ length then .checkResponse else .send }
  | .compareHeader2 header =>
    some { s with pc := if header ≤ s.requestLength then .checkResponse else .send }
  | .checkResponse =>
    some { s with pc := if s.responseLength = 0 then .checkRequest else .send }
  | .checkRequest =>
    some { s with pc := if tngIsValidRequest d s then .handle else .shift }
  | .handle => (tngHandleRequest d s).map fun s => { s with pc := .shift }
  | .shift => some { tngShiftRequest s with pc := .send }
  | .send =>
    some { tngSendResponse transmit s with
      pc := .idle
      freeTicks := if s.tickFree then s.freeTicks + 1 else s.freeTicks }

/-- What can happen next.  `callback` is a message of the device's own
`communication_tick`, with what that does to the device. -/
inductive TickEvent (δ : Type)
  | main (headerFirst rearm₁ rearm₂ transmit : Bool)
  | dataOut (chunk : List UInt8) (rearm₁ rearm₂ : Bool)
  | dataIn (transmit : Bool)
  | callback (device : δ) (transmit : Bool) (data : List UInt8)

/-- A step of the main loop or of an interrupt. -/
def tngStep (d : TNGDevice δ) (s : TNG δ) : TickEvent δ → Option (TNG δ)
  | .main headerFirst rearm₁ rearm₂ transmit => tngTick d headerFirst rearm₁ rearm₂ transmit s
  | .dataOut chunk rearm₁ rearm₂ => usbdTfpDataOut chunk rearm₁ rearm₂ s
  | .dataIn transmit => some { s with usb := usbdTfpDataIn transmit s.usb }
  | .callback device transmit data =>
    if s.pc = .idle then
      some { s with usb := (usbSend transmit data s.usb).2, device := device }
    else
      none

/-! ### What receiving does to the request buffer -/

/-- A request is complete: the buffer holds at least the message its header
announces. -/
def TNG.Complete (s : TNG δ) : Prop := 8 ≤ s.headerLength ∧ s.headerLength ≤ s.requestLength

/-- The storage of the receive path is as the code allocates it. -/
structure TNG.Allocated (s : TNG δ) : Prop where
  recv : s.usb.RecvInv
  requestData_length : s.requestData.length = tngBufferSize

/-- And the request is in it. -/
structure TNG.Stored (s : TNG δ) : Prop where
  recv : s.usb.RecvInv
  requestData_length : s.requestData.length = tngBufferSize
  requestLength_le : s.requestLength ≤ tngBufferSize

theorem TNG.Stored.allocated {s : TNG δ} (h : s.Stored) : s.Allocated :=
  ⟨h.recv, h.requestData_length⟩

/-- The bytes in the request buffer. -/
def TNG.buffered (s : TNG δ) : List UInt8 := s.requestData.take s.requestLength

theorem TNG.Stored.length_buffered {s : TNG δ} (h : s.Stored) :
    s.buffered.length = s.requestLength := by
  rw [TNG.buffered, List.length_take_of_le]
  rw [h.requestData_length]
  exact h.requestLength_le

/-- Once five bytes are buffered the length byte is one of them. -/
theorem TNG.headerLength_eq_buffered {s : TNG δ} (h : 5 ≤ s.requestLength) :
    s.headerLength = tfpGetLengthFromMessage s.buffered :=
  (tfpGetLength_take h).symm

/-- `Received s s'`: bytes have moved from the USB buffer to the end of the
request buffer, none is lost, and nothing else has changed. -/
structure Received (s s' : TNG δ) : Prop where
  stored : s'.Stored
  bytes : s'.buffered ++ s'.usb.unread = s.buffered ++ s.usb.unread
  grows : s.requestLength ≤ s'.requestLength
  header : s'.requestLength ≤ 4 → s'.headerLength = s.headerLength
  frame : s' = { s with
    requestData := s'.requestData, requestLength := s'.requestLength, usb := s'.usb }

theorem Received.refl {s : TNG δ} (h : s.Stored) : Received s s :=
  ⟨h, rfl, le_rfl, fun _ => rfl, rfl⟩

theorem Received.trans {s s' s'' : TNG δ} (h : Received s s') (h' : Received s' s'') :
    Received s s'' where
  stored := h'.stored
  bytes := h'.bytes.trans h.bytes
  grows := h.grows.trans h'.grows
  header hl := (h'.header hl).trans (h.header (h'.grows.trans hl))
  frame := by
    rw [h'.frame, h.frame]

/-- With the endpoint re-armed, `usb_recv` empties the USB buffer. -/
theorem usbRecvRequest_spec {s s' : TNG δ} (h : s.Stored)
    (hr : usbRecvRequest true s = some s') : Received s s' ∧ s'.usb.unread = [] := by
  unfold usbRecvRequest usbRecv at hr
  by_cases hz : s.usb.outBufferLength = 0
  · rw [if_pos hz] at hr
    obtain rfl := Option.some.inj hr
    exact ⟨⟨h, rfl, le_rfl, fun _ => rfl, rfl⟩, by simp [TFUSB.unread, hz]⟩
  · rw [if_neg hz] at hr
    by_cases hfit : s.requestLength + s.usb.outBufferLength ≤ s.requestData.length
    · simp only [if_pos hfit, if_true, Option.map_some, Option.some.injEq] at hr
      subst hr
      have hlen := h.recv.length_unread
      have hoff : s.requestLength ≤ s.requestData.length := by
        rw [h.requestData_length]; exact h.requestLength_le
      have hcopy : s.requestLength + s.usb.unread.length ≤ s.requestData.length := by
        rw [hlen]; exact hfit
      have htake := take_overwrite s.usb.unread hoff
      rw [hlen] at htake
      refine ⟨⟨⟨⟨h.recv.outBuffer_length, Nat.zero_le _, fun _ _ => rfl, ?_⟩, ?_, ?_⟩, ?_,
        Nat.le_add_right _ _, ?_, rfl⟩, rfl⟩
      · intro n hn
        obtain rfl := Option.some.inj hn
        exact le_rfl
      · exact (length_overwrite hcopy).trans h.requestData_length
      · rw [← h.requestData_length]; exact hfit
      · -- the new bytes follow the old ones, and the USB buffer is empty
        simp only [TNG.buffered, TFUSB.unread, List.take_zero, List.append_nil]
        exact htake
      · intro hl
        simp only [TNG.headerLength, tfpGetLengthFromMessage, byteAt,
          List.getD_eq_getElem?_getD]
        have hl' : s.requestLength + s.usb.unread.length ≤ 4 := by rw [hlen]; exact hl
        rw [← TFUSB.unread, getElem?_overwrite_above hoff hl']
    · simp [if_neg hfit] at hr

/-- Receiving leaves a complete request alone; otherwise it takes everything
the USB buffer has. -/
theorem tngTryUsbRecv_spec {s s' : TNG δ} (h : s.Stored)
    (hr : tngTryUsbRecv true true s = some s') :
    Received s s' ∧
      (s' = s ∧ 8 ≤ s.requestLength ∧ s.headerLength ≤ s.requestLength ∨
        s'.usb.unread = []) := by
  obtain ⟨t, ht, hs'⟩ := Option.bind_eq_some_iff.mp hr
  have hfirst : Received s t ∧ (t = s ∧ 8 ≤ s.requestLength ∨ t.usb.unread = []) := by
    by_cases hlt : s.requestLength < tfpHeaderSize
    · rw [if_pos hlt] at ht
      have hspec := usbRecvRequest_spec h ht
      exact ⟨hspec.1, Or.inr hspec.2⟩
    · rw [if_neg hlt] at ht
      obtain rfl := Option.some.inj ht
      exact ⟨Received.refl h, Or.inl ⟨rfl, Nat.not_lt.mp hlt⟩⟩
  by_cases hmore : tfpHeaderSize ≤ t.requestLength ∧ t.requestLength < t.headerLength
  · rw [if_pos hmore] at hs'
    have hspec := usbRecvRequest_spec hfirst.1.stored hs'
    exact ⟨hfirst.1.trans hspec.1, Or.inr hspec.2⟩
  · rw [if_neg hmore] at hs'
    obtain rfl := Option.some.inj hs'
    refine ⟨hfirst.1, ?_⟩
    rcases hfirst.2 with ⟨rfl, h8⟩ | hempty
    · exact Or.inl ⟨rfl, h8, Nat.not_lt.mp fun hlt => hmore ⟨h8, hlt⟩⟩
    · exact Or.inr hempty

theorem tngTryUsbRecv_of_complete {s s' : TNG δ} {rearm₁ rearm₂ : Bool} (h : s.Complete)
    (hr : tngTryUsbRecv rearm₁ rearm₂ s = some s') : s' = s := by
  have h8 : ¬ s.requestLength < tfpHeaderSize := Nat.not_lt.mpr (h.1.trans h.2)
  have hle : ¬ (tfpHeaderSize ≤ s.requestLength ∧ s.requestLength < s.headerLength) :=
    fun hlt => absurd h.2 (Nat.not_le.mpr hlt.2)
  simp only [tngTryUsbRecv, if_neg h8, Option.bind_some, if_neg hle] at hr
  exact (Option.some.inj hr).symm

end Bricklib2
