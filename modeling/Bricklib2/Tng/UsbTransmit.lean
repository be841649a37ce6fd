/-
Bricklib2/Tng/UsbTransmit.lean

The transmit side of the USB buffers over whole runs: `usb_send`, and the data-in
interrupt that completes a transfer.  A call that finds a transfer in progress, or
bytes in the storage, appends to the storage; a transmit takes the whole storage.

Main results:

* `usbTransmit_fifo` — what `usb_send` has accepted is what has been transmitted
  and what is still stored, in this order;
* `usbTransmit_live` — exactly the failed transmits that leave a nearly full
  storage behind can make the next `usb_send` give up.
-/
import Bricklib2.Library.Machine
import Bricklib2.Tng.Usb

namespace Bricklib2

open Bytes Machine

variable {u u' : TFUSB} {transmit : Bool} {data : List UInt8}

/-! ### One call -/

theorem usbBufferSize_pos : 0 < usbBufferSize := by decide

/-- The bytes that wait for a transmit. -/
def TFUSB.stored (u : TFUSB) : List UInt8 := u.inBufferStorage.take u.inBufferStorageLength

/-- The arrays of the transmit side have their size. -/
structure TFUSB.SendInv (u : TFUSB) : Prop where
  inBuffer_length : u.inBuffer.length = usbBufferSize
  storage_length : u.inBufferStorage.length = usbBufferSize
  stored_lt : u.inBufferStorageLength < usbBufferSize

theorem TFUSB.SendInv.length_stored (h : u.SendInv) :
    u.stored.length = u.inBufferStorageLength := by
  rw [TFUSB.stored, List.length_take_of_le]
  rw [h.storage_length]
  exact h.stored_lt.le

/-- What a call of `usb_send` can do. -/
inductive UsbSend (transmit : Bool) (data : List UInt8) (u : TFUSB) : Bool → TFUSB → Prop
  | refused (hstored : 0 < u.inBufferStorageLength)
      (hfull : usbBufferSize ≤ u.inBufferStorageLength + data.length) :
      UsbSend transmit data u false u
  | stored (inBuffer : List UInt8) (inBufferLength : ℕ)
      (hroom : u.inBufferStorageLength + data.length < usbBufferSize)
      (hlength : inBuffer.length = usbBufferSize)
      (hidle : u.transferInProgress = false → transmit = false)
      (hbusy : u.transferInProgress = true →
        inBuffer = u.inBuffer ∧ inBufferLength = u.inBufferLength) :
      UsbSend transmit data u true { u with
        inBuffer := inBuffer
        inBufferLength := inBufferLength
        inBufferStorage := overwrite u.inBufferStorage u.inBufferStorageLength data
        inBufferStorageLength := u.inBufferStorageLength + data.length }
  | drained (hidle : u.transferInProgress = false) (htransmit : transmit = true)
      (hstored : 0 < u.inBufferStorageLength)
      (hroom : u.inBufferStorageLength + data.length < usbBufferSize) :
      UsbSend transmit data u true { u with
        inBuffer := overwrite u.inBuffer 0 (u.stored ++ data)
        inBufferLength := u.inBufferStorageLength + data.length
        transferInProgress := true
        inBufferStorage := overwrite u.inBufferStorage u.inBufferStorageLength data
        inBufferStorageLength := 0 }
  | direct (hidle : u.transferInProgress = false) (htransmit : transmit = true)
      (hempty : u.inBufferStorageLength = 0) :
      UsbSend transmit data u true { u with
        inBuffer := overwrite u.inBuffer 0 data
        inBufferLength := data.length
        transferInProgress := true }

/-- Appending puts the data behind what is stored. -/
theorem take_append_stored (h : u.SendInv) (data : List UInt8) :
    (overwrite u.inBufferStorage u.inBufferStorageLength data).take
      (u.inBufferStorageLength + data.length) = u.stored ++ data := by
  apply take_overwrite
  rw [h.storage_length]
  exact h.stored_lt.le

/-- The state after an append that has room. -/
def TFUSB.appended (data : List UInt8) (u : TFUSB) : TFUSB :=
  { u with
    inBufferStorage := overwrite u.inBufferStorage u.inBufferStorageLength data
    inBufferStorageLength := u.inBufferStorageLength + data.length }

theorem usbAppendToStorage_room (hroom : u.inBufferStorageLength + data.length < usbBufferSize) :
    usbAppendToStorage data u = (true, u.appended data) := if_pos hroom

/-- After a failed transmit the flag is what it was. -/
theorem usbSend_failed {inBuffer : List UInt8} {inBufferLength : ℕ}
    (hidle : u.transferInProgress = false)
    (hroom : u.inBufferStorageLength + data.length < usbBufferSize)
    (hlength : inBuffer.length = usbBufferSize) :
    UsbSend false data u true { u.appended data with
      inBuffer := inBuffer
      inBufferLength := inBufferLength
      transferInProgress := false } := by
  have hmove : UsbSend false data u true { u.appended data with
      inBuffer := inBuffer, inBufferLength := inBufferLength } :=
    .stored inBuffer inBufferLength hroom hlength (fun _ => rfl) fun hbusy => by
      rw [hidle] at hbusy
      cases hbusy
  obtain ⟨inBuffer', outBuffer, inBufferLength', outBufferLength, flag, length, storage, armed⟩ := u
  obtain rfl : flag = false := hidle
  exact hmove

/-- A call that finds the storage in use appends, and tries to send if it can. -/
theorem usbSend_append (h : u.SendInv) (hstored : 0 < u.inBufferStorageLength)
    (hroom : u.inBufferStorageLength + data.length < usbBufferSize) :
    UsbSend transmit data u (usbSend transmit data u).1 (usbSend transmit data u).2 := by
  have hsend : usbSend transmit data u = (true, (usbSendStorage transmit (u.appended data)).2) := by
    simp only [usbSend, if_pos hstored, usbAppendToStorage_room hroom]
  have hsome : (u.appended data).inBufferStorageLength ≠ 0 :=
    (hstored.trans_le (Nat.le_add_right _ _)).ne'
  rw [hsend]
  by_cases hidle : u.transferInProgress = false
  · have hguard : (u.appended data).inBufferStorageLength ≠ 0 ∧
        (u.appended data).transferInProgress = false := ⟨hsome, hidle⟩
    have htake : (u.appended data).inBufferStorage.take (u.appended data).inBufferStorageLength =
        u.stored ++ data := take_append_stored h data
    cases transmit with
    | true =>
      simp only [usbSendStorage, if_pos hguard, htake, if_true]
      exact .drained hidle rfl hstored hroom
    | false =>
      have hlength : (overwrite u.inBuffer 0 (u.stored ++ data)).length = usbBufferSize := by
        rw [length_overwrite, h.inBuffer_length]
        rw [List.length_append, h.length_stored, h.inBuffer_length]
        omega
      simp only [usbSendStorage, if_pos hguard, htake, Bool.false_eq_true, if_false]
      exact usbSend_failed hidle hroom hlength
  · have hbusy : u.transferInProgress = true := Bool.eq_true_of_not_eq_false hidle
    have hguard : ¬ ((u.appended data).inBufferStorageLength ≠ 0 ∧
        (u.appended data).transferInProgress = false) := fun hg => hidle hg.2
    simp only [usbSendStorage, if_neg hguard]
    exact .stored _ _ hroom h.inBuffer_length (fun hfalse => absurd hfalse hidle)
      fun _ => ⟨rfl, rfl⟩

theorem usbSend_cases (h : u.SendInv) (transmit : Bool)
    (hlen : data.length ≤ tfpMessageMaxLength) :
    UsbSend transmit data u (usbSend transmit data u).1 (usbSend transmit data u).2 := by
  by_cases hstored : 0 < u.inBufferStorageLength
  · by_cases hroom : u.inBufferStorageLength + data.length < usbBufferSize
    · exact usbSend_append h hstored hroom
    · have hrefused : usbSend transmit data u = (false, u) := by
        simp only [usbSend, if_pos hstored, usbAppendToStorage, if_neg hroom]
      rw [hrefused]
      exact .refused hstored (Nat.not_lt.mp hroom)
  · have hfit : 0 + data.length ≤ u.inBuffer.length := by
      rw [h.inBuffer_length]
      exact (Nat.zero_add _).trans_le (hlen.trans (by decide))
    have hempty : u.inBufferStorageLength = 0 := Nat.eq_zero_of_not_pos hstored
    have hroom : u.inBufferStorageLength + data.length < usbBufferSize := by
      rw [hempty, Nat.zero_add]
      exact hlen.trans_lt (by decide)
    by_cases hidle : u.transferInProgress = false
    · cases transmit with
      | true =>
        simp only [usbSend, if_neg hstored, hidle, Bool.false_eq_true, if_false, if_true]
        exact .direct hidle rfl hempty
      | false =>
        have hlength : (overwrite u.inBuffer 0 data).length = usbBufferSize := by
          rw [length_overwrite hfit, h.inBuffer_length]
        have hsend : usbSend false data u = (true, { u.appended data with
            inBuffer := overwrite u.inBuffer 0 data
            inBufferLength := data.length
            transferInProgress := false }) := by
          simp only [usbSend, if_neg hstored, hidle, Bool.false_eq_true, if_false]
          exact if_pos hroom
        rw [hsend]
        exact usbSend_failed hidle hroom hlength
    · have hbusy : u.transferInProgress = true := Bool.eq_true_of_not_eq_false hidle
      have hsend : usbSend transmit data u = (true, u.appended data) := by
        simp only [usbSend, if_neg hstored, hbusy, if_true, usbAppendToStorage_room hroom]
      rw [hsend]
      exact .stored _ _ hroom h.inBuffer_length (fun hfalse => absurd hfalse hidle)
        fun _ => ⟨rfl, rfl⟩

/-- What the data-in interrupt can do. -/
inductive UsbDataIn (transmit : Bool) (u : TFUSB) : TFUSB → Prop
  | idle (inBuffer : List UInt8) (inBufferLength : ℕ) (hlength : inBuffer.length = usbBufferSize)
      (hwhy : u.inBufferStorageLength = 0 ∨ transmit = false) :
      UsbDataIn transmit u { u with
        inBuffer := inBuffer
        inBufferLength := inBufferLength
        transferInProgress := false }
  | drained (htransmit : transmit = true) (hstored : 0 < u.inBufferStorageLength) :
      UsbDataIn transmit u { u with
        inBuffer := overwrite u.inBuffer 0 u.stored
        inBufferLength := u.inBufferStorageLength
        transferInProgress := true
        inBufferStorageLength := 0 }

theorem usbdTfpDataIn_cases (h : u.SendInv) (transmit : Bool) :
    UsbDataIn transmit u (usbdTfpDataIn transmit u) := by
  by_cases hempty : u.inBufferStorageLength = 0
  · have hdone : usbdTfpDataIn transmit u = { u with transferInProgress := false } := by
      simp only [usbdTfpDataIn, usbSendStorage]
      exact congrArg Prod.snd (if_neg fun hguard => hguard.1 hempty)
    rw [hdone]
    exact .idle u.inBuffer u.inBufferLength h.inBuffer_length (Or.inl hempty)
  · cases transmit with
    | true =>
      simp only [usbdTfpDataIn, usbSendStorage, ne_eq, hempty, not_false_eq_true, and_self, if_true]
      exact .drained rfl (Nat.pos_of_ne_zero hempty)
    | false =>
      have hlength : (overwrite u.inBuffer 0 u.stored).length = usbBufferSize := by
        rw [length_overwrite, h.inBuffer_length]
        rw [h.length_stored, h.inBuffer_length, Nat.zero_add]
        exact h.stored_lt.le
      simp only [usbdTfpDataIn, usbSendStorage, ne_eq, hempty, not_false_eq_true, and_self, if_true,
        Bool.false_eq_true, if_false]
      exact .idle _ _ hlength (Or.inr rfl)

/-! ### The machine -/

/-- The buffers, the IN endpoint and what has passed through: `busy` while the
peripheral sends `in_buffer`, whose bytes were `inFlight` when it started; the bytes
of all successful transmits; those of all calls that returned true. -/
structure UsbLink where
  usb : TFUSB
  busy : Bool
  inFlight : List UInt8
  sent : List UInt8
  accepted : List UInt8
  deriving DecidableEq

/-- The argument `transmit` says whether `USBD_LL_Transmit` returns `USBD_OK`. -/
inductive UsbEvent
  | send (transmit : Bool) (data : List UInt8)
  | dataIn (transmit : Bool)
  deriving DecidableEq

/-- A transmit has succeeded if the flag has been set between `before` and `after`. -/
def UsbLink.record (before after : TFUSB) (s : UsbLink) : UsbLink :=
  if before.transferInProgress = false ∧ after.transferInProgress = true then
    { s with
      usb := after
      busy := true
      inFlight := after.inBuffer.take after.inBufferLength
      sent := s.sent ++ after.inBuffer.take after.inBufferLength }
  else
    { s with usb := after }

/-- The data-in interrupt comes when a running transfer is complete. -/
def usbStep (s : UsbLink) : UsbEvent → Option UsbLink
  | .send transmit data =>
    if data.length ≤ tfpMessageMaxLength then
      let result := usbSend transmit data s.usb
      some { s.record s.usb result.2 with
        accepted := if result.1 then s.accepted ++ data else s.accepted }
    else
      none
  | .dataIn transmit =>
    if s.busy then
      let done := { s.usb with transferInProgress := false }
      some (UsbLink.record done (usbdTfpDataIn transmit s.usb) { s with busy := false })
    else
      none

/-- After the start nothing was sent. -/
def usbLinkInit : UsbLink := ⟨usbInit, false, [], [], []⟩

/-! ### Exactly once, in order -/

/-- The invariant of the transmit side. -/
structure UsbLink.Inv (s : UsbLink) : Prop where
  buffers : s.usb.SendInv
  flag : s.usb.transferInProgress = s.busy
  inFlight : s.busy = true → s.usb.inBuffer.take s.usb.inBufferLength = s.inFlight
  fifo : s.sent ++ s.usb.stored = s.accepted

theorem usbLinkInit_inv : usbLinkInit.Inv where
  buffers := ⟨List.length_replicate, List.length_replicate, by decide⟩
  flag := rfl
  inFlight h := by cases h
  fifo := rfl

theorem record_same {before after : TFUSB} (s : UsbLink)
    (h : after.transferInProgress = before.transferInProgress) :
    s.record before after = { s with usb := after } := by
  apply if_neg
  rintro ⟨hidle, hstarted⟩
  rw [h, hidle] at hstarted
  cases hstarted

theorem record_started {before after : TFUSB} (s : UsbLink)
    (hidle : before.transferInProgress = false) (hstarted : after.transferInProgress = true) :
    s.record before after = { s with
      usb := after
      busy := true
      inFlight := after.inBuffer.take after.inBufferLength
      sent := s.sent ++ after.inBuffer.take after.inBufferLength } :=
  if_pos ⟨hidle, hstarted⟩

/-- A successful transmit hands over the bytes copied to `in_buffer`. -/
theorem take_transmitted (inBuffer bytes : List UInt8) :
    (overwrite inBuffer 0 bytes).take bytes.length = bytes := by
  have htake := take_overwrite bytes (Nat.zero_le inBuffer.length)
  rwa [Nat.zero_add, List.take_zero, List.nil_append] at htake

theorem length_inBuffer_overwrite (h : u.SendInv) {bytes : List UInt8}
    (hfit : bytes.length ≤ usbBufferSize) :
    (overwrite u.inBuffer 0 bytes).length = usbBufferSize := by
  rw [length_overwrite, h.inBuffer_length]
  rw [Nat.zero_add, h.inBuffer_length]
  exact hfit

theorem length_storage_overwrite (h : u.SendInv)
    (hroom : u.inBufferStorageLength + data.length < usbBufferSize) :
    (overwrite u.inBufferStorage u.inBufferStorageLength data).length = usbBufferSize := by
  rw [length_overwrite, h.storage_length]
  rw [h.storage_length]
  exact hroom.le

/-- One call of `usb_send`, as a step of the machine. -/
theorem usbStep_send {s s' : UsbLink} (h : s.usb.SendInv)
    (hstep : usbStep s (.send transmit data) = some s') :
    data.length ≤ tfpMessageMaxLength ∧ ∃ ok usb, UsbSend transmit data s.usb ok usb ∧
      s' = { s.record s.usb usb with
        accepted := if ok then s.accepted ++ data else s.accepted } := by
  simp only [usbStep] at hstep
  by_cases hlen : data.length ≤ tfpMessageMaxLength
  swap
  · rw [if_neg hlen] at hstep
    cases hstep
  rw [if_pos hlen] at hstep
  exact ⟨hlen, _, _, usbSend_cases h transmit hlen, (Option.some.inj hstep).symm⟩

theorem UsbLink.Inv.send {s s' : UsbLink} (h : s.Inv)
    (hstep : usbStep s (.send transmit data) = some s') : s'.Inv := by
  obtain ⟨hlen, ok, usb, hmove, rfl⟩ := usbStep_send h.buffers hstep
  cases hmove with
  | refused hstored hfull =>
    rw [record_same]
    · exact h
    · rfl
  | stored inBuffer inBufferLength hroom hlength hidle hbusy =>
    have hstored := take_append_stored h.buffers data
    rw [record_same]
    · refine ⟨⟨hlength, length_storage_overwrite h.buffers hroom, hroom⟩, h.flag,
        fun hb => ?_, ?_⟩
      · obtain ⟨rfl, rfl⟩ := hbusy (h.flag.trans hb)
        exact h.inFlight hb
      · show s.sent ++ (overwrite _ _ _).take _ = s.accepted ++ data
        rw [hstored, ← List.append_assoc, h.fifo]
    · rfl
  | drained hidle htransmit hstored hroom =>
    have hbytes : (overwrite s.usb.inBuffer 0 (s.usb.stored ++ data)).take
        (s.usb.inBufferStorageLength + data.length) = s.usb.stored ++ data := by
      rw [← h.buffers.length_stored, ← List.length_append]
      exact take_transmitted _ _
    rw [record_started s hidle rfl]
    refine ⟨⟨length_inBuffer_overwrite h.buffers ?_, length_storage_overwrite h.buffers hroom,
      usbBufferSize_pos⟩, rfl, fun _ => rfl, ?_⟩
    · rw [List.length_append, h.buffers.length_stored]
      exact hroom.le
    · show (s.sent ++ (overwrite _ _ _).take _) ++ (List.take 0 _) = s.accepted ++ data
      rw [hbytes, List.take_zero, List.append_nil, ← List.append_assoc, h.fifo]
  | direct hidle htransmit hempty =>
    have hstored : s.usb.stored = [] := by
      rw [TFUSB.stored, hempty, List.take_zero]
    rw [record_started s hidle rfl]
    refine ⟨⟨length_inBuffer_overwrite h.buffers (hlen.trans (by decide)),
      h.buffers.storage_length, h.buffers.stored_lt⟩, rfl, fun _ => rfl, ?_⟩
    show (s.sent ++ (overwrite _ _ _).take _) ++ s.usb.stored = s.accepted ++ data
    rw [take_transmitted, ← h.fifo, hstored, List.append_nil, List.append_nil]

theorem UsbLink.Inv.dataIn {s s' : UsbLink} (h : s.Inv)
    (hstep : usbStep s (.dataIn transmit) = some s') : s'.Inv := by
  simp only [usbStep] at hstep
  split_ifs at hstep with hbusy
  obtain rfl := Option.some.inj hstep
  have hmove := usbdTfpDataIn_cases h.buffers transmit
  generalize usbdTfpDataIn transmit s.usb = usb at hmove ⊢
  cases hmove with
  | idle inBuffer inBufferLength hlength hwhy =>
    rw [record_same]
    · refine ⟨⟨hlength, h.buffers.storage_length, h.buffers.stored_lt⟩, rfl, fun hb => ?_,
        h.fifo⟩
      cases hb
    · rfl
  | drained htransmit hstored =>
    have hbytes : (overwrite s.usb.inBuffer 0 s.usb.stored).take s.usb.inBufferStorageLength =
        s.usb.stored := by
      rw [← h.buffers.length_stored]
      exact take_transmitted _ _
    rw [record_started _ rfl rfl]
    refine ⟨⟨length_inBuffer_overwrite h.buffers ?_, h.buffers.storage_length,
      usbBufferSize_pos⟩, rfl,
      fun _ => rfl, ?_⟩
    · rw [h.buffers.length_stored]
      exact h.buffers.stored_lt.le
    · show (s.sent ++ (overwrite _ _ _).take _) ++ (List.take 0 _) = s.accepted
      rw [hbytes, List.take_zero, List.append_nil, h.fifo]

theorem UsbLink.Inv.step {s s' : UsbLink} {e : UsbEvent} (h : s.Inv)
    (hstep : usbStep s e = some s') : s'.Inv := by
  cases e with
  | send transmit data => exact h.send hstep
  | dataIn transmit => exact h.dataIn hstep

theorem usbLink_inv_run {events : List UsbEvent} {t : UsbLink}
    (hrun : run usbStep usbLinkInit events = some t) : t.Inv :=
  run_induct (fun _ _ _ h hs => h.step hs) usbLinkInit_inv hrun

/-- In every run the transmitted bytes and the stored ones are the accepted ones,
and while a transfer runs `in_buffer` holds its bytes and no call changes it. -/
theorem usbTransmit_fifo {events : List UsbEvent} {t : UsbLink}
    (hrun : run usbStep usbLinkInit events = some t) :
    t.sent ++ t.usb.stored = t.accepted ∧
      (t.busy = true → t.usb.inBuffer.take t.usb.inBufferLength = t.inFlight) ∧
      ∀ transmit data t', usbStep t (.send transmit data) = some t' → t.busy = true →
        t'.usb.inBuffer = t.usb.inBuffer := by
  have h := usbLink_inv_run hrun
  refine ⟨h.fifo, h.inFlight, fun transmit data t' hstep hbusy => ?_⟩
  obtain ⟨-, ok, usb, hmove, rfl⟩ := usbStep_send h.buffers hstep
  have hflag : t.usb.transferInProgress = true := h.flag.trans hbusy
  cases hmove with
  | refused hstored hfull =>
    rw [record_same]
    rfl
  | stored inBuffer inBufferLength hroom hlength hidle hkept =>
    rw [record_same]
    · exact (hkept hflag).1
    · rfl
  | drained hidle htransmit hstored hroom =>
    rw [hflag] at hidle
    cases hidle
  | direct hidle htransmit hempty =>
    rw [hflag] at hidle
    cases hidle

/-- A direct transmit, a call behind it, a completion whose transmit fails, and a
call that takes the storage along. -/
def usbFifoRun : List UsbEvent :=
  [.send true [1, 2, 3, 4, 5, 6, 7, 8], .send true [11, 12, 13, 14, 15, 16, 17, 18],
    .dataIn false, .send true [21, 22, 23, 24, 25, 26, 27, 28]]

theorem usbTransmit_fifo_run :
    let t := after usbStep usbLinkInit usbFifoRun
    t.sent.length = 24 ∧ t.sent ++ t.usb.stored = t.accepted :=
  ⟨by decide +kernel, (usbTransmit_fifo (run_eq_after (by decide +kernel))).1⟩

/-! ### Giving up -/

/-- While the endpoint is idle, a call accepts its data or tries to transmit.  It
has tried if the outcome of `USBD_LL_Transmit` makes a difference. -/
def UsbLink.Live (s : UsbLink) : Prop :=
  s.busy = false → ∀ data : List UInt8, tfpMessageMinLength ≤ data.length →
    data.length ≤ tfpMessageMaxLength →
    (∀ transmit, (usbSend transmit data s.usb).1 = true) ∨
      usbSend true data s.usb ≠ usbSend false data s.usb

/-- With this much in the storage, the longest message still fits. -/
def usbStorageRoom : ℕ := usbBufferSize - 1 - tfpMessageMaxLength

/-- A transmit that fails leaves room in the storage. -/
def UsbEvent.LeavesRoom (s : UsbLink) : UsbEvent → Prop
  | .send false data =>
    s.busy = false → s.usb.inBufferStorageLength + data.length ≤ usbStorageRoom
  | .dataIn false => s.usb.inBufferStorageLength ≤ usbStorageRoom
  | .send true _ | .dataIn true => True

theorem usbSend_refused (hstored : 0 < u.inBufferStorageLength)
    (hfull : usbBufferSize ≤ u.inBufferStorageLength + data.length) (transmit : Bool) :
    usbSend transmit data u = (false, u) := by
  simp only [usbSend, if_pos hstored, usbAppendToStorage, if_neg (Nat.not_lt.mpr hfull)]

theorem live_iff {s : UsbLink} (h : s.Inv) :
    s.Live ↔ (s.busy = false → s.usb.inBufferStorageLength ≤ usbStorageRoom) := by
  constructor
  · intro hlive hidle
    by_contra hmore
    have hfull : usbBufferSize ≤ s.usb.inBufferStorageLength +
        (List.replicate tfpMessageMaxLength (0 : UInt8)).length := by
      rw [List.length_replicate]
      simp only [usbStorageRoom, usbBufferSize, tfpMessageMaxLength] at hmore ⊢
      omega
    have hrefused := usbSend_refused ((Nat.zero_le _).trans_lt (Nat.not_le.mp hmore)) hfull
    rcases hlive hidle (List.replicate tfpMessageMaxLength 0) (by decide) (by decide) with
      haccepted | htried
    · have htrue := haccepted true
      rw [hrefused] at htrue
      cases htrue
    · exact htried ((hrefused true).trans (hrefused false).symm)
  · intro hroom hidle data _ hmax
    left
    intro transmit
    have hmove := usbSend_cases h.buffers transmit hmax
    have hle := hroom hidle
    generalize usbSend transmit data s.usb = result at hmove ⊢
    obtain ⟨ok, usb⟩ := result
    cases hmove with
    | refused hstored hfull =>
      simp only [usbStorageRoom, usbBufferSize, tfpMessageMaxLength] at hle hfull hmax
      omega
    | stored => rfl
    | drained => rfl
    | direct => rfl

theorem live_send {s s' : UsbLink} (h : s.Inv)
    (hlive : s.busy = false → s.usb.inBufferStorageLength ≤ usbStorageRoom)
    (hstep : usbStep s (.send transmit data) = some s') :
    (s'.busy = false → s'.usb.inBufferStorageLength ≤ usbStorageRoom) ↔
      UsbEvent.LeavesRoom s (.send transmit data) := by
  obtain ⟨hlen, ok, usb, hmove, rfl⟩ := usbStep_send h.buffers hstep
  cases hmove with
  | refused hstored hfull =>
    -- with the endpoint idle there would have been room
    have hbusy : s.busy = true := by
      by_contra hidle
      have hle := hlive (Bool.eq_false_of_not_eq_true hidle)
      simp only [usbStorageRoom, usbBufferSize, tfpMessageMaxLength] at hle hfull hlen
      omega
    rw [record_same]
    · simp only [UsbEvent.LeavesRoom, hbusy, Bool.true_eq_false, false_implies]
      cases transmit <;> exact Iff.rfl
    · rfl
  | stored inBuffer inBufferLength hroom hlength hidle hkept =>
    rw [record_same]
    · cases transmit with
      | true =>
        have hbusy : s.busy = true := by
          rw [← h.flag]
          by_contra hfalse
          cases hidle (Bool.eq_false_of_not_eq_true hfalse)
        simp only [hbusy, Bool.true_eq_false, false_implies, UsbEvent.LeavesRoom]
      | false => exact Iff.rfl
    · rfl
  | drained hidle htransmit hstored hroom =>
    subst htransmit
    rw [record_started s hidle rfl]
    simp only [Bool.true_eq_false, false_implies, UsbEvent.LeavesRoom]
  | direct hidle htransmit hempty =>
    subst htransmit
    rw [record_started s hidle rfl]
    simp only [Bool.true_eq_false, false_implies, UsbEvent.LeavesRoom]

theorem live_dataIn {s s' : UsbLink} (h : s.Inv)
    (hstep : usbStep s (.dataIn transmit) = some s') :
    (s'.busy = false → s'.usb.inBufferStorageLength ≤ usbStorageRoom) ↔
      UsbEvent.LeavesRoom s (.dataIn transmit) := by
  simp only [usbStep] at hstep
  split_ifs at hstep with hbusy
  obtain rfl := Option.some.inj hstep
  have hmove := usbdTfpDataIn_cases h.buffers transmit
  generalize usbdTfpDataIn transmit s.usb = usb at hmove ⊢
  cases hmove with
  | idle inBuffer inBufferLength hlength hwhy =>
    rw [record_same]
    · simp only [true_implies]
      cases transmit with
      | true =>
        have hempty : s.usb.inBufferStorageLength = 0 := by
          rcases hwhy with hempty | hfalse
          · exact hempty
          · cases hfalse
        rw [hempty]
        exact iff_of_true (Nat.zero_le _) trivial
      | false => exact Iff.rfl
    · rfl
  | drained htransmit hstored =>
    subst htransmit
    rw [record_started _ rfl rfl]
    simp only [Bool.true_eq_false, false_implies, UsbEvent.LeavesRoom]

/-- A step keeps the link live exactly if it leaves room. -/
theorem live_step {s s' : UsbLink} {e : UsbEvent} (h : s.Inv) (hlive : s.Live)
    (hstep : usbStep s e = some s') : s'.Live ↔ e.LeavesRoom s := by
  rw [live_iff (h.step hstep)]
  cases e with
  | send transmit data => exact live_send h ((live_iff h).mp hlive) hstep
  | dataIn transmit => exact live_dataIn h hstep

/-- In a run the link is live in all states exactly if every failed transmit leaves
room for the longest message. -/
theorem usbTransmit_live {events : List UsbEvent} {t : UsbLink}
    (hrun : run usbStep usbLinkInit events = some t) :
    (∀ pre post s, events = pre ++ post → run usbStep usbLinkInit pre = some s → s.Live) ↔
      Meets usbStep (fun s e => e.LeavesRoom s) usbLinkInit events := by
  have hlive : usbLinkInit.Live := (live_iff usbLinkInit_inv).mpr fun _ => by decide
  apply meets_iff_reached (I := UsbLink.Inv)
  · exact fun s e s' h hstep => h.step hstep
  · exact fun s e s' h hl hstep => live_step h hl hstep
  · exact usbLinkInit_inv
  · exact hlive
  · exact hrun

/-- One message that is sent, and one whose completion fails. -/
theorem usbTransmit_live_run :
    (∀ pre post s, usbFifoRun = pre ++ post → run usbStep usbLinkInit pre = some s → s.Live) ↔
      Meets usbStep (fun s e => e.LeavesRoom s) usbLinkInit usbFifoRun :=
  usbTransmit_live (run_eq_after (by decide +kernel))

/-- Three failing transmits of 80 bytes and one of 8. -/
def usbWedgedRun : List UsbEvent :=
  [.send false (List.replicate 80 0), .send false (List.replicate 80 0),
    .send false (List.replicate 80 0), .send false (List.replicate 8 0)]

/-- The endpoint is idle, and every further message is refused without a transmit. -/
theorem usbTransmit_wedged :
    ∃ t, run usbStep usbLinkInit usbWedgedRun = some t ∧ t.busy = false ∧ ¬ t.Live ∧
      ∀ transmit data, tfpMessageMinLength ≤ data.length → usbSend transmit data t.usb =
        (false, t.usb) := by
  have hrun : run usbStep usbLinkInit usbWedgedRun =
      some (after usbStep usbLinkInit usbWedgedRun) := run_eq_after (by decide +kernel)
  have hlength : (after usbStep usbLinkInit usbWedgedRun).usb.inBufferStorageLength = 248 := by
    decide +kernel
  have hidle : (after usbStep usbLinkInit usbWedgedRun).busy = false := by decide +kernel
  refine ⟨_, hrun, hidle, ?_, fun transmit data hmin => ?_⟩
  · rw [live_iff (usbLink_inv_run hrun), hlength]
    exact fun hlive => absurd (hlive hidle) (by decide)
  · apply usbSend_refused
    · rw [hlength]
      decide
    · rw [hlength]
      simp only [usbBufferSize, tfpMessageMinLength] at hmin ⊢
      omega

end Bricklib2
