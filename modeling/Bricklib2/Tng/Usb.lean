/-
Bricklib2/Tng/Usb.lean

The USB buffers of a TNG module (usb.c, usbd_tfp.c) and the two endpoints they
are attached to.  `TFUSB` is the struct of the source; `outEndpoint` is what
the USB peripheral knows about the OUT endpoint: `some n` while it is armed
for a transfer of at most `n` bytes into `out_buffer`.

The calls into the vendor HAL return a status that the environment chooses:
`rearm` stands for `USBD_LL_PrepareReceive(..) == USBD_OK` and `transmit` for
`USBD_LL_Transmit(..) == USBD_OK`.  A copy that would run past the end of its
destination array is `none`.
-/
import Bricklib2.Library.Bytes
import Bricklib2.Protocols.Tfp

namespace Bricklib2

open Bytes

/-- The bytes of a USB buffer. -/
def usbBufferSize : ℕ := 256

/-- `USBD_TFP_OUT_SIZE`, the size `usbd_tfp_init` arms the OUT endpoint with. -/
def usbdTfpOutSize : ℕ := 64

/-- The static variables of `usb.c`. -/
structure TFUSB where
  inBuffer : List UInt8
  outBuffer : List UInt8
  inBufferLength : ℕ
  outBufferLength : ℕ
  transferInProgress : Bool
  inBufferStorageLength : ℕ
  inBufferStorage : List UInt8
  outEndpoint : Option ℕ
  deriving DecidableEq

/-- The zeroed buffers after `usb_init`, once the host has configured the
device and `usbd_tfp_init` has armed the OUT endpoint. -/
def usbInit : TFUSB where
  inBuffer := List.replicate usbBufferSize 0
  outBuffer := List.replicate usbBufferSize 0
  inBufferLength := 0
  outBufferLength := 0
  transferInProgress := false
  inBufferStorageLength := 0
  inBufferStorage := List.replicate usbBufferSize 0
  outEndpoint := some usbdTfpOutSize

/-! ### Sending -/

/-- Hands the stored bytes to the host, if no transfer is under way. -/
def usbSendStorage (transmit : Bool) (u : TFUSB) : Bool × TFUSB :=
  if u.inBufferStorageLength ≠ 0 ∧ u.transferInProgress = false then
    let u := { u with
      inBuffer := overwrite u.inBuffer 0 (u.inBufferStorage.take u.inBufferStorageLength)
      inBufferLength := u.inBufferStorageLength
      transferInProgress := true }
    if transmit then
      (true, { u with inBufferStorageLength := 0 })
    else
      (false, { u with transferInProgress := false })
  else
    (false, u)

/-- Keeps bytes for the next transfer, if there is room. -/
def usbAppendToStorage (data : List UInt8) (u : TFUSB) : Bool × TFUSB :=
  if u.inBufferStorageLength + data.length < usbBufferSize then
    (true, { u with
      inBufferStorage := overwrite u.inBufferStorage u.inBufferStorageLength data
      inBufferStorageLength := u.inBufferStorageLength + data.length })
  else
    (false, u)

/-- Sends bytes at once or keeps them behind those that wait. -/
def usbSend (transmit : Bool) (data : List UInt8) (u : TFUSB) : Bool × TFUSB :=
  if u.inBufferStorageLength > 0 then
    match usbAppendToStorage data u with
    | (true, u) => (true, (usbSendStorage transmit u).2)
    | (false, u) => (false, u)
  else if u.transferInProgress then
    usbAppendToStorage data u
  else
    let u := { u with
      inBuffer := overwrite u.inBuffer 0 data
      inBufferLength := data.length
      transferInProgress := true }
    if transmit then
      (true, u)
    else
      usbAppendToStorage data { u with transferInProgress := false }

/-- The data-in interrupt: the running transfer is done. -/
def usbdTfpDataIn (transmit : Bool) (u : TFUSB) : TFUSB :=
  (usbSendStorage transmit { u with transferInProgress := false }).2

/-! ### Receiving -/

/-- The host has sent something. -/
def usbCanRecv (u : TFUSB) : Bool := u.outBufferLength != 0

/-- `usb_recv(data + off, ..)`: the number of bytes received, the destination
array and the buffers.  `max_length` is not looked at by the source. -/
def usbRecv (rearm : Bool) (data : List UInt8) (off : ℕ) (u : TFUSB) :
    Option (ℕ × List UInt8 × TFUSB) :=
  if u.outBufferLength = 0 then
    some (0, data, u)
  else
    let length := u.outBufferLength
    if off + length ≤ data.length then
      let data := overwrite data off (u.outBuffer.take length)
      if rearm then
        some (length, data, { u with outBufferLength := 0, outEndpoint := some usbBufferSize })
      else
        some (0, data, u)
    else
      none

/-- The peripheral has finished a transfer of `chunk` into the armed buffer
and raises the data-out interrupt, which adds `USBD_LL_GetRxDataSize`. -/
def usbReceive (chunk : List UInt8) (u : TFUSB) : Option TFUSB :=
  match u.outEndpoint with
  | some n =>
    if chunk.length ≤ n then
      some { u with
        outBuffer := overwrite u.outBuffer 0 chunk
        outBufferLength := u.outBufferLength + chunk.length
        outEndpoint := none }
    else
      none
  | none => none

/-! ### Storage invariant of the receive side -/

/-- The endpoint is armed only while `out_buffer` holds no unread byte. -/
structure TFUSB.RecvInv (u : TFUSB) : Prop where
  outBuffer_length : u.outBuffer.length = usbBufferSize
  outBufferLength_le : u.outBufferLength ≤ usbBufferSize
  armed_empty : ∀ n, u.outEndpoint = some n → u.outBufferLength = 0
  armed_le : ∀ n, u.outEndpoint = some n → n ≤ usbBufferSize

/-- The bytes in `out_buffer` that have not been read yet. -/
def TFUSB.unread (u : TFUSB) : List UInt8 := u.outBuffer.take u.outBufferLength

theorem TFUSB.RecvInv.length_unread {u : TFUSB} (h : u.RecvInv) :
    u.unread.length = u.outBufferLength := by
  rw [TFUSB.unread, List.length_take_of_le]
  rw [h.outBuffer_length]
  exact h.outBufferLength_le

theorem usbInit_recvInv : usbInit.RecvInv where
  outBuffer_length := List.length_replicate
  outBufferLength_le := Nat.zero_le _
  armed_empty _ _ := rfl
  armed_le n h := by
    obtain rfl := Option.some.inj h
    decide

/-- Sending does not touch the receive side. -/
theorem usbSend_recvSide (transmit : Bool) (data : List UInt8) (u : TFUSB) :
    (usbSend transmit data u).2.outBuffer = u.outBuffer ∧
      (usbSend transmit data u).2.outBufferLength = u.outBufferLength ∧
      (usbSend transmit data u).2.outEndpoint = u.outEndpoint := by
  simp only [usbSend, usbAppendToStorage, usbSendStorage]
  grind

theorem usbdTfpDataIn_recvSide (transmit : Bool) (u : TFUSB) :
    (usbdTfpDataIn transmit u).outBuffer = u.outBuffer ∧
      (usbdTfpDataIn transmit u).outBufferLength = u.outBufferLength ∧
      (usbdTfpDataIn transmit u).outEndpoint = u.outEndpoint := by
  simp only [usbdTfpDataIn, usbSendStorage]
  grind

/-- The unread bytes after a transfer are exactly its chunk. -/
theorem usbReceive_spec {chunk : List UInt8} {u u' : TFUSB} (h : u.RecvInv)
    (hr : usbReceive chunk u = some u') :
    u'.RecvInv ∧ u.unread = [] ∧ u'.unread = chunk ∧ u'.outBufferLength = chunk.length := by
  unfold usbReceive at hr
  rcases e : u.outEndpoint with - | n
  · simp [e] at hr
  · have hempty := h.armed_empty n e
    have hn := h.armed_le n e
    simp only [e] at hr
    split at hr
    · obtain rfl := Option.some.inj hr
      have hfit : 0 + chunk.length ≤ u.outBuffer.length := by
        rw [h.outBuffer_length]; omega
      have htake := take_overwrite chunk (Nat.zero_le u.outBuffer.length)
      rw [Nat.zero_add, List.take_zero, List.nil_append] at htake
      refine ⟨⟨?_, ?_, ?_, ?_⟩, ?_, ?_, ?_⟩
      · rw [length_overwrite hfit]; exact h.outBuffer_length
      · simp only [hempty]; omega
      · intro m hm; simp at hm
      · intro m hm; simp at hm
      · simp [TFUSB.unread, hempty]
      · simp only [TFUSB.unread, hempty, Nat.zero_add]
        exact htake
      · simp [hempty]
    · simp at hr

end Bricklib2
