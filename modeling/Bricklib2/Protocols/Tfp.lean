/-
Bricklib2/Protocols/Tfp.lean

The Tinkerforge protocol header.  The code overlays the packed struct
`TFPMessageHeader` on a byte buffer, so a header field is a function of the
buffer:

    byte 0..3  uid (little endian)     byte 6  other_options:2 authentication:1
    byte 4     length                          return_expected:1 sequence_num:4
    byte 5     fid                     byte 7  future_use:6 error:2

Bit-fields are allocated from the least significant bit, as gcc does on the
little-endian targets of the library.
-/
import Mathlib.Algebra.Group.Nat.Defs
import Mathlib.Data.List.GetD

namespace Bricklib2

/-- `sizeof(TFPMessageHeader)` -/
def tfpHeaderSize : ℕ := 8

/-- The header alone. -/
def tfpMessageMinLength : ℕ := 8

/-- A header and 72 bytes of payload. -/
def tfpMessageMaxLength : ℕ := 80

/-- Byte `i` of a buffer; bytes behind its end are never read. -/
def byteAt (data : List UInt8) (i : ℕ) : UInt8 := data.getD i 0

/-- Little-endian 32-bit word at `i`. -/
def wordAt (data : List UInt8) (i : ℕ) : ℕ :=
  (byteAt data i).toNat + 2 ^ 8 * (byteAt data (i + 1)).toNat
    + 2 ^ 16 * (byteAt data (i + 2)).toNat + 2 ^ 24 * (byteAt data (i + 3)).toNat

/-! ### Header fields -/

/-- `header->uid` -/
def tfpGetUidFromMessage (message : List UInt8) : ℕ := wordAt message 0

/-- `header->length` -/
def tfpGetLengthFromMessage (message : List UInt8) : ℕ := (byteAt message 4).toNat

/-- `header->fid` -/
def tfpGetFidFromMessage (message : List UInt8) : ℕ := (byteAt message 5).toNat

/-- `header->return_expected` -/
def tfpIsReturnExpected (message : List UInt8) : Bool := (byteAt message 6).toNat.testBit 3

/-- `header->length = length` -/
def tfpSetLength (message : List UInt8) (length : ℕ) : List UInt8 :=
  message.set 4 (UInt8.ofNat length)

/-- `header->error = error`; the six `future_use` bits below it stay. -/
def tfpSetError (message : List UInt8) (error : ℕ) : List UInt8 :=
  message.set 7 (UInt8.ofNat ((byteAt message 7).toNat % 64 + 64 * (error % 4)))

/-- `tfp_make_default_header`: a callback header, sequence number 0 and return
expected. -/
def tfpMakeDefaultHeader (message : List UInt8) (uid length fid : ℕ) : List UInt8 :=
  [UInt8.ofNat uid, UInt8.ofNat (uid / 2 ^ 8), UInt8.ofNat (uid / 2 ^ 16),
    UInt8.ofNat (uid / 2 ^ 24), UInt8.ofNat length, UInt8.ofNat fid, 8, 0]
    ++ message.drop tfpHeaderSize

/-! ### Base58 -/

/-- `TFP_UID_STR_MAX_LENGTH`, the room for a uid in a message. -/
def tfpUidStrMaxLength : ℕ := 8

/-- `TFP_BASE58_STR_SIZE`, the room for a number in base 58. -/
def tfpBase58StrSize : ℕ := 8

/-- `TFP_BASE58_STR` -/
def tfpBase58Str : List UInt8 :=
  "123456789abcdefghijkmnopqrstuvwxyzABCDEFGHJKLMNPQRSTUVWXYZ".toList.map
    fun c => UInt8.ofNat c.toNat

/-- The digits in the order the division loop finds them, least significant
first.  `reverse_str` has
room for eight, and 32 bits need at most six. -/
def base58ReverseStr : (rounds : ℕ) → ℕ → List UInt8
  | 0, _ => []
  | rounds + 1, value =>
    if 58 ≤ value then
      byteAt tfpBase58Str (value % 58) :: base58ReverseStr rounds (value / 58)
    else
      [byteAt tfpBase58Str value]

/-- `tfp_uid_uint32_to_base58`: the string, filled up with zeros. -/
def tfpUidUint32ToBase58 (value : ℕ) : List UInt8 :=
  let str := (base58ReverseStr tfpBase58StrSize value).reverse
  str ++ List.replicate (tfpBase58StrSize - str.length) 0

/-! ### Writing and reading header fields -/

@[simp] theorem length_tfpSetLength (message : List UInt8) (n : ℕ) :
    (tfpSetLength message n).length = message.length := List.length_set

@[simp] theorem length_tfpSetError (message : List UInt8) (n : ℕ) :
    (tfpSetError message n).length = message.length := List.length_set

theorem tfpGetLength_tfpSetLength {message : List UInt8} {n : ℕ} (h : 4 < message.length)
    (hn : n < 256) : tfpGetLengthFromMessage (tfpSetLength message n) = n := by
  simp only [tfpGetLengthFromMessage, tfpSetLength, byteAt, List.getD_eq_getElem?_getD,
    List.getElem?_set_self h, Option.getD_some, UInt8.toNat_ofNat']
  exact Nat.mod_eq_of_lt hn

/-- The error code does not overlap the length field. -/
@[simp] theorem tfpGetLength_tfpSetError (message : List UInt8) (n : ℕ) :
    tfpGetLengthFromMessage (tfpSetError message n) = tfpGetLengthFromMessage message := by
  simp [tfpGetLengthFromMessage, tfpSetError, byteAt, List.getD_eq_getElem?_getD]

/-- A field of the header only depends on the bytes it covers. -/
theorem byteAt_take {data : List UInt8} {i n : ℕ} (h : i < n) :
    byteAt (data.take n) i = byteAt data i := by
  simp [byteAt, List.getD_eq_getElem?_getD, h]

theorem byteAt_append_right {xs ys : List UInt8} {i : ℕ} (h : xs.length ≤ i) :
    byteAt (xs ++ ys) i = byteAt ys (i - xs.length) := by
  simp [byteAt, List.getD_eq_getElem?_getD, List.getElem?_append_right h]

theorem byteAt_append_left {xs ys : List UInt8} {i : ℕ} (h : i < xs.length) :
    byteAt (xs ++ ys) i = byteAt xs i := by
  simp [byteAt, List.getD_eq_getElem?_getD, List.getElem?_append_left h]

theorem tfpGetLength_take {data : List UInt8} {n : ℕ} (h : 5 ≤ n) :
    tfpGetLengthFromMessage (data.take n) = tfpGetLengthFromMessage data := by
  rw [tfpGetLengthFromMessage, byteAt_take (by omega), tfpGetLengthFromMessage]

theorem tfpGetLength_append_left {xs ys : List UInt8} (h : 5 ≤ xs.length) :
    tfpGetLengthFromMessage (xs ++ ys) = tfpGetLengthFromMessage xs := by
  rw [tfpGetLengthFromMessage, byteAt_append_left (by omega), tfpGetLengthFromMessage]

end Bricklib2
