/-
Bricklib2/Tng/Communication.lean

The common TNG messages (tng_communication.c): `tng_handle_message` and its
nine handlers, on the request and response buffers of `tng_tick`.

The handlers talk to the flash controller, the clock and the flash content.
What these answer during one message is a `TNGEnvironment`; what the handlers
do to the flash is logged as a list of `FlashAccess`, in order, each with the
handler it comes from.  Addresses are 32-bit and wrap.
-/
import Bricklib2.Tng.Tick

namespace Bricklib2

open Bytes

/-! ### Flash layout (config_stm32f0_128kb.h) -/

/-- The start of the flash. -/
def stm32f0BootloaderPosStart : ℕ := 0x8000000

/-- The flash has 128 kB. -/
def stm32f0McuFlashSize : ℕ := 128 * 1024

/-- The flash of the bootloader. -/
def stm32f0FirmwareBootloaderSize : ℕ := 8 * 1024

/-- The flash of one firmware: half of what the bootloader leaves. -/
def stm32f0FirmwareSize : ℕ := (stm32f0McuFlashSize - stm32f0FirmwareBootloaderSize) / 2

/-- The firmware that runs. -/
def stm32f0FirmwareActivePosStart : ℕ :=
  stm32f0BootloaderPosStart + stm32f0FirmwareBootloaderSize

/-- The firmware that is being received. -/
def stm32f0FirmwareNewPosStart : ℕ := stm32f0FirmwareActivePosStart + stm32f0FirmwareSize

/-- The last word of the active firmware has the UID. -/
def stm32f0UidPosition : ℕ := stm32f0FirmwareNewPosStart - 4

/-- The last word of the bootloader tells it what to start. -/
def stm32f0BootInfoPosition : ℕ := stm32f0FirmwareActivePosStart - 4

/-- The handler a flash access comes from. -/
inductive FlashUser
  | copyFirmware
  | writeFirmware
  | writeUid
  deriving DecidableEq

/-- `HAL_FLASHEx_Erase` of pages and `HAL_FLASH_Program` of a word. -/
inductive FlashAccess
  | erase (user : FlashUser) (pageAddress nbPages : ℕ)
  | program (user : FlashUser) (address data : ℕ)
  deriving DecidableEq

/-! ### State and environment -/

/-- Constants of the firmware: `device_identifier`, the hardware and firmware
versions and the page size of the flash. -/
structure TNGConfig where
  deviceIdentifier : ℕ
  hardwareVersion : List UInt8
  firmwareVersion : List UInt8
  flashPageSize : ℕ

/-- The answers of the surroundings during one message.  `programOk i` is the
result of the `i`-th `HAL_FLASH_Program`. -/
structure TNGEnvironment where
  uid : ℕ
  timestamp : ℕ
  firmwareCheckAll : ℕ
  eraseOk : Bool
  programOk : ℕ → Bool

/-- The static variables of the module, with the accesses to the flash so far. -/
structure TNGCommunication where
  tngFirmwarePointer : ℕ
  flash : List FlashAccess
  deriving DecidableEq

/-- The static variables after a start, with nothing done to the flash yet. -/
def tngCommunicationInit : TNGCommunication where
  tngFirmwarePointer := 0
  flash := []

/-- The next access to the flash. -/
def TNGCommunication.log (a : FlashAccess) (s : TNGCommunication) : TNGCommunication :=
  { s with flash := s.flash ++ [a] }

/-- The `n` lowest bytes of a number, little endian. -/
def littleEndian (n value : ℕ) : List UInt8 :=
  (List.range n).map fun i => UInt8.ofNat (value / 256 ^ i)

/-- The result of a handler that returns. -/
abbrev HandlerResult := TNGCommunication × List UInt8 × TNGHandleMessageResponse

/-- `TNG_FID_GET_TIMESTAMP` -/
def tngFidGetTimestamp : ℕ := 234

/-- `TNG_FID_COPY_FIRMWARE` -/
def tngFidCopyFirmware : ℕ := 235

/-- `TNG_FID_SET_WRITE_FIRMWARE_POINTER` -/
def tngFidSetWriteFirmwarePointer : ℕ := 237

/-- `TNG_FID_WRITE_FIRMWARE` -/
def tngFidWriteFirmware : ℕ := 238

/-- `TNG_FID_RESET` -/
def tngFidReset : ℕ := 243

/-- `TNG_FID_WRITE_UID` -/
def tngFidWriteUid : ℕ := 248

/-- `TNG_FID_READ_UID` -/
def tngFidReadUid : ℕ := 249

/-- `TNG_FID_ENUMERATE_CALLBACK` -/
def tngFidEnumerateCallback : ℕ := 253

/-- `TNG_FID_ENUMERATE` -/
def tngFidEnumerate : ℕ := 254

/-- `TNG_FID_GET_IDENTITY` -/
def tngFidGetIdentity : ℕ := 255

/-! ### Handlers -/

/-- The time in µs goes into the response. -/
def tngGetTimestamp (env : TNGEnvironment) (s : TNGCommunication) (response : List UInt8) :
    HandlerResult :=
  (s, overwrite (tfpSetLength response 16) 8 (littleEndian 8 env.timestamp), .newMessage)

/-- `tng_firmware_set_boot_info`: the page is erased, then the word is programmed. -/
def tngFirmwareSetBootInfo (env : TNGEnvironment) (bootInfo : ℕ) (s : TNGCommunication) :
    TNGCommunication :=
  let s := s.log (.erase .copyFirmware stm32f0BootInfoPosition 1)
  if env.eraseOk then s.log (.program .copyFirmware stm32f0BootInfoPosition bootInfo) else s

/-- A firmware that passes all checks is marked to be copied by the bootloader. -/
def tngCopyFirmware (env : TNGEnvironment) (s : TNGCommunication) (response : List UInt8) :
    HandlerResult :=
  let response := (tfpSetLength response 9).set 8 (UInt8.ofNat env.firmwareCheckAll)
  if byteAt response 8 = 0 then
    (tngFirmwareSetBootInfo env 0xFFFFFFFF s, response, .newMessage)
  else
    (s, response, .newMessage)

/-- The place for the next chunk, as the host says it. -/
def tngSetWriteFirmwarePointer (message : List UInt8) (s : TNGCommunication)
    (response : List UInt8) : HandlerResult :=
  ({ s with tngFirmwarePointer := wordAt message 8 }, response, .empty)

/-- The bytes of one request. -/
def tngWriteFirmwareChunkSize : ℕ := 64

/-- The chunk is in the flash. -/
def tngWriteFirmwareStatusOk : UInt8 := 0

/-- The pointer is not in the new firmware, or the page could not be erased. -/
def tngWriteFirmwareStatusInvalidPointer : UInt8 := 1

/-- The address of the word at offset `i` of a chunk. -/
def TNGCommunication.writeAddress (s : TNGCommunication) (i : ℕ) : ℕ :=
  (stm32f0FirmwareNewPosStart + s.tngFirmwarePointer + i) % 2 ^ 32

/-- The erase of the new-firmware region in front of a chunk for pointer 0,
and whether the handler goes on. -/
def tngWriteFirmwareErase (config : TNGConfig) (env : TNGEnvironment) (s : TNGCommunication) :
    Bool × TNGCommunication :=
  if s.tngFirmwarePointer = 0 then
    (env.eraseOk, s.log (.erase .writeFirmware stm32f0FirmwareNewPosStart
      (stm32f0FirmwareSize / config.flashPageSize)))
  else
    (true, s)

/-- `for(i = 0; i < TNG_WRITE_FIRMWARE_CHUNK_SIZE; i += 4)`, word after word
until one fails.  `words` counts the words that are left. -/
def tngWriteFirmwareLoop (env : TNGEnvironment) (message : List UInt8) :
    (words : ℕ) → TNGCommunication → Bool × TNGCommunication
  | 0, s => (true, s)
  | words + 1, s =>
    let i := tngWriteFirmwareChunkSize - 4 * (words + 1)
    let s := s.log (.program .writeFirmware (s.writeAddress i) (wordAt message (8 + i)))
    if env.programOk (i / 4) then tngWriteFirmwareLoop env message words s else (false, s)

/-- Writes a chunk into the flash; the first one of a page erases the page. -/
def tngWriteFirmware (config : TNGConfig) (env : TNGEnvironment) (message : List UInt8)
    (s : TNGCommunication) (response : List UInt8) : HandlerResult :=
  let response := tfpSetLength response 9
  match tngWriteFirmwareErase config env s with
  | (false, s) => (s, response.set 8 tngWriteFirmwareStatusInvalidPointer, .newMessage)
  | (true, s) =>
    match tngWriteFirmwareLoop env message (tngWriteFirmwareChunkSize / 4) s with
    | (false, s) => (s, response.set 8 tngWriteFirmwareStatusInvalidPointer, .newMessage)
    | (true, s) => (s, response.set 8 tngWriteFirmwareStatusOk, .newMessage)

/-- The UID goes into the response. -/
def tngReadUid (env : TNGEnvironment) (s : TNGCommunication) (response : List UInt8) :
    HandlerResult :=
  (s, overwrite (tfpSetLength response 12) 8 (littleEndian 4 env.uid), .newMessage)

/-- A new UID, unless it is one of those that are reserved. -/
def tngWriteUid (env : TNGEnvironment) (message : List UInt8) (s : TNGCommunication)
    (response : List UInt8) : HandlerResult :=
  let uid := wordAt message 8
  if uid = 0 ∨ uid = 1 ∨ uid = 2 ^ 32 - 1 then
    (s, response, .invalidParameter)
  else
    let s := s.log (.erase .writeUid stm32f0UidPosition 1)
    if env.eraseOk then
      let s := s.log (.program .writeUid stm32f0UidPosition uid)
      if env.programOk 0 then (s, response, .empty) else (s, response, .invalidParameter)
    else
      (s, response, .invalidParameter)

/-- UIDs, versions and the device identifier go into the response. -/
def tngGetIdentity (config : TNGConfig) (env : TNGEnvironment) (s : TNGCommunication)
    (response : List UInt8) : HandlerResult :=
  let response := tfpSetLength response 33
  let response := overwrite response 8 (tfpUidUint32ToBase58 env.uid)
  let response := overwrite response 16 (List.replicate tfpUidStrMaxLength 0)
  let response := overwrite response 25 (config.hardwareVersion ++ config.firmwareVersion)
  (s, overwrite response 31 (littleEndian 2 config.deviceIdentifier), .newMessage)

/-- The identity as a callback, with the enumeration type. -/
def tngEnumerate (config : TNGConfig) (env : TNGEnvironment) (s : TNGCommunication)
    (response : List UInt8) : HandlerResult :=
  let response := (tngGetIdentity config env s response).2.1
  let response := tfpMakeDefaultHeader response env.uid 34 tngFidEnumerateCallback
  (s, response.set 33 0, .newMessage)

/-- `none`: `tng_reset` does not return. -/
def tngHandleMessage (config : TNGConfig) (env : TNGEnvironment) (s : TNGCommunication)
    (message response : List UInt8) : Option HandlerResult :=
  let fid := tfpGetFidFromMessage message
  if fid = tngFidGetTimestamp then some (tngGetTimestamp env s response)
  else if fid = tngFidCopyFirmware then some (tngCopyFirmware env s response)
  else if fid = tngFidSetWriteFirmwarePointer then
    some (tngSetWriteFirmwarePointer message s response)
  else if fid = tngFidWriteFirmware then some (tngWriteFirmware config env message s response)
  else if fid = tngFidReset then none
  else if fid = tngFidReadUid then some (tngReadUid env s response)
  else if fid = tngFidWriteUid then some (tngWriteUid env message s response)
  else if fid = tngFidEnumerate then some (tngEnumerate config env s response)
  else if fid = tngFidGetIdentity then some (tngGetIdentity config env s response)
  else some (s, response, .notSupported)

/-! ### The communication of one device over time -/

/-- A message, the response buffer it finds and the answers it gets. -/
structure TNGMessage where
  message : List UInt8
  response : List UInt8
  env : TNGEnvironment

/-- Handle one message; after a reset the static variables start again. -/
def tngMessageStep (config : TNGConfig) (s : TNGCommunication) (m : TNGMessage) :
    Option TNGCommunication :=
  match tngHandleMessage config m.env s m.message m.response with
  | some (s', _, _) => some s'
  | none => some { s with tngFirmwarePointer := 0 }

end Bricklib2
