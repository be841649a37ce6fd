/-
Bricklib2/Tng/Responses.lean

The responses of `tng_tick`.  The response header starts as a copy of the request
header; the common handlers and those of the device may fill it in, `tng_tick` sets the
error code, and the length is also the flag that says whether a response is pending.

`TNGLog` adds to the machine what has been handled (`TNGExchange`) and what a `usb_send`
has accepted of it.

Main result: `tng_responses`, in every run each response is sent once, and it has the
right header exactly if no error bits of the request are left over in it.
-/
import Bricklib2.Tng.Communication
import Bricklib2.Tng.RequestBuffer

namespace Bricklib2

open Bytes Machine

/-! ### Header fields -/

/-- `header->sequence_num` -/
def tfpGetSequenceNumFromMessage (message : List UInt8) : ℕ := (byteAt message 6).toNat / 16

/-- `header->error` -/
def tfpGetErrorFromMessage (message : List UInt8) : ℕ := (byteAt message 7).toNat / 64

/-- The message that a response buffer holds: `tng_tick` offers it from a length of 8 on. -/
def responseMessage (response : List UInt8) : Option (List UInt8) :=
  if 8 ≤ tfpGetLengthFromMessage response then
    some (response.take (tfpGetLengthFromMessage response))
  else
    none

/-- The error code that a result stands for. -/
def TNGHandleMessageResponse.errorCode : TNGHandleMessageResponse → ℕ
  | .newMessage | .empty | .none => 0
  | .invalidParameter => 1
  | .notSupported => 2

/-! ### What a handler does to the response header -/

/-- The header is the same but for the length, which is still the one from before or that
of a whole message. -/
structure KeptHeader (response response' : List UInt8) : Prop where
  long : 8 ≤ response'.length
  bytes : ∀ i < 8, i ≠ 4 → byteAt response' i = byteAt response i
  length : tfpGetLengthFromMessage response' = tfpGetLengthFromMessage response ∨
    8 ≤ tfpGetLengthFromMessage response'

variable {response response' response'' src : List UInt8}

theorem KeptHeader.refl (h : 8 ≤ response.length) : KeptHeader response response :=
  ⟨h, fun _ _ _ => rfl, .inl rfl⟩

theorem KeptHeader.trans (h : KeptHeader response response')
    (h' : KeptHeader response' response'') : KeptHeader response response'' where
  long := h'.long
  bytes i hi hne := (h'.bytes i hi hne).trans (h.bytes i hi hne)
  length := by
    rcases h'.length with hsame | hmessage
    · rw [hsame]
      exact h.length
    · exact .inr hmessage

theorem byteAt_set_ne {data : List UInt8} {i j : ℕ} {b : UInt8} (h : j ≠ i) :
    byteAt (data.set j b) i = byteAt data i := by
  rw [byteAt, List.getD_eq_getElem?_getD, List.getElem?_set_ne h, ← List.getD_eq_getElem?_getD,
    byteAt]

theorem byteAt_overwrite {data : List UInt8} {off i : ℕ} (hi : i < off)
    (hlength : i < data.length) : byteAt (overwrite data off src) i = byteAt data i := by
  have htake : i < (data.take off).length := by
    rw [List.length_take]
    omega
  rw [overwrite, List.append_assoc, byteAt_append_left htake, byteAt_take hi]

/-- Setting the length of a message. -/
theorem KeptHeader.setLength {n : ℕ} (h : KeptHeader response response') (hmin : 8 ≤ n)
    (hmax : n < 256) : KeptHeader response (tfpSetLength response' n) where
  long := by
    rw [length_tfpSetLength]
    exact h.long
  bytes i hi hne := (byteAt_set_ne (Ne.symm hne)).trans (h.bytes i hi hne)
  length := by
    have hlong := h.long
    rw [tfpGetLength_tfpSetLength (by omega) hmax]
    exact .inr hmin

theorem KeptHeader.set {j : ℕ} {b : UInt8} (h : KeptHeader response response') (hj : 8 ≤ j) :
    KeptHeader response (response'.set j b) where
  long := by
    rw [List.length_set]
    exact h.long
  bytes i hi hne := by
    rw [byteAt_set_ne (by omega)]
    exact h.bytes i hi hne
  length := by
    rw [tfpGetLengthFromMessage, byteAt_set_ne (by omega)]
    exact h.length

/-- Filling in the payload. -/
theorem KeptHeader.overwrite {off : ℕ} (h : KeptHeader response response') (hoff : 8 ≤ off) :
    KeptHeader response (overwrite response' off src) := by
  have hlong := h.long
  refine ⟨?_, fun i hi hne => ?_, ?_⟩
  · simp only [Bytes.overwrite, List.length_append, List.length_take]
    omega
  · rw [byteAt_overwrite (by omega) (by omega)]
    exact h.bytes i hi hne
  · rw [tfpGetLengthFromMessage, byteAt_overwrite (by omega) (by omega)]
    exact h.length

variable {config : TNGConfig} {env : TNGEnvironment} {comm comm' : TNGCommunication}
  {message : List UInt8} {ret : TNGHandleMessageResponse}

theorem tngWriteFirmware_keptHeader (h : 8 ≤ response.length) :
    KeptHeader response (tngWriteFirmware config env message comm response).2.1 := by
  have hlength : KeptHeader response (tfpSetLength response 9) :=
    (KeptHeader.refl h).setLength (by decide) (by decide)
  unfold tngWriteFirmware
  split
  · exact hlength.set (by decide)
  · split
    · exact hlength.set (by decide)
    · exact hlength.set (by decide)

theorem tngCopyFirmware_keptHeader (h : 8 ≤ response.length) :
    KeptHeader response (tngCopyFirmware env comm response).2.1 := by
  have hstatus : KeptHeader response
      ((tfpSetLength response 9).set 8 (UInt8.ofNat env.firmwareCheckAll)) :=
    ((KeptHeader.refl h).setLength (by decide) (by decide)).set (by decide)
  simp only [tngCopyFirmware]
  split
  · exact hstatus
  · exact hstatus

theorem tngWriteUid_keptHeader (h : 8 ≤ response.length) :
    KeptHeader response (tngWriteUid env message comm response).2.1 := by
  simp only [tngWriteUid]
  split_ifs <;> exact KeptHeader.refl h

theorem tngGetIdentity_keptHeader (h : 8 ≤ response.length) :
    KeptHeader response (tngGetIdentity config env comm response).2.1 := by
  have hlength : KeptHeader response (tfpSetLength response 33) :=
    (KeptHeader.refl h).setLength (by decide) (by decide)
  exact (((hlength.overwrite (by decide)).overwrite (by decide)).overwrite (by decide)).overwrite
    (by decide)

/-- The common handlers keep the header, but for the enumerate callback. -/
theorem tngHandleMessage_keptHeader (h : 8 ≤ response.length)
    (hfid : tfpGetFidFromMessage message ≠ tngFidEnumerate)
    (hm : tngHandleMessage config env comm message response = some (comm', response', ret)) :
    KeptHeader response response' := by
  have hof {r : HandlerResult} (hr : KeptHeader response r.2.1)
      (heq : some r = some (comm', response', ret)) : KeptHeader response response' := by
    obtain rfl := Option.some.inj heq
    exact hr
  unfold tngHandleMessage at hm
  simp only [if_neg hfid] at hm
  split_ifs at hm
  · exact hof (((KeptHeader.refl h).setLength (by decide) (by decide)).overwrite (by decide)) hm
  · exact hof (tngCopyFirmware_keptHeader h) hm
  · exact hof (KeptHeader.refl h) hm
  · exact hof (tngWriteFirmware_keptHeader h) hm
  · exact hof (((KeptHeader.refl h).setLength (by decide) (by decide)).overwrite (by decide)) hm
  · exact hof (tngWriteUid_keptHeader h) hm
  · exact hof (tngGetIdentity_keptHeader h) hm
  · exact hof (KeptHeader.refl h) hm

/-- The header of the enumerate callback. -/
structure EnumerateHeader (response : List UInt8) : Prop where
  long : 8 ≤ response.length
  length : tfpGetLengthFromMessage response = 34
  returnExpected : tfpIsReturnExpected response = true
  error : tfpGetErrorFromMessage response = 0

theorem tngHandleMessage_enumerate (hfid : tfpGetFidFromMessage message = tngFidEnumerate)
    (hm : tngHandleMessage config env comm message response = some (comm', response', ret)) :
    EnumerateHeader response' ∧ ret = .newMessage := by
  unfold tngHandleMessage at hm
  rw [hfid] at hm
  obtain ⟨-, rfl, rfl⟩ : _ ∧ _ ∧ _ := by
    have henumerate := Option.some.inj hm
    rw [tngEnumerate, Prod.mk.injEq, Prod.mk.injEq] at henumerate
    exact henumerate
  refine ⟨?_, rfl⟩
  have hbyte {i : ℕ} (hi : i < 8) (data : List UInt8) :
      byteAt ((tfpMakeDefaultHeader data env.uid 34 tngFidEnumerateCallback).set 33 0) i =
        byteAt [UInt8.ofNat env.uid, UInt8.ofNat (env.uid / 2 ^ 8), UInt8.ofNat (env.uid / 2 ^ 16),
          UInt8.ofNat (env.uid / 2 ^ 24), 34, 253, 8, 0] i := by
    rw [byteAt_set_ne (by omega)]
    exact byteAt_append_left hi
  refine ⟨?_, ?_, ?_, ?_⟩
  · rw [List.length_set]
    simp only [tfpMakeDefaultHeader, List.length_append, List.length_cons]
    omega
  · rw [tfpGetLengthFromMessage, hbyte (by decide)]
    rfl
  · rw [tfpIsReturnExpected, hbyte (by decide)]
    show (8 : UInt8).toNat.testBit 3 = true
    decide
  · rw [tfpGetErrorFromMessage, hbyte (by decide)]
    show (0 : UInt8).toNat / 64 = 0
    rfl

/-! ### The finished response -/

/-- `tng_tick` only touches the length and the error code of an expected response. -/
theorem finishResponse_byteAt (ret : TNGHandleMessageResponse) (response : List UInt8) {i : ℕ}
    (hlength : i ≠ 4) (herror : i ≠ 7) :
    byteAt (tngFinishResponse ret response) i = byteAt response i := by
  have hset (n : ℕ) (r : List UInt8) : byteAt (tfpSetLength r n) i = byteAt r i :=
    byteAt_set_ne (Ne.symm hlength)
  have hseterror (n : ℕ) (r : List UInt8) : byteAt (tfpSetError r n) i = byteAt r i :=
    byteAt_set_ne (Ne.symm herror)
  simp only [tngFinishResponse]
  split_ifs
  · cases ret <;> simp only [hset, hseterror]
  · cases ret <;> simp only [hseterror]
  · rfl

/-- The length is set where a handler has left it at 0. -/
theorem finishResponse_length (ret : TNGHandleMessageResponse) (h : 8 ≤ response.length)
    (hexpected : tfpIsReturnExpected response = true) :
    tfpGetLengthFromMessage (tngFinishResponse ret response) =
      if tfpGetLengthFromMessage response = 0 then 8 else tfpGetLengthFromMessage response := by
  simp only [tngFinishResponse, if_pos hexpected]
  split_ifs with hzero
  · cases ret <;> simp only [tfpGetLength_tfpSetError] <;>
      exact tfpGetLength_tfpSetLength (by omega) (by decide)
  · cases ret <;> simp only [tfpGetLength_tfpSetError]

theorem tfpGetError_tfpSetError {data : List UInt8} {n : ℕ} (h : 8 ≤ data.length) (hn : n < 4) :
    tfpGetErrorFromMessage (tfpSetError data n) = n := by
  have hlt : 7 < data.length := h
  simp only [tfpGetErrorFromMessage, tfpSetError, byteAt, List.getD_eq_getElem?_getD,
    List.getElem?_set_self hlt, Option.getD_some, UInt8.toNat_ofNat']
  omega

/-- The error code is set for all results but `newMessage` and `none`. -/
theorem finishResponse_error (ret : TNGHandleMessageResponse) (h : 8 ≤ response.length)
    (hexpected : tfpIsReturnExpected response = true) (hnone : ret ≠ .none) :
    tfpGetErrorFromMessage (tngFinishResponse ret response) =
      if ret = .newMessage then tfpGetErrorFromMessage response else ret.errorCode := by
  obtain ⟨base, hbase, hlong, herror⟩ : ∃ base, base =
      (if tfpGetLengthFromMessage response = 0 then tfpSetLength response 8 else response) ∧
      8 ≤ base.length ∧ tfpGetErrorFromMessage base = tfpGetErrorFromMessage response := by
    refine ⟨_, rfl, ?_⟩
    split_ifs
    · rw [length_tfpSetLength, tfpGetErrorFromMessage, tfpSetLength, byteAt_set_ne (by decide)]
      exact ⟨h, rfl⟩
    · exact ⟨h, rfl⟩
  simp only [tngFinishResponse, if_pos hexpected, ← hbase]
  cases ret with
  | none => exact absurd rfl hnone
  | newMessage =>
    rw [if_pos rfl]
    exact herror
  | empty | notSupported | invalidParameter =>
    rw [if_neg (by decide)]
    exact tfpGetError_tfpSetError hlong (by decide)

/-! ### Handled requests -/

variable {δ : Type}

/-- A device handler that fills in responses the way the common ones do. -/
def KeepsHeader (handleMessage : δ → List UInt8 → List UInt8 →
    Option (δ × List UInt8 × TNGHandleMessageResponse)) : Prop :=
  ∀ device request response device' response' ret, 8 ≤ response.length →
    handleMessage device request response = some (device', response', ret) →
    KeptHeader response response'

/-- A firmware with the common messages of `tng_communication.c`: `env` is how the
surroundings `δ` answer to them. -/
def tngModule (config : TNGConfig) (env : δ → TNGEnvironment)
    (handleMessage : δ × TNGCommunication → List UInt8 → List UInt8 →
      Option ((δ × TNGCommunication) × List UInt8 × TNGHandleMessageResponse)) :
    TNGDevice (δ × TNGCommunication) where
  tngGetUid device := (env device.1).uid
  tngHandleMessage device request response :=
    (tngHandleMessage config (env device.1) device.2 request response).map
      fun (comm, response, ret) => ((device.1, comm), response, ret)
  handleMessage := handleMessage

/-- A handled request, the result of its handlers and the finished response buffer. -/
structure TNGExchange where
  request : List UInt8
  result : TNGHandleMessageResponse
  response : List UInt8

/-- If a response is expected and the result is not `none`, there is a message with the uid,
function id and sequence number of the request and the error code of the result. -/
def TNGExchange.Answered (x : TNGExchange) : Prop :=
  tfpIsReturnExpected x.request = true → x.result ≠ .none →
    ∃ message, responseMessage x.response = some message ∧
      (tfpGetFidFromMessage x.request ≠ tngFidEnumerate →
        tfpGetUidFromMessage message = tfpGetUidFromMessage x.request ∧
          tfpGetFidFromMessage message = tfpGetFidFromMessage x.request ∧
          tfpGetSequenceNumFromMessage message = tfpGetSequenceNumFromMessage x.request) ∧
      tfpGetErrorFromMessage message = x.result.errorCode

/-- No error bits of the request are left in the response: with `newMessage` they are not
overwritten, except by the header of the enumerate callback. -/
def TNGExchange.ErrorClear (x : TNGExchange) : Prop :=
  tfpIsReturnExpected x.request = true → x.result = .newMessage →
    tfpGetFidFromMessage x.request = tngFidEnumerate ∨ tfpGetErrorFromMessage x.request = 0

instance (x : TNGExchange) : Decidable x.ErrorClear := inferInstanceAs (Decidable (_ → _ → _))

/-- The response header at the start. -/
def responseStart (request response : List UInt8) : List UInt8 :=
  tfpSetLength (overwrite response 0 (request.take tfpHeaderSize)) 0

/-- The header of the request, with length 0. -/
theorem responseStart_spec {request : List UInt8} (response : List UInt8)
    (hrequest : 8 ≤ request.length) :
    8 ≤ (responseStart request response).length ∧
      (∀ i < 8, i ≠ 4 → byteAt (responseStart request response) i = byteAt request i) ∧
      tfpGetLengthFromMessage (responseStart request response) = 0 := by
  have htake : (request.take tfpHeaderSize).length = 8 := List.length_take_of_le hrequest
  have hlong : 8 ≤ (overwrite response 0 (request.take tfpHeaderSize)).length := by
    simp only [overwrite, List.length_append, htake]
    omega
  refine ⟨?_, fun i hi hne => ?_, ?_⟩
  · rw [responseStart, length_tfpSetLength]
    exact hlong
  · rw [responseStart, tfpSetLength, byteAt_set_ne (Ne.symm hne), overwrite, List.take_zero,
      List.nil_append, byteAt_append_left (by omega)]
    exact byteAt_take hi
  · exact tfpGetLength_tfpSetLength (by omega) (by decide)

theorem responseMessage_of_length {n : ℕ} (h : tfpGetLengthFromMessage response = n)
    (hn : 8 ≤ n) : responseMessage response = some (response.take n) := by
  rw [responseMessage, h, if_pos hn]

theorem tfpGetError_congr {data data' : List UInt8} (h : byteAt data' 7 = byteAt data 7) :
    tfpGetErrorFromMessage data' = tfpGetErrorFromMessage data := by
  rw [tfpGetErrorFromMessage, h, tfpGetErrorFromMessage]

/-- A request that is not enumerate: the response has its header but for the error code. -/
theorem answered_iff_of_kept {request : List UInt8} {ret : TNGHandleMessageResponse}
    (hrequest : 8 ≤ request.length) (hfid : tfpGetFidFromMessage request ≠ tngFidEnumerate)
    (hkept : KeptHeader (responseStart request response) response') :
    TNGExchange.Answered ⟨request, ret, tngFinishResponse ret response'⟩ ↔
      TNGExchange.ErrorClear ⟨request, ret, tngFinishResponse ret response'⟩ := by
  obtain ⟨hstartLong, hstartBytes, hstartLength⟩ := responseStart_spec response hrequest
  have hbytes (i : ℕ) (hi : i < 8) (hne : i ≠ 4) : byteAt response' i = byteAt request i :=
    (hkept.bytes i hi hne).trans (hstartBytes i hi hne)
  have hexpected : tfpIsReturnExpected response' = tfpIsReturnExpected request := by
    rw [tfpIsReturnExpected, hbytes 6 (by decide) (by decide), tfpIsReturnExpected]
  -- what is sent is the response up to its length, with the header of the request
  have hfinished (hreturn : tfpIsReturnExpected request = true) (hnone : ret ≠ .none) :
      ∃ message, responseMessage (tngFinishResponse ret response') = some message ∧
        (∀ i < 8, i ≠ 4 → i ≠ 7 → byteAt message i = byteAt request i) ∧
        tfpGetErrorFromMessage message =
          if ret = .newMessage then tfpGetErrorFromMessage request else ret.errorCode := by
    have hlength := finishResponse_length ret hkept.long (hexpected.trans hreturn)
    obtain ⟨n, hn, hn8⟩ : ∃ n, tfpGetLengthFromMessage (tngFinishResponse ret response') = n ∧
        8 ≤ n := by
      refine ⟨_, hlength, ?_⟩
      split_ifs with hzero
      · exact Nat.le_refl 8
      · exact hkept.length.resolve_left fun hsame => hzero (hsame.trans hstartLength)
    have htaken (i : ℕ) (hi : i < 8) : byteAt ((tngFinishResponse ret response').take n) i =
        byteAt (tngFinishResponse ret response') i := byteAt_take (by omega)
    refine ⟨_, responseMessage_of_length hn hn8, fun i hi hne hne' => ?_, ?_⟩
    · rw [htaken i hi, finishResponse_byteAt ret response' hne hne', hbytes i hi hne]
    · rw [tfpGetError_congr (htaken 7 (by decide)),
        finishResponse_error ret hkept.long (hexpected.trans hreturn) hnone,
        tfpGetError_congr (hbytes 7 (by decide) (by decide))]
  constructor
  · -- a response made by the handler keeps the error code that it started with
    intro hanswered hreturn (hnew : ret = .newMessage)
    have hnone : ret ≠ .none := by
      rw [hnew]
      nofun
    obtain ⟨message, hmessage, -, herror⟩ := hanswered hreturn hnone
    obtain ⟨message', hmessage', -, herror'⟩ := hfinished hreturn hnone
    obtain rfl := Option.some.inj (hmessage.symm.trans hmessage')
    rw [if_pos hnew] at herror'
    right
    exact herror'.symm.trans (herror.trans (congrArg _ hnew))
  · intro hclear hreturn hnone
    obtain ⟨message, hmessage, hheader, herror⟩ := hfinished hreturn hnone
    refine ⟨message, hmessage, fun _ => ⟨?_, ?_, ?_⟩, ?_⟩
    · rw [tfpGetUidFromMessage, wordAt, hheader 0 (by decide) (by decide) (by decide),
        hheader 1 (by decide) (by decide) (by decide), hheader 2 (by decide) (by decide) (by decide),
        hheader 3 (by decide) (by decide) (by decide)]
      rfl
    · rw [tfpGetFidFromMessage, hheader 5 (by decide) (by decide) (by decide)]
      rfl
    · rw [tfpGetSequenceNumFromMessage, hheader 6 (by decide) (by decide) (by decide)]
      rfl
    · rw [herror]
      split_ifs with hnew
      · have hzero := (hclear hreturn hnew).resolve_left hfid
        exact hzero.trans (congrArg TNGHandleMessageResponse.errorCode hnew).symm
      · rfl

/-- The enumerate callback is sent as it is. -/
theorem answered_of_enumerate {request : List UInt8}
    (hfid : tfpGetFidFromMessage request = tngFidEnumerate) (h : EnumerateHeader response) :
    TNGExchange.Answered ⟨request, .newMessage, tngFinishResponse .newMessage response⟩ := by
  intro _ _
  have hfinish : tngFinishResponse .newMessage response = response := by
    have hlength : tfpGetLengthFromMessage response ≠ 0 := by
      rw [h.length]
      decide
    simp only [tngFinishResponse, if_pos h.returnExpected, if_neg hlength]
  refine ⟨response.take 34, ?_, fun hne => absurd hfid hne, ?_⟩
  · show responseMessage (tngFinishResponse .newMessage response) = _
    rw [hfinish]
    exact responseMessage_of_length h.length (by decide)
  · rw [tfpGetError_congr (byteAt_take (by decide)), h.error]
    rfl

section Runs

variable {handleMessage : δ × TNGCommunication → List UInt8 → List UInt8 →
    Option ((δ × TNGCommunication) × List UInt8 × TNGHandleMessageResponse)}
  {surroundings : δ → TNGEnvironment}

/-- Both handlers one after the other. -/
theorem tngDispatch_spec (hkeeps : KeepsHeader handleMessage)
    {device device' : δ × TNGCommunication} {request : List UInt8} (h : 8 ≤ response.length)
    (hd : tngDispatch (tngModule config surroundings handleMessage) device request response =
      some (device', response', ret)) :
    (tfpGetFidFromMessage request ≠ tngFidEnumerate → KeptHeader response response') ∧
      (tfpGetFidFromMessage request = tngFidEnumerate →
        EnumerateHeader response' ∧ ret = .newMessage) := by
  unfold tngDispatch at hd
  split at hd
  · rename_i device₁ response₁ hcommon
    -- the common handlers do not know the message
    obtain ⟨⟨comm, response₂, ret₂⟩, hm, heq⟩ := Option.map_eq_some_iff.mp hcommon
    simp only [Prod.mk.injEq] at heq
    obtain ⟨-, rfl, rfl⟩ := heq
    constructor
    · intro hfid
      have hfirst := tngHandleMessage_keptHeader h hfid hm
      exact hfirst.trans (hkeeps _ _ _ _ _ _ hfirst.long hd)
    · intro hfid
      have hret := (tngHandleMessage_enumerate hfid hm).2
      cases hret
  · obtain ⟨⟨comm, response₂, ret₂⟩, hm, heq⟩ := Option.map_eq_some_iff.mp hd
    simp only [Prod.mk.injEq] at heq
    obtain ⟨-, rfl, rfl⟩ := heq
    exact ⟨fun hfid => tngHandleMessage_keptHeader h hfid hm,
      fun hfid => tngHandleMessage_enumerate hfid hm⟩

/-- A handled request. -/
theorem exchange_answered_iff (hkeeps : KeepsHeader handleMessage)
    {device device' : δ × TNGCommunication} {request : List UInt8} (hrequest : 8 ≤ request.length)
    (hd : tngDispatch (tngModule config surroundings handleMessage) device request
      (responseStart request response) = some (device', response', ret)) :
    8 ≤ response'.length ∧
      (TNGExchange.Answered ⟨request, ret, tngFinishResponse ret response'⟩ ↔
        TNGExchange.ErrorClear ⟨request, ret, tngFinishResponse ret response'⟩) := by
  obtain ⟨hkept, henumerate⟩ := tngDispatch_spec hkeeps (responseStart_spec _ hrequest).1 hd
  by_cases hfid : tfpGetFidFromMessage request = tngFidEnumerate
  · obtain ⟨hheader, rfl⟩ := henumerate hfid
    exact ⟨hheader.long, iff_of_true (answered_of_enumerate hfid hheader) fun _ _ => .inl hfid⟩
  · exact ⟨(hkept hfid).long, answered_iff_of_kept hrequest hfid (hkept hfid)⟩

end Runs

/-! ### Runs -/

/-- The machine, the requests handled so far and the responses sent so far. -/
structure TNGLog (δ : Type) where
  tng : TNG δ
  exchanges : List TNGExchange
  sent : List (List UInt8)

/-- The module after its start, with an empty log. -/
def tngLogInit (device : δ) : TNGLog δ := ⟨tngInit device, [], []⟩

/-- The request that the step handles. -/
def handledExchange (d : TNGDevice δ) (s : TNG δ) : TickEvent δ → Option TNGExchange
  | .main _ _ _ _ =>
    match s.pc with
    | .handle =>
      (tngDispatch d s.device s.requestData (responseStart s.requestData s.responseData)).map
        fun (_, response, ret) => ⟨s.requestData, ret, tngFinishResponse ret response⟩
    | _ => none
  | .dataOut _ _ _ => none
  | .dataIn _ => none
  | .callback _ _ _ => none

/-- The response that the step passes to an accepting `usb_send`. -/
def sentResponse (s : TNG δ) : TickEvent δ → Option (List UInt8)
  | .main _ _ _ transmit =>
    match s.pc with
    | .send => (responseMessage s.responseData).filter fun message =>
        (usbSend transmit message s.usb).1
    | _ => none
  | .dataOut _ _ _ => none
  | .dataIn _ => none
  | .callback _ _ _ => none

/-- A step, and what is new in the log. -/
def tngLogStep (d : TNGDevice δ) (l : TNGLog δ) (e : TickEvent δ) : Option (TNGLog δ) :=
  (tngStep d l.tng e).map fun s =>
    { tng := s
      exchanges := l.exchanges ++ (handledExchange d l.tng e).toList
      sent := l.sent ++ (sentResponse l.tng e).toList }

/-- The pending response. -/
def TNGLog.pending (l : TNGLog δ) : Option (List UInt8) := responseMessage l.tng.responseData

/-- Each response has been sent or is pending, and none is written over another one. -/
structure Accounted (l : TNGLog δ) : Prop where
  allocated : l.tng.Allocated
  long : 8 ≤ l.tng.responseData.length
  free : l.tng.pc = .checkRequest ∨ l.tng.pc = .handle → l.tng.responseLength = 0
  flow : l.sent ++ l.pending.toList = l.exchanges.filterMap fun x => responseMessage x.response
  answered : ∀ x ∈ l.exchanges, x.Answered ↔ x.ErrorClear

theorem accounted_tngLogInit (device : δ) : Accounted (tngLogInit device) where
  allocated := (stored_tngInit device).allocated
  long := by
    show 8 ≤ (List.replicate tngBufferSize (0 : UInt8)).length
    rw [List.length_replicate]
    decide
  free _ := rfl
  flow := rfl
  answered := nofun

/-- A step that neither handles a request nor sends a response. -/
theorem Accounted.quiet {l : TNGLog δ} {s : TNG δ} (h : Accounted l) (hs : s.Allocated)
    (hresponse : s.responseData = l.tng.responseData)
    (hfree : s.pc = .checkRequest ∨ s.pc = .handle → s.responseLength = 0) :
    Accounted { l with tng := s, exchanges := l.exchanges ++ [], sent := l.sent ++ [] } := by
  rw [List.append_nil, List.append_nil]
  refine ⟨hs, ?_, hfree, ?_, h.answered⟩
  · show 8 ≤ s.responseData.length
    rw [hresponse]
    exact h.long
  · show l.sent ++ (responseMessage s.responseData).toList = _
    rw [hresponse]
    exact h.flow

theorem length_tngFinishResponse (ret : TNGHandleMessageResponse) (response : List UInt8) :
    (tngFinishResponse ret response).length = response.length := by
  simp only [tngFinishResponse]
  split_ifs
  · cases ret <;> simp only [length_tfpSetLength, length_tfpSetError]
  · cases ret <;> simp only [length_tfpSetError]
  · rfl

theorem responseMessage_of_zero (h : tfpGetLengthFromMessage response = 0) :
    responseMessage response = none := by
  rw [responseMessage, h]
  rfl

/-- What the end of the tick leaves in the response buffer. -/
theorem tngSendResponse_message (transmit : Bool) (s : TNG δ) (h : 8 ≤ s.responseData.length) :
    8 ≤ (tngSendResponse transmit s).responseData.length ∧
      ((responseMessage s.responseData).filter fun message =>
          (usbSend transmit message s.usb).1).toList ++
        (responseMessage (tngSendResponse transmit s).responseData).toList =
        (responseMessage s.responseData).toList := by
  unfold tngSendResponse
  by_cases hmessage : 8 ≤ s.responseLength
  · have hoffered : responseMessage s.responseData = some (s.responseData.take s.responseLength) :=
      responseMessage_of_length rfl hmessage
    rw [if_pos hmessage, hoffered]
    rcases husb : usbSend transmit (s.responseData.take s.responseLength) s.usb with ⟨accepted, usb⟩
    cases accepted with
    | true =>
      have hcleared : responseMessage (tfpSetLength s.responseData 0) = none :=
        responseMessage_of_zero (tfpGetLength_tfpSetLength (by omega) (by decide))
      refine ⟨?_, ?_⟩
      · show 8 ≤ (tfpSetLength s.responseData 0).length
        rw [length_tfpSetLength]
        exact h
      · show (Option.filter _ _).toList ++ (responseMessage (tfpSetLength s.responseData 0)).toList = _
        rw [hcleared, Option.filter_some, husb]
        rfl
    | false =>
      refine ⟨h, ?_⟩
      show (Option.filter _ _).toList ++ (responseMessage s.responseData).toList = _
      rw [Option.filter_some, husb, hoffered]
      rfl
  · have hnone : responseMessage s.responseData = none := if_neg hmessage
    rw [if_neg hmessage, hnone]
    exact ⟨h, rfl⟩

/-- The same for a step of the tick. -/
theorem Accounted.quietTick {d : TNGDevice δ} {l : TNGLog δ} {s : TNG δ}
    {headerFirst rearm₁ rearm₂ transmit : Bool} (h : Accounted l) (hs : s.Allocated)
    (hresponse : s.responseData = l.tng.responseData)
    (hfree : s.pc = .checkRequest ∨ s.pc = .handle → s.responseLength = 0)
    (hhandle : l.tng.pc ≠ .handle) (hsend : l.tng.pc ≠ .send) :
    Accounted { tng := s
                exchanges := l.exchanges ++
                  (handledExchange d l.tng (.main headerFirst rearm₁ rearm₂ transmit)).toList
                sent := l.sent ++
                  (sentResponse l.tng (.main headerFirst rearm₁ rearm₂ transmit)).toList } := by
  have hexchange : handledExchange d l.tng (.main headerFirst rearm₁ rearm₂ transmit) = none := by
    simp only [handledExchange]
  have hsent : sentResponse l.tng (.main headerFirst rearm₁ rearm₂ transmit) = none := by
    simp only [sentResponse]
  rw [hexchange, hsent]
  exact h.quiet hs hresponse hfree

section Steps

variable {handleMessage : δ × TNGCommunication → List UInt8 → List UInt8 →
    Option ((δ × TNGCommunication) × List UInt8 × TNGHandleMessageResponse)}
  {surroundings : δ → TNGEnvironment}

/-- Handling a request: the response buffer was free and now holds its response. -/
theorem accounted_handle (hkeeps : KeepsHeader handleMessage)
    {l : TNGLog (δ × TNGCommunication)} {s : TNG (δ × TNGCommunication)} {headerFirst rearm₁ rearm₂ transmit : Bool}
    (h : Accounted l) (hpc : l.tng.pc = .handle)
    (hs : tngHandleRequest (tngModule config surroundings handleMessage) l.tng = some s) :
    Accounted { tng := { s with pc := .shift }
                exchanges := l.exchanges ++ (handledExchange
                  (tngModule config surroundings handleMessage) l.tng
                  (.main headerFirst rearm₁ rearm₂ transmit)).toList
                sent := l.sent ++ [] } := by
  have hrequest : 8 ≤ l.tng.requestData.length := by
    rw [h.allocated.requestData_length]
    decide
  have hfree : l.pending = none := responseMessage_of_zero (h.free (.inr hpc))
  obtain ⟨⟨device, response, ret⟩, hdispatch, rfl⟩ := Option.map_eq_some_iff.mp hs
  obtain ⟨hlong, hanswered⟩ := exchange_answered_iff hkeeps hrequest hdispatch
  have hexchange : handledExchange (tngModule config surroundings handleMessage) l.tng
      (.main headerFirst rearm₁ rearm₂ transmit) =
      some ⟨l.tng.requestData, ret, tngFinishResponse ret response⟩ := by
    unfold handledExchange
    rw [hpc]
    exact Option.map_eq_some_iff.mpr ⟨_, hdispatch, rfl⟩
  -- the response buffer was free, so nothing is lost by writing to it
  have hflow := h.flow
  rw [hfree, Option.toList_none, List.append_nil] at hflow
  rw [hexchange, List.append_nil]
  refine ⟨⟨h.allocated.recv, h.allocated.requestData_length⟩, ?_, ?_, ?_, ?_⟩
  · show 8 ≤ (tngFinishResponse ret response).length
    rw [length_tngFinishResponse]
    exact hlong
  · rintro (hcheck | hhandle)
    · cases hcheck
    · cases hhandle
  · show l.sent ++ (responseMessage (tngFinishResponse ret response)).toList = _
    rw [hflow, Option.toList_some, List.filterMap_append]
    cases hmessage : responseMessage (tngFinishResponse ret response) with
    | none => simp only [List.filterMap_cons, hmessage, List.filterMap_nil, Option.toList_none]
    | some message => simp only [List.filterMap_cons, hmessage, List.filterMap_nil, Option.toList_some]
  · intro x hx
    rcases List.mem_append.mp hx with hold | hnew
    · exact h.answered x hold
    · obtain rfl := List.mem_singleton.mp hnew
      exact hanswered

theorem accounted_tick (hkeeps : KeepsHeader handleMessage)
    {l : TNGLog (δ × TNGCommunication)} {s : TNG (δ × TNGCommunication)}
    {headerFirst rearm₁ rearm₂ transmit : Bool} (h : Accounted l)
    (hs : tngTick (tngModule config surroundings handleMessage) headerFirst rearm₁ rearm₂ transmit l.tng =
      some s) :
    Accounted { tng := s
                exchanges := l.exchanges ++ (handledExchange
                  (tngModule config surroundings handleMessage) l.tng
                  (.main headerFirst rearm₁ rearm₂ transmit)).toList
                sent := l.sent ++ (sentResponse l.tng (.main headerFirst rearm₁ rearm₂ transmit)).toList } := by
  have halloc := allocated_tick h.allocated hs
  have hfree := h.free
  unfold tngTick at hs
  cases e : l.tng.pc with
  | handle =>
    simp only [e] at hs
    obtain ⟨t, ht, rfl⟩ := Option.map_eq_some_iff.mp hs
    have hsent : sentResponse l.tng (.main headerFirst rearm₁ rearm₂ transmit) = none := by
      unfold sentResponse
      rw [e]
    rw [hsent]
    exact accounted_handle hkeeps h e ht
  | send =>
    -- the only step that sends: the message leaves the buffer and joins the log
    simp only [e, Option.some.injEq] at hs
    have hexchange : handledExchange (tngModule config surroundings handleMessage) l.tng
        (.main headerFirst rearm₁ rearm₂ transmit) = none := by
      unfold handledExchange
      rw [e]
    have hsent : sentResponse l.tng (.main headerFirst rearm₁ rearm₂ transmit) =
        (responseMessage l.tng.responseData).filter fun message =>
          (usbSend transmit message l.tng.usb).1 := by
      unfold sentResponse
      rw [e]
    obtain ⟨hlong, hmessage⟩ := tngSendResponse_message transmit l.tng h.long
    have hresponse : s.responseData = (tngSendResponse transmit l.tng).responseData := by
      rw [← hs]
    have hpc : s.pc = .idle := by
      rw [← hs]
    rw [hexchange, hsent]
    refine ⟨halloc, ?_, ?_, ?_, ?_⟩
    · show 8 ≤ s.responseData.length
      rw [hresponse]
      exact hlong
    · show s.pc = .checkRequest ∨ s.pc = .handle → _
      rw [hpc]
      nofun
    · show (l.sent ++ Option.toList _) ++ (responseMessage s.responseData).toList = _
      rw [hresponse, List.append_assoc, hmessage, Option.toList_none, List.append_nil]
      exact h.flow
    · rw [Option.toList_none, List.append_nil]
      exact h.answered
  | recv =>
    simp only [e] at hs
    obtain ⟨t, ht, rfl⟩ := Option.map_eq_some_iff.mp hs
    have hresponse : t.responseData = l.tng.responseData := by
      rw [(tngTryUsbRecv_allocated h.allocated ht).2]
    exact h.quietTick halloc hresponse nofun (by rw [e]; nofun) (by rw [e]; nofun)
  | shift =>
    simp only [e, Option.some.injEq] at hs
    subst hs
    have hresponse : (tngShiftRequest l.tng).responseData = l.tng.responseData := by
      unfold tngShiftRequest
      split <;> rfl
    exact h.quietTick halloc hresponse nofun (by rw [e]; nofun) (by rw [e]; nofun)
  | checkResponse =>
    -- from here on the response buffer is known to be free
    simp only [e, Option.some.injEq] at hs
    subst hs
    refine h.quietTick halloc rfl ?_ (by rw [e]; nofun) (by rw [e]; nofun)
    show (if l.tng.responseLength = 0 then TickPc.checkRequest else .send) = .checkRequest ∨
      (if l.tng.responseLength = 0 then TickPc.checkRequest else .send) = .handle →
        l.tng.responseLength = 0
    split
    · rename_i hzero
      exact fun _ => hzero
    · nofun
  | checkRequest =>
    simp only [e, Option.some.injEq] at hs
    subst hs
    exact h.quietTick halloc rfl (fun _ => hfree (.inl e)) (by rw [e]; nofun) (by rw [e]; nofun)
  | idle =>
    simp only [e, Option.some.injEq] at hs
    subst hs
    refine h.quietTick halloc rfl ?_ (by rw [e]; nofun) (by rw [e]; nofun)
    show (if usbCanRecv l.tng.usb then TickPc.recv else .load) = .checkRequest ∨
      (if usbCanRecv l.tng.usb then TickPc.recv else .load) = .handle → _
    split <;> nofun
  | compareLength length =>
    simp only [e, Option.some.injEq] at hs
    subst hs
    refine h.quietTick halloc rfl ?_ (by rw [e]; nofun) (by rw [e]; nofun)
    show (if l.tng.headerLength ≤ length then TickPc.recv else .send) = .checkRequest ∨
      (if l.tng.headerLength ≤ length then TickPc.recv else .send) = .handle → _
    split <;> nofun
  | compareHeader header =>
    simp only [e, Option.some.injEq] at hs
    subst hs
    refine h.quietTick halloc rfl ?_ (by rw [e]; nofun) (by rw [e]; nofun)
    show (if header ≤ l.tng.requestLength then TickPc.recv else .send) = .checkRequest ∨
      (if header ≤ l.tng.requestLength then TickPc.recv else .send) = .handle → _
    split <;> nofun
  | compareLength2 length =>
    simp only [e, Option.some.injEq] at hs
    subst hs
    refine h.quietTick halloc rfl ?_ (by rw [e]; nofun) (by rw [e]; nofun)
    show (if l.tng.headerLength ≤ length then TickPc.checkResponse else .send) = .checkRequest ∨
      (if l.tng.headerLength ≤ length then TickPc.checkResponse else .send) = .handle → _
    split <;> nofun
  | compareHeader2 header =>
    simp only [e, Option.some.injEq] at hs
    subst hs
    refine h.quietTick halloc rfl ?_ (by rw [e]; nofun) (by rw [e]; nofun)
    show (if header ≤ l.tng.requestLength then TickPc.checkResponse else .send) = .checkRequest ∨
      (if header ≤ l.tng.requestLength then TickPc.checkResponse else .send) = .handle → _
    split <;> nofun
  | load | load2 =>
    simp only [e, Option.some.injEq] at hs
    subst hs
    refine h.quietTick halloc rfl ?_ (by rw [e]; nofun) (by rw [e]; nofun)
    cases headerFirst with
    | true => nofun
    | false => nofun

theorem accounted_step (hkeeps : KeepsHeader handleMessage)
    (l : TNGLog (δ × TNGCommunication)) (e : TickEvent (δ × TNGCommunication))
    (l' : TNGLog (δ × TNGCommunication)) (h : Accounted l)
    (hs : tngLogStep (tngModule config surroundings handleMessage) l e = some l') :
    Accounted l' := by
  obtain ⟨s, hstep, rfl⟩ := Option.map_eq_some_iff.mp hs
  have halloc := allocated_step l.tng e s h.allocated hstep
  cases e with
  | main headerFirst rearm₁ rearm₂ transmit => exact accounted_tick hkeeps h hstep
  | dataOut chunk rearm₁ rearm₂ =>
    obtain ⟨usb, hu, ht⟩ := Option.bind_eq_some_iff.mp hstep
    have hframe := (tngTryUsbRecv_allocated (h.allocated.transfer hu) ht).2
    have hresponse : s.responseData = l.tng.responseData := by rw [hframe]
    have hpc : s.pc = l.tng.pc := by rw [hframe]
    apply h.quiet halloc hresponse
    rw [hpc, TNG.responseLength, hresponse]
    exact h.free
  | dataIn transmit =>
    obtain rfl := Option.some.inj hstep
    exact h.quiet halloc rfl h.free
  | callback device transmit data =>
    simp only [tngStep] at hstep
    split at hstep
    · obtain rfl := Option.some.inj hstep
      exact h.quiet halloc rfl h.free
    · cases hstep

/-- **Responses.**  In every run each response has been passed to one accepting `usb_send`
or is still pending, in the order of the requests; a request is only handled when none is
pending, and an accepting `usb_send` takes the one that is.  And a response that is expected
has the right header exactly if it has no error bits left over from its request. -/
theorem tng_responses (config : TNGConfig) (surroundings : δ → TNGEnvironment)
    (hkeeps : KeepsHeader handleMessage) (device : δ × TNGCommunication)
    {es : List (TickEvent (δ × TNGCommunication))} {l : TNGLog (δ × TNGCommunication)}
    (hr : run (tngLogStep (tngModule config surroundings handleMessage)) (tngLogInit device) es =
      some l) :
    l.sent ++ l.pending.toList = l.exchanges.filterMap (fun x => responseMessage x.response) ∧
      (l.tng.pc = .handle → l.pending = none) ∧
      (∀ headerFirst rearm₁ rearm₂ transmit message l', l.tng.pc = .send → l.pending = some message →
        (usbSend transmit message l.tng.usb).1 = true →
        tngLogStep (tngModule config surroundings handleMessage) l
          (.main headerFirst rearm₁ rearm₂ transmit) = some l' →
        l'.sent = l.sent ++ [message] ∧ l'.pending = none) ∧
      ∀ x ∈ l.exchanges, x.Answered ↔ x.ErrorClear := by
  have h := run_induct (accounted_step hkeeps) (accounted_tngLogInit device) hr
  refine ⟨h.flow, fun hpc => responseMessage_of_zero (h.free (.inr hpc)), ?_, h.answered⟩
  intro headerFirst rearm₁ rearm₂ transmit message l' hpc hpending haccepted hs
  have h' := accounted_step hkeeps _ _ _ h hs
  obtain ⟨s, -, rfl⟩ := Option.map_eq_some_iff.mp hs
  have hsent : sentResponse l.tng (.main headerFirst rearm₁ rearm₂ transmit) = some message := by
    simp only [sentResponse, hpc]
    rw [TNGLog.pending] at hpending
    rw [hpending, Option.filter_some, haccepted]
    rfl
  have hexchange : handledExchange (tngModule config surroundings handleMessage) l.tng
      (.main headerFirst rearm₁ rearm₂ transmit) = none := by
    simp only [handledExchange, hpc]
  rw [hsent, hexchange] at h' ⊢
  refine ⟨rfl, ?_⟩
  -- all that was pending has been sent
  have hflow := h'.flow
  have hbefore := h.flow
  rw [hpending] at hbefore
  simp only [Option.toList_none, Option.toList_some, List.append_nil] at hflow hbefore ⊢
  rw [← hbefore] at hflow
  exact Option.toList_eq_nil_iff.mp (List.append_right_eq_self.mp hflow)

end Steps

/-! ### A device without messages of its own -/

/-- A device with no messages of its own. -/
def noMessages (device : Unit × TNGCommunication) (_ response : List UInt8) :
    Option ((Unit × TNGCommunication) × List UInt8 × TNGHandleMessageResponse) :=
  some (device, response, .notSupported)

theorem noMessages_keepsHeader : KeepsHeader noMessages := by
  intro device request response device' response' ret hlong hm
  simp only [noMessages, Option.some.injEq, Prod.mk.injEq] at hm
  obtain ⟨-, rfl, -⟩ := hm
  exact KeptHeader.refl hlong

/-- A module that only has the messages of every module. -/
def plainModule : TNGDevice (Unit × TNGCommunication) :=
  tngModule ⟨2103, [1, 0, 0], [2, 0, 0], 2048⟩ (fun _ => ⟨2, 1000, 0, true, fun _ => true⟩)
    noMessages

/-- The request for the time stamp, with a response expected and the last two bytes of the
header given; and one tick. -/
def timestampExchange (sequence options : UInt8) : List (TickEvent (Unit × TNGCommunication)) :=
  .dataOut [0, 0, 0, 0, 8, 234, sequence, options] true true ::
    List.replicate 11 (.main false true true true)

/-- Two requests.  The first response is being transferred and three callbacks are stored
behind it when the second one is offered. -/
def refusedRun : List (TickEvent (Unit × TNGCommunication)) :=
  timestampExchange 0x18 0 ++
    List.replicate 3 (.callback ((), tngCommunicationInit) true (List.replicate 80 0)) ++
    timestampExchange 0x28 0

/-- The transfer ends, and one more tick. -/
def acceptedRun : List (TickEvent (Unit × TNGCommunication)) :=
  refusedRun ++ .dataIn true :: List.replicate 4 (.main true true true true)

/-- The log after the events. -/
def responseLog (es : List (TickEvent (Unit × TNGCommunication))) :
    TNGLog (Unit × TNGCommunication) :=
  after (tngLogStep plainModule) (tngLogInit ((), tngCommunicationInit)) es

/-- `usb_send` refuses the second response at first. -/
theorem tng_responses_timestamp :
    ((responseLog refusedRun).sent = [[0, 0, 0, 0, 16, 234, 0x18, 0, 232, 3, 0, 0, 0, 0, 0, 0]] ∧
      (responseLog refusedRun).pending =
        some [0, 0, 0, 0, 16, 234, 0x28, 0, 232, 3, 0, 0, 0, 0, 0, 0]) ∧
      (responseLog acceptedRun).sent =
        [[0, 0, 0, 0, 16, 234, 0x18, 0, 232, 3, 0, 0, 0, 0, 0, 0],
          [0, 0, 0, 0, 16, 234, 0x28, 0, 232, 3, 0, 0, 0, 0, 0, 0]] ∧
      (responseLog acceptedRun).sent ++ (responseLog acceptedRun).pending.toList =
        (responseLog acceptedRun).exchanges.filterMap (fun x => responseMessage x.response) ∧
      ∀ x ∈ (responseLog acceptedRun).exchanges, x.Answered := by
  have hrun : run (tngLogStep plainModule) (tngLogInit ((), tngCommunicationInit))
      acceptedRun = some (responseLog acceptedRun) := run_eq_after (by decide +kernel)
  obtain ⟨hflow, -, -, hanswered⟩ := tng_responses ⟨2103, [1, 0, 0], [2, 0, 0], 2048⟩
    (fun _ => ⟨2, 1000, 0, true, fun _ => true⟩) noMessages_keepsHeader
    ((), tngCommunicationInit) hrun
  refine ⟨⟨by decide +kernel, by decide +kernel⟩, by decide +kernel, hflow,
    fun x hx => (hanswered x hx).mpr ?_⟩
  have hclear : ∀ x ∈ (responseLog acceptedRun).exchanges, x.ErrorClear := by decide +kernel
  exact hclear x hx

/-- The error bits of the request come back with the time stamp. -/
theorem tng_responses_error :
    (responseLog (timestampExchange 0x18 0x40)).sent =
        [[0, 0, 0, 0, 16, 234, 0x18, 0x40, 232, 3, 0, 0, 0, 0, 0, 0]] ∧
      ∃ x ∈ (responseLog (timestampExchange 0x18 0x40)).exchanges, ¬ x.Answered := by
  have hrun : run (tngLogStep plainModule) (tngLogInit ((), tngCommunicationInit))
      (timestampExchange 0x18 0x40) = some (responseLog (timestampExchange 0x18 0x40)) :=
    run_eq_after (by decide +kernel)
  have h := run_induct (accounted_step noMessages_keepsHeader) (accounted_tngLogInit _) hrun
  have herror : ∃ x ∈ (responseLog (timestampExchange 0x18 0x40)).exchanges, ¬ x.ErrorClear := by
    decide +kernel
  obtain ⟨x, hx, hclear⟩ := herror
  exact ⟨by decide +kernel, x, hx, fun hanswered => hclear ((h.answered x hx).mp hanswered)⟩

end Bricklib2
