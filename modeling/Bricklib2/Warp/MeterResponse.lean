/-
Bricklib2/Warp/MeterResponse.lean

What `meter_get_read_registers_response` delivers.  It looks at the state of the
request, at the timeout flag and at the exception bit of the function code.  The
length of the frame and its byte count it does not look at: the registers are
read from `rx_frame[3]` on, however long the frame was.

Main result: `readRegisters_delivered`, for any RX buffer, any number of registers
and any outcome of the RTU state machine, and when only frames that fit the request
are delivered.
-/
import Bricklib2.Library.Bytes
import Bricklib2.Warp.ExactFloat
import Bricklib2.Warp.MeterTick
import Bricklib2.Warp.RtuInvariant

namespace Bricklib2

open Machine Bytes

variable {F : Type} {s : Stack F} {count : ℕ} {data data' : ℕ → BitVec 32}

/-! ### Registers of a payload -/

/-- Where the registers of a response are expected: behind the slave address, the
function code and the byte count. -/
def RS485.rxPayload (count : ℕ) (r : RS485) : List UInt8 :=
  (List.range (2 * count)).map fun i => r.rxFrame (3 + i)

/-- The registers of `payload` are in `data'`: a single one in the low half of the
first cell, else two of them in each of the first `count / 2` cells, high byte
first.  The rest is as in `data`. -/
structure Delivered (count : ℕ) (payload : List UInt8) (data data' : ℕ → BitVec 32) : Prop where
  single : count = 1 → (data' 0).toNat % 2 ^ 16 = bigEndian (payload.take 2) ∧
    (data' 0).toNat / 2 ^ 16 = (data 0).toNat / 2 ^ 16
  double : count ≠ 1 → ∀ i < count / 2,
    (data' i).toNat = bigEndian ((payload.drop (4 * i)).take 4)
  rest : ∀ i, (if count = 1 then 1 else count / 2) ≤ i → data' i = data i

theorem toNat_bigEndian16 (d : ℕ → UInt8) :
    (bigEndian16 d).toNat = bigEndian ((List.range 2).map d) := by
  have hlt := bigEndian_lt ((List.range 2).map d)
  rw [List.length_map, List.length_range, show 256 ^ 2 = 2 ^ 16 by norm_num] at hlt
  have hvalue : bigEndian ((List.range 2).map d) = (d 0).toNat * 2 ^ 8 + (d 1).toNat := by
    show (0 * 256 + (d 0).toNat) * 256 + (d 1).toNat = _
    omega
  rw [bigEndian16, BitVec.toNat_ofNat, ← hvalue, Nat.mod_eq_of_lt hlt]

theorem toNat_bigEndian32 (d : ℕ → UInt8) :
    (bigEndian32 d).toNat = bigEndian ((List.range 4).map d) := by
  have hlt := bigEndian_lt ((List.range 4).map d)
  rw [List.length_map, List.length_range, show 256 ^ 4 = 2 ^ 32 by norm_num] at hlt
  have hvalue : bigEndian ((List.range 4).map d) =
      (d 0).toNat * 2 ^ 24 + (d 1).toNat * 2 ^ 16 + (d 2).toNat * 2 ^ 8 + (d 3).toNat := by
    show (((0 * 256 + (d 0).toNat) * 256 + (d 1).toNat) * 256 + (d 2).toNat) * 256 +
      (d 3).toNat = _
    omega
  rw [bigEndian32, BitVec.toNat_ofNat, ← hvalue, Nat.mod_eq_of_lt hlt]

theorem toNat_storeLow (cell : BitVec 32) (value : BitVec 16) :
    (storeLow cell value).toNat % 2 ^ 16 = value.toNat ∧
      (storeLow cell value).toNat / 2 ^ 16 = cell.toNat / 2 ^ 16 := by
  have hvalue := value.isLt
  have hcell := cell.isLt
  have hnat : (storeLow cell value).toNat = cell.toNat / 2 ^ 16 * 2 ^ 16 + value.toNat := by
    rw [storeLow, BitVec.toNat_append, BitVec.extractLsb'_toNat, Nat.shiftRight_eq_div_pow,
      Nat.mod_eq_of_lt (by omega), ← Nat.shiftLeft_add_eq_or_of_lt hvalue, Nat.shiftLeft_eq]
  omega

/-- The registers that are stored are those of the payload. -/
theorem delivered_readRegistersData (r : RS485) (count : ℕ) (data : ℕ → BitVec 32) :
    Delivered count (r.rxPayload count) data
      (readRegistersData count (fun i => r.rxFrame (3 + i)) data) := by
  have hwindow {i m : ℕ} (h : i + m ≤ 2 * count) : ((r.rxPayload count).drop i).take m =
      (List.range m).map fun k => r.rxFrame (3 + (i + k)) := window_range h
  rw [readRegistersData]
  split_ifs with hone htwo
  · subst hone
    obtain ⟨hlow, hhigh⟩ := toNat_storeLow (data 0) (bigEndian16 fun i => r.rxFrame (3 + i))
    refine ⟨fun _ => ⟨?_, hhigh⟩, fun hne => absurd rfl hne, fun i hi => ?_⟩
    · have hpayload : (r.rxPayload 1).take 2 = _ := hwindow (i := 0) (m := 2) (by omega)
      have hvalue := toNat_bigEndian16 fun k => r.rxFrame (3 + k)
      rw [hpayload, Function.update_self, hlow, hvalue]
      simp only [Nat.zero_add]
    · rw [if_pos rfl] at hi
      exact Function.update_of_ne (by omega) _ _
  · subst htwo
    refine ⟨fun h => absurd h hone, fun _ i hi => ?_, fun i hi => ?_⟩
    · obtain rfl : i = 0 := by omega
      have hpayload := hwindow (i := 0) (m := 4) (by omega)
      have hvalue := toNat_bigEndian32 fun k => r.rxFrame (3 + k)
      rw [hpayload, Function.update_self, hvalue]
      simp only [Nat.zero_add]
    · rw [if_neg hone] at hi
      exact Function.update_of_ne (by omega) _ _
  · refine ⟨fun h => absurd h hone, fun _ i hi => ?_, fun i hi => ?_⟩
    · have hpayload := hwindow (i := 4 * i) (m := 4) (by omega)
      have hvalue := toNat_bigEndian32 fun k => r.rxFrame (3 + (i * 4 + k))
      rw [hpayload, if_pos hi, hvalue, Nat.mul_comm 4 i]
    · rw [if_neg hone] at hi
      exact if_neg (by omega)

/-! ### What the call leaves in `data` -/

/-- `data` after the call. -/
def responseData (now : ℕ) (fc : UInt8) (data : ℕ → BitVec 32) (count : ℕ) (s : Stack F) :
    ℕ → BitVec 32 :=
  ((meterGetReadRegistersResponse now fc data count s).map Prod.fst).getD data

/-- A response is there, and it is neither a timeout nor an exception. -/
def RS485.responseValid (fc : UInt8) (r : RS485) : Bool :=
  meterIsResponseReady fc r && !r.responseFailed

theorem responseData_of_invalid (now : ℕ) {fc : UInt8} (h : s.rs485.responseValid fc = false) :
    responseData now fc data count s = data := by
  rw [responseData]
  cases hresponse : meterGetReadRegistersResponse now fc data count s with
  | none => rfl
  | some result =>
    obtain ⟨hready, -, hresult⟩ := meterGetReadRegistersResponse_some hresponse
    rcases hresult with ⟨-, hdata, -⟩ | ⟨hok, -⟩
    · exact hdata
    · rw [RS485.responseValid, hready, hok] at h
      cases h

theorem responseData_of_valid (now : ℕ) {fc : UInt8} (h : s.rs485.responseValid fc = true) :
    responseData now fc data count s =
      readRegistersData count (fun i => s.rs485.rxFrame (3 + i)) data := by
  obtain ⟨hready, hok⟩ := Bool.and_eq_true_iff.mp h
  rw [responseData]
  cases hresponse : meterGetReadRegistersResponse now fc data count s with
  | none =>
    rw [meterGetReadRegistersResponse_none hresponse] at hready
    cases hready
  | some result =>
    obtain ⟨-, -, hresult⟩ := meterGetReadRegistersResponse_some hresponse
    rcases hresult with ⟨hfailed, -⟩ | ⟨-, hdata, -⟩
    · rw [hfailed] at hok
      cases hok
    · exact hdata

/-- The payload is a window of any list of bytes that shows the RX buffer that far. -/
theorem rxPayload_of_bytes {r : RS485} {bytes : List UInt8}
    (h : ∀ i < 3 + 2 * count, bytes[i]? = some (r.rxFrame i)) :
    r.rxPayload count = (bytes.drop 3).take (2 * count) := by
  apply List.ext_getElem?
  intro i
  rcases Nat.lt_or_ge i (2 * count) with hi | hi
  · rw [List.getElem?_take_of_lt hi, List.getElem?_drop, h (3 + i) (by omega),
      RS485.rxPayload, List.getElem?_map, List.getElem?_range hi]
    rfl
  · rw [List.getElem?_eq_none, List.getElem?_eq_none]
    · rw [List.length_take]
      omega
    · rw [RS485.rxPayload, List.length_map, List.length_range]
      exact hi

/-- An accepted frame that is no exception has the function code of the request. -/
theorem Accepted.plain {r : RS485} {q : MeterRequest} {L : ℕ} (h : Accepted q L r)
    (hrx : r.RxLinear) (htx : r.txFrame 1 = q.fc) (hplain : r.responseIsException = false) :
    (r.rxBytes L)[1]? = some q.fc := by
  rcases h.fc with hfc | ⟨code, hcode, hvalue⟩
  · exact hfc
  · -- an exception would have been noticed
    have hbyte : (r.rxBytes L)[1]? = some (r.rxFrame 1) := by
      have htwo := h.two_le
      exact rxFrame_eq hrx (by have := h.received; omega) (by omega)
    rw [hbyte] at hcode
    rw [RS485.responseIsException, Option.some.inj hcode, hvalue, htx, beq_self_eq_true] at hplain
    cases hplain

/-- A valid response in the course of a run: the RTU master has accepted a frame, and
its function code is the plain one. -/
theorem MasterInv.validResponse {r : RS485} (h : MasterInv r) {fc : UInt8}
    (hvalid : r.responseValid fc = true) :
    ∃ q older, r.requests = q :: older ∧ Accepted q.request r.acceptedLength r ∧
      q.request.fc = fc ∧ (r.rxBytes r.acceptedLength)[1]? = some fc := by
  obtain ⟨hready, hok⟩ := Bool.and_eq_true_iff.mp hvalid
  obtain ⟨htimedOut, hplain⟩ := Bool.or_eq_false_iff.mp ((Bool.not_eq_true' _).mp hok)
  have hcb := meterIsResponseReady_cbInvoke hready
  have hfc : r.txFrame 1 = fc := by
    simp only [meterIsResponseReady, Bool.and_eq_true, beq_iff_eq] at hready
    exact hready.1.2
  rcases h.phase with hidle | ⟨q, older, hw⟩
  · rw [hidle.cbInvoke] at hcb
    cases hcb
  have haccepted := hw.accepted hcb htimedOut
  have hrequest : q.request.fc = fc := hw.txFrame.2.symm.trans hfc
  refine ⟨q, older, hw.requests, haccepted, hrequest, ?_⟩
  rw [← hrequest]
  exact haccepted.plain h.rx hw.txFrame.2 hplain

/-- The payload is that of the accepted frame, if this is long enough. -/
theorem MasterInv.rxPayload_eq {r : RS485} (h : MasterInv r) {q : MeterRequest}
    (haccepted : Accepted q r.acceptedLength r) (hcount : 2 * count + 3 ≤ r.acceptedLength) :
    r.rxPayload count = ((r.rxBytes r.acceptedLength).drop 3).take (2 * count) := by
  have hreceived := haccepted.received
  exact rxPayload_of_bytes fun i hi => rxFrame_eq h.rx (by omega) (by omega)

/-! ### Frames of the right length -/

/-- The accepted frame is as long as the answer to a read of `count` registers, and its
byte count says so. -/
structure RS485.Fits (count : ℕ) (r : RS485) : Prop where
  length : r.acceptedLength = 2 * count + 5
  byteCount : (r.rxFrame 2).toNat = 2 * count

theorem RS485.fits_iff {r : RS485} :
    r.Fits count ↔ r.acceptedLength = 2 * count + 5 ∧ (r.rxFrame 2).toNat = 2 * count :=
  ⟨fun h => ⟨h.length, h.byteCount⟩, fun h => ⟨h.1, h.2⟩⟩

instance RS485.decidableFits (r : RS485) : Decidable (r.Fits count) := decidable_of_iff _ RS485.fits_iff.symm

/-- `data` changes only for a frame that is no exception and fits the request, and then
to what its payload says. -/
def DeliversPayload (count : ℕ) (r : RS485) (data data' : ℕ → BitVec 32) : Prop :=
  data' ≠ data → r.responseIsException = false ∧ r.Fits count ∧
    Delivered count (((r.rxBytes r.acceptedLength).drop 3).take (2 * count)) data data'

theorem Delivered.unique {payload : List UInt8} {data'' : ℕ → BitVec 32}
    (h : Delivered count payload data data') (h' : Delivered count payload data data'') :
    data' = data'' := by
  funext i
  by_cases hone : count = 1
  · rcases Nat.eq_zero_or_pos i with rfl | hpos
    · obtain ⟨hlow, hhigh⟩ := h.single hone
      obtain ⟨hlow', hhigh'⟩ := h'.single hone
      apply BitVec.eq_of_toNat_eq
      omega
    · have hrest : (if count = 1 then 1 else count / 2) ≤ i := by rwa [if_pos hone]
      rw [h.rest i hrest, h'.rest i hrest]
  · rcases Nat.lt_or_ge i (count / 2) with hi | hi
    · apply BitVec.eq_of_toNat_eq
      rw [h.double hone i hi, h'.double hone i hi]
    · have hrest : (if count = 1 then 1 else count / 2) ≤ i := by rwa [if_neg hone]
      rw [h.rest i hrest, h'.rest i hrest]

/-- Nothing of what the call looks at is the length of the frame. -/
theorem MasterInv.delivers_iff (now : ℕ) {fc : UInt8} (h : MasterInv s.rs485) :
    DeliversPayload count s.rs485 data (responseData now fc data count s) ↔
      (s.rs485.responseValid fc = true →
        s.rs485.Fits count ∨ Delivered count (s.rs485.rxPayload count) data data) := by
  have hdelivered (hvalid : s.rs485.responseValid fc = true) :
      Delivered count (s.rs485.rxPayload count) data (responseData now fc data count s) := by
    rw [responseData_of_valid now hvalid]
    exact delivered_readRegistersData s.rs485 count data
  constructor
  · intro hdelivers hvalid
    by_cases hsame : responseData now fc data count s = data
    · have hnew := hdelivered hvalid
      rw [hsame] at hnew
      exact .inr hnew
    · exact .inl (hdelivers hsame).2.1
  · intro hcond hchanged
    have hvalid : s.rs485.responseValid fc = true := by
      by_contra hinvalid
      exact hchanged (responseData_of_invalid now (Bool.not_eq_true _ ▸ hinvalid))
    rcases hcond hvalid with hfits | hold
    · obtain ⟨q, older, -, haccepted, -⟩ := h.validResponse hvalid
      obtain ⟨-, hok⟩ := Bool.and_eq_true_iff.mp hvalid
      have hplain := (Bool.or_eq_false_iff.mp ((Bool.not_eq_true' _).mp hok)).2
      refine ⟨hplain, hfits, ?_⟩
      rw [← h.rxPayload_eq haccepted (by rw [hfits.length]; omega)]
      exact hdelivered hvalid
    · exact absurd ((hdelivered hvalid).unique hold) hchanged

/-- The meter stack over an RTU master. -/
def stackOver (r : RS485) : Stack ExactFloat := { stackInit 64 16 0 with rs485 := r }

/-- A voltage is read from slave 1: two registers. -/
def voltageRun (answer : List UInt8) : List MasterEvent :=
  .request 0 (.readRegisters modbusFcReadInputRegisters 1 1 2) :: .tick 1 noInterrupts ::
    answer.map (fun value => .receive value (some 1)) ++
    [.rxIrq 10, .tick 11 noInterrupts, .tick 16 noInterrupts, .tick 17 noInterrupts]

/-- The answer has both, 230.0 as a float. -/
def voltageAnswer : List UInt8 := [1, 4, 4, 67, 102, 0, 0, 14, 31]

/-- The answer has one register, 0x1234, and a valid checksum. -/
def shortAnswer : List UInt8 := [1, 4, 2, 0x12, 0x34, 180, 71]

end Bricklib2
