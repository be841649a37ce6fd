/-
Bricklib2/Warp/Wem/SdmmcSpiChannel.lean

The channel to the SD card and its interrupts.  Both directions are pipes that may lose bytes:
the handlers can be late, and the transmit FIFO can be filled beyond its end.  In an attempt
both share one buffer: what is received never goes over what is still to be sent.

Main result: `Interrupt.attempt`.
-/
import Bricklib2.Library.LossyPipe
import Bricklib2.Warp.Wem.SdmmcSpi

namespace Bricklib2

/-- A byte that does not fit is lost. -/
theorem lossyPipe_fifoPush {α : Type*} {input front fifo output : List α} {size : ℕ}
    (h : LossyPipe input (front ++ fifo) output) (x : α) :
    LossyPipe (input ++ [x]) (front ++ fifoPush size fifo x) output := by
  unfold fifoPush
  split_ifs
  · rw [← List.append_assoc]
    exact h.push x
  · exact h.lose x

theorem length_le_fifoPush {α : Type*} {size : ℕ} {fifo : List α} {x : α} :
    fifo.length ≤ (fifoPush size fifo x).length := by
  unfold fifoPush
  split_ifs
  · rw [List.length_append]
    exact Nat.le_add_right _ _
  · exact le_rfl

theorem take_succ_byteAt {data : List UInt8} {i : ℕ} (h : i < data.length) :
    data.take (i + 1) = data.take i ++ [byteAt data i] := by
  rw [List.take_add_one, List.getElem?_eq_getElem h, byteAt, List.getD_eq_getElem _ _ h]
  rfl

theorem SdmmcTransfer.kept_append (transfer : SdmmcTransfer) (xs ys : List UInt8) :
    transfer.kept (xs ++ ys) = transfer.kept xs ++ transfer.kept ys := by
  cases transfer <;> rfl

/-- How many bytes the handler may still send. -/
def SdmmcMosiHandler.amount : SdmmcMosiHandler → ℕ
  | .rxLevel toSend _ | .fifoLevel toSend _ => toSend
  | .push amount => amount

namespace SdmmcSpi

variable {s s' : SdmmcSpi} {put : ℕ} {got : List UInt8}

/-! ### The channel -/

/-- The first `put` bytes to send were given to the FIFO, and `got` was taken out. -/
def Transferring (s : SdmmcSpi) (put : ℕ) (got : List UInt8) : Prop :=
  LossyPipe (s.transfer.mosi.take put) (s.shifter ++ s.txFifo) (s.wire.map Prod.fst) ∧
    LossyPipe (s.wire.map Prod.snd) s.rxFifo got

/-- No byte is on its way. -/
def Drained (s : SdmmcSpi) : Prop := s.shifter = [] ∧ s.txFifo = [] ∧ s.rxFifo = []

/-- No interrupt can send a byte. -/
def TxOff (s : SdmmcSpi) : Prop :=
  s.txEvent = false ∧ s.txRequest = false ∧ s.mosiHandler = none

/-- No interrupt can take a byte. -/
def RxOff (s : SdmmcSpi) : Prop :=
  s.rxEvent = false ∧ s.rxRequest = false ∧ s.misoHandler = none

namespace Transferring

theorem length_le (h : s.Transferring put got) : got.length + s.rxFifo.length ≤ put := by
  have hreceived := h.2.length_le
  have hsent := h.1.length_le
  rw [List.length_map] at hreceived hsent
  rw [List.length_take] at hsent
  omega

/-- Where as much was received as the call has to send, no byte was lost. -/
theorem complete (h : s.Transferring put got) (hgot : s.transfer.mosi.length ≤ got.length) :
    s.Drained ∧ s.wire.map Prod.fst = s.transfer.mosi ∧ got = s.wire.map Prod.snd := by
  obtain ⟨hsent, hreceived⟩ := h
  have hout := hsent.length_le
  have hback := hreceived.length_le
  rw [List.length_map] at hout hback
  rw [List.length_take] at hout
  obtain ⟨hgotEq, hrx⟩ := hreceived.complete (by rw [List.length_map]; omega)
  obtain ⟨hwire, hinside⟩ := hsent.complete (by rw [List.length_map, List.length_take]; omega)
  obtain ⟨hshifter, htx⟩ := List.append_eq_nil_iff.mp hinside
  rw [List.take_of_length_le (by omega)] at hwire
  exact ⟨⟨hshifter, htx, hrx⟩, hwire, hgotEq⟩

/-- Where no byte was sent, none comes back. -/
theorem eq_nil (h : s.Transferring 0 got) : s.Drained ∧ s.wire = [] ∧ got = [] := by
  obtain ⟨hsent, hreceived⟩ := h
  obtain ⟨hinside, hwire⟩ := hsent.eq_nil
  obtain ⟨hshifter, htx⟩ := List.append_eq_nil_iff.mp hinside
  have hwire : s.wire = [] := List.map_eq_nil_iff.mp hwire
  rw [hwire] at hreceived
  obtain ⟨hrx, hgot⟩ := hreceived.eq_nil
  exact ⟨⟨hshifter, htx, hrx⟩, hwire, hgot⟩

/-- All bytes were given to the FIFO. -/
theorem all (h : s.Transferring put got) (hput : s.transfer.mosi.length ≤ put) :
    s.Transferring s.transfer.mosi.length got := by
  obtain ⟨hsent, hreceived⟩ := h
  rw [List.take_of_length_le hput] at hsent
  refine ⟨?_, hreceived⟩
  rwa [List.take_length]

/-- **A byte is sent.** -/
theorem pushTx (h : s.Transferring put got) (hput : put < s.transfer.mosi.length) :
    (s.pushTx (byteAt s.transfer.mosi put)).Transferring (put + 1) got := by
  refine ⟨?_, h.2⟩
  show LossyPipe (s.transfer.mosi.take (put + 1)) _ _
  rw [take_succ_byteAt hput]
  exact lossyPipe_fifoPush h.1 _

/-- **A byte is taken out.** -/
theorem take {x : UInt8} {rest : List UInt8} (h : s.Transferring put got)
    (hrx : s.rxFifo = x :: rest) :
    Transferring { s with rxFifo := rest } put (got ++ [x]) := by
  obtain ⟨hsent, hreceived⟩ := h
  rw [hrx] at hreceived
  exact ⟨hsent, hreceived.pop⟩

/-- **A byte goes into the shifter.** -/
theorem load {x : UInt8} {rest : List UInt8} (h : s.Transferring put got)
    (htx : s.txFifo = x :: rest) :
    Transferring { s with txFifo := rest, shifter := s.shifter ++ [x] } put got := by
  obtain ⟨hsent, hreceived⟩ := h
  rw [htx, List.append_cons] at hsent
  exact ⟨hsent, hreceived⟩

/-- **A byte goes over the wire.** -/
theorem shift {x miso : UInt8} {rest : List UInt8} (h : s.Transferring put got)
    (hshifter : s.shifter = x :: rest) :
    Transferring
      { s with
        shifter := rest
        rxFifo := fifoPush sdmmcFifoSize s.rxFifo miso
        wire := s.wire ++ [(x, miso)] } put got := by
  obtain ⟨hsent, hreceived⟩ := h
  rw [hshifter, List.cons_append] at hsent
  constructor
  · show LossyPipe _ _ ((s.wire ++ [(x, miso)]).map Prod.fst)
    rw [List.map_append]
    exact hsent.pop
  · show LossyPipe ((s.wire ++ [(x, miso)]).map Prod.snd) _ _
    rw [List.map_append]
    exact @lossyPipe_fifoPush _ _ [] _ _ _ hreceived miso

end Transferring

theorem Drained.transferring (h : s.Drained) (hwire : s.wire = []) : s.Transferring 0 [] := by
  obtain ⟨hshifter, htx, hrx⟩ := h
  constructor
  · rw [hshifter, htx, hwire]
    exact LossyPipe.empty
  · rw [hrx, hwire]
    exact LossyPipe.empty

/-! ### Beside the task -/

/-- **What happens beside the task.** -/
inductive Interrupt (s : SdmmcSpi) : SdmmcSpi → Prop
  | requestTx (hevent : s.txEvent = true) : Interrupt s { s with txRequest := true }
  | requestRx (hevent : s.rxEvent = true) : Interrupt s { s with rxRequest := true }
  | mosiEnter (hrequest : s.txRequest = true) :
    Interrupt s
      { s with
        txRequest := false
        mosiHandler :=
          some (.rxLevel (s.dataLength - s.mosiIndex) (sdmmcFifoSize - s.txFifo.length)) }
  | mosiWait (handler handler' : SdmmcMosiHandler) (hhandler : s.mosiHandler = some handler)
    (hle : handler'.amount ≤ handler.amount) :
    Interrupt s { s with mosiHandler := some handler' }
  | mosiWrite (amount : ℕ) (hhandler : s.mosiHandler = some (.push (amount + 1))) :
    Interrupt s { s.writeIn with mosiHandler := some (.push amount) }
  | mosiLeave (txEvent : Bool) (handler : SdmmcMosiHandler)
    (hhandler : s.mosiHandler = some handler) :
    Interrupt s { s with txEvent := txEvent, mosiHandler := none }
  | misoEnter (hrequest : s.rxRequest = true) :
    Interrupt s { s with rxRequest := false, misoHandler := some s.rxFifo.length }
  | misoRead (amount : ℕ) (hhandler : s.misoHandler = some (amount + 1)) :
    Interrupt s { s.readOutr with misoHandler := some amount }
  | misoLeave (amount : ℕ) (hhandler : s.misoHandler = some amount) :
    Interrupt s { s with misoHandler := none }
  | load (x : UInt8) (rest : List UInt8) (htx : s.txFifo = x :: rest) :
    Interrupt s { s with txFifo := rest, shifter := s.shifter ++ [x] }
  | shift (x miso : UInt8) (rest : List UInt8) (hshifter : s.shifter = x :: rest) :
    Interrupt s
      { s with
        shifter := rest
        rxFifo := fifoPush sdmmcFifoSize s.rxFifo miso
        wire := s.wire ++ [(x, miso)] }

theorem interrupt_of_step {e : SdmmcSpiEvent} (hs : s.interruptStep e = some s') :
    s.Interrupt s' := by
  cases e with
  | call transfer => cases hs
  | exec now => cases hs
  | requestTx =>
    dsimp only [interruptStep] at hs
    split_ifs at hs with hevent
    obtain rfl := Option.some.inj hs
    exact .requestTx hevent
  | requestRx =>
    dsimp only [interruptStep] at hs
    split_ifs at hs with hevent
    obtain rfl := Option.some.inj hs
    exact .requestRx hevent
  | mosi =>
    dsimp only [interruptStep] at hs
    cases hhandler : s.mosiHandler with
    | none =>
      rw [hhandler] at hs
      dsimp only at hs
      split_ifs at hs with hrequest
      obtain rfl := Option.some.inj hs
      exact .mosiEnter hrequest
    | some handler =>
      rw [hhandler] at hs
      obtain rfl := Option.some.inj hs
      cases handler with
      | rxLevel toSend txFree => exact .mosiWait _ _ hhandler le_rfl
      | fifoLevel toSend tx => exact .mosiWait _ _ hhandler (min_le_left _ _)
      | push amount =>
        cases amount with
        | zero => exact .mosiLeave _ _ hhandler
        | succ amount => exact .mosiWrite amount hhandler
  | miso =>
    dsimp only [interruptStep] at hs
    cases hhandler : s.misoHandler with
    | none =>
      rw [hhandler] at hs
      dsimp only at hs
      split_ifs at hs with hrequest
      obtain rfl := Option.some.inj hs
      exact .misoEnter hrequest
    | some amount =>
      rw [hhandler] at hs
      cases amount with
      | zero =>
        obtain rfl := Option.some.inj hs
        exact .misoLeave 0 hhandler
      | succ amount =>
        obtain rfl := Option.some.inj hs
        exact .misoRead amount hhandler
  | load =>
    dsimp only [interruptStep] at hs
    cases htx : s.txFifo with
    | nil =>
      rw [htx] at hs
      cases hs
    | cons x rest =>
      rw [htx] at hs
      dsimp only at hs
      split_ifs at hs
      obtain rfl := Option.some.inj hs
      exact .load x rest htx
  | shift miso =>
    dsimp only [interruptStep] at hs
    cases hshifter : s.shifter with
    | nil =>
      rw [hshifter] at hs
      cases hs
    | cons x rest =>
      rw [hshifter] at hs
      obtain rfl := Option.some.inj hs
      exact .shift x miso rest hshifter

namespace Interrupt

/-- What only the task changes. -/
theorem frame (h : s.Interrupt s') :
    s'.pc = s.pc ∧ s'.transfer = s.transfer ∧ s'.data = s.data ∧ s'.dataLength = s.dataLength := by
  cases h <;> exact ⟨rfl, rfl, rfl, rfl⟩

theorem buffer_length (h : s.Interrupt s') : s'.buffer.length = s.buffer.length := by
  cases h with
  | misoRead amount hhandler => exact List.length_set
  | _ => rfl

theorem txOff (h : s.Interrupt s') (hoff : s.TxOff) :
    s'.TxOff ∧ s'.mosiIndex = s.mosiIndex := by
  obtain ⟨hevent, hrequest, hhandler⟩ := hoff
  cases h with
  | requestTx hevent' => exact absurd (hevent.symm.trans hevent') nofun
  | mosiEnter hrequest' => exact absurd (hrequest.symm.trans hrequest') nofun
  | mosiWait handler handler' hhandler' hle => exact absurd (hhandler.symm.trans hhandler') nofun
  | mosiWrite amount hhandler' => exact absurd (hhandler.symm.trans hhandler') nofun
  | mosiLeave txEvent handler hhandler' => exact absurd (hhandler.symm.trans hhandler') nofun
  | _ => exact ⟨⟨hevent, hrequest, hhandler⟩, rfl⟩

theorem rxOff (h : s.Interrupt s') (hoff : s.RxOff) :
    s'.RxOff ∧ s'.misoIndex = s.misoIndex ∧ s.rxFifo.length ≤ s'.rxFifo.length := by
  obtain ⟨hevent, hrequest, hhandler⟩ := hoff
  cases h with
  | requestRx hevent' => exact absurd (hevent.symm.trans hevent') nofun
  | misoEnter hrequest' => exact absurd (hrequest.symm.trans hrequest') nofun
  | misoRead amount hhandler' => exact absurd (hhandler.symm.trans hhandler') nofun
  | misoLeave amount hhandler' => exact absurd (hhandler.symm.trans hhandler') nofun
  | shift x miso rest hshifter => exact ⟨⟨hevent, hrequest, hhandler⟩, rfl, length_le_fifoPush⟩
  | _ => exact ⟨⟨hevent, hrequest, hhandler⟩, rfl, le_rfl⟩

theorem buffer_eq (h : s.Interrupt s') (hoff : s.RxOff) : s'.buffer = s.buffer := by
  cases h with
  | misoRead amount hhandler => exact absurd (hoff.2.2.symm.trans hhandler) nofun
  | _ => rfl

end Interrupt

theorem Interrupt.transferring (h : s.Interrupt s') (htx : s.TxOff) (hrx : s.RxOff)
    (ht : s.Transferring put got) : s'.Transferring put got := by
  cases h with
  | load x rest hfifo => exact ht.load hfifo
  | shift x miso rest hshifter => exact ht.shift hshifter
  | mosiWrite amount hhandler => exact absurd (htx.2.2.symm.trans hhandler) nofun
  | misoRead amount hhandler => exact absurd (hrx.2.2.symm.trans hhandler) nofun
  | _ => exact ht

theorem Interrupt.not_drained (h : s.Interrupt s') (htx : s.TxOff) (hrx : s.RxOff) :
    ¬ s.Drained := by
  intro hdrained
  cases h with
  | requestTx hevent => exact absurd (htx.1.symm.trans hevent) nofun
  | requestRx hevent => exact absurd (hrx.1.symm.trans hevent) nofun
  | mosiEnter hrequest => exact absurd (htx.2.1.symm.trans hrequest) nofun
  | mosiWait handler handler' hhandler hle => exact absurd (htx.2.2.symm.trans hhandler) nofun
  | mosiWrite amount hhandler => exact absurd (htx.2.2.symm.trans hhandler) nofun
  | mosiLeave txEvent handler hhandler => exact absurd (htx.2.2.symm.trans hhandler) nofun
  | misoEnter hrequest => exact absurd (hrx.2.1.symm.trans hrequest) nofun
  | misoRead amount hhandler => exact absurd (hrx.2.2.symm.trans hhandler) nofun
  | misoLeave amount hhandler => exact absurd (hrx.2.2.symm.trans hhandler) nofun
  | load x rest hfifo => exact absurd (hdrained.2.1.symm.trans hfifo) nofun
  | shift x miso rest hshifter => exact absurd (hdrained.1.symm.trans hshifter) nofun

/-! ### Attempts -/

/-- The buffer in an attempt: received bytes up to `misoIndex`, behind `mosiIndex` the bytes that
are still to be sent. -/
structure Sending (s : SdmmcSpi) : Prop where
  dataLength : s.dataLength = s.transfer.mosi.length
  misoIndex_le : s.misoIndex ≤ s.mosiIndex
  mosiIndex_le : s.mosiIndex ≤ s.dataLength
  le_buffer : s.dataLength ≤ s.buffer.length
  transferring : s.Transferring s.mosiIndex (s.buffer.take s.misoIndex)
  unsent : ∀ i, s.mosiIndex ≤ i → byteAt s.buffer i = byteAt s.transfer.mosi i ∨ s.dataLength ≤ i

/-- The handlers send no more bytes than there are, and take no more than have come. -/
structure Attempt (s : SdmmcSpi) : Prop extends s.Sending where
  mosiHandler : ∀ handler, s.mosiHandler = some handler →
    handler.amount ≤ s.dataLength - s.mosiIndex
  misoHandler : ∀ amount, s.misoHandler = some amount → amount ≤ s.rxFifo.length

/-- What the buffer does not depend on. -/
theorem Sending.frame (h : s.Sending) {pc : SdmmcSpiPc} {data : List UInt8} {start : ℕ}
    {txEvent rxEvent txRequest rxRequest : Bool} {mosiHandler : Option SdmmcMosiHandler}
    {misoHandler : Option ℕ} :
    Sending
      { s with
        pc := pc, data := data, start := start, txEvent := txEvent, rxEvent := rxEvent
        txRequest := txRequest, rxRequest := rxRequest, mosiHandler := mosiHandler
        misoHandler := misoHandler } :=
  ⟨h.dataLength, h.misoIndex_le, h.mosiIndex_le, h.le_buffer, h.transferring, h.unsent⟩

theorem Attempt.frame (h : s.Attempt) {pc : SdmmcSpiPc} {data : List UInt8} {start : ℕ}
    {txEvent rxEvent txRequest rxRequest : Bool} :
    Attempt
      { s with
        pc := pc, data := data, start := start, txEvent := txEvent, rxEvent := rxEvent
        txRequest := txRequest, rxRequest := rxRequest } :=
  ⟨h.toSending.frame, h.mosiHandler, h.misoHandler⟩

theorem Sending.misoIndex_add_le (h : s.Sending) :
    s.misoIndex + s.rxFifo.length ≤ s.mosiIndex := by
  have hlength := h.transferring.length_le
  have hmiso := h.misoIndex_le
  have hmosi := h.mosiIndex_le
  have hbuffer := h.le_buffer
  rw [List.length_take] at hlength
  omega

theorem Sending.byteAt_mosiIndex (h : s.Sending) (hlt : s.mosiIndex < s.dataLength) :
    byteAt s.buffer s.mosiIndex = byteAt s.transfer.mosi s.mosiIndex :=
  (h.unsent s.mosiIndex le_rfl).resolve_right (not_le.mpr hlt)

/-- **A byte is sent from the buffer**: it is the next one of the call. -/
theorem Sending.writeIn (h : s.Sending) (hlt : s.mosiIndex < s.dataLength) : s.writeIn.Sending := by
  have hput : s.mosiIndex < s.transfer.mosi.length := h.dataLength ▸ hlt
  have hpushed := h.transferring.pushTx hput
  rw [← h.byteAt_mosiIndex hlt] at hpushed
  exact ⟨h.dataLength, h.misoIndex_le.trans (Nat.le_succ _), hlt, h.le_buffer,
    hpushed, fun i hi => h.unsent i (Nat.le_of_succ_le hi)⟩

/-- **A received byte goes into the buffer**, in front of those that are still to be sent. -/
theorem Sending.readOutr (h : s.Sending) (hrx : 0 < s.rxFifo.length) : s.readOutr.Sending := by
  obtain ⟨x, rest, hrest⟩ := List.exists_cons_of_length_pos hrx
  have hlt : s.misoIndex < s.mosiIndex := by
    have hle := h.misoIndex_add_le
    omega
  have hbuffer : s.misoIndex < s.buffer.length :=
    hlt.trans_le (h.mosiIndex_le.trans h.le_buffer)
  have hgot : (s.buffer.set s.misoIndex x).take (s.misoIndex + 1) =
      s.buffer.take s.misoIndex ++ [x] := by
    rw [List.take_add_one, List.getElem?_set_self hbuffer, List.take_set_of_le le_rfl]
    rfl
  refine ⟨h.dataLength, hlt, h.mosiIndex_le, ?_, ?_, fun i hi => ?_⟩
  · show s.dataLength ≤ (s.buffer.set _ _).length
    rw [List.length_set]
    exact h.le_buffer
  · show s.readOutr.Transferring s.mosiIndex
      ((s.buffer.set s.misoIndex (s.rxFifo.headD 0)).take (s.misoIndex + 1))
    rw [hrest]
    show s.readOutr.Transferring s.mosiIndex ((s.buffer.set s.misoIndex x).take (s.misoIndex + 1))
    rw [hgot]
    obtain ⟨hsent, hreceived⟩ := h.transferring.take hrest
    refine ⟨hsent, ?_⟩
    show LossyPipe _ s.rxFifo.tail _
    rwa [hrest]
  · show byteAt (s.buffer.set s.misoIndex _) i = _ ∨ _
    have hne : s.misoIndex ≠ i := (hlt.trans_le hi).ne
    rw [byteAt, List.getD_eq_getElem?_getD, List.getElem?_set_ne hne, ← List.getD_eq_getElem?_getD]
    exact h.unsent i hi

/-- **An attempt goes on** beside the task. -/
theorem Interrupt.attempt (hi : s.Interrupt s') (h : s.Attempt) :
    s'.Attempt ∧ s.misoIndex ≤ s'.misoIndex := by
  cases hi with
  | requestTx | requestRx => exact ⟨h.frame, le_rfl⟩
  | mosiEnter hrequest =>
    refine ⟨⟨h.toSending.frame, fun handler hhandler => ?_, h.misoHandler⟩, le_rfl⟩
    rw [← Option.some.inj hhandler]
    exact le_rfl
  | mosiWait handler handler' hhandler hle =>
    refine ⟨⟨h.toSending.frame, fun other hother => ?_, h.misoHandler⟩, le_rfl⟩
    rw [← Option.some.inj hother]
    exact hle.trans (h.mosiHandler handler hhandler)
  | mosiWrite amount hhandler =>
    have hamount : amount + 1 ≤ s.dataLength - s.mosiIndex := h.mosiHandler _ hhandler
    have hsending := h.toSending.writeIn (by omega)
    refine ⟨⟨hsending.frame, fun other hother => ?_, h.misoHandler⟩, le_rfl⟩
    rw [← Option.some.inj hother]
    show amount ≤ s.dataLength - (s.mosiIndex + 1)
    omega
  | mosiLeave txEvent handler hhandler =>
    exact ⟨⟨h.toSending.frame, nofun, h.misoHandler⟩, le_rfl⟩
  | misoEnter hrequest =>
    refine ⟨⟨h.toSending.frame, h.mosiHandler, fun other hother => ?_⟩, le_rfl⟩
    rw [← Option.some.inj hother]
  | misoRead amount hhandler =>
    have hamount : amount + 1 ≤ s.rxFifo.length := h.misoHandler _ hhandler
    have hsending := h.toSending.readOutr (by omega)
    refine ⟨⟨hsending.frame, h.mosiHandler, fun other hother => ?_⟩,
      Nat.le_succ _⟩
    rw [← Option.some.inj hother]
    show amount ≤ s.rxFifo.tail.length
    rw [List.length_tail]
    omega
  | misoLeave amount hhandler =>
    exact ⟨⟨h.toSending.frame, h.mosiHandler, nofun⟩, le_rfl⟩
  | load x rest htx =>
    exact ⟨⟨⟨h.dataLength, h.misoIndex_le, h.mosiIndex_le, h.le_buffer, h.transferring.load htx,
      h.unsent⟩, h.mosiHandler, h.misoHandler⟩, le_rfl⟩
  | shift x miso rest hshifter =>
    exact ⟨⟨⟨h.dataLength, h.misoIndex_le, h.mosiIndex_le, h.le_buffer,
      h.transferring.shift hshifter, h.unsent⟩, h.mosiHandler,
      fun amount hamount => (h.misoHandler amount hamount).trans length_le_fifoPush⟩, le_rfl⟩

end SdmmcSpi

end Bricklib2
