/-
Bricklib2/Warp/Wem/SdmmcSpiInPlace.lean

One call of `sdmmc_spi_transceive_async`, which receives into the buffer it still sends from.
The statements are those of `Warp/Wem/SdmmcSpi`; here the caller may want both directions, and
a call may time out at any point.

Nothing that is received overtakes what is sent.  A byte is lost on its way out if it finds
the transmit FIFO full.  The handler asks for the levels of both FIFOs before it writes, but
`MIN` reads the lower one a second time: what `sdmmc_miso_irq_handler` takes out in between
is taken for room in the transmit FIFO.

Main results: `sdmmcSpiTransceiveAsync_inPlace` where each byte finds room, and
`hasRoom_of_undisturbed`, which says that this is so if the handlers do not interrupt each
other.
-/
import Bricklib2.Warp.Wem.SdmmcSpiOnce

namespace Bricklib2

open Machine

/-! ### Calls -/

/-- The arguments of `sdmmc_spi_transceive_async`.  Without `dataMosi` or `dataMiso` the pointer
is `NULL`. -/
structure SdmmcTransceive where
  dataMosi : Option (List UInt8)
  dataMiso : Bool
  length : ℕ
  length_le : length ≤ sdmmcSpiBufferSize
  length_le_mosi : ∀ data, dataMosi = some data → length ≤ data.length

namespace SdmmcTransceive

/-- What `memcpy` or `memset` puts into the buffer. -/
def transfer (c : SdmmcTransceive) : SdmmcTransfer :=
  match c.dataMosi with
  | some data => .write (data.take c.length)
  | none => .read c.length

/-- The bytes to send. -/
def mosi (c : SdmmcTransceive) : List UInt8 :=
  match c.dataMosi with
  | some data => data.take c.length
  | none => List.replicate c.length 0xFF

theorem mosi_transfer (c : SdmmcTransceive) : c.transfer.mosi = c.mosi := by
  unfold transfer mosi
  cases c.dataMosi <;> rfl

theorem length_mosi (c : SdmmcTransceive) : c.mosi.length = c.length := by
  unfold mosi
  cases hdata : c.dataMosi with
  | none => exact List.length_replicate
  | some data => exact List.length_take_of_le (c.length_le_mosi data hdata)

end SdmmcTransceive

/-- The driver with a call of it: what was copied to `data_miso`, and what was returned. -/
structure SdmmcAsync where
  spi : SdmmcSpi := {}
  call : SdmmcTransceive := ⟨none, false, 0, Nat.zero_le _, fun _ h => by cases h⟩
  dataMiso : Option (List UInt8) := none
  ret : Option Bool := none

/-- What happens to a call. -/
inductive SdmmcAsyncEvent
  | call (c : SdmmcTransceive)
  | spi (e : SdmmcSpiEvent)

namespace SdmmcAsync

/-- One statement of `sdmmc_spi_transceive_async`. -/
def exec (now : ℕ) (s : SdmmcAsync) : Option SdmmcAsync :=
  match s.spi.pc with
  | .copy returns =>
    some
      { s with
        spi := { s.spi with pc := .reset returns }
        dataMiso := if s.call.dataMiso then some (s.spi.buffer.take s.call.length) else none }
  | .reset returns =>
    some
      { s with
        spi := { s.spi with misoIndex := 0, mosiIndex := 0, dataLength := 0, pc := .returned }
        ret := some returns }
  | pc => (s.spi.exec now pc).map fun spi => { s with spi := spi }

/-- One event.  What an earlier call has left on its way is still there. -/
def step (s : SdmmcAsync) : SdmmcAsyncEvent → Option SdmmcAsync
  | .call c =>
    if s.spi.pc = .idle ∨ s.spi.pc = .returned then
      some { spi := { s.spi with pc := .prepare, transfer := c.transfer, wire := [] }, call := c }
    else none
  | .spi (.exec now) => if s.spi.taskRuns then s.exec now else none
  | .spi e => (s.spi.interruptStep e).map fun spi => { s with spi := spi }

end SdmmcAsync

/-! ### Between the calls -/

namespace SdmmcSpi

variable {s s' : SdmmcSpi}

/-- Which interrupts are off, and where the indices begin. -/
def OffAt (s : SdmmcSpi) : SdmmcSpiPc → Prop
  | .idle | .returned | .prepare =>
    s.TxOff ∧ s.RxOff ∧ s.misoIndex = 0 ∧ s.mosiIndex = 0 ∧ s.dataLength = 0
  | .rxLevel | .readRx _ => s.RxOff
  | .leaveRx _ => s.TxOff
  | .copy _ | .reset _ => s.TxOff ∧ s.RxOff
  | .enableRx | .enableTx | .trigger | .test | .yield | .pollRx | .disableRx | .pollTx
  | .triggerAgain | .timeout | .leaveTx _ => True
  -- not in this function
  | .flushRx | .flushTx | .send _ | .receiveTest _ | .receive _ | .finish => False

theorem Interrupt.offAt (hi : s.Interrupt s') (h : s.OffAt s.pc) : s'.OffAt s'.pc := by
  obtain ⟨hpc, -, -, hdataLength⟩ := hi.frame
  rw [hpc]
  cases hp : s.pc with
  | idle | returned | prepare =>
    rw [hp] at h
    obtain ⟨htx, hrx, hmiso, hmosi, hlength⟩ := h
    obtain ⟨htx', hmosi'⟩ := hi.txOff htx
    obtain ⟨hrx', hmiso', -⟩ := hi.rxOff hrx
    exact ⟨htx', hrx', hmiso'.trans hmiso, hmosi'.trans hmosi, hdataLength.trans hlength⟩
  | rxLevel | readRx amount =>
    rw [hp] at h
    exact (hi.rxOff h).1
  | leaveRx returns =>
    rw [hp] at h
    exact (hi.txOff h).1
  | copy returns | reset returns =>
    rw [hp] at h
    exact ⟨(hi.txOff h.1).1, (hi.rxOff h.2).1⟩
  | flushRx | flushTx | send mosiCount | receiveTest misoCount | receive misoCount | finish =>
    rw [hp] at h
    exact h.elim
  | _ => trivial

/-- The statements that are in front of the last two. -/
theorem exec_offAt {now : ℕ} (h : s.OffAt s.pc) (hruns : s.taskRuns = true)
    (hlast : ∀ returns, s.pc ≠ .copy returns ∧ s.pc ≠ .reset returns)
    (hs : s.exec now s.pc = some s') : s'.OffAt s'.pc := by
  simp only [taskRuns, Bool.and_eq_true, Bool.not_eq_true', Option.isNone_iff_eq_none] at hruns
  obtain ⟨⟨⟨htxRequest, hrxRequest⟩, hmosi⟩, hmiso⟩ := hruns
  cases hp : s.pc with
  | idle | returned =>
    rw [hp] at hs
    cases hs
  | flushRx | flushTx | send mosiCount | receiveTest misoCount | receive misoCount | finish =>
    rw [hp] at h
    exact h.elim
  | copy returns => exact absurd hp (hlast returns).1
  | reset returns => exact absurd hp (hlast returns).2
  | test | pollRx | pollTx | timeout =>
    rw [hp] at hs
    obtain rfl := Option.some.inj hs
    dsimp only
    split_ifs <;> trivial
  | disableRx =>
    rw [hp] at hs
    obtain rfl := Option.some.inj hs
    exact ⟨rfl, hrxRequest, hmiso⟩
  | rxLevel =>
    rw [hp] at hs h
    obtain rfl := Option.some.inj hs
    exact h
  | readRx amount =>
    rw [hp] at hs h
    cases amount with
    | zero =>
      obtain rfl := Option.some.inj hs
      trivial
    | succ amount =>
      obtain rfl := Option.some.inj hs
      exact h
  | leaveTx returns =>
    rw [hp] at hs
    obtain rfl := Option.some.inj hs
    exact ⟨rfl, htxRequest, hmosi⟩
  | leaveRx returns =>
    rw [hp] at hs h
    obtain rfl := Option.some.inj hs
    exact ⟨h, rfl, hrxRequest, hmiso⟩
  | _ =>
    rw [hp] at hs
    obtain rfl := Option.some.inj hs
    trivial

/-! ### What is sent -/

/-- The bytes that were given to the transmit FIFO are those on the wire and those on their way. -/
def InOrder (s : SdmmcSpi) (put : ℕ) : Prop :=
  s.wire.map Prod.fst ++ (s.shifter ++ s.txFifo) = s.transfer.mosi.take put

/-- The next statement of the handler writes to `IN`. -/
def writesNext (s : SdmmcSpi) : Bool :=
  match s.mosiHandler with
  | some (.push (_ + 1)) => true
  | _ => false

theorem writesNext_of_handler {amount : ℕ} (h : s.mosiHandler = some (.push (amount + 1))) :
    s.writesNext = true := by
  rw [writesNext, h]

namespace InOrder

variable {put : ℕ}

theorem load {x : UInt8} {rest : List UInt8} (h : s.InOrder put) (htx : s.txFifo = x :: rest) :
    InOrder { s with txFifo := rest, shifter := s.shifter ++ [x] } put := by
  rw [InOrder, htx, List.append_cons] at h
  exact h

theorem shift {x miso : UInt8} {rest rxFifo : List UInt8} (h : s.InOrder put)
    (hshifter : s.shifter = x :: rest) :
    InOrder
      { s with shifter := rest, rxFifo := rxFifo, wire := s.wire ++ [(x, miso)] } put := by
  rw [InOrder, hshifter, List.cons_append, List.append_cons] at h
  show (s.wire ++ [(x, miso)]).map Prod.fst ++ (rest ++ s.txFifo) = _
  rw [List.map_append]
  exact h

/-- **A byte that finds room** is the next one. -/
theorem pushTx (h : s.InOrder put) (hput : put < s.transfer.mosi.length)
    (hroom : s.txFifo.length < sdmmcFifoSize) :
    (s.pushTx (byteAt s.transfer.mosi put)).InOrder (put + 1) := by
  show s.wire.map Prod.fst ++ (s.shifter ++ fifoPush sdmmcFifoSize s.txFifo _) =
    s.transfer.mosi.take (put + 1)
  rw [take_succ_byteAt hput, ← h, fifoPush, if_pos hroom, List.append_assoc, List.append_assoc]

theorem prefix_mosi (h : s.InOrder put) : s.wire.map Prod.fst <+: s.transfer.mosi :=
  (List.prefix_append _ _).trans (h ▸ List.take_prefix put _)

end InOrder

/-- Only a statement of its handler moves the index. -/
theorem eq_mosi_of_moved {e : SdmmcSpiEvent} (hs : s.interruptStep e = some s')
    (hmoved : s'.mosiIndex ≠ s.mosiIndex) : e = .mosi := by
  cases e with
  | mosi => rfl
  | call transfer => cases hs
  | exec now => cases hs
  | requestTx | requestRx =>
    dsimp only [interruptStep] at hs
    split_ifs at hs
    obtain rfl := Option.some.inj hs
    exact absurd rfl hmoved
  | miso =>
    dsimp only [interruptStep] at hs
    split at hs
    · obtain rfl := Option.some.inj hs
      exact absurd rfl hmoved
    · obtain rfl := Option.some.inj hs
      exact absurd rfl hmoved
    · split_ifs at hs
      obtain rfl := Option.some.inj hs
      exact absurd rfl hmoved
  | load =>
    dsimp only [interruptStep] at hs
    split at hs
    · cases hs
    · split_ifs at hs
      obtain rfl := Option.some.inj hs
      exact absurd rfl hmoved
  | shift miso =>
    dsimp only [interruptStep] at hs
    split at hs
    · cases hs
    · obtain rfl := Option.some.inj hs
      exact absurd rfl hmoved

/-- Where no handler sends, the bytes only move on. -/
theorem Interrupt.inOrder_off {put : ℕ} (hi : s.Interrupt s') (htx : s.TxOff)
    (h : s.InOrder put) : s'.InOrder put := by
  cases hi with
  | mosiWrite amount hhandler => exact absurd (htx.2.2.symm.trans hhandler) nofun
  | load x rest hfifo => exact h.load hfifo
  | shift x miso rest hshifter => exact h.shift hshifter
  | _ => exact h

/-- What the handler writes finds room. -/
def RoomFor (s s' : SdmmcSpi) : Prop :=
  s.writesNext = true → s'.mosiIndex ≠ s.mosiIndex → s.txFifo.length < sdmmcFifoSize

theorem Interrupt.inOrder (hi : s.Interrupt s') (hattempt : s.Attempt) (hroom : s.RoomFor s')
    (h : s.InOrder s.mosiIndex) : s'.InOrder s'.mosiIndex := by
  cases hi with
  | mosiWrite amount hhandler =>
    have hamount : amount + 1 ≤ s.dataLength - s.mosiIndex := hattempt.mosiHandler _ hhandler
    have hlt : s.mosiIndex < s.dataLength := by omega
    have hpushed := h.pushTx (hattempt.dataLength ▸ hlt)
      (hroom (writesNext_of_handler hhandler) (Nat.succ_ne_self _))
    rw [← hattempt.byteAt_mosiIndex hlt] at hpushed
    exact hpushed
  | load x rest hfifo => exact h.load hfifo
  | shift x miso rest hshifter => exact h.shift hshifter
  | _ => exact h

/-! ### A call from its beginning -/

/-- An attempt that has lost no byte on its way out. -/
structure Underway (s : SdmmcSpi) : Prop extends s.Attempt where
  inOrder : s.InOrder s.mosiIndex

theorem Underway.frame (h : s.Underway) {pc : SdmmcSpiPc} {data : List UInt8} {start : ℕ}
    {txEvent rxEvent txRequest rxRequest : Bool} :
    Underway
      { s with
        pc := pc, data := data, start := start, txEvent := txEvent, rxEvent := rxEvent
        txRequest := txRequest, rxRequest := rxRequest } :=
  ⟨h.toAttempt.frame, h.inOrder⟩

/-- A call that begins with nothing on its way. -/
def UnderwayAt (s : SdmmcSpi) : SdmmcSpiPc → Prop
  | .prepare => s.Drained ∧ s.wire = []
  | .readRx amount => s.Underway ∧ amount ≤ s.rxFifo.length
  | .leaveTx returns | .leaveRx returns | .copy returns | .reset returns =>
    s.Underway ∧ (returns = true → s.dataLength ≤ s.misoIndex)
  | .returned => ∃ put, s.InOrder put
  | _ => s.Underway

theorem Interrupt.underway (hi : s.Interrupt s') (hroom : s.RoomFor s') (h : s.Underway) :
    s'.Underway :=
  ⟨(hi.attempt h.toAttempt).1, hi.inOrder h.toAttempt hroom h.inOrder⟩

theorem Interrupt.underwayAt (hi : s.Interrupt s') (hroom : s.RoomFor s') (hoff : s.OffAt s.pc)
    (h : s.UnderwayAt s.pc) : s'.UnderwayAt s'.pc := by
  obtain ⟨hpc, -, -, hdataLength⟩ := hi.frame
  rw [hpc]
  cases hp : s.pc with
  | prepare =>
    rw [hp] at h hoff
    exact absurd h.1 (hi.not_drained hoff.1 hoff.2.1)
  | returned =>
    rw [hp] at h hoff
    obtain ⟨put, hput⟩ := h
    exact ⟨put, hi.inOrder_off hoff.1 hput⟩
  | readRx amount =>
    rw [hp] at h hoff
    exact ⟨hi.underway hroom h.1, h.2.trans (hi.rxOff hoff).2.2⟩
  | leaveTx returns | leaveRx returns | copy returns | reset returns =>
    rw [hp] at h
    refine ⟨hi.underway hroom h.1, fun hreturns => ?_⟩
    rw [hdataLength]
    exact (h.2 hreturns).trans (hi.attempt h.1.toAttempt).2
  | _ =>
    rw [hp] at h
    exact hi.underway hroom h

/-- **The statements in front of the last two.** -/
theorem exec_underwayAt {now : ℕ} (hfits : s.transfer.mosi.length ≤ s.buffer.length)
    (hoff : s.OffAt s.pc) (hlast : ∀ returns, s.pc ≠ .copy returns ∧ s.pc ≠ .reset returns)
    (h : s.UnderwayAt s.pc) (hs : s.exec now s.pc = some s') : s'.UnderwayAt s'.pc := by
  cases hp : s.pc with
  | idle | returned =>
    rw [hp] at hs
    cases hs
  | flushRx | flushTx | send mosiCount | receiveTest misoCount | receive misoCount | finish =>
    rw [hp] at hoff
    exact hoff.elim
  | copy returns => exact absurd hp (hlast returns).1
  | reset returns => exact absurd hp (hlast returns).2
  | prepare =>
    rw [hp] at hs h hoff
    obtain ⟨hdrained, hwire⟩ := h
    have hattempt :=
      prepare_inv hfits ⟨hoff.1, hoff.2.1, hdrained.transferring hwire⟩ hs
    obtain rfl := Option.some.inj hs
    refine ⟨hattempt, ?_⟩
    show s.wire.map Prod.fst ++ (s.shifter ++ s.txFifo) = _
    rw [hwire, hdrained.1, hdrained.2.1]
    rfl
  | test =>
    rw [hp] at hs h
    obtain rfl := Option.some.inj hs
    dsimp only
    split_ifs with hmore
    · exact h.frame
    · exact ⟨h.frame, fun _ => not_lt.mp fun hlt => hmore (Or.inl hlt)⟩
  | pollRx | pollTx =>
    rw [hp] at hs h
    obtain rfl := Option.some.inj hs
    dsimp only
    split_ifs
    · exact h.frame
    · exact h.frame
  | rxLevel =>
    rw [hp] at hs h
    obtain rfl := Option.some.inj hs
    exact ⟨h.frame, le_rfl⟩
  | readRx amount =>
    rw [hp] at hs h hoff
    obtain ⟨hunderway, hamount⟩ := h
    have hread := readRx_inv ⟨hunderway.toAttempt, hoff, hamount⟩ hs
    cases amount with
    | zero =>
      obtain rfl := Option.some.inj hs
      exact ⟨hread, hunderway.inOrder⟩
    | succ amount =>
      obtain rfl := Option.some.inj hs
      exact ⟨⟨hread.1, hunderway.inOrder⟩, hread.2.2⟩
  | timeout =>
    rw [hp] at hs h
    obtain rfl := Option.some.inj hs
    dsimp only
    split_ifs
    · exact ⟨h.frame, nofun⟩
    · exact h.frame
  | leaveTx returns | leaveRx returns =>
    rw [hp] at hs h
    obtain rfl := Option.some.inj hs
    exact ⟨h.1.frame, h.2⟩
  | enableRx | enableTx | trigger | yield | disableRx | triggerAgain =>
    rw [hp] at hs h
    obtain rfl := Option.some.inj hs
    exact h.frame

/-- Only `memcpy` stands in front of the last statement. -/
theorem exec_pc_ne_reset {now : ℕ} (hlast : ∀ returns, s.pc ≠ .copy returns ∧ s.pc ≠ .reset returns)
    (hs : s.exec now s.pc = some s') (returns : Bool) : s'.pc ≠ .reset returns := by
  cases hp : s.pc with
  | copy returns' => exact absurd hp (hlast returns').1
  | reset returns' => exact absurd hp (hlast returns').2
  | idle | returned =>
    rw [hp] at hs
    cases hs
  | send mosiCount =>
    rw [hp] at hs
    dsimp only [exec] at hs
    split_ifs at hs <;> obtain rfl := Option.some.inj hs <;> exact SdmmcSpiPc.noConfusion
  | receive misoCount =>
    rw [hp] at hs
    dsimp only [exec] at hs
    split at hs <;> obtain rfl := Option.some.inj hs <;> exact SdmmcSpiPc.noConfusion
  | readRx amount =>
    rw [hp] at hs
    cases amount <;> obtain rfl := Option.some.inj hs <;> exact SdmmcSpiPc.noConfusion
  | flushTx | receiveTest misoCount | test | pollRx | pollTx | timeout =>
    rw [hp] at hs
    obtain rfl := Option.some.inj hs
    dsimp only
    split_ifs <;> exact SdmmcSpiPc.noConfusion
  | _ =>
    rw [hp] at hs
    obtain rfl := Option.some.inj hs
    exact SdmmcSpiPc.noConfusion

/-- **All is received**: nothing is on its way any more. -/
theorem Underway.complete (h : s.Underway) (hall : s.dataLength ≤ s.misoIndex) :
    s.Drained ∧ s.wire.map Prod.fst = s.transfer.mosi ∧
      s.buffer.take s.dataLength = s.wire.map Prod.snd := by
  have hmiso : s.misoIndex = s.dataLength :=
    le_antisymm (h.misoIndex_le.trans h.mosiIndex_le) hall
  have htransferring := h.transferring
  rw [hmiso] at htransferring
  exact htransferring.complete (by
    rw [List.length_take_of_le h.le_buffer, h.dataLength])

end SdmmcSpi

namespace SdmmcAsync

variable {s s' : SdmmcAsync} {now : ℕ}

/-! ### Every call -/

/-- What a statement can be. -/
theorem exec_cases (hs : s.exec now = some s') :
    (∃ returns, s.spi.pc = .copy returns ∧
      s' =
        { s with
          spi := { s.spi with pc := .reset returns }
          dataMiso := if s.call.dataMiso then some (s.spi.buffer.take s.call.length) else none }) ∨
    (∃ returns, s.spi.pc = .reset returns ∧
      s' =
        { s with
          spi := { s.spi with misoIndex := 0, mosiIndex := 0, dataLength := 0, pc := .returned }
          ret := some returns }) ∨
    ((∀ returns, s.spi.pc ≠ .copy returns ∧ s.spi.pc ≠ .reset returns) ∧
      ∃ spi, s.spi.exec now s.spi.pc = some spi ∧ s' = { s with spi := spi }) := by
  unfold exec at hs
  cases hp : s.spi.pc with
  | copy returns =>
    rw [hp] at hs
    exact Or.inl ⟨returns, rfl, (Option.some.inj hs).symm⟩
  | reset returns =>
    rw [hp] at hs
    exact Or.inr (Or.inl ⟨returns, rfl, (Option.some.inj hs).symm⟩)
  | _ =>
    rw [hp] at hs
    obtain ⟨spi, hspi, rfl⟩ := Option.map_eq_some_iff.mp hs
    exact Or.inr (Or.inr ⟨fun _ => ⟨by simp, by simp⟩, spi, hspi, rfl⟩)

/-- What an event can be. -/
theorem step_cases {e : SdmmcAsyncEvent} (hs : s.step e = some s') :
    (∃ c, e = .call c ∧ (s.spi.pc = .idle ∨ s.spi.pc = .returned) ∧
      s' = { spi := { s.spi with pc := .prepare, transfer := c.transfer, wire := [] }, call := c }) ∨
    (∃ now, e = .spi (.exec now) ∧ s.spi.taskRuns = true ∧ s.exec now = some s') ∨
    ∃ e' spi, e = .spi e' ∧ s.spi.interruptStep e' = some spi ∧ s' = { s with spi := spi } := by
  cases e with
  | call c =>
    dsimp only [step] at hs
    split_ifs at hs with hpc
    exact Or.inl ⟨c, rfl, hpc, (Option.some.inj hs).symm⟩
  | spi e =>
    cases e with
    | exec now =>
      dsimp only [step] at hs
      split_ifs at hs with hruns
      exact Or.inr (Or.inl ⟨now, rfl, hruns, hs⟩)
    | call transfer => cases hs
    | requestTx | requestRx | mosi | miso | load | shift miso =>
      obtain ⟨spi, hspi, rfl⟩ := Option.map_eq_some_iff.mp hs
      exact Or.inr (Or.inr ⟨_, spi, rfl, hspi, rfl⟩)

theorem call_of_step {e : SdmmcSpiEvent} (hs : s.step (.spi e) = some s') : s'.call = s.call := by
  rcases step_cases hs with ⟨c, he, -⟩ | ⟨now, -, -, hexec⟩ | ⟨e', spi, -, -, rfl⟩
  · cases he
  · rcases exec_cases hexec with ⟨returns, -, rfl⟩ | ⟨returns, -, rfl⟩ | ⟨-, spi, -, rfl⟩ <;> rfl
  · rfl

/-- What holds in every call, also in one that begins with bytes of an earlier one on their
way. -/
structure Inv (s : SdmmcAsync) : Prop where
  transfer : s.spi.transfer = s.call.transfer
  buffer_length : s.spi.buffer.length = sdmmcSpiBufferSize
  offAt : s.spi.OffAt s.spi.pc
  ret : s.ret = none ∨ s.spi.pc = .returned

theorem Inv.fits (h : s.Inv) : s.spi.transfer.mosi.length ≤ s.spi.buffer.length := by
  rw [h.transfer, s.call.mosi_transfer, s.call.length_mosi, h.buffer_length]
  exact s.call.length_le

theorem inv_init : Inv {} :=
  ⟨rfl, List.length_replicate, ⟨⟨rfl, rfl, rfl⟩, ⟨rfl, rfl, rfl⟩, rfl, rfl, rfl⟩, Or.inl rfl⟩

theorem step_inv (s : SdmmcAsync) (e : SdmmcAsyncEvent) (s' : SdmmcAsync) (h : s.Inv)
    (hs : s.step e = some s') : s'.Inv := by
  rcases step_cases hs with ⟨c, -, hpc, rfl⟩ | ⟨now, -, hruns, hexec⟩ | ⟨e', spi, -, hspi, rfl⟩
  · have hoff := h.offAt
    refine ⟨rfl, h.buffer_length, ?_, Or.inl rfl⟩
    rcases hpc with hidle | hreturned
    · rw [hidle] at hoff
      exact hoff
    · rw [hreturned] at hoff
      exact hoff
  · have hoff := h.offAt
    rcases exec_cases hexec with ⟨returns, hp, rfl⟩ | ⟨returns, hp, rfl⟩ | ⟨hlast, spi, hspi, rfl⟩
    · rw [hp] at hoff
      refine ⟨h.transfer, h.buffer_length, hoff, Or.inl (h.ret.resolve_right ?_)⟩
      rw [hp]
      exact SdmmcSpiPc.noConfusion
    · rw [hp] at hoff
      exact ⟨h.transfer, h.buffer_length, ⟨hoff.1, hoff.2, rfl, rfl, rfl⟩, Or.inr rfl⟩
    · obtain ⟨htransfer, hbuffer⟩ := SdmmcSpi.exec_bounds h.fits hspi
      refine ⟨htransfer.trans h.transfer, hbuffer.trans h.buffer_length,
        SdmmcSpi.exec_offAt hoff hruns hlast hspi, Or.inl (h.ret.resolve_right fun hp => ?_)⟩
      rw [hp] at hspi
      cases hspi
  · have hi := SdmmcSpi.interrupt_of_step hspi
    obtain ⟨hpc, htransfer, -, -⟩ := hi.frame
    refine ⟨htransfer.trans h.transfer, hi.buffer_length.trans h.buffer_length,
      hi.offAt h.offAt, h.ret.imp_right fun hp => ?_⟩
    rw [← hp]
    exact hpc

/-! ### A call that begins with nothing on its way -/

/-- The call got everything it asked for. -/
structure Received (s : SdmmcAsync) : Prop where
  drained : s.spi.Drained
  sent : s.spi.wire.map Prod.fst = s.call.mosi
  copied : s.call.dataMiso = true → s.dataMiso = some (s.spi.wire.map Prod.snd)

/-- A call has its transfer under way or is at its end. -/
structure CallInv (s : SdmmcAsync) : Prop extends s.Inv where
  underway : s.spi.UnderwayAt s.spi.pc
  copied : ∀ returns, s.spi.pc = .reset returns → s.call.dataMiso = true →
    s.dataMiso = some (s.spi.buffer.take s.spi.dataLength)
  received : s.ret = some true → s.Received

/-- In front of each write of the handler to `IN`, the transmit FIFO has room. -/
def HasRoom (s : SdmmcAsync) : SdmmcAsyncEvent → Prop
  | .spi .mosi => s.spi.writesNext = true → s.spi.txFifo.length < sdmmcFifoSize
  | _ => True

theorem HasRoom.roomFor {e : SdmmcSpiEvent} {spi : SdmmcSpi} (h : s.HasRoom (.spi e))
    (hspi : s.spi.interruptStep e = some spi) : s.spi.RoomFor spi := by
  intro hwrites hmoved
  obtain rfl := SdmmcSpi.eq_mosi_of_moved hspi hmoved
  exact h hwrites

/-- **An interrupt** in a call. -/
theorem interrupt_callInv {e : SdmmcSpiEvent} {spi : SdmmcSpi} (h : s.CallInv)
    (hinv : Inv { s with spi := spi }) (hroom : s.HasRoom (.spi e))
    (hspi : s.spi.interruptStep e = some spi) : CallInv { s with spi := spi } := by
  have hi := SdmmcSpi.interrupt_of_step hspi
  have hoff := h.offAt
  obtain ⟨hpc, -, -, hdataLength⟩ := hi.frame
  refine ⟨hinv, hi.underwayAt (hroom.roomFor hspi) hoff h.underway, fun returns hp hmiso => ?_,
    fun hret => ?_⟩
  · have hp' : s.spi.pc = .reset returns := hpc.symm.trans hp
    rw [hp'] at hoff
    rw [hi.buffer_eq hoff.2, hdataLength]
    exact h.copied returns hp' hmiso
  · -- what is received stays as it is, as nothing more is on its way
    have hp : s.spi.pc = .returned := h.ret.resolve_left fun hnone => by
      cases hnone.symm.trans hret
    rw [hp] at hoff
    exact absurd (h.received hret).drained (hi.not_drained hoff.1 hoff.2.1)

/-- **A statement** of a call. -/
theorem exec_callInv (h : s.CallInv) (hinv : s'.Inv) (hs : s.exec now = some s') : s'.CallInv := by
  have hunderway := h.underway
  rcases exec_cases hs with ⟨returns, hp, rfl⟩ | ⟨returns, hp, rfl⟩ | ⟨hlast, spi, hspi, rfl⟩
  · rw [hp] at hunderway
    refine ⟨hinv, ⟨hunderway.1.frame, hunderway.2⟩, fun _ _ hmiso => ?_, fun hret => ?_⟩
    · have hlength : s.call.length = s.spi.dataLength := by
        rw [hunderway.1.dataLength, h.transfer, s.call.mosi_transfer, s.call.length_mosi]
      show (if s.call.dataMiso then some (s.spi.buffer.take s.call.length) else none) = _
      rw [if_pos hmiso, hlength]
    · cases (hinv.ret.resolve_right SdmmcSpiPc.noConfusion).symm.trans hret
  · rw [hp] at hunderway
    refine ⟨hinv, ⟨_, hunderway.1.inOrder⟩, fun _ hreset => SdmmcSpiPc.noConfusion hreset,
      fun hret => ?_⟩
    obtain rfl := Option.some.inj hret
    obtain ⟨hdrained, hsent, hgot⟩ := hunderway.1.complete (hunderway.2 rfl)
    refine ⟨hdrained, ?_, fun hmiso => ?_⟩
    · show s.spi.wire.map Prod.fst = s.call.mosi
      rw [hsent, h.transfer, s.call.mosi_transfer]
    · show s.dataMiso = some (s.spi.wire.map Prod.snd)
      rw [h.copied true hp hmiso, hgot]
  · refine ⟨hinv, SdmmcSpi.exec_underwayAt h.fits h.offAt hlast hunderway hspi,
      fun returns hp hmiso => ?_, fun hret => ?_⟩
    · -- only `memcpy` stands in front of the last statement
      exact absurd hp (SdmmcSpi.exec_pc_ne_reset hlast hspi returns)
    · cases h.ret with
      | inl hnone => cases hnone.symm.trans hret
      | inr hp =>
        rw [hp] at hspi
        cases hspi

/-- **One event** in a call. -/
theorem step_callInv (s : SdmmcAsync) (e : SdmmcSpiEvent) (s' : SdmmcAsync) (h : s.CallInv)
    (hroom : s.HasRoom (.spi e)) (hs : s.step (.spi e) = some s') : s'.CallInv := by
  have hinv := step_inv s _ s' h.toInv hs
  rcases step_cases hs with ⟨c, he, -⟩ | ⟨now, -, -, hexec⟩ | ⟨e', spi, he, hspi, rfl⟩
  · cases he
  · exact exec_callInv h hinv hexec
  · obtain rfl := SdmmcAsyncEvent.spi.inj he
    exact interrupt_callInv h hinv hroom hspi

theorem callInv_of_call {c : SdmmcTransceive} (h : s.Inv) (hdrained : s.spi.Drained)
    (hs : s.step (.call c) = some s') : s'.CallInv ∧ s'.call = c := by
  have hinv := step_inv s _ s' h hs
  rcases step_cases hs with ⟨c', he, -, rfl⟩ | ⟨now, he, -⟩ | ⟨e', spi, he, -⟩
  · obtain rfl := SdmmcAsyncEvent.call.inj he
    exact ⟨⟨hinv, ⟨hdrained, rfl⟩, fun _ hp => SdmmcSpiPc.noConfusion hp, fun hret => by cases hret⟩,
      rfl⟩
  · cases he
  · cases he

/-- The buffer of a call and both directions of the wire. -/
structure InPlace (s : SdmmcAsync) (c : SdmmcTransceive) : Prop where
  misoIndex_le : s.spi.misoIndex ≤ s.spi.mosiIndex
  mosiIndex_le : s.spi.mosiIndex ≤ s.spi.dataLength
  /-- No received byte goes over one that is still to be sent. -/
  unsent : ∀ i, s.spi.mosiIndex ≤ i → i < s.spi.dataLength →
    byteAt s.spi.buffer i = byteAt c.mosi i
  sent : s.spi.wire.map Prod.fst <+: c.mosi
  received : s.ret = some true → s.spi.wire.map Prod.fst = c.mosi ∧
    (c.dataMiso = true → s.dataMiso = some (s.spi.wire.map Prod.snd))

theorem CallInv.underway_or (h : s.CallInv) : s.spi.Underway ∨
    s.spi.misoIndex = 0 ∧ s.spi.mosiIndex = 0 ∧ s.spi.dataLength = 0 ∧
      s.spi.wire.map Prod.fst <+: s.spi.transfer.mosi := by
  have hunderway := h.underway
  have hoff := h.offAt
  cases hp : s.spi.pc with
  | prepare =>
    rw [hp] at hunderway hoff
    obtain ⟨-, -, hmiso, hmosi, hlength⟩ := hoff
    rw [hunderway.2]
    exact Or.inr ⟨hmiso, hmosi, hlength, List.nil_prefix⟩
  | returned =>
    rw [hp] at hunderway hoff
    obtain ⟨-, -, hmiso, hmosi, hlength⟩ := hoff
    obtain ⟨put, hput⟩ := hunderway
    exact Or.inr ⟨hmiso, hmosi, hlength, hput.prefix_mosi⟩
  | readRx amount | leaveTx returns | leaveRx returns | copy returns | reset returns =>
    rw [hp] at hunderway
    exact Or.inl hunderway.1
  | _ =>
    rw [hp] at hunderway
    exact Or.inl hunderway

theorem CallInv.inPlace (h : s.CallInv) : s.InPlace s.call := by
  have hmosi : s.spi.transfer.mosi = s.call.mosi := by rw [h.transfer, s.call.mosi_transfer]
  have hreceived (hret : s.ret = some true) :=
    And.intro (h.received hret).sent (h.received hret).copied
  rcases h.underway_or with hunderway | ⟨hmisoIndex, hmosiIndex, hlength, hsent⟩
  · refine ⟨hunderway.misoIndex_le, hunderway.mosiIndex_le, fun i hi hlt => ?_, ?_, hreceived⟩
    · rw [← hmosi]
      exact (hunderway.unsent i hi).resolve_right (not_le.mpr hlt)
    · rw [← hmosi]
      exact hunderway.inOrder.prefix_mosi
  · rw [hmosi] at hsent
    refine ⟨by omega, by omega, fun i _ hlt => ?_, hsent, hreceived⟩
    rw [hlength] at hlt
    exact absurd hlt (Nat.not_lt_zero i)

end SdmmcAsync

open SdmmcAsync in
/-- **In place.**  In every run from a call with nothing on its way in which the transmit FIFO has
room for each byte, the indices do not overtake each other, no byte is overwritten before it is
sent, the bytes of the call go over the wire in order, and if it returns `true` they have all
gone and `data_miso` holds what came back for them.  The receive FIFO may overflow. -/
theorem sdmmcSpiTransceiveAsync_inPlace (before : List SdmmcAsyncEvent) (c : SdmmcTransceive)
    (es : List SdmmcSpiEvent) (s₀ s : SdmmcAsync)
    (hbefore : run SdmmcAsync.step {} before = some s₀) (hdrained : s₀.spi.Drained)
    (hroom : Meets SdmmcAsync.step HasRoom s₀ (.call c :: es.map .spi))
    (hr : run SdmmcAsync.step s₀ (.call c :: es.map .spi) = some s) : s.InPlace c := by
  obtain ⟨s₁, hcall, hr⟩ := run_cons_eq_some.mp hr
  have hinv : s₀.Inv := run_induct step_inv inv_init hbefore
  obtain ⟨hcallInv, hc⟩ := callInv_of_call hinv hdrained hcall
  have hspi : Meets SdmmcAsync.step (fun s e => s.HasRoom e ∧ ∃ e', e = .spi e') s₁
      (es.map .spi) := by
    refine (hroom.2 s₁ hcall).and (Meets.of_forall (fun e he => ?_) s₁)
    obtain ⟨e', -, rfl⟩ := List.mem_map.mp he
    exact ⟨e', rfl⟩
  have hlast : s.CallInv ∧ s.call = c := by
    refine run_induct_meets (P := fun s => s.CallInv ∧ s.call = c) ?_ ⟨hcallInv, hc⟩ hspi hr
    rintro u _ u' ⟨hu, hcu⟩ ⟨hroom, e, rfl⟩ hs
    exact ⟨step_callInv u e u' hu hroom hs, (call_of_step hs).trans hcu⟩
  obtain ⟨hlast, rfl⟩ := hlast
  exact hlast.inPlace

/-! ### Runs -/

namespace SdmmcAsync

/-- No byte comes back to a full receive FIFO. -/
def RxServed (s : SdmmcAsync) : SdmmcAsyncEvent → Prop
  | .spi (.shift _) => s.spi.rxFifo.length < sdmmcFifoSize
  | _ => True

instance (s : SdmmcAsync) : ∀ e, Decidable (s.HasRoom e)
  | .spi .mosi => inferInstanceAs (Decidable (_ = _ → _ < _))
  | .call _ | .spi (.call _) | .spi (.exec _) | .spi .requestTx | .spi .requestRx | .spi .miso
  | .spi .load | .spi (.shift _) => isTrue trivial

instance (s : SdmmcAsync) : ∀ e, Decidable (s.RxServed e)
  | .spi (.shift _) => inferInstanceAs (Decidable (_ < _))
  | .call _ | .spi (.call _) | .spi (.exec _) | .spi .requestTx | .spi .requestRx | .spi .mosi
  | .spi .miso | .spi .load => isTrue trivial

/-- A read of 40 bytes. -/
def readForty : SdmmcTransceive :=
  ⟨none, true, 40, by decide, fun _ h => by cases h⟩

/-- The numbers from 0 to 32. -/
def writeThirtyThree : SdmmcTransceive :=
  ⟨some ((List.range 33).map UInt8.ofNat), false, 33, by decide, fun _ h => by
    obtain rfl := Option.some.inj h
    rw [List.length_map, List.length_range]⟩

open SdmmcSpi in
/-- Forty bytes are sent, come back and are copied. -/
def fortyRead : List SdmmcSpiEvent := execs 4 0 ++ fortyTransferred ++ execs 5 1

open SdmmcSpi in
/-- The handler finds nine free places in the transmit FIFO and eight in the receive FIFO.  A
ninth byte comes back, all are taken out, and the handler sends sixteen bytes. -/
def overtaken : List SdmmcSpiEvent :=
  execs 4 0 ++ mosiHandled 16 ++ .load :: clocked (List.replicate 8 0xFF) ++
    [.requestTx, .mosi, .mosi, .shift 0xFF] ++ misoHandled 9 ++ List.replicate 18 .mosi ++
    clocked (List.replicate 8 0xFF) ++ .requestTx :: mosiHandled 1 ++ misoHandled 8 ++
    clocked (List.replicate 9 0xFF)

end SdmmcAsync

open SdmmcAsync in
/-- A read of 40 bytes. -/
theorem sdmmcSpiTransceiveAsync_forty :
    let s := after SdmmcAsync.step {} (.call readForty :: fortyRead.map .spi)
    s.ret = some true ∧ s.InPlace readForty := by
  intro s
  refine ⟨by decide +kernel, ?_⟩
  exact sdmmcSpiTransceiveAsync_inPlace [] readForty fortyRead {} s rfl ⟨rfl, rfl, rfl⟩
    (by decide +kernel) (run_eq_after (by decide +kernel))

open SdmmcAsync in
/-- Seven bytes are lost in the middle, although no handler is late. -/
theorem sdmmcSpiTransceiveAsync_overtaken :
    ¬ ∀ (before : List SdmmcAsyncEvent) (c : SdmmcTransceive) (es : List SdmmcSpiEvent)
      (s₀ s : SdmmcAsync), run SdmmcAsync.step {} before = some s₀ → s₀.spi.Drained →
      Meets SdmmcAsync.step RxServed s₀ (.call c :: es.map .spi) →
      run SdmmcAsync.step s₀ (.call c :: es.map .spi) = some s → s.InPlace c := by
  intro h
  have hsent := (h [] writeThirtyThree overtaken {} _ rfl ⟨rfl, rfl, rfl⟩ (by decide +kernel)
    (run_eq_after (by decide +kernel))).sent
  revert hsent
  decide +kernel

/-! ### Where there is room -/

namespace SdmmcSpi

variable {s s' : SdmmcSpi}

/-- The free places that a handler has counted are there. -/
def Fits (s : SdmmcSpi) : SdmmcMosiHandler → Prop
  | .rxLevel _ txFree => txFree ≤ sdmmcFifoSize - s.txFifo.length
  | .fifoLevel _ true => True
  | .fifoLevel _ false => sdmmcFifoSize - s.rxFifo.length ≤ sdmmcFifoSize - s.txFifo.length
  | .push amount => amount ≤ sdmmcFifoSize - s.txFifo.length

/-- The handler that is under way has counted right. -/
def HandlerFits (s : SdmmcSpi) : Prop := ∀ handler, s.mosiHandler = some handler → s.Fits handler

/-- The transmit FIFO becomes empty and the receive FIFO full. -/
theorem HandlerFits.mono (h : s.HandlerFits) (hhandler : s'.mosiHandler = s.mosiHandler)
    (htx : s'.txFifo.length ≤ s.txFifo.length) (hrx : s.rxFifo.length ≤ s'.rxFifo.length) :
    s'.HandlerFits := by
  intro handler hsome
  have hfits := h handler (hhandler.symm.trans hsome)
  cases handler with
  | rxLevel toSend txFree =>
    exact le_trans hfits (Nat.sub_le_sub_left htx _)
  | fifoLevel toSend tx =>
    cases tx with
    | true => trivial
    | false =>
      exact (Nat.sub_le_sub_left hrx _).trans (le_trans hfits (Nat.sub_le_sub_left htx _))
  | push amount => exact le_trans hfits (Nat.sub_le_sub_left htx _)

theorem handlerFits_of_none (h : s.mosiHandler = none) : s.HandlerFits :=
  fun _ hsome => by cases h.symm.trans hsome

theorem handlerFits_of_some {handler : SdmmcMosiHandler} (hhandler : s.mosiHandler = some handler)
    (h : s.Fits handler) : s.HandlerFits := by
  intro other hother
  obtain rfl := Option.some.inj (hhandler.symm.trans hother)
  exact h

/-- **A statement of the handler** counts what is free, and uses it up. -/
theorem execMosi_handlerFits {handler : SdmmcMosiHandler} (h : s.Fits handler) :
    (s.execMosi handler).HandlerFits := by
  cases handler with
  | rxLevel toSend txFree =>
    refine handlerFits_of_some rfl ?_
    by_cases hlt : txFree < sdmmcFifoSize - s.rxFifo.length
    · rw [decide_eq_true hlt]
      trivial
    · rw [decide_eq_false hlt]
      exact (not_lt.mp hlt).trans h
  | fifoLevel toSend tx =>
    refine handlerFits_of_some rfl ?_
    cases tx with
    | true => exact min_le_right _ _
    | false => exact (min_le_right _ _).trans h
  | push amount =>
    cases amount with
    | zero => exact handlerFits_of_none rfl
    | succ amount =>
      refine handlerFits_of_some rfl ?_
      have hroom : amount + 1 ≤ sdmmcFifoSize - s.txFifo.length := h
      show amount ≤ sdmmcFifoSize - (fifoPush sdmmcFifoSize s.txFifo _).length
      rw [fifoPush, if_pos (by omega), List.length_append, List.length_singleton]
      omega

theorem interrupt_handlerFits {e : SdmmcSpiEvent} (h : s.HandlerFits)
    (hundisturbed : e = .miso → s.mosiHandler = none) (hs : s.interruptStep e = some s') :
    s'.HandlerFits := by
  cases e with
  | call transfer => cases hs
  | exec now => cases hs
  | requestTx | requestRx =>
    dsimp only [interruptStep] at hs
    split_ifs at hs
    obtain rfl := Option.some.inj hs
    exact h
  | mosi =>
    dsimp only [interruptStep] at hs
    cases hhandler : s.mosiHandler with
    | some handler =>
      rw [hhandler] at hs
      obtain rfl := Option.some.inj hs
      exact execMosi_handlerFits (h handler hhandler)
    | none =>
      rw [hhandler] at hs
      dsimp only at hs
      split_ifs at hs
      obtain rfl := Option.some.inj hs
      exact handlerFits_of_some rfl le_rfl
  | miso =>
    have hnone := hundisturbed rfl
    dsimp only [interruptStep] at hs
    split at hs
    · obtain rfl := Option.some.inj hs
      exact handlerFits_of_none hnone
    · obtain rfl := Option.some.inj hs
      exact handlerFits_of_none hnone
    · split_ifs at hs
      obtain rfl := Option.some.inj hs
      exact handlerFits_of_none hnone
  | load =>
    dsimp only [interruptStep] at hs
    cases htx : s.txFifo with
    | nil =>
      rw [htx] at hs
      cases hs
    | cons x rest =>
      rw [htx] at hs
      dsimp only at hs
      split_ifs at hs
      obtain rfl := Option.some.inj hs
      refine h.mono rfl ?_ le_rfl
      rw [htx]
      exact Nat.le_succ _
  | shift miso =>
    dsimp only [interruptStep] at hs
    split at hs
    · cases hs
    · obtain rfl := Option.some.inj hs
      exact h.mono rfl le_rfl length_le_fifoPush

/-- The task leaves the handler alone. -/
theorem exec_mosiHandler {now : ℕ} {pc : SdmmcSpiPc} (hs : s.exec now pc = some s') :
    s'.mosiHandler = s.mosiHandler := by
  cases pc with
  | idle | returned => cases hs
  | send mosiCount =>
    dsimp only [exec] at hs
    split_ifs at hs <;> obtain rfl := Option.some.inj hs <;> rfl
  | receive misoCount =>
    dsimp only [exec] at hs
    split at hs <;> obtain rfl := Option.some.inj hs <;> rfl
  | readRx amount => cases amount <;> obtain rfl := Option.some.inj hs <;> rfl
  | _ =>
    obtain rfl := Option.some.inj hs
    rfl

theorem HandlerFits.room (h : s.HandlerFits) (hwrites : s.writesNext = true) :
    s.txFifo.length < sdmmcFifoSize := by
  unfold writesNext at hwrites
  split at hwrites
  · rename_i amount hhandler
    have hfits : amount + 1 ≤ sdmmcFifoSize - s.txFifo.length := h _ hhandler
    omega
  · cases hwrites

end SdmmcSpi

namespace SdmmcAsync

/-- `sdmmc_miso_irq_handler` waits for `sdmmc_mosi_irq_handler`, as where both interrupts have the
same priority. -/
def Undisturbed (s : SdmmcAsync) : SdmmcAsyncEvent → Prop
  | .spi .miso => s.spi.mosiHandler = none
  | _ => True

theorem step_handlerFits (s : SdmmcAsync) (e : SdmmcAsyncEvent) (s' : SdmmcAsync)
    (h : s.spi.HandlerFits) (hundisturbed : s.Undisturbed e) (hs : s.step e = some s') :
    s'.spi.HandlerFits := by
  rcases step_cases hs with ⟨c, -, -, rfl⟩ | ⟨now, -, hruns, hexec⟩ | ⟨e', spi, rfl, hspi, rfl⟩
  · exact h.mono rfl le_rfl le_rfl
  · simp only [SdmmcSpi.taskRuns, Bool.and_eq_true, Option.isNone_iff_eq_none] at hruns
    have hnone : s.spi.mosiHandler = none := hruns.1.2
    rcases exec_cases hexec with ⟨returns, -, rfl⟩ | ⟨returns, -, rfl⟩ | ⟨-, spi, hspi, rfl⟩
    · exact SdmmcSpi.handlerFits_of_none hnone
    · exact SdmmcSpi.handlerFits_of_none hnone
    · exact SdmmcSpi.handlerFits_of_none ((SdmmcSpi.exec_mosiHandler hspi).trans hnone)
  · refine SdmmcSpi.interrupt_handlerFits h (fun he => ?_) hspi
    obtain rfl := he
    exact hundisturbed

/-- **Without an interrupt in the handler** each byte finds room. -/
theorem hasRoom_of_undisturbed {es : List SdmmcAsyncEvent}
    (h : Meets SdmmcAsync.step Undisturbed {} es) : Meets SdmmcAsync.step HasRoom {} es := by
  refine h.imp (P := fun s => s.spi.HandlerFits) step_handlerFits (fun s e hfits _ => ?_)
    (SdmmcSpi.handlerFits_of_none rfl)
  cases e with
  | call c => trivial
  | spi e =>
    cases e with
    | mosi => exact hfits.room
    | _ => trivial

end SdmmcAsync

end Bricklib2
