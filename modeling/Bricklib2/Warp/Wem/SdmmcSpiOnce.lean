/-
Bricklib2/Warp/Wem/SdmmcSpiOnce.lean

Each byte once.  A byte that was lost is missing in the end, so an attempt that does not time
out has lost nothing, and the call is a transfer of the bus in `Warp/Wem/Sdmmc`.

Main results: `sdmmcSpi_once` for the runs in which no attempt times out behind its first
byte, and `sdmmcSpi_twice`, a run with such an attempt.
-/
import Bricklib2.Warp.Wem.Sdmmc
import Bricklib2.Warp.Wem.SdmmcSpiChannel

namespace Bricklib2

open Machine

namespace SdmmcSpi

variable {s s' : SdmmcSpi}

/-! ### The invariant -/

/-- The bytes of the call went over the wire, and those that came back were handed out. -/
def Delivered (s : SdmmcSpi) : Prop :=
  s.wire.map Prod.fst = s.transfer.mosi ∧ s.data = s.transfer.kept (s.wire.map Prod.snd)

/-- How an attempt ends: with all bytes, or without one. -/
def Ends (s : SdmmcSpi) (returns : Bool) : Prop :=
  if returns then s.dataLength ≤ s.misoIndex else s.mosiIndex = 0

/-- What holds at the statements of the task. -/
def InvAt (s : SdmmcSpi) : SdmmcSpiPc → Prop
  | .idle => s.TxOff ∧ s.RxOff ∧ s.Drained
  | .flushRx | .flushTx => s.TxOff ∧ s.RxOff ∧ s.Transferring 0 [] ∧ s.data = []
  | .send mosiCount => s.TxOff ∧ s.RxOff ∧ s.Transferring mosiCount [] ∧ s.data = []
  | .receiveTest misoCount | .receive misoCount =>
    s.TxOff ∧ s.RxOff ∧ ∃ got, s.Transferring s.transfer.mosi.length got ∧
      got.length = misoCount ∧ s.data = s.transfer.kept got
  | .finish | .returned => s.TxOff ∧ s.RxOff ∧ s.Drained ∧ s.Delivered
  | .prepare => s.TxOff ∧ s.RxOff ∧ s.Transferring 0 []
  | .rxLevel => s.Attempt ∧ s.RxOff
  | .readRx amount => s.Attempt ∧ s.RxOff ∧ amount ≤ s.rxFifo.length
  | .leaveTx true => s.Attempt ∧ s.Ends true
  | .leaveRx returns => s.Attempt ∧ s.Ends returns ∧ s.TxOff
  | .copy returns => s.Attempt ∧ s.Ends returns ∧ s.TxOff ∧ s.RxOff
  | .reset returns =>
    s.Attempt ∧ s.Ends returns ∧ s.TxOff ∧ s.RxOff ∧
      s.data = s.transfer.kept (s.buffer.take s.dataLength)
  | .enableRx | .enableTx | .trigger | .test | .yield | .pollRx | .disableRx | .pollTx
  | .triggerAgain | .timeout | .leaveTx false => s.Attempt

/-- The transfer fits into the buffer, and holds what its statement needs. -/
structure Inv (s : SdmmcSpi) : Prop where
  length_le : s.transfer.mosi.length ≤ sdmmcSpiBufferSize
  buffer_length : s.buffer.length = sdmmcSpiBufferSize
  at_pc : s.InvAt s.pc

theorem Interrupt.ends (hi : s.Interrupt s') (h : s.Attempt) {returns : Bool} (htx : s.TxOff)
    (hends : s.Ends returns) : s'.Ends returns := by
  obtain ⟨-, -, -, hlength⟩ := hi.frame
  cases returns with
  | true =>
    show s'.dataLength ≤ s'.misoIndex
    rw [hlength]
    exact le_trans hends (hi.attempt h).2
  | false =>
    show s'.mosiIndex = 0
    rw [(hi.txOff htx).2]
    exact hends

/-- **Beside the task** nothing goes wrong. -/
theorem interrupt_inv (hi : s.Interrupt s') (h : s.Inv) : s'.Inv := by
  obtain ⟨hlength, hbuffer, hat⟩ := h
  obtain ⟨hpc, htransfer, hdata, hdataLength⟩ := hi.frame
  refine ⟨by rwa [htransfer], by rw [hi.buffer_length]; exact hbuffer, ?_⟩
  rw [hpc]
  cases hp : s.pc with
  | idle =>
    rw [hp] at hat
    exact absurd hat.2.2 (hi.not_drained hat.1 hat.2.1)
  | finish | returned =>
    rw [hp] at hat
    exact absurd hat.2.2.1 (hi.not_drained hat.1 hat.2.1)
  | flushRx | flushTx | send mosiCount =>
    rw [hp] at hat
    obtain ⟨htx, hrx, htransferring, hnone⟩ := hat
    exact ⟨(hi.txOff htx).1, (hi.rxOff hrx).1, hi.transferring htx hrx htransferring,
      hdata.trans hnone⟩
  | prepare =>
    rw [hp] at hat
    obtain ⟨htx, hrx, htransferring⟩ := hat
    exact ⟨(hi.txOff htx).1, (hi.rxOff hrx).1, hi.transferring htx hrx htransferring⟩
  | receiveTest misoCount | receive misoCount =>
    rw [hp] at hat
    obtain ⟨htx, hrx, got, htransferring, hcount, hgot⟩ := hat
    refine ⟨(hi.txOff htx).1, (hi.rxOff hrx).1, got, ?_, hcount, ?_⟩
    · rw [htransfer]
      exact hi.transferring htx hrx htransferring
    · rw [hdata, htransfer]
      exact hgot
  | rxLevel =>
    rw [hp] at hat
    exact ⟨(hi.attempt hat.1).1, (hi.rxOff hat.2).1⟩
  | readRx amount =>
    rw [hp] at hat
    obtain ⟨hattempt, hrx, hamount⟩ := hat
    obtain ⟨hrx', -, hle⟩ := hi.rxOff hrx
    exact ⟨(hi.attempt hattempt).1, hrx', hamount.trans hle⟩
  | leaveTx returns =>
    rw [hp] at hat
    cases returns with
    | false => exact (hi.attempt hat).1
    | true =>
      refine ⟨(hi.attempt hat.1).1, ?_⟩
      show s'.dataLength ≤ s'.misoIndex
      rw [hdataLength]
      exact le_trans hat.2 (hi.attempt hat.1).2
  | leaveRx returns =>
    rw [hp] at hat
    obtain ⟨hattempt, hends, htx⟩ := hat
    exact ⟨(hi.attempt hattempt).1, hi.ends hattempt htx hends, (hi.txOff htx).1⟩
  | copy returns =>
    rw [hp] at hat
    obtain ⟨hattempt, hends, htx, hrx⟩ := hat
    exact ⟨(hi.attempt hattempt).1, hi.ends hattempt htx hends, (hi.txOff htx).1,
      (hi.rxOff hrx).1⟩
  | reset returns =>
    rw [hp] at hat
    obtain ⟨hattempt, hends, htx, hrx, hkept⟩ := hat
    refine ⟨(hi.attempt hattempt).1, hi.ends hattempt htx hends, (hi.txOff htx).1,
      (hi.rxOff hrx).1, ?_⟩
    rw [hdata, htransfer, hdataLength, hi.buffer_eq hrx]
    exact hkept
  | enableRx | enableTx | trigger | test | yield | pollRx | disableRx | pollTx | triggerAgain
  | timeout =>
    rw [hp] at hat
    exact (hi.attempt hat).1

/-! ### The task -/

/-- An attempt that timed out has sent nothing. -/
def RetriesUnsent (s : SdmmcSpi) : SdmmcSpiEvent → Prop
  | .exec _ => s.pc = .leaveTx false → s.mosiIndex = 0
  | _ => True

instance (s : SdmmcSpi) : ∀ e, Decidable (s.RetriesUnsent e)
  | .exec _ => inferInstanceAs (Decidable (_ = _ → _ = _))
  | .call _ | .requestTx | .requestRx | .mosi | .miso | .load | .shift _ => isTrue trivial

section Statements

variable {now : ℕ}

/-- The statements keep the call and the size of the buffer. -/
theorem exec_bounds {pc : SdmmcSpiPc} (hlength : s.transfer.mosi.length ≤ s.buffer.length)
    (hs : s.exec now pc = some s') :
    s'.transfer = s.transfer ∧ s'.buffer.length = s.buffer.length := by
  cases pc with
  | idle | returned => cases hs
  | send mosiCount =>
    dsimp only [exec] at hs
    split_ifs at hs <;> obtain rfl := Option.some.inj hs <;> exact ⟨rfl, rfl⟩
  | receive misoCount =>
    dsimp only [exec] at hs
    cases hrx : s.rxFifo <;> rw [hrx] at hs <;> obtain rfl := Option.some.inj hs <;>
      exact ⟨rfl, rfl⟩
  | prepare =>
    obtain rfl := Option.some.inj hs
    exact ⟨rfl, Bytes.length_overwrite (by rwa [Nat.zero_add])⟩
  | readRx amount =>
    cases amount with
    | zero =>
      obtain rfl := Option.some.inj hs
      exact ⟨rfl, rfl⟩
    | succ amount =>
      obtain rfl := Option.some.inj hs
      exact ⟨rfl, List.length_set⟩
  | _ =>
    obtain rfl := Option.some.inj hs
    exact ⟨rfl, rfl⟩

theorem flushRx_inv (h : s.InvAt .flushRx) (hs : s.exec now .flushRx = some s') :
    s'.InvAt s'.pc := by
  obtain rfl := Option.some.inj hs
  obtain ⟨htx, hrx, htransferring, hdata⟩ := h
  obtain ⟨⟨hshifter, hfifo, -⟩, hwire, -⟩ := htransferring.eq_nil
  exact ⟨htx, hrx, Drained.transferring ⟨hshifter, hfifo, rfl⟩ hwire, hdata⟩

theorem flushTx_inv (h : s.InvAt .flushTx) (hs : s.exec now .flushTx = some s') :
    s'.InvAt s'.pc := by
  obtain rfl := Option.some.inj hs
  obtain ⟨htx, hrx, htransferring, hdata⟩ := h
  obtain ⟨⟨hshifter, -, hfifo⟩, hwire, -⟩ := htransferring.eq_nil
  have hnone : Transferring { s with txFifo := [] } 0 [] :=
    Drained.transferring ⟨hshifter, rfl, hfifo⟩ hwire
  dsimp only
  split_ifs
  · exact ⟨htx, hrx, hnone, hdata⟩
  · exact ⟨htx, hrx, hnone⟩

theorem send_inv {mosiCount : ℕ} (h : s.InvAt (.send mosiCount))
    (hs : s.exec now (.send mosiCount) = some s') : s'.InvAt s'.pc := by
  obtain ⟨htx, hrx, htransferring, hdata⟩ := h
  dsimp only [exec] at hs
  split_ifs at hs with hlt
  · obtain rfl := Option.some.inj hs
    exact ⟨htx, hrx, htransferring.pushTx hlt, hdata⟩
  · obtain rfl := Option.some.inj hs
    refine ⟨htx, hrx, [], htransferring.all (not_lt.mp hlt), rfl, ?_⟩
    show s.data = s.transfer.kept []
    rw [hdata]
    cases s.transfer <;> rfl

theorem receiveTest_inv {misoCount : ℕ} (h : s.InvAt (.receiveTest misoCount))
    (hs : s.exec now (.receiveTest misoCount) = some s') : s'.InvAt s'.pc := by
  obtain rfl := Option.some.inj hs
  obtain ⟨htx, hrx, got, htransferring, hcount, hgot⟩ := h
  dsimp only
  split_ifs with hlt
  · exact ⟨htx, hrx, got, htransferring, hcount, hgot⟩
  · obtain ⟨hdrained, hwire, rfl⟩ := htransferring.complete (by omega)
    exact ⟨htx, hrx, hdrained, hwire, hgot⟩

theorem receive_inv {misoCount : ℕ} (h : s.InvAt (.receive misoCount))
    (hs : s.exec now (.receive misoCount) = some s') : s'.InvAt s'.pc := by
  obtain ⟨htx, hrx, got, htransferring, hcount, hgot⟩ := h
  dsimp only [exec] at hs
  cases hfifo : s.rxFifo with
  | nil =>
    rw [hfifo] at hs
    obtain rfl := Option.some.inj hs
    obtain ⟨hsent, hreceived⟩ := htransferring
    rw [hfifo] at hreceived
    exact ⟨htx, hrx, got, ⟨hsent, hreceived⟩, hcount, hgot⟩
  | cons x rest =>
    rw [hfifo] at hs
    obtain rfl := Option.some.inj hs
    refine ⟨htx, hrx, got ++ [x], htransferring.take hfifo, ?_, ?_⟩
    · rw [List.length_append, hcount]
      rfl
    · show s.data ++ s.transfer.kept [x] = s.transfer.kept (got ++ [x])
      rw [s.transfer.kept_append, hgot]

/-- **The buffer of a new attempt** has the bytes of the call. -/
theorem prepare_inv (hlength : s.transfer.mosi.length ≤ s.buffer.length) (h : s.InvAt .prepare)
    (hs : s.exec now .prepare = some s') : s'.InvAt s'.pc := by
  obtain ⟨htx, hrx, htransferring⟩ := h
  have hbounds := exec_bounds hlength hs
  obtain rfl := Option.some.inj hs
  refine ⟨⟨rfl, le_rfl, Nat.zero_le _, hlength.trans_eq hbounds.2.symm, htransferring,
    fun i _ => ?_⟩, fun handler hhandler => ?_, fun amount hamount => ?_⟩
  · rcases Nat.lt_or_ge i s.transfer.mosi.length with hi | hi
    · left
      show byteAt (s.buffer.take 0 ++ s.transfer.mosi ++ _) i = _
      rw [List.take_zero, List.nil_append, byteAt, List.getD_append _ _ _ _ hi]
      rfl
    · exact Or.inr hi
  · cases htx.2.2.symm.trans hhandler
  · cases hrx.2.2.symm.trans hamount

theorem test_inv (h : s.Attempt) (hs : s.exec now .test = some s') : s'.InvAt s'.pc := by
  obtain rfl := Option.some.inj hs
  dsimp only
  split_ifs with hmore
  · exact h.frame
  · exact ⟨h.frame, not_lt.mp fun hlt => hmore (Or.inl hlt)⟩

/-- **The task reads by hand**, without the interrupt. -/
theorem readRx_inv {amount : ℕ} (h : s.InvAt (.readRx amount))
    (hs : s.exec now (.readRx amount) = some s') : s'.InvAt s'.pc := by
  obtain ⟨hattempt, hrx, hamount⟩ := h
  cases amount with
  | zero =>
    obtain rfl := Option.some.inj hs
    exact hattempt.frame
  | succ amount =>
    obtain rfl := Option.some.inj hs
    have hsending := hattempt.toSending.readOutr (by omega)
    refine ⟨⟨hsending.frame, hattempt.mosiHandler, fun other hother => ?_⟩, hrx, ?_⟩
    · exact absurd (hrx.2.2.symm.trans hother) nofun
    · show amount ≤ s.rxFifo.tail.length
      rw [List.length_tail]
      omega

/-- **The end of an attempt**: the call is over, or nothing has happened. -/
theorem reset_inv {returns : Bool} (h : s.InvAt (.reset returns))
    (hs : s.exec now (.reset returns) = some s') : s'.InvAt s'.pc := by
  obtain rfl := Option.some.inj hs
  obtain ⟨hattempt, hends, htx, hrx, hdata⟩ := h
  have htransferring := hattempt.transferring
  cases returns with
  | true =>
    have hmiso : s.misoIndex = s.dataLength :=
      le_antisymm (hattempt.misoIndex_le.trans hattempt.mosiIndex_le) hends
    rw [hmiso] at htransferring
    obtain ⟨hdrained, hwire, hgot⟩ := htransferring.complete (by
      rw [List.length_take_of_le hattempt.le_buffer, hattempt.dataLength])
    refine ⟨htx, hrx, hdrained, hwire, hdata.trans ?_⟩
    rw [hgot]
  | false =>
    rw [show s.mosiIndex = 0 from hends] at htransferring
    obtain ⟨hdrained, hwire, -⟩ := htransferring.eq_nil
    exact ⟨htx, hrx, hdrained.transferring hwire⟩

end Statements

/-- **One statement of the task.** -/
theorem exec_inv {now : ℕ} (h : s.Inv) (hruns : s.taskRuns = true)
    (hc : s.RetriesUnsent (.exec now)) (hs : s.exec now s.pc = some s') : s'.Inv := by
  obtain ⟨hlength, hbuffer, hat⟩ := h
  have hfits : s.transfer.mosi.length ≤ s.buffer.length := hlength.trans_eq hbuffer.symm
  obtain ⟨htransfer, hbuffer'⟩ := exec_bounds hfits hs
  refine ⟨htransfer ▸ hlength, hbuffer'.trans hbuffer, ?_⟩
  simp only [taskRuns, Bool.and_eq_true, Bool.not_eq_true', Option.isNone_iff_eq_none] at hruns
  obtain ⟨⟨⟨htxRequest, hrxRequest⟩, hmosi⟩, hmiso⟩ := hruns
  change s.pc = .leaveTx false → s.mosiIndex = 0 at hc
  cases hp : s.pc with
  | idle | returned =>
    rw [hp] at hs
    cases hs
  | finish =>
    rw [hp] at hs hat
    obtain rfl := Option.some.inj hs
    exact hat
  | flushRx => exact flushRx_inv (hp ▸ hat) (hp ▸ hs)
  | flushTx => exact flushTx_inv (hp ▸ hat) (hp ▸ hs)
  | send mosiCount => exact send_inv (hp ▸ hat) (hp ▸ hs)
  | receiveTest misoCount => exact receiveTest_inv (hp ▸ hat) (hp ▸ hs)
  | receive misoCount => exact receive_inv (hp ▸ hat) (hp ▸ hs)
  | prepare => exact prepare_inv hfits (hp ▸ hat) (hp ▸ hs)
  | test => exact test_inv (hp ▸ hat) (hp ▸ hs)
  | readRx amount => exact readRx_inv (hp ▸ hat) (hp ▸ hs)
  | reset returns => exact reset_inv (hp ▸ hat) (hp ▸ hs)
  | enableRx | enableTx | trigger | yield | triggerAgain =>
    rw [hp] at hs hat
    obtain rfl := Option.some.inj hs
    exact hat.frame
  | pollRx | pollTx | timeout =>
    rw [hp] at hs hat
    obtain rfl := Option.some.inj hs
    dsimp only
    split_ifs
    · exact hat.frame
    · exact hat.frame
  | disableRx =>
    rw [hp] at hs hat
    obtain rfl := Option.some.inj hs
    exact ⟨hat.frame, rfl, hrxRequest, hmiso⟩
  | rxLevel =>
    rw [hp] at hs hat
    obtain rfl := Option.some.inj hs
    exact ⟨hat.1.frame, hat.2, le_rfl⟩
  | leaveTx returns =>
    rw [hp] at hs hat
    obtain rfl := Option.some.inj hs
    cases returns with
    | false => exact ⟨hat.frame, hc hp, rfl, htxRequest, hmosi⟩
    | true => exact ⟨hat.1.frame, hat.2, rfl, htxRequest, hmosi⟩
  | leaveRx returns =>
    rw [hp] at hs hat
    obtain rfl := Option.some.inj hs
    obtain ⟨hattempt, hends, htx⟩ := hat
    exact ⟨hattempt.frame, hends, htx, rfl, hrxRequest, hmiso⟩
  | copy returns =>
    rw [hp] at hs hat
    obtain rfl := Option.some.inj hs
    obtain ⟨hattempt, hends, htx, hrx⟩ := hat
    exact ⟨hattempt.frame, hends, htx, hrx, rfl⟩

theorem step_inv (s : SdmmcSpi) (e : SdmmcSpiEvent) (s' : SdmmcSpi) (h : s.Inv)
    (hc : s.RetriesUnsent e) (hs : s.step e = some s') : s'.Inv := by
  cases e with
  | call transfer =>
    dsimp only [step] at hs
    split_ifs at hs with hcall
    obtain rfl := Option.some.inj hs
    obtain ⟨hpc, hfits⟩ := hcall
    obtain ⟨htx, hrx, hdrained⟩ : s.TxOff ∧ s.RxOff ∧ s.Drained := by
      have hat := h.at_pc
      rcases hpc with hidle | hreturned
      · rw [hidle] at hat
        exact hat
      · rw [hreturned] at hat
        exact ⟨hat.1, hat.2.1, hat.2.2.1⟩
    refine ⟨hfits, h.buffer_length, htx, hrx, Drained.transferring ?_ rfl, rfl⟩
    exact hdrained
  | exec now =>
    dsimp only [step] at hs
    split_ifs at hs with hruns
    exact exec_inv h hruns hc hs
  | requestTx => exact interrupt_inv (interrupt_of_step (e := .requestTx) hs) h
  | requestRx => exact interrupt_inv (interrupt_of_step (e := .requestRx) hs) h
  | mosi => exact interrupt_inv (interrupt_of_step (e := .mosi) hs) h
  | miso => exact interrupt_inv (interrupt_of_step (e := .miso) hs) h
  | load => exact interrupt_inv (interrupt_of_step (e := .load) hs) h
  | shift miso => exact interrupt_inv (interrupt_of_step (e := .shift miso) hs) h

/-- What a call that has returned leaves behind. -/
theorem delivered_of_returned {es : List SdmmcSpiEvent}
    (hm : Meets SdmmcSpi.step RetriesUnsent {} es) (hr : run SdmmcSpi.step {} es = some s)
    (hpc : s.pc = .returned) : s.Delivered := by
  have hinit : Inv {} :=
    ⟨by decide, List.length_replicate, ⟨rfl, rfl, rfl⟩, ⟨rfl, rfl, rfl⟩, rfl, rfl, rfl⟩
  have hinv : s.Inv := run_induct_meets step_inv hinit hm hr
  have hat := hinv.at_pc
  rw [hpc] at hat
  exact hat.2.2.2

/-! ### The bus of the driver -/

variable {card : SdCard} {bus : SdmmcBus} {length : ℕ} {data : List UInt8}

/-- What came back are the answers of the card. -/
def Answered (s : SdmmcSpi) (card : SdCard) (bus : SdmmcBus) : Prop :=
  s.wire.map Prod.snd = (List.range s.wire.length).map fun i => card.answer (bus.transferred + i)

theorem Delivered.length_wire (h : s.Delivered) : s.wire.length = s.transfer.mosi.length := by
  rw [← h.1, List.length_map]

/-- **A read** is the one of the driver's model. -/
theorem Delivered.returns_read (h : s.Delivered) (hread : s.transfer = .read length)
    (hanswer : s.Answered card bus) :
    (sdmmcSpiRead card length).Returns bus
      (s.data, { bus with transferred := bus.transferred + s.wire.length }) := by
  have hlength : s.wire.length = length := by
    rw [h.length_wire, hread]
    exact List.length_replicate
  have hdata : s.data = s.wire.map Prod.snd := by
    rw [h.2, hread]
    rfl
  rw [Answered, hlength] at hanswer
  rw [hdata, hanswer, hlength]
  exact Program.returns_state.mpr rfl

/-- **A write** is the one of the driver's model. -/
theorem Delivered.returns_write (h : s.Delivered) (hwrite : s.transfer = .write data) :
    (sdmmcSpiWrite data).Returns bus
      ((), { bus with
        transferred := bus.transferred + s.wire.length
        sent := s.wire.map Prod.fst :: bus.sent }) := by
  rw [h.length_wire, h.1, hwrite]
  exact Program.returns_state.mpr rfl

end SdmmcSpi

open SdmmcSpi in
/-- **Exactly once.**  In every run in which no attempt times out behind its first byte, a call
that has returned has sent its bytes over the wire, each once and in order, and no others, and a
read hands out the bytes that came back for them. -/
theorem sdmmcSpi_once (es : List SdmmcSpiEvent) (s : SdmmcSpi)
    (hm : Meets SdmmcSpi.step RetriesUnsent {} es) (hr : run SdmmcSpi.step {} es = some s)
    (hpc : s.pc = .returned) :
    s.wire.map Prod.fst = s.transfer.mosi ∧
      ∀ length, s.transfer = .read length → s.data = s.wire.map Prod.snd := by
  obtain ⟨hsent, hreceived⟩ := delivered_of_returned hm hr hpc
  refine ⟨hsent, fun length hread => ?_⟩
  rw [hreceived, hread]
  rfl

/-! ### Runs -/

namespace SdmmcSpi

/-- Statements of the task. -/
def execs (n now : ℕ) : List SdmmcSpiEvent := List.replicate n (.exec now)

/-- `sdmmc_mosi_irq_handler` from its first to its last statement. -/
def mosiHandled (amount : ℕ) : List SdmmcSpiEvent := List.replicate (amount + 4) .mosi

/-- The same for `sdmmc_miso_irq_handler`, with the request for it. -/
def misoHandled (amount : ℕ) : List SdmmcSpiEvent := .requestRx :: List.replicate (amount + 2) .miso

/-- Bytes that come back. -/
def clocked (miso : List UInt8) : List SdmmcSpiEvent := miso.flatMap fun x => [.load, .shift x]

/-- The numbers below `n`. -/
def numbers (n : ℕ) : List UInt8 := (List.range n).map UInt8.ofNat

/-- Bytes come back and are taken out, and as many are put into the transmit FIFO. -/
def refilled (miso : List UInt8) : List SdmmcSpiEvent :=
  clocked miso ++ misoHandled miso.length ++ .requestTx :: mosiHandled miso.length

/-- The way of 40 bytes from the trigger on: the FIFO is filled and then filled up twice. -/
def fortyTransferred : List SdmmcSpiEvent :=
  mosiHandled 16 ++ refilled ((numbers 40).take 8) ++ refilled (((numbers 40).drop 8).take 16) ++
    clocked ((numbers 40).drop 24) ++ misoHandled 16

/-- The way of 16 bytes. -/
def sixteenTransferred : List SdmmcSpiEvent :=
  clocked (numbers 16) ++ misoHandled 16

end SdmmcSpi

open SdmmcSpi in
/-- A read of 40 bytes. -/
theorem sdmmcSpi_once_forty :
    let s := after SdmmcSpi.step {} (.call (.read 40) :: execs 6 0 ++ fortyTransferred ++
      execs 6 1)
    s.wire.map Prod.fst = List.replicate 40 0xFF ∧ s.data = numbers 40 := by
  intro s
  have htransfer : s.transfer = .read 40 := by decide +kernel
  have hwire : s.wire.map Prod.snd = numbers 40 := by decide +kernel
  obtain ⟨hsent, hdata⟩ := sdmmcSpi_once (.call (.read 40) :: execs 6 0 ++ fortyTransferred ++
    execs 6 1) s (by decide +kernel) (run_eq_after (by decide +kernel)) (by decide +kernel)
  rw [htransfer] at hsent
  exact ⟨hsent, (hdata 40 htransfer).trans hwire⟩

namespace SdmmcSpi

/-- All bytes of a write are back before the task returns from `coop_task_yield`, 100 ms late.
The attempt counts as timed out, and is made once more. -/
def lateYield : List SdmmcSpiEvent :=
  .call (.write (numbers 16)) :: execs 6 0 ++ mosiHandled 16 ++ execs 1 0 ++
    sixteenTransferred ++ execs 7 100 ++ mosiHandled 0 ++ execs 9 100 ++ mosiHandled 16 ++
    sixteenTransferred ++ execs 6 101

end SdmmcSpi

open SdmmcSpi in
/-- The 16 bytes go over the wire twice. -/
theorem sdmmcSpi_twice :
    ¬ ∀ (es : List SdmmcSpiEvent) (s : SdmmcSpi), run SdmmcSpi.step {} es = some s →
      s.pc = .returned → 16 ≤ s.transfer.mosi.length → s.wire.map Prod.fst = s.transfer.mosi := by
  intro h
  have hsent := h lateYield _ (run_eq_after (by decide +kernel)) (by decide +kernel)
    (by decide +kernel)
  revert hsent
  decide +kernel

open SdmmcSpi in
/-- That is all that goes wrong in this run. -/
example : (after SdmmcSpi.step {} lateYield).wire.map Prod.fst = numbers 16 ++ numbers 16 := by
  decide +kernel

end Bricklib2
