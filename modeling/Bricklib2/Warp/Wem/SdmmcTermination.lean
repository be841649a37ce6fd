/-
Bricklib2/Warp/Wem/SdmmcTermination.lean

Which operations of the SD card driver come to an end, whatever the card answers.
The wait loops with a timeout end because the clock goes on, the others are bounded
by a number of retries, except for one: the wait for the end of a write goes on for
as long as the card answers 0x00.

Main results: `sdmmc_returns`, and `sdmmc_hangs`, a card that accepts a block and
then keeps the line low.
-/
import Bricklib2.Warp.Wem.Sdmmc

namespace Bricklib2

open Program

variable {card : SdCard} {s : SdmmcBus} {n q q' : ℕ} {response : UInt8}

/-! ### Waiting for an answer -/

/-- The wait for a response that begins at transfer `n` ends with transfer `q`, because of
the answer (`inTime`) or because the time is over. -/
structure WaitEnds (card : SdCard) (response : UInt8) (n : ℕ) (inTime : Bool) (q : ℕ) : Prop where
  le : n ≤ q
  before : ∀ i, n ≤ i → i < q → card.answer i ≠ response
  running : card.clock q < card.clock n + sdmmcTimeout
  answered : inTime = true →
    card.answer q = response ∧ card.clock (q + 1) < card.clock n + sdmmcTimeout
  late : inTime = false → card.clock n + sdmmcTimeout ≤ card.clock (q + 1)

/-- A wait has one end. -/
theorem WaitEnds.unique {inTime inTime' : Bool} (h : WaitEnds card response n inTime q)
    (h' : WaitEnds card response n inTime' q') : inTime = inTime' ∧ q = q' := by
  -- a wait that has ended does not go on
  have hlt {b b' : Bool} {i j : ℕ} (hi : WaitEnds card response n b i)
      (hj : WaitEnds card response n b' j) : ¬ i < j := by
    intro hij
    cases b with
    | true => exact hj.before i hi.le hij (hi.answered rfl).1
    | false =>
      have hover := hi.late rfl
      have hmono := card.clock_mono (show i + 1 ≤ j from hij)
      exact absurd (hover.trans hmono) (not_le.mpr hj.running)
  obtain rfl : q = q' := le_antisymm (not_lt.mp (hlt h' h)) (not_lt.mp (hlt h h'))
  refine ⟨?_, rfl⟩
  cases inTime <;> cases inTime'
  · rfl
  · exact absurd (h.late rfl) (not_le.mpr (h'.answered rfl).2)
  · exact absurd (h'.late rfl) (not_le.mpr (h.answered rfl).2)
  · rfl

/-- While the time was not over at the transfer before, the timer shows it. -/
theorem waitElapsed_iff (hle : n ≤ q) (hrunning : card.clock q < card.clock n + sdmmcTimeout) :
    systemTimerIsTimeElapsedMs (card.clock (q + 1)) (systemTimerGetMs (card.clock n))
        sdmmcTimeout = true ↔ card.clock n + sdmmcTimeout ≤ card.clock (q + 1) := by
  have hstep := card.clock_step q
  have hmono := card.clock_mono (show n ≤ q + 1 from Nat.le_succ_of_le hle)
  have htimeout : sdmmcTimeout = 100 := rfl
  rw [systemTimerIsTimeElapsedMs_iff hmono (by omega)]
  omega

/-- A state of a wait that began in `s`. -/
def SdmmcBus.at (s : SdmmcBus) (n : ℕ) : SdmmcBus := { s with transferred := n }

section WaitFor

variable {α : Type} {late : UInt8 → α} {answered : UInt8 → Option α}

/-- The wait that began in `s` goes on in `u`. -/
def WaitRunning (card : SdCard) (answered : UInt8 → Option α) (s u : SdmmcBus) : Prop :=
  ∃ m, u = s.at m ∧ s.transferred ≤ m ∧
    (∀ i, s.transferred ≤ i → i < m → answered (card.answer i) = none) ∧
    card.clock m < card.clock s.transferred + sdmmcTimeout

/-- The wait that began in `s` has ended in `u`, with the last transfer before `u`. -/
def WaitDone (card : SdCard) (late : UInt8 → α) (answered : UInt8 → Option α) (s : SdmmcBus)
    (a : α) (u : SdmmcBus) : Prop :=
  ∃ q, u = s.at (q + 1) ∧ s.transferred ≤ q ∧
    (∀ i, s.transferred ≤ i → i < q → answered (card.answer i) = none) ∧
    card.clock q < card.clock s.transferred + sdmmcTimeout ∧
    (answered (card.answer q) = some a ∧
        card.clock (q + 1) < card.clock s.transferred + sdmmcTimeout ∨
      a = late (card.answer q) ∧ card.clock s.transferred + sdmmcTimeout ≤ card.clock (q + 1))

/-- One round of a wait that began in `s`. -/
theorem waitRound_returns (late : UInt8 → α) (answered : UInt8 → Option α)
    (hle : s.transferred ≤ n)
    (hbefore : ∀ i, s.transferred ≤ i → i < n → answered (card.answer i) = none)
    (hrunning : card.clock n < card.clock s.transferred + sdmmcTimeout) :
    ∃ o, (waitRound card (systemTimerGetMs (card.clock s.transferred)) late answered).Returns
        (s.at n) (o, s.at (n + 1)) ∧
      match o with
      | none => WaitRunning card answered s (s.at (n + 1))
      | some a => WaitDone card late answered s a (s.at (n + 1)) := by
  by_cases helapsed : systemTimerIsTimeElapsedMs (card.clock (n + 1))
      (systemTimerGetMs (card.clock s.transferred)) sdmmcTimeout = true
  · refine ⟨some (late (card.answer n)), returns_state.mpr ?_, n, rfl, hle, hbefore, hrunning,
      .inr ⟨rfl, (waitElapsed_iff hle hrunning).mp helapsed⟩⟩
    exact congrArg₂ Prod.mk (if_pos helapsed) rfl
  · refine ⟨answered (card.answer n), returns_state.mpr ?_, ?_⟩
    · exact congrArg₂ Prod.mk (if_neg helapsed) rfl
    have hnot : card.clock (n + 1) < card.clock s.transferred + sdmmcTimeout :=
      not_le.mp fun h => helapsed ((waitElapsed_iff hle hrunning).mpr h)
    rcases hanswer : answered (card.answer n) with - | a
    · refine ⟨n + 1, rfl, Nat.le_succ_of_le hle, fun i hi hlt => ?_, hnot⟩
      rcases Nat.lt_succ_iff_lt_or_eq.mp hlt with hlt | rfl
      · exact hbefore i hi hlt
      · exact hanswer
    · exact ⟨n, rfl, hle, hbefore, hrunning, .inl ⟨hanswer, hnot⟩⟩

/-- **A wait with a timeout ends**: with an answer that was not awaited before, or behind
the timeout. -/
theorem waitFor_returns (late : UInt8 → α) (answered : UInt8 → Option α) (s : SdmmcBus) :
    ∃ a q, (waitFor card late answered).Returns s (a, s.at (q + 1)) ∧ s.transferred ≤ q ∧
      (∀ i, s.transferred ≤ i → i < q → answered (card.answer i) = none) ∧
      card.clock q < card.clock s.transferred + sdmmcTimeout ∧
      (answered (card.answer q) = some a ∧
          card.clock (q + 1) < card.clock s.transferred + sdmmcTimeout ∨
        a = late (card.answer q) ∧ card.clock s.transferred + sdmmcTimeout ≤ card.clock (q + 1)) := by
  obtain ⟨N, hN⟩ := card.clock_unbounded (card.clock s.transferred + sdmmcTimeout)
  have hloop : ∃ a u, (loop (waitRound card (systemTimerGetMs (card.clock s.transferred)) late
      answered)).Returns s (a, u) ∧ WaitDone card late answered s a u := by
    refine returns_loop (I := WaitRunning card answered s) (fun u => N - u.transferred) ?_ ?_
    · rintro u ⟨m, rfl, hle, hbefore, hrunning⟩
      obtain ⟨o, hround, ho⟩ := waitRound_returns late answered hle hbefore hrunning
      refine ⟨o, s.at (m + 1), hround, ?_⟩
      cases o with
      | some a => exact ho
      | none =>
        obtain ⟨k, hk, hle', hbefore', hnot⟩ := ho
        obtain rfl : m + 1 = k := congrArg SdmmcBus.transferred hk
        refine ⟨⟨m + 1, rfl, hle', hbefore', hnot⟩, ?_⟩
        -- the wait is over at transfer `N` at the latest
        have hm : m + 1 < N := by
          by_contra hge
          exact absurd (hN.trans (card.clock_mono (not_lt.mp hge))) (not_le.mpr hnot)
        show N - (m + 1) < N - m
        omega
    · exact ⟨s.transferred, rfl, le_refl _, fun i hi hlt => absurd hi (not_le.mpr hlt),
        Nat.lt_add_of_pos_right (by decide)⟩
  obtain ⟨a, u, hreturns, q, rfl, hrest⟩ := hloop
  exact ⟨a, q, returns_bind.mpr ⟨s, s, returns_get, hreturns⟩, hrest⟩

theorem terminates_waitFor (late : UInt8 → α) (answered : UInt8 → Option α) (s : SdmmcBus) :
    (waitFor card late answered).Terminates s := by
  obtain ⟨a, q, hreturns, -⟩ := waitFor_returns late answered s
  exact ⟨_, hreturns⟩

end WaitFor

/-- The wait for a response, with its result. -/
theorem sdmmcResponse_returns (card : SdCard) (response : UInt8) (s : SdmmcBus) :
    ∃ inTime q, (sdmmcResponse card response).Returns s
        (if inTime then .ok else .responseTimeout, s.at (q + 1)) ∧
      WaitEnds card response s.transferred inTime q := by
  obtain ⟨a, q, hreturns, hle, hbefore, hrunning, hend⟩ :=
    (waitFor_returns (fun _ => SdmmcError.responseTimeout)
      (fun result => if result = response then some .ok else none) s : ∃ a q,
        (sdmmcResponse card response).Returns s (a, s.at (q + 1)) ∧ _)
  have hbefore' : ∀ i, s.transferred ≤ i → i < q → card.answer i ≠ response := by
    intro i hi hlt heq
    have hnone := hbefore i hi hlt
    rw [if_pos heq] at hnone
    cases hnone
  rcases hend with ⟨hanswer, hclock⟩ | ⟨rfl, hclock⟩
  · split_ifs at hanswer with heq
    obtain rfl := Option.some.inj hanswer
    exact ⟨true, q, hreturns, hle, hbefore', hrunning, fun _ => ⟨heq, hclock⟩, nofun⟩
  · exact ⟨false, q, hreturns, hle, hbefore', hrunning, nofun, fun _ => hclock⟩

/-! ### Operations that end for every card -/

section Total

variable (card : SdCard)

theorem total_sdmmcResponse (response : UInt8) : (sdmmcResponse card response).Total :=
  terminates_waitFor _ _

theorem total_sdmmcSpiReadByte : (sdmmcSpiReadByte card).Total := total_state _

theorem total_sdmmcSpiRead (length : ℕ) : (sdmmcSpiRead card length).Total := total_state _

theorem total_sdmmcSpiWrite (data : List UInt8) : (sdmmcSpiWrite data).Total := total_state _

theorem total_sdmmcSpiSelect : (sdmmcSpiSelect card).Total :=
  (total_sdmmcSpiReadByte card).bind fun _ =>
    (total_sdmmcSpiReadByte card).bind fun _ => total_pure ()

theorem total_sdmmcSpiDeselect : (sdmmcSpiDeselect card).Total :=
  total_sdmmcSpiSelect card

/-- The response is read with a number of retries. -/
theorem total_sdmmcReadR1 (cmd55 : Bool) (retries : ℕ) (data : UInt8) :
    (sdmmcReadR1 card cmd55 retries data).Total := by
  induction retries generalizing data with
  | zero => exact total_pure data
  | succ retries ih =>
    refine (total_sdmmcSpiReadByte card).bind fun data => Total.ite ?_ (ih data)
    refine Total.ite ?_ (total_pure data)
    exact (total_sdmmcSpiReadByte card).bind fun _ => total_pure data

theorem total_sdmmcSendPacket (cmd : UInt8) (arg : UInt32) :
    (sdmmcSendPacket card cmd arg).Total := by
  refine (total_sdmmcSpiWrite _).bind fun _ => Total.ite ?_ ?_
  · exact (total_sdmmcSpiReadByte card).bind fun data => total_sdmmcReadR1 card _ _ data
  · exact total_sdmmcReadR1 card _ _ _

theorem total_sdmmcSendReady (cmd : UInt8) (arg : UInt32) :
    (sdmmcSendReady card cmd arg).Total := by
  refine Total.ite ?_ (total_sdmmcSendPacket card cmd arg)
  refine (total_sdmmcSpiWrite _).bind fun _ => (total_sdmmcReadR1 card _ _ _).bind fun data => ?_
  exact Total.ite (total_pure data) (total_sdmmcSendPacket card _ _)

theorem total_sdmmcSendCommand (cmd : UInt8) (arg : UInt32) :
    (sdmmcSendCommand card cmd arg).Total := by
  refine (total_sdmmcSpiReadByte card).bind fun _ => Total.ite ?_ (total_sdmmcSendReady card _ _)
  have hready : (sdmmcWaitUntilReady card).Total := terminates_waitFor _ _
  exact hready.bind fun ready => Total.ite (total_pure _) (total_sdmmcSendReady card _ _)

theorem total_sdmmcReadBlock (sector : UInt32) : (sdmmcReadBlock card sector).Total := by
  have htoken : (sdmmcDataToken card).Total := terminates_waitFor _ _
  refine (total_sdmmcSpiSelect card).bind fun _ => Total.bind (total_state _) fun s => ?_
  refine (total_sdmmcSendCommand card _ _).bind fun response => Total.ite ?_ ?_
  · refine htoken.bind fun dataByte => Total.ite ?_ ?_
    · exact (total_sdmmcSpiRead card _).bind fun data => (total_sdmmcSpiRead card _).bind fun _ =>
        (total_sdmmcSpiDeselect card).bind fun _ => total_pure _
    · exact (total_sdmmcSpiDeselect card).bind fun _ => total_pure _
  · exact (total_sdmmcSpiDeselect card).bind fun _ => total_pure _

/-! ### Initialisation -/

theorem total_sdmmcInitAcmd41 (retries : ℕ) : (sdmmcInitAcmd41 card retries).Total := by
  induction retries with
  | zero => exact total_pure false
  | succ retries ih =>
    refine (total_sdmmcSendCommand card _ _).bind fun ret =>
      (total_sdmmcSpiRead card _).bind fun _ => Total.ite (total_pure true) ?_
    exact (total_sdmmcSpiDeselect card).bind fun _ => (total_sdmmcSpiSelect card).bind fun _ => ih

theorem total_sdmmcInitRetry (cmd : UInt8) (retries : ℕ) :
    (sdmmcInitRetry card cmd retries).Total := by
  induction retries with
  | zero => exact total_pure false
  | succ retries ih =>
    exact (total_sdmmcSendCommand card _ _).bind fun ret => Total.ite (total_pure true) ih

theorem total_setType (type : UInt8) : (setType type).Total := total_state _

theorem total_sdmmcInitSd2 : (sdmmcInitSd2 card).Total := by
  refine (total_sdmmcSpiRead card _).bind fun buffer => Total.ite ?_ (total_pure _)
  refine (total_sdmmcSpiDeselect card).bind fun _ => (total_sdmmcSpiSelect card).bind fun _ => ?_
  refine (total_sdmmcInitAcmd41 card _).bind fun left => Total.ite ?_ (total_pure _)
  refine (total_sdmmcSendCommand card _ _).bind fun response => Total.ite ?_ (total_pure _)
  exact (total_sdmmcSpiRead card _).bind fun ocr => Total.bind (total_state _) fun _ =>
    (total_setType _).bind fun _ => total_pure _

theorem total_sdmmcInitSd1 : (sdmmcInitSd1 card).Total := by
  refine (total_sdmmcSendCommand card _ _).bind fun response => (total_setType _).bind fun _ => ?_
  refine (total_sdmmcInitRetry card _ _).bind fun left => Total.ite ?_ ?_
  · refine (total_sdmmcSendCommand card _ _).bind fun response => Total.ite ?_ (total_pure _)
    exact (total_setType _).bind fun _ => total_pure _
  · exact (total_setType _).bind fun _ => total_pure _

theorem total_sdmmcInitCard : (sdmmcInitCard card).Total := by
  refine (total_sdmmcSendCommand card _ _).bind fun response => Total.ite ?_ (total_pure _)
  refine (total_sdmmcSendCommand card _ _).bind fun response => ?_
  exact Total.ite (total_sdmmcInitSd2 card) (total_sdmmcInitSd1 card)

theorem total_sdmmcReadRegister (cmd : UInt8) (cmdError startError : SdmmcError)
    (keep : List UInt8 → Sdmmc → Sdmmc) :
    (sdmmcReadRegister card cmd cmdError startError keep).Total := by
  have hleave (error : SdmmcError) :
      (sdmmcSpiDeselect card >>= fun _ => pure error : Program SdmmcBus SdmmcError).Total :=
    (total_sdmmcSpiDeselect card).bind fun _ => total_pure error
  refine (total_sdmmcSpiSelect card).bind fun _ => ?_
  refine (total_sdmmcSendCommand card _ _).bind fun response => Total.ite ?_ (hleave _)
  refine (total_sdmmcResponse card _).bind fun start => Total.ite ?_ (hleave _)
  exact (total_sdmmcSpiRead card _).bind fun buffer => Total.bind (total_state _) fun _ => hleave _

theorem total_sdmmcInit : (sdmmcInit card).Total := by
  have hregisters (sdmmcError : SdmmcError) : (sdmmcInitRegisters card sdmmcError).Total := by
    refine Total.bind (total_state _) fun s => Total.ite (total_pure _) ?_
    refine (total_sdmmcReadRegister card _ _ _ _).bind fun csdError =>
      Total.ite (total_pure _) ?_
    refine (total_sdmmcReadRegister card _ _ _ _).bind fun cidError =>
      Total.ite (total_pure _) ?_
    exact Total.bind (total_state _) fun _ => total_pure _
  refine Total.bind (total_state _) fun _ => (total_sdmmcSpiDeselect card).bind fun _ =>
    (total_sdmmcSpiRead card _).bind fun _ => (total_sdmmcSpiSelect card).bind fun _ => ?_
  exact (total_sdmmcInitCard card).bind fun sdmmcError =>
    (total_sdmmcSpiDeselect card).bind fun _ => hregisters sdmmcError

end Total

/-! ### Writing -/

/-- The answers that keep `sdmmc_write_block` at work for ever when it begins at transfer
`n`: the command and the block are acknowledged in time, and from then on every answer is
0x00. -/
def StuckBusy (card : SdCard) (n : ℕ) : Prop :=
  ∃ ready q₁ q₂ q₃, WaitEnds card 0xFF (n + 2) ready q₁ ∧ WaitEnds card 0x00 (q₁ + 7) true q₂ ∧
    WaitEnds card 0xE5 (q₂ + 516) true q₃ ∧ ∀ i, q₃ < i → card.answer i = 0

/-- **The wait for the end of a write ends** exactly if there is an answer other than 0x00. -/
theorem terminates_sdmmcWaitWhileBusy :
    (sdmmcWaitWhileBusy card).Terminates s ↔ ∃ i, s.transferred ≤ i ∧ card.answer i ≠ 0 := by
  have hround (u : SdmmcBus) : Returns (do
      let tmp ← sdmmcSpiReadByte card
      return if tmp = 0 then none else some () : Program SdmmcBus (Option Unit)) u
      (if card.answer u.transferred = 0 then none else some (), u.at (u.transferred + 1)) :=
    returns_bind.mpr ⟨_, _, returns_state.mpr rfl, returns_pure.mpr rfl⟩
  constructor
  · intro hterminates
    by_contra hzero
    push Not at hzero
    refine not_terminates_loop (I := fun u => s.transferred ≤ u.transferred) ?_ le_rfl hterminates
    intro u hu
    refine ⟨u.at (u.transferred + 1), ?_, Nat.le_succ_of_le hu⟩
    have hreturns := hround u
    rwa [if_pos (hzero _ hu)] at hreturns
  · rintro ⟨i, hi, hne⟩
    have hloop : ∃ a u, (sdmmcWaitWhileBusy card).Returns s (a, u) ∧ True := by
      refine returns_loop (I := fun u => u.transferred ≤ i) (fun u => i - u.transferred) ?_ hi
      intro u hu
      refine ⟨_, _, hround u, ?_⟩
      by_cases hanswer : card.answer u.transferred = 0
      · have hlt : u.transferred < i := lt_of_le_of_ne hu fun h => hne (h ▸ hanswer)
        rw [if_pos hanswer]
        refine ⟨hlt, ?_⟩
        show i - (u.transferred + 1) < i - u.transferred
        exact Nat.sub_succ_lt_self i u.transferred hlt
      · rw [if_neg hanswer]
        trivial
    obtain ⟨a, u, hreturns, -⟩ := hloop
    exact ⟨(a, u), hreturns⟩

theorem sdmmcSendSpiCommand_returns (card : SdCard) (cmd : UInt8) (arg : UInt32) (crc : UInt8)
    (s : SdmmcBus) :
    ∃ ready q u, (sdmmcSendSpiCommand card cmd arg crc).Returns s ((), u) ∧
      u.transferred = q + 7 ∧ WaitEnds card 0xFF s.transferred ready q := by
  obtain ⟨ready, q, hreturns, hends⟩ := sdmmcResponse_returns card 0xFF s
  exact ⟨ready, q, _, returns_bind.mpr ⟨_, _, hreturns, returns_state.mpr rfl⟩, rfl, hends⟩

theorem sdmmcWriteData_returns (data : Vector UInt8 sdmmcSectorSize) (s : SdmmcBus) :
    ∃ u, (sdmmcWriteData data).Returns s ((), u) ∧ u.transferred = s.transferred + 515 := by
  have hreturns : (sdmmcWriteData data).Returns s ((), _) :=
    returns_bind.mpr ⟨_, _, returns_state.mpr rfl, returns_bind.mpr ⟨_, _, returns_state.mpr rfl,
      returns_bind.mpr ⟨_, _, returns_state.mpr rfl, returns_state.mpr rfl⟩⟩⟩
  refine ⟨_, hreturns, ?_⟩
  show s.transferred + 1 + data.toList.length + 1 + 1 = s.transferred + 515
  have hlength : data.toList.length = 512 := data.length_toList
  omega

/-- **Writing a block ends**, except for a card that is stuck busy. -/
theorem terminates_sdmmcWriteBlock (card : SdCard) (s : SdmmcBus) (sector : UInt32)
    (data : Vector UInt8 sdmmcSectorSize) :
    (sdmmcWriteBlock card sector data).Terminates s ↔ ¬ StuckBusy card s.transferred := by
  have hselect : (sdmmcSpiSelect card).Returns s ((), s.at (s.transferred + 2)) :=
    returns_bind.mpr ⟨_, _, returns_state.mpr rfl,
      returns_bind.mpr ⟨_, _, returns_state.mpr rfl, returns_pure.mpr rfl⟩⟩
  have hleave (error : SdmmcError) :
      (sdmmcSpiDeselect card >>= fun _ => pure error : Program SdmmcBus SdmmcError).Total :=
    (total_sdmmcSpiDeselect card).bind fun _ => total_pure error
  obtain ⟨ready, q₁, u₁, hsend, hu₁, hends₁⟩ := sdmmcSendSpiCommand_returns card sdmmcCmd24
    (sdmmcAddress s.sdmmc.type sector) 0xFF (s.at (s.transferred + 2))
  obtain ⟨inTime₂, q₂, haccepted, hends₂⟩ := sdmmcResponse_returns card 0x00 u₁
  rw [hu₁] at hends₂
  refine (terminates_bind_iff hselect).trans ((terminates_bind_iff returns_get).trans
    ((terminates_bind_iff hsend).trans ((terminates_bind_iff haccepted).trans ?_)))
  cases inTime₂ with
  | false =>
    refine iff_of_true (hleave _ _) ?_
    rintro ⟨ready', q₁', q₂', q₃', hends₁', hends₂', -⟩
    obtain ⟨-, rfl⟩ := hends₁.unique hends₁'
    exact Bool.false_ne_true (hends₂.unique hends₂').1
  | true =>
    obtain ⟨u₂, hdata, hu₂⟩ := sdmmcWriteData_returns data (u₁.at (q₂ + 1))
    obtain ⟨inTime₃, q₃, hstored, hends₃⟩ := sdmmcResponse_returns card 0xE5 u₂
    change u₂.transferred = q₂ + 1 + 515 at hu₂
    rw [hu₂, Nat.add_assoc] at hends₃
    refine (terminates_bind_iff hdata).trans ((terminates_bind_iff hstored).trans ?_)
    cases inTime₃ with
    | false =>
      refine iff_of_true (hleave _ _) ?_
      rintro ⟨ready', q₁', q₂', q₃', hends₁', hends₂', hends₃', -⟩
      obtain ⟨-, rfl⟩ := hends₁.unique hends₁'
      obtain ⟨-, rfl⟩ := hends₂.unique hends₂'
      exact Bool.false_ne_true (hends₃.unique hends₃').1
    | true =>
      have hleave' : (sdmmcWaitWhileBusy card >>= fun _ => sdmmcSpiDeselect card >>= fun _ =>
            pure SdmmcError.ok : Program SdmmcBus SdmmcError).Terminates (u₂.at (q₃ + 1)) ↔
          (sdmmcWaitWhileBusy card).Terminates (u₂.at (q₃ + 1)) := by
        constructor
        · rintro ⟨r, hr⟩
          obtain ⟨a, u, hwait, -⟩ := returns_bind.mp hr
          exact ⟨(a, u), hwait⟩
        · exact fun hwait => hwait.bind fun _ u _ => hleave .ok u
      refine hleave'.trans (terminates_sdmmcWaitWhileBusy.trans ⟨?_, ?_⟩)
      · rintro ⟨i, hi, hne⟩ ⟨ready', q₁', q₂', q₃', hends₁', hends₂', hends₃', hzero⟩
        obtain ⟨-, rfl⟩ := hends₁.unique hends₁'
        obtain ⟨-, rfl⟩ := hends₂.unique hends₂'
        obtain ⟨-, rfl⟩ := hends₃.unique hends₃'
        exact hne (hzero i hi)
      · intro hstuck
        by_contra hzero
        push Not at hzero
        exact hstuck ⟨ready, q₁, q₂, q₃, hends₁, hends₂, hends₃, hzero⟩

/-- **The driver comes back from every operation**, whatever the card answers, exactly if
the card does not stay busy behind a block that it acknowledged. -/
theorem sdmmc_returns (card : SdCard) (s : SdmmcBus) :
    ((∀ sector, (sdmmcReadBlock card sector).Terminates s) ∧
      (∀ sector data, (sdmmcWriteBlock card sector data).Terminates s) ∧
      (∀ cmd arg, (sdmmcSendCommand card cmd arg).Terminates s) ∧
      (sdmmcInit card).Terminates s) ↔ ¬ StuckBusy card s.transferred := by
  constructor
  · rintro ⟨-, hwrite, -⟩
    exact (terminates_sdmmcWriteBlock card s 0 (Vector.replicate _ 0)).mp (hwrite _ _)
  · intro hstuck
    exact ⟨fun sector => total_sdmmcReadBlock card sector s,
      fun sector data => (terminates_sdmmcWriteBlock card s sector data).mpr hstuck,
      fun cmd arg => total_sdmmcSendCommand card cmd arg s, total_sdmmcInit card s⟩

/-- A card that accepts a block and stays busy then, with one transfer in a millisecond. -/
def busyCard : SdCard where
  answer n := if n = 2 then 0xFF else if n = 525 then 0xE5 else 0
  clock n := n
  clock_mono := monotone_id
  clock_unbounded time := ⟨time, le_refl time⟩
  clock_step n := by omega

/-- An answer that comes at once ends the wait. -/
theorem busyCard_waitEnds (h : busyCard.answer n = response) :
    WaitEnds busyCard response n true n where
  le := le_refl n
  before i hle hlt := absurd hle (not_le.mpr hlt)
  running := Nat.lt_add_of_pos_right (by decide)
  answered _ := ⟨h, Nat.add_lt_add_left (by decide) n⟩
  late := nofun

/-- Writing a block to `busyCard` does not end. -/
theorem sdmmc_hangs : ¬ ∀ (card : SdCard) (s : SdmmcBus),
    (∀ sector, (sdmmcReadBlock card sector).Terminates s) ∧
      (∀ sector data, (sdmmcWriteBlock card sector data).Terminates s) ∧
      (∀ cmd arg, (sdmmcSendCommand card cmd arg).Terminates s) ∧
      (sdmmcInit card).Terminates s := by
  intro hreturns
  have hwrite := (hreturns busyCard {}).2.1 0 (Vector.replicate _ 0)
  refine (terminates_sdmmcWriteBlock busyCard {} 0 _).mp hwrite ⟨true, 2, 9, 525, ?_, ?_, ?_, ?_⟩
  · exact busyCard_waitEnds rfl
  · exact busyCard_waitEnds rfl
  · exact busyCard_waitEnds rfl
  · intro i hi
    show (if i = 2 then (0xFF : UInt8) else if i = 525 then 0xE5 else 0) = 0
    rw [if_neg (by omega), if_neg (by omega)]

end Bricklib2
