/-
Bricklib2/Bootloader/TransmitIrq.lean

The transmit interrupt of SPITFP (bootloader_xmc_irq.c) moves the send buffer to the TX
FIFO.  It is there twice: as a loop that looks at the FIFO before each byte, and with an
unrolled copy that is entered at the number of bytes to write.

Old bootloaders take `buffer_send_pointer == buffer_send_pointer_end` for a message that
has been sent.  For them the end pointer is one short, and the handler waits for space to
write the last byte.  No byte leaves the FIFO while a handler runs, except in this wait.

Main result: `spitfpIrqTx_agree`, both handlers do the same, and a message is written once
and in order however the interrupts fall.
-/
import Bricklib2.Hal.SpiFifo
import Bricklib2.Library.Machine

namespace Bricklib2

open Machine

/-! ### State -/

/-- `SPITFP_TX_SIZE` -/
inductive SpitfpTxSize
  | words2
  | words4
  | words8
  | words16
  | words32
  deriving DecidableEq

/-- The places of the transmit FIFO. -/
def SpitfpTxSize.words : SpitfpTxSize → ℕ
  | words2 => 2
  | words4 => 4
  | words8 => 8
  | words16 => 16
  | words32 => 32

/-- `SPITFP_TX_SIZE`, `BOOTLOADER_FIX_POINTER_END` and
`BOOTLOADER_USE_MEMORY_OPTIMIZED_IRQ_HANDLER`. -/
structure SpitfpTxConfig where
  txSize : SpitfpTxSize
  fixPointerEnd : Bool
  memoryOptimized : Bool

/-- The send buffer, the pointers into it, the TX FIFO, the bytes that have left it and
whether the TX event is enabled. -/
structure SpitfpSend where
  bufferSend : ℕ → UInt8
  bufferSendPointer : ℕ
  bufferSendPointerEnd : ℕ
  txFifo : List UInt8
  wire : List UInt8
  event : Bool

/-- `buffer_send_pointer_protocol_overhead_end` -/
def bufferSendPointerProtocolOverheadEnd (config : SpitfpTxConfig) : ℕ :=
  if config.fixPointerEnd then 3 else 3 - 1

/-! ### Handlers -/

/-- `SPITFP_USIC->IN[0] = *buffer_send_pointer` -/
def SpitfpSend.write (config : SpitfpTxConfig) (s : SpitfpSend) : SpitfpSend :=
  { s with txFifo := fifoPush config.txSize.words s.txFifo (s.bufferSend s.bufferSendPointer) }

/-- A byte, and on to the next one. -/
def SpitfpSend.writeNext (config : SpitfpTxConfig) (s : SpitfpSend) : SpitfpSend :=
  { s.write config with bufferSendPointer := s.bufferSendPointer + 1 }

/-- Busy waiting ends when the hardware has sent a byte, or some more. -/
def SpitfpSend.waitForSpace (config : SpitfpTxConfig) (drain : ℕ) (s : SpitfpSend) : SpitfpSend :=
  if s.txFifo.length < config.txSize.words then s
  else { s with txFifo := s.txFifo.drop (drain + 1), wire := s.wire ++ s.txFifo.take (drain + 1) }

/-- The end of a message, the same in both handlers. -/
def SpitfpSend.finish (config : SpitfpTxConfig) (drain : ℕ) (s : SpitfpSend) : SpitfpSend :=
  let s := if config.fixPointerEnd then s else (s.waitForSpace config drain).write config
  -- an ACK is not sent again
  let s := if s.bufferSendPointerEnd = bufferSendPointerProtocolOverheadEnd config then
    { s with bufferSendPointerEnd := 0 } else s
  { s with event := false }

/-- The loop of the memory-optimised handler. -/
def spitfpIrqTxLoop (config : SpitfpTxConfig) (drain : ℕ) (s : SpitfpSend) : SpitfpSend :=
  if s.txFifo.length < config.txSize.words then
    if (s.writeNext config).bufferSendPointer = (s.writeNext config).bufferSendPointerEnd then
      (s.writeNext config).finish config drain
    else
      spitfpIrqTxLoop config drain (s.writeNext config)
  else
    s
termination_by config.txSize.words - s.txFifo.length
decreasing_by
  rename_i hspace _
  rw [SpitfpSend.writeNext, SpitfpSend.write]
  dsimp only
  rw [fifoPush, if_pos hspace, List.length_append, List.length_singleton]
  omega

/-- The unrolled copy: each `case` falls through to the next one. -/
def spitfpIrqTxCase (config : SpitfpTxConfig) : ℕ → SpitfpSend → SpitfpSend
  | 0, s => s
  | n + 1, s => spitfpIrqTxCase config n (s.writeNext config)

/-- `SPITFP_IRQ_TX_HANDLER`, unrolled. -/
def spitfpIrqTxUnrolled (config : SpitfpTxConfig) (drain : ℕ) (s : SpitfpSend) : SpitfpSend :=
  let toSend := (((s.bufferSendPointerEnd : ℤ) - s.bufferSendPointer) % 256).toNat
  let fifoLevel := (((config.txSize.words : ℤ) - s.txFifo.length) % 256).toNat
  let length := min toSend fifoLevel
  -- there is a case for each length up to the size of the FIFO
  let s := if length ≤ config.txSize.words then spitfpIrqTxCase config length s else s
  if s.bufferSendPointer = s.bufferSendPointerEnd then s.finish config drain else s

/-- `SPITFP_IRQ_TX_HANDLER` -/
def spitfpIrqTxHandler (config : SpitfpTxConfig) (drain : ℕ) (s : SpitfpSend) : SpitfpSend :=
  if config.memoryOptimized then spitfpIrqTxLoop config drain s
  else spitfpIrqTxUnrolled config drain s

/-! ### Runs -/

/-- What happens to the sender: an interrupt, or a byte leaves the FIFO. -/
inductive SpitfpTxEvent
  | interrupt (drain : ℕ)
  | shift

/-- The interrupt comes while its event is enabled; the hardware shifts bytes out. -/
def spitfpTxStep (config : SpitfpTxConfig) (s : SpitfpSend) : SpitfpTxEvent → Option SpitfpSend
  | .interrupt drain => if s.event then some (spitfpIrqTxHandler config drain s) else none
  | .shift =>
    match s.txFifo with
    | [] => none
    | x :: rest => some { s with txFifo := rest, wire := s.wire ++ [x] }

/-- What is left of the message: up to the end pointer, or with the byte it points to. -/
def SpitfpSend.message (config : SpitfpTxConfig) (s : SpitfpSend) : List UInt8 :=
  (List.range' s.bufferSendPointer (s.bufferSendPointerEnd - s.bufferSendPointer +
    if config.fixPointerEnd then 0 else 1)).map s.bufferSend

/-- The bytes that have been written, on their way or in the FIFO. -/
def SpitfpSend.written (s : SpitfpSend) : List UInt8 := s.wire ++ s.txFifo

/-- A message is on its way: bytes are left, not more than the unrolled handler can count. -/
structure SpitfpSend.Sending (config : SpitfpTxConfig) (s : SpitfpSend) : Prop where
  left : s.bufferSendPointer < s.bufferSendPointerEnd
  toSend : s.bufferSendPointerEnd - s.bufferSendPointer ≤ 255
  level : s.txFifo.length ≤ config.txSize.words

variable {config : SpitfpTxConfig} {s t : SpitfpSend} {drain n : ℕ}

/-! ### A byte -/

theorem words_pos (size : SpitfpTxSize) : 0 < size.words := by cases size <;> decide

theorem words_le (size : SpitfpTxSize) : size.words ≤ 32 := by cases size <;> decide

theorem txFifo_write (h : s.txFifo.length < config.txSize.words) :
    (s.write config).txFifo = s.txFifo ++ [s.bufferSend s.bufferSendPointer] := by
  rw [SpitfpSend.write]
  exact if_pos h

theorem txFifo_writeNext (h : s.txFifo.length < config.txSize.words) :
    (s.writeNext config).txFifo = s.txFifo ++ [s.bufferSend s.bufferSendPointer] :=
  txFifo_write h

theorem bufferSendPointer_writeNext :
    (s.writeNext config).bufferSendPointer = s.bufferSendPointer + 1 := rfl

theorem bufferSendPointerEnd_writeNext :
    (s.writeNext config).bufferSendPointerEnd = s.bufferSendPointerEnd := rfl

/-! ### The handlers agree -/

/-- The bytes of an interrupt: all that are left, or as many as fit. -/
def SpitfpSend.length (config : SpitfpTxConfig) (s : SpitfpSend) : ℕ :=
  min (s.bufferSendPointerEnd - s.bufferSendPointer) (config.txSize.words - s.txFifo.length)

/-- What both handlers do. -/
def SpitfpSend.transmit (config : SpitfpTxConfig) (drain : ℕ) (s : SpitfpSend) : SpitfpSend :=
  let s := spitfpIrqTxCase config (s.length config) s
  if s.bufferSendPointer = s.bufferSendPointerEnd then s.finish config drain else s

theorem length_writeNext (hspace : s.txFifo.length < config.txSize.words) :
    (s.writeNext config).length config = s.length config - 1 := by
  unfold SpitfpSend.length
  rw [txFifo_writeNext hspace, bufferSendPointer_writeNext, bufferSendPointerEnd_writeNext,
    List.length_append, List.length_singleton]
  omega

/-- The loop writes byte by byte, and leaves when the FIFO is full or the message at its end. -/
theorem spitfpIrqTxLoop_eq (hleft : s.bufferSendPointer < s.bufferSendPointerEnd) :
    spitfpIrqTxLoop config drain s = s.transmit config drain := by
  induction hn : s.length config generalizing s with
  | zero =>
    have hfull : ¬ s.txFifo.length < config.txSize.words := by
      unfold SpitfpSend.length at hn
      omega
    rw [spitfpIrqTxLoop, if_neg hfull, SpitfpSend.transmit, hn]
    exact (if_neg hleft.ne).symm
  | succ n ih =>
    have hspace : s.txFifo.length < config.txSize.words := by
      unfold SpitfpSend.length at hn
      omega
    have hnext : (s.writeNext config).length config = n := by
      rw [length_writeNext hspace, hn, Nat.add_sub_cancel]
    have hcase : spitfpIrqTxCase config (s.length config) s =
        spitfpIrqTxCase config ((s.writeNext config).length config) (s.writeNext config) := by
      rw [hn, hnext]
      rfl
    have htransmit : s.transmit config drain = (s.writeNext config).transmit config drain := by
      rw [SpitfpSend.transmit, hcase]
      rfl
    rw [spitfpIrqTxLoop, if_pos hspace, htransmit]
    by_cases hend : (s.writeNext config).bufferSendPointer =
        (s.writeNext config).bufferSendPointerEnd
    · have hzero : (s.writeNext config).length config = 0 := by
        unfold SpitfpSend.length
        omega
      rw [if_pos hend, SpitfpSend.transmit, hzero]
      exact (if_pos hend).symm
    · rw [if_neg hend]
      refine ih ?_ hnext
      rw [bufferSendPointer_writeNext, bufferSendPointerEnd_writeNext] at hend ⊢
      omega

/-- Nothing is lost in 8 bits. -/
theorem spitfpIrqTxUnrolled_eq (h : s.Sending config) :
    spitfpIrqTxUnrolled config drain s = s.transmit config drain := by
  have hwords := words_le config.txSize
  have hleft := h.left
  have htoSend := h.toSend
  have hlevel := h.level
  have hlength : min (((s.bufferSendPointerEnd : ℤ) - s.bufferSendPointer) % 256).toNat
      (((config.txSize.words : ℤ) - s.txFifo.length) % 256).toNat = s.length config := by
    unfold SpitfpSend.length
    omega
  have hcase : s.length config ≤ config.txSize.words := by
    unfold SpitfpSend.length
    omega
  rw [spitfpIrqTxUnrolled, hlength, if_pos hcase]
  rfl

theorem spitfpIrqTxHandler_eq (h : s.Sending config) :
    spitfpIrqTxHandler config drain s = s.transmit config drain := by
  unfold spitfpIrqTxHandler
  split_ifs
  · exact spitfpIrqTxLoop_eq h.left
  · exact spitfpIrqTxUnrolled_eq h

/-! ### What is written -/

/-- What has been written, and what is left of the message. -/
def SpitfpSend.total (config : SpitfpTxConfig) (s : SpitfpSend) : List UInt8 :=
  s.written ++ s.message config

theorem message_succ (hleft : s.bufferSendPointer < s.bufferSendPointerEnd) :
    s.message config = s.bufferSend s.bufferSendPointer :: (s.writeNext config).message config := by
  unfold SpitfpSend.message
  rw [bufferSendPointer_writeNext, bufferSendPointerEnd_writeNext]
  have hcount : s.bufferSendPointerEnd - s.bufferSendPointer + (if config.fixPointerEnd then 0 else 1) =
      s.bufferSendPointerEnd - (s.bufferSendPointer + 1) + (if config.fixPointerEnd then 0 else 1) + 1 := by
    omega
  rw [hcount, List.range'_succ, List.map_cons]
  rfl

/-- A byte goes from the message to the FIFO. -/
theorem total_writeNext (hleft : s.bufferSendPointer < s.bufferSendPointerEnd)
    (hspace : s.txFifo.length < config.txSize.words) :
    (s.writeNext config).total config = s.total config := by
  have hwire : (s.writeNext config).wire = s.wire := rfl
  unfold SpitfpSend.total SpitfpSend.written
  rw [message_succ hleft, hwire, txFifo_writeNext hspace, List.append_assoc, List.append_assoc,
    List.append_assoc]
  rfl

/-- The unrolled copy writes bytes of the message while there is space. -/
theorem case_total (hn : n ≤ s.length config) :
    (spitfpIrqTxCase config n s).total config = s.total config ∧
      (spitfpIrqTxCase config n s).bufferSendPointer = s.bufferSendPointer + n ∧
      (spitfpIrqTxCase config n s).bufferSendPointerEnd = s.bufferSendPointerEnd ∧
      (spitfpIrqTxCase config n s).txFifo.length = s.txFifo.length + n ∧
      (spitfpIrqTxCase config n s).event = s.event := by
  induction n generalizing s with
  | zero => exact ⟨rfl, rfl, rfl, rfl, rfl⟩
  | succ n ih =>
    have hleft : s.bufferSendPointer < s.bufferSendPointerEnd := by
      unfold SpitfpSend.length at hn
      omega
    have hspace : s.txFifo.length < config.txSize.words := by
      unfold SpitfpSend.length at hn
      omega
    have hnext : n ≤ (s.writeNext config).length config := by
      rw [length_writeNext hspace]
      omega
    obtain ⟨htotal, hpointer, hend, hlevel, hevent⟩ := ih hnext
    rw [spitfpIrqTxCase]
    refine ⟨htotal.trans (total_writeNext hleft hspace), ?_, hend, ?_, hevent⟩
    · rw [hpointer, bufferSendPointer_writeNext]
      omega
    · rw [hlevel, txFifo_writeNext hspace, List.length_append, List.length_singleton]
      omega

theorem written_waitForSpace : (s.waitForSpace config drain).written = s.written := by
  unfold SpitfpSend.waitForSpace
  split_ifs
  · rfl
  · unfold SpitfpSend.written
    rw [List.append_assoc, List.take_append_drop]

theorem length_waitForSpace (hlevel : s.txFifo.length ≤ config.txSize.words) :
    (s.waitForSpace config drain).txFifo.length < config.txSize.words := by
  have hpos := words_pos config.txSize
  unfold SpitfpSend.waitForSpace
  split_ifs with hspace
  · exact hspace
  · rw [List.length_drop]
    omega

/-- At the end everything has been written, the last byte too. -/
theorem finish_written (hend : s.bufferSendPointer = s.bufferSendPointerEnd)
    (hlevel : s.txFifo.length ≤ config.txSize.words) :
    (s.finish config drain).written = s.total config := by
  have hack (x : SpitfpSend) : (if x.bufferSendPointerEnd = bufferSendPointerProtocolOverheadEnd config
      then { x with bufferSendPointerEnd := 0 } else x).written = x.written := by
    split_ifs <;> rfl
  unfold SpitfpSend.finish SpitfpSend.total
  show (if _ then _ else _ : SpitfpSend).written = _
  rw [hack]
  cases hfix : config.fixPointerEnd with
  | true =>
    rw [if_pos rfl, SpitfpSend.message, hfix, hend, Nat.sub_self]
    exact (List.append_nil _).symm
  | false =>
    have hspace : (s.waitForSpace config drain).txFifo.length < config.txSize.words :=
      length_waitForSpace hlevel
    have hbyte : (s.waitForSpace config drain).bufferSend (s.waitForSpace config drain).bufferSendPointer =
        s.bufferSend s.bufferSendPointer := by
      unfold SpitfpSend.waitForSpace
      split_ifs <;> rfl
    have hwire : ((s.waitForSpace config drain).write config).wire =
        (s.waitForSpace config drain).wire := rfl
    rw [if_neg (by decide), SpitfpSend.written, hwire, txFifo_write hspace, hbyte,
      ← List.append_assoc, ← SpitfpSend.written, written_waitForSpace, SpitfpSend.message, hfix, hend,
      Nat.sub_self]
    rfl

/-! ### Messages -/

/-- `total` is on its way, or has been written. -/
def SpitfpSend.Carries (config : SpitfpTxConfig) (total : List UInt8) (s : SpitfpSend) : Prop :=
  s.event = true ∧ s.Sending config ∧ s.total config = total ∨
    s.event = false ∧ s.written = total

theorem carries_transmit (hevent : s.event = true) (h : s.Sending config) :
    (s.transmit config drain).Carries config (s.total config) := by
  obtain ⟨htotal, hpointer, hend, hlevel, hevent'⟩ := case_total (le_refl (s.length config))
  have hlength : s.length config = min (s.bufferSendPointerEnd - s.bufferSendPointer)
    (config.txSize.words - s.txFifo.length) := rfl
  have hleft := h.left
  have htoSend := h.toSend
  have hle := h.level
  unfold SpitfpSend.transmit
  dsimp only
  split_ifs with hdone
  · refine Or.inr ⟨rfl, ?_⟩
    rw [finish_written hdone (by omega), htotal]
  · exact Or.inl ⟨hevent'.trans hevent, ⟨by omega, by omega, by omega⟩, htotal⟩

theorem Carries.step {total : List UInt8} {e : SpitfpTxEvent} (h : s.Carries config total)
    (hs : spitfpTxStep config s e = some t) : t.Carries config total := by
  cases e with
  | interrupt drain =>
    obtain ⟨hevent, hsending, rfl⟩ | ⟨hevent, -⟩ := h
    · rw [spitfpTxStep, if_pos hevent] at hs
      obtain rfl := Option.some.inj hs
      rw [spitfpIrqTxHandler_eq hsending]
      exact carries_transmit hevent hsending
    · rw [spitfpTxStep, if_neg (by rw [hevent]; decide)] at hs
      cases hs
  | shift =>
    rcases hfifo : s.txFifo with - | ⟨x, rest⟩
    · rw [spitfpTxStep, hfifo] at hs
      cases hs
    rw [spitfpTxStep, hfifo] at hs
    obtain rfl := Option.some.inj hs
    have hwritten : s.wire ++ [x] ++ rest = s.written := by
      rw [SpitfpSend.written, hfifo, List.append_assoc]
      rfl
    obtain ⟨hevent, hsending, htotal⟩ | ⟨hevent, htotal⟩ := h
    · have hlevel := hsending.level
      rw [hfifo, List.length_cons] at hlevel
      refine Or.inl ⟨hevent, ⟨hsending.left, hsending.toSend, Nat.le_of_succ_le hlevel⟩, ?_⟩
      rw [← htotal, SpitfpSend.total, SpitfpSend.total, ← hwritten]
      rfl
    · exact Or.inr ⟨hevent, hwritten.trans htotal⟩

/-- **Transmit interrupts**: the two handlers leave the same FIFO and the same pointers, and
when the handler has disabled its event, exactly the bytes of the message have been written,
in order. -/
theorem spitfpIrqTx_agree (h : s.Sending config) :
    (∀ drain, spitfpIrqTxLoop config drain s = spitfpIrqTxUnrolled config drain s) ∧
    ∀ es t, s.event = true → run (spitfpTxStep config) s es = some t → t.event = false →
      t.written = s.written ++ s.message config := by
  refine ⟨fun drain => ?_, fun es t hevent hr hdone => ?_⟩
  · rw [spitfpIrqTxLoop_eq h.left, spitfpIrqTxUnrolled_eq h]
  · have hcarries : t.Carries config (s.total config) :=
      run_induct (fun _ _ _ hu hs => Carries.step hu hs) (Or.inl ⟨hevent, h, rfl⟩) hr
    obtain ⟨hevent', -⟩ | ⟨-, hwritten⟩ := hcarries
    · rw [hevent'] at hdone
      cases hdone
    · exact hwritten

/-- An ACK of three bytes through a FIFO of two, with the end pointer one short. -/
theorem spitfpIrqTx_ack :
    ∃ t, run (spitfpTxStep ⟨.words2, false, false⟩)
        ⟨fun i => UInt8.ofNat (i + 1), 0, 2, [], [], true⟩ [.interrupt 0, .shift, .shift] = some t ∧
      t.bufferSendPointerEnd = 0 ∧ t.written = [1, 2, 3] := by
  have hsending : SpitfpSend.Sending ⟨.words2, false, false⟩
      ⟨fun i => UInt8.ofNat (i + 1), 0, 2, [], [], true⟩ :=
    ⟨by decide, by decide, by decide⟩
  exact ⟨_, rfl, rfl, (spitfpIrqTx_agree hsending).2 [.interrupt 0, .shift, .shift] _ rfl rfl rfl⟩

end Bricklib2
