/-
Bricklib2/Hal/I2cFifo.lean

I2C transfers from cooperative tasks (i2c_fifo.c with I2C_FIFO_COOP_USE_MUTEX).  A call
writes all commands of a transfer to the TX FIFO and then polls, with a yield after each
poll, until the state machine is in one particular state or in an error state.

Two kinds of calls never get there.  A write without a stop leaves the state as it was,
because a read is meant to follow that sets it; and the loop over a 16-bit counter does
not end for reads of more than 65536 bytes.

Main result: `i2cFifoCoop_returns_iff`, all other calls return and release the mutex.
-/
import Bricklib2.Hal.SystemTimer
import Bricklib2.Library.Program
import Mathlib.Data.UInt

namespace Bricklib2

open Program

/-! ### Hardware -/

/-- What a call finds: the status flags and FIFO levels at each poll, the bytes that the
receive FIFO then gives, and the clock at the start and at each poll, which goes on with
each yield and does not make a full turn. -/
structure I2CEnv where
  statusFlag : ℕ → UInt32
  txFifoIsEmpty : ℕ → Bool
  rxFifoLevel : ℕ → ℕ
  rxFifo : ℕ → List UInt8
  start : ℕ
  clock : ℕ → ℕ
  clock_lt : ∀ p, clock p < clock (p + 1)
  clock_step : ∀ p, clock (p + 1) ≤ clock p + (2 ^ 32 - 10)

/-- Constants of the peripheral: the status flags that are errors, taken together, the one
for lost data, and the bit for reading. -/
structure I2CConfig where
  errorFlags : UInt32
  dataLostIndication : UInt32
  cmdRead : ℕ
  regSize : ℕ

/-- `I2C_FIFO_TIMEOUT` -/
def i2cFifoTimeout : ℕ := 10

/-- `I2C_FIFO_STATUS_TIMEOUT` -/
def i2cFifoStatusTimeout : UInt32 := 0xFFFFFFFF

/-- `I2C_FIFO_STATUS_MUTEX` -/
def i2cFifoStatusMutex : UInt32 := 0xFFFFFFFE

/-! ### State -/

/-- `I2C_FIFO_STATE_READY` and `I2C_FIFO_STATE_ERROR`; 0 is `I2C_FIFO_STATE_IDLE`. -/
def i2cFifoStateReady : UInt8 := (1 : UInt8) <<< 6

/-- The bit of a state that has failed. -/
def i2cFifoStateError : UInt8 := (1 : UInt8) <<< 7

/-- `I2C_FIFO_STATE_WRITE_REGISTER` -/
def i2cFifoStateWriteRegister : UInt8 := (1 : UInt8) <<< 0

/-- `I2C_FIFO_STATE_WRITE_DIRECT` -/
def i2cFifoStateWriteDirect : UInt8 := (1 : UInt8) <<< 1

/-- `I2C_FIFO_STATE_READ_REGISTER` -/
def i2cFifoStateReadRegister : UInt8 := (1 : UInt8) <<< 2

/-- `I2C_FIFO_STATE_READ_DIRECT` -/
def i2cFifoStateReadDirect : UInt8 := (1 : UInt8) <<< 3

/-- The bus as the driver keeps it. -/
structure I2CFifo where
  address : UInt8
  expectedFifoLevel : UInt8
  state : UInt8
  i2cStatus : UInt32
  lastActivity : ℕ
  mutex : Bool

/-- The driver in a call, with the words that have gone to the TX FIFO, the bytes that have
been read, the counter of its `for` loops and the number of yields. -/
structure I2CCall where
  fifo : I2CFifo
  tx : List ℕ
  data : List UInt8
  i : UInt16
  yields : ℕ

/-- `i2c_fifo_ready_or_idle` -/
def I2CFifo.readyOrIdle (f : I2CFifo) : Bool := f.state == 0 || f.state &&& i2cFifoStateReady != 0

/-! ### The state machine -/

/-- The cases of `i2c_fifo_next_state` at poll `p`; `done` is the test of the FIFO. -/
def I2CFifo.poll (c : I2CConfig) (env : I2CEnv) (p : ℕ) (isRead done : Bool) (f : I2CFifo) :
    I2CFifo :=
  let f := { f with i2cStatus := env.statusFlag p }
  if f.i2cStatus &&& c.errorFlags ≠ 0 then
    { f with
      expectedFifoLevel := if isRead then 0 else f.expectedFifoLevel
      state := f.state ||| i2cFifoStateError }
  else if done then
    { f with
      expectedFifoLevel := if isRead then 0 else f.expectedFifoLevel
      state := f.state ||| i2cFifoStateReady }
  else if systemTimerIsTimeElapsedMs (env.clock p) f.lastActivity i2cFifoTimeout then
    { f with state := f.state ||| i2cFifoStateError, i2cStatus := i2cFifoStatusTimeout }
  else
    f

/-- `i2c_fifo_next_state` -/
def I2CFifo.nextState (c : I2CConfig) (env : I2CEnv) (p : ℕ) (f : I2CFifo) : I2CFifo :=
  if f.state = i2cFifoStateWriteRegister ∨ f.state = i2cFifoStateWriteDirect then
    f.poll c env p false (env.txFifoIsEmpty p)
  else if f.state = i2cFifoStateReadRegister ∨ f.state = i2cFifoStateReadDirect then
    f.poll c env p true (f.expectedFifoLevel.toNat ≤ env.rxFifoLevel p)
  else
    f

/-! ### Starting a transfer -/

/-- A change of the bus in the course of a call. -/
def modifyFifo (g : I2CFifo → I2CFifo) : Program I2CCall Unit :=
  modify fun s => { s with fifo := g s.fifo }

/-- `i2c_fifo->i2c->IN[0] = word` -/
def sendWord (word : ℕ) : Program I2CCall Unit := modify fun s => { s with tx := s.tx ++ [word] }

/-- `for(uint16_t i = 0; i < bound; i++) IN[0] = word(i)` -/
def sendWords (bound : ℕ) (word : ℕ → ℕ) : Program I2CCall Unit := do
  modify fun s => { s with i := 0 }
  loop (state fun s =>
    if s.i.toNat < bound then (none, { s with tx := s.tx ++ [word s.i.toNat], i := s.i + 1 })
    else (some (), s))

/-- `XMC_I2C_CH_TDF_t` -/
def tdfMasterReceiveAck : ℕ := 2 <<< 8

/-- Receive a byte, with a NACK. -/
def tdfMasterReceiveNack : ℕ := 3 <<< 8

/-- A start condition with the address. -/
def tdfMasterStart : ℕ := 4 <<< 8

/-- A repeated start condition with the address. -/
def tdfMasterRestart : ℕ := 5 <<< 8

/-- A stop condition. -/
def tdfMasterStop : ℕ := 6 <<< 8

/-- The register, high byte first where it has two. -/
def sendRegister (c : I2CConfig) (reg : ℕ) : Program I2CCall Unit :=
  if c.regSize = 1 then sendWord (0 ||| reg)
  else do
    sendWord (0 ||| (reg >>> 8))
    sendWord (0 ||| (reg &&& 0xFF))

/-- What `i2c_fifo_write_register` and `i2c_fifo_write_direct` have in common; `own` is the
state of the function and `register` what it sends in front of the data. -/
def i2cFifoWrite (env : I2CEnv) (own : UInt8) (register : Program I2CCall Unit) (length : UInt16)
    (data : List UInt8) (sendStop : Bool) : Program I2CCall Unit := do
  let s ← get
  if !s.fifo.readyOrIdle then
    modifyFifo fun f => { f with state := own ||| i2cFifoStateError }
  else do
    modifyFifo fun f => { f with
      lastActivity := systemTimerGetMs env.start
      state := if sendStop then own else f.state }
    sendWord ((s.fifo.address.toNat <<< 1) ||| tdfMasterStart)
    register
    sendWords length.toNat fun i => (data.getD i 0).toNat
    if sendStop then sendWord tdfMasterStop else pure ()

/-- `i2c_fifo_write_register` -/
def i2cFifoWriteRegister (c : I2CConfig) (env : I2CEnv) (reg : ℕ) (length : UInt16)
    (data : List UInt8) (sendStop : Bool) : Program I2CCall Unit :=
  i2cFifoWrite env i2cFifoStateWriteRegister (sendRegister c reg) length data sendStop

/-- `i2c_fifo_write_direct` -/
def i2cFifoWriteDirect (env : I2CEnv) (length : UInt16) (data : List UInt8) (sendStop : Bool) :
    Program I2CCall Unit :=
  i2cFifoWrite env i2cFifoStateWriteDirect (pure ()) length data sendStop

/-- `I2C Master send ACK/NACK`: the last byte gets the NACK. -/
def sendReceives (length : UInt32) : Program I2CCall Unit :=
  if length ≠ 0 then do
    sendWords (length - 1).toNat fun _ => tdfMasterReceiveAck
    sendWord tdfMasterReceiveNack
  else
    pure ()

/-- What `i2c_fifo_read_register` and `i2c_fifo_read_direct` have in common. -/
def i2cFifoRead (c : I2CConfig) (env : I2CEnv) (own : UInt8) (condition : ℕ) (length : UInt32) :
    Program I2CCall Unit := do
  let s ← get
  if !s.fifo.readyOrIdle then
    modifyFifo fun f => { f with state := own ||| i2cFifoStateError }
  else do
    modifyFifo fun f => { f with
      lastActivity := systemTimerGetMs env.start
      state := own
      expectedFifoLevel := length.toUInt8 }
    sendWord (condition ||| c.cmdRead ||| (s.fifo.address.toNat <<< 1))
    sendReceives length
    sendWord tdfMasterStop

/-- `i2c_fifo_read_register` -/
def i2cFifoReadRegister (c : I2CConfig) (env : I2CEnv) (reg : ℕ) (length : UInt32) :
    Program I2CCall Unit := do
  i2cFifoWriteRegister c env reg 0 [] false
  i2cFifoRead c env i2cFifoStateReadRegister tdfMasterRestart length

/-- `i2c_fifo_read_direct` -/
def i2cFifoReadDirect (c : I2CConfig) (env : I2CEnv) (length : UInt32) (restart : Bool) :
    Program I2CCall Unit :=
  i2cFifoRead c env i2cFifoStateReadDirect (if restart then tdfMasterRestart else tdfMasterStart)
    length

/-- `i2c_fifo_read_fifo` at poll `p`: the bytes that the FIFO gives, `bufferLength` at most. -/
def i2cFifoReadFifo (env : I2CEnv) (p : ℕ) (bufferLength : UInt8) : List UInt8 :=
  (env.rxFifo p).take bufferLength.toNat

/-! ### Calls -/

/-- The mutex is given back. -/
def releaseMutex : Program I2CCall Unit := modifyFifo fun f => { f with mutex := false }

/-- One round of the loop of a call, which ends with `finish` in its `ready` state. -/
def i2cFifoCoopRound (c : I2CConfig) (env : I2CEnv) (ready : UInt8)
    (finish : Program I2CCall UInt32) : Program I2CCall (Option UInt32) := do
  modify fun s => { s with fifo := s.fifo.nextState c env s.yields }
  let s ← get
  if s.fifo.state &&& i2cFifoStateError ≠ 0 then do
    releaseMutex
    pure (some s.fifo.i2cStatus)
  else if s.fifo.state ≠ ready then do
    -- coop_task_yield
    modify fun s => { s with yields := s.yields + 1 }
    pure none
  else do
    let status ← finish
    pure (some status)

/-- The frame of the four calls. -/
def i2cFifoCoop (c : I2CConfig) (env : I2CEnv) (start : Program I2CCall Unit) (ready : UInt8)
    (finish : Program I2CCall UInt32) : Program I2CCall UInt32 := do
  let s ← get
  if s.fifo.mutex then
    pure i2cFifoStatusMutex
  else do
    modifyFifo fun f => { f with mutex := true }
    start
    loop (i2cFifoCoopRound c env ready finish)

/-- The end of a write. -/
def finishWrite : Program I2CCall UInt32 := do
  releaseMutex
  pure 0

/-- The end of a read; the buffer length has 8 bits. -/
def finishRead (c : I2CConfig) (env : I2CEnv) (length : UInt32) : Program I2CCall UInt32 := do
  let s ← get
  modify fun s => { s with data := i2cFifoReadFifo env s.yields length.toUInt8 }
  releaseMutex
  if (i2cFifoReadFifo env s.yields length.toUInt8).length ≠ length.toNat then
    pure c.dataLostIndication
  else
    pure 0

/-- `i2c_fifo_coop_read_register` -/
def i2cFifoCoopReadRegister (c : I2CConfig) (env : I2CEnv) (reg : ℕ) (length : UInt32) :
    Program I2CCall UInt32 :=
  i2cFifoCoop c env (i2cFifoReadRegister c env reg length)
    (i2cFifoStateReadRegister ||| i2cFifoStateReady) (finishRead c env length)

/-- `i2c_fifo_coop_write_register` -/
def i2cFifoCoopWriteRegister (c : I2CConfig) (env : I2CEnv) (reg : ℕ) (length : UInt32)
    (data : List UInt8) (sendStop : Bool) : Program I2CCall UInt32 :=
  i2cFifoCoop c env (i2cFifoWriteRegister c env reg length.toUInt16 data sendStop)
    (i2cFifoStateWriteRegister ||| i2cFifoStateReady) finishWrite

/-- `i2c_fifo_coop_read_direct` -/
def i2cFifoCoopReadDirect (c : I2CConfig) (env : I2CEnv) (length : UInt32) (restart : Bool) :
    Program I2CCall UInt32 :=
  i2cFifoCoop c env (i2cFifoReadDirect c env length restart)
    (i2cFifoStateReadDirect ||| i2cFifoStateReady) (finishRead c env length)

/-- `i2c_fifo_coop_write_direct` -/
def i2cFifoCoopWriteDirect (c : I2CConfig) (env : I2CEnv) (length : UInt32) (data : List UInt8)
    (sendStop : Bool) : Program I2CCall UInt32 :=
  i2cFifoCoop c env (i2cFifoWriteDirect env length.toUInt16 data sendStop)
    (i2cFifoStateWriteDirect ||| i2cFifoStateReady) finishWrite

/-- A call with its arguments. -/
inductive I2CRequest
  | readRegister (reg : ℕ) (length : UInt32)
  | writeRegister (reg : ℕ) (length : UInt32) (data : List UInt8) (sendStop : Bool)
  | readDirect (length : UInt32) (restart : Bool)
  | writeDirect (length : UInt32) (data : List UInt8) (sendStop : Bool)

/-- A request of a task, as the call that serves it. -/
def I2CRequest.call (c : I2CConfig) (env : I2CEnv) : I2CRequest → Program I2CCall UInt32
  | readRegister reg length => i2cFifoCoopReadRegister c env reg length
  | writeRegister reg length data sendStop => i2cFifoCoopWriteRegister c env reg length data sendStop
  | readDirect length restart => i2cFifoCoopReadDirect c env length restart
  | writeDirect length data sendStop => i2cFifoCoopWriteDirect c env length data sendStop

variable {c : I2CConfig} {env : I2CEnv} {f : I2CFifo} {s s' : I2CCall} {p : ℕ}
variable {own ready : UInt8} {finish : Program I2CCall UInt32}

/-! ### One poll -/

/-- The states that the state machine leaves. -/
def Active (state : UInt8) : Prop :=
  state = i2cFifoStateWriteRegister ∨ state = i2cFifoStateWriteDirect ∨
    state = i2cFifoStateReadRegister ∨ state = i2cFifoStateReadDirect

/-- What a poll does in an active state: an error, the end, or nothing yet. -/
structure Polled (env : I2CEnv) (p : ℕ) (f f' : I2CFifo) : Prop where
  lastActivity : f'.lastActivity = f.lastActivity
  state : f'.state = f.state ||| i2cFifoStateError ∨ f'.state = f.state ||| i2cFifoStateReady ∨
    f'.state = f.state ∧
      systemTimerIsTimeElapsedMs (env.clock p) f.lastActivity i2cFifoTimeout = false

theorem polled_poll (isRead done : Bool) : Polled env p f (f.poll c env p isRead done) := by
  unfold I2CFifo.poll
  dsimp only
  by_cases hflags : env.statusFlag p &&& c.errorFlags ≠ 0
  · rw [if_pos hflags]
    exact ⟨rfl, Or.inl rfl⟩
  rw [if_neg hflags]
  by_cases hdone : done = true
  · rw [if_pos hdone]
    exact ⟨rfl, Or.inr (Or.inl rfl)⟩
  rw [if_neg hdone]
  by_cases helapsed : systemTimerIsTimeElapsedMs (env.clock p) f.lastActivity i2cFifoTimeout = true
  · rw [if_pos helapsed]
    exact ⟨rfl, Or.inl rfl⟩
  · rw [if_neg helapsed]
    exact ⟨rfl, Or.inr (Or.inr ⟨rfl, Bool.eq_false_iff.mpr helapsed⟩)⟩

theorem polled_nextState (h : Active f.state) : Polled env p f (f.nextState c env p) := by
  unfold I2CFifo.nextState
  split_ifs with hwrite hread
  · exact polled_poll ..
  · exact polled_poll ..
  · exact absurd h (by rw [Active, ← or_assoc]; exact not_or.mpr ⟨hwrite, hread⟩)

theorem nextState_eq_self (h : ¬ Active f.state) : f.nextState c env p = f := by
  rw [Active, ← or_assoc, not_or] at h
  rw [I2CFifo.nextState, if_neg h.1, if_neg h.2]

/-! ### One round -/

/-- The end of a call releases the mutex. -/
def Finishes (finish : Program I2CCall UInt32) : Prop :=
  ∀ s, ∃ v s', finish.Returns s (v, s') ∧ s'.fifo.mutex = false

theorem finishes_finishWrite : Finishes finishWrite := fun s =>
  ⟨0, { s with fifo := { s.fifo with mutex := false } },
    returns_bind.mpr ⟨(), _, returns_state.mpr rfl, returns_pure.mpr rfl⟩, rfl⟩

theorem finishes_finishRead (length : UInt32) : Finishes (finishRead c env length) := by
  intro s
  refine ⟨if (i2cFifoReadFifo env s.yields length.toUInt8).length ≠ length.toNat then
      c.dataLostIndication else 0, { s with
        data := i2cFifoReadFifo env s.yields length.toUInt8
        fifo := { s.fifo with mutex := false } }, ?_, rfl⟩
  refine returns_bind.mpr ⟨s, s, returns_get, returns_bind.mpr ⟨(), _, returns_state.mpr rfl,
    returns_bind.mpr ⟨(), _, returns_state.mpr rfl, ?_⟩⟩⟩
  split_ifs
  · exact returns_pure.mpr rfl
  · exact returns_pure.mpr rfl

/-- The state after the poll of a round. -/
def I2CCall.polled (c : I2CConfig) (env : I2CEnv) (s : I2CCall) : I2CCall :=
  { s with fifo := s.fifo.nextState c env s.yields }

/-- A round is a poll, and what its state decides. -/
theorem round_returns_iff {r : Option UInt32 × I2CCall} :
    (i2cFifoCoopRound c env ready finish).Returns s r ↔
      (if (s.polled c env).fifo.state &&& i2cFifoStateError ≠ 0 then do
        releaseMutex
        pure (some (s.polled c env).fifo.i2cStatus)
      else if (s.polled c env).fifo.state ≠ ready then do
        modify fun s => { s with yields := s.yields + 1 }
        pure none
      else do
        let status ← finish
        pure (some status) : Program I2CCall (Option UInt32)).Returns (s.polled c env) r := by
  rw [i2cFifoCoopRound, returns_bind]
  constructor
  · rintro ⟨_, u, hu, hr⟩
    obtain ⟨-, rfl⟩ := Prod.mk.inj (returns_state.mp hu)
    obtain ⟨a, v, hv, hr⟩ := returns_bind.mp hr
    obtain ⟨rfl, rfl⟩ := Prod.mk.inj (returns_state.mp hv)
    exact hr
  · intro hr
    exact ⟨(), s.polled c env, returns_state.mpr rfl, returns_bind.mpr ⟨_, _, returns_get, hr⟩⟩

/-- An error ends the call. -/
theorem round_of_error (h : (s.polled c env).fifo.state &&& i2cFifoStateError ≠ 0) :
    ∃ v s', (i2cFifoCoopRound c env ready finish).Returns s (some v, s') ∧
      s'.fifo.mutex = false := by
  refine ⟨(s.polled c env).fifo.i2cStatus, { s.polled c env with
    fifo := { (s.polled c env).fifo with mutex := false } }, round_returns_iff.mpr ?_, rfl⟩
  rw [if_pos h]
  exact returns_bind.mpr ⟨(), _, returns_state.mpr rfl, returns_pure.mpr rfl⟩

/-- Any other state than the one that is waited for costs a yield. -/
theorem round_of_other (h : (s.polled c env).fifo.state &&& i2cFifoStateError = 0)
    (hready : (s.polled c env).fifo.state ≠ ready) :
    (i2cFifoCoopRound c env ready finish).Returns s
      (none, { s.polled c env with yields := s.yields + 1 }) := by
  refine round_returns_iff.mpr ?_
  rw [if_neg (not_not.mpr h), if_pos hready]
  exact returns_bind.mpr ⟨(), _, returns_state.mpr rfl, returns_pure.mpr rfl⟩

theorem round_of_ready (hfinish : Finishes finish)
    (h : (s.polled c env).fifo.state &&& i2cFifoStateError = 0)
    (hready : (s.polled c env).fifo.state = ready) :
    ∃ v s', (i2cFifoCoopRound c env ready finish).Returns s (some v, s') ∧
      s'.fifo.mutex = false := by
  obtain ⟨v, s', hreturns, hmutex⟩ := hfinish (s.polled c env)
  refine ⟨v, s', round_returns_iff.mpr ?_, hmutex⟩
  rw [if_neg (not_not.mpr h), if_neg (not_not.mpr hready)]
  exact returns_bind.mpr ⟨v, s', hreturns, returns_pure.mpr rfl⟩

/-! ### The loop -/

/-- How the bits of an active state go together with those for the end. -/
theorem Active.bits (h : Active own) :
    own &&& i2cFifoStateError = 0 ∧ own &&& i2cFifoStateReady = 0 ∧ own ≠ 0 ∧
      (own ||| i2cFifoStateError) &&& i2cFifoStateError ≠ 0 ∧
      (own ||| i2cFifoStateReady) &&& i2cFifoStateError = 0 ∧
      own ≠ own ||| i2cFifoStateReady := by
  rcases h with rfl | rfl | rfl | rfl <;> decide

/-- Milliseconds since `lastActivity`, as the code sees them. -/
def I2CEnv.elapsed (env : I2CEnv) (lastActivity p : ℕ) : ℕ :=
  (systemTimerGetMs (env.clock p) + 2 ^ 32 - lastActivity % 2 ^ 32) % 2 ^ 32

theorem elapsed_eq_false_iff {lastActivity : ℕ} :
    systemTimerIsTimeElapsedMs (env.clock p) lastActivity i2cFifoTimeout = false ↔
      env.elapsed lastActivity p < i2cFifoTimeout := by
  rw [systemTimerIsTimeElapsedMs, decide_eq_false_iff_not, not_le]
  rfl

/-- Each yield brings the timeout nearer. -/
theorem elapsed_succ {lastActivity : ℕ} (h : env.elapsed lastActivity p < i2cFifoTimeout) :
    i2cFifoTimeout - env.elapsed lastActivity (p + 1) <
      i2cFifoTimeout - env.elapsed lastActivity p := by
  have hlt := env.clock_lt p
  have hstep := env.clock_step p
  have htimeout : i2cFifoTimeout = 10 := rfl
  unfold I2CEnv.elapsed systemTimerGetMs at *
  omega

/-- The state of a call that is running ends in the state that is waited for, or in an error. -/
theorem loop_of_active (hfinish : Finishes finish) (h : Active own) (hs : s.fifo.state = own) :
    ∃ v s', (loop (i2cFifoCoopRound c env (own ||| i2cFifoStateReady) finish)).Returns s (v, s') ∧
      s'.fifo.mutex = false := by
  obtain ⟨hnoError, -, -, herror, hready, hne⟩ := h.bits
  refine returns_loop
    (I := fun u : I2CCall => u.fifo.state = own ∧ u.fifo.lastActivity = s.fifo.lastActivity)
    (Q := fun _ u => u.fifo.mutex = false)
    (fun u => i2cFifoTimeout - env.elapsed s.fifo.lastActivity u.yields) ?_ ⟨hs, rfl⟩
  rintro u ⟨hu, hlast⟩
  have hpolled : Polled env u.yields u.fifo (u.polled c env).fifo :=
    polled_nextState (hu.symm ▸ h)
  obtain hstate | hstate | ⟨hstate, helapsed⟩ := hpolled.state
  · have hpolledError : (u.polled c env).fifo.state &&& i2cFifoStateError ≠ 0 := by
      rw [hstate, hu]
      exact herror
    obtain ⟨v, u', hreturns, hmutex⟩ := round_of_error hpolledError
    exact ⟨some v, u', hreturns, hmutex⟩
  · have hpolledReady : (u.polled c env).fifo.state = own ||| i2cFifoStateReady := by
      rw [hstate, hu]
    obtain ⟨v, u', hreturns, hmutex⟩ :=
      round_of_ready hfinish (by rw [hpolledReady]; exact hready) hpolledReady
    exact ⟨some v, u', hreturns, hmutex⟩
  · -- one more yield
    have hown : (u.polled c env).fifo.state = own := hstate.trans hu
    rw [elapsed_eq_false_iff, hlast] at helapsed
    refine ⟨none, _, round_of_other (by rw [hown]; exact hnoError) (by rw [hown]; exact hne),
      ⟨hown, hpolled.lastActivity.trans hlast⟩, elapsed_succ helapsed⟩

/-- An error that is there from the start ends the call at the first poll. -/
theorem loop_of_error (h : s.fifo.state &&& i2cFifoStateError ≠ 0) :
    ∃ v s', (loop (i2cFifoCoopRound c env ready finish)).Returns s (v, s') ∧
      s'.fifo.mutex = false := by
  have hactive : ¬ Active s.fifo.state := fun hactive => h hactive.bits.1
  have hpolled : (s.polled c env).fifo.state &&& i2cFifoStateError ≠ 0 := by
    rw [I2CCall.polled, nextState_eq_self hactive]
    exact h
  obtain ⟨v, s', hreturns, hmutex⟩ := round_of_error hpolled
  exact ⟨v, s', returns_loop_of_some hreturns, hmutex⟩

theorem loop_of_ready (hfinish : Finishes finish) (hactive : ¬ Active s.fifo.state)
    (h : s.fifo.state &&& i2cFifoStateError = 0) (hready : s.fifo.state = ready) :
    ∃ v s', (loop (i2cFifoCoopRound c env ready finish)).Returns s (v, s') ∧
      s'.fifo.mutex = false := by
  have hpolled : (s.polled c env).fifo = s.fifo := nextState_eq_self hactive
  have hpolledReady : (s.polled c env).fifo.state = ready := by rw [hpolled, hready]
  obtain ⟨v, s', hreturns, hmutex⟩ :=
    round_of_ready hfinish (by rw [hpolled]; exact h) hpolledReady
  exact ⟨v, s', returns_loop_of_some hreturns, hmutex⟩

/-- A state that is not active, no error and not the one that is waited for stays for ever. -/
theorem loop_of_other (hactive : ¬ Active s.fifo.state)
    (h : s.fifo.state &&& i2cFifoStateError = 0) (hready : s.fifo.state ≠ ready) :
    ¬ (loop (i2cFifoCoopRound c env ready finish)).Terminates s := by
  refine not_terminates_loop (I := fun u => u.fifo = s.fifo) (fun u hu => ?_) rfl
  have hpolled : (u.polled c env).fifo = s.fifo := by
    rw [I2CCall.polled, hu]
    exact nextState_eq_self hactive
  exact ⟨_, round_of_other (by rw [hpolled]; exact h) (by rw [hpolled]; exact hready), hpolled⟩

/-! ### The start functions -/

/-- The program returns, and leaves the driver as it is. -/
def KeepsFifo (q : Program I2CCall Unit) : Prop :=
  ∀ s, ∃ s', q.Returns s ((), s') ∧ s'.fifo = s.fifo

variable {q q' : Program I2CCall Unit} {bound : ℕ} {word : ℕ → ℕ}

theorem keepsFifo_pure : KeepsFifo (pure ()) := fun s => ⟨s, returns_pure.mpr rfl, rfl⟩

theorem keepsFifo_sendWord (w : ℕ) : KeepsFifo (sendWord w) := fun s =>
  ⟨{ s with tx := s.tx ++ [w] }, returns_state.mpr rfl, rfl⟩

theorem KeepsFifo.andThen (h : KeepsFifo q) (h' : KeepsFifo q') :
    KeepsFifo (q >>= fun _ => q') := by
  intro s
  obtain ⟨u, hu, hfifo⟩ := h s
  obtain ⟨s', hs', hfifo'⟩ := h' u
  exact ⟨s', returns_bind.mpr ⟨(), u, hu, hs'⟩, hfifo'.trans hfifo⟩

theorem keepsFifo_sendRegister (reg : ℕ) : KeepsFifo (sendRegister c reg) := by
  unfold sendRegister
  split_ifs
  · exact keepsFifo_sendWord _
  · exact (keepsFifo_sendWord _).andThen (keepsFifo_sendWord _)

theorem uint16_succ {i : UInt16} (h : i.toNat < 65535) : (i + 1).toNat = i.toNat + 1 := by
  rw [UInt16.toNat_add]
  exact Nat.mod_eq_of_lt (by omega : i.toNat + 1 < 2 ^ 16)

/-- A bound of 16 bits is reached. -/
theorem keepsFifo_sendWords (h : bound ≤ 65535) : KeepsFifo (sendWords bound word) := by
  intro s
  have hloop : ∃ (a : Unit) (s' : I2CCall), (loop (state fun s : I2CCall =>
      if s.i.toNat < bound then
        ((none : Option Unit), { s with tx := s.tx ++ [word s.i.toNat], i := s.i + 1 })
      else (some (), s))).Returns { s with i := 0 } (a, s') ∧ s'.fifo = s.fifo := by
    refine returns_loop (I := fun u : I2CCall => u.fifo = s.fifo)
      (Q := fun _ u => u.fifo = s.fifo) (fun u => bound - u.i.toNat) (fun u hu => ?_) rfl
    by_cases hlt : u.i.toNat < bound
    · refine ⟨none, _, returns_state.mpr (if_pos hlt), hu, ?_⟩
      have hsucc := uint16_succ (i := u.i) (by omega)
      show bound - (u.i + 1).toNat < bound - u.i.toNat
      omega
    · exact ⟨some (), u, returns_state.mpr (if_neg hlt), hu⟩
  obtain ⟨_, s', hs', hfifo⟩ := hloop
  exact ⟨s', returns_bind.mpr ⟨(), { s with i := 0 }, returns_state.mpr rfl, hs'⟩, hfifo⟩

/-- A larger one is not. -/
theorem not_terminates_sendWords (h : 65535 < bound) : ¬ (sendWords bound word).Terminates s := by
  have hreset : (modify fun s : I2CCall => { s with i := 0 }).Returns s ((), { s with i := 0 }) :=
    returns_state.mpr rfl
  rw [sendWords, terminates_bind_iff hreset]
  refine not_terminates_loop (I := fun _ => True) (fun u _ => ?_) trivial
  have hlt : u.i.toNat < bound := by
    have := u.i.toNat_lt
    omega
  exact ⟨_, returns_state.mpr (if_pos hlt), trivial⟩

/-- The driver after the start of a write. -/
def I2CFifo.startWrite (env : I2CEnv) (own : UInt8) (sendStop : Bool) (f : I2CFifo) : I2CFifo :=
  if f.readyOrIdle then { f with
    lastActivity := systemTimerGetMs env.start
    state := if sendStop then own else f.state }
  else { f with state := own ||| i2cFifoStateError }

/-- The driver after the start of a read. -/
def I2CFifo.startRead (env : I2CEnv) (own : UInt8) (length : UInt32) (f : I2CFifo) : I2CFifo :=
  if f.readyOrIdle then { f with
    lastActivity := systemTimerGetMs env.start
    state := own
    expectedFifoLevel := length.toUInt8 }
  else { f with state := own ||| i2cFifoStateError }

theorem write_returns {register : Program I2CCall Unit} (hregister : KeepsFifo register)
    (length : UInt16) (data : List UInt8) (sendStop : Bool) :
    ∃ s', (i2cFifoWrite env own register length data sendStop).Returns s ((), s') ∧
      s'.fifo = s.fifo.startWrite env own sendStop := by
  unfold I2CFifo.startWrite
  cases hready : s.fifo.readyOrIdle with
  | false =>
    refine ⟨{ s with fifo := { s.fifo with state := own ||| i2cFifoStateError } },
      returns_bind.mpr ⟨s, s, returns_get, ?_⟩, rfl⟩
    rw [hready]
    exact returns_state.mpr rfl
  | true =>
    have hlength : length.toNat ≤ 65535 := Nat.le_of_lt_succ length.toNat_lt
    have hstop : KeepsFifo (if sendStop then sendWord tdfMasterStop else pure ()) := by
      split_ifs
      · exact keepsFifo_sendWord _
      · exact keepsFifo_pure
    obtain ⟨s', hs', hfifo⟩ := ((keepsFifo_sendWord
      ((s.fifo.address.toNat <<< 1) ||| tdfMasterStart)).andThen (hregister.andThen
        ((keepsFifo_sendWords hlength).andThen hstop)))
      { s with fifo := { s.fifo with
        lastActivity := systemTimerGetMs env.start
        state := if sendStop then own else s.fifo.state } }
    refine ⟨s', returns_bind.mpr ⟨s, s, returns_get, ?_⟩, hfifo⟩
    rw [hready]
    exact returns_bind.mpr ⟨(), _, returns_state.mpr rfl, hs'⟩

theorem toNat_sub_one {length : UInt32} (h : length ≠ 0) :
    (length - 1).toNat = length.toNat - 1 := by
  have hpos : length.toNat ≠ 0 := fun hzero => h (UInt32.toNat_inj.mp hzero)
  have hlt := length.toNat_lt
  rw [UInt32.toNat_sub]
  show (2 ^ 32 - 1 + length.toNat) % 2 ^ 32 = length.toNat - 1
  omega

theorem keepsFifo_sendReceives {length : UInt32} (h : length.toNat ≤ 65536) :
    KeepsFifo (sendReceives length) := by
  unfold sendReceives
  split_ifs with hzero
  · have hbound : (length - 1).toNat ≤ 65535 := by
      rw [toNat_sub_one hzero]
      omega
    exact (keepsFifo_sendWords hbound).andThen (keepsFifo_sendWord _)
  · exact keepsFifo_pure

/-- For more bytes the commands do not come to an end. -/
theorem not_terminates_sendReceives {length : UInt32} (h : 65536 < length.toNat) :
    ¬ (sendReceives length).Terminates s := by
  have hzero : length ≠ 0 := by
    rintro rfl
    exact absurd h (by decide)
  have hbound : 65535 < (length - 1).toNat := by
    rw [toNat_sub_one hzero]
    omega
  rw [sendReceives, if_pos hzero]
  rintro ⟨r, hr⟩
  obtain ⟨a, u, hu, -⟩ := returns_bind.mp hr
  exact not_terminates_sendWords hbound ⟨(a, u), hu⟩

/-- A read that does not start because of the state, or whose length has 16 bits. -/
theorem read_returns {condition : ℕ} {length : UInt32}
    (h : s.fifo.readyOrIdle = true → length.toNat ≤ 65536) :
    ∃ s', (i2cFifoRead c env own condition length).Returns s ((), s') ∧
      s'.fifo = s.fifo.startRead env own length := by
  unfold I2CFifo.startRead
  cases hready : s.fifo.readyOrIdle with
  | false =>
    refine ⟨{ s with fifo := { s.fifo with state := own ||| i2cFifoStateError } },
      returns_bind.mpr ⟨s, s, returns_get, ?_⟩, rfl⟩
    rw [hready]
    exact returns_state.mpr rfl
  | true =>
    obtain ⟨s', hs', hfifo⟩ := ((keepsFifo_sendWord
      (condition ||| c.cmdRead ||| (s.fifo.address.toNat <<< 1))).andThen
        ((keepsFifo_sendReceives (h hready)).andThen (keepsFifo_sendWord tdfMasterStop)))
      { s with fifo := { s.fifo with
        lastActivity := systemTimerGetMs env.start
        state := own
        expectedFifoLevel := length.toUInt8 } }
    refine ⟨s', returns_bind.mpr ⟨s, s, returns_get, ?_⟩, hfifo⟩
    rw [hready]
    exact returns_bind.mpr ⟨(), _, returns_state.mpr rfl, hs'⟩

/-- A longer read keeps on sending commands. -/
theorem not_terminates_read {condition : ℕ} {length : UInt32}
    (hready : s.fifo.readyOrIdle = true) (h : 65536 < length.toNat) :
    ¬ (i2cFifoRead c env own condition length).Terminates s := by
  rintro ⟨r, hr⟩
  obtain ⟨a, u, hu, hr⟩ := returns_bind.mp hr
  obtain ⟨rfl, rfl⟩ := Prod.mk.inj (returns_state.mp hu)
  rw [hready] at hr
  obtain ⟨_, u, -, hr⟩ := returns_bind.mp hr
  obtain ⟨_, u', -, hr⟩ := returns_bind.mp hr
  obtain ⟨a, u'', hr, -⟩ := returns_bind.mp hr
  exact not_terminates_sendReceives h ⟨(a, u''), hr⟩

/-! ### Whole calls -/

/-- The program returns, and with the mutex released unless another task has it. -/
def ReturnsReleased (q : Program I2CCall UInt32) (s : I2CCall) : Prop :=
  ∃ v s', q.Returns s (v, s') ∧ (v ≠ i2cFifoStatusMutex → s'.fifo.mutex = false)

theorem coop_of_mutex {start : Program I2CCall Unit} (h : s.fifo.mutex = true) :
    ReturnsReleased (i2cFifoCoop c env start ready finish) s := by
  refine ⟨i2cFifoStatusMutex, s, returns_bind.mpr ⟨s, s, returns_get, ?_⟩, fun hne => absurd rfl hne⟩
  rw [if_pos h]
  exact returns_pure.mpr rfl

/-- The driver with the mutex taken. -/
def I2CCall.locked (s : I2CCall) : I2CCall := { s with fifo := { s.fifo with mutex := true } }

theorem coop_returns_iff {start : Program I2CCall Unit} {r : UInt32 × I2CCall}
    (h : s.fifo.mutex = false) : (i2cFifoCoop c env start ready finish).Returns s r ↔
      ∃ u, start.Returns s.locked ((), u) ∧
        (loop (i2cFifoCoopRound c env ready finish)).Returns u r := by
  have hfree : ¬ s.fifo.mutex = true := by
    rw [h]
    decide
  rw [i2cFifoCoop, returns_bind]
  constructor
  · rintro ⟨a, u, hu, hr⟩
    obtain ⟨rfl, rfl⟩ := Prod.mk.inj (returns_state.mp hu)
    rw [if_neg hfree] at hr
    obtain ⟨_, v, hv, hr⟩ := returns_bind.mp hr
    obtain ⟨-, rfl⟩ := Prod.mk.inj (returns_state.mp hv)
    obtain ⟨_, u, hstart, hr⟩ := returns_bind.mp hr
    exact ⟨u, hstart, hr⟩
  · rintro ⟨u, hstart, hr⟩
    refine ⟨s, s, returns_get, ?_⟩
    rw [if_neg hfree]
    exact returns_bind.mpr ⟨(), s.locked, returns_state.mpr rfl,
      returns_bind.mpr ⟨(), u, hstart, hr⟩⟩

theorem coop_released {start : Program I2CCall Unit} {u : I2CCall} (h : s.fifo.mutex = false)
    (hstart : start.Returns s.locked ((), u))
    (hloop : ∃ v s', (loop (i2cFifoCoopRound c env ready finish)).Returns u (v, s') ∧
      s'.fifo.mutex = false) :
    ReturnsReleased (i2cFifoCoop c env start ready finish) s := by
  obtain ⟨v, s', hreturns, hmutex⟩ := hloop
  exact ⟨v, s', (coop_returns_iff h).mpr ⟨u, hstart, hreturns⟩, fun _ => hmutex⟩

/-- Neither idle nor ready, an error, or already where the call waits. -/
def I2CFifo.Leaves (f : I2CFifo) (ready : UInt8) : Prop :=
  f.readyOrIdle = false ∨ f.state &&& i2cFifoStateError ≠ 0 ∨ f.state = ready

/-- Idle and ready states are not active. -/
theorem not_active_of_readyOrIdle (h : f.readyOrIdle = true) : ¬ Active f.state := by
  intro hactive
  obtain ⟨-, hready, hzero, -⟩ := hactive.bits
  rw [I2CFifo.readyOrIdle, Bool.or_eq_true, beq_iff_eq, bne_iff_ne] at h
  exact h.elim hzero fun hne => hne hready

theorem coopWrite_released_iff {register : Program I2CCall Unit} (hregister : KeepsFifo register)
    (hactive : Active own) (length : UInt16) (data : List UInt8) (sendStop : Bool) :
    ReturnsReleased (i2cFifoCoop c env (i2cFifoWrite env own register length data sendStop)
      (own ||| i2cFifoStateReady) finishWrite) s ↔
      s.fifo.mutex = true ∨ sendStop = true ∨ s.fifo.Leaves (own ||| i2cFifoStateReady) := by
  cases hmutex : s.fifo.mutex with
  | true => exact iff_of_true (coop_of_mutex hmutex) (Or.inl rfl)
  | false =>
    obtain ⟨u, hstart, hu⟩ : ∃ u, (i2cFifoWrite env own register length data sendStop).Returns
        s.locked ((), u) ∧ u.fifo = s.locked.fifo.startWrite env own sendStop :=
      write_returns hregister length data sendStop
    have hlocked : s.locked.fifo.readyOrIdle = s.fifo.readyOrIdle := rfl
    unfold I2CFifo.startWrite at hu
    rw [hlocked] at hu
    by_cases hready : s.fifo.readyOrIdle = true
    · rw [if_pos hready] at hu
      cases sendStop with
      | true =>
        have hstate : u.fifo.state = own := congrArg I2CFifo.state hu
        exact iff_of_true (coop_released hmutex hstart
          (loop_of_active finishes_finishWrite hactive hstate)) (Or.inr (Or.inl rfl))
      | false =>
        -- the state is the one from before the call
        have hstate : u.fifo.state = s.fifo.state := by
          rw [hu]
          rfl
        have hnot : ¬ Active u.fifo.state := hstate ▸ not_active_of_readyOrIdle hready
        by_cases herror : u.fifo.state &&& i2cFifoStateError = 0
        · by_cases hend : u.fifo.state = own ||| i2cFifoStateReady
          · exact iff_of_true (coop_released hmutex hstart
              (loop_of_ready finishes_finishWrite hnot herror hend))
              (Or.inr (Or.inr (Or.inr (Or.inr (hstate ▸ hend)))))
          · refine iff_of_false ?_ ?_
            · rintro ⟨v, s', hreturns, -⟩
              obtain ⟨u', hstart', hloop⟩ := (coop_returns_iff hmutex).mp hreturns
              obtain ⟨-, rfl⟩ := Prod.mk.inj (hstart.unique hstart')
              exact loop_of_other hnot herror hend ⟨_, hloop⟩
            · rw [hstate] at herror hend
              rintro (h | h | h | h | h)
              · cases h
              · cases h
              · rw [h] at hready
                cases hready
              · exact h herror
              · exact hend h
        · exact iff_of_true (coop_released hmutex hstart (loop_of_error herror))
            (Or.inr (Or.inr (Or.inr (Or.inl (hstate ▸ herror)))))
    · rw [if_neg hready] at hu
      have herror : u.fifo.state &&& i2cFifoStateError ≠ 0 := by
        rw [congrArg I2CFifo.state hu]
        exact hactive.bits.2.2.2.1
      exact iff_of_true (coop_released hmutex hstart (loop_of_error herror))
        (Or.inr (Or.inr (Or.inl (Bool.eq_false_iff.mpr hready))))

/-- How the start of a read goes. -/
structure StartsRead (own : UInt8) (length : UInt32) (start : Program I2CCall Unit) : Prop where
  short : ∀ s : I2CCall, s.fifo.readyOrIdle = true → length.toNat ≤ 65536 →
    ∃ u, start.Returns s ((), u) ∧ u.fifo.state = own
  long : ∀ s : I2CCall, s.fifo.readyOrIdle = true → 65536 < length.toNat → ¬ start.Terminates s
  busy : ∀ s : I2CCall, s.fifo.readyOrIdle = false →
    ∃ u, start.Returns s ((), u) ∧ u.fifo.state &&& i2cFifoStateError ≠ 0

theorem startsRead_read (hactive : Active own) (condition : ℕ) (length : UInt32) :
    StartsRead own length (i2cFifoRead c env own condition length) where
  short s hready hlength := by
    obtain ⟨u, hu, hfifo⟩ := read_returns (c := c) fun _ => hlength
    refine ⟨u, hu, ?_⟩
    rw [hfifo, I2CFifo.startRead, if_pos hready]
  long _ hready hlength := not_terminates_read hready hlength
  busy s hbusy := by
    obtain ⟨u, hu, hfifo⟩ := read_returns (c := c) fun hready => absurd hready (by rw [hbusy]; decide)
    refine ⟨u, hu, ?_⟩
    rw [hfifo, I2CFifo.startRead, if_neg (by rw [hbusy]; decide)]
    exact hactive.bits.2.2.2.1

/-- The write in front does not change whether a read can start. -/
theorem readyOrIdle_startWrite (f : I2CFifo) :
    (f.startWrite env i2cFifoStateWriteRegister false).readyOrIdle = f.readyOrIdle := by
  cases hready : f.readyOrIdle with
  | true =>
    rw [I2CFifo.startWrite, if_pos hready]
    exact hready
  | false =>
    rw [I2CFifo.startWrite, if_neg (Bool.eq_false_iff.mp hready), I2CFifo.readyOrIdle]
    dsimp only
    decide

theorem startsRead_readRegister (reg : ℕ) (length : UInt32) :
    StartsRead i2cFifoStateReadRegister length (i2cFifoReadRegister c env reg length) := by
  have hread : StartsRead i2cFifoStateReadRegister length
      (i2cFifoRead c env i2cFifoStateReadRegister tdfMasterRestart length) :=
    startsRead_read (Or.inr (Or.inr (Or.inl rfl))) _ _
  have hwrite (s : I2CCall) : ∃ u, (i2cFifoWriteRegister c env reg 0 [] false).Returns s ((), u) ∧
      u.fifo.readyOrIdle = s.fifo.readyOrIdle := by
    obtain ⟨u, hu, hfifo⟩ : ∃ u, (i2cFifoWriteRegister c env reg 0 [] false).Returns s ((), u) ∧
        u.fifo = s.fifo.startWrite env i2cFifoStateWriteRegister false :=
      write_returns (keepsFifo_sendRegister reg) 0 [] false
    exact ⟨u, hu, by rw [hfifo, readyOrIdle_startWrite]⟩
  refine ⟨fun s hready hlength => ?_, fun s hready hlength => ?_, fun s hbusy => ?_⟩
  · obtain ⟨u, hu, hsame⟩ := hwrite s
    obtain ⟨v, hv, hstate⟩ := hread.short u (hsame.trans hready) hlength
    exact ⟨v, returns_bind.mpr ⟨(), u, hu, hv⟩, hstate⟩
  · obtain ⟨u, hu, hsame⟩ := hwrite s
    rw [i2cFifoReadRegister, terminates_bind_iff hu]
    exact hread.long u (hsame.trans hready) hlength
  · obtain ⟨u, hu, hsame⟩ := hwrite s
    obtain ⟨v, hv, hstate⟩ := hread.busy u (hsame.trans hbusy)
    exact ⟨v, returns_bind.mpr ⟨(), u, hu, hv⟩, hstate⟩

theorem coopRead_released_iff {length : UInt32} {start : Program I2CCall Unit}
    (hstarts : StartsRead own length start) (hactive : Active own) :
    ReturnsReleased (i2cFifoCoop c env start (own ||| i2cFifoStateReady)
      (finishRead c env length)) s ↔
      s.fifo.mutex = true ∨ length.toNat ≤ 65536 ∨ s.fifo.readyOrIdle = false := by
  cases hmutex : s.fifo.mutex with
  | true => exact iff_of_true (coop_of_mutex hmutex) (Or.inl rfl)
  | false =>
    have hlocked : s.locked.fifo.readyOrIdle = s.fifo.readyOrIdle := rfl
    cases hready : s.fifo.readyOrIdle with
    | false =>
      obtain ⟨u, hstart, herror⟩ := hstarts.busy s.locked (hlocked.trans hready)
      exact iff_of_true (coop_released hmutex hstart (loop_of_error herror)) (Or.inr (Or.inr rfl))
    | true =>
      rcases le_or_gt length.toNat 65536 with hshort | hlong
      · obtain ⟨u, hstart, hstate⟩ := hstarts.short s.locked (hlocked.trans hready) hshort
        exact iff_of_true (coop_released hmutex hstart
          (loop_of_active (finishes_finishRead length) hactive hstate)) (Or.inr (Or.inl hshort))
      · refine iff_of_false ?_ ?_
        · rintro ⟨v, s', hreturns, -⟩
          obtain ⟨u, hstart, -⟩ := (coop_returns_iff hmutex).mp hreturns
          exact hstarts.long s.locked (hlocked.trans hready) hlong ⟨_, hstart⟩
        · rintro (h | h | h)
          · cases h
          · omega
          · cases h

/-- When a call comes to an end: another task has the mutex; a write sends a stop or is
already where it waits; a read is not too long; or the state lets nothing start. -/
def I2CRequest.ComesToEnd (f : I2CFifo) : I2CRequest → Prop
  | readRegister _ length => f.mutex = true ∨ length.toNat ≤ 65536 ∨ f.readyOrIdle = false
  | writeRegister _ _ _ sendStop => f.mutex = true ∨ sendStop = true ∨
      f.Leaves (i2cFifoStateWriteRegister ||| i2cFifoStateReady)
  | readDirect length _ => f.mutex = true ∨ length.toNat ≤ 65536 ∨ f.readyOrIdle = false
  | writeDirect _ _ sendStop => f.mutex = true ∨ sendStop = true ∨
      f.Leaves (i2cFifoStateWriteDirect ||| i2cFifoStateReady)

/-- **Cooperative I2C calls**: whatever the peripheral does, a call returns with the mutex
released exactly if it does not wait for a state that it cannot get to. -/
theorem i2cFifoCoop_returns_iff (c : I2CConfig) (env : I2CEnv) (request : I2CRequest)
    (s : I2CCall) : ReturnsReleased (request.call c env) s ↔ request.ComesToEnd s.fifo := by
  cases request with
  | readRegister reg length =>
    exact coopRead_released_iff (startsRead_readRegister reg length) (Or.inr (Or.inr (Or.inl rfl)))
  | writeRegister reg length data sendStop =>
    exact coopWrite_released_iff (keepsFifo_sendRegister reg) (Or.inl rfl) _ data sendStop
  | readDirect length restart =>
    exact coopRead_released_iff (startsRead_read (Or.inr (Or.inr (Or.inr rfl))) _ length)
      (Or.inr (Or.inr (Or.inr rfl)))
  | writeDirect length data sendStop =>
    exact coopWrite_released_iff keepsFifo_pure (Or.inr (Or.inl rfl)) _ data sendStop

/-- Nothing on the bus, and a clock that makes a step with each yield. -/
def quietI2CEnv : I2CEnv where
  statusFlag _ := 0
  txFifoIsEmpty _ := true
  rxFifoLevel _ := 0
  rxFifo _ := []
  start := 0
  clock p := p
  clock_lt p := Nat.lt_succ_self p
  clock_step p := Nat.add_le_add_left (by omega) p

/-- A register number is written without a stop, as in front of a read, from the idle state:
the call never returns. -/
theorem i2cFifoCoopWriteRegister_hangs :
    ¬ ReturnsReleased (i2cFifoCoopWriteRegister ⟨0, 0, 0, 1⟩ quietI2CEnv 0 0 [] false)
      ⟨⟨0, 0, 0, 0, 0, false⟩, [], [], 0, 0⟩ := by
  have hregister : KeepsFifo (sendRegister ⟨0, 0, 0, 1⟩ 0) := keepsFifo_sendRegister 0
  rw [i2cFifoCoopWriteRegister, i2cFifoWriteRegister,
    coopWrite_released_iff hregister (Or.inl rfl), I2CFifo.Leaves]
  decide

end Bricklib2
