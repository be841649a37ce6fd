/-
Bricklib2/Hal/SpiFifo.lean

SPI transfers from cooperative tasks (spi_fifo.c with SPI_FIFO_COOP_USE_MUTEX, and the
switch between tasks of coop_task.c).  A transfer flushes the receive FIFO, fills the
transmit FIFO and then polls, yielding whenever no byte has come back yet.

The model goes statement by statement: an event is one statement of the task that runs,
a switch to a task, or a byte that goes one place further in the USIC channel.  Tasks only
change at `coop_task_yield`.  Each byte in the channel carries the task whose transfer it
belongs to.

    transmit FIFO → transmit buffer → shift register → receive buffer → receive FIFO

In front of the lock stands `if(spi_fifo->mutex) coop_task_yield()`: a task that comes
back from there sets the flag without another look at it.  So it depends on when the main
task comes back to it, whether it finds the transfer over that it waits for.

Main result: `spiFifo_exclusive`.
-/
import Bricklib2.Hal.SystemTimer
import Bricklib2.Library.FlagLock
import Bricklib2.Protocols.Tfp
import Mathlib.Data.Fintype.Basic
import Mathlib.Logic.Function.Basic

namespace Bricklib2

open Machine FlagLock

variable {ι : Type*}

/-! ### State -/

/-- The arguments of a call; `miso` is filled while it runs. -/
structure SpiFifoTransfer where
  length : ℕ
  mosi : List UInt8

/-- The statement of `spi_fifo_coop_transceive` a task is in front of. -/
inductive SpiFifoPc
  | outside (result : Option (Bool × List UInt8))
  | test (transfer : SpiFifoTransfer)
  | acquire (transfer : SpiFifoTransfer)
  | flush (transfer : SpiFifoTransfer)
  | transmit (transfer : SpiFifoTransfer) (start i : ℕ)
  | receive (transfer : SpiFifoTransfer) (start : ℕ) (miso : List UInt8)

/-- Between `mutex = true` and `mutex = false`. -/
def SpiFifoPc.critical : SpiFifoPc → Bool
  | .outside _ | .test _ | .acquire _ => false
  | .flush _ | .transmit .. | .receive .. => true

/-- The transfer has used the FIFOs. -/
def SpiFifoPc.started : SpiFifoPc → Bool
  | .transmit .. | .receive .. => true
  | _ => false

/-- In front of `mutex = true`. -/
def SpiFifoPc.enters : SpiFifoPc → Bool
  | .acquire _ => true
  | _ => false

/-- In front of the flush. -/
def SpiFifoPc.starts : SpiFifoPc → Bool
  | .flush _ => true
  | _ => false

/-- The USIC channel.  The channel takes a word out of the transmit FIFO into its transmit
buffer and from there into the shift register; a word that has been shifted goes through
one of two receive buffers into the receive FIFO. -/
structure UsicChannel (ι : Type*) where
  txFifo : List (ι × UInt8)
  transmitBuffer : Option (ι × UInt8)
  shiftRegister : Option (ι × UInt8)
  receiveBuffer : List (ι × UInt8)
  rxFifo : List (ι × UInt8)

/-- A channel with nothing in it. -/
def usicChannelInit : UsicChannel ι where
  txFifo := []
  transmitBuffer := none
  shiftRegister := none
  receiveBuffer := []
  rxFifo := []

/-- The tasks and one `SPIFifo`.  `none` is the main task, and `coopTaskNext` the task that
PendSV has switched to. -/
structure SpiFifoSystem (ι : Type*) where
  coopTaskCurrent : Option ι
  coopTaskNext : Option ι
  pc : ι → SpiFifoPc
  mutex : Bool
  channel : UsicChannel ι

/-- After `spi_fifo_init` all tasks are outside of the call and the mutex is free. -/
def spiFifoInit : SpiFifoSystem ι where
  coopTaskCurrent := none
  coopTaskNext := none
  pc _ := .outside none
  mutex := false
  channel := usicChannelInit

/-- `rx_fifo_size` and `tx_fifo_size`. -/
structure SpiFifoConfig where
  rxFifoSize : ℕ
  txFifoSize : ℕ

/-- `SPI_FIFO_TIMEOUT` -/
def spiFifoTimeout : ℕ := 10

/-- A byte that does not fit into a FIFO is lost. -/
def fifoPush {α : Type*} (size : ℕ) (fifo : List α) (x : α) : List α :=
  if fifo.length < size then fifo ++ [x] else fifo

/-! ### Steps -/

/-- A byte goes one place further; `miso` is what has been shifted in against it. -/
inductive UsicEvent
  | buffer
  | load
  | shift (miso : UInt8)
  | store

/-- One event of the hardware. -/
def UsicChannel.step (config : SpiFifoConfig) (c : UsicChannel ι) :
    UsicEvent → Option (UsicChannel ι)
  | .buffer =>
    match c.txFifo, c.transmitBuffer with
    | x :: rest, none => some { c with txFifo := rest, transmitBuffer := some x }
    | _, _ => none
  | .load =>
    match c.transmitBuffer, c.shiftRegister with
    | some x, none => some { c with transmitBuffer := none, shiftRegister := some x }
    | _, _ => none
  | .shift miso =>
    c.shiftRegister.map fun x =>
      { c with shiftRegister := none, receiveBuffer := fifoPush 2 c.receiveBuffer (x.1, miso) }
  | .store =>
    match c.receiveBuffer with
    | [] => none
    | x :: rest =>
      if c.rxFifo.length < config.rxFifoSize then
        some { c with receiveBuffer := rest, rxFifo := c.rxFifo ++ [x] }
      else
        none

/-- What can happen next: the main task switches to a task, a task calls
`spi_fifo_coop_transceive`, yields elsewhere or executes its next statement, and the
channel goes on. -/
inductive SpiFifoEvent (ι : Type*)
  | tick (task : ι)
  | call (transfer : SpiFifoTransfer)
  | yield
  | exec (now : ℕ)
  | channel (e : UsicEvent)

/-- `coop_task_yield` -/
def SpiFifoSystem.coopTaskYield (s : SpiFifoSystem ι) : SpiFifoSystem ι :=
  { s with coopTaskCurrent := s.coopTaskNext, coopTaskNext := none }

/-- `coop_task_tick` -/
def SpiFifoSystem.coopTaskTick (task : ι) (s : SpiFifoSystem ι) : SpiFifoSystem ι :=
  { s with coopTaskCurrent := none, coopTaskNext := some task }

section Steps

variable [DecidableEq ι]

/-- `task` goes on to the statement `pc`. -/
def SpiFifoSystem.goto (task : ι) (pc : SpiFifoPc) (s : SpiFifoSystem ι) : SpiFifoSystem ι :=
  { s with pc := Function.update s.pc task pc }

/-- One statement of `spi_fifo_coop_transceive`. -/
def SpiFifoSystem.exec (config : SpiFifoConfig) (task : ι) (now : ℕ) (s : SpiFifoSystem ι) :
    SpiFifoPc → Option (SpiFifoSystem ι)
  | .outside _ => none
  | .test transfer =>
    if s.mutex then
      some (s.goto task (.acquire transfer)).coopTaskYield
    else
      some (s.goto task (.acquire transfer))
  | .acquire transfer => some { s.goto task (.flush transfer) with mutex := true }
  | .flush transfer =>
    some { s.goto task (.transmit transfer (systemTimerGetMs now) 0) with
      channel.rxFifo := [] }
  | .transmit transfer start i =>
    if i < transfer.length then
      some { s.goto task (.transmit transfer start (i + 1)) with
        channel.txFifo :=
          fifoPush config.txFifoSize s.channel.txFifo (task, byteAt transfer.mosi i) }
    else
      some (s.goto task (.receive transfer start []))
  | .receive transfer start miso =>
    if miso.length < transfer.length then
      if systemTimerIsTimeElapsedMs now start spiFifoTimeout then
        some { s.goto task (.outside (some (false, miso))) with mutex := false }
      else
        match s.channel.rxFifo with
        | [] => some s.coopTaskYield
        | x :: rest =>
          some { s.goto task (.receive transfer start (miso ++ [x.2])) with
            channel.rxFifo := rest }
    else
      some { s.goto task (.outside (some (true, miso))) with mutex := false }

/-- One event. -/
def SpiFifoSystem.step (config : SpiFifoConfig) (s : SpiFifoSystem ι) :
    SpiFifoEvent ι → Option (SpiFifoSystem ι)
  | .tick task => if s.coopTaskNext.isNone then some (s.coopTaskTick task) else none
  | .call transfer =>
    s.coopTaskNext.bind fun task =>
      match s.pc task with
      | .outside _ => some (s.goto task (.test transfer))
      | _ => none
  | .yield =>
    s.coopTaskNext.bind fun task =>
      match s.pc task with
      | .outside _ => some s.coopTaskYield
      | _ => none
  | .exec now => s.coopTaskNext.bind fun task => s.exec config task now (s.pc task)
  | .channel e => (s.channel.step config e).map fun channel => { s with channel := channel }

/-! ### The lock -/

/-- The tasks between acquiring and releasing the mutex. -/
def SpiFifoSystem.lock (s : SpiFifoSystem ι) : Lock ι where
  flag := s.mutex
  inside := { task | (s.pc task).critical = true }

/-- What a statement of `task` does to the lock. -/
def spiFifoAction (task : ι) (now : ℕ) : SpiFifoPc → Action ι
  | .acquire _ => .enter task
  | .receive transfer start miso =>
    if miso.length < transfer.length then
      if systemTimerIsTimeElapsedMs now start spiFifoTimeout then .leave task else .other
    else
      .leave task
  | _ => .other

/-- What an event does to the lock. -/
def SpiFifoSystem.action (s : SpiFifoSystem ι) : SpiFifoEvent ι → Action ι
  | .exec now =>
    match s.coopTaskNext with
    | none => .other
    | some task => spiFifoAction task now (s.pc task)
  | _ => .other

variable {config : SpiFifoConfig} {s s' : SpiFifoSystem ι} {task : ι} {pc : SpiFifoPc}

omit [DecidableEq ι] in
theorem lock_fresh_init : (spiFifoInit : SpiFifoSystem ι).lock.Fresh :=
  ⟨rfl, Set.eq_empty_of_forall_notMem fun _ h => absurd h Bool.false_ne_true⟩

theorem goto_pc_self : (s.goto task pc).pc task = pc := Function.update_self ..

theorem goto_pc_of_ne {other : ι} (h : other ≠ task) : (s.goto task pc).pc other = s.pc other :=
  Function.update_of_ne h ..

theorem inside_goto_enter (h : pc.critical = true) :
    (s.goto task pc).lock.inside = insert task s.lock.inside := by
  ext other
  by_cases hother : other = task
  · subst hother
    refine iff_of_true ?_ (Set.mem_insert _ _)
    show ((s.goto other pc).pc other).critical = true
    rw [goto_pc_self, h]
  · show ((s.goto task pc).pc other).critical = true ↔ _
    rw [goto_pc_of_ne hother, Set.mem_insert_iff, or_iff_right hother]
    rfl

theorem inside_goto_leave (h : pc.critical = false) :
    (s.goto task pc).lock.inside = s.lock.inside \ {task} := by
  ext other
  by_cases hother : other = task
  · subst hother
    refine iff_of_false ?_ fun hmem => hmem.2 rfl
    show ¬ ((s.goto other pc).pc other).critical = true
    rw [goto_pc_self, h]
    exact Bool.false_ne_true
  · show ((s.goto task pc).pc other).critical = true ↔ _
    rw [goto_pc_of_ne hother]
    exact ⟨fun hmem => ⟨hmem, hother⟩, And.left⟩

/-- Statements on the same side of the lock. -/
theorem inside_goto_same (h : pc.critical = (s.pc task).critical) :
    (s.goto task pc).lock.inside = s.lock.inside := by
  ext other
  by_cases hother : other = task
  · subst hother
    show ((s.goto other pc).pc other).critical = true ↔ _
    rw [goto_pc_self, h]
    rfl
  · show ((s.goto task pc).pc other).critical = true ↔ _
    rw [goto_pc_of_ne hother]
    rfl

omit [DecidableEq ι] in
/-- The lock goes by the flag and the set. -/
theorem lock_eq {flag : Bool} {inside : Set ι} (hflag : s.mutex = flag)
    (hinside : s.lock.inside = inside) : s.lock = { flag, inside } := by
  subst hflag hinside
  rfl

/-- A statement acts on the lock as `spiFifoAction` says. -/
theorem exec_lock {now : ℕ} (hpc : s.pc task = pc) (h : s.exec config task now pc = some s') :
    s'.lock = s.lock.act (spiFifoAction task now pc) ∧
      s.lock.Enabled (spiFifoAction task now pc) := by
  cases pc with
  | outside result => cases h
  | test transfer =>
    have hsame : (s.goto task (.acquire transfer)).lock.inside = s.lock.inside :=
      inside_goto_same (hpc ▸ rfl)
    simp only [SpiFifoSystem.exec] at h
    split_ifs at h
    · obtain rfl := Option.some.inj h
      exact ⟨lock_eq rfl hsame, trivial⟩
    · obtain rfl := Option.some.inj h
      exact ⟨lock_eq rfl hsame, trivial⟩
  | acquire transfer =>
    obtain rfl := Option.some.inj h
    refine ⟨lock_eq rfl (inside_goto_enter rfl), fun hinside => ?_⟩
    have hcritical : (s.pc task).critical = true := hinside
    rw [hpc] at hcritical
    exact Bool.false_ne_true hcritical
  | flush transfer =>
    obtain rfl := Option.some.inj h
    exact ⟨lock_eq rfl (inside_goto_same (hpc ▸ rfl)), trivial⟩
  | transmit transfer start i =>
    simp only [SpiFifoSystem.exec] at h
    split_ifs at h
    · obtain rfl := Option.some.inj h
      exact ⟨lock_eq rfl (inside_goto_same (hpc ▸ rfl)), trivial⟩
    · obtain rfl := Option.some.inj h
      exact ⟨lock_eq rfl (inside_goto_same (hpc ▸ rfl)), trivial⟩
  | receive transfer start miso =>
    have hinside : task ∈ s.lock.inside := by
      show (s.pc task).critical = true
      rw [hpc]
      rfl
    simp only [SpiFifoSystem.exec] at h
    simp only [spiFifoAction]
    split_ifs at h ⊢
    · -- the time-out
      obtain rfl := Option.some.inj h
      exact ⟨lock_eq rfl (inside_goto_leave rfl), hinside⟩
    · split at h
      · obtain rfl := Option.some.inj h
        exact ⟨rfl, trivial⟩
      · obtain rfl := Option.some.inj h
        exact ⟨lock_eq rfl (inside_goto_same (hpc ▸ rfl)), trivial⟩
    · -- all bytes are there
      obtain rfl := Option.some.inj h
      exact ⟨lock_eq rfl (inside_goto_leave rfl), hinside⟩

/-! ### What the other events do -/

/-- A task calls from outside, and goes to the test of the mutex. -/
theorem step_call {transfer : SpiFifoTransfer}
    (h : s.step config (.call transfer) = some s') :
    ∃ task result, s.coopTaskNext = some task ∧ s.pc task = .outside result ∧
      s' = s.goto task (.test transfer) := by
  obtain ⟨task, hrunning, he⟩ := Option.bind_eq_some_iff.mp h
  rcases hpc : s.pc task with result | _ | _ | _ | _ | _ <;> rw [hpc] at he
  · exact ⟨task, result, hrunning, hpc, (Option.some.inj he).symm⟩
  all_goals cases he

theorem step_yield (h : s.step config .yield = some s') : s' = s.coopTaskYield := by
  obtain ⟨task, -, he⟩ := Option.bind_eq_some_iff.mp h
  rcases hpc : s.pc task with result | _ | _ | _ | _ | _ <;> rw [hpc] at he
  · exact (Option.some.inj he).symm
  all_goals cases he

theorem step_tick (h : s.step config (.tick task) = some s') : s' = s.coopTaskTick task := by
  obtain ⟨-, he⟩ := Option.ite_none_right_eq_some.mp h
  exact (Option.some.inj he).symm

/-- The mutex is a flag lock. -/
theorem spiFifo_hasLock (config : SpiFifoConfig) :
    HasLock (SpiFifoSystem.step config) (SpiFifoSystem.lock (ι := ι)) SpiFifoSystem.action := by
  have hall : ∀ (s : SpiFifoSystem ι) e s', s.step config e = some s' →
      s'.lock = s.lock.act (s.action e) ∧ s.lock.Enabled (s.action e) := by
    intro s e s' he
    cases e with
    | tick task =>
      obtain rfl := step_tick he
      exact ⟨rfl, trivial⟩
    | call transfer =>
      obtain ⟨task, result, -, hpc, rfl⟩ := step_call he
      exact ⟨lock_eq rfl (inside_goto_same (hpc ▸ rfl)), trivial⟩
    | yield =>
      obtain rfl := step_yield he
      exact ⟨rfl, trivial⟩
    | exec now =>
      obtain ⟨task, hrunning, he⟩ := Option.bind_eq_some_iff.mp he
      unfold SpiFifoSystem.action
      rw [hrunning]
      exact exec_lock rfl he
    | channel e =>
      obtain ⟨c, -, rfl⟩ := Option.map_eq_some_iff.mp he
      exact ⟨rfl, trivial⟩
  exact ⟨fun s e s' he => (hall s e s' he).1, fun s e s' he => (hall s e s' he).2⟩

/-! ### Whose turn it is -/

/-- The main task comes back to a task that waits for the mutex only when no transfer is
under way.  A task that is not running is in front of `mutex = true` only because it has
yielded there. -/
def SpiFifoSystem.Patient (s : SpiFifoSystem ι) : SpiFifoEvent ι → Prop
  | .tick task =>
    s.coopTaskNext = none → (s.pc task).enters = true → ∀ other, (s.pc other).critical = false
  | _ => True

instance [Fintype ι] (s : SpiFifoSystem ι) : ∀ e, Decidable (s.Patient e)
  | .tick task => inferInstanceAs (Decidable (s.coopTaskNext = none →
      (s.pc task).enters = true → ∀ other, (s.pc other).critical = false))
  | .exec _ | .call _ | .yield | .channel _ => inferInstanceAs (Decidable True)

/-- The running task is in front of `mutex = true` only while no transfer is under way. -/
def SpiFifoSystem.Turn (s : SpiFifoSystem ι) : Prop :=
  ∀ task ∈ s.coopTaskNext, (s.pc task).enters = true → s.lock.inside = ∅

omit [DecidableEq ι] in
theorem SpiFifoSystem.Turn.of_none (h : s.coopTaskNext = none) : s.Turn := by
  intro task htask
  rw [h] at htask
  cases htask

omit [DecidableEq ι] in
theorem SpiFifoPc.critical_of_enters {pc : SpiFifoPc} (h : pc.enters = true) :
    pc.critical = false := by
  cases pc with
  | acquire => rfl
  | outside | test | flush | transmit | receive => cases h

omit [DecidableEq ι] in
/-- A statement that does not lead in front of `mutex = true`. -/
theorem SpiFifoSystem.Turn.of_pc (hrunning : s'.coopTaskNext = some task)
    (hpc : (s'.pc task).enters = false) : s'.Turn := by
  intro other hother henters
  obtain rfl := Option.some.inj (hrunning.symm.trans hother)
  exact absurd (hpc.symm.trans henters) Bool.false_ne_true

/-- A task that does not yield at the test has found the flag clear. -/
theorem exec_turn {now : ℕ} (hkept : s.lock.Kept) (hrunning : s.coopTaskNext = some task)
    (hpc : s.pc task = pc) (h : s.exec config task now pc = some s') : s'.Turn := by
  cases pc with
  | outside result => cases h
  | test transfer =>
    simp only [SpiFifoSystem.exec] at h
    split_ifs at h with hmutex
    · obtain rfl := Option.some.inj h
      exact .of_none rfl
    · obtain rfl := Option.some.inj h
      intro _ _ _
      have hsame : (s.goto task (.acquire transfer)).lock.inside = s.lock.inside :=
        inside_goto_same (hpc ▸ rfl)
      rw [hsame]
      by_contra hne
      exact hmutex (hkept.held (Set.nonempty_iff_ne_empty.mpr hne))
  | acquire transfer =>
    obtain rfl := Option.some.inj h
    exact .of_pc hrunning (congrArg SpiFifoPc.enters goto_pc_self)
  | flush transfer =>
    obtain rfl := Option.some.inj h
    exact .of_pc hrunning (congrArg SpiFifoPc.enters goto_pc_self)
  | transmit transfer start i =>
    simp only [SpiFifoSystem.exec] at h
    split_ifs at h
    · obtain rfl := Option.some.inj h
      exact .of_pc hrunning (congrArg SpiFifoPc.enters goto_pc_self)
    · obtain rfl := Option.some.inj h
      exact .of_pc hrunning (congrArg SpiFifoPc.enters goto_pc_self)
  | receive transfer start miso =>
    simp only [SpiFifoSystem.exec] at h
    split_ifs at h
    · obtain rfl := Option.some.inj h
      exact .of_pc hrunning (congrArg SpiFifoPc.enters goto_pc_self)
    · split at h
      · obtain rfl := Option.some.inj h
        exact .of_none rfl
      · obtain rfl := Option.some.inj h
        exact .of_pc hrunning (congrArg SpiFifoPc.enters goto_pc_self)
    · obtain rfl := Option.some.inj h
      exact .of_pc hrunning (congrArg SpiFifoPc.enters goto_pc_self)

theorem step_turn {e : SpiFifoEvent ι} (hkept : s.lock.Kept) (hturn : s.Turn)
    (hpatient : s.Patient e) (h : s.step config e = some s') : s'.Turn := by
  cases e with
  | tick task =>
    obtain ⟨hidle, -⟩ := Option.ite_none_right_eq_some.mp h
    obtain rfl := step_tick h
    intro other hother henters
    obtain rfl := Option.some.inj hother
    apply Set.eq_empty_of_forall_notMem
    intro inside hinside
    have houtside := hpatient (Option.isNone_iff_eq_none.mp hidle) henters inside
    exact absurd (houtside.symm.trans hinside) Bool.false_ne_true
  | call transfer =>
    obtain ⟨task, result, hrunning, -, rfl⟩ := step_call h
    exact .of_pc hrunning (congrArg SpiFifoPc.enters goto_pc_self)
  | yield =>
    obtain rfl := step_yield h
    exact .of_none rfl
  | exec now =>
    obtain ⟨task, hrunning, he⟩ := Option.bind_eq_some_iff.mp h
    exact exec_turn hkept hrunning rfl he
  | channel e =>
    obtain ⟨c, -, rfl⟩ := Option.map_eq_some_iff.mp h
    exact hturn

omit [DecidableEq ι] in
/-- So no task ever enters over a flag that is set. -/
theorem SpiFifoSystem.Turn.freeAt (hturn : s.Turn) (hoccupied : s.lock.Occupied)
    (e : SpiFifoEvent ι) : s.lock.FreeAt (s.action e) := by
  cases e with
  | exec now =>
    unfold SpiFifoSystem.action
    cases hrunning : s.coopTaskNext with
    | none => trivial
    | some task =>
      show s.lock.FreeAt (spiFifoAction task now (s.pc task))
      cases hpc : s.pc task with
      | acquire transfer =>
        have hempty : s.lock.inside = ∅ := hturn task hrunning (congrArg SpiFifoPc.enters hpc)
        show s.lock.flag = false
        by_contra hflag
        obtain ⟨other, hother⟩ := hoccupied (Bool.eq_true_of_not_eq_false hflag)
        rw [hempty] at hother
        exact hother
      | receive transfer start miso =>
        simp only [spiFifoAction]
        split_ifs <;> trivial
      | outside | test | flush | transmit => trivial
  | tick | call | yield | channel => trivial

/-- What the lock keeps, and whose turn it is. -/
structure SpiFifoSystem.Exclusive (s : SpiFifoSystem ι) : Prop where
  occupied : s.lock.Occupied
  kept : s.lock.Kept
  turn : s.Turn

omit [DecidableEq ι] in
theorem exclusive_init : (spiFifoInit : SpiFifoSystem ι).Exclusive :=
  ⟨lock_fresh_init.occupied, lock_fresh_init.kept, .of_none rfl⟩

/-- Whatever event comes, at most one task is inside afterwards. -/
theorem SpiFifoSystem.Exclusive.kept_step {e : SpiFifoEvent ι} (h : s.Exclusive)
    (he : s.step config e = some s') : s'.lock.Kept :=
  (spiFifo_hasLock config).kept h.kept (h.turn.freeAt h.occupied e) he

theorem exclusive_step (s : SpiFifoSystem ι) (e : SpiFifoEvent ι) (s' : SpiFifoSystem ι)
    (h : s.Exclusive) (hpatient : s.Patient e) (he : s.step config e = some s') :
    s'.Exclusive :=
  ⟨(spiFifo_hasLock config).occupied h.occupied he, h.kept_step he,
    step_turn h.kept h.turn hpatient he⟩

/-- A task that waits for the mutex sets it as soon as it runs again. -/
theorem enters_of_tick (config : SpiFifoConfig) (now : ℕ) (henters : (s.pc task).enters = true) :
    ∃ v, (s.coopTaskTick task).step config (.exec now) = some v ∧
      v.lock.inside = insert task s.lock.inside := by
  cases hpc : s.pc task with
  | acquire transfer =>
    refine ⟨{ (s.coopTaskTick task).goto task (.flush transfer) with mutex := true }, ?_, ?_⟩
    · show (s.coopTaskTick task).exec config task now (s.pc task) = _
      rw [hpc]
      rfl
    · exact inside_goto_enter rfl
  | outside | test | flush | transmit | receive =>
    rw [hpc] at henters
    cases henters

/-! ### Whose bytes -/

/-- The bytes that a flush of the receive FIFO does not reach. -/
def UsicChannel.line (c : UsicChannel ι) : List (ι × UInt8) :=
  c.txFifo ++ c.transmitBuffer.toList ++ c.shiftRegister.toList ++ c.receiveBuffer

/-- All bytes in the channel belong to `task`. -/
structure UsicChannel.Of (c : UsicChannel ι) (task : ι) : Prop where
  line : ∀ x ∈ c.line, x.1 = task
  rxFifo : ∀ x ∈ c.rxFifo, x.1 = task

theorem mem_fifoPush {α : Type*} {size : ℕ} {fifo : List α} {x y : α}
    (h : x ∈ fifoPush size fifo y) : x ∈ fifo ∨ x = y := by
  unfold fifoPush at h
  split_ifs at h
  · exact (List.mem_append.mp h).imp_right List.mem_singleton.mp
  · exact .inl h

omit [DecidableEq ι] in
theorem UsicChannel.mem_line {c : UsicChannel ι} {x : ι × UInt8} : x ∈ c.line ↔
    x ∈ c.txFifo ∨ c.transmitBuffer = some x ∨ c.shiftRegister = some x ∨
      x ∈ c.receiveBuffer := by
  simp only [UsicChannel.line, List.mem_append, Option.mem_toList, or_assoc]

omit [DecidableEq ι] in
/-- The hardware moves bytes, and what it shifts in belongs to what it shifts out. -/
theorem UsicChannel.Of.step {c c' : UsicChannel ι} {e : UsicEvent} (h : c.Of task)
    (he : c.step config e = some c') : c'.Of task := by
  have hline (x : ι × UInt8) (hx : x ∈ c.txFifo ∨ c.transmitBuffer = some x ∨
      c.shiftRegister = some x ∨ x ∈ c.receiveBuffer) : x.1 = task :=
    h.line x (UsicChannel.mem_line.mpr hx)
  cases e with
  | buffer =>
    obtain ⟨x, rest, htx, hbuffer, rfl⟩ : ∃ x rest, c.txFifo = x :: rest ∧
        c.transmitBuffer = none ∧
        c' = { c with txFifo := rest, transmitBuffer := some x } := by
      simp only [UsicChannel.step] at he
      split at he
      next x rest htx hbuffer => exact ⟨x, rest, htx, hbuffer, (Option.some.inj he).symm⟩
      next => cases he
    refine ⟨fun y hy => ?_, h.rxFifo⟩
    rcases UsicChannel.mem_line.mp hy with hy | hy | hy | hy
    · exact hline y (.inl (htx ▸ List.mem_cons_of_mem x hy))
    · obtain rfl := Option.some.inj hy
      exact hline x (.inl (htx ▸ List.mem_cons_self))
    · exact hline y (.inr (.inr (.inl hy)))
    · exact hline y (.inr (.inr (.inr hy)))
  | load =>
    obtain ⟨x, hbuffer, rfl⟩ : ∃ x, c.transmitBuffer = some x ∧
        c' = { c with transmitBuffer := none, shiftRegister := some x } := by
      simp only [UsicChannel.step] at he
      split at he
      next x hbuffer _ => exact ⟨x, hbuffer, (Option.some.inj he).symm⟩
      next => cases he
    refine ⟨fun y hy => ?_, h.rxFifo⟩
    rcases UsicChannel.mem_line.mp hy with hy | hy | hy | hy
    · exact hline y (.inl hy)
    · cases hy
    · obtain rfl := Option.some.inj hy
      exact hline x (.inr (.inl hbuffer))
    · exact hline y (.inr (.inr (.inr hy)))
  | shift miso =>
    obtain ⟨x, hregister, rfl⟩ := Option.map_eq_some_iff.mp he
    refine ⟨fun y hy => ?_, h.rxFifo⟩
    rcases UsicChannel.mem_line.mp hy with hy | hy | hy | hy
    · exact hline y (.inl hy)
    · exact hline y (.inr (.inl hy))
    · cases hy
    · rcases mem_fifoPush hy with hy | rfl
      · exact hline y (.inr (.inr (.inr hy)))
      · exact hline x (.inr (.inr (.inl hregister)))
  | store =>
    obtain ⟨x, rest, hbuffer, rfl⟩ : ∃ x rest, c.receiveBuffer = x :: rest ∧
        c' = { c with receiveBuffer := rest, rxFifo := c.rxFifo ++ [x] } := by
      simp only [UsicChannel.step] at he
      split at he
      · cases he
      next x rest hbuffer =>
        obtain ⟨-, he⟩ := Option.ite_none_right_eq_some.mp he
        exact ⟨x, rest, hbuffer, (Option.some.inj he).symm⟩
    refine ⟨fun y hy => ?_, fun y hy => ?_⟩
    · rcases UsicChannel.mem_line.mp hy with hy | hy | hy | hy
      · exact hline y (.inl hy)
      · exact hline y (.inr (.inl hy))
      · exact hline y (.inr (.inr (.inl hy)))
      · exact hline y (.inr (.inr (.inr (hbuffer ▸ List.mem_cons_of_mem x hy))))
    · rcases List.mem_append.mp hy with hy | hy
      · exact h.rxFifo y hy
      · obtain rfl := List.mem_singleton.mp hy
        exact hline y (.inr (.inr (.inr (hbuffer ▸ List.mem_cons_self))))

/-- The bytes in the channel are those of the transfer under way. -/
def SpiFifoSystem.Own (s : SpiFifoSystem ι) : Prop :=
  ∀ task, (s.pc task).started = true → s.channel.Of task

/-- No byte of another task is still on the line when a transfer starts: what a transfer
that has timed out leaves in the transmit FIFO, in the shift register and in the buffers
around it, the next one does not flush. -/
def SpiFifoSystem.LineClean (s : SpiFifoSystem ι) : SpiFifoEvent ι → Prop
  | .exec _ =>
    ∀ task ∈ s.coopTaskNext, (s.pc task).starts = true → ∀ x ∈ s.channel.line, x.1 = task
  | _ => True

instance (s : SpiFifoSystem ι) : ∀ e, Decidable (s.LineClean e)
  | .exec _ => inferInstanceAs (Decidable (∀ _ ∈ s.coopTaskNext, _))
  | .tick _ | .call _ | .yield | .channel _ => inferInstanceAs (Decidable True)

/-- Nobody flushes the receive FIFO while another task is in its transfer, and nobody takes
a byte of another task out of it. -/
def SpiFifoSystem.Undisturbed (s : SpiFifoSystem ι) : SpiFifoEvent ι → Prop
  | .exec now =>
    ∀ task ∈ s.coopTaskNext,
      ((s.pc task).starts = true → ∀ other, (s.pc other).critical = true → other = task) ∧
      ∀ transfer start miso x, s.pc task = .receive transfer start miso →
        miso.length < transfer.length →
        systemTimerIsTimeElapsedMs now start spiFifoTimeout = false →
        s.channel.rxFifo.head? = some x → x.1 = task
  | _ => True

omit [DecidableEq ι] in
theorem SpiFifoPc.critical_of_started {pc : SpiFifoPc} (h : pc.started = true) :
    pc.critical = true := by
  cases pc with
  | transmit | receive => rfl
  | outside | test | acquire | flush => cases h

omit [DecidableEq ι] in
theorem SpiFifoPc.critical_of_starts {pc : SpiFifoPc} (h : pc.starts = true) :
    pc.critical = true := by
  cases pc with
  | flush => rfl
  | outside | test | acquire | transmit | receive => cases h

/-- A statement that leaves the channel alone and starts no transfer. -/
theorem SpiFifoSystem.Own.goto (h : s.Own) (hpc : pc.started = true → (s.pc task).started = true) :
    (s.goto task pc).Own := by
  intro other hstarted
  by_cases hother : other = task
  · subst hother
    rw [goto_pc_self] at hstarted
    exact h other (hpc hstarted)
  · rw [goto_pc_of_ne hother] at hstarted
    exact h other hstarted

/-- While the lock is kept, the bytes of the task inside are the only ones that count. -/
theorem SpiFifoSystem.Own.of_inside (hkept : s.lock.Kept) (htask : (s.pc task).critical = true)
    (hpc : s'.pc = (s.goto task pc).pc) (hchannel : s'.channel.Of task) : s'.Own := by
  intro other hstarted
  by_cases hother : other = task
  · rw [hother]
    exact hchannel
  · rw [hpc, goto_pc_of_ne hother] at hstarted
    have hcritical : (s.pc other).critical = true := SpiFifoPc.critical_of_started hstarted
    exact absurd (hkept.exclusive hcritical htask) hother

omit [DecidableEq ι] in
/-- A byte is written to the transmit FIFO. -/
theorem UsicChannel.Of.push {c : UsicChannel ι} {size : ℕ} {mosi : UInt8} (h : c.Of task) :
    UsicChannel.Of { c with txFifo := fifoPush size c.txFifo (task, mosi) } task := by
  refine ⟨fun x hx => ?_, h.rxFifo⟩
  rcases UsicChannel.mem_line.mp hx with hx | hx
  · rcases mem_fifoPush hx with hx | rfl
    · exact h.line x (UsicChannel.mem_line.mpr (.inl hx))
    · rfl
  · exact h.line x (UsicChannel.mem_line.mpr (.inr hx))

theorem exec_own {now : ℕ} (hkept : s.lock.Kept) (hown : s.Own)
    (hclean : (s.pc task).starts = true → ∀ x ∈ s.channel.line, x.1 = task)
    (hpc : s.pc task = pc) (h : s.exec config task now pc = some s') : s'.Own := by
  have hcritical : (s.pc task).critical = pc.critical := congrArg _ hpc
  cases pc with
  | outside result => cases h
  | test transfer =>
    simp only [SpiFifoSystem.exec] at h
    split_ifs at h
    · obtain rfl := Option.some.inj h
      exact hown.goto nofun
    · obtain rfl := Option.some.inj h
      exact hown.goto nofun
  | acquire transfer =>
    obtain rfl := Option.some.inj h
    exact hown.goto nofun
  | flush transfer =>
    obtain rfl := Option.some.inj h
    exact .of_inside hkept hcritical rfl ⟨hclean (by rw [hpc]; rfl), nofun⟩
  | transmit transfer start i =>
    have hchannel : s.channel.Of task := hown task (by rw [hpc]; rfl)
    simp only [SpiFifoSystem.exec] at h
    split_ifs at h
    · obtain rfl := Option.some.inj h
      exact .of_inside hkept hcritical rfl hchannel.push
    · obtain rfl := Option.some.inj h
      exact .of_inside hkept hcritical rfl hchannel
  | receive transfer start miso =>
    have hchannel : s.channel.Of task := hown task (by rw [hpc]; rfl)
    simp only [SpiFifoSystem.exec] at h
    split_ifs at h
    · obtain rfl := Option.some.inj h
      exact .of_inside hkept hcritical rfl hchannel
    · split at h
      · obtain rfl := Option.some.inj h
        exact hown
      next x rest hhead =>
        obtain rfl := Option.some.inj h
        refine .of_inside hkept hcritical rfl ⟨hchannel.line, fun y hy => ?_⟩
        apply hchannel.rxFifo y
        rw [hhead]
        exact List.mem_cons_of_mem x hy
    · obtain rfl := Option.some.inj h
      exact .of_inside hkept hcritical rfl hchannel

theorem step_own {e : SpiFifoEvent ι} (hkept : s.lock.Kept) (hown : s.Own)
    (hclean : s.LineClean e) (h : s.step config e = some s') : s'.Own := by
  cases e with
  | tick task =>
    obtain rfl := step_tick h
    exact hown
  | call transfer =>
    obtain ⟨task, result, -, hpc, rfl⟩ := step_call h
    exact hown.goto nofun
  | yield =>
    obtain rfl := step_yield h
    exact hown
  | exec now =>
    obtain ⟨task, hrunning, he⟩ := Option.bind_eq_some_iff.mp h
    exact exec_own hkept hown (hclean task hrunning) rfl he
  | channel e =>
    obtain ⟨c, hc, rfl⟩ := Option.map_eq_some_iff.mp h
    exact fun task hstarted => (hown task hstarted).step hc

omit [DecidableEq ι] in
/-- With the lock kept and only bytes of its own, a transfer disturbs no other. -/
theorem undisturbed_of_own {e : SpiFifoEvent ι} (hkept : s.lock.Kept) (hown : s.Own) :
    s.Undisturbed e := by
  cases e with
  | exec now =>
    intro task _
    constructor
    · intro hstarts other hother
      exact hkept.exclusive hother (SpiFifoPc.critical_of_starts hstarts)
    · intro transfer start miso x hpc _ _ hx
      exact (hown task (by rw [hpc]; rfl)).rxFifo x (List.mem_of_mem_head? hx)
  | tick | call | yield | channel => trivial

/-! ### Main result -/

/-- **The mutex.**  At most one task is between acquiring and releasing it, in every state
of a run and behind the next statement of the task that runs there, exactly if the main
task never comes back to a task that waits for the mutex while a transfer is under way.  In
such a run no task disturbs the transfer of another, as long as no byte of another task is
still on the line when a transfer starts. -/
theorem spiFifo_exclusive (config : SpiFifoConfig) (es : List (SpiFifoEvent ι)) :
    ((∀ pre post u, es = pre ++ post → run (SpiFifoSystem.step config) spiFifoInit pre = some u →
        u.lock.inside.Subsingleton ∧
          ∀ now v, u.step config (.exec now) = some v → v.lock.inside.Subsingleton) ↔
      Meets (SpiFifoSystem.step config) SpiFifoSystem.Patient spiFifoInit es) ∧
    (Meets (SpiFifoSystem.step config) SpiFifoSystem.Patient spiFifoInit es →
      Meets (SpiFifoSystem.step config) SpiFifoSystem.LineClean spiFifoInit es →
      Meets (SpiFifoSystem.step config) SpiFifoSystem.Undisturbed spiFifoInit es) := by
  refine ⟨⟨fun hall => meets_iff_next.mpr ?_, ?_⟩, fun hpatient hclean => ?_⟩
  · intro pre e post u hsplit hu
    cases e with
    | tick task =>
      -- a task that comes back too early is the second one inside
      intro hidle henters other
      by_contra hother
      have hinside : other ∈ u.lock.inside := Bool.eq_true_of_not_eq_false hother
      have hsplit' : es = (pre ++ [.tick task]) ++ post := by
        rw [hsplit, List.append_assoc, List.singleton_append]
      have htick : u.step config (.tick task) = some (u.coopTaskTick task) :=
        if_pos (Option.isNone_iff_eq_none.mpr hidle)
      have hrun : run (SpiFifoSystem.step config) spiFifoInit (pre ++ [.tick task]) =
          some (u.coopTaskTick task) :=
        run_append_eq_some.mpr ⟨u, hu, (run_singleton _ _).trans htick⟩
      obtain ⟨v, hv, hentered⟩ := enters_of_tick config 0 henters
      have hsub := (hall _ post _ hsplit' hrun).2 0 v hv
      rw [hentered] at hsub
      have heq : other = task :=
        hsub (Set.mem_insert_of_mem task hinside) (Set.mem_insert task u.lock.inside)
      have houtside := SpiFifoPc.critical_of_enters henters
      exact hother (heq ▸ houtside)
    | exec | call | yield | channel => trivial
  · rintro hpatient pre post u rfl hu
    have hexclusive := run_induct_meets exclusive_step exclusive_init (hpatient.append hu).1 hu
    refine ⟨hexclusive.kept.exclusive, fun now v hv => ?_⟩
    exact (hexclusive.kept_step hv).exclusive
  · have hown : (spiFifoInit : SpiFifoSystem ι).Own := nofun
    refine (hpatient.and hclean).imp (P := fun s => s.Exclusive ∧ s.Own) ?_ ?_
      ⟨exclusive_init, hown⟩
    · rintro s e s' ⟨hexclusive, hown⟩ ⟨hpatient, hclean⟩ he
      exact ⟨exclusive_step s e s' hexclusive hpatient he,
        step_own hexclusive.kept hown hclean he⟩
    · rintro s e ⟨hexclusive, hown⟩ -
      exact undisturbed_of_own hexclusive.kept hown

end Steps

/-! ### Two tasks -/

/-- A byte goes through the channel. -/
def wholeShift (miso : UInt8) : List (SpiFifoEvent Bool) :=
  [.channel .buffer, .channel .load, .channel (.shift miso), .channel .store]

/-- The first task waits for its byte, and the second has found the mutex set. -/
def secondWaits : List (SpiFifoEvent Bool) :=
  [.tick true, .call ⟨1, [5]⟩, .exec 0, .exec 0, .exec 0, .exec 0, .exec 0, .exec 0,
    .tick false, .call ⟨1, [6]⟩, .exec 0]

/-- The byte comes back and the first task is done before the second goes on. -/
def firstDone : List (SpiFifoEvent Bool) :=
  secondWaits ++ wholeShift 7 ++ [.tick true, .exec 1, .exec 1, .yield, .tick false, .exec 1,
    .exec 1, .exec 1, .exec 1, .exec 1] ++ wholeShift 8 ++ [.exec 2, .exec 2]

/-- FIFOs of 16 bytes. -/
def spiFifoSizes : SpiFifoConfig where
  rxFifoSize := 16
  txFifoSize := 16

/-- A run in which the second task comes back to a free mutex. -/
theorem spiFifo_exclusive_turns :
    (∀ pre post u, firstDone = pre ++ post →
      run (SpiFifoSystem.step spiFifoSizes) spiFifoInit pre = some u →
      u.lock.inside.Subsingleton) ∧
    Meets (SpiFifoSystem.step spiFifoSizes) SpiFifoSystem.Undisturbed spiFifoInit firstDone := by
  have hpatient : Meets (SpiFifoSystem.step spiFifoSizes) SpiFifoSystem.Patient spiFifoInit
      firstDone := by decide +kernel
  have hclean : Meets (SpiFifoSystem.step spiFifoSizes) SpiFifoSystem.LineClean spiFifoInit
      firstDone := by decide +kernel
  obtain ⟨hexclusive, hundisturbed⟩ := spiFifo_exclusive spiFifoSizes firstDone
  refine ⟨fun pre post u hsplit hu => ?_, hundisturbed hpatient hclean⟩
  exact (hexclusive.mpr hpatient pre post u hsplit hu).1

/-- The first task polls once more and yields; the second sets the mutex that is set, and
is about to flush the FIFO the first one waits for. -/
def secondEnters : List (SpiFifoEvent Bool) :=
  secondWaits ++ [.tick true, .exec 0, .tick false, .exec 0]

theorem spiFifo_exclusive_overlap : ∃ t : SpiFifoSystem Bool,
    run (SpiFifoSystem.step spiFifoSizes) spiFifoInit secondEnters = some t ∧
      ¬ t.lock.inside.Subsingleton ∧ ¬ t.Undisturbed (.exec 0) := by
  refine ⟨_, rfl, fun hsub => ?_, fun hundisturbed => ?_⟩
  · have hboth : true = false := hsub (by rfl) (by rfl)
    exact absurd hboth (by decide)
  · have hboth : true = false := (hundisturbed false rfl).1 rfl true rfl
    exact absurd hboth (by decide)

/-- The first task times out with its byte in the shift register.  The second one enters in
turn and flushes, and what it finds is the byte of the first. -/
def lateByte : List (SpiFifoEvent Bool) :=
  secondWaits ++ [.channel .buffer, .channel .load, .tick true, .exec 10, .yield, .tick false,
    .exec 10, .exec 10, .exec 10, .exec 10, .channel (.shift 7), .channel .store]

example : Meets (SpiFifoSystem.step spiFifoSizes) SpiFifoSystem.Patient spiFifoInit lateByte ∧
    ∃ t : SpiFifoSystem Bool,
      run (SpiFifoSystem.step spiFifoSizes) spiFifoInit lateByte = some t ∧
        t.channel.rxFifo = [(true, 7)] ∧ (t.pc true).critical = false ∧
        (t.pc false).started = true :=
  ⟨by decide +kernel, _, rfl, rfl, rfl, rfl⟩

end Bricklib2
