/-
Bricklib2/Library/FlagLock.lean

A lock that is one flag: a task that enters sets it, a task that leaves clears it, and
nothing in the lock itself makes a task wait.  Whether the flag excludes anybody is
therefore a matter of the program around it.

A machine has such a lock (`HasLock`) if its steps are actions on an abstract flag and the
set of the tasks inside.

Main result: `HasLock.kept`, at most one task is inside as long as no task enters over a
flag that is set.
-/
import Bricklib2.Library.Machine
import Mathlib.Data.Set.Subsingleton

namespace FlagLock

open Machine

variable {ι σ ε : Type*}

/-! ### The lock -/

/-- The flag, and the tasks between entering and leaving. -/
structure Lock (ι : Type*) where
  flag : Bool
  inside : Set ι

/-- What a task can do about the lock. -/
inductive Action (ι : Type*)
  | enter (task : ι)
  | leave (task : ι)
  | other

/-- The lock after an action. -/
def Lock.act (l : Lock ι) : Action ι → Lock ι
  | .enter task => { flag := true, inside := insert task l.inside }
  | .leave task => { flag := false, inside := l.inside \ {task} }
  | .other => l

/-- Tasks enter from outside and leave from inside. -/
def Lock.Enabled (l : Lock ι) : Action ι → Prop
  | .enter task => task ∉ l.inside
  | .leave task => task ∈ l.inside
  | .other => True

/-- No task enters over a flag that is set. -/
def Lock.FreeAt (l : Lock ι) : Action ι → Prop
  | .enter _ => l.flag = false
  | _ => True

/-- Nobody is inside. -/
def Lock.Fresh (l : Lock ι) : Prop := l.flag = false ∧ l.inside = ∅

/-- The flag is only set while somebody is inside.  No action breaks this. -/
def Lock.Occupied (l : Lock ι) : Prop := l.flag = true → l.inside.Nonempty

/-- At most one task is inside, and the flag is set while one is. -/
structure Lock.Kept (l : Lock ι) : Prop where
  exclusive : l.inside.Subsingleton
  held : l.inside.Nonempty → l.flag = true

/-! ### Actions -/

variable {l : Lock ι} {a : Action ι}

theorem Lock.Fresh.occupied (h : l.Fresh) : l.Occupied :=
  fun hflag => absurd (h.1.symm.trans hflag) Bool.false_ne_true

theorem Lock.Fresh.kept (h : l.Fresh) : l.Kept where
  exclusive := h.2 ▸ Set.subsingleton_empty
  held hne := absurd (h.2 ▸ hne) Set.not_nonempty_empty

/-- A task that sets the flag is inside, and one that leaves clears it for all. -/
theorem Lock.Occupied.act (h : l.Occupied) : (l.act a).Occupied := by
  cases a with
  | enter task => exact fun _ => ⟨task, Set.mem_insert task l.inside⟩
  | leave task => exact fun hflag => absurd hflag Bool.false_ne_true
  | other => exact h

/-- While the lock is kept, the task that leaves is the only one inside. -/
theorem Lock.Kept.held_act (h : l.Kept) (henabled : l.Enabled a) :
    (l.act a).inside.Nonempty → (l.act a).flag = true := by
  cases a with
  | enter task => exact fun _ => rfl
  | leave task =>
    rintro ⟨other, hother, hne⟩
    exact absurd (h.exclusive hother henabled) hne
  | other => exact h.held

/-- Over a flag that is clear a task enters an empty lock. -/
theorem Lock.Kept.act (h : l.Kept) (henabled : l.Enabled a) (hfree : l.FreeAt a) :
    (l.act a).Kept := by
  refine ⟨?_, h.held_act henabled⟩
  cases a with
  | enter task =>
    have hempty : l.inside = ∅ := by
      by_contra hne
      have hset := h.held (Set.nonempty_iff_ne_empty.mpr hne)
      exact absurd (hset.symm.trans hfree) (by decide)
    show (insert task l.inside).Subsingleton
    rw [hempty, insert_empty_eq]
    exact Set.subsingleton_singleton
  | leave task => exact h.exclusive.anti fun _ hx => hx.1
  | other => exact h.exclusive

/-! ### Machines -/

/-- The steps of a machine are actions on its lock. -/
structure HasLock (step : σ → ε → Option σ) (lock : σ → Lock ι) (action : σ → ε → Action ι) :
    Prop where
  act : ∀ s e s', step s e = some s' → lock s' = (lock s).act (action s e)
  enabled : ∀ s e s', step s e = some s' → (lock s).Enabled (action s e)

variable {step : σ → ε → Option σ} {lock : σ → Lock ι} {action : σ → ε → Action ι}
  {s s' : σ} {e : ε}

theorem HasLock.occupied (h : HasLock step lock action) (hs : (lock s).Occupied)
    (he : step s e = some s') : (lock s').Occupied := by
  rw [h.act s e s' he]
  exact hs.act

theorem HasLock.kept (h : HasLock step lock action) (hkept : (lock s).Kept)
    (hfree : (lock s).FreeAt (action s e)) (he : step s e = some s') : (lock s').Kept := by
  rw [h.act s e s' he]
  exact hkept.act (h.enabled s e s' he) hfree

end FlagLock
