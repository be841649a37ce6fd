/-
Bricklib2/Library/Program.lean

Programs over a state, with loops that need not end.  A program is run with a bound
on the rounds of its loops and has no result when a loop needs more of them.  That
a larger bound gives the same result is part of the type, so `Returns` can forget
the bound, and a sequence of programs returns exactly if its parts do one after the
other (`returns_bind`).

`returns_loop` is the rule for loops: an invariant, and a measure that goes down
in every round that does not end the loop.  `loop_induct` is the one for loops that
may go on for ever.
-/
import Mathlib.Data.Nat.Basic
import Mathlib.Logic.Basic
import Mathlib.Tactic.Linarith

/-- A program that reads and changes a state `σ` and returns an `α`. -/
structure Program (σ α : Type) where
  run : ℕ → σ → Option (α × σ)
  mono : ∀ {fuel s r}, run fuel s = some r → run (fuel + 1) s = some r

namespace Program

variable {σ α β : Type} {p : Program σ α} {f : α → Program σ β} {s s' : σ} {a : α}

theorem run_of_le {m n : ℕ} {r : α × σ} (h : m ≤ n) (hr : p.run m s = some r) :
    p.run n s = some r := by
  induction n, h using Nat.le_induction with
  | base => exact hr
  | succ n _ ih => exact p.mono ih

/-- The program comes to an end, with the result and the state in `r`. -/
def Returns (p : Program σ α) (s : σ) (r : α × σ) : Prop := ∃ fuel, p.run fuel s = some r

/-- The program comes to an end. -/
def Terminates (p : Program σ α) (s : σ) : Prop := ∃ r, p.Returns s r

theorem Returns.unique {r r' : α × σ} (h : p.Returns s r) (h' : p.Returns s r') : r = r' := by
  obtain ⟨m, hm⟩ := h
  obtain ⟨n, hn⟩ := h'
  have hmax := run_of_le (le_max_left m n) hm
  exact Option.some.inj (hmax.symm.trans (run_of_le (le_max_right m n) hn))

/-! ### Statements -/

instance : Monad (Program σ) where
  pure a := ⟨fun _ s => some (a, s), fun h => h⟩
  bind p f :=
    { run := fun fuel s => (p.run fuel s).bind fun r => (f r.1).run fuel r.2
      mono := fun {fuel s r} h => by
        obtain ⟨r', hr', h⟩ := Option.bind_eq_some_iff.mp h
        rw [p.mono hr', Option.bind_some]
        exact (f r'.1).mono h }

/-- A statement that ends at once. -/
def state (g : σ → α × σ) : Program σ α := ⟨fun _ s => some (g s), fun h => h⟩

/-- The state of the program. -/
def get : Program σ σ := state fun s => (s, s)

/-- A statement that changes the state. -/
def modify (g : σ → σ) : Program σ Unit := state fun s => ((), g s)

theorem returns_pure {r : α × σ} : (pure a : Program σ α).Returns s r ↔ (a, s) = r :=
  ⟨fun ⟨_, h⟩ => Option.some.inj h, fun h => ⟨0, congrArg some h⟩⟩

theorem returns_state {g : σ → α × σ} {r : α × σ} : (state g).Returns s r ↔ g s = r :=
  ⟨fun ⟨_, h⟩ => Option.some.inj h, fun h => ⟨0, congrArg some h⟩⟩

theorem returns_get : (get : Program σ σ).Returns s (s, s) := returns_state.mpr rfl

theorem returns_bind {r : β × σ} :
    (p >>= f).Returns s r ↔ ∃ a s', p.Returns s (a, s') ∧ (f a).Returns s' r := by
  constructor
  · rintro ⟨fuel, h⟩
    obtain ⟨⟨a, s'⟩, hp, hf⟩ := Option.bind_eq_some_iff.mp h
    exact ⟨a, s', ⟨fuel, hp⟩, fuel, hf⟩
  · rintro ⟨a, s', ⟨m, hp⟩, n, hf⟩
    refine ⟨max m n, Option.bind_eq_some_iff.mpr ⟨(a, s'), ?_, ?_⟩⟩
    · exact run_of_le (le_max_left m n) hp
    · exact run_of_le (le_max_right m n) hf

theorem terminates_pure (a : α) (s : σ) : (pure a : Program σ α).Terminates s :=
  ⟨(a, s), returns_pure.mpr rfl⟩

theorem terminates_state (g : σ → α × σ) (s : σ) : (state g).Terminates s :=
  ⟨g s, returns_state.mpr rfl⟩

theorem Terminates.bind (hp : p.Terminates s)
    (hf : ∀ a s', p.Returns s (a, s') → (f a).Terminates s') : (p >>= f).Terminates s := by
  obtain ⟨⟨a, s'⟩, hp⟩ := hp
  obtain ⟨r, hr⟩ := hf a s' hp
  exact ⟨r, returns_bind.mpr ⟨a, s', hp, hr⟩⟩

/-- Whether a sequence ends, its second part decides. -/
theorem terminates_bind_iff (hp : p.Returns s (a, s')) :
    (p >>= f).Terminates s ↔ (f a).Terminates s' := by
  constructor
  · rintro ⟨r, hr⟩
    obtain ⟨b, u, hb, hr⟩ := returns_bind.mp hr
    obtain ⟨rfl, rfl⟩ := Prod.mk.inj (hp.unique hb)
    exact ⟨r, hr⟩
  · rintro ⟨r, hr⟩
    exact ⟨r, returns_bind.mpr ⟨a, s', hp, hr⟩⟩

/-! ### Programs that always end -/

/-- The program ends from every state. -/
def Total (p : Program σ α) : Prop := ∀ s, p.Terminates s

theorem total_pure (a : α) : (pure a : Program σ α).Total := terminates_pure a

theorem total_state (g : σ → α × σ) : (state g).Total := terminates_state g

theorem Total.bind (hp : p.Total) (hf : ∀ a, (f a).Total) : (p >>= f).Total :=
  fun s => (hp s).bind fun a s' _ => hf a s'

theorem Total.ite {c : Prop} [Decidable c] {q : Program σ α} (hp : p.Total) (hq : q.Total) :
    (if c then p else q).Total := by
  split_ifs
  · exact hp
  · exact hq

/-! ### Loops -/

/-- The rounds of a loop, until one of them has a result. -/
def loopRun (body : Program σ (Option α)) : ℕ → σ → Option (α × σ)
  | 0, _ => none
  | fuel + 1, s =>
    match body.run fuel s with
    | none => none
    | some (some a, s') => some (a, s')
    | some (none, s') => loopRun body fuel s'

/-- The loop around a body; a result of the body ends it. -/
def loop (body : Program σ (Option α)) : Program σ α where
  run := loopRun body
  mono := by
    intro fuel
    induction fuel with
    | zero => exact fun h => by cases h
    | succ fuel ih =>
      intro s r h
      rw [loopRun] at h ⊢
      rcases hbody : body.run fuel s with - | ⟨- | a, s'⟩
      · rw [hbody] at h
        cases h
      · rw [hbody] at h
        rw [body.mono hbody]
        exact ih h
      · rw [hbody] at h
        rw [body.mono hbody]
        exact h

section Loop

variable {body : Program σ (Option α)} {r : α × σ}

theorem returns_loop_of_some (h : body.Returns s (some a, s')) :
    (loop body).Returns s (a, s') := by
  obtain ⟨fuel, h⟩ := h
  refine ⟨fuel + 1, ?_⟩
  show loopRun body (fuel + 1) s = _
  rw [loopRun, h]

theorem returns_loop_of_none (h : body.Returns s (none, s')) (hrest : (loop body).Returns s' r) :
    (loop body).Returns s r := by
  obtain ⟨m, h⟩ := h
  obtain ⟨n, hrest⟩ := hrest
  refine ⟨max m n + 1, ?_⟩
  show loopRun body (max m n + 1) s = _
  rw [loopRun, run_of_le (le_max_left m n) h]
  exact run_of_le (p := loop body) (le_max_right m n) hrest

/-- **Loops end**: a round keeps the invariant and makes the measure smaller, or it is
the last one, which then has `Q`. -/
theorem returns_loop {I : σ → Prop} {Q : α → σ → Prop} (μ : σ → ℕ)
    (hbody : ∀ s, I s → ∃ o s', body.Returns s (o, s') ∧
      match o with
      | none => I s' ∧ μ s' < μ s
      | some a => Q a s') (h : I s) :
    ∃ a s', (loop body).Returns s (a, s') ∧ Q a s' := by
  induction hn : μ s using Nat.strong_induction_on generalizing s with
  | _ n ih =>
    obtain ⟨o, s', hreturns, ho⟩ := hbody s h
    cases o with
    | some a => exact ⟨a, s', returns_loop_of_some hreturns, ho⟩
    | none =>
      obtain ⟨a, u, hrest, hQ⟩ := ih (μ s') (hn ▸ ho.2) ho.1 rfl
      exact ⟨a, u, returns_loop_of_none hreturns hrest, hQ⟩

/-- What the rounds keep holds when the loop has ended, if it has. -/
theorem loop_induct {I : σ → Prop} {Q : α → σ → Prop}
    (hnext : ∀ s s', I s → body.Returns s (none, s') → I s')
    (hlast : ∀ s a s', I s → body.Returns s (some a, s') → Q a s') (h : I s)
    (hr : (loop body).Returns s (a, s')) : Q a s' := by
  obtain ⟨fuel, hr⟩ := hr
  induction fuel generalizing s with
  | zero => cases hr
  | succ fuel ih =>
    change loopRun body (fuel + 1) s = _ at hr
    rw [loopRun] at hr
    rcases hrun : body.run fuel s with - | ⟨- | b, u⟩
    · rw [hrun] at hr
      cases hr
    · rw [hrun] at hr
      exact ih (hnext s u h ⟨fuel, hrun⟩) hr
    · rw [hrun] at hr
      obtain ⟨rfl, rfl⟩ := Prod.mk.inj (Option.some.inj hr)
      exact hlast s b u h ⟨fuel, hrun⟩

/-- A loop whose rounds never have a result does not end. -/
theorem not_terminates_loop {I : σ → Prop}
    (hbody : ∀ s, I s → ∃ s', body.Returns s (none, s') ∧ I s') (h : I s) :
    ¬ (loop body).Terminates s := by
  rintro ⟨r, fuel, hr⟩
  induction fuel generalizing s with
  | zero => cases hr
  | succ fuel ih =>
    obtain ⟨s', hreturns, hI⟩ := hbody s h
    change loopRun body (fuel + 1) s = _ at hr
    rw [loopRun] at hr
    rcases hrun : body.run fuel s with - | ⟨o, u⟩
    · rw [hrun] at hr
      cases hr
    · obtain ⟨rfl, rfl⟩ := Prod.mk.inj (Returns.unique ⟨fuel, hrun⟩ hreturns)
      rw [hrun] at hr
      exact ih hI hr

end Loop

end Program
