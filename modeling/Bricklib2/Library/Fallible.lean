/-
Bricklib2/Library/Fallible.lean

Programs that may give up with an error, as C functions do that return an error code:
the state stays as it was when the error came up.  Loops hand their local variables on
from round to round.

`wp` is the weakest precondition of an outcome: the program comes to an end, and what it
returns, or the error, has the postcondition together with the state it leaves.
Sequences are taken apart by `wp_bind`; `wp_iterate` is the rule for loops, with an
invariant and a measure that goes down in every round.
-/
import Bricklib2.Library.Program

/-- A program on a state `σ` that returns an `α` or gives up with an `ε`. -/
abbrev Fallible (ε σ α : Type) := ExceptT ε (Program σ) α

namespace Fallible

variable {ε σ τ α β L : Type}

/-! ### Postconditions -/

/-- `Q` of a result, `E` of an error. -/
def Outcome (Q : α → σ → Prop) (E : ε → σ → Prop) : Except ε α → σ → Prop
  | .ok a, s => Q a s
  | .error e, s => E e s

/-- The program comes to an end and does so with `Q`, or with `E` if it gives up. -/
def wp (p : Fallible ε σ α) (Q : α → σ → Prop) (E : ε → σ → Prop) (s : σ) : Prop :=
  ∃ r s', Program.Returns p.run s (r, s') ∧ Outcome Q E r s'

variable {p : Fallible ε σ α} {f : α → Fallible ε σ β} {Q Q' : α → σ → Prop}
  {E E' : ε → σ → Prop} {R : β → σ → Prop} {s : σ}

theorem wp_mono (h : wp p Q E s) (hQ : ∀ a s', Q a s' → Q' a s')
    (hE : ∀ e s', E e s' → E' e s') : wp p Q' E' s := by
  obtain ⟨r, s', hr, hQ'⟩ := h
  refine ⟨r, s', hr, ?_⟩
  cases r with
  | ok a => exact hQ a s' hQ'
  | error e => exact hE e s' hQ'

theorem returns_ok_iff {a : α} {t : σ} :
    Program.Returns p.run s (.ok a, t) ↔
      wp p (fun b s' => b = a ∧ s' = t) (fun _ _ => False) s := by
  constructor
  · exact fun h => ⟨.ok a, t, h, rfl, rfl⟩
  · rintro ⟨r, s', hr, hQ⟩
    cases r with
    | ok b =>
      obtain ⟨rfl, rfl⟩ := hQ
      exact hr
    | error e => exact hQ.elim

theorem returns_error_iff {e : ε} {t : σ} :
    Program.Returns p.run s (.error e, t) ↔
      wp p (fun _ _ => False) (fun e' s' => e' = e ∧ s' = t) s := by
  constructor
  · exact fun h => ⟨.error e, t, h, rfl, rfl⟩
  · rintro ⟨r, s', hr, hQ⟩
    cases r with
    | ok b => exact hQ.elim
    | error e' =>
      obtain ⟨rfl, rfl⟩ := hQ
      exact hr

/-! ### Statements -/

/-- A statement that ends at once and has no error. -/
def state (g : σ → α × σ) : Fallible ε σ α :=
  ExceptT.mk (Program.state fun s => (.ok (g s).1, (g s).2))

/-- The state of the program. -/
def get : Fallible ε σ σ := state fun s => (s, s)

/-- A statement that changes the state. -/
def modify (g : σ → σ) : Fallible ε σ Unit := state fun s => ((), g s)

/-- A statement that is told which error to report, if any. -/
def check (e : Option ε) : Fallible ε σ Unit :=
  match e with
  | some e => throw e
  | none => pure ()

/-- A program on a part of the state. -/
def zoom (get : σ → τ) (set : τ → σ → σ) (p : Fallible ε τ α) : Fallible ε σ α :=
  ExceptT.mk
    { run := fun fuel s => (p.run.run fuel (get s)).map fun r => (r.1, set r.2 s)
      mono := by
        intro fuel s r h
        obtain ⟨r', hr', hset⟩ := Option.map_eq_some_iff.mp h
        rw [p.run.mono hr', ← hset]
        rfl }

/-- The program, if the condition holds. -/
def when (c : Prop) [Decidable c] (p : Fallible ε σ Unit) : Fallible ε σ Unit :=
  if c then p else pure ()

/-- The program with its error as a result. -/
def attempt (p : Fallible ε σ α) : Fallible ε σ (Except ε α) :=
  ExceptT.mk (p.run >>= fun r => pure (.ok r))

theorem wp_pure {a : α} : wp (pure a : Fallible ε σ α) Q E s ↔ Q a s := by
  constructor
  · rintro ⟨r, s', hr, hQ⟩
    obtain ⟨rfl, rfl⟩ := Prod.mk.inj (Program.returns_pure.mp hr)
    exact hQ
  · intro h
    exact ⟨.ok a, s, Program.returns_pure.mpr rfl, h⟩

theorem wp_throw {e : ε} : wp (throw e : Fallible ε σ α) Q E s ↔ E e s := by
  constructor
  · rintro ⟨r, s', hr, hE⟩
    obtain ⟨rfl, rfl⟩ := Prod.mk.inj (Program.returns_pure.mp hr)
    exact hE
  · intro h
    exact ⟨.error e, s, Program.returns_pure.mpr rfl, h⟩

theorem wp_bind : wp (p >>= f) R E s ↔ wp p (fun a => wp (f a) R E) E s := by
  constructor
  · rintro ⟨r, s', hr, hR⟩
    obtain ⟨r', t, hp, hf⟩ := Program.returns_bind.mp hr
    refine ⟨r', t, hp, ?_⟩
    cases r' with
    | ok a => exact ⟨r, s', hf, hR⟩
    | error e =>
      obtain ⟨rfl, rfl⟩ := Prod.mk.inj (Program.returns_pure.mp hf)
      exact hR
  · rintro ⟨r', t, hp, h⟩
    cases r' with
    | ok a =>
      obtain ⟨r, s', hf, hR⟩ := h
      exact ⟨r, s', Program.returns_bind.mpr ⟨.ok a, t, hp, hf⟩, hR⟩
    | error e =>
      exact ⟨.error e, t,
        Program.returns_bind.mpr ⟨.error e, t, hp, Program.returns_pure.mpr rfl⟩, h⟩

theorem wp_state {g : σ → α × σ} : wp (state g : Fallible ε σ α) Q E s ↔ Q (g s).1 (g s).2 := by
  constructor
  · rintro ⟨r, s', hr, hQ⟩
    obtain ⟨rfl, rfl⟩ := Prod.mk.inj (Program.returns_state.mp hr)
    exact hQ
  · intro h
    exact ⟨.ok (g s).1, (g s).2, Program.returns_state.mpr rfl, h⟩

theorem wp_get {Q : σ → σ → Prop} : wp (get : Fallible ε σ σ) Q E s ↔ Q s s := wp_state

theorem wp_modify {g : σ → σ} {Q : Unit → σ → Prop} :
    wp (modify g : Fallible ε σ Unit) Q E s ↔ Q () (g s) := wp_state

theorem wp_zoom {get : σ → τ} {set : τ → σ → σ} {p : Fallible ε τ α} :
    wp (zoom get set p) Q E s ↔
      wp p (fun a t => Q a (set t s)) (fun e t => E e (set t s)) (get s) := by
  constructor
  · rintro ⟨r, s', ⟨fuel, hr⟩, hQ⟩
    obtain ⟨r', hr', hset⟩ := Option.map_eq_some_iff.mp hr
    obtain ⟨rfl, rfl⟩ := Prod.mk.inj hset
    refine ⟨r'.1, r'.2, ⟨fuel, hr'⟩, ?_⟩
    rcases r' with ⟨e | a, t⟩
    · exact hQ
    · exact hQ
  · rintro ⟨r, t, ⟨fuel, hr⟩, hQ⟩
    refine ⟨r, set t s, ⟨fuel, Option.map_eq_some_iff.mpr ⟨(r, t), hr, rfl⟩⟩, ?_⟩
    cases r with
    | ok a => exact hQ
    | error e => exact hQ

theorem wp_check {e : Option ε} {Q : Unit → σ → Prop} :
    wp (check e) Q E s ↔ (∀ e' ∈ e, E e' s) ∧ (e = none → Q () s) := by
  cases e with
  | none => simp [check, wp_pure]
  | some e => simp [check, wp_throw]

theorem wp_attempt {Q : Except ε α → σ → Prop} :
    wp (attempt p) Q E s ↔ wp p (fun a => Q (.ok a)) (fun e => Q (.error e)) s := by
  constructor
  · rintro ⟨r, s', hr, hQ⟩
    obtain ⟨r', t, hp, hr⟩ := Program.returns_bind.mp hr
    obtain ⟨rfl, rfl⟩ := Prod.mk.inj (Program.returns_pure.mp hr)
    refine ⟨r', t, hp, ?_⟩
    cases r' with
    | ok a => exact hQ
    | error e => exact hQ
  · rintro ⟨r', t, hp, hQ⟩
    refine ⟨.ok r', t, Program.returns_bind.mpr ⟨r', t, hp, Program.returns_pure.mpr rfl⟩, ?_⟩
    cases r' with
    | ok a => exact hQ
    | error e => exact hQ

theorem wp_ite {c : Prop} [Decidable c] {q : Fallible ε σ α} (hp : c → wp p Q E s)
    (hq : ¬ c → wp q Q E s) : wp (if c then p else q) Q E s := by
  split_ifs with h
  · exact hp h
  · exact hq h

theorem wp_when {c : Prop} [Decidable c] {p : Fallible ε σ Unit} {Q : Unit → σ → Prop}
    (hp : c → wp p Q E s) (hskip : ¬ c → Q () s) : wp (when c p) Q E s :=
  wp_ite hp fun h => wp_pure.mpr (hskip h)

/-! ### Loops -/

/-- The rounds of a loop, until one of them has a result. -/
def iterateRun (body : L → Fallible ε σ (L ⊕ α)) : ℕ → L → σ → Option (Except ε α × σ)
  | 0, _, _ => none
  | fuel + 1, l, s =>
    match (body l).run.run fuel s with
    | none => none
    | some (.error e, s') => some (.error e, s')
    | some (.ok (.inr a), s') => some (.ok a, s')
    | some (.ok (.inl l'), s') => iterateRun body fuel l' s'

/-- The loop around a body that gets the local variables `L` and returns them for the next
round, or the result of the loop. -/
def iterate (body : L → Fallible ε σ (L ⊕ α)) (l : L) : Fallible ε σ α :=
  ExceptT.mk
    { run := fun fuel s => iterateRun body fuel l s
      mono := by
        intro fuel
        induction fuel generalizing l with
        | zero => exact fun h => by cases h
        | succ fuel ih =>
          intro s r h
          rw [iterateRun] at h ⊢
          rcases hbody : (body l).run.run fuel s with - | ⟨e | l' | a, s'⟩
          · rw [hbody] at h
            cases h
          · rw [hbody] at h
            rw [(body l).run.mono hbody]
            exact h
          · rw [hbody] at h
            rw [(body l).run.mono hbody]
            exact ih l' h
          · rw [hbody] at h
            rw [(body l).run.mono hbody]
            exact h }

section Iterate

variable {body : L → Fallible ε σ (L ⊕ α)} {l : L}

/-- A round, and then the rest of the loop. -/
theorem wp_iterate_step
    (h : wp (body l) (fun r s' => r.elim (fun l' => wp (iterate body l') Q E s') (Q · s')) E s) :
    wp (iterate body l) Q E s := by
  obtain ⟨r, s', ⟨m, hr⟩, hQ⟩ := h
  rcases r with e | l' | a
  · refine ⟨.error e, s', ⟨m + 1, ?_⟩, hQ⟩
    show iterateRun body (m + 1) l s = _
    rw [iterateRun, hr]
  · obtain ⟨r, t, ⟨n, hrest⟩, hQ⟩ := hQ
    refine ⟨r, t, ⟨max m n + 1, ?_⟩, hQ⟩
    show iterateRun body (max m n + 1) l s = _
    rw [iterateRun, Program.run_of_le (le_max_left m n) hr]
    exact Program.run_of_le (p := (iterate body l').run) (le_max_right m n) hrest
  · refine ⟨.ok a, s', ⟨m + 1, ?_⟩, hQ⟩
    show iterateRun body (m + 1) l s = _
    rw [iterateRun, hr]

/-- **Loops.**  A round keeps the invariant and makes the measure smaller, or it is the
last one. -/
theorem wp_iterate {I : L → σ → Prop} (μ : L → σ → ℕ)
    (hbody : ∀ l s, I l s →
      wp (body l) (fun r s' => r.elim (fun l' => I l' s' ∧ μ l' s' < μ l s) (Q · s')) E s)
    (h : I l s) : wp (iterate body l) Q E s := by
  induction hn : μ l s using Nat.strong_induction_on generalizing l s with
  | _ n ih =>
    apply wp_iterate_step
    apply wp_mono (hbody l s h)
    · intro r s' hr
      rcases r with l' | a
      · exact ih (μ l' s') (hn ▸ hr.2) hr.1 rfl
      · exact hr
    · exact fun _ _ hE => hE

end Iterate

end Fallible
