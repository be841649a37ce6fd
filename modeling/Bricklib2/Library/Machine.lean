/-
Bricklib2/Library/Machine.lean

Event-driven machines: a state type `σ`, an event type `ε` and a partial step
function `step : σ → ε → Option σ`.  An event is everything the outside world
decides in one step (which interrupt fires, what it delivers, which return
codes the environment hands out), so a *run* is just a list of events and all
nondeterminism is quantified at the front of a theorem.  `none` means that the
step has no successor: the event is impossible there, or the code it stands
for never returns.

Three induction rules carry the invariants of a development:

* `run_induct` — what every step preserves holds at the end of every run;
* `run_induct_history` — the same for what relates a state to the events before it;
* `run_induct_meets` — the same for runs all of whose steps meet a condition
  on the state before the step and the event (`Meets`).

A machine that answers each event is run by `transduce`; two of them answer alike
if they do so from related states (`transduce_simulates`).  What the states of a
machine do not hold (a clock, a log) is kept beside them by an observer (`observed`).
-/
import Mathlib.Data.List.Induction

namespace Machine

variable {σ ε : Type*} {step : σ → ε → Option σ}

/-! ### Runs -/

/-- Run a list of events, left to right. -/
def run (step : σ → ε → Option σ) : σ → List ε → Option σ
  | s, [] => some s
  | s, e :: es => (step s e).bind fun s' => run step s' es

@[simp] theorem run_nil (s : σ) : run step s [] = some s := rfl

theorem run_cons (s : σ) (e : ε) (es : List ε) :
    run step s (e :: es) = (step s e).bind fun s' => run step s' es := rfl

theorem run_cons_eq_some {s t : σ} {e : ε} {es : List ε} :
    run step s (e :: es) = some t ↔ ∃ s', step s e = some s' ∧ run step s' es = some t := by
  rw [run_cons, Option.bind_eq_some_iff]

@[simp] theorem run_singleton (s : σ) (e : ε) : run step s [e] = step s e := by
  rw [run_cons]
  exact Option.bind_fun_some (step s e)

theorem run_append (s : σ) (es fs : List ε) :
    run step s (es ++ fs) = (run step s es).bind fun s' => run step s' fs := by
  induction es generalizing s with
  | nil => rfl
  | cons e es ih =>
    rw [List.cons_append, run_cons, run_cons, Option.bind_assoc]
    exact congrArg _ (funext fun s' => ih s')

theorem run_append_eq_some {s t : σ} {es fs : List ε} :
    run step s (es ++ fs) = some t ↔
      ∃ s', run step s es = some s' ∧ run step s' fs = some t := by
  rw [run_append, Option.bind_eq_some_iff]

/-- The state a run ends in; `s` itself where the run has no end. -/
def after (step : σ → ε → Option σ) (s : σ) (es : List ε) : σ := (run step s es).getD s

theorem run_eq_after {s : σ} {es : List ε} (h : (run step s es).isSome = true) :
    run step s es = some (after step s es) := by
  obtain ⟨t, ht⟩ := Option.isSome_iff_exists.mp h
  rw [after, ht, Option.getD_some]

/-! ### Invariants -/

/-- What every step preserves, every run preserves. -/
theorem run_induct {P : σ → Prop}
    (hstep : ∀ s e s', P s → step s e = some s' → P s') {s t : σ} {es : List ε}
    (h : P s) (hr : run step s es = some t) : P t := by
  induction es generalizing s with
  | nil =>
    obtain rfl := Option.some.inj hr
    exact h
  | cons e es ih =>
    obtain ⟨s', he, hes⟩ := run_cons_eq_some.mp hr
    exact ih (hstep s e s' h he) hes

/-- What holds of no events, and of one more whenever a step is made, holds of the events
of every run. -/
theorem run_induct_history {P : List ε → σ → Prop} {s : σ} (h : P [] s)
    (hstep : ∀ es e u u', run step s es = some u → P es u → step u e = some u' →
      P (es ++ [e]) u') {es : List ε} {t : σ} (hr : run step s es = some t) : P es t := by
  induction es using List.reverseRecOn generalizing t with
  | nil =>
    obtain rfl := Option.some.inj hr
    exact h
  | append_singleton es e ih =>
    obtain ⟨u, hes, he⟩ := run_append_eq_some.mp hr
    rw [run_singleton] at he
    exact hstep es e u t hes (ih hes) he

/-- Every step of the run, taken from its own state, meets `cond`. -/
def Meets (step : σ → ε → Option σ) (cond : σ → ε → Prop) : σ → List ε → Prop
  | _, [] => True
  | s, e :: es => cond s e ∧ ∀ s', step s e = some s' → Meets step cond s' es

/-- What every step that meets `cond` preserves, every run preserves whose
steps all meet it. -/
theorem run_induct_meets {P : σ → Prop} {cond : σ → ε → Prop}
    (hstep : ∀ s e s', P s → cond s e → step s e = some s' → P s') {s t : σ}
    {es : List ε} (h : P s) (hm : Meets step cond s es) (hr : run step s es = some t) :
    P t := by
  induction es generalizing s with
  | nil =>
    obtain rfl := Option.some.inj hr
    exact h
  | cons e es ih =>
    obtain ⟨s', he, hes⟩ := run_cons_eq_some.mp hr
    obtain ⟨hc, hm⟩ := hm
    exact ih (hstep s e s' h hc he) (hm s' he) hes

/-- Whether a concrete run meets a decidable condition can be computed. -/
def decideMeets (step : σ → ε → Option σ) (cond : σ → ε → Prop)
    [∀ s e, Decidable (cond s e)] : ∀ s es, Decidable (Meets step cond s es)
  | _, [] => isTrue trivial
  | s, e :: es =>
    match h : step s e with
    | none =>
      decidable_of_iff (cond s e) ⟨fun hc => ⟨hc, fun _ ht => by rw [h] at ht; cases ht⟩, And.left⟩
    | some s' =>
      have := decideMeets step cond s' es
      decidable_of_iff (cond s e ∧ Meets step cond s' es)
        ⟨fun hc => ⟨hc.1, fun _ ht => by rw [h] at ht; exact Option.some.inj ht ▸ hc.2⟩,
          fun hc => ⟨hc.1, hc.2 s' h⟩⟩

instance {cond : σ → ε → Prop} [∀ s e, Decidable (cond s e)] {s : σ} {es : List ε} :
    Decidable (Meets step cond s es) := decideMeets step cond s es

theorem Meets.mono {cond cond' : σ → ε → Prop} (hc : ∀ s e, cond s e → cond' s e) {s : σ}
    {es : List ε} (hm : Meets step cond s es) : Meets step cond' s es := by
  induction es generalizing s with
  | nil => trivial
  | cons e es ih => exact ⟨hc s e hm.1, fun s' he => ih (hm.2 s' he)⟩

/-- What an invariant turns one condition into. -/
theorem Meets.imp {P : σ → Prop} {cond cond' : σ → ε → Prop}
    (hstep : ∀ s e s', P s → cond s e → step s e = some s' → P s')
    (himp : ∀ s e, P s → cond s e → cond' s e) {s : σ} {es : List ε} (h : P s)
    (hm : Meets step cond s es) : Meets step cond' s es := by
  induction es generalizing s with
  | nil => trivial
  | cons e es ih =>
    exact ⟨himp s e h hm.1, fun s' he => ih (hstep s e s' h hm.1 he) (hm.2 s' he)⟩

theorem Meets.and {cond cond' : σ → ε → Prop} {s : σ} {es : List ε}
    (hm : Meets step cond s es) (hm' : Meets step cond' s es) :
    Meets step (fun s e => cond s e ∧ cond' s e) s es := by
  induction es generalizing s with
  | nil => trivial
  | cons e es ih => exact ⟨⟨hm.1, hm'.1⟩, fun s' he => ih (hm.2 s' he) (hm'.2 s' he)⟩

/-- A condition on the events alone. -/
theorem Meets.of_forall {cond : ε → Prop} {es : List ε} (h : ∀ e ∈ es, cond e) (s : σ) :
    Meets step (fun _ e => cond e) s es := by
  induction es generalizing s with
  | nil => trivial
  | cons e es ih =>
    refine ⟨h e List.mem_cons_self, fun s' _ => ih (fun x hx => ?_) s'⟩
    exact h x (List.mem_cons_of_mem e hx)

theorem Meets.append {cond : σ → ε → Prop} {s t : σ} {es fs : List ε}
    (hm : Meets step cond s (es ++ fs)) (hr : run step s es = some t) :
    Meets step cond s es ∧ Meets step cond t fs := by
  induction es generalizing s with
  | nil =>
    obtain rfl := Option.some.inj hr
    exact ⟨trivial, hm⟩
  | cons e es ih =>
    obtain ⟨s', he, hes⟩ := run_cons_eq_some.mp hr
    refine ⟨⟨hm.1, fun u hu => ?_⟩, (ih (hm.2 s' he) hes).2⟩
    obtain rfl := Option.some.inj (he.symm.trans hu)
    exact (ih (hm.2 s' he) hes).1

theorem Meets.join {cond : σ → ε → Prop} {s t : σ} {es fs : List ε} (hes : Meets step cond s es)
    (hr : run step s es = some t) (hfs : Meets step cond t fs) :
    Meets step cond s (es ++ fs) := by
  induction es generalizing s with
  | nil =>
    obtain rfl := Option.some.inj hr
    exact hfs
  | cons e es ih =>
    refine ⟨hes.1, fun s' he => ih (hes.2 s' he) ?_⟩
    obtain ⟨u, hu, hrest⟩ := run_cons_eq_some.mp hr
    obtain rfl := Option.some.inj (he.symm.trans hu)
    exact hrest

/-- A run meets `cond` exactly if `P` holds in all states it passes through, where
`cond` is what makes a step keep `P`. -/
theorem meets_iff_reached {I P : σ → Prop} {cond : σ → ε → Prop}
    (hinv : ∀ s e s', I s → step s e = some s' → I s')
    (hstep : ∀ s e s', I s → P s → step s e = some s' → (P s' ↔ cond s e)) {s t : σ}
    {es : List ε} (hI : I s) (hP : P s) (hr : run step s es = some t) :
    (∀ pre post u, es = pre ++ post → run step s pre = some u → P u) ↔ Meets step cond s es := by
  induction es generalizing s with
  | nil =>
    refine ⟨fun _ => trivial, fun _ pre post u hsplit hu => ?_⟩
    obtain ⟨rfl, -⟩ := List.nil_eq_append_iff.mp hsplit
    obtain rfl := Option.some.inj hu
    exact hP
  | cons e es ih =>
    obtain ⟨s', he, hes⟩ := run_cons_eq_some.mp hr
    have hiff := hstep s e s' hI hP he
    constructor
    · -- the state behind the first step is one of those that are reached
      intro hall
      have hP' : P s' := hall [e] es s' rfl (run_cons_eq_some.mpr ⟨s', he, rfl⟩)
      have hrest := (ih (hinv s e s' hI he) hP' hes).mp fun pre post u hsplit hu =>
        hall (e :: pre) post u (congrArg (List.cons e) hsplit) (run_cons_eq_some.mpr ⟨s', he, hu⟩)
      refine ⟨hiff.mp hP', fun u hu => ?_⟩
      obtain rfl := Option.some.inj (he.symm.trans hu)
      exact hrest
    · rintro ⟨hc, hrest⟩ pre post u hsplit hu
      -- a prefix is empty, or begins with the same step
      cases pre with
      | nil =>
        obtain rfl := Option.some.inj hu
        exact hP
      | cons e' pre =>
        obtain ⟨rfl, hes'⟩ := List.cons_eq_cons.mp hsplit
        obtain ⟨s'', he', hu⟩ := run_cons_eq_some.mp hu
        obtain rfl := Option.some.inj (he.symm.trans he')
        exact (ih (hinv s e s' hI he) (hiff.mpr hc) hes).mpr (hrest s' he) pre post u hes' hu

/-- Two conditions that agree in all states that are reached while they are met. -/
theorem meets_congr_meets {I : σ → Prop} {cond cond' : σ → ε → Prop}
    (hinv : ∀ s e s', I s → cond' s e → step s e = some s' → I s')
    (hiff : ∀ s e, I s → (cond s e ↔ cond' s e)) {s : σ} (hI : I s) (es : List ε) :
    Meets step cond s es ↔ Meets step cond' s es := by
  induction es generalizing s with
  | nil => exact Iff.rfl
  | cons e es ih =>
    constructor
    · rintro ⟨hc, hrest⟩
      have hc' := (hiff s e hI).mp hc
      exact ⟨hc', fun s' he => (ih (hinv s e s' hI hc' he)).mp (hrest s' he)⟩
    · rintro ⟨hc', hrest⟩
      exact ⟨(hiff s e hI).mpr hc', fun s' he => (ih (hinv s e s' hI hc' he)).mpr (hrest s' he)⟩

/-- Two conditions that agree in all states a run can reach. -/
theorem meets_congr {I : σ → Prop} {cond cond' : σ → ε → Prop}
    (hinv : ∀ s e s', I s → step s e = some s' → I s')
    (hiff : ∀ s e, I s → (cond s e ↔ cond' s e)) {s : σ} (hI : I s) (es : List ε) :
    Meets step cond s es ↔ Meets step cond' s es :=
  meets_congr_meets (fun s e s' h _ hs => hinv s e s' h hs) hiff hI es

/-- The next step of a run, from each of its states. -/
theorem meets_iff_next {cond : σ → ε → Prop} {s : σ} {es : List ε} :
    Meets step cond s es ↔ ∀ pre e post u, es = pre ++ e :: post → run step s pre = some u →
      cond u e := by
  induction es generalizing s with
  | nil =>
    refine iff_of_true trivial fun pre e post u hsplit _ => ?_
    cases pre <;> cases hsplit
  | cons e es ih =>
    constructor
    · rintro ⟨hc, hrest⟩ pre e' post u hsplit hu
      cases pre with
      | nil =>
        obtain ⟨rfl, -⟩ := List.cons_eq_cons.mp hsplit
        obtain rfl := Option.some.inj hu
        exact hc
      | cons e'' pre =>
        obtain ⟨rfl, hes⟩ := List.cons_eq_cons.mp hsplit
        obtain ⟨s', he, hu⟩ := run_cons_eq_some.mp hu
        exact ih.mp (hrest s' he) pre e' post u hes hu
    · intro h
      refine ⟨h [] e es s rfl rfl, fun s' he => ih.mpr fun pre e' post u hsplit hu => ?_⟩
      exact h (e :: pre) e' post u (congrArg (List.cons e) hsplit)
        (run_cons_eq_some.mpr ⟨s', he, hu⟩)

/-! ### Observers -/

section Observer

variable {ω : Type*} {note : σ → ε → σ → ω → ω}

/-- The machine with an observer, which notes every step and decides nothing. -/
def observed (step : σ → ε → Option σ) (note : σ → ε → σ → ω → ω) (p : σ × ω) (e : ε) :
    Option (σ × ω) :=
  (step p.1 e).map fun s' => (s', note p.1 e s' p.2)

theorem observed_eq_some {p p' : σ × ω} {e : ε} : observed step note p e = some p' ↔
    step p.1 e = some p'.1 ∧ p'.2 = note p.1 e p'.1 p.2 := by
  rw [observed, Option.map_eq_some_iff]
  constructor
  · rintro ⟨s', hs', rfl⟩
    exact ⟨hs', rfl⟩
  · rintro ⟨hs', hnote⟩
    exact ⟨p'.1, hs', Prod.ext rfl hnote.symm⟩

/-- A run can be observed. -/
theorem exists_run_observed (note : σ → ε → σ → ω → ω) {s t : σ} {es : List ε}
    (hr : run step s es = some t) (w : ω) :
    ∃ w', run (observed step note) (s, w) es = some (t, w') := by
  induction es generalizing s w with
  | nil =>
    obtain rfl := Option.some.inj hr
    exact ⟨w, rfl⟩
  | cons e es ih =>
    obtain ⟨s', he, hes⟩ := run_cons_eq_some.mp hr
    obtain ⟨w', hw'⟩ := ih hes (note s e s' w)
    exact ⟨w', run_cons_eq_some.mpr ⟨(s', note s e s' w), observed_eq_some.mpr ⟨he, rfl⟩, hw'⟩⟩

/-- What the observer notes has no influence on the steps. -/
theorem meets_observed {cond : σ → ε → Prop} {s : σ} {w : ω} {es : List ε} :
    Meets (observed step note) (fun p e => cond p.1 e) (s, w) es ↔ Meets step cond s es := by
  induction es generalizing s w with
  | nil => exact Iff.rfl
  | cons e es ih =>
    apply and_congr Iff.rfl
    constructor
    · intro h s' he
      exact ih.mp (h (s', note s e s' w) (observed_eq_some.mpr ⟨he, rfl⟩))
    · rintro h ⟨s', w'⟩ he
      exact ih.mpr (h s' (observed_eq_some.mp he).1)

end Observer

/-! ### Answers -/

variable {τ ω : Type*} {answer : σ → ε → ω × σ} {answer' : τ → ε → ω × τ}

/-- The answers to a list of events, and the state behind the last one. -/
def transduce (answer : σ → ε → ω × σ) : σ → List ε → List ω × σ
  | s, [] => ([], s)
  | s, e :: es =>
    let rest := transduce answer (answer s e).2 es
    ((answer s e).1 :: rest.1, rest.2)

/-- Machines that answer alike from related states do so for ever. -/
theorem transduce_simulates {R : σ → τ → Prop}
    (hstep : ∀ s t e, R s t →
      (answer s e).1 = (answer' t e).1 ∧ R (answer s e).2 (answer' t e).2)
    {s : σ} {t : τ} (h : R s t) (es : List ε) :
    (transduce answer s es).1 = (transduce answer' t es).1 ∧
      R (transduce answer s es).2 (transduce answer' t es).2 := by
  induction es generalizing s t with
  | nil => exact ⟨rfl, h⟩
  | cons e es ih =>
    obtain ⟨hanswer, hnext⟩ := hstep s t e h
    obtain ⟨hrest, hend⟩ := ih hnext
    exact ⟨congrArg₂ List.cons hanswer hrest, hend⟩

end Machine
