/-
Bricklib2/Warp/Wem/SdStatus.lean

The two status words of the SD module and the file system they stand for.
`sd_init_task` stores the result of the first mount and, where a card could be
mounted only after it had been formatted, never replaces it: the file system is
then mounted, but the status is that of the first try, and as the card itself was
found, nothing makes the task try again.

Main result: `status_mounted`, with `repaired_stays_idle` on what that costs.
-/
import Bricklib2.Warp.Wem.SdInit

namespace Bricklib2

open FileStore Machine

variable {b : Build}

/-- Both status words are OK. -/
def Sd.StatusOk (sd : Sd b) : Prop := sd.sdStatus = 0 ∧ sd.lfsStatus = 0

instance (sd : Sd b) : Decidable sd.StatusOk := inferInstanceAs (Decidable (_ ∧ _))

/-! ### What the initialisation is meant to find out -/

/-- The calls on the whole card, with the answer of littlefs. -/
inductive LfsCall
  | format (code : LfsCode)
  | mount (code : LfsCode)

/-- The calls of `lfs_format` and `lfs_mount` in `sd_init_task`, in their order. -/
def InitCodes.calls (format : Bool) (codes : InitCodes) : List LfsCall :=
  if codes.sdmmc ≠ 0 then
    []
  else if format && codes.format.isSome then
    [.format codes.format]
  else
    (if format then [.format codes.format] else []) ++ .mount codes.mount ::
      if codes.mount.isNone then
        []
      else
        .format codes.formatAgain :: if codes.formatAgain.isSome then [] else [.mount codes.mountAgain]

/-- What a call leaves of a mounted file system. -/
def LfsCall.mounts (mounted : Bool) : LfsCall → Bool
  | .format code => mounted && code.isNone
  | .mount code => code.isNone

/-- The card was found, the last `lfs_mount` succeeded, and no `lfs_format` failed
behind it. -/
def InitCodes.mounts (format : Bool) (codes : InitCodes) : Bool :=
  codes.sdmmc = 0 && (codes.calls format).foldl LfsCall.mounts false

/-- The first mount fails, and the format and the mount behind it succeed. -/
def InitCodes.repairs (format : Bool) (codes : InitCodes) : Bool :=
  codes.sdmmc = 0 && !(format && codes.format.isSome) && codes.mount.isSome &&
    codes.formatAgain.isNone && codes.mountAgain.isNone

/-! ### One initialisation -/

section Init

variable {now : ℕ} {format : Bool} {codes : InitCodes} {sd : Sd b}

theorem lfsAbs_eq_zero {code : LfsCode} : lfsAbs code = 0 ↔ code = none := by
  rcases code with - | - | - | code
  · exact iff_of_true rfl rfl
  · exact iff_of_false (by decide) (by rintro ⟨⟩)
  · exact iff_of_false (by decide) (by rintro ⟨⟩)
  · exact iff_of_false (Nat.succ_ne_zero code) (by rintro ⟨⟩)

theorem mounts_of_sdmmc (h : codes.sdmmc ≠ 0) : codes.mounts format = false := by
  rw [InitCodes.mounts, decide_eq_false h, Bool.false_and]

theorem mounts_of_format (h : (format && codes.format.isSome) = true) :
    codes.mounts format = false := by
  obtain ⟨-, hcode⟩ := (Bool.and_eq_true _ _).mp h
  obtain ⟨code, hcode⟩ := Option.isSome_iff_exists.mp hcode
  by_cases hsdmmc : codes.sdmmc = 0
  · rw [InitCodes.mounts, InitCodes.calls, if_neg (not_not.mpr hsdmmc), if_pos h, hcode,
      decide_eq_true hsdmmc]
    rfl
  · exact mounts_of_sdmmc hsdmmc

/-- Once the first mount is reached, its result decides, or that of the second one. -/
theorem mounts_of_mount (hsdmmc : codes.sdmmc = 0) (h : (format && codes.format.isSome) = false) :
    codes.mounts format = (codes.mount.isNone || codes.repairs format) := by
  rw [InitCodes.mounts, InitCodes.calls, if_neg (not_not.mpr hsdmmc), if_neg (by rw [h]; decide),
    List.foldl_append, List.foldl_cons, InitCodes.repairs, h, decide_eq_true hsdmmc]
  simp only [LfsCall.mounts]
  cases codes.mount <;> cases codes.formatAgain <;> cases codes.mountAgain <;> rfl

theorem mounted_statusOk : (sd.mounted codes).StatusOk ↔ codes.sdmmc = 0 ∧ codes.mount = none := by
  have hsd : (sd.mounted codes).sdStatus = codes.sdmmc := by
    unfold Sd.mounted
    dsimp only
    split_ifs <;> rfl
  have hlfs : (sd.mounted codes).lfsStatus = 0 ↔ codes.mount = none := by
    unfold Sd.mounted
    dsimp only
    split_ifs with hmount hformat hagain
    · exact lfsAbs_eq_zero
    · -- only a failure of the second try replaces the status of the first
      refine iff_of_false (fun h => ?_) (fun h => hmount (by rw [h]; rfl))
      rw [lfsAbs_eq_zero.mp h] at hformat
      cases hformat
    · refine iff_of_false (fun h => ?_) (fun h => hmount (by rw [h]; rfl))
      rw [lfsAbs_eq_zero.mp h] at hagain
      cases hagain
    · exact lfsAbs_eq_zero
  exact and_congr (by rw [hsd]) hlfs

/-- The status is that of the first mount. -/
theorem sdInitTask_statusOk :
    (sdInitTask now format codes sd).1.StatusOk ↔
      codes.mounts format = true ∧ codes.repairs format = false := by
  unfold sdInitTask
  dsimp only
  by_cases hsdmmc : codes.sdmmc = 0
  · rw [if_neg (not_not.mpr hsdmmc)]
    have hmounted (sd : Sd b) (hfirst : (format && codes.format.isSome) = false) :
        (sd.mounted codes).StatusOk ↔
          codes.mounts format = true ∧ codes.repairs format = false := by
      rw [mounted_statusOk, mounts_of_mount hsdmmc hfirst, InitCodes.repairs, hfirst,
        decide_eq_true hsdmmc, ← Option.isNone_iff_eq_none]
      cases codes.mount <;> simp [hsdmmc]
    cases format with
    | false => exact hmounted _ rfl
    | true =>
      cases hcode : codes.format with
      | some e =>
        have hfailed : (true && codes.format.isSome) = true := by rw [hcode]; rfl
        rw [mounts_of_format hfailed]
        exact iff_of_false (fun hok => by cases lfsAbs_eq_zero.mp hok.2) (by rintro ⟨⟨⟩, -⟩)
      | none => exact hmounted _ (by rw [hcode]; rfl)
  · rw [if_pos hsdmmc, mounts_of_sdmmc hsdmmc]
    exact iff_of_false (fun hok => hsdmmc hok.1) (by rintro ⟨⟨⟩, -⟩)

theorem mounts_of_repairs (h : codes.repairs format = true) : codes.mounts format = true := by
  have hparts := h
  simp only [InitCodes.repairs, Bool.and_eq_true, decide_eq_true_iff, Bool.not_eq_true'] at hparts
  obtain ⟨⟨⟨⟨hsdmmc, hfirst⟩, -⟩, -⟩, -⟩ := hparts
  rw [mounts_of_mount hsdmmc hfirst, h, Bool.or_true]

/-- **One initialisation** tells whether the file system is mounted exactly if it did
not have to be repaired. -/
theorem sdInitTask_status_iff :
    ((sdInitTask now format codes sd).1.StatusOk ↔ codes.mounts format = true) ↔
      codes.repairs format = false := by
  rw [sdInitTask_statusOk]
  cases hrepairs : codes.repairs format with
  | false => simp
  | true => simp [mounts_of_repairs hrepairs]

end Init

/-! ### Runs of the task -/

namespace SdSystem

variable {s s' : SdSystem b} {env : SdEnv}

/-- More than ten errors, or a requested format. -/
def unmounts (s : SdSystem b) : Bool := s.sdLfsFormat || decide (10 < s.sd.sdRwErrorCount)

/-- Whether the file system is mounted: the loop unmounts it before it initialises the
card because of errors. -/
def noteMounted (s : SdSystem b) (e : SdEvent b) (_ : SdSystem b) (mounted : Bool) : Bool :=
  match e, s.pc with
  | .task env, .loop =>
    if s.initDue env then env.init.mounts s.sdLfsFormat else mounted && !s.unmounts
  | _, _ => mounted

/-- An initialisation that repairs the file system takes place in this step. -/
def Repairs (s : SdSystem b) : SdEvent b → Prop
  | .task env => s.pc = .loop ∧ s.initDue env = true ∧ env.init.repairs s.sdLfsFormat = true
  | _ => False

/-- The status words say whether the file system is mounted. -/
def StatusTells (p : SdSystem b × Bool) : Prop := p.1.sd.StatusOk ↔ p.2 = true

theorem errorsHandled_statusOk :
    (s.errorsHandled env).StatusOk ↔ s.sd.StatusOk ∧ s.unmounts = false := by
  unfold errorsHandled unmounts
  dsimp only
  cases s.sdLfsFormat with
  | true => exact iff_of_false (by rintro ⟨⟨⟩, -⟩) (by rintro ⟨-, ⟨⟩⟩)
  | false =>
    rw [if_neg Bool.false_ne_true, Bool.false_or]
    by_cases hcount : 10 < s.sd.sdRwErrorCount
    · rw [if_pos hcount, decide_eq_true hcount]
      exact iff_of_false (by rintro ⟨⟨⟩, -⟩) (by rintro ⟨-, ⟨⟩⟩)
    · rw [if_neg hcount, decide_eq_false hcount]
      exact (and_iff_left rfl).symm

/-- The handlers run exactly if both words are OK. -/
theorem taskStep_handles (hpc : s.pc = .loop) :
    (s.taskStep env).pc = .setter .wallbox ↔ (s.taskStep env).sd.StatusOk := by
  rw [taskStep, hpc]
  show (s.loopStep env).pc = _ ↔ (s.loopStep env).sd.StatusOk
  rw [loopStep_eq]
  show (if _ then SdPc.setter _ else SdPc.loop) = _ ↔ (s.looped env).1.StatusOk
  rw [Sd.StatusOk, ← decide_eq_true_iff (p := _ ∧ _), Bool.decide_and]
  split_ifs with h
  · exact iff_of_true rfl h
  · exact iff_of_false (by rintro ⟨⟩) h

/-- The loop makes the words tell, unless it repairs the file system. -/
theorem loopStep_statusTells {mounted : Bool} (hpc : s.pc = .loop)
    (h : StatusTells (s, mounted)) :
    StatusTells (s.taskStep env, s.noteMounted (.task env) (s.taskStep env) mounted) ↔
      ¬ s.Repairs (.task env) := by
  have hsd : (s.taskStep env).sd = (s.looped env).1 := by
    rw [taskStep, hpc]
    rfl
  have hnote : s.noteMounted (.task env) (s.taskStep env) mounted =
      if s.initDue env then env.init.mounts s.sdLfsFormat else mounted && !s.unmounts := by
    simp only [noteMounted, hpc]
  rw [StatusTells, Repairs, hnote, hsd, looped]
  cases hdue : s.initDue env with
  | true =>
    rw [if_pos rfl, if_pos rfl, sdInitTask_status_iff]
    simp [hpc]
  | false =>
    rw [if_neg Bool.false_ne_true, if_neg Bool.false_ne_true]
    refine iff_of_true ?_ (by simp)
    rw [errorsHandled_statusOk, Bool.and_eq_true, Bool.not_eq_true']
    exact and_congr_left fun _ => h

/-- **One step** keeps the words telling exactly if it does not repair the file system. -/
theorem step_statusTells (p : SdSystem b × Bool) (e : SdEvent b) (p' : SdSystem b × Bool)
    (h : StatusTells p) (hs : observed step noteMounted p e = some p') :
    StatusTells p' ↔ ¬ p.1.Repairs e := by
  obtain ⟨s, mounted⟩ := p
  obtain ⟨s', mounted'⟩ := p'
  obtain ⟨hnext, hnote⟩ := observed_eq_some.mp hs
  dsimp only at hnext hnote ⊢
  subst hnote
  -- only the top of the loop touches the two words
  have hkept (hsd : s'.sd.sdStatus = s.sd.sdStatus ∧ s'.sd.lfsStatus = s.sd.lfsStatus) :
      StatusTells (s', mounted) := by
    rw [StatusTells, Sd.StatusOk, hsd.1, hsd.2]
    exact h
  cases e with
  | append p =>
    obtain rfl := Option.some.inj hnext
    refine iff_of_true (hkept ?_) id
    unfold append
    dsimp only
    split_ifs <;> exact ⟨rfl, rfl⟩
  | pageWrite i page now =>
    change (if systemTimerGetMs now = 0 then none else some _) = some s' at hnext
    split_ifs at hnext
    obtain rfl := Option.some.inj hnext
    exact iff_of_true (hkept ⟨rfl, rfl⟩) id
  | task env =>
    obtain rfl := Option.some.inj hnext
    by_cases hpc : s.pc = .loop
    · exact loopStep_statusTells hpc h
    · refine iff_of_true ?_ fun hrepairs => hpc hrepairs.1
      have hnote : s.noteMounted (.task env) (s.taskStep env) mounted = mounted := by
        unfold noteMounted
        split
        · exact absurd ‹_› hpc
        · rfl
      rw [hnote]
      apply hkept
      cases hcase : s.pc with
      | loop => exact absurd hcase hpc
      | setter k =>
        rw [taskStep, hcase]
        dsimp only
        unfold setterStep
        cases (s.sd.queue k).getLast? <;> exact ⟨rfl, rfl⟩
      | storage =>
        rw [taskStep, hcase]
        exact ⟨rfl, rfl⟩
      | _ =>
        rw [taskStep, hcase]
        simp only [writingStep, getterStep, readingStep, waitingStep, enterGetter]
        split_ifs <;> exact ⟨rfl, rfl⟩
  | _ =>
    obtain rfl := Option.some.inj hnext
    exact iff_of_true (hkept ⟨rfl, rfl⟩) id

theorem init_statusTells (card : Path → Option (List UInt8)) (now : ℕ) :
    StatusTells (init (b := b) card now, false) :=
  iff_of_false (by rintro ⟨⟨⟩, -⟩) Bool.false_ne_true

/-! ### After a repair -/

/-- The task does nothing, and nothing is going to change that. -/
structure Idle (s : SdSystem b) : Prop where
  loop : s.pc = .loop
  failed : ¬ s.sd.StatusOk
  found : s.sd.sdmmcInitLast = 0
  noErrors : s.sd.sdRwErrorCount = 0
  noFormat : s.sdLfsFormat = false

theorem Idle.initDue (h : s.Idle) (env : SdEnv) :
    s.errorsHandled env = s.sd ∧ s.initDue env = false := by
  have hsd : s.errorsHandled env = s.sd := by
    unfold errorsHandled
    rw [h.noFormat, if_neg Bool.false_ne_true, h.noErrors, if_neg (by decide), ← h.noErrors]
  refine ⟨hsd, ?_⟩
  unfold SdSystem.initDue
  rw [hsd, h.found]
  rfl

theorem step_idle (e : SdEvent b) (h : s.Idle) (he : e ≠ .requestFormat)
    (hs : s.step e = some s') : s'.Idle := by
  cases e with
  | append p =>
    obtain rfl := Option.some.inj hs
    unfold append
    dsimp only
    split_ifs
    · exact ⟨h.loop, h.failed, h.found, h.noErrors, h.noFormat⟩
    · exact h
  | pageWrite i page now =>
    change (if systemTimerGetMs now = 0 then none else some _) = some s' at hs
    split_ifs at hs
    obtain rfl := Option.some.inj hs
    exact ⟨h.loop, h.failed, h.found, h.noErrors, h.noFormat⟩
  | requestFormat => exact absurd rfl he
  | task env =>
    obtain rfl := Option.some.inj hs
    -- no initialisation is due, so the loop goes round once more
    obtain ⟨hsd, hdue⟩ := h.initDue env
    have hlooped : s.looped env = (s.sd, false) := by
      rw [looped, hdue, if_neg Bool.false_ne_true, hsd, h.noFormat]
    have hfailed : (decide (s.sd.sdStatus = 0) && decide (s.sd.lfsStatus = 0)) = false := by
      rw [← Bool.decide_and]
      exact decide_eq_false h.failed
    rw [taskStep, h.loop]
    show (s.loopStep env).Idle
    rw [loopStep_eq, hlooped]
    exact ⟨if_neg (by rw [hfailed]; decide), h.failed, h.found, h.noErrors, rfl⟩
  | _ =>
    obtain rfl := Option.some.inj hs
    exact ⟨h.loop, h.failed, h.found, h.noErrors, h.noFormat⟩

/-- A repair leaves the task idle. -/
theorem idle_of_repairs (h : s.Repairs (.task env)) : (s.taskStep env).Idle := by
  obtain ⟨hpc, hdue, hrepairs⟩ := h
  have hlooped : s.looped env =
      sdInitTask env.now s.sdLfsFormat env.init (s.errorsHandled env) := if_pos hdue
  have hfailed : ¬ (s.looped env).1.StatusOk := by
    rw [hlooped, sdInitTask_statusOk, hrepairs]
    rintro ⟨-, ⟨⟩⟩
  simp only [InitCodes.repairs, Bool.and_eq_true, decide_eq_true_iff, Bool.not_eq_true'] at hrepairs
  obtain ⟨⟨⟨⟨hsdmmc, hfirst⟩, -⟩, -⟩, -⟩ := hrepairs
  -- the repair leaves no time for the next attempt and counts no error
  have hmounted (sd : Sd b) (h : sd.sdmmcInitLast = 0 ∧ sd.sdRwErrorCount = 0) :
      (sd.mounted env.init).sdmmcInitLast = 0 ∧ (sd.mounted env.init).sdRwErrorCount = 0 := by
    unfold Sd.mounted
    dsimp only
    split_ifs <;> exact h
  have hquiet : ((s.looped env).1.sdmmcInitLast = 0 ∧ (s.looped env).1.sdRwErrorCount = 0) ∧
      (s.looped env).2 = false := by
    rw [hlooped]
    unfold sdInitTask
    dsimp only
    rw [if_neg (not_not.mpr hsdmmc)]
    cases hformat : s.sdLfsFormat with
    | false => exact ⟨hmounted _ ⟨rfl, rfl⟩, rfl⟩
    | true =>
      rw [hformat, Bool.true_and] at hfirst
      rw [hfirst]
      exact ⟨hmounted _ ⟨rfl, rfl⟩, rfl⟩
  have hstatus : (decide ((s.looped env).1.sdStatus = 0) &&
      decide ((s.looped env).1.lfsStatus = 0)) = false := by
    rw [← Bool.decide_and]
    exact decide_eq_false hfailed
  rw [taskStep, hpc]
  show (s.loopStep env).Idle
  rw [loopStep_eq]
  exact ⟨if_neg (by rw [hstatus]; decide), hfailed, hquiet.1.1, hquiet.1.2, hquiet.2⟩

/-- **A repaired card stays unused**: until the host requests a format, no handler
runs and the card is not initialised again. -/
theorem repaired_stays_idle {es : List (SdEvent b)} (h : s.Repairs (.task env))
    (hformat : ∀ e ∈ es, e ≠ .requestFormat) (hr : run step (s.taskStep env) es = some s') :
    s'.Idle :=
  run_induct_meets (fun _ e _ hidle he hs => step_idle e hidle he hs) (idle_of_repairs h)
    (Meets.of_forall hformat _) hr

end SdSystem

open SdSystem in
/-- **The status words.**  One initialisation tells whether the file system is mounted
exactly if it did not repair it; in every run the status words tell in all states
exactly if no initialisation repairs it, and then the handlers run exactly while the
file system is mounted. -/
theorem status_mounted :
    (∀ now format codes, ∀ sd : Sd b,
      ((sdInitTask now format codes sd).1.StatusOk ↔ codes.mounts format = true) ↔
        codes.repairs format = false) ∧
    ∀ card now, ∀ es : List (SdEvent b), ∀ p,
      run (observed step noteMounted) (init card now, false) es = some p →
        ((∀ pre post u, es = pre ++ post →
            run (observed step noteMounted) (init card now, false) pre = some u → StatusTells u) ↔
          Meets (observed step noteMounted) (fun u e => ¬ u.1.Repairs e) (init card now, false) es) ∧
        (Meets (observed step noteMounted) (fun u e => ¬ u.1.Repairs e) (init card now, false) es →
          ∀ pre env post u u', es = pre ++ .task env :: post →
            run (observed step noteMounted) (init card now, false) pre = some u →
            observed step noteMounted u (.task env) = some u' → u.1.pc = .loop →
              (u'.1.pc = .setter .wallbox ↔ u'.2 = true)) := by
  refine ⟨fun now format codes sd => sdInitTask_status_iff, fun card now es p hr => ?_⟩
  have hiff : (∀ pre post u, es = pre ++ post →
      run (observed step noteMounted) (init card now, false) pre = some u → StatusTells u) ↔
        Meets (observed step noteMounted) (fun u e => ¬ u.1.Repairs e) (init card now, false) es :=
    meets_iff_reached (I := fun _ => True) (fun _ _ _ _ _ => trivial)
      (fun u e u' _ h hs => step_statusTells u e u' h hs) trivial (init_statusTells card now) hr
  refine ⟨hiff, fun hm pre env post u u' hsplit hu hs hpc => ?_⟩
  have htells : StatusTells u' := by
    apply hiff.mpr hm (pre ++ [.task env]) post u'
    · rw [hsplit, List.append_assoc, List.singleton_append]
    · rw [run_append, hu, Option.bind_some, run_singleton, hs]
  obtain ⟨hnext, -⟩ := observed_eq_some.mp hs
  have hstep : u'.1 = u.1.taskStep env := (Option.some.inj hnext).symm
  rw [StatusTells, hstep] at htells
  rw [hstep, taskStep_handles hpc, htells]

open SdSystem in
/-- A card that can be mounted at once. -/
theorem status_mounted_started :
    StatusTells (b := .v2) (after (observed step noteMounted) (init (fun _ => none) 1, false) startUp) ∧
      (after (observed step noteMounted) (init (b := .v2) (fun _ => none) 1, false) startUp).2 =
        true := by
  have hr : run (observed step noteMounted) (init (b := .v2) (fun _ => none) 1, false) startUp =
      some (after (observed step noteMounted) (init (fun _ => none) 1, false) startUp) :=
    run_eq_after (by decide +kernel)
  have hall := (((status_mounted (b := .v2)).2 (fun _ => none) 1 startUp _ hr).1).mpr
    (by simp only [startUp, Meets, Repairs]; decide +kernel)
  exact ⟨hall startUp [] _ (List.append_nil _).symm hr, by decide +kernel⟩

/-- A corrupt file system: format and second mount succeed, and the module is left with
the status of the first mount. -/
theorem status_stale :
    ¬ ∀ now format codes, ∀ sd : Sd .v2,
      (sdInitTask now format codes sd).1.StatusOk ↔ codes.mounts format = true := by
  intro h
  have hok := (h 1002 false { mount := some (.other 83) } { files := { lfs := { files := fun _ => none } } }).mpr
    (by decide +kernel)
  revert hok
  decide +kernel

end Bricklib2
