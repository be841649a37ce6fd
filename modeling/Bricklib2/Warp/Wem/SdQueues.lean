/-
Bricklib2/Warp/Wem/SdQueues.lean

The setter queues.  A queue together with the point the task has taken out of it
is the list of pending points, in the order in which the task would write them;
`step_passage` says everything a step does to the pending points and to the data
files.

Main results: `points_kept` for the runs that meet `KeepsPoints`, and
`points_lost`, two runs in which an accepted point disappears.
-/
import Bricklib2.Warp.Wem.SdHandles

namespace Bricklib2

open FileStore Machine

variable {b : Build}

/-- What holds of all kinds can be checked. -/
instance {P : DataKind → Prop} [DecidablePred P] : Decidable (∀ k, P k) :=
  decidable_of_iff (P .wallbox ∧ P .wallboxDaily ∧ P .energyManager ∧ P .energyManagerDaily)
    ⟨fun ⟨hwb, hwbd, hem, hemd⟩ k => by cases k <;> assumption, fun h => ⟨h _, h _, h _, h _⟩⟩

/-! ### What the storage handler leaves alone -/

namespace Storage

variable {codes : StorageCodes} {lfs : Lfs} {st : Storage} {i : Fin dataStoragePages}

/-- The handle of the handler is about a page file, if it is about a file at all. -/
def HandlesPage (st : Storage) : Prop :=
  ∀ path, st.file.path = some path → ∃ i, path = storagePath i

theorem task_handlesPage (h : st.HandlesPage) : (st.task codes lfs).2.HandlesPage := by
  unfold task
  cases st.phase with
  | page j =>
    dsimp only
    split_ifs <;> exact h
  | reading j =>
    dsimp only
    unfold readBegin
    dsimp only
    split_ifs
    · exact h
    · exact fun path hpath => ⟨j, Session.openFile_path hpath⟩
  | read j ok =>
    dsimp only
    unfold readEnd
    dsimp only
    split_ifs <;> exact h
  | writing j =>
    dsimp only
    unfold writeBegin
    dsimp only
    split_ifs
    · exact h
    · intro path hpath
      rw [Session.write_path] at hpath
      exact ⟨j, Session.openFile_path hpath⟩
    · intro path hpath
      rw [Session.write_path] at hpath
      exact ⟨j, Session.openFile_path hpath⟩
  | written j copied ok =>
    dsimp only
    unfold writeEnd
    dsimp only
    split_ifs <;> exact h

/-- Only page files change. -/
theorem task_files {path : Path} (h : st.HandlesPage) (hpath : ∀ i, path ≠ storagePath i) :
    (st.task codes lfs).1.files path = lfs.files path := by
  have hclose : (Session.close ⟨lfs, st.file⟩ codes.close).store.files path = lfs.files path := by
    apply Session.close_files_of_ne
    intro q hq heq
    obtain ⟨i, rfl⟩ := h q hq
    exact hpath i heq
  unfold task
  cases st.phase with
  | page j =>
    dsimp only
    split_ifs <;> rfl
  | reading j =>
    dsimp only
    unfold readBegin
    dsimp only
    split_ifs <;> simp
  | read j ok => exact hclose
  | writing j =>
    dsimp only
    unfold writeBegin
    dsimp only
    split_ifs
    · rw [Session.leave_files, Session.openFile_files_of_ne (hpath j),
        Session.close_files_of_unchanged Session.openFile_changed,
        Session.openFile_files_of_existing, Lfs.newFile_store]
    · rw [Session.write_files, Session.openFile_files_of_ne (hpath j),
        Session.close_files_of_unchanged Session.openFile_changed,
        Session.openFile_files_of_existing, Lfs.newFile_store]
    · rw [Session.write_files, Session.openFile_files_of_existing, Lfs.newFile_store]
  | written j copied ok => exact hclose

end Storage

/-! ### Pending points -/

/-- The point that was taken out of a queue and is being written. -/
def SdPc.taken (k : DataKind) : SdPc b → Option (QueuedPoint b)
  | .writing k' p => if k' = k then some p else none
  | _ => none

namespace SdSystem

variable {s s' : SdSystem b} {e : SdEvent b} {env : SdEnv} {k : DataKind}

/-- The points that are still to be written, the next one in front. -/
def pending (s : SdSystem b) (k : DataKind) : List (QueuedPoint b) :=
  (s.pc.taken k).toList ++ (s.sd.queue k).reverse

/-- What the card has of a file. -/
def dataFile (s : SdSystem b) (f : FileName) : Option (List UInt8) :=
  s.sd.files.lfs.files (sdGetPathWithFilename f)

/-- The step neither initialises the card nor writes a point. -/
def Uneventful (s : SdSystem b) : SdEvent b → Prop
  | .task env =>
    match s.pc with
    | .loop => s.initDue env = false
    | .writing _ _ => False
    | _ => True
  | _ => True

/-- What a step does to the pending points and to the data files. -/
inductive Passage (s : SdSystem b) : SdEvent b → SdSystem b → Prop
  /-- Nothing. -/
  | quiet (e : SdEvent b) (s' : SdSystem b) (huneventful : s.Uneventful e)
      (hpending : s'.pending = s.pending)
      (haccepted : s'.accepted = s.accepted) (hwritten : s'.written = s.written)
      (hfiles : s'.dataFile = s.dataFile) : Passage s e s'
  /-- A point is accepted; it goes behind the one in flight, before all others. -/
  | accepted (p : DataPoint b) (s' : SdSystem b)
      (hroom : (s.sd.queue p.kind).length < p.kind.queueLength)
      (hpending : s'.pending = Function.update s.pending p.kind
        ((s.pc.taken p.kind).toList ++ ⟨s.accepted.length, p⟩ :: (s.sd.queue p.kind).reverse))
      (haccepted : s'.accepted = ⟨s.accepted.length, p⟩ :: s.accepted)
      (hwritten : s'.written = s.written) (hfiles : s'.dataFile = s.dataFile) :
      Passage s (.append p) s'
  /-- The card is initialised, and the queues are cleared. -/
  | initialised (env : SdEnv) (s' : SdSystem b) (hpc : s.pc = .loop) (hdue : s.initDue env = true)
      (hpending : s'.pending = fun _ => []) (haccepted : s'.accepted = s.accepted)
      (hwritten : s'.written = s.written)
      (hfiles : env.init.formats s.sdLfsFormat = false → s'.dataFile = s.dataFile)
      (hgone : ∀ f, s'.dataFile f = s.dataFile f ∨ s'.dataFile f = none) :
      Passage s (.task env) s'
  /-- A point was written. -/
  | written (env : SdEnv) (k : DataKind) (p : QueuedPoint b) (s' : SdSystem b)
      (hpc : s.pc = .writing k p) (hok : (sdWrite p.point env.write s.sd.files).2 = true)
      (hpending : s'.pending = fun k => (s.sd.queue k).reverse)
      (haccepted : s'.accepted = s.accepted) (hwritten : s'.written = p :: s.written)
      (hfiles : s'.sd.files = (sdWrite p.point env.write s.sd.files).1) : Passage s (.task env) s'
  /-- A point was not written; without room in its queue it is gone. -/
  | failed (env : SdEnv) (k : DataKind) (p : QueuedPoint b) (s' : SdSystem b)
      (hpc : s.pc = .writing k p) (hok : (sdWrite p.point env.write s.sd.files).2 = false)
      (hpending : s'.pending =
        if (s.sd.queue k).length < k.queueLength then s.pending
        else fun k => (s.sd.queue k).reverse)
      (haccepted : s'.accepted = s.accepted) (hwritten : s'.written = s.written)
      (hfiles : s'.sd.files = (sdWrite p.point env.write s.sd.files).1) : Passage s (.task env) s'

@[simp] theorem taken_next (k k' : DataKind) : (k.next : SdPc b).taken k' = none := by
  cases k <;> rfl

theorem taken_enterGetter (k k' : DataKind) : (s.enterGetter k).pc.taken k' = none := by
  show SdPc.taken k' (if s.sd.newPoints k then .getter k 0 else k.next) = none
  split_ifs
  · rfl
  · exact taken_next k k'

/-- Without a point in flight the queues are all there is. -/
theorem pending_of_taken (h : ∀ k, s.pc.taken k = none) :
    s.pending = fun k => (s.sd.queue k).reverse := by
  funext k
  rw [pending, h k]
  rfl

/-- The task goes from one place outside of a write to another. -/
theorem quiet_of_taken (huneventful : s.Uneventful e) (h : ∀ k, s.pc.taken k = none)
    (h' : ∀ k, s'.pc.taken k = none) (hqueue : s'.sd.queue = s.sd.queue)
    (haccepted : s'.accepted = s.accepted)
    (hwritten : s'.written = s.written) (hfiles : s'.dataFile = s.dataFile) : s.Passage e s' := by
  refine .quiet e s' huneventful ?_ haccepted hwritten hfiles
  rw [pending_of_taken h, pending_of_taken h', hqueue]

theorem append_passage (p : DataPoint b) : s.Passage (.append p) (s.append p) := by
  unfold append
  dsimp only
  split_ifs with hroom
  · refine .accepted p _ hroom ?_ rfl rfl rfl
    funext k
    by_cases hk : k = p.kind
    · subst hk
      rw [Function.update_self]
      show _ ++ (Function.update s.sd.queue p.kind _ p.kind).reverse = _
      rw [Function.update_self, List.reverse_append]
      rfl
    · rw [Function.update_of_ne hk]
      show _ ++ (Function.update s.sd.queue p.kind _ k).reverse = _
      rw [Function.update_of_ne hk]
      rfl
  · exact .quiet _ s trivial rfl rfl rfl rfl

theorem loopStep_passage (hpc : s.pc = .loop) : s.Passage (.task env) (s.loopStep env) := by
  have htaken (k : DataKind) : s.pc.taken k = none := by rw [hpc]; rfl
  have htaken' (k : DataKind) : (s.loopStep env).pc.taken k = none := by
    rw [loopStep_eq]
    dsimp only
    split_ifs <;> rfl
  cases hdue : s.initDue env with
  | true =>
    have hlooped : s.looped env =
        sdInitTask env.now s.sdLfsFormat env.init (s.errorsHandled env) := by
      rw [looped, hdue]
      rfl
    refine .initialised env _ hpc hdue ?_ rfl rfl (fun hformat => ?_) fun f => ?_
    · rw [pending_of_taken htaken', loopStep_eq, hlooped, (sdInitTask_cleared ..).2]
      rfl
    · funext f
      show (s.looped env).1.files.lfs.files _ = _
      rw [hlooped, sdInitTask_files hformat (sdGetPathWithFilename_ne_bootCountPath f),
        errorsHandled_files]
      rfl
    · show (s.looped env).1.files.lfs.files _ = _ ∨ (s.looped env).1.files.lfs.files _ = none
      rw [hlooped]
      have hkept := sdInitTask_kept env.now s.sdLfsFormat env.init (s.errorsHandled env)
        (sdGetPathWithFilename_ne_bootCountPath f)
      rwa [errorsHandled_files] at hkept
  | false =>
    have hlooped : s.looped env = (s.errorsHandled env, s.sdLfsFormat) := by
      rw [looped, hdue]
      rfl
    refine quiet_of_taken (by rw [Uneventful, hpc]; exact hdue) htaken htaken' ?_ rfl rfl ?_
    · rw [loopStep_eq, hlooped]
      exact errorsHandled_queue
    · funext f
      show (s.looped env).1.files.lfs.files _ = _
      rw [hlooped, errorsHandled_files]
      rfl

/-- Taking a point out of its queue changes nothing about what is pending. -/
theorem setterStep_passage (hpc : s.pc = .setter k) : s.Passage (.task env) (s.setterStep k) := by
  have huneventful : s.Uneventful (.task env) := by rw [Uneventful, hpc]; trivial
  have htaken (k : DataKind) : s.pc.taken k = none := by rw [hpc]; rfl
  unfold setterStep
  cases hlast : (s.sd.queue k).getLast? with
  | none => exact quiet_of_taken huneventful htaken (taken_enterGetter k) rfl rfl rfl rfl
  | some p =>
    have hqueue : (s.sd.queue k).dropLast ++ [p] = s.sd.queue k :=
      List.dropLast_append_getLast? p hlast
    refine .quiet _ _ huneventful ?_ rfl rfl rfl
    rw [pending_of_taken htaken]
    funext j
    show (if k = j then some p else none).toList ++
      (Function.update s.sd.queue k (s.sd.queue k).dropLast j).reverse = _
    by_cases hj : j = k
    · subst hj
      rw [if_pos rfl, Function.update_self]
      conv_rhs => rw [← hqueue, List.reverse_append]
      rfl
    · rw [if_neg (Ne.symm hj), Function.update_of_ne hj]
      rfl

theorem writingStep_passage {p : QueuedPoint b} (hpc : s.pc = .writing k p) :
    s.Passage (.task env) (s.writingStep k p env) := by
  cases hok : (sdWrite p.point env.write s.sd.files).2 with
  | true =>
    have hstep : s.writingStep k p env = enterGetter
        { s with
          sd := { s.sd with
            files := (sdWrite p.point env.write s.sd.files).1
            sdRwErrorCount := 0 }
          written := p :: s.written } k := by
      simp [writingStep, hok]
    rw [hstep]
    exact .written env k p _ hpc hok (pending_of_taken (taken_enterGetter k)) rfl rfl rfl
  | false =>
    have hstep : s.writingStep k p env = enterGetter
        { s with
          sd := { s.sd with
            files := (sdWrite p.point env.write s.sd.files).1
            queue :=
              if (s.sd.queue k).length < k.queueLength then
                Function.update s.sd.queue k (s.sd.queue k ++ [p])
              else s.sd.queue
            sdRwErrorCount := s.sd.sdRwErrorCount + 1 } } k := by
      simp [writingStep, hok]
    rw [hstep]
    refine .failed env k p _ hpc hok ?_ rfl rfl rfl
    rw [pending_of_taken (taken_enterGetter k)]
    show (fun j => ((if (s.sd.queue k).length < k.queueLength then
      Function.update s.sd.queue k (s.sd.queue k ++ [p]) else s.sd.queue) j).reverse) = _
    split_ifs
    · funext j
      rw [pending, hpc]
      show _ = (if k = j then some p else none).toList ++ _
      by_cases hj : j = k
      · subst hj
        rw [Function.update_self, if_pos rfl, List.reverse_append]
        rfl
      · rw [Function.update_of_ne hj, if_neg (Ne.symm hj)]
        rfl
    · rfl

theorem getterStep_passage {offset : ℕ} (h : s.HandleInv) (hpc : s.pc = .getter k offset) :
    s.Passage (.task env) (s.getterStep k offset env) := by
  have huneventful : s.Uneventful (.task env) := by rw [Uneventful, hpc]; trivial
  have htaken (k : DataKind) : s.pc.taken k = none := by rw [hpc]; rfl
  unfold getterStep
  dsimp only
  split_ifs
  · exact quiet_of_taken huneventful htaken (fun _ => rfl) rfl rfl rfl rfl
  · refine quiet_of_taken huneventful htaken (taken_next k) rfl rfl rfl ?_
    funext f
    exact congrFun (files_sdLfsCloseBufferedRead h.consistent) _

theorem readingStep_passage {offset amount : ℕ} {r : GetRequest} (h : s.HandleInv)
    (hpc : s.pc = .reading k offset amount r) :
    s.Passage (.task env) (s.readingStep k offset amount r env) := by
  have huneventful : s.Uneventful (.task env) := by rw [Uneventful, hpc]; trivial
  have htaken (k : DataKind) : s.pc.taken k = none := by rw [hpc]; rfl
  unfold readingStep
  dsimp only
  split_ifs
  · refine quiet_of_taken huneventful htaken (taken_next k) rfl rfl rfl ?_
    funext f
    exact congrFun (files_sdRead h.consistent) _
  · refine quiet_of_taken huneventful htaken (fun _ => rfl) rfl rfl rfl ?_
    funext f
    exact congrFun (files_sdRead h.consistent) _

theorem waitingStep_passage {offset start : ℕ} (hpc : s.pc = .waiting k offset start) :
    s.Passage (.task env) (s.waitingStep k offset start env) := by
  have huneventful : s.Uneventful (.task env) := by rw [Uneventful, hpc]; trivial
  have htaken (k : DataKind) : s.pc.taken k = none := by rw [hpc]; rfl
  unfold waitingStep
  split_ifs
  · exact quiet_of_taken huneventful htaken (taken_next k) rfl rfl rfl rfl
  · exact quiet_of_taken huneventful htaken (fun _ => rfl) rfl rfl rfl rfl
  · exact quiet_of_taken huneventful htaken (fun _ => rfl) rfl rfl rfl rfl

theorem storageStep_passage (h : s.storage.HandlesPage) (hpc : s.pc = .storage) :
    s.Passage (.task env) (s.storageStep env) := by
  have huneventful : s.Uneventful (.task env) := by rw [Uneventful, hpc]; trivial
  have htaken (k : DataKind) : s.pc.taken k = none := by rw [hpc]; rfl
  refine quiet_of_taken huneventful htaken (fun k => ?_) rfl rfl rfl ?_
  · show SdPc.taken k (if _ then .loop else .storage) = none
    split_ifs <;> rfl
  · funext f
    exact Storage.task_files h fun i => sdGetPathWithFilename_ne_storagePath f i

/-- **What a step does.** -/
theorem step_passage (e : SdEvent b) (h : s.HandleInv) (hpage : s.storage.HandlesPage)
    (hs : step s e = some s') : s.Passage e s' := by
  cases e with
  | append p =>
    obtain rfl := Option.some.inj hs
    exact append_passage p
  | pageWrite i page now =>
    change (if systemTimerGetMs now = 0 then none else some _) = some s' at hs
    split_ifs at hs
    obtain rfl := Option.some.inj hs
    exact .quiet _ _ trivial rfl rfl rfl rfl
  | request _ _ | ack _ | storageTick _ | requestFormat =>
    obtain rfl := Option.some.inj hs
    exact .quiet _ _ trivial rfl rfl rfl rfl
  | task env =>
    obtain rfl := Option.some.inj hs
    cases hpc : s.pc with
    | loop =>
      rw [taskStep, hpc]
      exact loopStep_passage hpc
    | setter k =>
      rw [taskStep, hpc]
      exact setterStep_passage hpc
    | writing k p =>
      rw [taskStep, hpc]
      exact writingStep_passage hpc
    | getter k offset =>
      rw [taskStep, hpc]
      exact getterStep_passage h hpc
    | reading k offset amount r =>
      rw [taskStep, hpc]
      exact readingStep_passage h hpc
    | waiting k offset start =>
      rw [taskStep, hpc]
      exact waitingStep_passage hpc
    | storage =>
      rw [taskStep, hpc]
      exact storageStep_passage hpage hpc

/-! ### Accepted points -/

theorem step_handlesPage (e : SdEvent b) (h : s.storage.HandlesPage) (hs : step s e = some s') :
    s'.storage.HandlesPage := by
  cases e with
  | append p =>
    obtain rfl := Option.some.inj hs
    unfold append
    dsimp only
    split_ifs <;> exact h
  | pageWrite i page now =>
    change (if systemTimerGetMs now = 0 then none else some _) = some s' at hs
    split_ifs at hs
    obtain rfl := Option.some.inj hs
    exact h
  | request _ _ | ack _ | storageTick _ | requestFormat =>
    obtain rfl := Option.some.inj hs
    exact h
  | task env =>
    obtain rfl := Option.some.inj hs
    cases hpc : s.pc with
    | setter k =>
      rw [taskStep, hpc]
      dsimp only
      unfold setterStep
      cases (s.sd.queue k).getLast? <;> exact h
    | storage =>
      rw [taskStep, hpc]
      exact Storage.task_handlesPage h
    | _ =>
      rw [taskStep, hpc]
      simp only [loopStep_eq, writingStep, getterStep, readingStep, waitingStep, enterGetter]
      first
        | exact h
        | split_ifs <;> exact h

/-- Where the points are: a pending point is in its own queue once, was accepted and
is not written yet, and the numbers tell accepted points apart. -/
structure Tracked (s : SdSystem b) : Prop where
  handle : s.HandleInv
  page : s.storage.HandlesPage
  kind : ∀ k, ∀ p ∈ s.pending k, p.point.kind = k
  number : ∀ p ∈ s.accepted, p.number < s.accepted.length
  distinct : ∀ p ∈ s.accepted, ∀ q ∈ s.accepted, p.number = q.number → p = q
  pending : ∀ k, ∀ p ∈ s.pending k, p ∈ s.accepted
  written : ∀ p ∈ s.written, p ∈ s.accepted
  nodup : ∀ k, (s.pending k).Nodup
  unwritten : ∀ k, ∀ p ∈ s.pending k, p ∉ s.written

theorem init_tracked (card : Path → Option (List UInt8)) (now : ℕ) :
    (init (b := b) card now).Tracked where
  handle := init_handleInv card now
  page _ hpath := by cases hpath
  kind _ _ hp := by cases hp
  number _ hp := by cases hp
  distinct _ hp := by cases hp
  pending _ _ hp := by cases hp
  written _ hp := by cases hp
  nodup _ := List.nodup_nil
  unwritten _ _ hp := by cases hp

theorem pending_of_writing {p : QueuedPoint b} (hpc : s.pc = .writing k p) :
    s.pending k = p :: (s.sd.queue k).reverse := by
  rw [pending, hpc, SdPc.taken, if_pos rfl]
  rfl

theorem mem_pending_of_queue {p : QueuedPoint b} (h : p ∈ (s.sd.queue k).reverse) :
    p ∈ s.pending k := List.mem_append_right _ h

/-- A point that is being written is not in a queue as well. -/
theorem Tracked.not_mem_queue {p : QueuedPoint b} (h : s.Tracked) (hpc : s.pc = .writing k p)
    (j : DataKind) : p ∉ (s.sd.queue j).reverse := by
  intro hp
  have hpending := pending_of_writing hpc
  have hk : p.point.kind = k := h.kind k p (by rw [hpending]; exact List.mem_cons_self)
  obtain rfl : k = j := hk.symm.trans (h.kind j p (mem_pending_of_queue hp))
  have hnodup := h.nodup k
  rw [hpending, List.nodup_cons] at hnodup
  exact hnodup.1 hp

/-- Only points that were pending still are, and the record of the accepted ones and
of the written ones is kept. -/
theorem Tracked.of_subset (h : s.Tracked) (hs : step s e = some s')
    (hsub : ∀ k, (s'.pending k).Sublist (s.pending k)) (haccepted : s'.accepted = s.accepted)
    (hwritten : ∀ p ∈ s'.written, p ∈ s.accepted)
    (hunwritten : ∀ k, ∀ p ∈ s'.pending k, p ∉ s'.written) : s'.Tracked where
  handle := step_handleInv e h.handle hs
  page := step_handlesPage e h.page hs
  kind k p hp := h.kind k p ((hsub k).subset hp)
  number := by
    rw [haccepted]
    exact h.number
  distinct := by
    rw [haccepted]
    exact h.distinct
  pending k p hp := haccepted ▸ h.pending k p ((hsub k).subset hp)
  written p hp := haccepted ▸ hwritten p hp
  nodup k := (h.nodup k).sublist (hsub k)
  unwritten := hunwritten

theorem step_tracked (e : SdEvent b) (h : s.Tracked) (hs : step s e = some s') : s'.Tracked := by
  cases step_passage e h.handle h.page hs with
  | quiet _ _ huneventful hpending haccepted hwritten _ =>
    refine h.of_subset hs (fun k => by rw [hpending]) haccepted ?_ ?_
    · rw [hwritten]
      exact h.written
    · rw [hpending, hwritten]
      exact h.unwritten
  | accepted p _ hroom hpending haccepted hwritten _ =>
    have hfresh : (⟨s.accepted.length, p⟩ : QueuedPoint b) ∉ s.accepted := fun hmem =>
      absurd (h.number _ hmem) (lt_irrefl _)
    -- the new point goes between the one in flight and the queue
    have hperm : ((s.pc.taken p.kind).toList ++ ⟨s.accepted.length, p⟩ ::
        (s.sd.queue p.kind).reverse).Perm (⟨s.accepted.length, p⟩ :: s.pending p.kind) :=
      List.perm_middle
    have hmem (k : DataKind) (q : QueuedPoint b) (hq : q ∈ s'.pending k) :
        q = ⟨s.accepted.length, p⟩ ∧ p.kind = k ∨ q ∈ s.pending k := by
      rw [hpending] at hq
      by_cases hk : k = p.kind
      · subst hk
        rw [Function.update_self, hperm.mem_iff, List.mem_cons] at hq
        exact hq.imp_left fun heq => ⟨heq, rfl⟩
      · rw [Function.update_of_ne hk] at hq
        exact Or.inr hq
    constructor
    · exact step_handleInv _ h.handle hs
    · exact step_handlesPage _ h.page hs
    · intro k q hq
      rcases hmem k q hq with ⟨rfl, hk⟩ | hq
      · exact hk
      · exact h.kind k q hq
    · intro q hq
      rw [haccepted] at hq ⊢
      rcases List.mem_cons.mp hq with rfl | hq
      · exact Nat.lt_succ_self _
      · exact Nat.lt_succ_of_lt (h.number q hq)
    · intro q hq r hr hnumber
      rw [haccepted] at hq hr
      rcases List.mem_cons.mp hq with rfl | hq <;> rcases List.mem_cons.mp hr with rfl | hr
      · rfl
      · exact absurd hnumber (h.number r hr).ne'
      · exact absurd hnumber (h.number q hq).ne
      · exact h.distinct q hq r hr hnumber
    · intro k q hq
      rw [haccepted, List.mem_cons]
      exact (hmem k q hq).imp And.left fun hq => h.pending k q hq
    · intro q hq
      rw [hwritten] at hq
      rw [haccepted]
      exact List.mem_cons_of_mem _ (h.written q hq)
    · intro k
      rw [hpending]
      by_cases hk : k = p.kind
      · subst hk
        rw [Function.update_self, hperm.nodup_iff, List.nodup_cons]
        exact ⟨fun hmem => hfresh (h.pending _ _ hmem), h.nodup _⟩
      · rw [Function.update_of_ne hk]
        exact h.nodup k
    · intro k q hq
      rw [hwritten]
      rcases hmem k q hq with ⟨rfl, -⟩ | hq
      · exact fun hmem => hfresh (h.written _ hmem)
      · exact h.unwritten k q hq
  | initialised env _ hpc hdue hpending haccepted hwritten _ _ =>
    refine h.of_subset hs ?_ haccepted ?_ ?_
    · rw [hpending]
      exact fun k => List.nil_sublist _
    · rw [hwritten]
      exact h.written
    · rw [hpending]
      exact fun _ _ hp => absurd hp List.not_mem_nil
  | written env k p _ hpc hok hpending haccepted hwritten _ =>
    refine h.of_subset hs ?_ haccepted ?_ ?_
    · rw [hpending]
      exact fun k => List.sublist_append_right _ _
    · rw [hwritten]
      intro q hq
      rcases List.mem_cons.mp hq with rfl | hq
      · exact h.pending k q (by rw [pending_of_writing hpc]; exact List.mem_cons_self)
      · exact h.written q hq
    · rw [hpending, hwritten]
      intro j q hq hmem
      rcases List.mem_cons.mp hmem with rfl | hmem
      · exact h.not_mem_queue hpc j hq
      · exact h.unwritten j q (mem_pending_of_queue hq) hmem
  | failed env k p _ hpc hok hpending haccepted hwritten _ =>
    have hsub (j : DataKind) : (s'.pending j).Sublist (s.pending j) := by
      rw [hpending]
      split_ifs
      · rfl
      · exact List.sublist_append_right _ _
    refine h.of_subset hs hsub haccepted ?_ ?_
    · rw [hwritten]
      exact h.written
    · rw [hwritten]
      exact fun j q hq => h.unwritten j q ((hsub j).subset hq)

/-- Every accepted point is in its queue, in flight or written. -/
def PointsKept (s : SdSystem b) : Prop :=
  ∀ p ∈ s.accepted, p ∈ s.sd.queue p.point.kind ∨ s.pc = .writing p.point.kind p ∨ p ∈ s.written

theorem mem_pending_iff {p : QueuedPoint b} :
    p ∈ s.pending k ↔ p ∈ s.sd.queue k ∨ s.pc = .writing k p := by
  rw [pending, List.mem_append, List.mem_reverse, or_comm]
  apply or_congr_right
  cases s.pc with
  | writing j q =>
    by_cases hj : j = k
    · subst hj
      simp [SdPc.taken, eq_comm]
    · simp [SdPc.taken, hj]
  | _ => simp [SdPc.taken]

theorem pointsKept_iff :
    s.PointsKept ↔ ∀ p ∈ s.accepted, p ∈ s.pending p.point.kind ∨ p ∈ s.written := by
  unfold PointsKept
  simp only [mem_pending_iff, or_assoc]

instance (s : SdSystem b) : Decidable s.PointsKept := List.decidableBAll _ _

/-- The write of a point reports success. -/
def writeSucceeds (s : SdSystem b) (p : QueuedPoint b) (env : SdEnv) : Bool :=
  env.write.succeed (!p.point.kind.daily)
    (Error.isMissing (firstOpen p.point.fileName env.write s.sd.files))

theorem sdWrite_ok (s : SdSystem b) (p : QueuedPoint b) (env : SdEnv) :
    (sdWrite p.point env.write s.sd.files).2 = s.writeSucceeds p env := by
  rw [sdWrite_eq, writeDataPoint_ok]
  rfl

/-- The task at `pc` loses no point: the card is initialised with empty queues, and
a point that is not written finds room in its queue. -/
def KeepsPointsAt (env : SdEnv) (s : SdSystem b) : SdPc b → Prop
  | .loop => s.initDue env = true → ∀ k, s.sd.queue k = []
  | .writing k p => s.writeSucceeds p env = false → (s.sd.queue k).length < k.queueLength
  | _ => True

/-- No step loses a point. -/
def KeepsPoints (s : SdSystem b) : SdEvent b → Prop
  | .task env => s.KeepsPointsAt env s.pc
  | _ => True

instance (env : SdEnv) (s : SdSystem b) : ∀ pc, Decidable (s.KeepsPointsAt env pc)
  | .loop => inferInstanceAs (Decidable (_ = true → ∀ k, s.sd.queue k = []))
  | .writing _ _ => inferInstanceAs (Decidable (_ = false → _ < _))
  | .setter _ | .getter _ _ | .reading _ _ _ _ | .waiting _ _ _ | .storage => isTrue trivial

instance (s : SdSystem b) : ∀ e, Decidable (s.KeepsPoints e)
  | .task env => inferInstanceAs (Decidable (s.KeepsPointsAt env s.pc))
  | .append _ | .request _ _ | .ack _ | .pageWrite _ _ _ | .storageTick _ | .requestFormat =>
    isTrue trivial

theorem keepsPoints_of_uneventful (h : s.Uneventful e) : s.KeepsPoints e := by
  cases e with
  | task env =>
    unfold Uneventful at h
    unfold KeepsPoints
    cases hpc : s.pc with
    | loop =>
      rw [hpc] at h
      exact fun hdue => absurd (h.symm.trans hdue) Bool.false_ne_true
    | writing k p =>
      rw [hpc] at h
      exact h.elim
    | _ => trivial
  | _ => trivial

/-- **One step** loses a point exactly where it fails to keep it. -/
theorem step_pointsKept (e : SdEvent b) (h : s.Tracked) (hkept : s.PointsKept)
    (hs : step s e = some s') : s'.PointsKept ↔ s.KeepsPoints e := by
  rw [pointsKept_iff] at hkept ⊢
  cases step_passage e h.handle h.page hs with
  | quiet _ _ huneventful hpending haccepted hwritten _ =>
    refine iff_of_true ?_ (keepsPoints_of_uneventful huneventful)
    rw [haccepted, hpending, hwritten]
    exact hkept
  | accepted p _ hroom hpending haccepted hwritten _ =>
    refine iff_of_true (fun q hq => ?_) trivial
    have hmem (k : DataKind) {q : QueuedPoint b} (hq : q ∈ s.pending k) : q ∈ s'.pending k := by
      rw [hpending]
      by_cases hk : k = p.kind
      · subst hk
        rw [Function.update_self]
        exact (List.Sublist.append_left (List.sublist_cons_self _ _) _).subset hq
      · rwa [Function.update_of_ne hk]
    rw [haccepted] at hq
    rw [hwritten]
    rcases List.mem_cons.mp hq with rfl | hq
    · left
      rw [hpending, Function.update_self]
      exact List.mem_append_right _ List.mem_cons_self
    · exact (hkept q hq).imp_left (hmem _)
  | initialised env _ hpc hdue hpending haccepted hwritten _ _ =>
    have hkeeps : s.KeepsPoints (.task env) ↔ ∀ k, s.pending k = [] := by
      have htaken (k : DataKind) : s.pc.taken k = none := by rw [hpc]; rfl
      simp [KeepsPoints, hpc, KeepsPointsAt, hdue, pending_of_taken htaken]
    rw [haccepted, hwritten, hpending, hkeeps]
    constructor
    · intro hall k
      apply List.eq_nil_iff_forall_not_mem.mpr
      intro p hp
      rcases hall p (h.pending k p hp) with hp' | hp'
      · cases hp'
      · exact h.unwritten k p hp hp'
    · intro hempty p hp
      refine Or.inr ((hkept p hp).resolve_left ?_)
      rw [hempty]
      exact List.not_mem_nil
  | written env k p _ hpc hok hpending haccepted hwritten _ =>
    have hkeeps : s.KeepsPoints (.task env) := by
      rw [KeepsPoints, hpc]
      rw [sdWrite_ok] at hok
      exact fun hfailed => absurd (hfailed.symm.trans hok) Bool.false_ne_true
    refine iff_of_true (fun q hq => ?_) hkeeps
    rw [haccepted] at hq
    rw [hwritten, hpending, List.mem_cons]
    rcases hkept q hq with hq | hq
    · rcases mem_pending_iff.mp hq with hq | hq
      · exact Or.inl (List.mem_reverse.mpr hq)
      · right
        left
        injection hpc.symm.trans hq with _ heq
        exact heq.symm
    · exact Or.inr (Or.inr hq)
  | failed env k p _ hpc hok hpending haccepted hwritten _ =>
    have hkeeps : s.KeepsPoints (.task env) ↔ (s.sd.queue k).length < k.queueLength := by
      rw [sdWrite_ok] at hok
      rw [KeepsPoints, hpc]
      exact ⟨fun hroom => hroom hok, fun hroom _ => hroom⟩
    rw [haccepted, hwritten, hpending, hkeeps]
    split_ifs with hroom
    · exact iff_of_true hkept hroom
    · refine iff_of_false (fun hall => ?_) hroom
      have hp : p ∈ s.pending k := by
        rw [pending_of_writing hpc]
        exact List.mem_cons_self
      rcases hall p (h.pending k p hp) with hp' | hp'
      · exact h.not_mem_queue hpc _ hp'
      · exact h.unwritten k p hp hp'

end SdSystem

open SdSystem in
/-- **No accepted point is lost.**  A run keeps every accepted point in its queue, in
flight or written, in all states it passes through, exactly if the card is only
initialised with empty queues and every point that is not written finds room in
its queue. -/
theorem points_kept (card : Path → Option (List UInt8)) (now : ℕ) (es : List (SdEvent b))
    (s : SdSystem b) (hr : run step (init card now) es = some s) :
    (∀ pre post u, es = pre ++ post → run step (init card now) pre = some u →
      u.PointsKept) ↔ Meets step KeepsPoints (init card now) es := by
  refine meets_iff_reached (I := Tracked) (P := PointsKept) ?_ ?_ ?_ ?_ hr
  · exact fun _ e _ h hs => step_tracked e h hs
  · exact fun _ e _ h hkept hs => step_pointsKept e h hkept hs
  · exact init_tracked card now
  · exact List.forall_mem_nil _

/-- Two daily points; the newer one is taken out and its write fails, which leaves an
empty file behind. -/
def failedWrite : List (SdEvent .v2) :=
  startUp ++
    [.append (.filled .v2 .wallboxDaily 0 1), .append (.filled .v2 .wallboxDaily 0 2),
      .task { now := 1002 }, .task { now := 1002 }]

/-- A tick in which the new file cannot be written. -/
def failingEnv : SdEnv := { now := 1003, write := { create := { write := some (.other 5) } } }

/-- The failed point finds room in its queue and is written later. -/
theorem points_kept_retried :
    let es := failedWrite ++ [.task failingEnv] ++ List.replicate 40 (.task { now := 1004 })
    ∀ pre post u, es = pre ++ post →
      run SdSystem.step (.init (fun _ => none) 1) pre = some u → u.PointsKept := by
  intro es
  apply (points_kept (fun _ => none) 1 es (after SdSystem.step (.init (fun _ => none) 1) es)
    (run_eq_after (by decide +kernel))).mpr
  decide +kernel

/-- A third point takes the place of the one in flight; when that one fails, it is
dropped. -/
theorem points_lost :
    ¬ ∀ card now (es : List (SdEvent .v2)) s,
      run SdSystem.step (.init card now) es = some s → s.PointsKept := by
  intro h
  have hkept := h (fun _ => none) 1
    (failedWrite ++ [.append (.filled .v2 .wallboxDaily 0 3), .task failingEnv]) _
    (run_eq_after (by decide +kernel))
  revert hkept
  decide +kernel

end Bricklib2
