/-
Bricklib2/Warp/Wem/LastWrite.lean

Which of two points for the same slot is on the card in the end.  The task takes
the newest point of a queue first, so the older one is written last, unless no two
points for a slot are in a queue together.

Main results: `lastWrite_wins` for the runs that meet `InOrder`, and
`lastWrite_loses`, a run that ends with the older value on the card.
-/
import Bricklib2.Warp.Wem.SdQueues

namespace Bricklib2

open FileStore Machine

variable {b : Build}

/-! ### Slots on the card -/

/-- Two points address the same entry of the same file. -/
def DataPoint.SameSlot (p q : DataPoint b) : Prop :=
  p.kind = q.kind ∧ p.fileName = q.fileName ∧ p.slot = q.slot

instance (p q : DataPoint b) : Decidable (p.SameSlot q) := inferInstanceAs (Decidable (_ ∧ _ ∧ _))

theorem DataPoint.SameSlot.symm {p q : DataPoint b} (h : p.SameSlot q) : q.SameSlot p :=
  ⟨h.1.symm, h.2.1.symm, h.2.2.symm⟩

/-- The slot of a point holds its value. -/
def DataPoint.Stored (files : Path → Option (List UInt8)) (q : DataPoint b) : Prop :=
  (files (sdGetPathWithFilename q.fileName)).map (fun content => slotOf b q.kind content q.slot) =
    some q.data

instance (files : Path → Option (List UInt8)) (q : DataPoint b) : Decidable (q.Stored files) :=
  inferInstanceAs (Decidable (_ = _))

/-- A new file is none of those with a value. -/
theorem DataPoint.Stored.update {files : Path → Option (List UInt8)} {q : DataPoint b}
    {path : Path} (h : q.Stored files) (hfile : files path = none) (content : List UInt8) :
    q.Stored (Function.update files path (some content)) := by
  have hpath : sdGetPathWithFilename q.fileName ≠ path := by
    rintro rfl
    rw [DataPoint.Stored, hfile] at h
    cases h
  rwa [DataPoint.Stored, Function.update_of_ne hpath]

/-- The first open of the write fails for another reason than a missing file. -/
def WriteCodes.unopened (codes : WriteCodes) : Bool :=
  codes.openFile.isSome && !Error.isMissing codes.openFile

instance (codes : WriteCodes) (f : FileName) (sd : SdFiles) : Decidable (codes.Honest f sd) :=
  inferInstanceAs (Decidable (_ = true → _ = none))

namespace WriteOutcome

variable {p q : DataPoint b} {codes : WriteCodes} {sd : SdFiles}
  {files : Path → Option (List UInt8)} {cache : List NoExistEntry} {ok : Bool}

/-- A write leaves the other slots alone. -/
theorem stored_of_not_sameSlot
    (h : WriteOutcome p.fileName (newFile b p.kind) p.position p.data codes sd files cache ok)
    (hp : p.InRange) (hq : q.InRange) (hne : ¬ p.SameSlot q) (hstored : q.Stored sd.lfs.files) :
    q.Stored files := by
  cases h with
  | refused => exact hstored
  | unnoticed _ _ _ => exact hstored
  | interrupted hfile _ _ _ => exact hstored.update hfile _
  | unopened hfile _ _ => exact hstored.update hfile _
  | created hfile => exact hstored.update hfile _
  | createdWritten hfile => exact hstored.update hfile _
  | written content hfile =>
    by_cases hpath : sdGetPathWithFilename q.fileName = sdGetPathWithFilename p.fileName
    · have hname := sdGetPathWithFilename_injective hpath
      have hkind := DataKind.eq_of_fileName hq.2.1 hp.2.1 hname
      have hslot : q.slot ≠ p.slot := fun heq => hne ⟨hkind.symm, hname.symm, heq.symm⟩
      rw [DataPoint.Stored, hpath, hfile] at hstored
      rw [DataPoint.Stored, hpath, Function.update_self, DataPoint.position_eq hp, ← hkind]
      have hslotOf : slotOf b q.kind content q.slot = q.data := Option.some.inj hstored
      refine congrArg some ((slotOf_patch_of_ne ?_ ?_ hslot).trans hslotOf)
      · rw [p.length_data, hkind]
      · rw [hslotOf, q.length_data]
    · rwa [DataPoint.Stored, Function.update_of_ne hpath]

/-- A write that fails leaves all slots alone. -/
theorem stored_of_failed
    (h : WriteOutcome p.fileName (newFile b p.kind) p.position p.data codes sd files cache false)
    (hstored : q.Stored sd.lfs.files) : q.Stored files := by
  cases h with
  | refused => exact hstored
  | unnoticed _ _ _ => exact hstored
  | interrupted hfile _ _ _ => exact hstored.update hfile _
  | unopened hfile _ _ => exact hstored.update hfile _
  | created hfile => exact hstored.update hfile _

/-- A write that succeeds on an open file is on the card. -/
theorem stored_of_ok
    (h : WriteOutcome p.fileName (newFile b p.kind) p.position p.data codes sd files cache true)
    (hp : p.InRange) (hopen : codes.unopened = false) : p.Stored files := by
  have hpatch (content : List UInt8) :
      p.Stored (Function.update sd.lfs.files (sdGetPathWithFilename p.fileName)
        (some (Session.patch content p.position p.data))) := by
    rw [DataPoint.Stored, Function.update_self, DataPoint.position_eq hp]
    exact congrArg some (slotOf_patch_self p.length_data)
  cases h with
  | unnoticed _ e h => simp [WriteCodes.unopened, h, Error.isMissing] at hopen
  | written content _ => exact hpatch content
  | createdWritten _ => exact hpatch _

end WriteOutcome

/-! ### The order of the points -/

namespace SdSystem

variable {s s' : SdSystem b} {e : SdEvent b} {env : SdEnv} {k : DataKind}

/-- No point for the same slot was accepted later. -/
def Newest (s : SdSystem b) (q : QueuedPoint b) : Prop :=
  ∀ r ∈ s.accepted, r.point.SameSlot q.point → r.number ≤ q.number

instance (s : SdSystem b) (q : QueuedPoint b) : Decidable (s.Newest q) :=
  List.decidableBAll _ _

/-- Where nothing is queued or in flight, each slot holds what was accepted last. -/
def LastWriteWins (s : SdSystem b) : Prop :=
  ∀ q ∈ s.accepted, s.sd.queue q.point.kind = [] → s.pc.taken q.point.kind = none →
    s.Newest q → q.point.Stored s.sd.files.lfs.files

instance (s : SdSystem b) : Decidable s.LastWriteWins := List.decidableBAll _ _

/-- The task at `pc` keeps the order: it initialises the card with empty queues and
does not format it, and a write is on an open file with a seek that succeeds, on a
card that does not call an existing file missing; if the write fails there is room
for the point, or the queue has a newer one for its slot. -/
def InOrderAt (env : SdEnv) (s : SdSystem b) : SdPc b → Prop
  | .loop =>
    s.initDue env = true →
      (∀ k, s.sd.queue k = []) ∧ (env.init.formats s.sdLfsFormat = false ∨ s.accepted = [])
  | .writing k p =>
    env.write.Honest p.point.fileName s.sd.files ∧
      (p.point.kind.daily = true → env.write.seek = none) ∧
      if s.writeSucceeds p env then env.write.unopened = false
      else (s.sd.queue k).length < k.queueLength ∨
        ∃ q ∈ s.sd.queue k, p.point.SameSlot q.point
  | _ => True

/-- Points of real dates come into the queue one at a time for each slot. -/
def InOrder (s : SdSystem b) : SdEvent b → Prop
  | .append p =>
    (s.sd.queue p.kind).length < p.kind.queueLength →
      p.InRange ∧ ∀ q ∈ s.sd.queue p.kind, ¬ q.point.SameSlot p
  | .task env => s.InOrderAt env s.pc
  | _ => True

instance (env : SdEnv) (s : SdSystem b) : ∀ pc, Decidable (s.InOrderAt env pc)
  | .loop =>
    inferInstanceAs (Decidable (_ = true → (∀ k, s.sd.queue k = []) ∧ (_ = false ∨ _ = [])))
  | .writing k p =>
    inferInstanceAs (Decidable (_ ∧ (_ → _) ∧ if s.writeSucceeds p env then _ = false
      else _ < _ ∨ ∃ q ∈ s.sd.queue k, p.point.SameSlot q.point))
  | .setter _ | .getter _ _ | .reading _ _ _ _ | .waiting _ _ _ | .storage => isTrue trivial

instance (s : SdSystem b) : ∀ e, Decidable (s.InOrder e)
  | .append p =>
    inferInstanceAs (Decidable (_ < _ → p.InRange ∧
      ∀ q ∈ s.sd.queue p.kind, ¬ q.point.SameSlot p))
  | .task env => inferInstanceAs (Decidable (s.InOrderAt env s.pc))
  | .request _ _ | .ack _ | .pageWrite _ _ _ | .storageTick _ | .requestFormat => isTrue trivial

/-- Pending points for the same slot are in order, and the newest of a slot is
pending or on the card. -/
structure Ordered (s : SdSystem b) : Prop where
  tracked : s.Tracked
  inRange : ∀ p ∈ s.accepted, p.point.InRange
  sorted : ∀ k, (s.pending k).Pairwise fun p q => p.point.SameSlot q.point → p.number < q.number
  newest : ∀ q ∈ s.accepted, s.Newest q → q ∈ s.pending q.point.kind ∨
    q.point.Stored s.sd.files.lfs.files ∧ ∀ r ∈ s.pending q.point.kind, ¬ r.point.SameSlot q.point

theorem init_ordered (card : Path → Option (List UInt8)) (now : ℕ) :
    (init (b := b) card now).Ordered where
  tracked := init_tracked card now
  inRange _ hp := by cases hp
  sorted _ := List.Pairwise.nil
  newest _ hq := by cases hq

theorem stored_of_dataFile {q : DataPoint b} (h : s'.dataFile = s.dataFile)
    (hstored : q.Stored s.sd.files.lfs.files) : q.Stored s'.sd.files.lfs.files := by
  have hfile := congrFun h q.fileName
  rw [dataFile, dataFile] at hfile
  rwa [DataPoint.Stored, hfile]

/-- The outcome of the write of a point. -/
theorem writeOutcome {p : QueuedPoint b} (h : env.write.Honest p.point.fileName s.sd.files)
    (hseek : p.point.kind.daily = true → env.write.seek = none) :
    WriteOutcome p.point.fileName (newFile b p.point.kind) p.point.position p.point.data env.write
      s.sd.files (sdWrite p.point env.write s.sd.files).1.lfs.files
      (sdWrite p.point env.write s.sd.files).1.fileNoExistCache
      (sdWrite p.point env.write s.sd.files).2 := by
  rw [sdWrite_eq]
  exact writeDataPoint_outcome h fun hreturns => hseek (by simpa using hreturns)

/-- The record of the accepted points is the same, no point became pending, and the
newest of a slot is where it has to be. -/
theorem Ordered.of_sublist (h : s.Ordered) (htracked : s'.Tracked)
    (haccepted : s'.accepted = s.accepted) (hsub : ∀ k, (s'.pending k).Sublist (s.pending k))
    (hnewest : ∀ q ∈ s.accepted, s.Newest q → q ∈ s'.pending q.point.kind ∨
      q.point.Stored s'.sd.files.lfs.files ∧
        ∀ r ∈ s'.pending q.point.kind, ¬ r.point.SameSlot q.point) : s'.Ordered where
  tracked := htracked
  inRange := by
    rw [haccepted]
    exact h.inRange
  sorted k := (h.sorted k).sublist (hsub k)
  newest q hq hlast := by
    rw [Newest, haccepted] at hlast
    exact hnewest q (haccepted ▸ hq) hlast

/-- A new point is behind all that are pending for its slot. -/
theorem accepted_ordered {p : DataPoint b} (h : s.Ordered) (htracked : s'.Tracked)
    (hrange : p.InRange) (hqueue : ∀ q ∈ s.sd.queue p.kind, ¬ q.point.SameSlot p)
    (hpending : s'.pending = Function.update s.pending p.kind
      ((s.pc.taken p.kind).toList ++ ⟨s.accepted.length, p⟩ :: (s.sd.queue p.kind).reverse))
    (haccepted : s'.accepted = ⟨s.accepted.length, p⟩ :: s.accepted)
    (hfiles : s'.dataFile = s.dataFile) : s'.Ordered where
  tracked := htracked
  inRange q hq := by
    rw [haccepted] at hq
    rcases List.mem_cons.mp hq with rfl | hq
    · exact hrange
    · exact h.inRange q hq
  sorted k := by
    rw [hpending]
    by_cases hk : k = p.kind
    · subst hk
      have hsorted := h.sorted p.kind
      rw [pending, List.pairwise_append] at hsorted
      obtain ⟨htaken, hreverse, hacross⟩ := hsorted
      rw [Function.update_self, List.pairwise_append, List.pairwise_cons]
      refine ⟨htaken, ⟨fun q hq hslot => ?_, hreverse⟩, fun q hq r hr => ?_⟩
      · exact absurd hslot.symm (hqueue q (List.mem_reverse.mp hq))
      · rcases List.mem_cons.mp hr with rfl | hr
        · exact fun _ => h.tracked.number q (h.tracked.pending _ q (List.mem_append_left _ hq))
        · exact hacross q hq r hr
    · rw [Function.update_of_ne hk]
      exact h.sorted k
  newest q hq hlast := by
    have hmem (k : DataKind) (r : QueuedPoint b) :
        r ∈ s'.pending k ↔ r ∈ s.pending k ∨ k = p.kind ∧ r = ⟨s.accepted.length, p⟩ := by
      rw [hpending]
      by_cases hk : k = p.kind
      · subst hk
        rw [Function.update_self, List.perm_middle.mem_iff, List.mem_cons, or_comm]
        exact or_congr_right (and_iff_right rfl).symm
      · rw [Function.update_of_ne hk]
        exact (or_iff_left fun hand => hk hand.1).symm
    rw [haccepted] at hq
    rcases List.mem_cons.mp hq with rfl | hq
    · exact Or.inl ((hmem _ _).mpr (Or.inr ⟨rfl, rfl⟩))
    · rw [Newest, haccepted, List.forall_mem_cons] at hlast
      obtain ⟨hnew, hlast⟩ := hlast
      have hother : ¬ p.SameSlot q.point := fun hslot =>
        absurd (hnew hslot) (Nat.not_le.mpr (h.tracked.number q hq))
      rcases h.newest q hq hlast with hq | ⟨hstored, hnone⟩
      · exact Or.inl ((hmem _ _).mpr (Or.inl hq))
      · refine Or.inr ⟨stored_of_dataFile hfiles hstored, fun r hr => ?_⟩
        rcases (hmem _ _).mp hr with hr | ⟨-, rfl⟩
        · exact hnone r hr
        · exact hother

/-- Behind a write of `p` the newest point of another slot is where it was. -/
theorem newest_of_write {p q : QueuedPoint b} {ok : Bool} {cache : List NoExistEntry}
    (h : s.Ordered) (hpc : s.pc = .writing k p) (hq : q ∈ s.accepted) (hlast : s.Newest q)
    (hsub : ∀ k, (s'.pending k).Sublist (s.pending k))
    (houtcome : WriteOutcome p.point.fileName (newFile b p.point.kind) p.point.position
      p.point.data env.write s.sd.files s'.sd.files.lfs.files cache ok)
    (hgone : q ∈ s.pending q.point.kind → q ∉ s'.pending q.point.kind →
      q.point.Stored s'.sd.files.lfs.files ∧
        ∀ r ∈ s'.pending q.point.kind, ¬ r.point.SameSlot q.point) :
    q ∈ s'.pending q.point.kind ∨ q.point.Stored s'.sd.files.lfs.files ∧
      ∀ r ∈ s'.pending q.point.kind, ¬ r.point.SameSlot q.point := by
  by_cases hstays : q ∈ s'.pending q.point.kind
  · exact Or.inl hstays
  right
  rcases h.newest q hq hlast with hpending | ⟨hstored, hnone⟩
  · exact hgone hpending hstays
  · have hp : p ∈ s.pending k := by
      rw [pending_of_writing hpc]
      exact List.mem_cons_self
    have hne : ¬ p.point.SameSlot q.point := by
      intro hslot
      have hkind : q.point.kind = k := hslot.1.symm.trans (h.tracked.kind k p hp)
      exact hnone p (by rw [hkind]; exact hp) hslot
    refine ⟨?_, fun r hr => hnone r ((hsub _).subset hr)⟩
    exact houtcome.stored_of_not_sameSlot (h.inRange p (h.tracked.pending k p hp))
      (h.inRange q hq) hne hstored

/-- A point that was pending and is neither in flight nor queued any more. -/
theorem eq_of_not_mem_queue {p q : QueuedPoint b} (hpc : s.pc = .writing k p)
    (hq : q ∈ s.pending q.point.kind) (hgone : q ∉ (s.sd.queue q.point.kind).reverse) :
    q = p := by
  rcases mem_pending_iff.mp hq with hq | hq
  · exact absurd (List.mem_reverse.mpr hq) hgone
  · injection hq.symm.trans hpc

/-- **One step** keeps the points in order. -/
theorem step_ordered (e : SdEvent b) (h : s.Ordered) (hc : s.InOrder e) (hs : step s e = some s') :
    s'.Ordered := by
  have htracked := step_tracked e h.tracked hs
  cases step_passage e h.tracked.handle h.tracked.page hs with
  | quiet _ _ huneventful hpending haccepted hwritten hfiles =>
    refine h.of_sublist htracked haccepted (fun k => by rw [hpending]) fun q hq hlast => ?_
    rw [hpending]
    exact (h.newest q hq hlast).imp_right (And.imp_left (stored_of_dataFile hfiles))
  | accepted p _ hroom hpending haccepted hwritten hfiles =>
    obtain ⟨hrange, hqueue⟩ := hc hroom
    exact accepted_ordered h htracked hrange hqueue hpending haccepted hfiles
  | initialised env _ hpc hdue hpending haccepted hwritten hfiles _ =>
    rw [InOrder, hpc] at hc
    obtain ⟨hempty, hformat⟩ := hc hdue
    have hnone (k : DataKind) : s.pending k = [] := by
      have htaken (k : DataKind) : s.pc.taken k = none := by rw [hpc]; rfl
      simp [pending_of_taken htaken, hempty]
    refine h.of_sublist htracked haccepted (fun k => by rw [hpending, hnone]) fun q hq hlast => ?_
    have hstored := (h.newest q hq hlast).resolve_left (by rw [hnone]; exact List.not_mem_nil)
    refine Or.inr ⟨?_, by rw [hpending]; exact fun _ hr => absurd hr List.not_mem_nil⟩
    rcases hformat with hformat | hformat
    · exact stored_of_dataFile (hfiles hformat) hstored.1
    · rw [hformat] at hq
      cases hq
  | written env k p _ hpc hok hpending haccepted hwritten hfiles =>
    rw [InOrder, hpc] at hc
    obtain ⟨hhonest, hseek, hopen⟩ := hc
    rw [if_pos (by rw [← sdWrite_ok, hok])] at hopen
    have houtcome := writeOutcome hhonest hseek
    rw [hok, ← hfiles] at houtcome
    have hsub (j : DataKind) : (s'.pending j).Sublist (s.pending j) := by
      rw [hpending]
      exact List.sublist_append_right _ _
    refine h.of_sublist htracked haccepted hsub fun q hq hlast => ?_
    refine newest_of_write h hpc hq hlast hsub houtcome fun hq' hgone => ?_
    rw [hpending] at hgone ⊢
    obtain rfl := eq_of_not_mem_queue hpc hq' hgone
    refine ⟨houtcome.stored_of_ok (h.inRange q hq) hopen, fun r hr hslot => ?_⟩
    -- the points behind it for the same slot are newer
    have hsorted := h.sorted k
    have hkind : q.point.kind = k :=
      h.tracked.kind k q (by rw [pending_of_writing hpc]; exact List.mem_cons_self)
    rw [hkind] at hr
    rw [pending_of_writing hpc, List.pairwise_cons] at hsorted
    have hr' := h.tracked.pending k r (mem_pending_of_queue hr)
    exact absurd (hsorted.1 r hr hslot.symm) (Nat.not_lt.mpr (hlast r hr' hslot))
  | failed env k p _ hpc hok hpending haccepted hwritten hfiles =>
    rw [InOrder, hpc] at hc
    obtain ⟨hhonest, hseek, hroom⟩ := hc
    rw [if_neg (by rw [← sdWrite_ok, hok]; decide)] at hroom
    have houtcome := writeOutcome hhonest hseek
    rw [hok, ← hfiles] at houtcome
    have hsub (j : DataKind) : (s'.pending j).Sublist (s.pending j) := by
      rw [hpending]
      split_ifs
      · rfl
      · exact List.sublist_append_right _ _
    refine h.of_sublist htracked haccepted hsub fun q hq hlast => ?_
    refine newest_of_write h hpc hq hlast hsub houtcome fun hq' hgone => ?_
    rw [hpending] at hgone
    split_ifs at hgone with hlt
    · exact absurd hq' hgone
    · -- the dropped point is not the newest of its slot
      obtain rfl := eq_of_not_mem_queue hpc hq' hgone
      obtain ⟨r, hr, hslot⟩ := hroom.resolve_left hlt
      have hsorted := h.sorted k
      rw [pending_of_writing hpc, List.pairwise_cons] at hsorted
      have hr := List.mem_reverse.mpr hr
      have hr' := h.tracked.pending k r (mem_pending_of_queue hr)
      exact absurd (hsorted.1 r hr hslot) (Nat.not_lt.mpr (hlast r hr' hslot.symm))

end SdSystem

open SdSystem in
/-- **The last write wins.**  In every run in which points of real dates come into a
queue one at a time for each slot, and writes and initialisations keep the order,
each slot holds the value that was accepted last, once nothing is queued or in
flight. -/
theorem lastWrite_wins (card : Path → Option (List UInt8)) (now : ℕ) (es : List (SdEvent b))
    (s : SdSystem b) (hm : Meets step InOrder (init card now) es)
    (hr : run step (init card now) es = some s) : s.LastWriteWins := by
  have hordered : s.Ordered :=
    run_induct_meets (fun _ e _ h hc hs => step_ordered e h hc hs) (init_ordered card now) hm hr
  intro q hq hqueue htaken hlast
  have hnone : s.pending q.point.kind = [] := by rw [pending, hqueue, htaken]; rfl
  rcases hordered.newest q hq hlast with hpending | ⟨hstored, -⟩
  · rw [hnone] at hpending
    cases hpending
  · exact hstored

/-- A daily point is in flight when a newer one for its day comes in; its write fails,
both are written later, and the newer one stays. -/
theorem lastWrite_wins_retried :
    (after SdSystem.step (.init (fun _ => none) 1) (startUp ++
      [.append (.filled .v2 .wallboxDaily 0 1), .task { now := 1002 }, .task { now := 1002 },
        .append (.filled .v2 .wallboxDaily 0 2), .task failingEnv] ++
      List.replicate 40 (.task { now := 1004 }))).LastWriteWins := by
  apply lastWrite_wins (fun _ => none) 1 (startUp ++
    [.append (.filled .v2 .wallboxDaily 0 1), .task { now := 1002 }, .task { now := 1002 },
      .append (.filled .v2 .wallboxDaily 0 2), .task failingEnv] ++
    List.replicate 40 (.task { now := 1004 }))
  · decide +kernel
  · exact run_eq_after (by decide +kernel)

/-- Two points for the same day are queued: the newer one is written first, and the
older one replaces it. -/
theorem lastWrite_loses :
    ¬ ∀ card now (es : List (SdEvent .v2)) s,
      run SdSystem.step (.init card now) es = some s → s.LastWriteWins := by
  intro h
  have hwins := h (fun _ => none) 1 (startUp ++
    [.append (.filled .v2 .wallboxDaily 0 1), .append (.filled .v2 .wallboxDaily 0 2)] ++
    List.replicate 40 (.task { now := 1002 })) _ (run_eq_after (by decide +kernel))
  revert hwins
  decide +kernel

end Bricklib2
