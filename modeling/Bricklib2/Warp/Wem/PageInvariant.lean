/-
Bricklib2/Warp/Wem/PageInvariant.lean

When the changes of the host survive.  The handler clears the mark for writing
whether or not the page went out, and a read replaces a page whether or not the
host has set it meanwhile; in runs in which neither hits an unsaved page, every
page is what the host has set and is written in the end.

Main results: `hostPages_kept_and_due` for the runs that meet `Careful`, and
`hostPages_lost`, a run in which the first read of a page overwrites it.
-/
import Bricklib2.Library.Machine
import Bricklib2.Warp.Wem.DataStorage

namespace Bricklib2

open FileStore Machine

namespace StorageSystem

variable {s s' : StorageSystem} {i j : Fin dataStoragePages} {codes : StorageCodes}

/-! ### Steps that lose nothing -/

/-- Nothing hangs on the mark of a page: the host has not set the page, or it has
set it again and the change time is still there. -/
def Unneeded (s : StorageSystem) (i : Fin dataStoragePages) : Prop :=
  s.st.hostPage i = none ∨ s.st.ds.lastChangeTime i ≠ 0

instance (s : StorageSystem) (i : Fin dataStoragePages) : Decidable (s.Unneeded i) := by
  unfold Unneeded
  infer_instance

/-- The open of a page file. -/
def openedPage (s : StorageSystem) (i : Fin dataStoragePages) (codes : StorageCodes) : LfsFile :=
  (Lfs.newFile s.lfs).openFile (storagePath i) false codes.openFile

/-- The task is told that there is no file of the page. -/
def pageMissing (s : StorageSystem) (i : Fin dataStoragePages) (codes : StorageCodes) : Bool :=
  Error.isMissing (Session.openResult s.lfs.files (storagePath i) false codes.openFile)

/-- A step of the handler that hits no unsaved page: a read hands out no bytes for a
page the host has set, and the mark is cleared behind a write of the present
content, or where nothing hangs on it. -/
def CarefulIn (s : StorageSystem) (codes : StorageCodes) : StoragePhase → Prop
  | .page _ => True
  | .reading i =>
    if s.pageMissing i codes then s.st.ds.writeToSd i = true → s.Unneeded i
    else s.st.hostPage i = none ∨
      ((s.openedPage i codes).readBytes dataStorageSize codes.transfer).getD [] = []
  | .read i _ => s.st.ds.writeToSd i = true → s.Unneeded i
  | .writing i => s.pageMissing i codes = true → codes.create.isSome = true → s.Unneeded i
  | .written i copied ok =>
    s.Unneeded i ∨
      (s.st.file.status = .opened ∧ ok = true ∧ codes.close = none ∧ copied = s.st.ds.storage i)

instance (s : StorageSystem) (codes : StorageCodes) :
    (phase : StoragePhase) → Decidable (s.CarefulIn codes phase)
  | .page _ => isTrue trivial
  | .reading i =>
    inferInstanceAs (Decidable (if s.pageMissing i codes then
      s.st.ds.writeToSd i = true → s.Unneeded i else _))
  | .read i _ => inferInstanceAs (Decidable (s.st.ds.writeToSd i = true → s.Unneeded i))
  | .writing i =>
    inferInstanceAs (Decidable (s.pageMissing i codes = true → codes.create.isSome = true → _))
  | .written i _ _ => inferInstanceAs (Decidable (s.Unneeded i ∨ _))

/-- No step of the task spoils a page of the host. -/
def Careful (s : StorageSystem) : StorageEvent → Prop
  | .task codes => s.CarefulIn codes s.st.phase
  | _ => True

instance (s : StorageSystem) : (e : StorageEvent) → Decidable (s.Careful e)
  | .pageWrite _ _ _ => isTrue trivial
  | .tick _ => isTrue trivial
  | .task codes => inferInstanceAs (Decidable (s.CarefulIn codes s.st.phase))

/-! ### The invariant -/

/-- The handle of a page that is being read or written. -/
def HandleFits (s : StorageSystem) : Prop :=
  match s.st.phase with
  | .read _ _ => s.st.file.changed = false
  | .written i copied ok =>
    (s.st.file.status = .opened ∧ s.st.file.path = some (storagePath i) ∧
      s.st.file.changed = ok ∧ (ok = true → s.st.file.content.take dataStorageSize = copied.1)) ∨
      (s.st.file.status ≠ .opened ∧ s.st.file.path = none)
  | _ => True

/-- No page of the host is lost, and what is open is what the task works on. -/
structure PagesSafe (s : StorageSystem) : Prop where
  kept : s.HostPagesKept
  due : s.HostPagesDue
  handle : s.HandleFits

theorem storagePath_injective (h : storagePath i = storagePath j) : i = j := by
  revert i j
  decide

/-- A change of the pages and of the card that loses nothing: the pages the host
has set are the same, and a mark goes only with the page on the card or with a
change time. -/
theorem pagesSafe_of_step (h : s.PagesSafe) (hhost : s'.st.hostPage = s.st.hostPage)
    (hkept : ∀ i page, s.st.hostPage i = some page → s'.st.ds.storage i = s.st.ds.storage i)
    (hdue : ∀ i page, s.st.hostPage i = some page → s'.card i ≠ some (s.st.ds.storage i).1 →
      (s.card i ≠ some (s.st.ds.storage i).1 →
        s.st.ds.lastChangeTime i ≠ 0 ∨ s.st.ds.writeToSd i = true) →
      s'.st.ds.lastChangeTime i ≠ 0 ∨ s'.st.ds.writeToSd i = true)
    (hhandle : s'.HandleFits) : s'.PagesSafe where
  kept i page hpage := by
    rw [hhost] at hpage
    rw [hkept i page hpage]
    exact h.kept i page hpage
  due i page hpage hcard := by
    rw [hhost] at hpage
    rw [hkept i page hpage] at hcard
    exact hdue i page hpage hcard (h.due i page hpage)
  handle := hhandle

/-- The handler clears the mark of a page and goes on to the next one. -/
theorem pagesSafe_of_clear (h : s.PagesSafe)
    (hfree : s.st.ds.writeToSd i = true → s.Unneeded i) {lfs : Lfs} {st : Storage}
    (hfiles : lfs.files = s.lfs.files) (hhost : st.hostPage = s.st.hostPage)
    (hstorage : st.ds.storage = s.st.ds.storage)
    (htime : st.ds.lastChangeTime = s.st.ds.lastChangeTime)
    (hwrite : st.ds.writeToSd = Function.update s.st.ds.writeToSd i false) {n : ℕ}
    (hphase : st.phase = .page n) : PagesSafe ⟨lfs, st⟩ := by
  apply pagesSafe_of_step h hhost (fun j page _ => congrFun hstorage j)
  · intro j page hpage hcard hdue
    have hcard' : s.card j ≠ some (s.st.ds.storage j).1 := by
      show (s.lfs.files (storagePath j)).map _ ≠ _
      rw [← hfiles]
      exact hcard
    show st.ds.lastChangeTime j ≠ 0 ∨ st.ds.writeToSd j = true
    rw [htime, hwrite]
    rcases hdue hcard' with hpending | hmark
    · exact Or.inl hpending
    · by_cases hij : j = i
      · subst hij
        rcases hfree hmark with hnone | hpending
        · exact absurd hpage (by simp [hnone])
        · exact Or.inl hpending
      · exact Or.inr (by rwa [Function.update_of_ne hij])
  · unfold HandleFits
    rw [show (StorageSystem.mk lfs st).st.phase = .page n from hphase]
    trivial

/-! ### Steps -/

theorem pageWrite_safe (h : s.PagesSafe) {page : Page} {now : ℕ} (hnow : systemTimerGetMs now ≠ 0) :
    PagesSafe ⟨s.lfs, s.st.pageWrite i page now⟩ where
  kept j p hp := by
    by_cases hij : j = i
    · subst hij
      simpa [Storage.pageWrite] using hp
    · simp only [Storage.pageWrite, Function.update_of_ne hij] at hp ⊢
      exact h.kept j p hp
  due j p hp hcard := by
    by_cases hij : j = i
    · subst hij
      left
      simpa [Storage.pageWrite] using hnow
    · simp only [Storage.pageWrite, Function.update_of_ne hij] at hp hcard ⊢
      exact h.due j p hp hcard
  handle := h.handle

theorem tick_safe (h : s.PagesSafe) (now : ℕ) :
    PagesSafe ⟨s.lfs, { s.st with ds := dataStorageTick now s.st.ds }⟩ := by
  refine pagesSafe_of_step h ?_ ?_ ?_ ?_
  · rfl
  · exact fun _ _ _ => rfl
  · intro j page _ hcard hdue
    -- a change time goes only where the mark comes
    show (if s.st.ds.due now j then 0 else s.st.ds.lastChangeTime j) ≠ 0 ∨
      (s.st.ds.due now j || s.st.ds.writeToSd j) = true
    cases hj : s.st.ds.due now j with
    | true => exact Or.inr rfl
    | false => exact hdue hcard
  · exact h.handle

theorem page_safe (h : s.PagesSafe) {n : ℕ} (hphase : s.st.phase = .page n) :
    PagesSafe ⟨(s.st.task codes s.lfs).1, (s.st.task codes s.lfs).2⟩ := by
  -- only the position of the handler changes
  have hmove (phase : StoragePhase) (hfits : HandleFits ⟨s.lfs, { s.st with phase := phase }⟩) :
      PagesSafe ⟨s.lfs, { s.st with phase := phase }⟩ := ⟨h.kept, h.due, hfits⟩
  unfold Storage.task
  rw [hphase]
  dsimp only
  split_ifs <;> exact hmove _ trivial

theorem Page.load_nil (page : Page) : page.load [] = page := by
  apply Subtype.ext
  simp [Page.load, Bytes.overwrite]

theorem readBegin_safe (h : s.PagesSafe) (hcare : s.Careful (.task codes))
    (hphase : s.st.phase = .reading i) :
    PagesSafe ⟨(s.st.readBegin i codes s.lfs).1, (s.st.readBegin i codes s.lfs).2⟩ := by
  simp only [Careful, hphase, CarefulIn] at hcare
  unfold Storage.readBegin
  dsimp only
  split_ifs with hmissing
  · rw [if_pos (show s.pageMissing i codes = true from hmissing)] at hcare
    apply pagesSafe_of_clear h hcare <;> first | rfl | skip
    exact Session.openFile_files_of_existing
  · rw [if_neg (show ¬ s.pageMissing i codes = true from hmissing)] at hcare
    have hopened : (s.openedPage i codes).store.files = s.lfs.files :=
      Session.openFile_files_of_existing
    refine pagesSafe_of_step h rfl ?_ ?_ ?_
    · intro j page hpage
      show Function.update s.st.ds.storage i _ j = s.st.ds.storage j
      by_cases hij : j = i
      · subst hij
        rw [Function.update_self]
        rcases hcare with hnone | hempty
        · exact absurd hpage (by simp [hnone])
        · exact (congrArg _ hempty).trans (Page.load_nil _)
      · rw [Function.update_of_ne hij]
    · intro j page _ hcard hdue
      refine hdue fun heq => hcard ?_
      show ((s.openedPage i codes).store.files (storagePath j)).map _ = _
      rw [hopened]
      exact heq
    · show (s.openedPage i codes).file.changed = false
      exact Session.openFile_changed

theorem readEnd_safe (h : s.PagesSafe) {ok : Bool} (hcare : s.Careful (.task codes))
    (hphase : s.st.phase = .read i ok) :
    PagesSafe ⟨(s.st.readEnd i ok codes s.lfs).1, (s.st.readEnd i ok codes s.lfs).2⟩ := by
  simp only [Careful, hphase, CarefulIn] at hcare
  have hunchanged : s.st.file.changed = false := by
    have hhandle := h.handle
    unfold HandleFits at hhandle
    rwa [hphase] at hhandle
  have hfiles : (s.st.readEnd i ok codes s.lfs).1.files = s.lfs.files :=
    Session.close_files_of_unchanged (s := ⟨s.lfs, s.st.file⟩) hunchanged
  unfold Storage.readEnd at hfiles ⊢
  dsimp only at hfiles ⊢
  split_ifs at hfiles ⊢ <;> exact pagesSafe_of_clear h hcare hfiles rfl rfl rfl rfl rfl

/-- The handle of a page that was opened for writing. -/
theorem handleFits_of_copy {file : LfsFile} {code : LfsCode} {content : List UInt8}
    (hfile : file.file = { status := .opened, path := some (storagePath i), content := content } ∨
      file.file = { status := .failed })
    {st : Storage} (hphase : st.phase = .written i (s.st.ds.storage i) code.isNone)
    (hst : st.file = (file.write (s.st.ds.storage i).1 code).file) :
    HandleFits ⟨(file.write (s.st.ds.storage i).1 code).store, st⟩ := by
  unfold HandleFits
  rw [show (StorageSystem.mk _ st).st.phase = _ from hphase]
  dsimp only
  rw [hst]
  rcases hfile with hopened | hfailed
  · left
    refine ⟨?_, ?_, ?_, ?_⟩
    · rw [Session.write_status, hopened]
    · rw [Session.write_path, hopened]
    · rw [Session.write_changed]
    · intro hok
      obtain rfl := Option.isNone_iff_eq_none.mp hok
      have hwindow := Session.window_patch file.file.content 0 (s.st.ds.storage i).1
      rw [(s.st.ds.storage i).2, List.drop_zero] at hwindow
      rw [Session.write_content_of_none, hopened] at *
      exact hwindow
  · right
    rw [Session.write_status, Session.write_path, hfailed]
    exact ⟨by decide, rfl⟩

theorem writeBegin_safe (h : s.PagesSafe) (hcare : s.Careful (.task codes))
    (hphase : s.st.phase = .writing i) :
    PagesSafe ⟨(s.st.writeBegin i codes s.lfs).1, (s.st.writeBegin i codes s.lfs).2⟩ := by
  simp only [Careful, hphase, CarefulIn] at hcare
  -- the copy itself changes no file and no flag
  have hcopy (file : LfsFile)
      (hfile : ∃ content, file.file =
          { status := .opened, path := some (storagePath i), content := content } ∨
        file.file = { status := .failed })
      (hcard : ∀ j, (s.card j).isSome = true →
        (file.store.files (storagePath j)).map (List.take dataStorageSize) = s.card j) :
      PagesSafe ⟨(file.write (s.st.ds.storage i).1 codes.transfer).store,
        { s.st with
          file := (file.write (s.st.ds.storage i).1 codes.transfer).file
          phase := .written i (s.st.ds.storage i) codes.transfer.isNone }⟩ := by
    refine pagesSafe_of_step h rfl (fun _ _ _ => rfl) ?_ ?_
    · intro j page _ hcard' hdue
      refine hdue fun heq => hcard' ?_
      rw [← heq]
      exact hcard j (by rw [heq]; rfl)
    · obtain ⟨content, hfile⟩ := hfile
      exact handleFits_of_copy hfile rfl rfl
  have hclosed : (((Lfs.newFile s.lfs).openFile (storagePath i) false codes.openFile).close
      codes.closeMissing).store.files = s.lfs.files := by
    rw [Session.close_files_of_unchanged Session.openFile_changed,
      Session.openFile_files_of_existing, Lfs.newFile_store]
  unfold Storage.writeBegin
  dsimp only
  split_ifs with hmissing hcreate
  · apply pagesSafe_of_clear h (fun _ => hcare hmissing hcreate) <;> first | rfl | skip
    show (Session.openFile _ _ true codes.create).store.files = _
    rw [Session.openFile_files, Session.openResult_create, if_pos hcreate, hclosed]
  · apply hcopy
    · exact ⟨_, Session.openFile_file ..⟩
    · intro j hj
      rw [Session.openFile_files, Session.openResult_create, if_neg hcreate, hclosed]
      by_cases hij : j = i
      · subst hij
        obtain ⟨content, hcontent⟩ := Option.isSome_iff_exists.mp (Option.isSome_map ▸ hj)
        rw [Function.update_self, hcontent, card, hcontent]
        rfl
      · rw [Function.update_of_ne fun hpath => hij (storagePath_injective hpath)]
        rfl
  · apply hcopy
    · exact ⟨_, Session.openFile_file ..⟩
    · intro j _
      rw [Session.openFile_files_of_existing]
      rfl

theorem writeEnd_safe (h : s.PagesSafe) {copied : Page} {ok : Bool}
    (hcare : s.Careful (.task codes)) (hphase : s.st.phase = .written i copied ok) :
    PagesSafe ⟨(s.st.writeEnd i ok codes s.lfs).1, (s.st.writeEnd i ok codes s.lfs).2⟩ := by
  simp only [Careful, hphase, CarefulIn] at hcare
  have hhandle := h.handle
  unfold HandleFits at hhandle
  rw [hphase] at hhandle
  -- the close touches no page but this one, and puts the copy there if all went well
  have hother (j) (hij : j ≠ i) :
      (Session.closedFiles ⟨s.lfs, s.st.file⟩ codes.close) (storagePath j) =
        s.lfs.files (storagePath j) := by
    unfold Session.closedFiles
    rcases hhandle with ⟨-, hpath, -, -⟩ | ⟨-, hpath⟩
    · simp only [hpath]
      split_ifs
      · rw [Function.update_of_ne fun heq => hij (storagePath_injective heq)]
      · rfl
    · simp only [hpath]
  have hcopied (hopened : s.st.file.status = .opened) (hok : ok = true)
      (hclose : codes.close = none) :
      ((Session.closedFiles ⟨s.lfs, s.st.file⟩ codes.close) (storagePath i)).map
        (List.take dataStorageSize) = some copied.1 := by
    rcases hhandle with ⟨-, hpath, hchanged, hcontent⟩ | ⟨hfailed, -⟩
    · simp [Session.closedFiles, hpath, hchanged, hok, hclose, hcontent hok]
    · exact absurd hopened hfailed
  have hdone {st : Storage} (hhost : st.hostPage = s.st.hostPage)
      (hstorage : st.ds.storage = s.st.ds.storage)
      (htime : st.ds.lastChangeTime = s.st.ds.lastChangeTime)
      (hwrite : st.ds.writeToSd = s.st.ds.writeToSd) :
      PagesSafe ⟨(Session.close ⟨s.lfs, s.st.file⟩ codes.close).leave, st.writeDone i⟩ := by
    refine pagesSafe_of_step h hhost (fun j _ _ => congrFun hstorage j) ?_ trivial
    intro j page hpage hcard hdue
    show st.ds.lastChangeTime j ≠ 0 ∨ Function.update st.ds.writeToSd i false j = true
    rw [htime, hwrite]
    by_cases hij : j = i
    · subst hij
      rcases hcare with (hnone | hpending) | ⟨hopened, hok, hclose, hcopy⟩
      · exact absurd hpage (by simp [hnone])
      · exact Or.inl hpending
      · exact absurd ((hcopied hopened hok hclose).trans (by rw [hcopy])) hcard
    · rw [Function.update_of_ne hij]
      refine hdue fun heq => hcard ?_
      show ((Session.closedFiles ⟨s.lfs, s.st.file⟩ codes.close) (storagePath j)).map _ = _
      rw [hother j hij]
      exact heq
  unfold Storage.writeEnd
  dsimp only
  split_ifs <;> exact hdone rfl rfl rfl rfl

/-- **One step** that hits no unsaved page. -/
theorem step_safe (e : StorageEvent) (h : s.PagesSafe) (hcare : s.Careful e)
    (hs : step s e = some s') : s'.PagesSafe := by
  cases e with
  | pageWrite i page now =>
    change (if systemTimerGetMs now = 0 then none else some _) = some s' at hs
    split_ifs at hs with hnow
    obtain rfl := Option.some.inj hs
    exact pageWrite_safe h hnow
  | tick now =>
    obtain rfl := Option.some.inj hs
    exact tick_safe h now
  | task codes =>
    obtain rfl := Option.some.inj hs
    show PagesSafe ⟨(s.st.task codes s.lfs).1, (s.st.task codes s.lfs).2⟩
    cases hphase : s.st.phase with
    | page n => exact page_safe h hphase
    | reading i =>
      rw [show s.st.task codes s.lfs = s.st.readBegin i codes s.lfs by rw [Storage.task, hphase]]
      exact readBegin_safe h hcare hphase
    | read i ok =>
      rw [show s.st.task codes s.lfs = s.st.readEnd i ok codes s.lfs by rw [Storage.task, hphase]]
      exact readEnd_safe h hcare hphase
    | writing i =>
      rw [show s.st.task codes s.lfs = s.st.writeBegin i codes s.lfs by rw [Storage.task, hphase]]
      exact writeBegin_safe h hcare hphase
    | written i copied ok =>
      rw [show s.st.task codes s.lfs = s.st.writeEnd i ok codes s.lfs by rw [Storage.task, hphase]]
      exact writeEnd_safe h hcare hphase

theorem init_safe (files : Path → Option (List UInt8)) : (init files).PagesSafe where
  kept _ _ hpage := by cases hpage
  due _ _ hpage := by cases hpage
  handle := trivial

end StorageSystem

open StorageSystem in
/-- **Storage page dirtiness.**  In every run in which no read and no end of a write
hits an unsaved page, a page the host has set is never replaced, and as long as
it is not on the card it has a change time or the mark for writing. -/
theorem hostPages_kept_and_due (files : Path → Option (List UInt8)) (es : List StorageEvent)
    (s : StorageSystem) (hm : Meets step Careful (init files) es)
    (hr : run step (init files) es = some s) : s.HostPagesKept ∧ s.HostPagesDue := by
  have hsafe : s.PagesSafe :=
    run_induct_meets (fun _ e _ h hc hs => step_safe e h hc hs) (init_safe files) hm hr
  exact ⟨hsafe.kept, hsafe.due⟩

/-- A page all of whose bytes are `byte`. -/
def filledPage (byte : UInt8) : Page := ⟨List.replicate dataStorageSize byte, List.length_replicate⟩

/-- The first round of the handler on an empty card, then a page that is set and due. -/
def setAndDue : List StorageEvent :=
  List.replicate 11 (.task {}) ++ [.pageWrite 0 (filledPage 1) 1, .tick 600001, .task {}]

/-- A page that is set, due and written. -/
theorem hostPages_kept_and_due_written :
    let s := after StorageSystem.step (.init fun _ => none)
      (setAndDue ++ [.task {}, .task {}])
    s.HostPagesKept ∧ s.HostPagesDue := by
  intro s
  apply hostPages_kept_and_due (fun _ => none) (setAndDue ++ [.task {}, .task {}]) s
  · decide +kernel
  · exact run_eq_after (by decide +kernel)

/-- The host sets a page before the first read of it, which then replaces it by what
is on the card; and a page is not written again after its write has failed. -/
theorem hostPages_lost :
    (¬ ∀ files es s, run StorageSystem.step (.init files) es = some s → s.HostPagesKept) ∧
      ¬ ∀ files es s, run StorageSystem.step (.init files) es = some s → s.HostPagesDue := by
  constructor
  · intro h
    have hkept := h (fun path => if path = storagePath 0 then some (filledPage 7).1 else none)
      [.pageWrite 0 (filledPage 1) 1, .task {}, .task {}] _ (run_eq_after (by decide +kernel))
      0 (filledPage 1) (by decide +kernel)
    revert hkept
    decide +kernel
  · intro h
    have hdue := h (fun _ => none) (setAndDue ++ [.task { create := some (.other 5) }]) _
      (run_eq_after (by decide +kernel)) 0 (filledPage 1) (by decide +kernel)
      (by decide +kernel)
    revert hdue
    decide +kernel

end Bricklib2
