/-
Bricklib2/Warp/Wem/SdFormat.lean

What the data files look like.  A file is created with its metadata and an entry
without data in each slot, and setters replace entries; but a file whose creation
was interrupted is empty, and later writes take it for a complete one.

Main results: `dataFiles_formed` for the runs that meet `FormatKept`, and
`dataFiles_deformed`, a run that leaves an empty file.
-/
import Bricklib2.Warp.Wem.LastWrite

namespace Bricklib2

open FileStore Machine

variable {b : Build} {k : DataKind} {f : FileName} {content : List UInt8}
  {points points' : DataPoint b → Prop}

/-! ### Files in their format -/

/-- A file that starts with its metadata, each slot of which holds the entry without
data or the value of one of `points`. -/
structure FileFormed (points : DataPoint b → Prop) (k : DataKind) (f : FileName)
    (content : List UInt8) : Prop where
  metadata : content.take sdMetadataSize = k.metadata
  slots : ∀ i < k.slots, slotOf b k content i = newEntry b k ∨
    ∃ p, points p ∧ p.kind = k ∧ p.fileName = f ∧ p.slot = i ∧ slotOf b k content i = p.data

theorem FileFormed.mono (h : FileFormed points k f content) (hsub : ∀ p, points p → points' p) :
    FileFormed points' k f content where
  metadata := h.metadata
  slots i hi := (h.slots i hi).imp_right fun ⟨p, hp, hrest⟩ => ⟨p, hsub p hp, hrest⟩

theorem fileFormed_newFile (points : DataPoint b → Prop) (k : DataKind) (f : FileName) :
    FileFormed points k f (newFile b k) where
  metadata := take_newFile b k
  slots _ hi := Or.inl (slotOf_newFile hi)

/-- Every slot is there as a whole. -/
theorem FileFormed.length_slotOf (h : FileFormed points k f content) {i : ℕ} (hi : i < k.slots) :
    (slotOf b k content i).length = entrySize b k := by
  rcases h.slots i hi with hnew | ⟨p, -, rfl, -, -, hdata⟩
  · rw [hnew, length_newEntry]
  · rw [hdata, p.length_data]

/-- A point that is written takes its slot. -/
theorem FileFormed.patch {p : DataPoint b} (h : FileFormed points p.kind p.fileName content)
    (hp : p.InRange) (hpoint : points p) :
    FileFormed points p.kind p.fileName (Session.patch content p.position p.data) where
  metadata := by
    have hlength := congrArg List.length h.metadata
    rw [List.length_take, DataKind.length_metadata] at hlength
    rw [DataPoint.position_eq hp, take_patch (by omega)]
    exact h.metadata
  slots i hi := by
    rw [DataPoint.position_eq hp]
    by_cases hslot : i = p.slot
    · subst hslot
      exact Or.inr ⟨p, hpoint, rfl, rfl, rfl, slotOf_patch_self p.length_data⟩
    · rw [slotOf_patch_of_ne p.length_data (h.length_slotOf hi) hslot]
      exact h.slots i hi

/-- All data files of the card are in their format. -/
def DataFilesFormed (points : DataPoint b → Prop) (files : Path → Option (List UInt8)) : Prop :=
  ∀ (k : DataKind) (wallboxId : UInt32) (year month day : UInt8) (content : List UInt8),
    1 ≤ day.toNat → day.toNat ≤ 31 →
      files (sdGetPathWithFilename (k.fileName wallboxId year month day)) = some content →
      FileFormed points k (k.fileName wallboxId year month day) content

theorem DataFilesFormed.mono {files : Path → Option (List UInt8)} (h : DataFilesFormed points files)
    (hsub : ∀ p, points p → points' p) : DataFilesFormed points' files :=
  fun k id year month day content hday hday' hfile =>
    (h k id year month day content hday hday' hfile).mono hsub

/-- A card whose data files are among those of a card in its format. -/
theorem DataFilesFormed.of_subset {files files' : Path → Option (List UInt8)}
    (h : DataFilesFormed points files)
    (hsub : ∀ f, files' (sdGetPathWithFilename f) = files (sdGetPathWithFilename f) ∨
      files' (sdGetPathWithFilename f) = none) : DataFilesFormed points files' := by
  intro k id year month day content hday hday' hfile
  rcases hsub (k.fileName id year month day) with heq | hnone
  · rw [heq] at hfile
    exact h k id year month day content hday hday' hfile
  · rw [hnone] at hfile
    cases hfile

/-- **A write** keeps the format, if no creation is interrupted. -/
theorem WriteOutcome.dataFilesFormed {p : DataPoint b} {codes : WriteCodes} {sd : SdFiles}
    {files : Path → Option (List UInt8)} {cache : List NoExistEntry} {ok : Bool}
    (h : WriteOutcome p.fileName (newFile b p.kind) p.position p.data codes sd files cache ok)
    (hp : p.InRange) (hcreate : Error.isMissing (firstOpen p.fileName codes sd) = true →
      codes.create.openFile = none → codes.create.complete = true)
    (hsub : ∀ q, points q → points' q) (hpoint : ok = true → points' p)
    (hformed : DataFilesFormed points sd.lfs.files) : DataFilesFormed points' files := by
  have hkept := hformed.mono hsub
  -- only the file of the point changes, and it has its new content in the format
  have hupdate (content : List UInt8)
      (hcontent : FileFormed points' p.kind p.fileName content) :
      DataFilesFormed points' (Function.update sd.lfs.files (sdGetPathWithFilename p.fileName)
        (some content)) := by
    intro k id year month day content' hday hday' hfile
    by_cases hpath : sdGetPathWithFilename (k.fileName id year month day) =
        sdGetPathWithFilename p.fileName
    · have hname := sdGetPathWithFilename_injective hpath
      have hkind : k = p.kind := DataKind.eq_of_fileName hday' hp.2.1 hname
      rw [hpath, Function.update_self] at hfile
      obtain rfl := Option.some.inj hfile
      rw [hname]
      subst hkind
      exact hcontent
    · rw [Function.update_of_ne hpath] at hfile
      exact hkept k id year month day content' hday hday' hfile
  cases h with
  | refused => exact hkept
  | unnoticed _ _ _ => exact hkept
  | interrupted _ hmissing hopen hcomplete =>
    exact absurd (hcomplete.symm.trans (hcreate hmissing hopen)) Bool.false_ne_true
  | unopened _ _ _ => exact hupdate _ (fileFormed_newFile _ _ _)
  | created _ => exact hupdate _ (fileFormed_newFile _ _ _)
  | written content hfile =>
    refine hupdate _ (FileFormed.patch ?_ hp (hpoint rfl))
    exact hkept p.kind p.wallboxId p.year p.month p.day content hp.1 hp.2.1 hfile
  | createdWritten _ =>
    exact hupdate _ ((fileFormed_newFile _ _ _).patch hp (hpoint rfl))

/-! ### Runs of the task -/

namespace SdSystem

variable {s s' : SdSystem b} {env : SdEnv}

/-- The task at `pc` keeps the format: it writes a point of a real date on a card that
does not call an existing file missing, no creation that gets past its open is
interrupted, and the seek of a daily write succeeds. -/
def FormatKeptAt (env : SdEnv) (s : SdSystem b) : SdPc b → Prop
  | .writing _ p =>
    p.point.InRange ∧ env.write.Honest p.point.fileName s.sd.files ∧
      (p.point.kind.daily = true → env.write.seek = none) ∧
      (Error.isMissing (firstOpen p.point.fileName env.write s.sd.files) = true →
        env.write.create.openFile = none → env.write.create.complete = true)
  | _ => True

/-- Every step keeps the format. -/
def FormatKept (s : SdSystem b) : SdEvent b → Prop
  | .task env => s.FormatKeptAt env s.pc
  | _ => True

instance (env : SdEnv) (s : SdSystem b) : ∀ pc, Decidable (s.FormatKeptAt env pc)
  | .writing _ p => inferInstanceAs (Decidable (p.point.InRange ∧ _ ∧ (_ → _) ∧ (_ → _ → _)))
  | .loop | .setter _ | .getter _ _ | .reading _ _ _ _ | .waiting _ _ _ | .storage =>
    isTrue trivial

instance (s : SdSystem b) : ∀ e, Decidable (s.FormatKept e)
  | .task env => inferInstanceAs (Decidable (s.FormatKeptAt env s.pc))
  | .append _ | .request _ _ | .ack _ | .pageWrite _ _ _ | .storageTick _ | .requestFormat =>
    isTrue trivial

/-- The values on the card: those it came with and those that were written. -/
def OnCard (earlier : DataPoint b → Prop) (s : SdSystem b) (p : DataPoint b) : Prop :=
  earlier p ∨ ∃ q ∈ s.written, q.point = p

theorem onCard_eq {earlier : DataPoint b → Prop} (h : s'.written = s.written) :
    s'.OnCard earlier = s.OnCard earlier := by
  funext p
  rw [OnCard, h]
  rfl

/-- **One step** that keeps the format. -/
theorem step_dataFilesFormed {earlier : DataPoint b → Prop} (e : SdEvent b) (h : s.Tracked)
    (hformed : DataFilesFormed (s.OnCard earlier) s.sd.files.lfs.files) (hc : s.FormatKept e)
    (hs : step s e = some s') : DataFilesFormed (s'.OnCard earlier) s'.sd.files.lfs.files := by
  cases step_passage e h.handle h.page hs with
  | quiet _ _ huneventful hpending haccepted hwritten hfiles =>
    rw [onCard_eq hwritten]
    exact hformed.of_subset fun f => Or.inl (congrFun hfiles f)
  | accepted p _ hroom hpending haccepted hwritten hfiles =>
    rw [onCard_eq hwritten]
    exact hformed.of_subset fun f => Or.inl (congrFun hfiles f)
  | initialised env _ hpc hdue hpending haccepted hwritten hfiles hgone =>
    rw [onCard_eq hwritten]
    exact hformed.of_subset hgone
  | written env k p _ hpc hok hpending haccepted hwritten hfiles =>
    rw [FormatKept, hpc] at hc
    obtain ⟨hrange, hhonest, hseek, hcreate⟩ := hc
    have houtcome := writeOutcome hhonest hseek
    rw [← hfiles] at houtcome
    refine houtcome.dataFilesFormed hrange hcreate (fun q hq => ?_) (fun _ => ?_) hformed
    · refine hq.imp_right fun ⟨r, hr, hpoint⟩ => ⟨r, ?_, hpoint⟩
      rw [hwritten]
      exact List.mem_cons_of_mem _ hr
    · exact Or.inr ⟨p, by rw [hwritten]; exact List.mem_cons_self, rfl⟩
  | failed env k p _ hpc hok hpending haccepted hwritten hfiles =>
    rw [FormatKept, hpc] at hc
    obtain ⟨hrange, hhonest, hseek, hcreate⟩ := hc
    have houtcome := writeOutcome hhonest hseek
    rw [hok, ← hfiles] at houtcome
    rw [onCard_eq hwritten]
    exact houtcome.dataFilesFormed hrange hcreate (fun q hq => hq) nofun hformed

end SdSystem

open SdSystem in
/-- **Data file format.**  In every run from a card in its format in which no creation
is interrupted, points have real dates and the seeks of daily writes succeed, every
data file starts with its metadata, and each of its slots holds the entry without
data or a value that was written. -/
theorem dataFiles_formed (card : Path → Option (List UInt8)) (now : ℕ) (es : List (SdEvent b))
    (s : SdSystem b) (earlier : DataPoint b → Prop) (hcard : DataFilesFormed earlier card)
    (hm : Meets step FormatKept (init card now) es) (hr : run step (init card now) es = some s) :
    DataFilesFormed (s.OnCard earlier) s.sd.files.lfs.files := by
  have hinv : s.Tracked ∧ DataFilesFormed (s.OnCard earlier) s.sd.files.lfs.files := by
    refine run_induct_meets
      (P := fun s => s.Tracked ∧ DataFilesFormed (s.OnCard earlier) s.sd.files.lfs.files)
      ?_ ?_ hm hr
    · exact fun s e s' h hc hs => ⟨step_tracked e h.1 hs, step_dataFilesFormed e h.1 h.2 hc hs⟩
    · exact ⟨init_tracked card now, hcard.mono fun _ => Or.inl⟩
  exact hinv.2

theorem dataFilesFormed_empty (points : DataPoint b → Prop) :
    DataFilesFormed points fun _ => none :=
  fun _ _ _ _ _ _ _ _ hfile => by cases hfile

/-- A file is created, and the close behind its first entry fails; the entry is written
in the next round. -/
theorem dataFiles_formed_retried :
    DataFilesFormed (b := .v2)
      ((after SdSystem.step (.init (fun _ => none) 1) (startUp ++
        [.append (.filled .v2 .wallboxDaily 0 1), .task { now := 1002 }, .task { now := 1002 },
          .task { now := 1003, write := { close := some (.other 5) } }] ++
        List.replicate 40 (.task { now := 1004 }))).OnCard fun _ => False)
      (after SdSystem.step (.init (fun _ => none) 1) (startUp ++
        [.append (.filled .v2 .wallboxDaily 0 1), .task { now := 1002 }, .task { now := 1002 },
          .task { now := 1003, write := { close := some (.other 5) } }] ++
        List.replicate 40 (.task { now := 1004 }))).sd.files.lfs.files := by
  apply dataFiles_formed (fun _ => none) 1 (startUp ++
    [.append (.filled .v2 .wallboxDaily 0 1), .task { now := 1002 }, .task { now := 1002 },
      .task { now := 1003, write := { close := some (.other 5) } }] ++
    List.replicate 40 (.task { now := 1004 })) _ (fun _ => False) (dataFilesFormed_empty _)
  · decide +kernel
  · exact run_eq_after (by decide +kernel)

/-- The write of the template fails, and the file has no metadata. -/
theorem dataFiles_deformed :
    ¬ ∀ card now (es : List (SdEvent .v2)) s (earlier : DataPoint .v2 → Prop),
      DataFilesFormed earlier card → run SdSystem.step (.init card now) es = some s →
      DataFilesFormed (s.OnCard earlier) s.sd.files.lfs.files := by
  intro h
  have hformed := h (fun _ => none) 1 (failedWrite ++ [.task failingEnv]) _ (fun _ => False)
    (dataFilesFormed_empty _) (run_eq_after (by decide +kernel)) .wallboxDaily 0 24 1 1 []
    (by decide) (by decide) (by decide +kernel)
  have hmetadata := hformed.metadata
  revert hmetadata
  decide

end Bricklib2
