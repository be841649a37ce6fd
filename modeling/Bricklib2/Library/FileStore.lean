/-
Bricklib2/Library/FileStore.lean

A file store behind handles, as a C program sees it that passes paths, handles
and buffers to a file system library.  The store trusts its caller: it does
what the handle says and does not ask whether the handle is one it gave out.
Every operation takes the error the store is going to report (`none`: it does
what it is asked to), so the behaviour of the medium is quantified in front of
a theorem.

* an open that reports an error has no effect; without `create` a missing file
  is reported as `noEntry`, with it the file exists from then on and is empty;
* a write goes into the handle; only the close that follows puts it into the
  file, and not if the write or the close failed;
* a write behind the end fills the gap with zeros.

Beside the files the store keeps what a caller has to answer for: which calls
were made on a handle in which state (`Call.legal`), and how many files were
open when a file was opened.
-/
import Bricklib2.Library.Bytes
import Mathlib.Logic.Function.Basic

namespace FileStore

/-! ### Handles and the store -/

/-- What an operation can report. -/
inductive Error
  | noEntry
  | exist
  | other (code : ℕ)
  deriving DecidableEq, Repr

/-- The answers to an open that say that there is no such file. -/
def Error.isMissing : Option Error → Bool
  | some .noEntry | some .exist => true
  | _ => false

/-- Where a handle is in its life. -/
inductive Status
  | unused
  | failed
  | opened
  | closed
  deriving DecidableEq, Repr

/-- A handle: the file it is about and that file as the handle sees it. -/
structure Handle (P : Type*) where
  status : Status := .unused
  path : Option P := none
  position : ℕ := 0
  content : List UInt8 := []
  changed : Bool := false
  deriving DecidableEq

/-- The calls; `leave` is not a call, it marks that a handle is given up. -/
inductive Op
  | openFile
  | seek
  | read
  | write
  | close
  | leave
  deriving DecidableEq, Repr

/-- A call, the state of its handle and the number of open files before it. -/
structure Call where
  op : Op
  status : Status
  openFiles : ℕ
  deriving DecidableEq, Repr

/-- A handle is opened, used while it is open, and closed once; it is neither
opened again nor given up before that. -/
def Call.legal (c : Call) : Prop :=
  match c.op with
  | .openFile | .leave => c.status ≠ .opened
  | _ => c.status = .opened

instance (c : Call) : Decidable c.legal := by
  unfold Call.legal
  split <;> infer_instance

/-- The files, and the record of the calls with the newest in front. -/
structure Store (P : Type*) where
  files : P → Option (List UInt8)
  openFiles : ℕ := 0
  calls : List Call := []

variable {P : Type*} [DecidableEq P]

/-- Every call so far was legal. -/
def Store.Legal (s : Store P) : Prop := ∀ c ∈ s.calls, c.legal

/-- No file was opened while another one was open. -/
def Store.Exclusive (s : Store P) : Prop := ∀ c ∈ s.calls, c.op = .openFile → c.openFiles = 0

instance (s : Store P) : Decidable s.Legal := List.decidableBAll _ _

instance (s : Store P) : Decidable s.Exclusive := List.decidableBAll _ _

/-! ### Operations -/

/-- The store together with the one handle the next calls are about. -/
structure Session (P : Type*) where
  store : Store P
  file : Handle P

namespace Session

/-- The store with a call on the handle in its record. -/
def record (s : Session P) (op : Op) : Store P :=
  { s.store with calls := ⟨op, s.file.status, s.store.openFiles⟩ :: s.store.calls }

/-- What an open reports. -/
def openResult (files : P → Option (List UInt8)) (p : P) (create : Bool) (code : Option Error) :
    Option Error :=
  match code with
  | some e => some e
  | none => if (files p).isNone && !create then some .noEntry else none

/-- Opens the file, which is made with `create` if there is none. -/
def openFile (s : Session P) (p : P) (create : Bool) (code : Option Error) : Session P :=
  if (openResult s.store.files p create code).isSome then
    { store := s.record .openFile, file := { status := .failed } }
  else
    let content := (s.store.files p).getD []
    { store :=
        { s.record .openFile with
          files := Function.update s.store.files p (some content)
          openFiles := s.store.openFiles + 1 }
      file := { status := .opened, path := some p, content := content } }

/-- The next read or write is to be at `position`. -/
def seek (s : Session P) (position : ℕ) (code : Option Error) : Session P :=
  { store := s.record .seek
    file := if code.isSome then s.file else { s.file with position := position } }

/-- The bytes a read hands out; fewer than asked for at the end of the file. -/
def readBytes (s : Session P) (n : ℕ) (code : Option Error) : Option (List UInt8) :=
  if code.isSome then none else some ((s.file.content.drop s.file.position).take n)

/-- Reads up to `n` bytes and moves on behind them. -/
def read (s : Session P) (n : ℕ) (code : Option Error) : Session P :=
  { store := s.record .read
    file :=
      { s.file with
        position := s.file.position + ((s.readBytes n code).getD []).length } }

/-- `bytes` written at `position`, behind zeros where the file is shorter. -/
def patch (content : List UInt8) (position : ℕ) (bytes : List UInt8) : List UInt8 :=
  Bytes.overwrite (content ++ List.replicate (position - content.length) 0) position bytes

/-- Writes into the handle, at its position; after an error the changes are given up. -/
def write (s : Session P) (bytes : List UInt8) (code : Option Error) : Session P :=
  { store := s.record .write
    file :=
      if code.isSome then { s.file with changed := false }
      else
        { s.file with
          content := patch s.file.content s.file.position bytes
          position := s.file.position + bytes.length
          changed := true } }

/-- The files after a close: what was written counts from here on. -/
def closedFiles (s : Session P) (code : Option Error) : P → Option (List UInt8) :=
  match s.file.path with
  | some p =>
    if s.file.changed && code.isNone then
      Function.update s.store.files p (some s.file.content)
    else s.store.files
  | none => s.store.files

/-- Closes the handle, which puts its changes into the file. -/
def close (s : Session P) (code : Option Error) : Session P :=
  { store :=
      { s.record .close with
        files := s.closedFiles code
        openFiles :=
          if s.file.status = .opened then s.store.openFiles - 1 else s.store.openFiles }
    file := { s.file with status := .closed, changed := false } }

/-- The handle goes out of scope or its memory is cleared. -/
def leave (s : Session P) : Store P := s.record .leave

/-! ### The handle after a call -/

set_option linter.unusedSectionVars false

variable {s : Session P} {p : P} {create : Bool} {code : Option Error} {n : ℕ}
  {bytes : List UInt8}

theorem openResult_create {files : P → Option (List UInt8)} :
    openResult files p true code = code := by
  cases code with
  | none => simp [openResult]
  | some e => rfl

/-- A handle that was just opened has no changes. -/
@[simp] theorem openFile_changed : (s.openFile p create code).file.changed = false := by
  unfold openFile
  split_ifs <;> rfl

/-- The handle of an open: it is on the whole file, or it is of no use. -/
theorem openFile_file (s : Session P) (p : P) (create : Bool) (code : Option Error) :
    (s.openFile p create code).file =
        { status := .opened, path := some p, content := (s.store.files p).getD [] } ∨
      (s.openFile p create code).file = { status := .failed } := by
  unfold openFile
  split_ifs
  · exact Or.inr rfl
  · exact Or.inl rfl

@[simp] theorem read_changed : (s.read n code).file.changed = s.file.changed := rfl

/-- What was opened without `create` was there. -/
theorem exists_of_openResult {files : P → Option (List UInt8)}
    (h : openResult files p false code = none) : ∃ content, files p = some content := by
  cases code with
  | some e => cases h
  | none =>
    cases hfile : files p with
    | none => simp [openResult, hfile] at h
    | some content => exact ⟨content, rfl⟩

/-- A store that reports a file as missing only if it is. -/
theorem missing_of_openResult {files : P → Option (List UInt8)}
    (h : Error.isMissing code = true → files p = none)
    (hm : Error.isMissing (openResult files p create code) = true) : files p = none := by
  cases code with
  | some e => exact h hm
  | none =>
    cases hfile : files p with
    | none => rfl
    | some content => simp [openResult, hfile, Error.isMissing] at hm

/-- An error that is not about a missing file is the one the store was told to
report. -/
theorem code_of_openResult {files : P → Option (List UInt8)} {e : ℕ}
    (h : openResult files p create code = some (.other e)) : code = some (.other e) := by
  cases code with
  | some e' => exact h
  | none =>
    unfold openResult at h
    split_ifs at h
    cases h

theorem openFile_of_some (h : (openResult s.store.files p create code).isSome = true) :
    s.openFile p create code = ⟨s.record .openFile, { status := .failed }⟩ := by
  rw [openFile, if_pos h]

theorem openFile_of_none (h : openResult s.store.files p create code = none) :
    (s.openFile p create code).file =
      { status := .opened, path := some p, content := (s.store.files p).getD [] } := by
  rw [openFile, if_neg (by simp [h])]

@[simp] theorem openFile_status :
    (s.openFile p create code).file.status =
      if (openResult s.store.files p create code).isSome then .failed else .opened := by
  unfold openFile
  split_ifs <;> rfl

@[simp] theorem seek_status : (s.seek n code).file.status = s.file.status := by
  unfold seek
  split_ifs <;> rfl

@[simp] theorem read_status : (s.read n code).file.status = s.file.status := rfl

@[simp] theorem write_status : (s.write bytes code).file.status = s.file.status := by
  unfold write
  split_ifs <;> rfl

@[simp] theorem close_status : (s.close code).file.status = .closed := rfl

/-! ### Open files -/

@[simp] theorem openFile_openFiles :
    (s.openFile p create code).store.openFiles =
      if (openResult s.store.files p create code).isSome then s.store.openFiles
      else s.store.openFiles + 1 := by
  unfold openFile
  split_ifs <;> rfl

@[simp] theorem seek_openFiles : (s.seek n code).store.openFiles = s.store.openFiles := rfl

@[simp] theorem read_openFiles : (s.read n code).store.openFiles = s.store.openFiles := rfl

@[simp] theorem write_openFiles : (s.write bytes code).store.openFiles = s.store.openFiles := rfl

@[simp] theorem close_openFiles :
    (s.close code).store.openFiles =
      if s.file.status = .opened then s.store.openFiles - 1 else s.store.openFiles := rfl

@[simp] theorem leave_openFiles : s.leave.openFiles = s.store.openFiles := rfl

/-! ### The record of the calls -/

private theorem forall_record {Q : Call → Prop} {op : Op} :
    (∀ c ∈ (s.record op).calls, Q c) ↔
      Q ⟨op, s.file.status, s.store.openFiles⟩ ∧ ∀ c ∈ s.store.calls, Q c :=
  List.forall_mem_cons

@[simp] theorem openFile_legal :
    (s.openFile p create code).store.Legal ↔ s.file.status ≠ .opened ∧ s.store.Legal := by
  unfold openFile
  split_ifs <;> exact forall_record

@[simp] theorem seek_legal :
    (s.seek n code).store.Legal ↔ s.file.status = .opened ∧ s.store.Legal := forall_record

@[simp] theorem read_legal :
    (s.read n code).store.Legal ↔ s.file.status = .opened ∧ s.store.Legal := forall_record

@[simp] theorem write_legal :
    (s.write bytes code).store.Legal ↔ s.file.status = .opened ∧ s.store.Legal := forall_record

@[simp] theorem close_legal :
    (s.close code).store.Legal ↔ s.file.status = .opened ∧ s.store.Legal := forall_record

@[simp] theorem leave_legal :
    s.leave.Legal ↔ s.file.status ≠ .opened ∧ s.store.Legal := forall_record

@[simp] theorem openFile_exclusive :
    (s.openFile p create code).store.Exclusive ↔
      s.store.openFiles = 0 ∧ s.store.Exclusive := by
  have hrecord : (s.record .openFile).Exclusive ↔ s.store.openFiles = 0 ∧ s.store.Exclusive := by
    rw [Store.Exclusive, forall_record]
    exact and_congr_left fun _ => ⟨fun h => h rfl, fun h _ => h⟩
  unfold openFile
  split_ifs <;> exact hrecord

private theorem record_exclusive {op : Op} (h : op ≠ .openFile) :
    (s.record op).Exclusive ↔ s.store.Exclusive := by
  rw [Store.Exclusive, forall_record]
  exact ⟨And.right, fun hs => ⟨fun hop => absurd hop h, hs⟩⟩

@[simp] theorem seek_exclusive : (s.seek n code).store.Exclusive ↔ s.store.Exclusive :=
  record_exclusive (by decide)

@[simp] theorem read_exclusive : (s.read n code).store.Exclusive ↔ s.store.Exclusive :=
  record_exclusive (by decide)

@[simp] theorem write_exclusive : (s.write bytes code).store.Exclusive ↔ s.store.Exclusive :=
  record_exclusive (by decide)

@[simp] theorem close_exclusive : (s.close code).store.Exclusive ↔ s.store.Exclusive :=
  record_exclusive (by decide)

@[simp] theorem leave_exclusive : s.leave.Exclusive ↔ s.store.Exclusive :=
  record_exclusive (by decide)

/-! ### The files -/

/-- Opening changes no file but the one it creates. -/
theorem openFile_files :
    (s.openFile p create code).store.files =
      if (openResult s.store.files p create code).isSome then s.store.files
      else Function.update s.store.files p (some ((s.store.files p).getD [])) := by
  unfold openFile
  split_ifs <;> rfl

/-- Without `create` an open changes no file. -/
@[simp] theorem openFile_files_of_existing :
    (s.openFile p false code).store.files = s.store.files := by
  rw [openFile_files]
  cases hcode : openResult s.store.files p false code with
  | some e => rfl
  | none =>
    cases hfile : s.store.files p with
    | none =>
      unfold openResult at hcode
      cases code <;> simp [hfile] at hcode
    | some content =>
      show Function.update s.store.files p (some content) = s.store.files
      rw [← hfile, Function.update_eq_self]

@[simp] theorem seek_files : (s.seek n code).store.files = s.store.files := rfl

@[simp] theorem read_files : (s.read n code).store.files = s.store.files := rfl

@[simp] theorem write_files : (s.write bytes code).store.files = s.store.files := rfl

@[simp] theorem leave_files : s.leave.files = s.store.files := rfl

theorem close_files : (s.close code).store.files = s.closedFiles code := rfl

/-- A created file is empty. -/
theorem openFile_create (h : s.store.files p = none) :
    (s.openFile p true none).store.files = Function.update s.store.files p (some []) ∧
      (s.openFile p true none).file = { status := .opened, path := some p } := by
  rw [openFile_files, openFile_of_none openResult_create, openResult_create, h]
  exact ⟨rfl, rfl⟩

/-- A handle nothing was written to leaves the files alone. -/
theorem close_files_of_unchanged (h : s.file.changed = false) :
    (s.close code).store.files = s.store.files := by
  rw [close_files, closedFiles, h]
  cases s.file.path <;> rfl

@[simp] theorem seek_path : (s.seek n code).file.path = s.file.path := by
  unfold seek
  split_ifs <;> rfl

@[simp] theorem seek_content : (s.seek n code).file.content = s.file.content := by
  unfold seek
  split_ifs <;> rfl

@[simp] theorem seek_changed : (s.seek n code).file.changed = s.file.changed := by
  unfold seek
  split_ifs <;> rfl

theorem seek_position_of_none : (s.seek n none).file.position = n := rfl

@[simp] theorem write_path : (s.write bytes code).file.path = s.file.path := by
  unfold write
  split_ifs <;> rfl

@[simp] theorem write_changed : (s.write bytes code).file.changed = code.isNone := by
  unfold write
  cases code <;> rfl

theorem write_content_of_none :
    (s.write bytes none).file.content = patch s.file.content s.file.position bytes := rfl

@[simp] theorem close_path : (s.close code).file.path = s.file.path := rfl

@[simp] theorem close_changed : (s.close code).file.changed = false := rfl

/-- A write and the close behind it: the file is replaced if both went well, and
else it is left as it was. -/
theorem write_close_files (h : s.file.path = some p) (code' : Option Error) :
    ((s.write bytes code).close code').store.files =
      if code.isNone && code'.isNone then
        Function.update s.store.files p (some (patch s.file.content s.file.position bytes))
      else s.store.files := by
  rw [close_files, closedFiles, write_path, h]
  cases code <;> cases code' <;> rfl

/-- Nothing reaches a file through the handle of a failed open. -/
theorem write_close_files_of_failed (h : s.file.path = none) (code' : Option Error) :
    ((s.write bytes code).close code').store.files = s.store.files := by
  rw [close_files, closedFiles, write_path, h]
  rfl

/-! ### Other files -/

@[simp] theorem read_path : (s.read n code).file.path = s.file.path := rfl

theorem openFile_path {q : P} (h : (s.openFile p create code).file.path = some q) : q = p := by
  rcases s.openFile_file p create code with hopened | hfailed
  · rw [hopened] at h
    exact (Option.some.inj h).symm
  · rw [hfailed] at h
    cases h

theorem openFile_files_of_ne {q : P} (h : q ≠ p) :
    (s.openFile p create code).store.files q = s.store.files q := by
  rw [openFile_files]
  split_ifs
  · rfl
  · rw [Function.update_of_ne h]

/-- A close only changes the file its handle is about. -/
theorem close_files_of_ne {q : P} (h : ∀ p, s.file.path = some p → q ≠ p) :
    (s.close code).store.files q = s.store.files q := by
  rw [close_files, closedFiles]
  cases hpath : s.file.path with
  | none => rfl
  | some p =>
    dsimp only
    split_ifs
    · rw [Function.update_of_ne (h p hpath)]
    · rfl

theorem write_close_files_of_ne {q : P} (h : ∀ p, s.file.path = some p → q ≠ p)
    (code' : Option Error) :
    ((s.write bytes code).close code').store.files q = s.store.files q := by
  rw [close_files_of_ne, write_files]
  intro p hp
  rw [write_path] at hp
  exact h p hp

/-! ### Windows of a patched file -/

private theorem patch_room (content : List UInt8) (position : ℕ) :
    position ≤ (content ++ List.replicate (position - content.length) 0).length := by
  rw [List.length_append, List.length_replicate]
  omega

/-- A write makes the file as long as it has to be. -/
theorem length_patch (content : List UInt8) (position : ℕ) (bytes : List UInt8) :
    (patch content position bytes).length = max content.length (position + bytes.length) := by
  simp only [patch, Bytes.overwrite, List.length_append, List.length_take, List.length_drop,
    List.length_replicate]
  omega

/-- A write behind the end is one behind zeros. -/
theorem patch_fill (content : List UInt8) (n : ℕ) (bytes : List UInt8) :
    patch (content ++ List.replicate n 0) (content.length + n) bytes =
      patch content (content.length + n) bytes := by
  rw [patch, patch, List.length_append, List.length_replicate, Nat.sub_self, Nat.add_sub_cancel_left,
    List.replicate_zero, List.append_nil]

/-- A write into a file of which `written` has been written and the rest has been there before. -/
theorem patch_append_drop (written old bytes : List UInt8) :
    patch (written ++ old.drop written.length) written.length bytes =
      written ++ bytes ++ old.drop (written ++ bytes).length := by
  have hroom : written.length - (written ++ old.drop written.length).length = 0 := by
    rw [List.length_append]
    omega
  rw [patch, hroom, List.replicate_zero, List.append_nil, Bytes.overwrite, List.take_left,
    List.drop_append, List.drop_eq_nil_of_le (Nat.le_add_right _ _), List.nil_append, List.drop_drop,
    List.length_append, Nat.add_sub_cancel_left]

theorem patch_nil (bytes : List UInt8) : patch [] 0 bytes = bytes := by
  simp [patch, Bytes.overwrite]

/-- What was written is read back. -/
theorem window_patch (content : List UInt8) (position : ℕ) (bytes : List UInt8) :
    ((patch content position bytes).drop position).take bytes.length = bytes := by
  have hroom := patch_room content position
  rw [List.take_drop, patch, Bytes.take_overwrite bytes hroom]
  exact List.drop_left' (List.length_take_of_le hroom)

/-- A window beside the write is unchanged, if it was in the file. -/
theorem window_patch_of_disjoint {content bytes : List UInt8} {position q n : ℕ}
    (hin : q + n ≤ content.length) (h : q + n ≤ position ∨ position + bytes.length ≤ q) :
    ((patch content position bytes).drop q).take n = (content.drop q).take n := by
  have hroom := patch_room content position
  have hpad : ((content ++ List.replicate (position - content.length) 0).drop q).take n =
      (content.drop q).take n := by
    rw [List.take_drop, List.take_append_of_le_length hin, ← List.take_drop]
  rw [← hpad]
  rcases h with hbelow | habove
  · rw [List.take_drop, patch, Bytes.take_overwrite_of_le hroom hbelow, ← List.take_drop]
  · have hdrop := congrArg (List.drop (q - (position + bytes.length)))
      (Bytes.drop_overwrite bytes hroom)
    rw [List.drop_drop, List.drop_drop, Nat.add_sub_cancel' habove] at hdrop
    rw [patch, hdrop]

end Session

end FileStore
