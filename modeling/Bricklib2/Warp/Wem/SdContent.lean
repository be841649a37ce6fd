/-
Bricklib2/Warp/Wem/SdContent.lean

What a read hands out.  Where the module remembers nothing wrong about a file
(`Faithful`), a read that succeeds returns the bytes that are on the card, or the
bytes for a missing file if there is none.

Main results: `sdRead_of_file`, `sdRead_slotOf`.
-/
import Bricklib2.Warp.Wem.NoExistCache

namespace Bricklib2

open FileStore

variable {b : Build} {k : DataKind} {f g : FileName} {code : LfsCode} {sd : SdFiles}
  {content data : List UInt8}

/-! ### What is remembered about a file -/

/-- The cache, the remembered error and the buffered file fit what is on the card. -/
structure SdFiles.Faithful (sd : SdFiles) (f : FileName) : Prop where
  cached : sdGetFileNoExist f sd = true → sd.lfs.files (sdGetPathWithFilename f) = none
  remembered : sd.bufferedReadIsOpen = false → Error.isMissing sd.bufferedReadCurrentErr = true →
    sd.bufferedReadCurrent = f → sd.lfs.files (sdGetPathWithFilename f) = none
  buffered : sd.bufferedReadIsOpen = true → sd.bufferedReadCurrent = f →
    sd.lfs.files (sdGetPathWithFilename f) = some sd.bufferedReadFile.content

namespace SdFiles

/-- The buffered file has the content it has on the card. -/
def BufferFresh (sd : SdFiles) : Prop :=
  sd.bufferedReadIsOpen = true →
    sd.lfs.files (sdGetPathWithFilename sd.bufferedReadCurrent) = some sd.bufferedReadFile.content

/-- A file that is opened is read as it is on the card. -/
theorem bufferFresh_openRead (f : FileName) (code : LfsCode) (sd : SdFiles) :
    (sd.openRead f code).BufferFresh := by
  intro hopen
  have hfiles : (sd.openRead f code).lfs.files = sd.lfs.files :=
    Session.openFile_files_of_existing (s := sd.bufferedRead)
  have hresult : Session.openResult sd.lfs.files (sdGetPathWithFilename f) false code = none :=
    Option.isNone_iff_eq_none.mp hopen
  have hhandle : (sd.openRead f code).bufferedReadFile = _ :=
    Session.openFile_of_none (s := sd.bufferedRead) hresult
  obtain ⟨content, hcontent⟩ := Session.exists_of_openResult hresult
  rw [hfiles, hhandle]
  show sd.lfs.files (sdGetPathWithFilename f) = some ((sd.lfs.files _).getD [])
  rw [hcontent]
  rfl

/-- The open of another file, up to the cache. -/
theorem openBufferedRead_eq (f : FileName) (code : LfsCode) (sd : SdFiles) :
    (openBufferedRead f code sd).2 =
        Session.openResult sd.lfs.files (sdGetPathWithFilename f) false code ∧
      ∃ cache index, (openBufferedRead f code sd).1 =
        { sd.openRead f code with fileNoExistCache := cache, fileNoExistIndex := index } := by
  unfold openBufferedRead
  dsimp only
  split_ifs
  · exact ⟨rfl, _, _, rfl⟩
  · exact ⟨rfl, _, _, rfl⟩

theorem bufferFresh_openBufferedRead (f : FileName) (code : LfsCode) (sd : SdFiles) :
    (openBufferedRead f code sd).1.BufferFresh := by
  obtain ⟨-, cache, index, heq⟩ := openBufferedRead_eq f code sd
  rw [heq]
  exact bufferFresh_openRead f code sd

theorem BufferFresh.sdLfsOpenBufferedRead (h : sd.BufferFresh) (f : FileName)
    (codes : OpenReadCodes) : (sdLfsOpenBufferedRead f codes sd).1.BufferFresh := by
  unfold Bricklib2.sdLfsOpenBufferedRead
  split_ifs
  · exact h
  · exact h
  · exact bufferFresh_openBufferedRead _ _ _
  · exact h
  · exact bufferFresh_openBufferedRead _ _ _

/-- Where the cache and the buffered file are in order, only the error of the last open can be
wrong. -/
theorem CacheCoherent.faithful (h : sd.CacheCoherent) (hfresh : sd.BufferFresh) (hday : f.Dated)
    (hremembered : sd.bufferedReadIsOpen = false →
      Error.isMissing sd.bufferedReadCurrentErr = true → sd.bufferedReadCurrent = f →
      sd.lfs.files (sdGetPathWithFilename f) = none) : sd.Faithful f where
  cached := h f hday
  remembered := hremembered
  buffered hopen hcurrent := by
    rw [← hcurrent]
    exact hfresh hopen

/-- What an open that is answered reports and leaves behind: nothing wrong is
remembered about the file, so the answer is that of the card. -/
theorem Faithful.open {codes : OpenReadCodes} (h : sd.Consistent) (hf : sd.Faithful f)
    (hcode : Error.isMissing codes.openFile = true →
      sd.lfs.files (sdGetPathWithFilename f) = none) :
    (Error.isMissing (sdLfsOpenBufferedRead f codes sd).2 = true →
        sd.lfs.files (sdGetPathWithFilename f) = none) ∧
      ((sdLfsOpenBufferedRead f codes sd).2 = none →
        sd.lfs.files (sdGetPathWithFilename f) =
          some (sdLfsOpenBufferedRead f codes sd).1.bufferedReadFile.content) := by
  have hopened (sd' : SdFiles) (hfiles : sd'.lfs.files = sd.lfs.files) :
      (Error.isMissing (openBufferedRead f codes.openFile sd').2 = true →
          sd.lfs.files (sdGetPathWithFilename f) = none) ∧
        ((openBufferedRead f codes.openFile sd').2 = none →
          sd.lfs.files (sdGetPathWithFilename f) =
            some (openBufferedRead f codes.openFile sd').1.bufferedReadFile.content) := by
    obtain ⟨herr, cache, index, heq⟩ := openBufferedRead_eq f codes.openFile sd'
    rw [herr, heq, ← hfiles]
    rw [← hfiles] at hcode
    refine ⟨Session.missing_of_openResult hcode, fun hnone => ?_⟩
    have hfresh := bufferFresh_openRead f codes.openFile sd' (by
      show Option.isNone _ = true
      rw [hnone]
      rfl)
    have hfiles' : (sd'.openRead f codes.openFile).lfs.files = sd'.lfs.files :=
      Session.openFile_files_of_existing (s := sd'.bufferedRead)
    rw [hfiles'] at hfresh
    exact hfresh
  have hclosed : (sdLfsCloseBufferedRead codes.close sd).lfs.files = sd.lfs.files :=
    files_sdLfsCloseBufferedRead h
  unfold Bricklib2.sdLfsOpenBufferedRead
  split_ifs with hcached hopen hcurrent hremembered
  · exact ⟨fun _ => hf.cached hcached, fun hnone => by cases hnone⟩
  · have herr := h.noError hopen
    refine ⟨fun hmissing => ?_, fun _ => hf.buffered hopen hcurrent⟩
    change Error.isMissing sd.bufferedReadCurrentErr = true at hmissing
    rw [herr] at hmissing
    cases hmissing
  · exact hopened _ hclosed
  · obtain ⟨hmissing, hcurrent⟩ : _ ∧ _ := by simpa using hremembered
    have hnone := hf.remembered (by simpa using hopen) hmissing hcurrent
    refine ⟨fun _ => hnone, fun herr => ?_⟩
    change sd.bufferedReadCurrentErr = none at herr
    rw [herr] at hmissing
    cases hmissing
  · exact hopened _ rfl

/-- An open that is carried out succeeds exactly on a file that is there. -/
theorem Faithful.open_iff {codes : OpenReadCodes} (h : sd.Consistent) (hf : sd.Faithful f)
    (hcode : codes.openFile = none) :
    ((sdLfsOpenBufferedRead f codes sd).2 = none ↔
        (sd.lfs.files (sdGetPathWithFilename f)).isSome = true) ∧
      (Error.isMissing (sdLfsOpenBufferedRead f codes sd).2 = true ↔
        sd.lfs.files (sdGetPathWithFilename f) = none) := by
  have hopened (sd' : SdFiles) (hfiles : sd'.lfs.files = sd.lfs.files) :
      ((openBufferedRead f codes.openFile sd').2 = none ↔
          (sd.lfs.files (sdGetPathWithFilename f)).isSome = true) ∧
        (Error.isMissing (openBufferedRead f codes.openFile sd').2 = true ↔
          sd.lfs.files (sdGetPathWithFilename f) = none) := by
    rw [(openBufferedRead_eq f codes.openFile sd').1, hfiles, hcode]
    cases hfile : sd.lfs.files (sdGetPathWithFilename f) <;>
      simp [Session.openResult, hfile, Error.isMissing]
  have hclosed : (sdLfsCloseBufferedRead codes.close sd).lfs.files = sd.lfs.files :=
    files_sdLfsCloseBufferedRead h
  unfold Bricklib2.sdLfsOpenBufferedRead
  split_ifs with hcached hopen hcurrent hremembered
  · simp [hf.cached hcached, Error.isMissing]
  · simp [hf.buffered hopen hcurrent, h.noError hopen, Error.isMissing]
  · exact hopened _ hclosed
  · obtain ⟨hmissing, hcurrent⟩ : _ ∧ _ := by simpa using hremembered
    have hnone := hf.remembered (by simpa using hopen) hmissing hcurrent
    have herr : sd.bufferedReadCurrentErr ≠ none := by
      intro herr
      rw [herr] at hmissing
      cases hmissing
    simp [hnone, hmissing, herr]
  · exact hopened _ rfl

/-- The open of one file changes nothing about another. -/
theorem Faithful.sdLfsOpenBufferedRead {codes : OpenReadCodes} (h : sd.Consistent)
    (hg : sd.Faithful g) (hne : f ≠ g) : (sdLfsOpenBufferedRead f codes sd).1.Faithful g := by
  have hopened (sd' : SdFiles) (hfiles : sd'.lfs.files = sd.lfs.files)
      (hcache : sd'.fileNoExistCache = sd.fileNoExistCache) :
      (openBufferedRead f codes.openFile sd').1.Faithful g := by
    have hfiles' : (sd'.openRead f codes.openFile).lfs.files = sd.lfs.files :=
      (Session.openFile_files_of_existing (s := sd'.bufferedRead)).trans hfiles
    have hcached : sdGetFileNoExist g (sd'.openRead f codes.openFile) = true →
        sd.lfs.files (sdGetPathWithFilename g) = none := by
      intro hcached
      apply hg.cached
      rw [sdGetFileNoExist_iff] at hcached ⊢
      rwa [← hcache]
    have hcurrent : (openBufferedRead f codes.openFile sd').1.bufferedReadCurrent ≠ g := by
      obtain ⟨-, cache, index, heq⟩ := openBufferedRead_eq f codes.openFile sd'
      rw [heq]
      exact hne
    refine ⟨?_, fun _ _ heq => absurd heq hcurrent, fun _ heq => absurd heq hcurrent⟩
    unfold openBufferedRead
    dsimp only
    split_ifs
    · intro hset
      show (sd'.openRead f codes.openFile).lfs.files _ = none
      rw [hfiles']
      exact hcached ((noExist_of_set hset).resolve_left hne.symm)
    · rw [hfiles']
      exact hcached
  unfold Bricklib2.sdLfsOpenBufferedRead
  split_ifs
  · exact hg
  · exact hg
  · exact hopened _ (files_sdLfsCloseBufferedRead h) rfl
  · exact hg
  · exact hopened _ rfl rfl

end SdFiles

/-! ### What is handed out -/

/-- The bytes of the buffered file from `pos` on, all of them. -/
theorem readEntries_data {returns : Bool} {pos n : ℕ} {codes : ReadCodes}
    (hseek : returns = false → codes.seek = none)
    (hok : (readEntries returns pos n codes data sd).ok = true) :
    (readEntries returns pos n codes data sd).data.take n =
        (sd.bufferedReadFile.content.drop pos).take n ∧
      ((sd.bufferedReadFile.content.drop pos).take n).length = n := by
  unfold readEntries at hok ⊢
  dsimp only at hok ⊢
  cases hs : codes.seek with
  | some e =>
    cases returns with
    | false => exact absurd (hseek rfl) (by rw [hs]; nofun)
    | true => simp [hs] at hok
  | none =>
    rw [hs] at hok
    have hbytes : (sd.setBufferedRead (sd.bufferedRead.seek pos none)).bufferedRead.readBytes n
        codes.read = if codes.read.isSome then none
          else some ((sd.bufferedReadFile.content.drop pos).take n) := rfl
    simp only [Option.isSome_none, Bool.false_and, Bool.false_eq_true, if_false, hbytes] at hok ⊢
    cases hread : codes.read with
    | some e => simp [hread] at hok
    | none =>
      simp only [hread, Option.isSome_none, Bool.false_eq_true, if_false, Option.map_some,
        Option.some.injEq] at hok ⊢
      split_ifs at hok ⊢ with hlength
      · refine ⟨?_, hlength⟩
        have htake := Bytes.take_overwrite ((sd.bufferedReadFile.content.drop pos).take n)
          (Nat.zero_le data.length)
        rw [Nat.zero_add, hlength, List.take_zero, List.nil_append] at htake
        exact htake

section Read

variable {codes old : ReadCodes} {r : GetRequest} {amount offset : ℕ}

theorem readDataPoints_of_file {returns : Bool} {pos n : ℕ}
    {missing : List UInt8 → SdFiles → ReadResult} (h : sd.Consistent) (hf : sd.Faithful f)
    (hfile : sd.lfs.files (sdGetPathWithFilename f) = some content)
    (hcode : Error.isMissing codes.opening.openFile = true →
      sd.lfs.files (sdGetPathWithFilename f) = none)
    (hseek : returns = false → codes.seek = none)
    (hok : (readDataPoints f returns pos n missing codes data sd).ok = true) :
    (readDataPoints f returns pos n missing codes data sd).data.take n =
        (content.drop pos).take n ∧ ((content.drop pos).take n).length = n := by
  obtain ⟨hmissing, hopened⟩ := SdFiles.Faithful.open h hf hcode
  unfold readDataPoints at hok ⊢
  dsimp only at hok ⊢
  split_ifs at hok ⊢ with hm herr
  · exact absurd (hfile.symm.trans (hmissing hm)) nofun
  · have hcontent := hopened (Option.not_isSome_iff_eq_none.mp herr)
    rw [hfile] at hcontent
    rw [Option.some.inj hcontent]
    exact readEntries_data hseek hok

/-- **A read of a file** that succeeds returns the bytes of its entries. -/
theorem sdRead_of_file (h : sd.Consistent) (hf : sd.Faithful (r.fileName k))
    (hfile : sd.lfs.files (sdGetPathWithFilename (r.fileName k)) = some content)
    (hcode : Error.isMissing codes.opening.openFile = true →
      sd.lfs.files (sdGetPathWithFilename (r.fileName k)) = none)
    (hseek : k.daily = true → codes.seek = none)
    (hok : (sdRead b k r amount offset codes old data sd).ok = true) :
    (sdRead b k r amount offset codes old data sd).data.take (amount * entrySize b k) =
        (content.drop (k.position (entrySize b k) r.day r.hour r.minute offset)).take
          (amount * entrySize b k) ∧
      ((content.drop (k.position (entrySize b k) r.day r.hour r.minute offset)).take
        (amount * entrySize b k)).length = amount * entrySize b k := by
  cases k with
  | wallbox => exact readDataPoints_of_file h hf hfile hcode nofun hok
  | wallboxDaily => exact readDataPoints_of_file h hf hfile hcode (fun _ => hseek rfl) hok
  | energyManager => exact readDataPoints_of_file h hf hfile hcode nofun hok
  | energyManagerDaily => exact readDataPoints_of_file h hf hfile hcode (fun _ => hseek rfl) hok

/-- **The entries of a read** are those of its slots. -/
theorem sdRead_slotOf {i : ℕ} (h : sd.Consistent) (hf : sd.Faithful (r.fileName k))
    (hfile : sd.lfs.files (sdGetPathWithFilename (r.fileName k)) = some content)
    (hcode : Error.isMissing codes.opening.openFile = true →
      sd.lfs.files (sdGetPathWithFilename (r.fileName k)) = none)
    (hseek : k.daily = true → codes.seek = none)
    (hok : (sdRead b k r amount offset codes old data sd).ok = true)
    (hday : 1 ≤ r.day.toNat) (hi : i < amount)
    (hlt : k.slot r.day r.hour r.minute + offset + i < k.slots) :
    ((sdRead b k r amount offset codes old data sd).data.drop (i * entrySize b k)).take
        (entrySize b k) =
      slotOf b k content (k.slot r.day r.hour r.minute + offset + i) := by
  obtain ⟨hdata, -⟩ := sdRead_of_file h hf hfile hcode hseek hok
  rw [DataKind.position_eq hday (by omega)] at hdata
  have hfit : i * entrySize b k + entrySize b k ≤ amount * entrySize b k := by
    rw [← Nat.succ_mul]
    exact Nat.mul_le_mul_right _ hi
  have hposition : slotPosition b k (k.slot r.day r.hour r.minute + offset) + i * entrySize b k =
      slotPosition b k (k.slot r.day r.hour r.minute + offset + i) := by
    rw [slotPosition, slotPosition, Nat.add_mul _ i, Nat.add_assoc]
  rw [← Bytes.window_take hfit, hdata, Bytes.window_take hfit, List.drop_drop, hposition]
  rfl

/-- A read of a missing file goes on behind the open. -/
theorem readDataPoints_of_missing {returns : Bool} {pos n : ℕ}
    {missing : List UInt8 → SdFiles → ReadResult} (h : sd.Consistent) (hf : sd.Faithful f)
    (hfile : sd.lfs.files (sdGetPathWithFilename f) = none)
    (hok : (readDataPoints f returns pos n missing codes data sd).ok = true) :
    readDataPoints f returns pos n missing codes data sd =
      missing data (sdLfsOpenBufferedRead f codes.opening sd).1 := by
  have hopened : (sdLfsOpenBufferedRead f codes.opening sd).2 = none → _ :=
    (SdFiles.Faithful.open h hf fun _ => hfile).2
  unfold readDataPoints at hok ⊢
  dsimp only at hok ⊢
  split_ifs at hok ⊢ with hm herr
  · rfl
  · have hcontent := hopened (Option.not_isSome_iff_eq_none.mp herr)
    rw [hfile] at hcontent
    cases hcontent

end Read

end Bricklib2
