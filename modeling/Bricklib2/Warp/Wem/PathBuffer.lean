/-
Bricklib2/Warp/Wem/PathBuffer.lean

The path functions of sd.c on their character arrays.  The helpers write digits
without a terminator and return the place behind them, so a path is ended only by
the zeros its array is cleared with; the directories of a path are put together a
second time by `sd_make_path`, with the string functions of the library.

Main result: `dataFile_paths`.
-/
import Bricklib2.Protocols.Base58

namespace Bricklib2

open CString

/-- The bytes for a path. -/
def sdPathLength : ℕ := 32

/-! ### The code -/

/-- `sd_itoa` writes at `str` and returns the place behind the last digit. -/
def sdItoaAt (value : UInt8) (array : List Char) (str : ℕ) : Option (List Char × ℕ) :=
  let value := value.toNat
  if 100 ≤ value then do
    let array ← store array (str + 2) (decimalDigit value)
    let array ← store array (str + 1) (decimalDigit (value / 10))
    let array ← store array str (decimalDigit (value / 100))
    return (array, str + 3)
  else if 10 ≤ value then do
    let array ← store array (str + 1) (decimalDigit value)
    let array ← store array str (decimalDigit (value / 10))
    return (array, str + 2)
  else do
    let array ← store array str (decimalDigit value)
    return (array, str + 1)

/-- `*np++ = '/'` behind a number. -/
def sdItoaSlashAt (value : UInt8) (array : List Char) (str : ℕ) : Option (List Char × ℕ) := do
  let (array, np) ← sdItoaAt value array str
  let array ← store array np '/'
  return (array, np + 1)

/-- `sd_get_path_with_filename`: the array `p` it returns. -/
def sdGetPathWithFilenameAt (f : FileName) : Option (List Char) := do
  let p := List.replicate sdPathLength charNul
  let (p, np) ← sdItoaSlashAt f.year p 0
  let (p, np) ← sdItoaSlashAt f.month p np
  let (p, np) ←
    if f.day ≠ sdFileNoDayInPath then sdItoaSlashAt f.day p np else some (p, np)
  let (p, np) ← base58EncodeAt f.wallboxId p np
  strncat charNul p np f.filePostfix.chars 3

/-- `strcat(path, "/"); sd_itoa(value, &path[strlen(path)])` -/
def appendDirectory (value : UInt8) (path : List Char) : Option (List Char) := do
  let path ← strcat charNul path 0 ['/']
  let (path, _) ← sdItoaAt value path (strlen charNul path 0)
  return path

/-- `sd_make_path`: the directories it creates, in order. -/
def sdMakePath (year month day : UInt8) : Option (List Path) := do
  let (path, _) ← sdItoaAt year (List.replicate sdPathLength charNul) 0
  let yearPath := string charNul path
  let path ← appendDirectory month path
  let monthPath := string charNul path
  if day = sdFileNoDayInPath then
    return [yearPath, monthPath]
  else do
    let path ← appendDirectory day path
    return [yearPath, monthPath, string charNul path]

/-! ### What the helpers append -/

theorem charNul_notMem_sdItoa (value : UInt8) : charNul ∉ sdItoa value :=
  fun h => absurd (toNat_mem_sdItoa h).1 (by decide)

theorem length_sdItoa_le (value : UInt8) : (sdItoa value).length ≤ 3 := by
  unfold sdItoa
  dsimp only
  split_ifs <;> simp

section Append

variable {n : ℕ} {s : List Char} {value : UInt8}

/-- The digits are stored from the last to the first. -/
theorem sdItoaAt_padded (h : s.length + (sdItoa value).length ≤ n) :
    sdItoaAt value (padded charNul n s) s.length =
      some (padded charNul n (s ++ sdItoa value), (s ++ sdItoa value).length) := by
  have hlength : (padded charNul n s).length = n := length_padded (by omega)
  have hstore : storeAll (padded charNul n s) s.length (sdItoa value) = some _ := storeAll_padded h
  rw [List.length_append]
  unfold sdItoaAt
  unfold sdItoa at h hstore ⊢
  dsimp only at h hstore ⊢
  split_ifs at h hstore ⊢
  · refine (bind_storeAll_three (by rwa [hlength]) _).trans ?_
    rw [hstore]
    rfl
  · refine (bind_storeAll_two (by rwa [hlength]) _).trans ?_
    rw [hstore]
    rfl
  · rw [store_padded (by simpa using h)]
    rfl

theorem sdItoaSlashAt_padded (h : s.length + 4 ≤ n) :
    sdItoaSlashAt value (padded charNul n s) s.length =
      some (padded charNul n (s ++ sdItoa value ++ ['/']),
        (s ++ sdItoa value ++ ['/']).length) := by
  have hdigits := length_sdItoa_le value
  have hlength : (s ++ sdItoa value).length < n := by
    rw [List.length_append]
    omega
  rw [sdItoaSlashAt, sdItoaAt_padded (by omega)]
  show (store (padded charNul n (s ++ sdItoa value)) (s ++ sdItoa value).length '/').bind _ = _
  rw [store_padded hlength, @List.length_append _ (s ++ sdItoa value)]
  rfl

theorem base58EncodeAt_padded {id : UInt32} (h : s.length + 6 ≤ n) :
    base58EncodeAt id (padded charNul n s) s.length =
      some (padded charNul n (s ++ base58Encode id), (s ++ base58Encode id).length) := by
  have hdigits := length_base58Encode_le id
  rw [base58EncodeAt_eq, overwrite_padded, List.length_append]
  rw [length_padded (by omega)]
  omega

theorem appendDirectory_padded (hs : charNul ∉ s) (h : s.length + 5 ≤ n) :
    appendDirectory value (padded charNul n s) =
      some (padded charNul n (s ++ '/' :: sdItoa value)) := by
  have hdigits := length_sdItoa_le value
  have hslash : charNul ∉ s ++ ['/'] := by
    rw [List.mem_append, not_or]
    exact ⟨hs, by decide⟩
  have hlength : (s ++ ['/']).length = s.length + 1 := List.length_append
  rw [appendDirectory, strcat_padded hs (by rw [List.length_singleton]; omega)]
  show (sdItoaAt value (padded charNul n (s ++ ['/'])) _).bind _ = _
  rw [strlen_padded hslash, sdItoaAt_padded (by omega), List.append_assoc]
  rfl

end Append

/-! ### The paths -/

/-- The directories of a path, in the order they are created in. -/
def pathDirectories (year month day : UInt8) : List Path :=
  let monthPath := sdItoa year ++ '/' :: sdItoa month
  [sdItoa year, monthPath] ++
    if day = sdFileNoDayInPath then [] else [monthPath ++ '/' :: sdItoa day]

theorem sdMakePath_eq (year month day : UInt8) :
    sdMakePath year month day = some (pathDirectories year month day) := by
  have hyear := length_sdItoa_le year
  have hmonth := length_sdItoa_le month
  have hnul := charNul_notMem_sdItoa year
  have hnul' : charNul ∉ sdItoa year ++ '/' :: sdItoa month := by
    rw [List.mem_append, List.mem_cons, not_or, not_or]
    exact ⟨hnul, by decide, charNul_notMem_sdItoa month⟩
  have hfirst : sdItoaAt year (List.replicate sdPathLength charNul) 0 =
      some (padded charNul sdPathLength (sdItoa year), (sdItoa year).length) := by
    have hfit : ([] : List Char).length + (sdItoa year).length ≤ sdPathLength :=
      le_trans (by simpa using hyear) (by decide : 3 ≤ sdPathLength)
    exact sdItoaAt_padded hfit
  have hsize : sdPathLength = 32 := rfl
  have hlength : (sdItoa year ++ '/' :: sdItoa month).length ≤ 7 := by
    rw [List.length_append, List.length_cons]
    omega
  rw [sdMakePath, hfirst]
  show (appendDirectory month (padded charNul sdPathLength (sdItoa year))).bind _ = _
  rw [appendDirectory_padded hnul (by omega), Option.bind_some, string_padded hnul,
    string_padded hnul', pathDirectories]
  split_ifs with hday
  · rfl
  · have hnul'' : charNul ∉ (sdItoa year ++ '/' :: sdItoa month) ++ '/' :: sdItoa day := by
      rw [List.mem_append, List.mem_cons, not_or, not_or]
      exact ⟨hnul', by decide, charNul_notMem_sdItoa day⟩
    rw [appendDirectory_padded hnul' (by omega)]
    show some [sdItoa year, _, string charNul (padded charNul sdPathLength _)] = _
    rw [string_padded hnul'']
    rfl

theorem sdGetPathWithFilenameAt_eq (f : FileName) :
    sdGetPathWithFilenameAt f = some (padded charNul sdPathLength (sdGetPathWithFilename f)) := by
  have hsize : sdPathLength = 32 := rfl
  have hyear := length_sdItoa_le f.year
  have hmonth := length_sdItoa_le f.month
  have hid := length_base58Encode_le f.wallboxId
  have hpostfix : f.filePostfix.chars.length = 3 := by cases f.filePostfix <;> rfl
  -- behind the month, and behind the day
  have hend (s : List Char) (hs : s.length ≤ 12) :
      (base58EncodeAt f.wallboxId (padded charNul sdPathLength s) s.length).bind
          (fun r => strncat charNul r.1 r.2 f.filePostfix.chars 3) =
        some (padded charNul sdPathLength (s ++ base58Encode f.wallboxId ++ f.filePostfix.chars)) := by
    rw [base58EncodeAt_padded (by omega), Option.bind_some, strncat_padded _ _ hpostfix.le]
    rw [List.length_append, hpostfix]
    omega
  have hfirst : sdItoaSlashAt f.year (List.replicate sdPathLength charNul) 0 =
      some (padded charNul sdPathLength (sdItoa f.year ++ ['/']), (sdItoa f.year ++ ['/']).length) := by
    have hfit : ([] : List Char).length + 4 ≤ sdPathLength := by decide
    exact sdItoaSlashAt_padded hfit
  have hyear' : (sdItoa f.year ++ ['/']).length ≤ 4 := by
    rw [List.length_append, List.length_singleton]
    omega
  have hmonth' : (sdItoa f.year ++ ['/'] ++ sdItoa f.month ++ ['/']).length ≤ 8 := by
    rw [List.length_append, List.length_append, List.length_singleton]
    omega
  rw [sdGetPathWithFilenameAt, hfirst]
  show (sdItoaSlashAt f.month (padded charNul sdPathLength (sdItoa f.year ++ ['/']))
    (sdItoa f.year ++ ['/']).length).bind _ = _
  rw [sdItoaSlashAt_padded (by omega), sdGetPathWithFilename, Option.bind_some]
  dsimp only
  split_ifs with hday
  · have hday' := length_sdItoa_le f.day
    rw [sdItoaSlashAt_padded (by omega)]
    refine (hend _ ?_).trans (by simp)
    rw [List.length_append, List.length_append, List.length_singleton]
    omega
  · exact (hend _ (by omega)).trans (by simp)

/-- No terminator stands inside of a path. -/
theorem charNul_notMem_path (f : FileName) : charNul ∉ sdGetPathWithFilename f := by
  have hid : charNul ∉ base58Encode f.wallboxId := fun h =>
    absurd (mem_base58Alphabet h) (by decide +kernel)
  have hpostfix : charNul ∉ f.filePostfix.chars := by cases f.filePostfix <;> decide
  have hslash : charNul ≠ '/' := by decide
  simp [sdGetPathWithFilename, charNul_notMem_sdItoa, hslash, hid, hpostfix]

theorem length_path_lt (f : FileName) : (sdGetPathWithFilename f).length < sdPathLength := by
  have hyear := length_sdItoa_le f.year
  have hmonth := length_sdItoa_le f.month
  have hday := length_sdItoa_le f.day
  have hid := length_base58Encode_le f.wallboxId
  have hpostfix : f.filePostfix.chars.length = 3 := by cases f.filePostfix <;> rfl
  have hsize : sdPathLength = 32 := rfl
  unfold sdGetPathWithFilename
  split_ifs <;> simp only [List.length_append, List.length_cons, List.length_nil] <;> omega

/-- What stands in front of the last slash of a path is the last of its directories. -/
theorem path_eq_directory (f : FileName) :
    ∃ directory, (pathDirectories f.year f.month f.day).getLast? = some directory ∧
      sdGetPathWithFilename f =
        directory ++ '/' :: (base58Encode f.wallboxId ++ f.filePostfix.chars) := by
  unfold pathDirectories sdGetPathWithFilename
  by_cases hday : f.day = sdFileNoDayInPath
  · exact ⟨sdItoa f.year ++ '/' :: sdItoa f.month, by simp [hday], by simp [hday]⟩
  · exact ⟨sdItoa f.year ++ '/' :: sdItoa f.month ++ '/' :: sdItoa f.day, by simp [hday],
      by simp [hday]⟩

/-- **The paths of the data files.**  A path is a string within its array, in front of
whose last slash stands the last directory that is created for it; and different files
have different paths. -/
theorem dataFile_paths :
    (∀ f : FileName, ∃ p directories directory filename,
      sdGetPathWithFilenameAt f = some p ∧ p.length = sdPathLength ∧
      (string charNul p).length < sdPathLength ∧
      sdMakePath f.year f.month f.day = some directories ∧
      directories.getLast? = some directory ∧ '/' ∉ filename ∧
      string charNul p = directory ++ '/' :: filename) ∧
    Function.Injective fun f => (sdGetPathWithFilenameAt f).map (string charNul) := by
  have hpath (f : FileName) : string charNul (padded charNul sdPathLength
      (sdGetPathWithFilename f)) = sdGetPathWithFilename f := string_padded (charNul_notMem_path f)
  constructor
  · intro f
    obtain ⟨directory, hlast, hdirectory⟩ := path_eq_directory f
    refine ⟨_, _, directory, base58Encode f.wallboxId ++ f.filePostfix.chars,
      sdGetPathWithFilenameAt_eq f, length_padded (length_path_lt f).le, ?_,
      sdMakePath_eq _ _ _, hlast, slash_notMem_filename f, ?_⟩
    · rw [hpath]
      exact length_path_lt f
    · rw [hpath, hdirectory]
  · intro f g h
    simp only [sdGetPathWithFilenameAt_eq, Option.map_some, hpath] at h
    exact sdGetPathWithFilename_injective (Option.some.inj h)

end Bricklib2
