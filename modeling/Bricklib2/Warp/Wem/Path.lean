/-
Bricklib2/Warp/Wem/Path.lean

The names of the data files on the SD card (sd.c): year, month and possibly day
as directories, the wallbox id in base 58, and a postfix.  A path is the list of
its characters up to the terminating zero.

Main result: `sdGetPathWithFilename_injective` — two different names never
share a path, so the files of the card may be indexed by either.
-/
import Bricklib2.Library.Radix

namespace Bricklib2

/-! ### Numbers -/

/-- `BASE58_ALPHABET` -/
def base58Alphabet : List Char :=
  "123456789abcdefghijkmnopqrstuvwxyzABCDEFGHJKLMNPQRSTUVWXYZ".toList

/-- Room for six digits and the end of the string. -/
def base58MaxStrSize : ℕ := 7

/-- The digits as the division loop stores them in `reverse_str`. -/
def base58ReverseChars : (rounds : ℕ) → ℕ → List Char
  | 0, _ => []
  | rounds + 1, value =>
    if 58 ≤ value then
      base58Alphabet.getD (value % 58) '1' :: base58ReverseChars rounds (value / 58)
    else
      [base58Alphabet.getD value '1']

/-- The digits from the first to the last. -/
def base58Encode (value : UInt32) : List Char :=
  (base58ReverseChars base58MaxStrSize value.toNat).reverse

/-- The last decimal digit. -/
def decimalDigit (value : ℕ) : Char := Char.ofNat ('0'.toNat + value % 10)

/-- The decimal digits of a byte. -/
def sdItoa (value : UInt8) : List Char :=
  let value := value.toNat
  if 100 ≤ value then
    [decimalDigit (value / 100), decimalDigit (value / 10), decimalDigit value]
  else if 10 ≤ value then
    [decimalDigit (value / 10), decimalDigit value]
  else
    [decimalDigit value]

/-! ### Names and paths -/

/-- Index into `SD_POSTFIXES`. -/
inductive Postfix
  | wb
  | em
  | emWPrices
  deriving DecidableEq, Repr

/-- The postfix as it ends a path. -/
def Postfix.chars : Postfix → List Char
  | .wb => ".wb".toList
  | .em => ".em".toList
  | .emWPrices => ".e2".toList

/-- The postfix as it stands in the cache of missing files. -/
def Postfix.index : Postfix → ℕ
  | .wb => 0
  | .em => 1
  | .emWPrices => 2

/-- The day of a file that has no day in its path. -/
def sdFileNoDayInPath : UInt8 := 0xFF

/-- What a data file is called by in the module. -/
structure FileName where
  wallboxId : UInt32
  year : UInt8
  month : UInt8
  day : UInt8
  filePostfix : Postfix
  deriving DecidableEq, Repr

/-- A path as its characters. -/
abbrev Path := List Char

/-- The path of a file: year, month and, for the data of a day, the day, then the name. -/
def sdGetPathWithFilename (f : FileName) : Path :=
  sdItoa f.year ++ '/' :: (sdItoa f.month ++ '/' ::
    ((if f.day ≠ sdFileNoDayInPath then sdItoa f.day ++ ['/'] else []) ++
      (base58Encode f.wallboxId ++ f.filePostfix.chars)))

/-! ### Reading a path back -/

/-- The part before the first separator and the part behind it are determined. -/
theorem eq_of_append_cons_eq {α : Type*} {c : α} {xs ys us vs : List α} (hx : c ∉ xs)
    (hy : c ∉ ys) (h : xs ++ c :: us = ys ++ c :: vs) : xs = ys ∧ us = vs := by
  induction xs generalizing ys with
  | nil =>
    cases ys with
    | nil => exact ⟨rfl, (List.cons.inj h).2⟩
    | cons y ys =>
      obtain ⟨rfl, -⟩ := List.cons.inj h
      exact absurd List.mem_cons_self hy
  | cons x xs ih =>
    cases ys with
    | nil =>
      obtain ⟨rfl, -⟩ := List.cons.inj h
      exact absurd List.mem_cons_self hx
    | cons y ys =>
      obtain ⟨rfl, htail⟩ := List.cons.inj h
      obtain ⟨rfl, hrest⟩ := ih (fun hc => hx (List.mem_cons_of_mem _ hc))
        (fun hc => hy (List.mem_cons_of_mem _ hc)) htail
      exact ⟨rfl, hrest⟩

/-- The number that a list of decimal digits stands for. -/
private def decimalValue (digits : List Char) : ℕ :=
  digits.foldl (fun value digit => 10 * value + (digit.toNat - '0'.toNat)) 0

theorem toNat_decimalDigit (value : ℕ) :
    (decimalDigit value).toNat = '0'.toNat + value % 10 := by
  unfold decimalDigit
  have h : value % 10 < 10 := Nat.mod_lt _ (by decide)
  generalize value % 10 = digit at h ⊢
  revert digit
  decide

theorem eq_decimalDigit_of_mem_sdItoa {value : UInt8} {c : Char} (h : c ∈ sdItoa value) :
    ∃ n, c = decimalDigit n := by
  unfold sdItoa at h
  dsimp only at h
  split_ifs at h <;> simp only [List.mem_cons, List.not_mem_nil, or_false] at h
  · rcases h with h | h | h <;> exact ⟨_, h⟩
  · rcases h with h | h <;> exact ⟨_, h⟩
  · exact ⟨_, h⟩

/-- The digits lie behind the slash, and before the letters, in ASCII. -/
theorem toNat_mem_sdItoa {value : UInt8} {c : Char} (h : c ∈ sdItoa value) :
    '0'.toNat ≤ c.toNat ∧ c.toNat ≤ '9'.toNat := by
  obtain ⟨n, rfl⟩ := eq_decimalDigit_of_mem_sdItoa h
  have hdigit : n % 10 < 10 := Nat.mod_lt _ (by decide)
  have hnine : '9'.toNat = '0'.toNat + 9 := rfl
  rw [toNat_decimalDigit, hnine]
  omega

theorem slash_notMem_sdItoa (value : UInt8) : '/' ∉ sdItoa value :=
  fun h => absurd (toNat_mem_sdItoa h).1 (by decide)

theorem decimalValue_sdItoa (value : UInt8) : decimalValue (sdItoa value) = value.toNat := by
  have hvalue := value.toNat_lt
  unfold sdItoa
  dsimp only
  split_ifs <;> simp [decimalValue, toNat_decimalDigit] <;> omega

theorem sdItoa_injective : Function.Injective sdItoa := by
  intro v w h
  apply UInt8.toNat.inj
  rw [← decimalValue_sdItoa v, ← decimalValue_sdItoa w, h]

/-- The character for a digit. -/
def base58Symbol (d : ℕ) : Char := base58Alphabet.getD d '1'

theorem base58ReverseChars_eq (rounds value : ℕ) :
    base58ReverseChars rounds value = Radix.written 58 base58Symbol rounds value := by
  induction rounds generalizing value with
  | zero => rfl
  | succ rounds ih =>
    rw [base58ReverseChars, Radix.written, ih]
    rfl

/-- The digit a character stands for. -/
def base58Index (c : Char) : ℕ := base58Alphabet.idxOf c

theorem base58Index_base58Symbol : ∀ d < 58, base58Index (base58Symbol d) = d := by
  decide +kernel

theorem base58Symbol_mem : ∀ d < 58, base58Symbol d ∈ base58Alphabet := by
  decide +kernel

private theorem base58Symbol_ne : ∀ d < 58, base58Symbol d ≠ '/' ∧ base58Symbol d ≠ '.' := by
  decide +kernel

/-- The buffer for the digits has room for all of them. -/
theorem lt_base58MaxStrSize (value : UInt32) : value.toNat < 58 ^ base58MaxStrSize :=
  lt_of_lt_of_le value.toNat_lt (by decide)

theorem base58Encode_eq (value : UInt32) :
    base58Encode value = (Radix.written 58 base58Symbol base58MaxStrSize value.toNat).reverse := by
  rw [base58Encode, base58ReverseChars_eq]

theorem base58Encode_injective : Function.Injective base58Encode := by
  intro v w h
  rw [base58Encode_eq, base58Encode_eq] at h
  exact UInt32.toNat.inj (Radix.written_injective (by decide) base58Index_base58Symbol
    (lt_base58MaxStrSize v) (lt_base58MaxStrSize w) (List.reverse_inj.mp h))

/-- No digit is a separator of the path. -/
theorem mem_base58Encode {value : UInt32} {c : Char} (h : c ∈ base58Encode value) :
    c ≠ '/' ∧ c ≠ '.' := by
  rw [base58Encode_eq, List.mem_reverse] at h
  obtain ⟨d, hd, rfl⟩ := Radix.mem_written (by decide) h
  exact base58Symbol_ne d hd

/-! ### Different names, different paths -/

theorem Postfix.chars_injective : Function.Injective Postfix.chars := by
  intro p q h
  cases p <;> cases q <;> first | rfl | exact absurd h (by decide)

theorem slash_notMem_filename (f : FileName) :
    '/' ∉ base58Encode f.wallboxId ++ f.filePostfix.chars := by
  intro h
  rcases List.mem_append.mp h with hid | hpostfix
  · exact (mem_base58Encode hid).1 rfl
  · revert hpostfix
    cases f.filePostfix <;> decide

private theorem filename_inj {v w : UInt32} {p q : Postfix}
    (h : base58Encode v ++ p.chars = base58Encode w ++ q.chars) : v = w ∧ p = q := by
  have hdot (x : UInt32) : '.' ∉ base58Encode x := fun hx => (mem_base58Encode hx).2 rfl
  have hsplit (p : Postfix) : p.chars = '.' :: p.chars.tail := by cases p <;> rfl
  rw [hsplit p, hsplit q] at h
  obtain ⟨hid, htail⟩ := eq_of_append_cons_eq (hdot v) (hdot w) h
  refine ⟨base58Encode_injective hid, Postfix.chars_injective ?_⟩
  rw [hsplit p, hsplit q, htail]

/-- **Different names, different paths.** -/
theorem sdGetPathWithFilename_injective : Function.Injective sdGetPathWithFilename := by
  intro f g h
  unfold sdGetPathWithFilename at h
  obtain ⟨hyear, h⟩ := eq_of_append_cons_eq (slash_notMem_sdItoa _) (slash_notMem_sdItoa _) h
  obtain ⟨hmonth, h⟩ := eq_of_append_cons_eq (slash_notMem_sdItoa _) (slash_notMem_sdItoa _) h
  have hname : f.day = g.day ∧
      base58Encode f.wallboxId ++ f.filePostfix.chars =
        base58Encode g.wallboxId ++ g.filePostfix.chars := by
    -- the day is there in both paths or in none: only then is there another slash
    split_ifs at h with hf hg hg
    · simp only [List.append_assoc, List.singleton_append] at h
      obtain ⟨hday, h⟩ := eq_of_append_cons_eq (slash_notMem_sdItoa _) (slash_notMem_sdItoa _) h
      exact ⟨sdItoa_injective hday, h⟩
    · apply absurd _ (slash_notMem_filename g)
      rw [List.nil_append] at h
      simp [← h]
    · apply absurd _ (slash_notMem_filename f)
      rw [List.nil_append] at h
      simp [h]
    · rw [not_not] at hf hg
      exact ⟨hf.trans hg.symm, h⟩
  obtain ⟨hday, hname⟩ := hname
  obtain ⟨hid, hpostfix⟩ := filename_inj hname
  cases f
  cases g
  obtain rfl := sdItoa_injective hyear
  obtain rfl := sdItoa_injective hmonth
  subst hday hid hpostfix
  rfl

/-! ### The other files -/

/-- `"storage/X.sp"` -/
def storagePath (page : ℕ) : Path :=
  "storage/".toList ++ Char.ofNat ('0'.toNat + page) :: ".sp".toList

/-- The file that counts the starts. -/
def bootCountPath : Path := "boot_count".toList

private theorem sdGetPathWithFilename_head (f : FileName) :
    ∃ c ∈ (sdGetPathWithFilename f).head?, c ≠ 's' ∧ c ≠ 'b' := by
  have hne : sdItoa f.year ≠ [] := by
    unfold sdItoa
    dsimp only
    split_ifs <;> exact List.cons_ne_nil _ _
  obtain ⟨c, rest, hcons⟩ := List.exists_cons_of_ne_nil hne
  have hc := (toNat_mem_sdItoa (hcons ▸ List.mem_cons_self : c ∈ sdItoa f.year)).2
  refine ⟨c, ?_, ?_, ?_⟩
  · rw [sdGetPathWithFilename, hcons]
    rfl
  · rintro rfl
    exact absurd hc (by decide)
  · rintro rfl
    exact absurd hc (by decide)

/-- The storage pages are no data files. -/
theorem sdGetPathWithFilename_ne_storagePath (f : FileName) (page : ℕ) :
    sdGetPathWithFilename f ≠ storagePath page := by
  intro h
  obtain ⟨c, hc, hs, -⟩ := sdGetPathWithFilename_head f
  rw [h] at hc
  exact hs (Option.some.inj hc).symm

/-- Nor is the boot counter. -/
theorem sdGetPathWithFilename_ne_bootCountPath (f : FileName) :
    sdGetPathWithFilename f ≠ bootCountPath := by
  intro h
  obtain ⟨c, hc, -, hb⟩ := sdGetPathWithFilename_head f
  rw [h] at hc
  exact hb (Option.some.inj hc).symm

end Bricklib2
