/-
Bricklib2/Warp/Wem/DataFile.lean

The four kinds of data files on the SD card (sd.h, sd_new_file_objects.c): a
metadata record of eight bytes, then one entry for each slot, five minutes of
a day or one day of a month.  Entries are packed structures, so the model
keeps them as the bytes they have on the card.
-/
import Bricklib2.Library.FileStore
import Bricklib2.Warp.Wem.Path
import Mathlib.Tactic.Ring

namespace Bricklib2

/-! ### Layout -/

/-- `IS_ENERGY_MANAGER_V1` or not. -/
inductive Build
  | v1
  | v2
  deriving DecidableEq, Repr

/-- The kinds of data files. -/
inductive DataKind
  | wallbox
  | wallboxDaily
  | energyManager
  | energyManagerDaily
  deriving DecidableEq, Repr

/-- One file holds a month instead of a day. -/
def DataKind.daily : DataKind → Bool
  | .wallbox | .energyManager => false
  | .wallboxDaily | .energyManagerDaily => true

/-- A slot for every five minutes. -/
def sd5minPerDay : ℕ := 12 * 24

/-- A slot for every day. -/
def sd1dayPerMonth : ℕ := 31

/-- The slots of a file. -/
def DataKind.slots (k : DataKind) : ℕ := if k.daily then sd1dayPerMonth else sd5minPerDay

/-- `sizeof(Wallbox5MinData)` and its siblings. -/
def entrySize : Build → DataKind → ℕ
  | .v1, .wallbox => 3
  | .v2, .wallbox => 4
  | _, .wallboxDaily => 4
  | .v1, .energyManager => 33
  | .v2, .energyManager => 34
  | _, .energyManagerDaily => 60

/-- `sizeof(SDMetadata)` -/
def sdMetadataSize : ℕ := 8

/-- `SD_METADATA_TYPE_*` -/
def DataKind.metadataType : DataKind → UInt8
  | .wallbox => 0
  | .wallboxDaily => 1
  | .energyManager => 2
  | .energyManagerDaily => 3

/-- Magic `0x4243`, version and type, and four bytes for future use. -/
def DataKind.metadata (k : DataKind) : List UInt8 := [0x43, 0x42, 0, k.metadataType, 0, 0, 0, 0]

/-- `SD_5MIN_FLAG_NO_DATA` as the flags field of an entry. -/
def sd5minFlagNoData : Build → List UInt8
  | .v1 => [0x80]
  | .v2 => [0x00, 0x80]

/-- An entry of a new file: `flags` of the 5 minute entries and all members of
the daily ones have an initialiser, the members without one are zero. -/
def newEntry (b : Build) : DataKind → List UInt8
  | .wallbox => sd5minFlagNoData b ++ List.replicate 2 0
  | .wallboxDaily => List.replicate 4 0xFF
  | .energyManager => sd5minFlagNoData b ++ List.replicate 32 0
  | .energyManagerDaily => List.replicate 60 0xFF

/-- A file with no data: the metadata, and every slot as it is without data. -/
def newFile (b : Build) (k : DataKind) : List UInt8 :=
  k.metadata ++ (List.replicate k.slots (newEntry b k)).flatten

/-- The new file for the data of a wallbox. -/
def sdNewFileWb5min (b : Build) : List UInt8 := newFile b .wallbox

/-- The new file for the daily data of a wallbox. -/
def sdNewFileWb1day (b : Build) : List UInt8 := newFile b .wallboxDaily

/-- The new file for the data of an energy manager. -/
def sdNewFileEm5min (b : Build) : List UInt8 := newFile b .energyManager

/-- The new file for the daily data of an energy manager. -/
def sdNewFileEm1day (b : Build) : List UInt8 := newFile b .energyManagerDaily

@[simp] theorem DataKind.length_metadata (k : DataKind) : k.metadata.length = sdMetadataSize := rfl

@[simp] theorem length_newEntry (b : Build) (k : DataKind) :
    (newEntry b k).length = entrySize b k := by
  cases b <;> cases k <;> rfl

theorem entrySize_pos (b : Build) (k : DataKind) : 0 < entrySize b k := by
  cases b <;> cases k <;> decide

/-- The end of a file is below the range of the 16 bit positions. -/
theorem fileSize_lt (b : Build) (k : DataKind) :
    sdMetadataSize + k.slots * entrySize b k < 2 ^ 16 := by
  cases b <;> cases k <;> decide

@[simp] theorem length_newFile (b : Build) (k : DataKind) :
    (newFile b k).length = sdMetadataSize + k.slots * entrySize b k := by
  rw [newFile, List.length_append, DataKind.length_metadata, List.length_flatten,
    List.map_replicate, List.sum_replicate_nat, length_newEntry]

/-! ### Slots -/

/-- Where a slot begins. -/
def slotPosition (b : Build) (k : DataKind) (i : ℕ) : ℕ := sdMetadataSize + i * entrySize b k

/-- The bytes of a slot. -/
def slotOf (b : Build) (k : DataKind) (content : List UInt8) (i : ℕ) : List UInt8 :=
  (content.drop (slotPosition b k i)).take (entrySize b k)

/-- A whole slot is in the file. -/
theorem le_length_of_slotOf {b : Build} {k : DataKind} {content : List UInt8} {i : ℕ}
    (h : (slotOf b k content i).length = entrySize b k) :
    slotPosition b k i + entrySize b k ≤ content.length := by
  rw [slotOf, List.length_take, List.length_drop] at h
  have hpos := entrySize_pos b k
  omega

/-- The part of a file of entries behind the first `i`, when all are the same. -/
private theorem drop_flatten_replicate {e : List UInt8} {i n : ℕ} (h : i ≤ n) :
    (List.replicate n e).flatten.drop (i * e.length) = (List.replicate (n - i) e).flatten := by
  obtain ⟨m, rfl⟩ := Nat.exists_eq_add_of_le h
  rw [← List.replicate_append_replicate, List.flatten_append, Nat.add_sub_cancel_left]
  apply List.drop_left'
  rw [List.length_flatten, List.map_replicate, List.sum_replicate_nat]

/-- Slots from `i` on in a new file. -/
theorem drop_newFile {b : Build} {k : DataKind} {i : ℕ} (h : i ≤ k.slots) :
    (newFile b k).drop (slotPosition b k i) =
      (List.replicate (k.slots - i) (newEntry b k)).flatten := by
  rw [newFile, slotPosition, ← List.drop_drop, ← length_newEntry b k]
  show (List.drop k.metadata.length _).drop _ = _
  rw [List.drop_left]
  exact drop_flatten_replicate h

theorem slotOf_newFile {b : Build} {k : DataKind} {i : ℕ} (h : i < k.slots) :
    slotOf b k (newFile b k) i = newEntry b k := by
  rw [slotOf, drop_newFile h.le]
  obtain ⟨m, hm⟩ : ∃ m, k.slots - i = m + 1 := ⟨k.slots - i - 1, by omega⟩
  rw [hm, List.replicate_succ, List.flatten_cons]
  exact List.take_left' (length_newEntry b k)

theorem take_newFile (b : Build) (k : DataKind) :
    (newFile b k).take sdMetadataSize = k.metadata := List.take_left' k.length_metadata

section Patch

variable {b : Build} {k : DataKind} {content data : List UInt8} {i j : ℕ}

open FileStore.Session (patch)

theorem slotOf_patch_self (h : data.length = entrySize b k) :
    slotOf b k (patch content (slotPosition b k i) data) i = data := by
  rw [slotOf, ← h]
  exact FileStore.Session.window_patch content _ data

/-- Other slots keep their entries. -/
theorem slotOf_patch_of_ne (h : data.length = entrySize b k)
    (hj : (slotOf b k content j).length = entrySize b k) (hne : j ≠ i) :
    slotOf b k (patch content (slotPosition b k i) data) j = slotOf b k content j := by
  apply FileStore.Session.window_patch_of_disjoint (le_length_of_slotOf hj)
  rw [h]
  unfold slotPosition
  rcases Nat.lt_or_gt_of_ne hne with hlt | hgt
  · left
    have hmul : (j + 1) * entrySize b k ≤ i * entrySize b k := Nat.mul_le_mul_right _ hlt
    rw [Nat.add_mul] at hmul
    omega
  · right
    have hmul : (i + 1) * entrySize b k ≤ j * entrySize b k := Nat.mul_le_mul_right _ hgt
    rw [Nat.add_mul] at hmul
    omega

/-- Writing a slot leaves the metadata alone. -/
theorem take_patch (h : sdMetadataSize ≤ content.length) :
    (patch content (slotPosition b k i) data).take sdMetadataSize =
      content.take sdMetadataSize := by
  have hwindow : ((patch content (slotPosition b k i) data).drop 0).take sdMetadataSize =
      (content.drop 0).take sdMetadataSize := by
    apply FileStore.Session.window_patch_of_disjoint (by omega)
    left
    rw [slotPosition]
    omega
  rwa [List.drop_zero, List.drop_zero] at hwindow

end Patch

/-! ### Data points -/

/-- A point as it stands in its setter queue, with the bytes of its entry. -/
structure DataPoint (b : Build) where
  kind : DataKind
  wallboxId : UInt32
  year : UInt8
  month : UInt8
  day : UInt8
  hour : UInt8
  minute : UInt8
  data : List UInt8
  length_data : data.length = entrySize b kind
  deriving DecidableEq

variable {b : Build}

/-- A point of the first day of 2024 all of whose bytes are `byte`. -/
def DataPoint.filled (b : Build) (k : DataKind) (minute byte : UInt8) : DataPoint b where
  kind := k
  wallboxId := 0
  year := 24
  month := 1
  day := 1
  hour := 0
  minute := minute
  data := List.replicate (entrySize b k) byte
  length_data := List.length_replicate

/-- The file an access to a kind of data goes to: daily files have no day in
their path, energy manager files no wallbox id. -/
def DataKind.fileName (k : DataKind) (wallboxId : UInt32) (year month day : UInt8) : FileName :=
  match k with
  | .wallbox => ⟨wallboxId, year, month, day, .wb⟩
  | .wallboxDaily => ⟨wallboxId, year, month, sdFileNoDayInPath, .wb⟩
  | .energyManager => ⟨0, year, month, day, .emWPrices⟩
  | .energyManagerDaily => ⟨0, year, month, sdFileNoDayInPath, .emWPrices⟩

/-- Of two kinds with the same extension one has no day in its paths. -/
theorem DataKind.eq_of_fileName {k k' : DataKind} {id id' : UInt32}
    {year year' month month' day day' : UInt8} (hday : day.toNat ≤ 31) (hday' : day'.toNat ≤ 31)
    (h : k.fileName id year month day = k'.fileName id' year' month' day') : k = k' := by
  have hne {day : UInt8} (hle : day.toNat ≤ 31) : day ≠ sdFileNoDayInPath := by
    rintro rfl
    exact absurd hle (by decide)
  have hd := hne hday
  have hd' := hne hday'
  unfold DataKind.fileName at h
  cases k <;> cases k' <;> simp_all [eq_comm]

/-- The name of the file that a data point belongs to. -/
def DataPoint.fileName (p : DataPoint b) : FileName :=
  p.kind.fileName p.wallboxId p.year p.month p.day

/-- The `pos` of a write or read: `uint16_t`, the day counts from 1 and is
decremented in 32 bits. -/
def DataKind.position (k : DataKind) (size : ℕ) (day hour minute : UInt8) (offset : ℕ) : ℕ :=
  let slot :=
    if k.daily then day.toNat + (2 ^ 32 - 1) else hour.toNat * 12 + minute.toNat / 5
  (sdMetadataSize + slot * size + offset * size) % 2 ^ 16

/-- The place of a data point in its file. -/
def DataPoint.position (p : DataPoint b) : ℕ :=
  p.kind.position (entrySize b p.kind) p.day p.hour p.minute 0

/-- The date and time are real: the day is in the calendar's range, and in
particular not the mark for paths without a day. -/
def DataKind.InRange (k : DataKind) (day hour minute : UInt8) : Prop :=
  1 ≤ day.toNat ∧ day.toNat ≤ 31 ∧ (k.daily = false → hour.toNat < 24 ∧ minute.toNat < 60)

instance (k : DataKind) (day hour minute : UInt8) : Decidable (k.InRange day hour minute) := by
  unfold DataKind.InRange
  infer_instance

/-- The slot of a date and time. -/
def DataKind.slot (k : DataKind) (day hour minute : UInt8) : ℕ :=
  if k.daily then day.toNat - 1 else hour.toNat * 12 + minute.toNat / 5

/-- The time of a data point is a real one. -/
def DataPoint.InRange (p : DataPoint b) : Prop := p.kind.InRange p.day p.hour p.minute

instance (p : DataPoint b) : Decidable p.InRange := by
  unfold DataPoint.InRange
  infer_instance

/-- The slot of a data point. -/
def DataPoint.slot (p : DataPoint b) : ℕ := p.kind.slot p.day p.hour p.minute

theorem DataKind.slot_lt {k : DataKind} {day hour minute : UInt8} (h : k.InRange day hour minute) :
    k.slot day hour minute < k.slots := by
  obtain ⟨hday, hday', htime⟩ := h
  unfold DataKind.slot DataKind.slots sd1dayPerMonth sd5minPerDay
  cases hk : k.daily with
  | false =>
    obtain ⟨hhour, hminute⟩ := htime hk
    simp only [Bool.false_eq_true, if_false]
    omega
  | true =>
    simp only [if_true]
    omega

/-- For a slot of the file nothing wraps around, and the access goes to the slot it is
meant for. -/
theorem DataKind.position_eq {k : DataKind} {day hour minute : UInt8} {offset : ℕ}
    (hday : 1 ≤ day.toNat) (hlt : k.slot day hour minute + offset < k.slots) :
    k.position (entrySize b k) day hour minute offset =
      slotPosition b k (k.slot day hour minute + offset) := by
  have hsize := fileSize_lt b k
  have hmul : (k.slot day hour minute + offset) * entrySize b k ≤ k.slots * entrySize b k :=
    Nat.mul_le_mul_right _ hlt.le
  unfold DataKind.position slotPosition
  cases hk : k.daily with
  | false =>
    simp only [DataKind.slot, hk, Bool.false_eq_true, if_false] at hmul ⊢
    rw [Nat.add_assoc, ← Nat.add_mul]
    exact Nat.mod_eq_of_lt (by omega)
  | true =>
    simp only [DataKind.slot, hk, if_true] at hmul ⊢
    have hday' : day.toNat + (2 ^ 32 - 1) = day.toNat - 1 + 2 ^ 32 := by omega
    rw [hday', Nat.add_assoc, ← Nat.add_mul]
    have hsplit : (day.toNat - 1 + 2 ^ 32 + offset) * entrySize b k =
        (day.toNat - 1 + offset) * entrySize b k + 2 ^ 16 * (2 ^ 16 * entrySize b k) := by ring
    rw [hsplit, ← Nat.add_assoc, Nat.add_mul_mod_self_left]
    exact Nat.mod_eq_of_lt (by omega)

theorem DataPoint.position_eq {p : DataPoint b} (h : p.InRange) :
    p.position = slotPosition b p.kind p.slot :=
  DataKind.position_eq h.1 (DataKind.slot_lt h)

end Bricklib2
