/-
Bricklib2/Utility/RingbufferRemove.lean

`ringbuffer_remove` drops items from the front of the ring (ringbuffer.c).  The start is
advanced by all of them at once, in 16 bits: the sum wraps around at 65536, and not at the
size, where the ring is larger than half of that range.

Main result: `ringbufferRemove_iff`.
-/
import Bricklib2.Utility.RingbufferQueue
import Mathlib.Algebra.Group.Nat.Defs

namespace Bricklib2

open CircularArray

/-- `ringbuffer_remove`, which drops up to `num` elements. -/
def ringbufferRemove16 (rb : Ringbuffer16) (num : UInt16) : Ringbuffer16 :=
  let incr := if ringbufferGetUsed16 rb < num then ringbufferGetUsed16 rb else num
  let rb := { rb with start := rb.start + incr }
  if rb.start ≥ rb.size then { rb with start := rb.start - rb.size } else rb

/-! ### Rings that can be reached -/

/-- The functions that change the ring. -/
inductive RingbufferOp
  | call (call : RingbufferCall)
  | remove (num : UInt16)

/-- The buffer after a call. -/
def RingbufferOp.apply (rb : Ringbuffer16) : RingbufferOp → Ringbuffer16
  | .call c => (ringbufferCall16 rb c).2
  | .remove num => ringbufferRemove16 rb num

/-- The ring behind a sequence of calls. -/
def Ringbuffer16.Reachable (rb : Ringbuffer16) : Prop :=
  ∃ (storage : RingbufferStorage) (ops : List RingbufferOp),
    rb = ops.foldl RingbufferOp.apply (ringbufferInit16 storage.size storage.buffer)

/-- The ring with unbounded indices. -/
def Ringbuffer16.wide (rb : Ringbuffer16) : Ringbuffer UInt8 where
  overflows := rb.overflows.toNat
  start := rb.start.toNat
  «end» := rb.end.toNat
  size := rb.size.toNat
  lowWatermark := rb.lowWatermark.toNat
  buffer := rb.buffer

variable {rb : Ringbuffer16}

theorem sameRing_wide (rb : Ringbuffer16) : SameRing rb rb.wide where
  overflows_eq := UInt32.ofNat_toNat.symm
  start_eq := rfl
  end_eq := rfl
  size_eq := rfl
  low_eq := rfl
  buffer_eq := rfl

theorem SameRing.valid {wide : Ringbuffer UInt8} (h : SameRing rb wide) (hvalid : wide.Valid) :
    rb.wide.Valid := by
  obtain ⟨hstart, hend, hsize⟩ := hvalid
  rw [← h.start_eq, ← h.size_eq] at hstart
  rw [← h.end_eq, ← h.size_eq] at hend
  rw [← h.buffer_eq, ← h.size_eq] at hsize
  exact ⟨hstart, hend, hsize⟩

theorem Ringbuffer.Valid.call {wide : Ringbuffer UInt8} (h : wide.Valid) (call : RingbufferCall) :
    (ringbufferCall wide call).2.Valid := by
  have hfree : (ringbufferGetFree wide).2.Valid := by
    unfold ringbufferGetFree
    dsimp only
    split_ifs
    · exact ⟨h.start_lt, h.end_lt, h.size_le⟩
    · exact h
  cases call with
  | init storage => exact ⟨storage.size_pos, storage.size_pos, storage.size_le⟩
  | add data => exact h.add data
  | get =>
    unfold ringbufferCall
    by_cases hempty : ringbufferGetUsed wide = 0
    · rw [ringbufferGet_empty h hempty]
      exact h
    · obtain ⟨data, wide', hget, -, hvalid, -⟩ := ringbufferGet_items h hempty
      rw [hget]
      exact hvalid
  | isEmpty | getUsed => exact h
  | isFull | getFree => exact hfree

/-! ### What is removed -/

/-- `MIN(ringbuffer_get_used(rb), num)` -/
def Ringbuffer16.removed (rb : Ringbuffer16) (num : UInt16) : ℕ :=
  min (ringbufferGetUsed16 rb).toNat num.toNat

theorem wide_remove (rb : Ringbuffer16) (num : UInt16) :
    (ringbufferRemove16 rb num).wide = { rb.wide with
      start := (ringbufferRemove16 rb num).start.toNat } := by
  unfold ringbufferRemove16
  dsimp only
  split_ifs <;> rfl

/-- **The new start.**  Where the sum wraps around, it is not below the size by as many
cells as the size lacks to 65536. -/
theorem start_remove (hvalid : rb.wide.Valid) (num : UInt16) :
    (ringbufferRemove16 rb num).start.toNat =
      if rb.start.toNat + rb.removed num < 2 ^ 16 then
        slot rb.size.toNat rb.start.toNat (rb.removed num)
      else rb.start.toNat + rb.removed num - 2 ^ 16 := by
  have hused := (sameRing_wide rb).used hvalid
  have hlt := hvalid.used_lt
  have hstart : rb.start.toNat < rb.size.toNat := hvalid.start_lt
  have hsize := rb.size.toNat_lt
  rw [← hused] at hlt
  change (ringbufferGetUsed16 rb).toNat < rb.size.toNat at hlt
  have hincr : (if ringbufferGetUsed16 rb < num then ringbufferGetUsed16 rb else num).toNat =
      rb.removed num := by
    rw [Ringbuffer16.removed, apply_ite UInt16.toNat]
    simp only [UInt16.lt_iff_toNat_lt]
    split_ifs <;> omega
  have hle : rb.removed num ≤ (ringbufferGetUsed16 rb).toNat := Nat.min_le_left _ _
  unfold ringbufferRemove16 slot
  dsimp only
  rw [apply_ite Ringbuffer16.start, apply_ite UInt16.toNat]
  simp only [ge_iff_le, UInt16.le_iff_toNat_le, UInt16.toNat_sub, UInt16.toNat_add, hincr]
  split_ifs <;> omega

theorem valid_remove (hvalid : rb.wide.Valid) (num : UInt16) :
    (ringbufferRemove16 rb num).wide.Valid := by
  have hstart := start_remove hvalid num
  have hlt : (ringbufferRemove16 rb num).start.toNat < rb.size.toNat := by
    have hused := hvalid.used_lt
    have hstartLt : rb.start.toNat < rb.size.toNat := hvalid.start_lt
    have hsize := rb.size.toNat_lt
    have hle : rb.removed num ≤ (ringbufferGetUsed16 rb).toNat := Nat.min_le_left _ _
    rw [← (sameRing_wide rb).used hvalid] at hused
    change (ringbufferGetUsed16 rb).toNat < rb.size.toNat at hused
    rw [hstart]
    unfold slot
    split_ifs <;> omega
  rw [wide_remove]
  exact ⟨hlt, hvalid.end_lt, hvalid.size_le⟩

theorem Ringbuffer16.Reachable.valid (h : rb.Reachable) : rb.wide.Valid := by
  obtain ⟨storage, ops, rfl⟩ := h
  have hinit : (ringbufferInit16 storage.size storage.buffer).wide.Valid :=
    ⟨storage.size_pos, storage.size_pos, storage.size_le⟩
  generalize ringbufferInit16 storage.size storage.buffer = rb at hinit
  induction ops generalizing rb with
  | nil => exact hinit
  | cons op ops ih =>
    refine ih _ ?_
    cases op with
    | call call => exact ((sameRing_wide rb).call hinit call).2.valid (hinit.call call)
    | remove num => exact valid_remove hinit num

theorem length_items (wide : Ringbuffer UInt8) : wide.items.length = ringbufferGetUsed wide :=
  length_window _ _ _ _

/-- A start that has wrapped around leaves more cells than it should. -/
theorem distance_wrapped {size start stop count : ℕ} (hstart : start < size) (hstop : stop < size)
    (hsize : size < 2 ^ 16) (hle : count ≤ distance size start stop)
    (hwrap : 2 ^ 16 ≤ start + count) :
    distance size (start + count - 2 ^ 16) stop ≠ distance size start stop - count := by
  unfold distance at *
  split_ifs at * <;> omega

/-- **Removing.**  The oldest items, as many as there are up to `num`, are dropped, and the
others stay in order, exactly if the start does not wrap around at 16 bits. -/
theorem ringbufferRemove_iff (h : rb.Reachable) (num : UInt16) :
    (ringbufferRemove16 rb num).wide.items = rb.wide.items.drop (rb.removed num) ∧
        (ringbufferRemove16 rb num).start < (ringbufferRemove16 rb num).size ↔
      rb.start.toNat + rb.removed num < 2 ^ 16 := by
  have hvalid := h.valid
  have hnext := valid_remove hvalid num
  have hused := (sameRing_wide rb).used hvalid
  have hle : rb.removed num ≤ ringbufferGetUsed rb.wide := by
    rw [← hused]
    exact Nat.min_le_left _ _
  have hlt := hvalid.used_lt
  have hstart := start_remove hvalid num
  constructor
  · rintro ⟨hitems, -⟩
    by_contra hwrap
    -- there are too many items left
    have hlength := congrArg List.length hitems
    rw [List.length_drop, length_items, length_items, wide_remove, hstart, if_neg hwrap] at hlength
    exact distance_wrapped hvalid.start_lt hvalid.end_lt rb.size.toNat_lt hle
      (Nat.not_lt.mp hwrap) hlength
  · intro hfits
    rw [if_pos hfits] at hstart
    refine ⟨?_, UInt16.lt_iff_toNat_lt.mpr hnext.start_lt⟩
    have hwindow : (window rb.buffer _ _ _).drop (rb.removed num) = _ :=
      window_drop hvalid.start_lt hle hlt
    have hdistance := distance_slot_start hvalid.start_lt hvalid.end_lt hle
    rw [Ringbuffer.items, Ringbuffer.items, getUsed_eq_distance, wide_remove, hstart]
    show window rb.buffer rb.size.toNat _ (distance _ _ _) = List.drop _ (window rb.buffer _ _ _)
    rw [hwindow]
    exact congrArg _ hdistance

/-- Three items, two of them removed. -/
def threeItems : Ringbuffer16 :=
  [1, 2, 3].foldl (fun rb data => (ringbufferAdd16 rb data).2) (ringbufferInit16 4 [0, 0, 0, 0])

theorem ringbufferRemove_threeItems :
    (ringbufferRemove16 threeItems 2).wide.items = threeItems.wide.items.drop 2 ∧
      threeItems.wide.items = [1, 2, 3] := by
  have hreachable : threeItems.Reachable :=
    ⟨⟨4, [0, 0, 0, 0], by decide, by decide⟩, [.call (.add 1), .call (.add 2), .call (.add 3)], rfl⟩
  exact ⟨((ringbufferRemove_iff hreachable 2).mpr (by decide)).1, by decide⟩

/-! ### Every position is reached -/

theorem Ringbuffer16.Reachable.apply (h : rb.Reachable) (op : RingbufferOp) :
    (op.apply rb).Reachable := by
  obtain ⟨storage, ops, rfl⟩ := h
  refine ⟨storage, ops ++ [op], ?_⟩
  rw [List.foldl_append]
  rfl

/-- The indices of a ring that can be reached. -/
def ReachableAt (size : UInt16) (i j : ℕ) : Prop :=
  ∃ rb : Ringbuffer16, rb.Reachable ∧ rb.size = size ∧ rb.start.toNat = i ∧ rb.end.toNat = j

variable {size : UInt16} {i j : ℕ}

theorem ReachableAt.add (h : ReachableAt size i j) (hroom : distance size.toNat i j + 1 < size.toNat) :
    ReachableAt size i (advance size.toNat j) := by
  obtain ⟨rb, hreachable, rfl, rfl, rfl⟩ := h
  have hvalid := hreachable.valid
  have hsame := ((sameRing_wide rb).add hvalid 0).2
  have hadd : ringbufferAdd rb.wide 0 = _ := ringbufferAdd_room hvalid hroom
  rw [hadd] at hsame
  exact ⟨_, hreachable.apply (.call (.add 0)), UInt16.toNat.inj hsame.size_eq, hsame.start_eq,
    hsame.end_eq⟩

theorem ReachableAt.get (h : ReachableAt size i j) (hne : i ≠ j) :
    ReachableAt size (advance size.toNat i) j := by
  obtain ⟨rb, hreachable, rfl, rfl, rfl⟩ := h
  have hvalid := hreachable.valid
  have hnonempty : rb.start ≠ rb.end := fun heq => hne (congrArg UInt16.toNat heq)
  have hget : (ringbufferGet16 rb).2 = { rb with start := advance16 rb.size rb.start } := by
    rw [ringbufferGet16_eq, if_neg hnonempty]
  refine ⟨_, hreachable.apply (.call .get), ?_, ?_, ?_⟩
  · show (ringbufferGet16 rb).2.size = _
    rw [hget]
  · show (ringbufferGet16 rb).2.start.toNat = _
    rw [hget]
    exact toNat_advance16 hvalid.start_lt
  · show (ringbufferGet16 rb).2.end.toNat = _
    rw [hget]

/-- Whatever is below the size is reached: the start by adding and getting items, and from
there the end by adding. -/
theorem reachableAt_all (storage : RingbufferStorage) (hi : i < storage.size.toNat)
    (hj : j < storage.size.toNat) : ReachableAt storage.size i j := by
  have hdiagonal : ReachableAt storage.size i i := by
    induction i with
    | zero => exact ⟨_, ⟨storage, [], rfl⟩, rfl, rfl, rfl⟩
    | succ i ih =>
      have hempty : distance storage.size.toNat i i = 0 :=
        (distance_eq_zero (Nat.lt_of_succ_lt hi)).mpr rfl
      have hnext : advance storage.size.toNat i = i + 1 := if_neg (Nat.not_le.mpr hi)
      have hadd := (ih (Nat.lt_of_succ_lt hi)).add (by omega)
      have hget := hadd.get (by omega)
      rwa [hnext] at hget
  have hfill (count : ℕ) (hcount : count < storage.size.toNat) :
      ReachableAt storage.size i (slot storage.size.toNat i count) := by
    induction count with
    | zero =>
      rw [slot_zero hi]
      exact hdiagonal
    | succ count ih =>
      have hused := distance_slot hi (Nat.lt_of_succ_lt hcount)
      have hadd := (ih (Nat.lt_of_succ_lt hcount)).add (by omega)
      have hnext : advance storage.size.toNat (slot storage.size.toNat i count) =
          slot storage.size.toNat i (count + 1) := by
        unfold advance slot
        split_ifs <;> omega
      rwa [hnext] at hadd
  rw [← slot_distance hi hj]
  exact hfill _ (distance_lt hi hj)

/-- With 65535 cells and the start at the last one, removing all items leaves one. -/
theorem ringbufferRemove_wraps :
    ¬ ∀ rb : Ringbuffer16, rb.Reachable → ∀ num,
      (ringbufferRemove16 rb num).wide.items = rb.wide.items.drop (rb.removed num) ∧
        (ringbufferRemove16 rb num).start < (ringbufferRemove16 rb num).size := by
  intro hremoves
  let storage : RingbufferStorage :=
    { size := 65535
      buffer := List.replicate 65535 0
      size_pos := by decide
      size_le := by rw [List.length_replicate]; decide }
  obtain ⟨rb, hreachable, hsize, hstart, hend⟩ :=
    reachableAt_all (i := 65534) (j := 65533) storage (by decide) (by decide)
  have hvalid := hreachable.valid
  have hsize' : rb.size.toNat = 65535 := congrArg UInt16.toNat hsize
  have hused : (ringbufferGetUsed16 rb).toNat = 65534 := by
    rw [(sameRing_wide rb).used hvalid, getUsed_eq_distance]
    show distance rb.size.toNat rb.start.toNat rb.end.toNat = _
    rw [hsize', hstart, hend]
    rfl
  have hremoved : rb.removed 65534 = 65534 := by
    rw [Ringbuffer16.removed, hused]
    rfl
  have hnext := start_remove hvalid 65534
  have hitems := congrArg List.length (hremoves rb hreachable 65534).1
  rw [hremoved, hstart, if_neg (by decide)] at hnext
  rw [List.length_drop, length_items, length_items, wide_remove, hnext, hremoved,
    ← (sameRing_wide rb).used hvalid, hused, getUsed_eq_distance] at hitems
  change distance rb.size.toNat (65534 + 65534 - 2 ^ 16) rb.end.toNat = _ at hitems
  rw [hsize', hend] at hitems
  exact absurd hitems (by decide)

end Bricklib2
