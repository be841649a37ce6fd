/-
Bricklib2/Library/BoundedQueue.lean

First-in first-out queues of bounded length, and windows of circular arrays, which
are how such queues are usually stored: `count` cells from the cell `start` on, with
the first cell behind the last one.

* `slot_distance`, `distance_slot`: a window is given by its first cell and the cell
  behind its last one, as long as one cell is left out;
* `window_push`, `window_cons`: what storing behind a window and moving its start do.
-/
import Mathlib.Data.List.Basic

/-- A queue with at most `capacity` items, and how many have been turned away. -/
structure BoundedQueue (α : Type*) where
  capacity : ℕ
  items : List α
  rejected : ℕ
  length_le : items.length ≤ capacity

namespace BoundedQueue

variable {α : Type*}

/-- An empty queue with room for `capacity` elements. -/
def make (capacity : ℕ) : BoundedQueue α := ⟨capacity, [], 0, capacity.zero_le⟩

/-- A full queue turns the item away. -/
def offer (x : α) (q : BoundedQueue α) : Bool × BoundedQueue α :=
  if h : q.items.length < q.capacity then
    (true, { q with
      items := q.items ++ [x]
      length_le := by
        rw [List.length_append]
        exact h })
  else
    (false, { q with rejected := q.rejected + 1 })

/-- Take the oldest item. -/
def poll (q : BoundedQueue α) : Option α × BoundedQueue α :=
  (q.items.head?, { q with
    items := q.items.tail
    length_le := by
      rw [List.length_tail]
      exact Nat.le_trans (Nat.sub_le _ _) q.length_le })

theorem offer_of_lt (x : α) {q : BoundedQueue α} (h : q.items.length < q.capacity) :
    (q.offer x).1 = true ∧ (q.offer x).2.items = q.items ++ [x] ∧
      (q.offer x).2.rejected = q.rejected ∧ (q.offer x).2.capacity = q.capacity := by
  rw [offer, dif_pos h]
  exact ⟨rfl, rfl, rfl, rfl⟩

theorem offer_of_full (x : α) {q : BoundedQueue α} (h : q.items.length = q.capacity) :
    q.offer x = (false, { q with rejected := q.rejected + 1 }) :=
  dif_neg (Nat.not_lt.mpr (Nat.le_of_eq h.symm))

end BoundedQueue

namespace CircularArray

variable {α : Type*} {size start stop count i j : ℕ}

/-- The cell behind cell `i`. -/
def advance (size i : ℕ) : ℕ := if size ≤ i + 1 then 0 else i + 1

/-- The cell in front of cell `i`. -/
def retreat (size i : ℕ) : ℕ := if i = 0 then size - 1 else i - 1

/-- The cell `i` cells behind `start`. -/
def slot (size start i : ℕ) : ℕ := if start + i < size then start + i else start + i - size

/-- How many cells behind `start` the cell `stop` is. -/
def distance (size start stop : ℕ) : ℕ :=
  if stop < start then size + stop - start else stop - start

theorem advance_lt (h : i < size) : advance size i < size := by
  unfold advance
  split <;> omega

theorem retreat_advance (h : i < size) : retreat size (advance size i) = i := by
  rw [advance]
  split
  · rw [retreat, if_pos rfl]
    omega
  · rw [retreat, if_neg i.succ_ne_zero, Nat.add_sub_cancel]

theorem slot_zero (h : start < size) : slot size start 0 = start := if_pos h

theorem slot_lt (hstart : start < size) (hi : i < size) : slot size start i < size := by
  unfold slot
  split <;> omega

theorem slot_advance (hstart : start < size) (hi : i + 1 < size) :
    slot size (advance size start) i = slot size start (i + 1) := by
  unfold advance slot
  split_ifs <;> omega

theorem slot_slot {k : ℕ} (hstart : start < size) (h : k + i < size) :
    slot size (slot size start k) i = slot size start (k + i) := by
  unfold slot
  split_ifs <;> omega

theorem slot_ne (hi : i < j) (hj : j < size) :
    slot size start j ≠ slot size start i := by
  unfold slot
  split_ifs <;> omega

theorem distance_lt (hstart : start < size) (hstop : stop < size) :
    distance size start stop < size := by
  unfold distance
  split <;> omega

theorem slot_distance (hstart : start < size) (hstop : stop < size) :
    slot size start (distance size start stop) = stop := by
  unfold slot distance
  split_ifs <;> omega

theorem distance_eq_zero (hstart : start < size) :
    distance size start stop = 0 ↔ start = stop := by
  unfold distance
  split <;> omega

theorem distance_slot (hstart : start < size) (hi : i < size) :
    distance size start (slot size start i) = i := by
  unfold slot distance
  split_ifs <;> omega

/-- Moving the start of a window over some of its cells. -/
theorem distance_slot_start (hstart : start < size) (hstop : stop < size)
    (hi : i ≤ distance size start stop) :
    distance size (slot size start i) stop = distance size start stop - i := by
  unfold slot distance at *
  split_ifs at * <;> omega

/-- Advancing the end of a window, where it does not meet its start. -/
theorem distance_advance (hstart : start < size) (hstop : stop < size)
    (h : advance size stop ≠ start) :
    distance size start (advance size stop) = distance size start stop + 1 := by
  unfold distance advance at *
  split_ifs at * <;> omega

/-- It meets it if the window has all cells but one. -/
theorem advance_eq_start (hstart : start < size) (hstop : stop < size) :
    advance size stop = start ↔ distance size start stop + 1 = size := by
  unfold distance advance
  split_ifs <;> omega

/-- Advancing the start of a window that is not empty. -/
theorem distance_advance_start (hstart : start < size) (hstop : stop < size) (h : start ≠ stop) :
    distance size (advance size start) stop + 1 = distance size start stop := by
  unfold distance advance
  split_ifs <;> omega

variable [Inhabited α] {cells : List α}

/-- `count` cells, from `start` on. -/
def window (cells : List α) (size start count : ℕ) : List α :=
  (List.range count).map fun i => cells.getD (slot size start i) default

@[simp] theorem length_window (cells : List α) (size start count : ℕ) :
    (window cells size start count).length = count := by
  rw [window, List.length_map, List.length_range]

theorem window_succ (cells : List α) (size start count : ℕ) :
    window cells size start (count + 1) =
      window cells size start count ++ [cells.getD (slot size start count) default] := by
  rw [window, List.range_succ, List.map_append]
  rfl

theorem window_cons (hstart : start < size) (hcount : count < size) :
    window cells size start (count + 1) =
      cells.getD start default :: window cells size (advance size start) count := by
  rw [window, List.range_succ_eq_map, List.map_cons, List.map_map, slot_zero hstart]
  refine congrArg (List.cons _) (List.map_congr_left fun i hi => ?_)
  have hlt := List.mem_range.mp hi
  show cells.getD (slot size start (i + 1)) default = _
  rw [slot_advance hstart (by omega)]

/-- Dropping cells at the front moves the start. -/
theorem window_drop {k : ℕ} (hstart : start < size) (hk : k ≤ count) (hcount : count < size) :
    (window cells size start count).drop k =
      window cells size (slot size start k) (count - k) := by
  apply List.ext_getElem
  · rw [List.length_drop, length_window, length_window]
  · intro i hi hi'
    rw [length_window] at hi'
    have hslot : slot size start (k + i) = slot size (slot size start k) i :=
      (slot_slot hstart (by omega)).symm
    simp only [List.getElem_drop, window, List.getElem_map, List.getElem_range, hslot]

/-- The cell behind the window is none of its cells. -/
theorem window_set (x : α) (hcount : count < size) :
    window (cells.set (slot size start count) x) size start count =
      window cells size start count := by
  refine List.map_congr_left fun i hi => ?_
  have hne : slot size start count ≠ slot size start i := slot_ne (List.mem_range.mp hi) hcount
  simp only [List.getD_eq_getElem?_getD]
  rw [List.getElem?_set_ne hne]

theorem window_push (x : α) (hstart : start < size) (hcount : count < size)
    (hcells : size ≤ cells.length) :
    window (cells.set (slot size start count) x) size start (count + 1) =
      window cells size start count ++ [x] := by
  have hlt : slot size start count < cells.length :=
    Nat.lt_of_lt_of_le (slot_lt hstart hcount) hcells
  rw [window_succ, window_set x hcount, List.getD_eq_getElem?_getD,
    List.getElem?_set_self hlt, Option.getD_some]

end CircularArray
