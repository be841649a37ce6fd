/-
Bricklib2/Utility/Ringbuffer.lean

The ring buffer (ringbuffer.c), over any element type: the receive path stores
bytes that carry ghost information.  `start` is the oldest element, `end` the
slot behind the newest one, and one slot always stays free.

The Modbus code initialises a ring before every request and never wraps it, so
the lemmas here are about a *linear* ring, `start ≤ end < size`, whose content
is a slice of the storage.
-/
import Mathlib.Data.List.Basic
import Mathlib.Data.List.TakeDrop
import Mathlib.Tactic.Linarith

namespace Bricklib2

/-- A buffer with its indices, and what it records for the statistics. -/
structure Ringbuffer (α : Type) where
  overflows : ℕ
  start : ℕ
  «end» : ℕ
  size : ℕ
  lowWatermark : ℕ
  buffer : List α
  deriving DecidableEq, Repr

variable {α : Type}

/-- The elements between `start` and `end`. -/
def ringbufferGetUsed (rb : Ringbuffer α) : ℕ :=
  if rb.end < rb.start then rb.size + rb.end - rb.start else rb.end - rb.start

/-- The free cells, the one that stays free included; the smallest number is kept. -/
def ringbufferGetFree (rb : Ringbuffer α) : ℕ × Ringbuffer α :=
  let free := rb.size - ringbufferGetUsed rb
  (free, if free < rb.lowWatermark then { rb with lowWatermark := free } else rb)

/-- Nothing is between the indices. -/
def ringbufferIsEmpty (rb : Ringbuffer α) : Bool := rb.start == rb.end

/-- One place is always left free. -/
def ringbufferIsFull (rb : Ringbuffer α) : Bool × Ringbuffer α :=
  (decide ((ringbufferGetFree rb).1 < 2), (ringbufferGetFree rb).2)

/-- The element is stored at `end`, and counted as an overflow if there is no room. -/
def ringbufferAdd (rb : Ringbuffer α) (data : α) : Bool × Ringbuffer α :=
  let buffer := rb.buffer.set rb.end data
  let next := if rb.size ≤ rb.end + 1 then 0 else rb.end + 1
  if next = rb.start then
    (false, { rb with
      buffer := buffer
      overflows := rb.overflows + 1
      «end» := if next = 0 then rb.size - 1 else next - 1 })
  else
    (true, { rb with buffer := buffer, «end» := next })

/-- `none` when the ring is empty. -/
def ringbufferGet [Inhabited α] (rb : Ringbuffer α) : Option (α × Ringbuffer α) :=
  if ringbufferIsEmpty rb then
    none
  else
    some (rb.buffer.getD rb.start default,
      { rb with start := if rb.size ≤ rb.start + 1 then 0 else rb.start + 1 })

/-- Re-initialise a ring over the same storage: its cells keep their content. -/
def ringbufferInit (size : ℕ) (buffer : List α) : Ringbuffer α where
  overflows := 0
  start := 0
  «end» := 0
  size := size
  lowWatermark := size
  buffer := buffer

/-! ### Linear rings -/

/-- The content lies in one piece in the storage. -/
structure Ringbuffer.Linear (rb : Ringbuffer α) : Prop where
  start_le : rb.start ≤ rb.end
  end_lt : rb.end < rb.size
  buffer_length : rb.buffer.length = rb.size

theorem Ringbuffer.Linear.used {rb : Ringbuffer α} (h : rb.Linear) :
    ringbufferGetUsed rb = rb.end - rb.start :=
  if_neg (Nat.not_lt.mpr h.start_le)

theorem linear_ringbufferInit {size : ℕ} {buffer : List α} (h : 0 < size)
    (hl : buffer.length = size) : (ringbufferInit size buffer).Linear :=
  ⟨le_rfl, h, hl⟩

/-- Adding to a linear ring with room extends the slice by one cell. -/
theorem ringbufferAdd_linear {rb : Ringbuffer α} (h : rb.Linear) (hroom : rb.end + 1 < rb.size)
    (data : α) :
    ringbufferAdd rb data =
      (true, { rb with buffer := rb.buffer.set rb.end data, «end» := rb.end + 1 }) := by
  have hstart := h.start_le
  have hnext : ¬ rb.size ≤ rb.end + 1 := Nat.not_le.mpr hroom
  simp only [ringbufferAdd, if_neg hnext]
  rw [if_neg (by omega)]

/-- Storing behind the content and moving `end` keeps the ring linear. -/
theorem Ringbuffer.Linear.push {rb : Ringbuffer α} (h : rb.Linear)
    (hroom : rb.end + 1 < rb.size) (data : α) :
    Ringbuffer.Linear { rb with buffer := rb.buffer.set rb.end data, «end» := rb.end + 1 } where
  start_le := Nat.le_succ_of_le h.start_le
  end_lt := hroom
  buffer_length := by
    rw [List.length_set]
    exact h.buffer_length

/-- The cells up to `end`, after one more has been stored. -/
theorem take_set_end {rb : Ringbuffer α} (h : rb.Linear) (data : α) :
    (rb.buffer.set rb.end data).take (rb.end + 1) = rb.buffer.take rb.end ++ [data] := by
  have hlt : rb.end < (rb.buffer.set rb.end data).length := by
    rw [List.length_set, h.buffer_length]
    exact h.end_lt
  rw [List.take_succ_eq_append_getElem hlt, List.getElem_set_self, List.take_set_of_le le_rfl]

/-- Taking the oldest element of a linear ring. -/
theorem ringbufferGet_linear [Inhabited α] {rb : Ringbuffer α} (h : rb.Linear)
    (hne : rb.start < rb.end) :
    ringbufferGet rb =
      some (rb.buffer.getD rb.start default, { rb with start := rb.start + 1 }) := by
  have hend := h.end_lt
  have hempty : ¬ ringbufferIsEmpty rb = true := by
    simp only [ringbufferIsEmpty, beq_iff_eq]
    omega
  have hwrap : ¬ rb.size ≤ rb.start + 1 := by omega
  simp only [ringbufferGet, if_neg hempty, if_neg hwrap]

end Bricklib2
