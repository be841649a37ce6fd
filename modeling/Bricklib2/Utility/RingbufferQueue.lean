/-
Bricklib2/Utility/RingbufferQueue.lean

The ring buffer as a queue.  `ringbuffer.c` is modelled once more with its 16-bit
indices (`Ringbuffer16`); it does the same as the ring over unbounded numbers as long
as the indices are below the size, and that ring keeps its items in a window of its
storage, as a `BoundedQueue` with one item less than cells.

Main result: `ringbuffer_queue`, about all sequences of calls.
-/
import Bricklib2.Library.BoundedQueue
import Bricklib2.Library.Machine
import Bricklib2.Utility.Ringbuffer

namespace Bricklib2

open CircularArray Machine

/-! ### 16-bit indices -/

/-- `Ringbuffer` with the integers of the source. -/
structure Ringbuffer16 where
  overflows : UInt32
  start : UInt16
  «end» : UInt16
  size : UInt16
  lowWatermark : UInt16
  buffer : List UInt8

/-- `ringbuffer_get_used` -/
def ringbufferGetUsed16 (rb : Ringbuffer16) : UInt16 :=
  if rb.end < rb.start then rb.size + rb.end - rb.start else rb.end - rb.start

/-- `ringbuffer_get_free`, which lowers the watermark. -/
def ringbufferGetFree16 (rb : Ringbuffer16) : UInt16 × Ringbuffer16 :=
  let free := rb.size - ringbufferGetUsed16 rb
  (free, if free < rb.lowWatermark then { rb with lowWatermark := free } else rb)

/-- `ringbuffer_is_empty` -/
def ringbufferIsEmpty16 (rb : Ringbuffer16) : Bool := rb.start == rb.end

/-- `ringbuffer_is_full` -/
def ringbufferIsFull16 (rb : Ringbuffer16) : Bool × Ringbuffer16 :=
  (decide ((ringbufferGetFree16 rb).1 < 2), (ringbufferGetFree16 rb).2)

/-- `ringbuffer_add`, with the byte stored before it is known whether there is room. -/
def ringbufferAdd16 (rb : Ringbuffer16) (data : UInt8) : Bool × Ringbuffer16 :=
  let rb := { rb with buffer := rb.buffer.set rb.end.toNat data, «end» := rb.end + 1 }
  let rb := if rb.end ≥ rb.size then { rb with «end» := 0 } else rb
  if rb.end = rb.start then
    let rb := { rb with overflows := rb.overflows + 1 }
    (false, if rb.end = 0 then { rb with «end» := rb.size - 1 } else { rb with «end» := rb.end - 1 })
  else
    (true, rb)

/-- `none` when the ring is empty. -/
def ringbufferGet16 (rb : Ringbuffer16) : Option UInt8 × Ringbuffer16 :=
  if ringbufferIsEmpty16 rb then
    (none, rb)
  else
    let data := rb.buffer.getD rb.start.toNat default
    let rb := { rb with start := rb.start + 1 }
    (some data, if rb.start ≥ rb.size then { rb with start := 0 } else rb)

/-- `ringbuffer_init` -/
def ringbufferInit16 (size : UInt16) (buffer : List UInt8) : Ringbuffer16 where
  overflows := 0
  start := 0
  «end» := 0
  size := size
  lowWatermark := size
  buffer := buffer

/-! ### Sequences of calls -/

/-- What `ringbuffer_init` is called with: memory for the size. -/
structure RingbufferStorage where
  size : UInt16
  buffer : List UInt8
  size_pos : 0 < size.toNat
  size_le : size.toNat ≤ buffer.length

/-- The calls of the module. -/
inductive RingbufferCall
  | init (storage : RingbufferStorage)
  | add (data : UInt8)
  | get
  | isEmpty
  | isFull
  | getUsed
  | getFree

/-- What a call returns. -/
inductive RingbufferAnswer
  | done
  | flag (value : Bool)
  | byte (data : Option UInt8)
  | count (value : ℕ)
  deriving DecidableEq

/-- A call of the module. -/
def ringbufferCall16 (rb : Ringbuffer16) : RingbufferCall → RingbufferAnswer × Ringbuffer16
  | .init storage => (.done, ringbufferInit16 storage.size storage.buffer)
  | .add data => (.flag (ringbufferAdd16 rb data).1, (ringbufferAdd16 rb data).2)
  | .get => (.byte (ringbufferGet16 rb).1, (ringbufferGet16 rb).2)
  | .isEmpty => (.flag (ringbufferIsEmpty16 rb), rb)
  | .isFull => (.flag (ringbufferIsFull16 rb).1, (ringbufferIsFull16 rb).2)
  | .getUsed => (.count (ringbufferGetUsed16 rb).toNat, rb)
  | .getFree => (.count (ringbufferGetFree16 rb).1.toNat, (ringbufferGetFree16 rb).2)

/-- A call to the ring over unbounded numbers. -/
def ringbufferCall (rb : Ringbuffer UInt8) : RingbufferCall → RingbufferAnswer × Ringbuffer UInt8
  | .init storage => (.done, ringbufferInit storage.size.toNat storage.buffer)
  | .add data => (.flag (ringbufferAdd rb data).1, (ringbufferAdd rb data).2)
  | .get =>
    match ringbufferGet rb with
    | none => (.byte none, rb)
    | some (data, rb) => (.byte (some data), rb)
  | .isEmpty => (.flag (ringbufferIsEmpty rb), rb)
  | .isFull => (.flag (ringbufferIsFull rb).1, (ringbufferIsFull rb).2)
  | .getUsed => (.count (ringbufferGetUsed rb), rb)
  | .getFree => (.count (ringbufferGetFree rb).1, (ringbufferGetFree rb).2)

/-! ### The purpose -/

/-- A bounded queue of bytes, and the free values that have been seen.  There is one cell
more than items fit in, which counts as free. -/
structure ByteQueue where
  queue : BoundedQueue UInt8
  observed : List ℕ

/-- The queue of a buffer that was just initialised. -/
def ByteQueue.init (size : ℕ) : ByteQueue := ⟨.make (size - 1), []⟩

/-- The places a buffer shows as free, one of which is never used. -/
def ByteQueue.free (q : ByteQueue) : ℕ := q.queue.capacity + 1 - q.queue.items.length

/-- The watermark is the least of what was observed as free. -/
def ByteQueue.observe (q : ByteQueue) : ByteQueue := { q with observed := q.free :: q.observed }

/-- A call as the queue has it. -/
def ByteQueue.call (q : ByteQueue) : RingbufferCall → RingbufferAnswer × ByteQueue
  | .init storage => (.done, .init storage.size.toNat)
  | .add data => (.flag (q.queue.offer data).1, { q with queue := (q.queue.offer data).2 })
  | .get => (.byte q.queue.poll.1, { q with queue := q.queue.poll.2 })
  | .isEmpty => (.flag (decide (q.queue.items = [])), q)
  | .isFull => (.flag (decide (q.queue.items.length = q.queue.capacity)), q.observe)
  | .getUsed => (.count q.queue.items.length, q)
  | .getFree => (.count q.free, q.observe)

/-! ### Valid rings -/

/-- The indices are below the size, and there is a cell for each of them. -/
structure Ringbuffer.Valid {α : Type} (rb : Ringbuffer α) : Prop where
  start_lt : rb.start < rb.size
  end_lt : rb.end < rb.size
  size_le : rb.size ≤ rb.buffer.length

/-- The items, the oldest one first. -/
def Ringbuffer.items {α : Type} [Inhabited α] (rb : Ringbuffer α) : List α :=
  window rb.buffer rb.size rb.start (ringbufferGetUsed rb)

section Unbounded

variable {α : Type} {rb : Ringbuffer α} {data : α}

theorem getUsed_eq_distance (rb : Ringbuffer α) :
    ringbufferGetUsed rb = distance rb.size rb.start rb.end := rfl

theorem Ringbuffer.Valid.used_lt (h : rb.Valid) : ringbufferGetUsed rb < rb.size :=
  distance_lt h.start_lt h.end_lt

/-- There is room exactly where advancing the end does not meet the start. -/
theorem advance_end_eq_start (h : rb.Valid) :
    advance rb.size rb.end = rb.start ↔ ringbufferGetUsed rb + 1 = rb.size :=
  advance_eq_start h.start_lt h.end_lt

/-- A ring that has room: the item is stored behind the others. -/
theorem ringbufferAdd_room (h : rb.Valid) (hroom : ringbufferGetUsed rb + 1 < rb.size) :
    ringbufferAdd rb data = (true, { rb with
      buffer := rb.buffer.set rb.end data
      «end» := advance rb.size rb.end }) := by
  have hnext : advance rb.size rb.end ≠ rb.start :=
    fun hmeet => Nat.ne_of_lt hroom ((advance_end_eq_start h).mp hmeet)
  exact if_neg hnext

/-- A full ring: the item goes to the cell that stays free. -/
theorem ringbufferAdd_full (h : rb.Valid) (hfull : ringbufferGetUsed rb + 1 = rb.size) :
    ringbufferAdd rb data = (false, { rb with
      buffer := rb.buffer.set rb.end data
      overflows := rb.overflows + 1 }) := by
  have hnext : advance rb.size rb.end = rb.start := (advance_end_eq_start h).mpr hfull
  have hback : retreat rb.size (advance rb.size rb.end) = rb.end := retreat_advance h.end_lt
  have hadd : ringbufferAdd rb data = (false, { rb with
      buffer := rb.buffer.set rb.end data
      overflows := rb.overflows + 1
      «end» := retreat rb.size (advance rb.size rb.end) }) := if_pos hnext
  rw [hadd, hback]

theorem Ringbuffer.Valid.add (h : rb.Valid) (data : α) : (ringbufferAdd rb data).2.Valid := by
  have hsize : rb.size ≤ (rb.buffer.set rb.end data).length := by
    rw [List.length_set]
    exact h.size_le
  rcases Nat.lt_or_ge (ringbufferGetUsed rb + 1) rb.size with hroom | hfull
  · rw [ringbufferAdd_room h hroom]
    exact ⟨h.start_lt, advance_lt h.end_lt, hsize⟩
  · rw [ringbufferAdd_full h (Nat.le_antisymm h.used_lt hfull)]
    exact ⟨h.start_lt, h.end_lt, hsize⟩

variable [Inhabited α]

theorem items_add_room (data : α) (h : rb.Valid)
    (hroom : ringbufferGetUsed rb + 1 < rb.size) :
    (ringbufferAdd rb data).2.items = rb.items ++ [data] := by
  have hnext : advance rb.size rb.end ≠ rb.start :=
    fun hmeet => Nat.ne_of_lt hroom ((advance_end_eq_start h).mp hmeet)
  have hend : slot rb.size rb.start (ringbufferGetUsed rb) = rb.end :=
    slot_distance h.start_lt h.end_lt
  have hpush := window_push data h.start_lt h.used_lt h.size_le
  rw [hend] at hpush
  rw [ringbufferAdd_room h hroom]
  show window (rb.buffer.set rb.end data) rb.size rb.start
    (distance rb.size rb.start (advance rb.size rb.end)) = _
  rw [distance_advance h.start_lt h.end_lt hnext]
  exact hpush

theorem items_add_full (data : α) (h : rb.Valid)
    (hfull : ringbufferGetUsed rb + 1 = rb.size) :
    (ringbufferAdd rb data).2.items = rb.items := by
  have hend : slot rb.size rb.start (ringbufferGetUsed rb) = rb.end :=
    slot_distance h.start_lt h.end_lt
  rw [ringbufferAdd_full h hfull, Ringbuffer.items, Ringbuffer.items]
  show window (rb.buffer.set rb.end data) rb.size rb.start (ringbufferGetUsed rb) = _
  rw [← hend]
  exact window_set data h.used_lt

theorem ringbufferGet_empty (h : rb.Valid) (hempty : ringbufferGetUsed rb = 0) :
    ringbufferGet rb = none := by
  have hstart : rb.start = rb.end := (distance_eq_zero h.start_lt).mp hempty
  rw [ringbufferGet, ringbufferIsEmpty, hstart, beq_self_eq_true, if_pos rfl]

/-- The oldest item is taken from the start. -/
theorem ringbufferGet_items (h : rb.Valid) (hne : ringbufferGetUsed rb ≠ 0) :
    ∃ data rb', ringbufferGet rb = some (data, rb') ∧ rb.items = data :: rb'.items ∧ rb'.Valid ∧
      rb' = { rb with start := advance rb.size rb.start } := by
  have hstart : rb.start ≠ rb.end := fun heq => hne ((distance_eq_zero h.start_lt).mpr heq)
  have hcount := distance_advance_start h.start_lt h.end_lt hstart
  refine ⟨rb.buffer.getD rb.start default, { rb with start := advance rb.size rb.start },
    ?_, ?_, ⟨advance_lt h.start_lt, h.end_lt, h.size_le⟩, rfl⟩
  · have hempty : ringbufferIsEmpty rb = false := beq_false_of_ne hstart
    rw [ringbufferGet, hempty, if_neg Bool.false_ne_true]
    rfl
  · have hlt := h.used_lt
    rw [getUsed_eq_distance, ← hcount] at hlt
    rw [Ringbuffer.items, getUsed_eq_distance, ← hcount, window_cons h.start_lt (by omega)]
    rfl

end Unbounded

/-! ### The ring is the queue -/

variable {rb : Ringbuffer UInt8} {rb16 : Ringbuffer16} {q : ByteQueue}

/-- The smallest of a size and of the numbers observed. -/
def lowest (size : ℕ) (observed : List ℕ) : ℕ := observed.foldr min size

/-- The ring keeps the queue. -/
structure KeepsQueue (rb : Ringbuffer UInt8) (q : ByteQueue) : Prop where
  valid : rb.Valid
  size_eq : rb.size = q.queue.capacity + 1
  items_eq : rb.items = q.queue.items
  overflows_eq : rb.overflows = q.queue.rejected
  low_eq : rb.lowWatermark = lowest rb.size q.observed

theorem KeepsQueue.used_eq (h : KeepsQueue rb q) :
    ringbufferGetUsed rb = q.queue.items.length := by
  rw [← h.items_eq, Ringbuffer.items, length_window]

theorem keepsQueue_init {size : ℕ} {buffer : List UInt8} (hpos : 0 < size)
    (hbuffer : size ≤ buffer.length) : KeepsQueue (ringbufferInit size buffer) (.init size) where
  valid := ⟨hpos, hpos, hbuffer⟩
  size_eq := (Nat.sub_add_cancel hpos).symm
  items_eq := rfl
  overflows_eq := rfl
  low_eq := rfl

theorem KeepsQueue.add (h : KeepsQueue rb q) (data : UInt8) :
    (ringbufferAdd rb data).1 = (q.queue.offer data).1 ∧
      KeepsQueue (ringbufferAdd rb data).2 { q with queue := (q.queue.offer data).2 } := by
  have hused := h.used_eq
  have hsize := h.size_eq
  rcases Nat.lt_or_ge q.queue.items.length q.queue.capacity with hroom | hfull
  · have hringRoom : ringbufferGetUsed rb + 1 < rb.size := by omega
    obtain ⟨hanswer, hitems, hrejected, hcapacity⟩ := BoundedQueue.offer_of_lt data hroom
    have hadd := items_add_room data h.valid hringRoom
    refine ⟨?_, h.valid.add data, ?_, ?_, ?_, ?_⟩
    · rw [ringbufferAdd_room h.valid hringRoom, hanswer]
    · rw [ringbufferAdd_room h.valid hringRoom]
      exact hsize.trans (congrArg (· + 1) hcapacity.symm)
    · rw [hadd, h.items_eq, hitems]
    · rw [ringbufferAdd_room h.valid hringRoom, hrejected]
      exact h.overflows_eq
    · rw [ringbufferAdd_room h.valid hringRoom]
      exact h.low_eq
  · have hlength : q.queue.items.length = q.queue.capacity :=
      Nat.le_antisymm q.queue.length_le hfull
    have hringFull : ringbufferGetUsed rb + 1 = rb.size := by omega
    have hadd := items_add_full data h.valid hringFull
    rw [BoundedQueue.offer_of_full data hlength]
    refine ⟨?_, h.valid.add data, ?_, ?_, ?_, ?_⟩
    · rw [ringbufferAdd_full h.valid hringFull]
    · rw [ringbufferAdd_full h.valid hringFull]
      exact hsize
    · exact hadd.trans h.items_eq
    · rw [ringbufferAdd_full h.valid hringFull]
      exact congrArg (· + 1) h.overflows_eq
    · rw [ringbufferAdd_full h.valid hringFull]
      exact h.low_eq

theorem KeepsQueue.getFree (h : KeepsQueue rb q) :
    (ringbufferGetFree rb).1 = q.free ∧ KeepsQueue (ringbufferGetFree rb).2 q.observe := by
  have hfree : rb.size - ringbufferGetUsed rb = q.free := by
    rw [h.used_eq, h.size_eq]
    rfl
  refine ⟨hfree, ?_⟩
  have hlow : lowest rb.size q.observe.observed = min q.free rb.lowWatermark := by
    rw [h.low_eq]
    rfl
  simp only [ringbufferGetFree, hfree]
  split
  · rename_i hless
    refine ⟨⟨h.valid.start_lt, h.valid.end_lt, h.valid.size_le⟩, h.size_eq, h.items_eq,
      h.overflows_eq, ?_⟩
    show q.free = lowest rb.size q.observe.observed
    rw [hlow, Nat.min_eq_left (Nat.le_of_lt hless)]
  · rename_i hless
    refine ⟨h.valid, h.size_eq, h.items_eq, h.overflows_eq, ?_⟩
    rw [hlow, Nat.min_eq_right (Nat.not_lt.mp hless)]

/-- One call. -/
theorem keepsQueue_call (h : KeepsQueue rb q) (call : RingbufferCall) :
    (ringbufferCall rb call).1 = (q.call call).1 ∧
      KeepsQueue (ringbufferCall rb call).2 (q.call call).2 := by
  have hused := h.used_eq
  have hsize := h.size_eq
  cases call with
  | init storage => exact ⟨rfl, keepsQueue_init storage.size_pos storage.size_le⟩
  | add data =>
    obtain ⟨hanswer, hkeeps⟩ := h.add data
    exact ⟨congrArg RingbufferAnswer.flag hanswer, hkeeps⟩
  | get =>
    simp only [ringbufferCall, ByteQueue.call, BoundedQueue.poll]
    by_cases hempty : ringbufferGetUsed rb = 0
    · have hitems : q.queue.items = [] := List.length_eq_zero_iff.mp (hused.symm.trans hempty)
      rw [ringbufferGet_empty h.valid hempty]
      refine ⟨?_, h.valid, h.size_eq, ?_, h.overflows_eq, h.low_eq⟩
      · rw [hitems]
        rfl
      · show rb.items = q.queue.items.tail
        rw [h.items_eq, hitems]
        rfl
    · obtain ⟨data, rb', hget, hitems, hvalid, rfl⟩ := ringbufferGet_items h.valid hempty
      rw [h.items_eq] at hitems
      rw [hget]
      refine ⟨?_, hvalid, h.size_eq, ?_, h.overflows_eq, h.low_eq⟩
      · rw [hitems]
        rfl
      · show Ringbuffer.items { rb with start := advance rb.size rb.start } = q.queue.items.tail
        rw [hitems]
        rfl
  | isEmpty =>
    refine ⟨?_, h⟩
    have hiff : rb.start = rb.end ↔ q.queue.items = [] := by
      rw [← distance_eq_zero h.valid.start_lt, ← List.length_eq_zero_iff, ← hused]
      rfl
    exact congrArg RingbufferAnswer.flag (decide_eq_decide.mpr hiff)
  | isFull =>
    obtain ⟨hfree, hkeeps⟩ := h.getFree
    refine ⟨?_, hkeeps⟩
    have hle := q.queue.length_le
    have hiff : (ringbufferGetFree rb).1 < 2 ↔ q.queue.items.length = q.queue.capacity := by
      rw [hfree, ByteQueue.free]
      omega
    exact congrArg RingbufferAnswer.flag (decide_eq_decide.mpr hiff)
  | getUsed => exact ⟨congrArg RingbufferAnswer.count hused, h⟩
  | getFree =>
    obtain ⟨hfree, hkeeps⟩ := h.getFree
    exact ⟨congrArg RingbufferAnswer.count hfree, hkeeps⟩

/-! ### 16 bits are enough -/

/-- The ring with 16-bit indices is the same as the other one; its overflows are
counted modulo `2 ^ 32`. -/
structure SameRing (rb16 : Ringbuffer16) (rb : Ringbuffer UInt8) : Prop where
  overflows_eq : rb16.overflows = UInt32.ofNat rb.overflows
  start_eq : rb16.start.toNat = rb.start
  end_eq : rb16.end.toNat = rb.end
  size_eq : rb16.size.toNat = rb.size
  low_eq : rb16.lowWatermark.toNat = rb.lowWatermark
  buffer_eq : rb16.buffer = rb.buffer

/-- The index behind `i`. -/
def advance16 (size i : UInt16) : UInt16 := if size ≤ i + 1 then 0 else i + 1

/-- The index in front of `i`. -/
def retreat16 (size i : UInt16) : UInt16 := if i = 0 then size - 1 else i - 1

/-- Below the size the index does not wrap around at 16 bits. -/
theorem toNat_advance16 {size i : UInt16} (h : i.toNat < size.toNat) :
    (advance16 size i).toNat = advance size.toNat i.toNat := by
  have hsize : size.toNat < 65536 := size.toNat_lt
  have hnext : (i + 1).toNat = i.toNat + 1 := by
    have hone : (1 : UInt16).toNat = 1 := rfl
    rw [UInt16.toNat_add, hone]
    exact Nat.mod_eq_of_lt (by omega)
  rw [advance16, advance, apply_ite UInt16.toNat, hnext]
  refine if_congr ?_ rfl rfl
  rw [UInt16.le_iff_toNat_le, hnext]

theorem toNat_retreat16 {size i : UInt16} (h : 0 < size.toNat) :
    (retreat16 size i).toNat = retreat size.toNat i.toNat := by
  have hsize : size.toNat < 65536 := size.toNat_lt
  have hi : i.toNat < 65536 := i.toNat_lt
  have hzero : i = 0 ↔ i.toNat = 0 := UInt16.toNat_inj.symm
  have hone : (1 : UInt16).toNat = 1 := rfl
  rw [retreat16, retreat, apply_ite UInt16.toNat, UInt16.toNat_sub, UInt16.toNat_sub, hone]
  split_ifs with hleft hright hright
  · omega
  · exact absurd (hzero.mp hleft) hright
  · exact absurd (hzero.mpr hright) hleft
  · omega

theorem ringbufferAdd16_eq (rb : Ringbuffer16) (data : UInt8) :
    ringbufferAdd16 rb data =
      if advance16 rb.size rb.end = rb.start then
        (false, { rb with
          buffer := rb.buffer.set rb.end.toNat data
          overflows := rb.overflows + 1
          «end» := retreat16 rb.size (advance16 rb.size rb.end) })
      else
        (true, { rb with
          buffer := rb.buffer.set rb.end.toNat data
          «end» := advance16 rb.size rb.end }) := by
  simp only [ringbufferAdd16, advance16, retreat16, ge_iff_le]
  split_ifs <;> rfl

theorem ringbufferGet16_eq (rb : Ringbuffer16) :
    ringbufferGet16 rb =
      if rb.start = rb.end then (none, rb)
      else (some (rb.buffer.getD rb.start.toNat default),
        { rb with start := advance16 rb.size rb.start }) := by
  simp only [ringbufferGet16, ringbufferIsEmpty16, beq_iff_eq, advance16, ge_iff_le]
  split_ifs <;> rfl

section Same

variable (h : SameRing rb16 rb) (hvalid : rb.Valid)

include h hvalid

theorem SameRing.used : (ringbufferGetUsed16 rb16).toNat = ringbufferGetUsed rb := by
  obtain ⟨hstart, hend, -⟩ := hvalid
  have hsize : rb16.size.toNat < 65536 := rb16.size.toNat_lt
  rw [← h.start_eq, ← h.size_eq] at hstart
  rw [← h.end_eq, ← h.size_eq] at hend
  rw [ringbufferGetUsed16, ringbufferGetUsed, apply_ite UInt16.toNat, UInt16.toNat_sub,
    UInt16.toNat_sub, UInt16.toNat_add, ← h.start_eq, ← h.end_eq, ← h.size_eq]
  simp only [UInt16.lt_iff_toNat_lt]
  split
  · omega
  · omega

theorem SameRing.add (data : UInt8) :
    (ringbufferAdd16 rb16 data).1 = (ringbufferAdd rb data).1 ∧
      SameRing (ringbufferAdd16 rb16 data).2 (ringbufferAdd rb data).2 := by
  have hendLt : rb16.end.toNat < rb16.size.toNat := by
    rw [h.end_eq, h.size_eq]
    exact hvalid.end_lt
  have hnext : (advance16 rb16.size rb16.end).toNat = advance rb.size rb.end := by
    rw [toNat_advance16 hendLt, h.size_eq, h.end_eq]
  have hback : (retreat16 rb16.size (advance16 rb16.size rb16.end)).toNat =
      retreat rb.size (advance rb.size rb.end) := by
    rw [toNat_retreat16 (by omega), hnext, h.size_eq]
  have hiff : advance16 rb16.size rb16.end = rb16.start ↔ advance rb.size rb.end = rb.start := by
    rw [← UInt16.toNat_inj, hnext, h.start_eq]
  have hbuffer : rb16.buffer.set rb16.end.toNat data = rb.buffer.set rb.end data := by
    rw [h.buffer_eq, h.end_eq]
  have hadd : ringbufferAdd rb data =
      if advance rb.size rb.end = rb.start then
        (false, { rb with
          buffer := rb.buffer.set rb.end data
          overflows := rb.overflows + 1
          «end» := retreat rb.size (advance rb.size rb.end) })
      else
        (true, { rb with
          buffer := rb.buffer.set rb.end data
          «end» := advance rb.size rb.end }) := rfl
  rw [ringbufferAdd16_eq, hadd]
  by_cases hmeet : advance rb.size rb.end = rb.start
  · rw [if_pos hmeet, if_pos (hiff.mpr hmeet)]
    refine ⟨rfl, ?_, h.start_eq, hback, h.size_eq, h.low_eq, hbuffer⟩
    show rb16.overflows + 1 = UInt32.ofNat (rb.overflows + 1)
    rw [UInt32.ofNat_add, h.overflows_eq]
    rfl
  · rw [if_neg hmeet, if_neg (mt hiff.mp hmeet)]
    exact ⟨rfl, h.overflows_eq, h.start_eq, hnext, h.size_eq, h.low_eq, hbuffer⟩

theorem SameRing.getFree :
    (ringbufferGetFree16 rb16).1.toNat = (ringbufferGetFree rb).1 ∧
      SameRing (ringbufferGetFree16 rb16).2 (ringbufferGetFree rb).2 := by
  have hused := h.used hvalid
  have hless := hvalid.used_lt
  have hsize : rb16.size.toNat < 65536 := rb16.size.toNat_lt
  have hfree : (rb16.size - ringbufferGetUsed16 rb16).toNat = rb.size - ringbufferGetUsed rb := by
    rw [UInt16.toNat_sub, hused, h.size_eq]
    have hsizeEq := h.size_eq
    omega
  refine ⟨hfree, ?_⟩
  have hlow : rb16.size - ringbufferGetUsed16 rb16 < rb16.lowWatermark ↔
      rb.size - ringbufferGetUsed rb < rb.lowWatermark := by
    rw [UInt16.lt_iff_toNat_lt, hfree, h.low_eq]
  simp only [ringbufferGetFree16, ringbufferGetFree]
  by_cases hlower : rb.size - ringbufferGetUsed rb < rb.lowWatermark
  · rw [if_pos hlower, if_pos (hlow.mpr hlower)]
    exact ⟨h.overflows_eq, h.start_eq, h.end_eq, h.size_eq, hfree, h.buffer_eq⟩
  · rw [if_neg hlower, if_neg (mt hlow.mp hlower)]
    exact h

/-- One call. -/
theorem SameRing.call (call : RingbufferCall) :
    (ringbufferCall16 rb16 call).1 = (ringbufferCall rb call).1 ∧
      SameRing (ringbufferCall16 rb16 call).2 (ringbufferCall rb call).2 := by
  have hempty : rb16.start = rb16.end ↔ rb.start = rb.end := by
    rw [← UInt16.toNat_inj, h.start_eq, h.end_eq]
  cases call with
  | init storage => exact ⟨rfl, rfl, rfl, rfl, rfl, rfl, rfl⟩
  | add data =>
    obtain ⟨hanswer, hsame⟩ := h.add hvalid data
    exact ⟨congrArg RingbufferAnswer.flag hanswer, hsame⟩
  | get =>
    simp only [ringbufferCall16, ringbufferCall, ringbufferGet16_eq, ringbufferGet,
      ringbufferIsEmpty, beq_iff_eq]
    by_cases heq : rb.start = rb.end
    · rw [if_pos heq, if_pos (hempty.mpr heq)]
      exact ⟨rfl, h⟩
    · have hstartLt : rb16.start.toNat < rb16.size.toNat := by
        rw [h.start_eq, h.size_eq]
        exact hvalid.start_lt
      have hnext : (advance16 rb16.size rb16.start).toNat = advance rb.size rb.start := by
        rw [toNat_advance16 hstartLt, h.size_eq, h.start_eq]
      rw [if_neg heq, if_neg (mt hempty.mp heq), h.buffer_eq, h.start_eq]
      exact ⟨rfl, h.overflows_eq, hnext, h.end_eq, h.size_eq, h.low_eq, rfl⟩
  | isEmpty => exact ⟨congrArg RingbufferAnswer.flag (decide_eq_decide.mpr hempty), h⟩
  | isFull =>
    obtain ⟨hfree, hsame⟩ := h.getFree hvalid
    refine ⟨?_, hsame⟩
    have hfull : (ringbufferGetFree16 rb16).1 < 2 ↔ (ringbufferGetFree rb).1 < 2 := by
      rw [UInt16.lt_iff_toNat_lt, hfree]
      rfl
    exact congrArg RingbufferAnswer.flag (decide_eq_decide.mpr hfull)
  | getUsed => exact ⟨congrArg RingbufferAnswer.count (h.used hvalid), h⟩
  | getFree =>
    obtain ⟨hfree, hsame⟩ := h.getFree hvalid
    exact ⟨congrArg RingbufferAnswer.count hfree, hsame⟩

end Same

/-! ### All sequences of calls -/

/-- The ring is a queue with room for one item less than its size. -/
structure IsQueue (rb : Ringbuffer16) (q : ByteQueue) : Prop where
  start_lt : rb.start < rb.size
  end_lt : rb.end < rb.size
  capacity_eq : q.queue.capacity = rb.size.toNat - 1
  items_eq : q.queue.items =
    window rb.buffer rb.size.toNat rb.start.toNat (ringbufferGetUsed16 rb).toNat
  overflows_eq : rb.overflows = UInt32.ofNat q.queue.rejected
  low_eq : rb.lowWatermark.toNat = lowest rb.size.toNat q.observed

theorem isQueue_of_keeps (hsame : SameRing rb16 rb) (h : KeepsQueue rb q) : IsQueue rb16 q where
  start_lt := by
    rw [UInt16.lt_iff_toNat_lt, hsame.start_eq, hsame.size_eq]
    exact h.valid.start_lt
  end_lt := by
    rw [UInt16.lt_iff_toNat_lt, hsame.end_eq, hsame.size_eq]
    exact h.valid.end_lt
  capacity_eq := by
    rw [hsame.size_eq, h.size_eq, Nat.add_sub_cancel]
  items_eq := by
    rw [hsame.buffer_eq, hsame.size_eq, hsame.start_eq, hsame.used h.valid]
    exact h.items_eq.symm
  overflows_eq := by
    rw [hsame.overflows_eq, h.overflows_eq]
  low_eq := by
    rw [hsame.low_eq, hsame.size_eq]
    exact h.low_eq

/-- **The ring buffer.**  Whatever is called, the ring answers as the bounded queue
does, and keeps its items. -/
theorem ringbuffer_queue (storage : RingbufferStorage) (calls : List RingbufferCall) :
    (transduce ringbufferCall16 (ringbufferInit16 storage.size storage.buffer) calls).1 =
        (transduce ByteQueue.call (.init storage.size.toNat) calls).1 ∧
      IsQueue (transduce ringbufferCall16 (ringbufferInit16 storage.size storage.buffer) calls).2
        (transduce ByteQueue.call (.init storage.size.toNat) calls).2 := by
  have hstep (rb16 : Ringbuffer16) (q : ByteQueue) (call : RingbufferCall)
      (h : ∃ rb, SameRing rb16 rb ∧ KeepsQueue rb q) :
      (ringbufferCall16 rb16 call).1 = (q.call call).1 ∧
        ∃ rb, SameRing (ringbufferCall16 rb16 call).2 rb ∧ KeepsQueue rb (q.call call).2 := by
    obtain ⟨rb, hsame, hkeeps⟩ := h
    obtain ⟨hanswer, hsame'⟩ := hsame.call hkeeps.valid call
    obtain ⟨hanswer', hkeeps'⟩ := keepsQueue_call hkeeps call
    exact ⟨hanswer.trans hanswer', _, hsame', hkeeps'⟩
  have hinit : ∃ rb, SameRing (ringbufferInit16 storage.size storage.buffer) rb ∧
      KeepsQueue rb (.init storage.size.toNat) :=
    ⟨ringbufferInit storage.size.toNat storage.buffer, ⟨rfl, rfl, rfl, rfl, rfl, rfl⟩,
      keepsQueue_init storage.size_pos storage.size_le⟩
  obtain ⟨hanswers, rb, hsame, hkeeps⟩ := transduce_simulates hstep hinit calls
  exact ⟨hanswers, isQueue_of_keeps hsame hkeeps⟩

end Bricklib2
