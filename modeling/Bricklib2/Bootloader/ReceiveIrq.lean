/-
Bricklib2/Bootloader/ReceiveIrq.lean

The receive interrupts store their bytes with hand-written copies of `ringbuffer_add`:
the one of the bootloader (bootloader_xmc_irq.c, with a mask for the wrap-around and
an undo by subtraction) and the one of the RS485 driver, which tests before it stores.
Both copies count overflows on their own.

Main result: `receive_paths`, they leave the same items as `ringbuffer_add`.
-/
import Bricklib2.Utility.RingbufferQueue
import Bricklib2.Warp.Rs485

namespace Bricklib2

open CircularArray

/-! ### The bootloader -/

/-- `ringbuffer_recv` with its buffer, the overflow counter and the receive FIFO. -/
structure SpitfpReceive where
  ringbufferRecv : Ringbuffer UInt8
  errorCountOverflow : ℕ
  rxFifo : List UInt8

/-- The body of the loop; `mask` is `SPITFP_RECEIVE_BUFFER_MASK`. -/
def spitfpRxStore (mask : UInt16) (s : SpitfpReceive) (data : UInt8) : SpitfpReceive :=
  let rb := s.ringbufferRecv
  let rb := { rb with
    buffer := rb.buffer.set rb.end data
    «end» := ((UInt16.ofNat rb.end + 1) &&& mask).toNat }
  if rb.end = rb.start then
    { s with
      errorCountOverflow := s.errorCountOverflow + 1
      ringbufferRecv := { rb with «end» := ((UInt16.ofNat rb.end - 1) &&& mask).toNat } }
  else
    { s with ringbufferRecv := rb }

/-- `SPITFP_IRQ_RX_HANDLER` -/
def spitfpIrqRxHandler (mask : UInt16) (s : SpitfpReceive) : SpitfpReceive :=
  s.rxFifo.foldl (spitfpRxStore mask) { s with rxFifo := [] }

/-! ### Copies of `ringbuffer_add` -/

section Copies

variable {α σ : Type} [Inhabited α]

/-- The same items at the same place. -/
structure SameContent (rb rb' : Ringbuffer α) : Prop where
  start_eq : rb.start = rb'.start
  end_eq : rb.end = rb'.end
  size_eq : rb.size = rb'.size
  items_eq : rb.items = rb'.items

/-- A copy of `ringbuffer_add` for rings of one size: it stores where there is room, and
else leaves the content and counts. -/
structure StoresLikeAdd (size : ℕ) (ring : σ → Ringbuffer α) (overflows : σ → ℕ)
    (store : σ → α → σ) : Prop where
  room : ∀ s data, (ring s).size = size → (ring s).Valid →
    ringbufferGetUsed (ring s) + 1 < size →
    ring (store s data) = (ringbufferAdd (ring s) data).2 ∧ overflows (store s data) = overflows s
  full : ∀ s data, (ring s).size = size → (ring s).Valid →
    ringbufferGetUsed (ring s) + 1 = size →
    (ring (store s data)).Valid ∧ SameContent (ring (store s data)) (ring s) ∧
      overflows (store s data) = overflows s + 1

variable {size : ℕ} {ring : σ → Ringbuffer α} {overflows : σ → ℕ} {store : σ → α → σ}
  {rb rb' : Ringbuffer α}

theorem SameContent.used_eq (h : SameContent rb rb') :
    ringbufferGetUsed rb = ringbufferGetUsed rb' := by
  rw [ringbufferGetUsed, ringbufferGetUsed, h.start_eq, h.end_eq, h.size_eq]

/-- With room, one more item at the end. -/
theorem SameContent.add (h : SameContent rb rb') (hvalid : rb.Valid) (hvalid' : rb'.Valid)
    (hroom : ringbufferGetUsed rb + 1 < rb.size) (data : α) :
    SameContent (ringbufferAdd rb data).2 (ringbufferAdd rb' data).2 := by
  have hroom' : ringbufferGetUsed rb' + 1 < rb'.size := by
    rw [← h.used_eq, ← h.size_eq]
    exact hroom
  have hitems := items_add_room data hvalid hroom
  have hitems' := items_add_room data hvalid' hroom'
  refine ⟨?_, ?_, ?_, ?_⟩
  · rw [ringbufferAdd_room hvalid hroom, ringbufferAdd_room hvalid' hroom']
    exact h.start_eq
  · rw [ringbufferAdd_room hvalid hroom, ringbufferAdd_room hvalid' hroom']
    show advance rb.size rb.end = advance rb'.size rb'.end
    rw [h.size_eq, h.end_eq]
  · rw [ringbufferAdd_room hvalid hroom, ringbufferAdd_room hvalid' hroom']
    exact h.size_eq
  · rw [hitems, hitems', h.items_eq]

/-- The loop over such a copy is a loop over `ringbuffer_add`. -/
theorem StoresLikeAdd.foldl (hstores : StoresLikeAdd size ring overflows store) (bytes : List α)
    {s : σ} (hsize : (ring s).size = size) (hvalid : (ring s).Valid) (hvalid' : rb'.Valid)
    (h : SameContent (ring s) rb') :
    SameContent (ring (bytes.foldl store s))
        (bytes.foldl (fun rb data => (ringbufferAdd rb data).2) rb') ∧
      overflows (bytes.foldl store s) + rb'.overflows = overflows s +
        (bytes.foldl (fun rb data => (ringbufferAdd rb data).2) rb').overflows := by
  induction bytes generalizing s rb' with
  | nil => exact ⟨h, rfl⟩
  | cons data bytes ih =>
    have hsize' : rb'.size = size := h.size_eq ▸ hsize
    have hused' := h.used_eq
    have hlt := hvalid.used_lt
    rw [hsize] at hlt
    rcases Nat.lt_or_ge (ringbufferGetUsed (ring s) + 1) size with hroom | hfull
    · obtain ⟨hring, hcount⟩ := hstores.room s data hsize hvalid hroom
      have hroomRing : ringbufferGetUsed (ring s) + 1 < (ring s).size := hsize.symm ▸ hroom
      have hroom' : ringbufferGetUsed rb' + 1 < rb'.size := by
        rw [← hused', hsize']
        exact hroom
      have hsizeNext : (ring (store s data)).size = size := by
        rw [hring, ringbufferAdd_room hvalid hroomRing]
        exact hsize
      have hadd' : SameContent (ring (store s data)) (ringbufferAdd rb' data).2 := by
        rw [hring]
        exact h.add hvalid hvalid' hroomRing data
      obtain ⟨hcontent, hoverflows⟩ := ih hsizeNext (hring ▸ hvalid.add data) (hvalid'.add data) hadd'
      refine ⟨hcontent, ?_⟩
      have hcount' : (ringbufferAdd rb' data).2.overflows = rb'.overflows := by
        rw [ringbufferAdd_room hvalid' hroom']
      rw [hcount, hcount'] at hoverflows
      exact hoverflows
    · have hfullUsed : ringbufferGetUsed (ring s) + 1 = size := Nat.le_antisymm hlt hfull
      have hfull' : ringbufferGetUsed rb' + 1 = rb'.size := by
        rw [← hused', hsize']
        exact hfullUsed
      obtain ⟨hvalidNext, hkept, hcount⟩ := hstores.full s data hsize hvalid hfullUsed
      have hitems' := items_add_full data hvalid' hfull'
      have hadd' : SameContent (ring (store s data)) (ringbufferAdd rb' data).2 := by
        rw [ringbufferAdd_full hvalid' hfull'] at hitems' ⊢
        exact ⟨hkept.start_eq.trans h.start_eq, hkept.end_eq.trans h.end_eq,
          hkept.size_eq.trans h.size_eq, (hkept.items_eq.trans h.items_eq).trans hitems'.symm⟩
      obtain ⟨hcontent, hoverflows⟩ := ih (hkept.size_eq.trans hsize) hvalidNext
        (hvalid'.add data) hadd'
      refine ⟨hcontent, ?_⟩
      have hcount' : (ringbufferAdd rb' data).2.overflows = rb'.overflows + 1 := by
        rw [ringbufferAdd_full hvalid' hfull']
      rw [hcount, hcount'] at hoverflows
      show overflows (bytes.foldl store (store s data)) + rb'.overflows = overflows s +
        (bytes.foldl (fun rb data => (ringbufferAdd rb data).2) (ringbufferAdd rb' data).2).overflows
      omega

end Copies

/-! ### The copies -/

/-- For a power of two the mask is the remainder. -/
theorem and_mask {mask i : UInt16} {k : ℕ} (hmask : mask.toNat + 1 = 2 ^ k) :
    (i &&& mask).toNat = i.toNat % 2 ^ k := by
  have hmask' : mask.toNat = 2 ^ k - 1 := by omega
  rw [UInt16.toNat_and, hmask', Nat.and_two_pow_sub_one_eq_mod]

theorem advance_mask {mask : UInt16} {k i : ℕ} (hmask : mask.toNat + 1 = 2 ^ k) (hi : i < 2 ^ k) :
    ((UInt16.ofNat i + 1) &&& mask).toNat = advance (2 ^ k) i := by
  have hlt : mask.toNat < 65536 := mask.toNat_lt
  have hone : (1 : UInt16).toNat = 1 := rfl
  rw [and_mask hmask, UInt16.toNat_add, UInt16.toNat_ofNat', hone, advance]
  rcases Nat.lt_or_ge (i + 1) (2 ^ k) with hin | hwrap
  · have hvalue : (i % 2 ^ 16 + 1) % 2 ^ 16 = i + 1 := by omega
    rw [if_neg (by omega), hvalue, Nat.mod_eq_of_lt hin]
  · rw [if_pos hwrap]
    -- with a buffer of 65536 cells the sum itself wraps around
    rcases Nat.lt_or_ge (i + 1) 65536 with hsmall | hlarge
    · have hvalue : (i % 2 ^ 16 + 1) % 2 ^ 16 = 2 ^ k := by omega
      rw [hvalue, Nat.mod_self]
    · have hvalue : (i % 2 ^ 16 + 1) % 2 ^ 16 = 0 := by omega
      rw [hvalue, Nat.zero_mod]

theorem retreat_mask {mask : UInt16} {k i : ℕ} (hmask : mask.toNat + 1 = 2 ^ k) (hi : i < 2 ^ k) :
    ((UInt16.ofNat i - 1) &&& mask).toNat = retreat (2 ^ k) i := by
  have hlt : mask.toNat < 65536 := mask.toNat_lt
  rw [retreat]
  rcases Nat.eq_zero_or_pos i with rfl | hpos
  · have hall : (UInt16.ofNat 0 - 1) &&& mask = mask := UInt16.neg_one_and
    rw [hall, if_pos rfl]
    omega
  · have hone : (1 : UInt16).toNat = 1 := rfl
    have hvalue : (UInt16.ofNat i - 1).toNat = i - 1 := by
      rw [UInt16.toNat_sub, UInt16.toNat_ofNat', hone]
      omega
    rw [and_mask hmask, hvalue, if_neg (by omega), Nat.mod_eq_of_lt (by omega)]

theorem spitfpRxStore_storesLikeAdd {mask : UInt16} {k : ℕ} (hmask : mask.toNat + 1 = 2 ^ k) :
    StoresLikeAdd (2 ^ k) SpitfpReceive.ringbufferRecv SpitfpReceive.errorCountOverflow
      (spitfpRxStore mask) where
  room s data hsize hvalid hroom := by
    have hend : s.ringbufferRecv.end < 2 ^ k := hsize ▸ hvalid.end_lt
    have hnext : advance (2 ^ k) s.ringbufferRecv.end ≠ s.ringbufferRecv.start := by
      intro hmeet
      rw [← hsize] at hmeet hroom
      exact Nat.ne_of_lt hroom ((advance_end_eq_start hvalid).mp hmeet)
    rw [ringbufferAdd_room hvalid (hsize.symm ▸ hroom), spitfpRxStore]
    simp only [advance_mask hmask hend, if_neg hnext, hsize]
    exact ⟨trivial, trivial⟩
  full s data hsize hvalid hfull := by
    have hend : s.ringbufferRecv.end < 2 ^ k := hsize ▸ hvalid.end_lt
    have hmeet : advance (2 ^ k) s.ringbufferRecv.end = s.ringbufferRecv.start := by
      rw [← hsize] at hfull ⊢
      exact (advance_end_eq_start hvalid).mpr hfull
    have hback : retreat (2 ^ k) (advance (2 ^ k) s.ringbufferRecv.end) = s.ringbufferRecv.end :=
      retreat_advance hend
    have hstart : s.ringbufferRecv.start < 2 ^ k := hsize ▸ hvalid.start_lt
    -- what is undone is what `ringbuffer_add` undoes
    have hstore : spitfpRxStore mask s data = { s with
        errorCountOverflow := s.errorCountOverflow + 1
        ringbufferRecv := { s.ringbufferRecv with
          buffer := s.ringbufferRecv.buffer.set s.ringbufferRecv.end data } } := by
      rw [hmeet] at hback
      rw [spitfpRxStore]
      simp only [advance_mask hmask hend, if_pos hmeet]
      rw [hmeet, retreat_mask hmask hstart, hback]
    have hadd : ringbufferAdd s.ringbufferRecv data = _ :=
      ringbufferAdd_full hvalid (hfull.trans hsize.symm)
    have hitems := items_add_full data hvalid (hfull.trans hsize.symm)
    have hvalidAdd := hvalid.add data
    rw [hadd] at hitems hvalidAdd
    rw [hstore]
    exact ⟨⟨hvalid.start_lt, hvalid.end_lt, hvalidAdd.size_le⟩, ⟨rfl, rfl, rfl, hitems⟩, rfl⟩

instance : Inhabited RxByte := ⟨⟨0, 0, none⟩⟩

theorem rs485RxStore_storesLikeAdd (size : ℕ) :
    StoresLikeAdd size RS485.ringbufferRx RS485.errorCountOverrun rs485RxStore where
  room r data hsize hvalid hroom := by
    have hnext : advance r.ringbufferRx.size r.ringbufferRx.end ≠ r.ringbufferRx.start := by
      intro hmeet
      rw [← hsize] at hroom
      exact Nat.ne_of_lt hroom ((advance_end_eq_start hvalid).mp hmeet)
    have hstore : rs485RxStore r data = { r with ringbufferRx := { r.ringbufferRx with
        buffer := r.ringbufferRx.buffer.set r.ringbufferRx.end data
        «end» := advance r.ringbufferRx.size r.ringbufferRx.end } } := if_neg hnext
    rw [ringbufferAdd_room hvalid (hsize.symm ▸ hroom), hstore]
    exact ⟨rfl, rfl⟩
  full r data hsize hvalid hfull := by
    have hmeet : advance r.ringbufferRx.size r.ringbufferRx.end = r.ringbufferRx.start :=
      (advance_end_eq_start hvalid).mpr (hfull.trans hsize.symm)
    -- the byte is thrown away
    have hstore : rs485RxStore r data = { r with errorCountOverrun := r.errorCountOverrun + 1 } :=
      if_pos hmeet
    rw [hstore]
    exact ⟨hvalid, ⟨rfl, rfl, rfl, rfl⟩, rfl⟩

/-- **The receive paths.**  The interrupt of the bootloader, with a buffer whose size is a
power of two, the receive interrupt of the RS485 driver and the loop of its tick leave the
items that `ringbuffer_add` leaves, and count as many overflows. -/
theorem receive_paths :
    (∀ (mask : UInt16) (k : ℕ) (s : SpitfpReceive), mask.toNat + 1 = 2 ^ k →
      s.ringbufferRecv.size = 2 ^ k → s.ringbufferRecv.Valid →
        let added := s.rxFifo.foldl (fun rb data => (ringbufferAdd rb data).2) s.ringbufferRecv
        SameContent (spitfpIrqRxHandler mask s).ringbufferRecv added ∧
          (spitfpIrqRxHandler mask s).errorCountOverflow + s.ringbufferRecv.overflows =
            s.errorCountOverflow + added.overflows) ∧
      ∀ (now : ℕ) (r : RS485), r.ringbufferRx.Valid →
        let added := r.rxFifo.foldl (fun rb data => (ringbufferAdd rb data).2) r.ringbufferRx
        (SameContent (rs485RxIrqHandler now r).ringbufferRx added ∧
          (rs485RxIrqHandler now r).errorCountOverrun + r.ringbufferRx.overflows =
            r.errorCountOverrun + added.overflows) ∧
        SameContent (rs485RxLoop r).ringbufferRx added ∧
          (rs485RxLoop r).errorCountOverrun + r.ringbufferRx.overflows =
            r.errorCountOverrun + added.overflows := by
  have hrefl {α : Type} [Inhabited α] (rb : Ringbuffer α) : SameContent rb rb :=
    ⟨rfl, rfl, rfl, rfl⟩
  constructor
  · intro mask k s hmask hsize hvalid
    exact (spitfpRxStore_storesLikeAdd hmask).foldl s.rxFifo (s := { s with rxFifo := [] }) hsize
      hvalid hvalid (hrefl _)
  · intro now r hvalid
    have hloop := (rs485RxStore_storesLikeAdd r.ringbufferRx.size).foldl r.rxFifo
      (s := { r with rxFifo := [] }) rfl hvalid hvalid (hrefl _)
    exact ⟨hloop, hloop⟩

/-- Four cells with two items around the end, and three more bytes in the FIFO. -/
def wrappedReceive : SpitfpReceive := ⟨⟨0, 3, 1, 4, 4, [11, 12, 13, 10]⟩, 0, [21, 22, 23]⟩

/-- Three bytes that arrive in front of one interrupt. -/
def burst : List RxByte := [⟨31, 0, none⟩, ⟨32, 0, none⟩, ⟨33, 0, none⟩]

/-- One byte fits in the first ring, and two in the other one. -/
theorem receive_paths_burst :
    (spitfpIrqRxHandler 3 wrappedReceive).ringbufferRecv.items = [10, 11, 21] ∧
      (spitfpIrqRxHandler 3 wrappedReceive).errorCountOverflow = 2 ∧
      (rs485RxIrqHandler 0 { rs485InitBuffer 6 4 with rxFifo := burst }).ringbufferRx.items =
        [⟨31, 0, none⟩, ⟨32, 0, none⟩] ∧
      (rs485RxIrqHandler 0 { rs485InitBuffer 6 4 with rxFifo := burst }).errorCountOverrun = 1 := by
  obtain ⟨hcontent, hcount⟩ := receive_paths.1 3 2 wrappedReceive rfl rfl
    ⟨by decide, by decide, by decide⟩
  obtain ⟨⟨hcontent', hcount'⟩, -⟩ := receive_paths.2 0
    { rs485InitBuffer 6 4 with rxFifo := burst } ⟨by decide, by decide, by decide⟩
  exact ⟨hcontent.items_eq.trans (by decide), hcount.trans (by decide),
    hcontent'.items_eq.trans (by decide), hcount'.trans (by decide)⟩

end Bricklib2
