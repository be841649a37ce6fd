/-
Bricklib2/Warp/Wem/LfsAlloc.lean

The block allocator of littlefs (lfs.c, from `lfs_alloc_ckpoint` to `lfs_alloc`).  A window of
the blocks has a bit for each of its blocks, which is set by a traversal of the file system.
Blocks that were handed out and are not yet part of the file system are in flight; the
window is kept short enough that none of them is in it.

Main result: `wp_lfsAlloc`, the allocator comes to an end and hands out a block that is neither
in use nor in flight, or it has come around to where it was at the last checkpoint and every
block has been in use or in flight since the allocator was dropped.
-/
import Bricklib2.Warp.Wem.LfsState

namespace Bricklib2

open Fallible

/-! ### The source -/

namespace LfsLookahead

/-- The bit of a block in the window. -/
def bit (l : LfsLookahead) (off : ℕ) : Bool := (l.buffer (off / 8)).toNat.testBit (off % 8)

/-- The bit of a block is set. -/
def setBit (l : LfsLookahead) (off : ℕ) : LfsLookahead :=
  { l with
    buffer :=
      Function.update l.buffer (off / 8) (l.buffer (off / 8) ||| UInt8.ofNat (2 ^ (off % 8))) }

/-- `lfs_alloc_ckpoint` -/
def checkpoint (blockCount : ℕ) (l : LfsLookahead) : LfsLookahead := { l with ckpoint := blockCount }

/-- `lfs_alloc_drop` -/
def drop (blockCount : ℕ) (l : LfsLookahead) : LfsLookahead :=
  { l with size := 0, next := 0, ckpoint := blockCount }

/-- `lfs_alloc_lookahead` -/
def mark (blockCount : ℕ) (block : ℕ) (l : LfsLookahead) : LfsLookahead :=
  let off := lfsWord (block - l.start + blockCount) % blockCount
  if off < l.size then l.setBit off else l

/-- The window that is scanned next; `lookaheadSize` is that of `struct lfs_config`. -/
def scan (blockCount lookaheadSize : ℕ) (l : LfsLookahead) : LfsLookahead :=
  { start := lfsWord (l.start + l.next : ℕ) % blockCount
    next := 0
    size := min (lfsWord (8 * lookaheadSize : ℕ)) l.ckpoint
    ckpoint := l.ckpoint
    buffer := fun _ => 0 }

/-- The next block is looked at. -/
def advance (l : LfsLookahead) : LfsLookahead :=
  { l with next := lfsWord (l.next + 1 : ℕ), ckpoint := lfsWord (l.ckpoint - 1) }

/-- The block at the place where the window is being searched. -/
def block (blockCount : ℕ) (l : LfsLookahead) : ℕ := lfsWord (l.start + l.next : ℕ) % blockCount

end LfsLookahead

section Functions

variable (blockCount lookaheadSize : ℕ)
  (traverse : (ℕ → Fallible LfsError LfsT Unit) → Fallible LfsError LfsT Unit)

/-- `lfs_alloc_ckpoint` -/
def lfsAllocCkpoint : Fallible LfsError LfsT Unit :=
  modify fun s => { s with lookahead := s.lookahead.checkpoint blockCount }

/-- `lfs_alloc_drop` -/
def lfsAllocDrop : Fallible LfsError LfsT Unit :=
  modify fun s => { s with lookahead := s.lookahead.drop blockCount }

/-- `lfs_alloc_lookahead` -/
def lfsAllocLookahead (block : ℕ) : Fallible LfsError LfsT Unit :=
  modify fun s => { s with lookahead := s.lookahead.mark blockCount block }

/-- A scan that fails leaves an empty lookahead buffer behind. -/
def lfsAllocScanned : Except LfsError Unit → Fallible LfsError LfsT Unit
  | .ok _ => pure ()
  | .error e => do
    lfsAllocDrop blockCount
    throw e

/-- `lfs_alloc_scan` -/
def lfsAllocScan : Fallible LfsError LfsT Unit := do
  modify fun s => { s with lookahead := s.lookahead.scan blockCount lookaheadSize }
  let err ← attempt (traverse (lfsAllocLookahead blockCount))
  lfsAllocScanned blockCount err

/-- `scan our lookahead buffer for free blocks` -/
def lfsAllocSearch : Fallible LfsError LfsT (Option ℕ) :=
  iterate
    (fun _ => do
      let s ← get
      if s.lookahead.next < s.lookahead.size then
        if s.lookahead.bit s.lookahead.next then do
          modify fun s => { s with lookahead := s.lookahead.advance }
          pure (.inl ())
        else
          pure (.inr (some (s.lookahead.block blockCount)))
      else
        pure (.inr none))
    ()

/-- `eagerly find next free block` -/
def lfsAllocEagerly : Fallible LfsError LfsT Unit :=
  iterate
    (fun _ => do
      modify fun s => { s with lookahead := s.lookahead.advance }
      let s ← get
      if s.lookahead.size ≤ s.lookahead.next ∨ ¬ s.lookahead.bit s.lookahead.next then
        pure (.inr ())
      else
        pure (.inl ()))
    ()

/-- A block that was found is the result, else the lookahead buffer is filled again. -/
def lfsAllocFound : Option ℕ → Fallible LfsError LfsT (Unit ⊕ ℕ)
  | some block => do
    lfsAllocEagerly
    pure (.inr block)
  | none => do
    let s ← get
    if s.lookahead.ckpoint = 0 then
      throw .nospc
    else do
      lfsAllocScan blockCount lookaheadSize traverse
      pure (.inl ())

/-- `lfs_alloc` -/
def lfsAlloc : Fallible LfsError LfsT ℕ :=
  iterate
    (fun _ => do
      let block ← lfsAllocSearch blockCount
      lfsAllocFound blockCount lookaheadSize traverse block)
    ()

end Functions

/-! ### Bits -/

namespace LfsLookahead

variable {l : LfsLookahead} {blockCount lookaheadSize off n b : ℕ}

theorem bit_setBit : (l.setBit off).bit n = (l.bit n || n = off) := by
  have hbuffer : (l.setBit off).buffer = Function.update l.buffer (off / 8)
    (l.buffer (off / 8) ||| UInt8.ofNat (2 ^ (off % 8))) := rfl
  rw [bit, bit, hbuffer]
  have hmod : off % 8 < 8 := Nat.mod_lt _ (by norm_num)
  have hpow : 2 ^ (off % 8) < 2 ^ 8 := Nat.pow_lt_pow_right (by norm_num) hmod
  rcases eq_or_ne (n / 8) (off / 8) with heq | hne
  · rw [heq, Function.update_self, UInt8.toNat_or, Nat.testBit_or, UInt8.toNat_ofNat',
      Nat.mod_eq_of_lt hpow, Nat.testBit_two_pow]
    congr 1
    rw [decide_eq_decide]
    omega
  · have hoff : n ≠ off := fun h => hne (h ▸ rfl)
    rw [Function.update_of_ne hne, decide_eq_false hoff, Bool.or_false]

@[simp] theorem start_mark : (l.mark blockCount b).start = l.start := by
  simp only [mark]
  split_ifs <;> rfl

@[simp] theorem size_mark : (l.mark blockCount b).size = l.size := by
  simp only [mark]
  split_ifs <;> rfl

@[simp] theorem next_mark : (l.mark blockCount b).next = l.next := by
  simp only [mark]
  split_ifs <;> rfl

@[simp] theorem ckpoint_mark : (l.mark blockCount b).ckpoint = l.ckpoint := by
  simp only [mark]
  split_ifs <;> rfl

/-- The offset of a block in the window, and the block of an offset. -/
theorem offset_eq_iff (hcount : blockCount ≤ 2 ^ 31) (hstart : l.start < blockCount)
    (hb : b < blockCount) (ho : off < blockCount) :
    lfsWord (b - l.start + blockCount) % blockCount = off ↔ (l.start + off) % blockCount = b := by
  have hword : lfsWord ((b : ℤ) - l.start + blockCount) = b + blockCount - l.start := by
    rw [lfsWord]
    omega
  rw [hword]
  constructor
  · intro h
    rcases Nat.lt_or_ge b l.start with hlt | hge
    · rw [Nat.mod_eq_of_lt (by omega)] at h
      rw [Nat.mod_eq_sub_mod (by omega), Nat.mod_eq_of_lt (by omega)]
      omega
    · rw [Nat.mod_eq_sub_mod (by omega), Nat.mod_eq_of_lt (by omega)] at h
      rw [Nat.mod_eq_of_lt (by omega)]
      omega
  · intro h
    rcases Nat.lt_or_ge (l.start + off) blockCount with hlt | hge
    · rw [Nat.mod_eq_of_lt hlt] at h
      rw [Nat.mod_eq_sub_mod (by omega), Nat.mod_eq_of_lt (by omega)]
      omega
    · rw [Nat.mod_eq_sub_mod hge, Nat.mod_eq_of_lt (by omega)] at h
      rw [Nat.mod_eq_of_lt (by omega)]
      omega

theorem bit_mark (hcount : blockCount ≤ 2 ^ 31) (hstart : l.start < blockCount) (hb : b < blockCount)
    (hn : n < l.size) (hsize : l.size ≤ blockCount) :
    (l.mark blockCount b).bit n = (l.bit n || (l.start + n) % blockCount = b) := by
  have hiff := offset_eq_iff hcount hstart hb (hn.trans_le hsize)
  simp only [mark]
  split_ifs with hlt
  · rw [bit_setBit]
    congr 1
    rw [decide_eq_decide, ← hiff]
    exact eq_comm
  · have hne : ¬ (l.start + n) % blockCount = b := by
      rw [← hiff]
      omega
    rw [decide_eq_false hne, Bool.or_false]

/-- The bits after some blocks have been marked. -/
theorem bit_foldr_mark {blocks : List ℕ} (hcount : blockCount ≤ 2 ^ 31) (hstart : l.start < blockCount)
    (hblocks : ∀ b ∈ blocks, b < blockCount) (hn : n < l.size) (hsize : l.size ≤ blockCount) :
    let l' := blocks.foldr (mark blockCount) l
    (l'.start = l.start ∧ l'.size = l.size ∧ l'.next = l.next ∧ l'.ckpoint = l.ckpoint) ∧
      l'.bit n = (l.bit n || (l.start + n) % blockCount ∈ blocks) := by
  induction blocks with
  | nil => simp
  | cons b blocks ih =>
    obtain ⟨⟨hs, hz, hnext, hckpoint⟩, hbit⟩ := ih fun b hb => hblocks b (List.mem_cons_of_mem _ hb)
    have hb := hblocks b List.mem_cons_self
    simp only [List.foldr_cons, start_mark, size_mark, next_mark, ckpoint_mark]
    refine ⟨⟨hs, hz, hnext, hckpoint⟩, ?_⟩
    rw [bit_mark hcount (hs ▸ hstart) hb (hz ▸ hn) (hz ▸ hsize), hbit, hs]
    rw [Bool.or_assoc, ← Bool.decide_or]
    congr 1
    rw [decide_eq_decide, List.mem_cons]
    exact or_comm

end LfsLookahead

/-! ### The window -/

/-- The window in a file system with the blocks `used`: blocks in flight are those that were
passed since the last checkpoint, and what has no bit can be handed out.  `taken` are the
blocks that have been in use or in flight. -/
structure LfsLookahead.Ok (blockCount : ℕ) (used inflight taken : Set ℕ) (l : LfsLookahead) : Prop where
  start_lt : l.start < blockCount
  next_le : l.next ≤ l.size
  size_le : l.size ≤ blockCount
  room : l.size ≤ l.next + l.ckpoint
  ckpoint_le : l.ckpoint ≤ blockCount
  used_lt : ∀ b ∈ used, b < blockCount
  used_taken : used ⊆ taken
  inflight_taken : inflight ⊆ taken
  free : ∀ o, l.next ≤ o → o < l.size → l.bit o = false →
    (l.start + o) % blockCount ∉ used ∪ inflight
  occupied : ∀ o, l.next ≤ o → o < l.size → l.bit o = true → (l.start + o) % blockCount ∈ taken
  inflight : ∀ b ∈ inflight, ∃ o, l.ckpoint ≤ o ∧ o < blockCount ∧
    b = (l.start + l.next + o) % blockCount
  passed : ∀ o, l.ckpoint ≤ o → o < blockCount → (l.start + l.next + o) % blockCount ∈ taken

/-- Offsets that are closer than the number of blocks are of different blocks. -/
theorem add_mod_ne {a i j n : ℕ} (hij : i < j) (hj : j < i + n) : (a + j) % n ≠ (a + i) % n := by
  intro heq
  have hmod : i ≡ j [MOD n] := Nat.ModEq.add_left_cancel' a heq.symm
  have hdvd := (Nat.modEq_iff_dvd' hij.le).mp hmod
  have hle := Nat.le_of_dvd (by omega) hdvd
  omega

namespace LfsLookahead.Ok

variable {blockCount lookaheadSize : ℕ} {used used' inflight inflight' taken taken' : Set ℕ}
  {l : LfsLookahead}

/-- The block at the place of the search. -/
theorem block_eq (h : l.Ok blockCount used inflight taken) (hcount : blockCount ≤ 2 ^ 31) :
    l.block blockCount = (l.start + l.next) % blockCount := by
  have hstart := h.start_lt
  have hnext := h.next_le
  have hsize := h.size_le
  rw [LfsLookahead.block, lfsWord_of_lt (by omega)]

/-- **Advancing** past a block, which may be in flight from now on. -/
theorem advance (h : l.Ok blockCount used inflight taken) (hcount : blockCount ≤ 2 ^ 31)
    (hlt : l.next < l.size) (hinflight : inflight' ⊆ insert (l.block blockCount) inflight)
    (htaken : taken ⊆ taken') (hblock : l.block blockCount ∈ taken') :
    l.advance.Ok blockCount used inflight' taken' ∧ l.advance.next = l.next + 1 ∧
      l.advance.ckpoint + 1 = l.ckpoint := by
  have hstart := h.start_lt
  have hsize := h.size_le
  have hroom := h.room
  have hckpoint := h.ckpoint_le
  have hnext_eq : l.advance.next = l.next + 1 := by
    rw [LfsLookahead.advance]
    exact lfsWord_of_lt (by omega)
  have hckpoint_eq : l.advance.ckpoint = l.ckpoint - 1 := by
    have hcast : (l.ckpoint - 1 : ℤ) = ((l.ckpoint - 1 : ℕ) : ℤ) := by omega
    rw [LfsLookahead.advance]
    show lfsWord _ = _
    rw [hcast, lfsWord_of_lt (by omega)]
  have hshift : ∀ o, l.advance.start + l.advance.next + o = l.start + l.next + (o + 1) := by
    intro o
    rw [hnext_eq]
    show l.start + _ + _ = _
    omega
  rw [h.block_eq hcount] at hinflight hblock
  refine ⟨⟨hstart, ?_, hsize, ?_, ?_, h.used_lt, h.used_taken.trans htaken, ?_, ?_, ?_, ?_, ?_⟩,
    hnext_eq, by omega⟩
  · rw [hnext_eq]
    exact hlt
  · rw [hnext_eq, hckpoint_eq]
    show l.size ≤ _
    omega
  · rw [hckpoint_eq]
    omega
  · intro b hb
    rcases hinflight hb with rfl | hb
    · exact hblock
    · exact htaken (h.inflight_taken hb)
  · intro o hlow hhigh hbit hmem
    rw [hnext_eq] at hlow
    have hhigh : o < l.size := hhigh
    rcases hmem with hmem | hmem
    · exact h.free o (by omega) hhigh hbit (.inl hmem)
    · rcases hinflight hmem with heq | hmem
      · exact add_mod_ne (by omega) (by omega) heq
      · exact h.free o (by omega) hhigh hbit (.inr hmem)
  · intro o hlow hhigh hbit
    rw [hnext_eq] at hlow
    exact htaken (h.occupied o (by omega) hhigh hbit)
  · intro b hb
    rw [hckpoint_eq]
    rcases hinflight hb with rfl | hb
    · refine ⟨blockCount - 1, by omega, by omega, ?_⟩
      rw [hshift, show blockCount - 1 + 1 = blockCount by omega, Nat.add_mod_right]
    · obtain ⟨o, hlow, hhigh, rfl⟩ := h.inflight b hb
      refine ⟨o - 1, by omega, by omega, ?_⟩
      rw [hshift, show o - 1 + 1 = o by omega]
  · intro o hlow hhigh
    rw [hckpoint_eq] at hlow
    rw [hshift]
    rcases Nat.lt_or_ge (o + 1) blockCount with hin | hout
    · exact htaken (h.passed (o + 1) (by omega) hin)
    · rw [show o + 1 = blockCount by omega, Nat.add_mod_right]
      exact hblock

/-- **Scanning**: the next window leaves out what is in flight, and what is in use gets its bit. -/
theorem scan {visited : List ℕ} (h : l.Ok blockCount used inflight taken) (hcount : blockCount ≤ 2 ^ 31)
    (hsizePos : 0 < lookaheadSize) (hsizeLt : lookaheadSize < 2 ^ 29) (hckpoint : 0 < l.ckpoint)
    (hvisited : ∀ b, b ∈ visited ↔ b ∈ used) :
    let l' := visited.foldr (mark blockCount) (l.scan blockCount lookaheadSize)
    l'.Ok blockCount used inflight taken ∧ l'.next < l'.size ∧ l'.ckpoint = l.ckpoint := by
  intro l'
  have hstart := h.start_lt
  have hnext := h.next_le
  have hsize := h.size_le
  have hckpoint_le := h.ckpoint_le
  have hcountPos : 0 < blockCount := by omega
  have hword : lfsWord (8 * lookaheadSize : ℕ) = 8 * lookaheadSize := lfsWord_of_lt (by omega)
  have hstart_eq : (l.scan blockCount lookaheadSize).start = (l.start + l.next) % blockCount := by
    rw [LfsLookahead.scan]
    show lfsWord _ % _ = _
    rw [lfsWord_of_lt (by omega)]
  have hsize_eq : (l.scan blockCount lookaheadSize).size = min (8 * lookaheadSize) l.ckpoint := by
    rw [LfsLookahead.scan, hword]
  have hbits : ∀ n < min (8 * lookaheadSize) l.ckpoint, _ := fun n hn =>
    bit_foldr_mark (l := l.scan blockCount lookaheadSize) (n := n) hcount
      (by rw [hstart_eq]; exact Nat.mod_lt _ hcountPos)
      (fun b hb => h.used_lt b ((hvisited b).mp hb)) (by rw [hsize_eq]; exact hn)
      (by rw [hsize_eq]; omega)
  have hbit : ∀ n < min (8 * lookaheadSize) l.ckpoint,
      l'.bit n = true ↔ (l.start + l.next + n) % blockCount ∈ used := by
    intro n hn
    have hn := (hbits n hn).2
    rw [hstart_eq, Nat.mod_add_mod] at hn
    have hzero : (l.scan blockCount lookaheadSize).bit n = false := Nat.zero_testBit _
    rw [hn, hzero, Bool.false_or, decide_eq_true_iff]
    exact hvisited _
  obtain ⟨hs, hz, hn, hc⟩ := (hbits 0 (by omega)).1
  rw [hstart_eq] at hs
  rw [hsize_eq] at hz
  have hn : l'.next = 0 := hn
  have hc : l'.ckpoint = l.ckpoint := hc
  have hplace : ∀ o, (l'.start + o) % blockCount = (l.start + l.next + o) % blockCount := by
    intro o
    rw [hs, Nat.mod_add_mod]
  refine ⟨⟨?_, ?_, ?_, ?_, ?_, h.used_lt, h.used_taken, h.inflight_taken, ?_, ?_, ?_, ?_⟩, ?_, hc⟩
  · rw [hs]
    exact Nat.mod_lt _ hcountPos
  · rw [hn]
    exact Nat.zero_le _
  · rw [hz]
    omega
  · rw [hz, hn, hc]
    omega
  · rw [hc]
    exact hckpoint_le
  · intro o _ hhigh hfree hmem
    rw [hz] at hhigh
    rw [hplace] at hmem
    rcases hmem with hmem | hmem
    · rw [(hbit o hhigh).mpr hmem] at hfree
      cases hfree
    · obtain ⟨o', hlow, hhigh', heq⟩ := h.inflight _ hmem
      exact add_mod_ne (by omega) (by omega) heq.symm
  · intro o _ hhigh hset
    rw [hz] at hhigh
    rw [hplace]
    exact h.used_taken ((hbit o hhigh).mp hset)
  · intro b hb
    rw [hn, hc, Nat.add_zero]
    obtain ⟨o, hlow, hhigh, rfl⟩ := h.inflight b hb
    exact ⟨o, hlow, hhigh, (hplace o).symm⟩
  · intro o hlow hhigh
    rw [hn, Nat.add_zero, hplace]
    exact h.passed o (hc ▸ hlow) hhigh
  · rw [hn, hz]
    omega

/-- A part of the blocks in flight goes into use, and others are not used any more. -/
theorem commit (h : l.Ok blockCount used inflight taken) (hused : used' ⊆ used ∪ inflight)
    (hlt : ∀ b ∈ used', b < blockCount) : l.Ok blockCount used' inflight taken where
  start_lt := h.start_lt
  next_le := h.next_le
  size_le := h.size_le
  room := h.room
  ckpoint_le := h.ckpoint_le
  used_lt := hlt
  used_taken := hused.trans (Set.union_subset h.used_taken h.inflight_taken)
  inflight_taken := h.inflight_taken
  free o hlow hhigh hbit hmem := by
    refine h.free o hlow hhigh hbit ?_
    rcases hmem with hmem | hmem
    · exact hused hmem
    · exact .inr hmem
  occupied := h.occupied
  inflight := h.inflight
  passed := h.passed

/-- Blocks in flight are given up. -/
theorem giveUp (h : l.Ok blockCount used inflight taken) (hsub : inflight' ⊆ inflight) :
    l.Ok blockCount used inflight' taken where
  start_lt := h.start_lt
  next_le := h.next_le
  size_le := h.size_le
  room := h.room
  ckpoint_le := h.ckpoint_le
  used_lt := h.used_lt
  used_taken := h.used_taken
  inflight_taken := hsub.trans h.inflight_taken
  free o hlow hhigh hbit hmem := by
    refine h.free o hlow hhigh hbit ?_
    rcases hmem with hmem | hmem
    · exact .inl hmem
    · exact .inr (hsub hmem)
  occupied := h.occupied
  inflight b hb := h.inflight b (hsub hb)
  passed := h.passed

/-- **A checkpoint**: nothing is in flight any more. -/
theorem checkpoint (h : l.Ok blockCount used inflight taken) :
    (l.checkpoint blockCount).Ok blockCount used ∅ taken where
  start_lt := h.start_lt
  next_le := h.next_le
  size_le := h.size_le
  room := h.size_le.trans (Nat.le_add_left _ _)
  ckpoint_le := le_rfl
  used_lt := h.used_lt
  used_taken := h.used_taken
  inflight_taken := Set.empty_subset _
  free o hlow hhigh hbit hmem := h.free o hlow hhigh hbit (hmem.imp id False.elim)
  occupied := h.occupied
  inflight _ hb := hb.elim
  passed _ hlow hhigh := absurd hhigh (not_lt.mpr hlow)

end LfsLookahead.Ok

/-- A window that is empty. -/
theorem LfsLookahead.ok_drop {blockCount : ℕ} {used taken : Set ℕ} {l : LfsLookahead}
    (hstart : l.start < blockCount) (hlt : ∀ b ∈ used, b < blockCount) (htaken : used ⊆ taken) :
    (l.drop blockCount).Ok blockCount used ∅ taken where
  start_lt := hstart
  next_le := le_rfl
  size_le := Nat.zero_le _
  room := Nat.zero_le _
  ckpoint_le := le_rfl
  used_lt := hlt
  used_taken := htaken
  inflight_taken := Set.empty_subset _
  free o _ hhigh := absurd hhigh (Nat.not_lt_zero o)
  occupied o _ hhigh := absurd hhigh (Nat.not_lt_zero o)
  inflight _ hb := hb.elim
  passed _ hlow hhigh := absurd hhigh (not_lt.mpr hlow)

/-! ### The allocator -/

/-- A traversal that visits the blocks in `used`, from all states with `P`. -/
structure LfsTraversal (blockCount : ℕ)
    (traverse : (ℕ → Fallible LfsError LfsT Unit) → Fallible LfsError LfsT Unit) (used : Set ℕ)
    (P : LfsT → Prop) (E : LfsError → LfsT → Prop) : Prop where
  frame : ∀ s l, P s → P { s with lookahead := l }
  error : ∀ e s l, E e s → E e { s with lookahead := l }
  visits : ∀ s, P s → wp (traverse (lfsAllocLookahead blockCount))
    (fun _ s' => P s' ∧ ∃ visited : List ℕ, (∀ b, b ∈ visited ↔ b ∈ used) ∧
      s'.lookahead = visited.foldr (LfsLookahead.mark blockCount) s.lookahead)
    (fun e s' => E e s' ∧ s'.lookahead.start = s.lookahead.start) s

section Alloc

variable {blockCount lookaheadSize : ℕ} {used inflight taken : Set ℕ}
  {traverse : (ℕ → Fallible LfsError LfsT Unit) → Fallible LfsError LfsT Unit}
  {P : LfsT → Prop} {E : LfsError → LfsT → Prop} {s : LfsT}

/-- What the search has found: the next block that can be handed out, or the end of the window. -/
structure LfsSearched (blockCount : ℕ) (used inflight taken : Set ℕ) (l : LfsLookahead)
    (block : Option ℕ) (l' : LfsLookahead) : Prop where
  ok : l'.Ok blockCount used inflight taken
  size : l'.size = l.size
  next : l'.next + l'.ckpoint = l.next + l.ckpoint
  none : block = none → l'.next = l'.size
  some : ∀ b, block = some b → l'.next < l'.size ∧ l'.bit l'.next = false ∧ b = l'.block blockCount

theorem wp_lfsAllocSearch (h : s.lookahead.Ok blockCount used inflight taken)
    (hcount : blockCount ≤ 2 ^ 31) (hP : P s) (hframe : ∀ s l, P s → P { s with lookahead := l })
    (R : LfsError → LfsT → Prop) :
    wp (lfsAllocSearch blockCount)
      (fun r s' => LfsSearched blockCount used inflight taken s.lookahead r s'.lookahead ∧ P s')
      R s := by
  apply wp_iterate
    (I := fun _ t => (t.lookahead.Ok blockCount used inflight taken ∧
      t.lookahead.size = s.lookahead.size ∧
      t.lookahead.next + t.lookahead.ckpoint = s.lookahead.next + s.lookahead.ckpoint) ∧ P t)
    (fun _ t => t.lookahead.size - t.lookahead.next)
  · rintro - t ⟨⟨hok, hsize, hnext⟩, ht⟩
    have hle := hok.next_le
    rw [wp_bind, wp_get]
    refine wp_ite (fun hlt => wp_ite (fun hbit => ?_) fun hbit => ?_) fun hge => ?_
    · obtain ⟨hok', hnext', hckpoint'⟩ := hok.advance hcount hlt (Set.subset_insert _ _)
        Set.Subset.rfl (by
          rw [hok.block_eq hcount]
          exact hok.occupied _ le_rfl hlt hbit)
      rw [wp_bind, wp_modify, wp_pure]
      refine ⟨⟨⟨hok', hsize, ?_⟩, hframe _ _ ht⟩, ?_⟩
      · show t.lookahead.advance.next + t.lookahead.advance.ckpoint = _
        omega
      · show t.lookahead.size - t.lookahead.advance.next < t.lookahead.size - t.lookahead.next
        omega
    · rw [wp_pure]
      refine ⟨⟨hok, hsize, hnext, nofun, ?_⟩, ht⟩
      rintro b ⟨⟩
      exact ⟨hlt, Bool.eq_false_iff.mpr hbit, rfl⟩
    · rw [wp_pure]
      exact ⟨⟨hok, hsize, hnext, fun _ => by omega, nofun⟩, ht⟩
  · exact ⟨⟨h, rfl, rfl⟩, hP⟩

/-- The window after a block has been handed out. -/
theorem wp_lfsAllocEagerly {b : ℕ} (h : s.lookahead.Ok blockCount used inflight taken)
    (hcount : blockCount ≤ 2 ^ 31) (hlt : s.lookahead.next < s.lookahead.size)
    (hb : b = s.lookahead.block blockCount) (hP : P s)
    (hframe : ∀ s l, P s → P { s with lookahead := l }) (R : LfsError → LfsT → Prop) :
    wp lfsAllocEagerly
      (fun _ s' => s'.lookahead.Ok blockCount used (insert b inflight) (insert b taken) ∧ P s')
      R s := by
  obtain ⟨hfirst, hfirstNext, -⟩ := h.advance hcount hlt (by rw [← hb]) (Set.subset_insert b taken)
    (hb ▸ Set.mem_insert _ _)
  apply wp_iterate
    (I := fun _ t => (t.lookahead.advance.Ok blockCount used (insert b inflight) (insert b taken) ∧
      t.lookahead.next < t.lookahead.size ∧ t.lookahead.advance.next = t.lookahead.next + 1) ∧ P t)
    (fun _ t => t.lookahead.size - t.lookahead.next)
  · rintro - t ⟨⟨hok, hlt, hnext⟩, ht⟩
    rw [wp_bind, wp_modify, wp_bind, wp_get]
    refine wp_ite (fun hend => ?_) fun hmore => ?_
    · rw [wp_pure]
      exact ⟨hok, hframe _ _ ht⟩
    · rw [not_or, not_not, not_le] at hmore
      obtain ⟨hin, hbit⟩ := hmore
      obtain ⟨hok', hnext', -⟩ := hok.advance hcount hin (Set.subset_insert _ _) Set.Subset.rfl (by
        rw [hok.block_eq hcount]
        exact hok.occupied _ le_rfl hin hbit)
      rw [wp_pure]
      refine ⟨⟨⟨hok', hin, hnext'⟩, hframe _ _ ht⟩, ?_⟩
      show t.lookahead.size - t.lookahead.advance.next < t.lookahead.size - t.lookahead.next
      omega
  · exact ⟨⟨hfirst, hlt, hfirstNext⟩, hP⟩

/-- A scan at the end of the window. -/
theorem wp_lfsAllocScan (h : s.lookahead.Ok blockCount used inflight taken)
    (hcount : blockCount ≤ 2 ^ 31) (hsizePos : 0 < lookaheadSize) (hsizeLt : lookaheadSize < 2 ^ 29)
    (hckpoint : 0 < s.lookahead.ckpoint)
    (ht : LfsTraversal blockCount traverse used P E) (hP : P s) :
    wp (lfsAllocScan blockCount lookaheadSize traverse)
      (fun _ s' => (s'.lookahead.Ok blockCount used inflight taken ∧
        s'.lookahead.next < s'.lookahead.size ∧ s'.lookahead.ckpoint = s.lookahead.ckpoint) ∧ P s')
      (fun e s' => s'.lookahead.Ok blockCount used ∅ taken ∧ E e s') s := by
  have hstart := h.start_lt
  rw [lfsAllocScan, wp_bind, wp_modify, wp_bind, wp_attempt]
  apply wp_mono (ht.visits _ (ht.frame _ _ hP))
  · rintro - t ⟨hPt, visited, hvisited, hlookahead⟩
    rw [lfsAllocScanned, wp_pure]
    refine ⟨?_, hPt⟩
    rw [hlookahead]
    exact h.scan hcount hsizePos hsizeLt hckpoint hvisited
  · rintro e t ⟨he, hstart_eq⟩
    rw [lfsAllocScanned, wp_bind, lfsAllocDrop, wp_modify, wp_throw]
    refine ⟨LfsLookahead.ok_drop ?_ h.used_lt h.used_taken, ht.error _ _ _ he⟩
    rw [hstart_eq]
    exact Nat.mod_lt _ (by omega)

/-- **Allocating a block.** -/
theorem wp_lfsAlloc (h : s.lookahead.Ok blockCount used inflight taken) (hcount : blockCount ≤ 2 ^ 31)
    (hsizePos : 0 < lookaheadSize) (hsizeLt : lookaheadSize < 2 ^ 29)
    (ht : LfsTraversal blockCount traverse used P E) (hP : P s) :
    wp (lfsAlloc blockCount lookaheadSize traverse)
      (fun b s' => (b < blockCount ∧ b ∉ used ∪ inflight) ∧
        s'.lookahead.Ok blockCount used (insert b inflight) (insert b taken) ∧ P s')
      (fun e s' => s'.lookahead.Ok blockCount used ∅ taken ∧
        (E e s' ∨ e = .nospc ∧ P s' ∧ ∀ b < blockCount, b ∈ taken)) s := by
  apply wp_iterate (I := fun _ t => t.lookahead.Ok blockCount used inflight taken ∧ P t)
    (fun _ t => 2 * t.lookahead.ckpoint + if t.lookahead.next < t.lookahead.size then 0 else 1)
  · rintro - t ⟨hok, hPt⟩
    have hroom := hok.room
    have hle := hok.next_le
    rw [wp_bind]
    apply wp_mono (wp_lfsAllocSearch hok hcount hPt ht.frame _) _ fun e u he => he
    rintro block u ⟨hsearched, hPu⟩
    have hok' := hsearched.ok
    have hsize := hsearched.size
    have hnext := hsearched.next
    have hroom' := hok'.room
    rcases block with - | b
    · -- the window has been searched
      have hend := hsearched.none rfl
      rw [lfsAllocFound, wp_bind, wp_get]
      refine wp_ite (fun hzero => ?_) fun hzero => ?_
      · rw [wp_throw]
        refine ⟨hok'.giveUp (Set.empty_subset _), .inr ⟨rfl, hPu, fun b hb => ?_⟩⟩
        have hstart := hok'.start_lt
        have hsize_le := hok'.size_le
        -- the place of the block in the round that was made since the checkpoint
        have hplace : ∃ o < blockCount, (u.lookahead.start + u.lookahead.next + o) % blockCount = b := by
          refine ⟨(b + 2 * blockCount - (u.lookahead.start + u.lookahead.next)) % blockCount,
            Nat.mod_lt _ (by omega), ?_⟩
          rw [Nat.add_mod_mod, show u.lookahead.start + u.lookahead.next +
            (b + 2 * blockCount - (u.lookahead.start + u.lookahead.next)) = b + blockCount * 2 by omega,
            Nat.add_mul_mod_self_left, Nat.mod_eq_of_lt hb]
        obtain ⟨o, ho, rfl⟩ := hplace
        exact hok'.passed o (by omega) ho
      · rw [wp_bind]
        apply wp_mono
          (wp_lfsAllocScan hok' hcount hsizePos hsizeLt (Nat.pos_of_ne_zero hzero) ht hPu)
        · rintro - v ⟨⟨hok'', hlt, hckpoint⟩, hPv⟩
          rw [wp_pure]
          refine ⟨⟨hok'', hPv⟩, ?_⟩
          rw [if_pos hlt]
          split_ifs <;> omega
        · exact fun e v he => ⟨he.1, .inl he.2⟩
    · obtain ⟨hlt, hbit, hb⟩ := hsearched.some b rfl
      have hfree := hok'.free _ le_rfl hlt hbit
      rw [lfsAllocFound, wp_bind]
      apply wp_mono (wp_lfsAllocEagerly hok' hcount hlt hb hPu ht.frame _) _ fun e v he => he
      rintro - v ⟨hok'', hPv⟩
      rw [wp_pure]
      rw [← hok'.block_eq hcount, ← hb] at hfree
      refine ⟨⟨?_, hfree⟩, hok'', hPv⟩
      rw [hb, hok'.block_eq hcount]
      have hstart := hok'.start_lt
      exact Nat.mod_lt _ (by omega)
  · exact ⟨h, hP⟩

end Alloc

end Bricklib2
