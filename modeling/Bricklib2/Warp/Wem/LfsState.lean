/-
Bricklib2/Warp/Wem/LfsState.lean

What the functions of lfs.c work on, `lfs_t` with one open file (there is never more than one
at a time in sd.c), and the caches that the calls of the block device layer get.

Main result: `wp_lfsCtzTraverse`, every block of a file is handed to the callback once, from
the last to the first, although only every other one is read.
-/
import Bricklib2.Warp.Wem.LfsCtzList

namespace Bricklib2

open BinaryOnes Cells Fallible

/-! ### Data -/

/-- `lfs_file_t`; of the flags those that lfs.c sets itself and `LFS_O_APPEND`.  If no file is
open, none of them is set. -/
structure LfsFileT where
  head : ℕ := 0
  size : ℕ := 0
  pos : ℕ := 0
  block : ℕ := 0
  off : ℕ := 0
  cache : LfsCache := {}
  append : Bool := false
  dirty : Bool := false
  writing : Bool := false
  reading : Bool := false
  erred : Bool := false
  inline : Bool := false

/-- `struct lfs_lookahead` -/
structure LfsLookahead where
  start : ℕ := 0
  size : ℕ := 0
  next : ℕ := 0
  ckpoint : ℕ := 0
  buffer : ℕ → UInt8 := fun _ => 0

/-- `lfs_t` -/
structure LfsT where
  pcache : LfsCache := {}
  rcache : LfsCache := {}
  file : LfsFileT := {}
  lookahead : LfsLookahead := {}
  disk : LfsDisk

namespace LfsT

/-- The caches for a call with `&file->cache` and `&lfs->rcache`. -/
def bd (s : LfsT) : LfsBd := { pcache := s.file.cache, rcache := s.rcache, disk := s.disk }

/-- The caches go back to where they belong. -/
def setBd (b : LfsBd) (s : LfsT) : LfsT :=
  { s with file := { s.file with cache := b.pcache }, rcache := b.rcache, disk := b.disk }

/-- A call with `&file->cache` and `&lfs->rcache`. -/
def onBd {α : Type} (p : Fallible LfsError LfsBd α) : Fallible LfsError LfsT α := zoom bd setBd p

@[simp] theorem bd_setBd (b : LfsBd) (s : LfsT) : (s.setBd b).bd = b := rfl

@[simp] theorem lookahead_setBd (b : LfsBd) (s : LfsT) : (s.setBd b).lookahead = s.lookahead := rfl

end LfsT

/-! ### Traversing a file -/

section Functions

variable (cfg : LfsConfig) (blockCount : ℕ)

/-- A round of the loop in `lfs_ctz_traverse`, with `head` and `index`. -/
def lfsCtzTraverseRound (pcached : Bool) (cb : ℕ → Fallible LfsError LfsT Unit) (l : ℕ × ℕ) :
    Fallible LfsError LfsT ((ℕ × ℕ) ⊕ Unit) := do
  let (head, index) := l
  cb head
  if index = 0 then
    pure (.inr ())
  else do
    let count := 2 - index % 2
    let heads ← LfsT.onBd (lfsBdRead cfg blockCount pcached (count * 4) head 0 (count * 4))
    when (count = 2) (cb (lfsFromle32 (heads.take 4)))
    pure (.inl (lfsFromle32 ((heads.drop (4 * (count - 1))).take 4), lfsWord (index - count)))

/-- `lfs_ctz_traverse` -/
def lfsCtzTraverse (pcached : Bool) (head size : ℕ) (cb : ℕ → Fallible LfsError LfsT Unit) :
    Fallible LfsError LfsT Unit :=
  if size = 0 then
    pure ()
  else do
    let index := (lfsCtzIndex cfg.blockSize (lfsWord (size - 1))).1
    iterate (lfsCtzTraverseRound cfg blockCount pcached cb) (head, index)

end Functions

/-- A file: the block of each index up to the last one. -/
inductive LfsCtzFile (cfg : LfsConfig) (blockCount : ℕ) (known : LfsBlocks) :
    (head size : ℕ) → List ℕ → Prop
  | empty (head : ℕ) : LfsCtzFile cfg blockCount known head 0 []
  | blocks {size last o : ℕ} {chain : ℕ → ℕ} (hpos : 0 < size) (hsize : size < 2 ^ 32)
      (hlast : CtzPlace cfg.blockSize (size - 1) last o)
      (hlist : LfsCtzList blockCount known chain (last + 1)) :
      LfsCtzFile cfg blockCount known (chain last) size ((List.range (last + 1)).map chain)

/-- What a traversal is used for: `I` holds of the blocks so far, newest first, and the state.
The blocks that are read are some of `blocks`. -/
structure LfsVisitor (cfg : LfsConfig) (blockCount : ℕ) (pcached overlaid : Bool) (known : LfsBlocks)
    (blocks : ℕ → Prop) (cb : ℕ → Fallible LfsError LfsT Unit) (I : List ℕ → LfsT → Prop)
    (E : LfsError → LfsT → Prop) : Prop where
  visit : ∀ visited b s, I visited s → wp (cb b) (fun _ s' => I (b :: visited) s') E s
  readable : ∀ visited s, I visited s → s.bd.Readable cfg pcached overlaid known blocks
  read : ∀ visited s b, I visited s → s.bd.Read cfg b → b.Readable cfg pcached overlaid known blocks →
    I visited (s.setBd b)
  error : ∀ visited s e b, I visited s → s.bd.ReadError cfg e b → E e (s.setBd b)

section Traverse

variable {cfg : LfsConfig} {blockCount : ℕ} {known : LfsBlocks} {pcached overlaid : Bool}
  {blocks : ℕ → Prop} {cb : ℕ → Fallible LfsError LfsT Unit} {I : List ℕ → LfsT → Prop}
  {E : LfsError → LfsT → Prop} {chain : ℕ → ℕ} {last head size block : ℕ} {visited : List ℕ} {s : LfsT}

/-- A read in between. -/
theorem LfsVisitor.wp_read {hint off n : ℕ}
    (h : LfsVisitor cfg blockCount pcached overlaid known blocks cb I E) (hI : I visited s)
    (hin : blocks block) (hblock : LfsBlockValid blockCount block) (hhint : 0 < hint)
    (hle : hint ≤ cfg.blockSize) (hrange : off + n ≤ cfg.blockSize) :
    wp (LfsT.onBd (lfsBdRead cfg blockCount pcached hint block off n))
      (fun bytes s' => (bytes.length = n ∧ Matches (known block) off bytes) ∧ I visited s') E s := by
  rw [LfsT.onBd, wp_zoom]
  apply wp_mono ((h.readable _ _ hI).wp_read hin hblock hhint hle hrange)
  · rintro bytes b ⟨hbytes, hread, hreadable, -⟩
    exact ⟨hbytes, h.read _ _ _ hI hread hreadable⟩
  · exact fun e b he => h.error _ _ _ _ hI he

/-- The pointers of two blocks, read at once. -/
theorem LfsBlocks.Points.split {b x c : ℕ} {bytes : List UInt8} (h : known.Points b x c)
    (hlen : 4 * x + 4 ≤ bytes.length) (hmatches : Matches (known b) 0 bytes) :
    lfsFromle32 ((bytes.drop (4 * x)).take 4) = c := by
  apply h.fromle32
  · rw [List.length_take, List.length_drop]
    omega
  · intro k y hknown hk
    rw [List.length_take, List.length_drop] at hk
    rw [List.getElem?_take_of_lt (by omega), List.getElem?_drop]
    exact hmatches _ y (by rwa [Nat.zero_add]) (by omega)

/-- The loop is at block `l.2`, and the later ones have been visited. -/
structure LfsTraverseProgress (chain : ℕ → ℕ) (last : ℕ) (visited : List ℕ) (I : List ℕ → LfsT → Prop)
    (l : ℕ × ℕ) (s : LfsT) : Prop where
  head : l.1 = chain l.2
  le : l.2 ≤ last
  visited : I ((List.range' (l.2 + 1) (last - l.2)).map chain ++ visited) s

/-- One more block in front of those that have been visited. -/
theorem range'_map_pred (chain : ℕ → ℕ) {index : ℕ} (h : index ≤ last) :
    (List.range' index (last + 1 - index)).map chain =
      chain index :: (List.range' (index + 1) (last - index)).map chain := by
  rw [show last + 1 - index = (last - index) + 1 by omega, List.range'_succ, List.map_cons]

theorem wp_lfsCtzTraverseRound {l : ℕ × ℕ} (hlist : LfsCtzList blockCount known chain (last + 1))
    (hlast : last < 2 ^ 26) (hblocks : ∀ n ≤ last, blocks (chain n))
    (hcb : LfsVisitor cfg blockCount pcached overlaid known blocks cb I E)
    (h : LfsTraverseProgress chain last visited I l s) :
    wp (lfsCtzTraverseRound cfg blockCount pcached cb l)
      (fun r s' => r.elim
        (fun l' => LfsTraverseProgress chain last visited I l' s' ∧ l'.2 < l.2)
        (fun _ => I ((List.range (last + 1)).map chain ++ visited) s')) E s := by
  obtain ⟨head, index⟩ := l
  obtain rfl : head = chain index := h.head
  have hle : index ≤ last := h.le
  rw [lfsCtzTraverseRound, wp_bind]
  apply wp_mono (hcb.visit _ _ _ h.visited) _ fun e t he => he
  intro _ t ht
  rw [← List.cons_append, ← range'_map_pred chain hle] at ht
  refine wp_ite (fun hzero => ?_) fun hzero => ?_
  · rw [wp_pure]
    show I _ t
    rw [List.range_eq_range']
    rwa [hzero, Nat.sub_zero] at ht
  · have hge := cfg.blockSize_ge
    have hvalid := hlist.valid index (by omega)
    have hfirst := hlist.linked index 0 (by omega) (by omega) (Nat.zero_le _)
    rw [pow_zero] at hfirst
    rcases Nat.even_or_odd' index with ⟨k, rfl | rfl⟩
    · -- two pointers
      have hzeros : 1 ≤ trailingZeros (2 * k) := by
        rw [trailingZeros_two_mul (by omega)]
        exact Nat.le_add_left _ _
      have hsecond := hlist.linked (2 * k) 1 (by omega) (by omega) hzeros
      have hcount : 2 - 2 * k % 2 = 2 := by omega
      have hword : lfsWord ((2 * k : ℕ) - (2 : ℕ)) = 2 * k - 2 := by
        rw [← Nat.cast_sub (by omega), lfsWord_of_lt (by omega)]
      simp only [hcount, hword]
      rw [wp_bind]
      apply wp_mono (hcb.wp_read ht (hblocks _ hle) hvalid (by omega) (by omega) (by omega)) _
        fun e t he => he
      rintro bytes u ⟨⟨hlen, hmatches⟩, hu⟩
      have hheads : lfsFromle32 (bytes.take 4) = chain (2 * k - 1) :=
        hfirst.split (by omega) hmatches
      have hlastHead : lfsFromle32 ((bytes.drop (4 * (2 - 1))).take 4) = chain (2 * k - 2) :=
        hsecond.split (by omega) hmatches
      rw [wp_bind, hheads, hlastHead]
      refine wp_when (fun _ => ?_) fun hne => absurd trivial hne
      apply wp_mono (hcb.visit _ _ _ hu) _ fun e t he => he
      intro _ v hv
      rw [wp_pure]
      refine ⟨⟨rfl, by show 2 * k - 2 ≤ last; omega, ?_⟩, by show 2 * k - 2 < 2 * k; omega⟩
      show I ((List.range' (2 * k - 2 + 1) (last - (2 * k - 2))).map chain ++ visited) v
      have hmore := range'_map_pred chain (show 2 * k - 1 ≤ last by omega)
      rw [show 2 * k - 1 + 1 = 2 * k by omega, show last - (2 * k - 1) = last + 1 - 2 * k by omega]
        at hmore
      rw [show 2 * k - 2 + 1 = 2 * k - 1 by omega,
        show last - (2 * k - 2) = last + 1 - (2 * k - 1) by omega, hmore]
      exact hv
    · -- one pointer
      have hcount : 2 - (2 * k + 1) % 2 = 1 := by omega
      have hword : lfsWord ((2 * k + 1 : ℕ) - (1 : ℕ)) = 2 * k := by
        rw [← Nat.cast_sub (by omega), lfsWord_of_lt (by omega)]
        rfl
      simp only [hcount, hword]
      rw [wp_bind]
      apply wp_mono (hcb.wp_read ht (hblocks _ hle) hvalid (by omega) (by omega) (by omega)) _
        fun e t he => he
      rintro bytes u ⟨⟨hlen, hmatches⟩, hu⟩
      have hhead : lfsFromle32 ((bytes.drop (4 * (1 - 1))).take 4) = chain (2 * k) :=
        hfirst.split (by omega) hmatches
      rw [wp_bind, hhead]
      refine wp_when (fun h2 => absurd h2 (by decide)) fun _ => ?_
      rw [wp_pure]
      refine ⟨⟨rfl, by show 2 * k ≤ last; omega, ?_⟩, by show 2 * k < 2 * k + 1; omega⟩
      show I ((List.range' (2 * k + 1) (last - 2 * k)).map chain ++ visited) u
      rw [show last - 2 * k = last + 1 - (2 * k + 1) by omega]
      exact hu

/-- **Traversing a file.** -/
theorem wp_lfsCtzTraverse {file : List ℕ} (hfile : LfsCtzFile cfg blockCount known head size file)
    (hblocks : ∀ b ∈ file, blocks b)
    (hcb : LfsVisitor cfg blockCount pcached overlaid known blocks cb I E) (h : I visited s) :
    wp (lfsCtzTraverse cfg blockCount pcached head size cb)
      (fun _ s' => I (file ++ visited) s') E s := by
  cases hfile with
  | empty =>
    rw [lfsCtzTraverse, if_pos rfl, wp_pure]
    exact h
  | @blocks size last o chain hpos hsize hlast hlist =>
    have hge := cfg.blockSize_ge
    have hblockSize := cfg.blockSize_le
    have hbound := hlast.lt hge (show size - 1 < 2 ^ 32 by omega)
    have hword : lfsWord ((size : ℤ) - 1) = size - 1 := by
      have hcast : (size - 1 : ℤ) = ((size - 1 : ℕ) : ℤ) := by omega
      rw [hcast, lfsWord_of_lt (by omega)]
    have hin : ∀ n ≤ last, blocks (chain n) := fun n hn =>
      hblocks _ (List.mem_map_of_mem (List.mem_range.mpr (by omega)))
    rw [lfsCtzTraverse, if_neg hpos.ne', hword, hlast.lfsCtzIndex_eq hge (by omega) (by omega)]
    apply wp_iterate (I := LfsTraverseProgress chain last visited I) (fun l _ => l.2)
    · exact fun l t ht => wp_lfsCtzTraverseRound hlist hbound hin hcb ht
    · refine ⟨rfl, le_rfl, ?_⟩
      rw [Nat.sub_self]
      exact h

end Traverse

end Bricklib2
