/-
Bricklib2/Warp/Wem/LfsTraverse.lean

Going through all blocks that are in use (`lfs_fs_traverse_` in lfs.c): the metadata pairs, which
are a list with its links on the medium, the files in them and the open file.  A list of pairs
that was damaged may have a cycle, and `Library/Brent` is what the source uses against that.

How a metadata pair is decoded is a parameter (`LfsDirOps`).

Main result: `wp_lfsFsTraverse`, whatever the pairs on the medium look like the traversal comes
to an end; if it succeeds it has visited all blocks that are in use and no others, and the
error for a cycle is reported only if there is one.
-/
import Bricklib2.Library.Brent
import Bricklib2.Warp.Wem.LfsState

namespace Bricklib2

open Brent Cells Fallible

/-! ### The source -/

/-- `lfs_pair_isnull` -/
def lfsPairIsnull (pair : ℕ × ℕ) : Prop := pair.1 = lfsBlockNull ∨ pair.2 = lfsBlockNull

/-- `lfs_pair_issync` -/
def lfsPairIssync (a b : ℕ × ℕ) : Prop := (a.1 = b.1 ∧ a.2 = b.2) ∨ (a.1 = b.2 ∧ a.2 = b.1)

instance : DecidablePred lfsPairIsnull := fun _ => inferInstanceAs (Decidable (_ ∨ _))

instance : DecidableRel lfsPairIssync := fun _ _ => inferInstanceAs (Decidable (_ ∨ _))

/-- What the entry of an id has, by the type of its tag. -/
inductive LfsStruct
  | ctz (head size : ℕ)
  | dir (pair : ℕ × ℕ)
  | inline

/-- `lfs_mdir_t`, `lfs_dir_fetch` and `lfs_dir_get` for the structs; no struct stands for
`LFS_ERR_NOENT`. -/
structure LfsDirOps (δ : Type) where
  tail : δ → ℕ × ℕ
  count : δ → ℕ
  fetch : ℕ × ℕ → Fallible LfsError LfsT δ
  get : δ → ℕ → Fallible LfsError LfsT (Option LfsStruct)

/-- The tortoise after `dir.tail`, with 32 bits for its numbers. -/
def lfsTortoise (w : Watch (ℕ × ℕ)) (tail : ℕ × ℕ) : Watch (ℕ × ℕ) :=
  if w.i = w.period then { tortoise := tail, period := lfsWord (w.period * 2 : ℕ) }
  else { w with i := lfsWord (w.i + 1 : ℕ) }

section Functions

variable (cfg : LfsConfig) (blockCount : ℕ) {δ : Type} (dirs : LfsDirOps δ)
  (cb : ℕ → Fallible LfsError LfsT Unit) (includeorphans : Bool)

/-- What is visited for an entry. -/
def lfsFsTraverseStruct : Option LfsStruct → Fallible LfsError LfsT Unit
  | some (.ctz head size) => lfsCtzTraverse cfg blockCount false head size cb
  | some (.dir pair) =>
    when includeorphans do
      cb pair.1
      cb pair.2
  | some .inline => pure ()
  | none => pure ()

/-- `iterate through ids in directory` -/
def lfsFsTraverseIds (dir : δ) : Fallible LfsError LfsT Unit :=
  iterate
    (fun id =>
      if dirs.count dir ≤ id then
        pure (.inr ())
      else do
        let tag ← dirs.get dir id
        lfsFsTraverseStruct cfg blockCount cb includeorphans tag
        pure (.inl (id + 1)))
    0

/-- A round of the loop over the metadata pairs. -/
def lfsFsTraverseRound (l : (ℕ × ℕ) × Watch (ℕ × ℕ)) :
    Fallible LfsError LfsT (((ℕ × ℕ) × Watch (ℕ × ℕ)) ⊕ Unit) :=
  if lfsPairIsnull l.1 then
    pure (.inr ())
  else if lfsPairIssync l.1 l.2.tortoise then
    throw .corrupt
  else do
    cb l.1.1
    cb l.1.2
    let dir ← dirs.fetch l.1
    lfsFsTraverseIds cfg blockCount dirs cb includeorphans dir
    pure (.inl (dirs.tail dir, lfsTortoise l.2 l.1))

/-- `lfs_fs_traverse_` -/
def lfsFsTraverse : Fallible LfsError LfsT Unit := do
  iterate (lfsFsTraverseRound cfg blockCount dirs cb includeorphans)
    ((0, 1), { tortoise := (lfsBlockNull, lfsBlockNull) })
  let s ← get
  when (s.file.dirty ∧ ¬ s.file.inline)
    (lfsCtzTraverse cfg blockCount true s.file.head s.file.size cb)
  let s ← get
  when (s.file.writing ∧ ¬ s.file.inline)
    (lfsCtzTraverse cfg blockCount true s.file.block s.file.pos cb)

end Functions

/-! ### What is on the medium -/

/-- The metadata pairs with their entries, as far as they can be decoded, and the blocks that
belong to the head and the size of a file. -/
structure LfsTree (δ : Type) where
  dir : ℕ × ℕ → Option δ
  entry : δ → ℕ → Option LfsStruct
  file : ℕ → ℕ → List ℕ

namespace LfsTree

variable {δ : Type} (tree : LfsTree δ) (dirs : LfsDirOps δ) (includeorphans : Bool)

/-- The pair behind a pair. -/
def next (pair : ℕ × ℕ) : ℕ × ℕ :=
  ((tree.dir pair).map dirs.tail).getD (lfsBlockNull, lfsBlockNull)

/-- The pairs in the order of the list. -/
def pair (n : ℕ) : ℕ × ℕ := (tree.next dirs)^[n] (0, 1)

/-- The blocks of an entry; here and below those that are visited first come last. -/
def structBlocks : Option LfsStruct → List ℕ
  | some (.ctz head size) => tree.file head size
  | some (.dir pair) => if includeorphans then [pair.2, pair.1] else []
  | some .inline => []
  | none => []

/-- The blocks of the first `n` entries of a pair. -/
def dirBlocks (dir : δ) : ℕ → List ℕ
  | 0 => []
  | n + 1 => tree.structBlocks includeorphans (tree.entry dir n) ++ dirBlocks dir n

/-- The blocks of a pair. -/
def pairBlocks (pair : ℕ × ℕ) : List ℕ :=
  ((tree.dir pair).elim [] fun dir => tree.dirBlocks includeorphans dir (dirs.count dir)) ++
    [pair.2, pair.1]

/-- The blocks of the first `n` pairs. -/
def blocks : ℕ → List ℕ
  | 0 => []
  | n + 1 => tree.pairBlocks dirs includeorphans (tree.pair dirs n) ++ blocks n

/-- The blocks of the open file, as far as they are not in its entry. -/
def openBlocks (f : LfsFileT) : List ℕ :=
  (if f.writing ∧ ¬ f.inline then tree.file f.block f.pos else []) ++
    if f.dirty ∧ ¬ f.inline then tree.file f.head f.size else []

/-- The list has `n` pairs. -/
structure Ends (n : ℕ) : Prop where
  null : lfsPairIsnull (tree.pair dirs n)
  pairs : ∀ m < n, ¬ lfsPairIsnull (tree.pair dirs m) ∧ (tree.dir (tree.pair dirs m)).isSome

/-- The list has pair `n`. -/
def Path (n : ℕ) : Prop := ∀ m ≤ n, ¬ lfsPairIsnull (tree.pair dirs m)

/-- The list comes back to a pair. -/
def Cyclic : Prop :=
  ∃ n, tree.Path dirs n ∧
    ∃ m < n, lfsPairIssync (tree.pair dirs n) (tree.pair dirs m)

/-- The list comes back to a pair, or it leads to one that cannot be decoded. -/
def Damaged : Prop :=
  tree.Cyclic dirs ∨
    ∃ n, tree.Path dirs n ∧ tree.dir (tree.pair dirs n) = none

variable {tree dirs includeorphans} {n : ℕ}

theorem pair_succ {dir : δ} (h : tree.dir (tree.pair dirs n) = some dir) :
    tree.pair dirs (n + 1) = dirs.tail dir := by
  rw [pair, Function.iterate_succ_apply', next]
  rw [pair] at h
  rw [h]
  rfl

/-- A list ends at one place. -/
theorem Ends.unique {m : ℕ} (h : tree.Ends dirs n) (h' : tree.Ends dirs m) : n = m := by
  rcases Nat.lt_trichotomy n m with hlt | heq | hlt
  · exact absurd h.null (h'.pairs n hlt).1
  · exact heq
  · exact absurd h'.null (h.pairs m hlt).1

/-- A list that ends is not damaged, if it does not matter which block of a pair comes first. -/
theorem Ends.not_damaged (h : tree.Ends dirs n) (hswap : ∀ a b, tree.dir (a, b) = tree.dir (b, a)) :
    ¬ tree.Damaged dirs := by
  rintro (⟨k, hpath, m, hm, hsync⟩ | ⟨k, hpath, hnone⟩)
  · have hlt : k < n := not_le.mp fun hle => hpath n hle h.null
    have hdir : tree.dir (tree.pair dirs k) = tree.dir (tree.pair dirs m) := by
      generalize tree.pair dirs k = a at hsync
      generalize tree.pair dirs m = b at hsync
      obtain ⟨a₁, a₂⟩ := a
      obtain ⟨b₁, b₂⟩ := b
      rcases hsync with ⟨rfl, rfl⟩ | ⟨rfl, rfl⟩
      · rfl
      · exact hswap _ _
    -- from there on the list is the same
    have hsame : ∀ i, tree.pair dirs (k + 1 + i) = tree.pair dirs (m + 1 + i) := by
      intro i
      induction i with
      | zero =>
        show tree.pair dirs (k + 1) = tree.pair dirs (m + 1)
        rw [pair, pair, Function.iterate_succ_apply', Function.iterate_succ_apply', next, next]
        rw [pair, pair] at hdir
        rw [hdir]
      | succ i ih =>
        rw [pair, pair] at ih
        rw [← Nat.add_assoc, ← Nat.add_assoc, pair, pair, Function.iterate_succ_apply',
          Function.iterate_succ_apply', ih]
    have hnull := h.null
    have heq := hsame (n - (k + 1))
    rw [show k + 1 + (n - (k + 1)) = n by omega] at heq
    rw [heq] at hnull
    exact (h.pairs _ (by omega)).1 hnull
  · have hlt : k < n := not_le.mp fun hle => hpath n hle h.null
    have hsome := (h.pairs k hlt).2
    rw [hnone] at hsome
    cases hsome

theorem mem_blocks_of_le {m b : ℕ} (hle : m ≤ n) (h : b ∈ tree.blocks dirs includeorphans m) :
    b ∈ tree.blocks dirs includeorphans n := by
  induction n, hle using Nat.le_induction with
  | base => exact h
  | succ n _ ih => exact List.mem_append_right _ ih

end LfsTree

/-- What the decoding of the pairs of the list has to do with the medium: it finds what is there,
and in between the traversal is not disturbed. -/
structure LfsDirOps.Reads {δ : Type} (dirs : LfsDirOps δ) (tree : LfsTree δ) (I : List ℕ → LfsT → Prop)
    (E : LfsError → LfsT → Prop) : Prop where
  fetch : ∀ visited s n, tree.Path dirs n → I visited s →
    wp (dirs.fetch (tree.pair dirs n))
      (fun dir s' => tree.dir (tree.pair dirs n) = some dir ∧ I visited s') E s
  get : ∀ visited s n dir id, tree.Path dirs n → tree.dir (tree.pair dirs n) = some dir →
    id < dirs.count dir → I visited s →
    wp (dirs.get dir id) (fun tag s' => tag = tree.entry dir id ∧ I visited s') E s

/-! ### Pairs -/

theorem not_lfsPairIssync_null {pair : ℕ × ℕ} (h : ¬ lfsPairIsnull pair) :
    ¬ lfsPairIssync pair (lfsBlockNull, lfsBlockNull) := by
  rintro (⟨hnull, -⟩ | ⟨hnull, -⟩)
  · exact h (.inl hnull)
  · exact h (.inl hnull)

theorem lfsPairIssync_refl (pair : ℕ × ℕ) : lfsPairIssync pair pair := .inl ⟨rfl, rfl⟩

theorem lfsTortoise_eq {w : Watch (ℕ × ℕ)} {tail : ℕ × ℕ} (hi : w.i < 2 ^ 31) (hperiod : w.period < 2 ^ 31) :
    lfsTortoise w tail = w.step tail := by
  rw [lfsTortoise, Watch.step, lfsWord_of_lt (by omega), lfsWord_of_lt (by omega)]

/-! ### The traversal -/

section Traverse

variable {cfg : LfsConfig} {blockCount : ℕ} {known : LfsBlocks} {overlaid : Bool} {δ : Type}
  {dirs : LfsDirOps δ} {tree : LfsTree δ} {blocks : ℕ → Prop}
  {cb : ℕ → Fallible LfsError LfsT Unit} {includeorphans : Bool} {I : List ℕ → LfsT → Prop}
  {E : LfsError → LfsT → Prop} {visited : List ℕ} {s : LfsT}

/-- The files of the list are where their entries say. -/
def LfsTree.FilesIn (tree : LfsTree δ) (dirs : LfsDirOps δ) (cfg : LfsConfig) (blockCount : ℕ)
    (known : LfsBlocks) (blocks : ℕ → Prop) : Prop :=
  ∀ n dir id head size, tree.Path dirs n → tree.dir (tree.pair dirs n) = some dir →
    id < dirs.count dir → tree.entry dir id = some (.ctz head size) →
      LfsCtzFile cfg blockCount known head size (tree.file head size) ∧
        ∀ b ∈ tree.file head size, blocks b

theorem wp_lfsFsTraverseStruct {tag : Option LfsStruct}
    (hcb : LfsVisitor cfg blockCount false overlaid known blocks cb I E)
    (hfile : ∀ head size, tag = some (.ctz head size) →
      LfsCtzFile cfg blockCount known head size (tree.file head size) ∧
        ∀ b ∈ tree.file head size, blocks b)
    (h : I visited s) :
    wp (lfsFsTraverseStruct cfg blockCount cb includeorphans tag)
      (fun _ s' => I (tree.structBlocks includeorphans tag ++ visited) s') E s := by
  rcases tag with - | ⟨head, size⟩ | pair | -
  · exact wp_pure.mpr h
  · obtain ⟨hctz, hblocks⟩ := hfile head size rfl
    exact wp_lfsCtzTraverse hctz hblocks hcb h
  · refine wp_when (fun horphans => ?_) fun horphans => ?_
    · rw [LfsTree.structBlocks, if_pos horphans, wp_bind]
      apply wp_mono (hcb.visit _ _ _ h) _ fun e t he => he
      exact fun _ t ht => hcb.visit _ _ _ ht
    · rw [LfsTree.structBlocks, if_neg horphans]
      exact h
  · exact wp_pure.mpr h

theorem wp_lfsFsTraverseIds {n : ℕ} {dir : δ}
    (hcb : LfsVisitor cfg blockCount false overlaid known blocks cb I E) (hdirs : dirs.Reads tree I E)
    (hfiles : tree.FilesIn dirs cfg blockCount known blocks) (hpath : tree.Path dirs n)
    (hdir : tree.dir (tree.pair dirs n) = some dir) (h : I visited s) :
    wp (lfsFsTraverseIds cfg blockCount dirs cb includeorphans dir)
      (fun _ s' => I (tree.dirBlocks includeorphans dir (dirs.count dir) ++ visited) s') E s := by
  apply wp_iterate
    (I := fun id t => id ≤ dirs.count dir ∧ I (tree.dirBlocks includeorphans dir id ++ visited) t)
    (fun id _ => dirs.count dir - id)
  · rintro id t ⟨hle, ht⟩
    refine wp_ite (fun hge => ?_) fun hlt => ?_
    · rw [wp_pure]
      obtain rfl : id = dirs.count dir := le_antisymm hle hge
      exact ht
    · have hlt : id < dirs.count dir := not_le.mp hlt
      rw [wp_bind]
      apply wp_mono (hdirs.get _ _ _ _ _ hpath hdir hlt ht) _ fun e u he => he
      rintro tag u ⟨rfl, hu⟩
      rw [wp_bind]
      apply wp_mono (wp_lfsFsTraverseStruct hcb
        (fun head size => hfiles _ _ _ _ _ hpath hdir hlt) hu) _ fun e v he => he
      rintro - v hv
      rw [wp_pure]
      refine ⟨⟨hlt, ?_⟩, by omega⟩
      rw [LfsTree.dirBlocks, List.append_assoc]
      exact hv
  · exact ⟨Nat.zero_le _, h⟩

/-- The loop is at pair `n`, and no cycle has been noticed. -/
structure LfsTailProgress (dirs : LfsDirOps δ) (tree : LfsTree δ) (includeorphans : Bool)
    (I : List ℕ → LfsT → Prop) (visited : List ℕ) (l : (ℕ × ℕ) × Watch (ℕ × ℕ)) (s : LfsT) (n : ℕ) :
    Prop where
  tail : l.1 = tree.pair dirs n
  tortoise : l.2 = watch (lfsBlockNull, lfsBlockNull) (tree.pair dirs) n
  pairs : ∀ m < n, ¬ lfsPairIsnull (tree.pair dirs m) ∧ (tree.dir (tree.pair dirs m)).isSome
  unnoticed : ∀ m < n, ¬ lfsPairIssync (tree.pair dirs m)
    (watch (lfsBlockNull, lfsBlockNull) (tree.pair dirs) m).tortoise
  visited : I (tree.blocks dirs includeorphans n ++ visited) s

/-- The numbers of the tortoise tell where the loop is. -/
theorem watch_numbers (start : ℕ × ℕ) (x : ℕ → ℕ × ℕ) (n : ℕ) :
    (watch start x n).i + (watch start x n).period = n + 2 := by
  obtain ⟨k, hlow, hhigh⟩ := exists_set n
  rw [watch_eq hlow hhigh]
  show n + 2 - 2 ^ k + 2 ^ k = n + 2
  omega

/-- A cycle does not go unnoticed for long. -/
theorem LfsTailProgress.le {l : (ℕ × ℕ) × Watch (ℕ × ℕ)} {n : ℕ} {pairs : Finset (ℕ × ℕ)}
    (h : LfsTailProgress dirs tree includeorphans I visited l s n)
    (hpairs : ∀ n, ¬ lfsPairIsnull (tree.pair dirs n) → tree.pair dirs n ∈ pairs) :
    n ≤ 3 * pairs.card := by
  by_contra hlt
  obtain ⟨m, hm, heq⟩ := exists_tortoise_eq (lfsBlockNull, lfsBlockNull) (n := n)
    (fun m hm => hpairs m (h.pairs m hm).1)
    (fun i j _ _ hij => by
      rw [LfsTree.pair, LfsTree.pair] at hij
      rw [LfsTree.pair, LfsTree.pair, Function.iterate_succ_apply', Function.iterate_succ_apply', hij])
    (show 3 * pairs.card + 1 ≤ n by omega)
  refine h.unnoticed m hm ?_
  rw [heq]
  exact lfsPairIssync_refl _

/-- **A round** visits one pair with everything in it. -/
theorem wp_lfsFsTraverseRound {pairs : Finset (ℕ × ℕ)} {l : (ℕ × ℕ) × Watch (ℕ × ℕ)} {n : ℕ}
    (hcb : LfsVisitor cfg blockCount false overlaid known blocks cb I E) (hdirs : dirs.Reads tree I E)
    (hfiles : tree.FilesIn dirs cfg blockCount known blocks)
    (hpairs : ∀ n, ¬ lfsPairIsnull (tree.pair dirs n) → tree.pair dirs n ∈ pairs)
    (hcard : 3 * pairs.card < 2 ^ 30)
    (hcycle : ∀ visited s, I visited s → tree.Cyclic dirs → E .corrupt s)
    (h : LfsTailProgress dirs tree includeorphans I visited l s n) :
    wp (lfsFsTraverseRound cfg blockCount dirs cb includeorphans l)
      (fun r s' => r.elim
        (fun l' => LfsTailProgress dirs tree includeorphans I visited l' s' (n + 1))
        (fun _ => tree.Ends dirs n ∧ I (tree.blocks dirs includeorphans n ++ visited) s')) E s := by
  have hpath : ¬ lfsPairIsnull l.1 → tree.Path dirs n := by
    intro hnull m hm
    rcases hm.eq_or_lt with rfl | hlt
    · rwa [← h.tail]
    · exact (h.pairs m hlt).1
  rw [lfsFsTraverseRound]
  refine wp_ite (fun hnull => ?_) fun hnull => wp_ite (fun hsync => ?_) fun hsync => ?_
  · rw [wp_pure]
    rw [h.tail] at hnull
    exact ⟨⟨hnull, h.pairs⟩, h.visited⟩
  · -- the pair that is remembered has been there before
    rw [wp_throw]
    apply hcycle _ _ h.visited
    refine ⟨n, hpath hnull, ?_⟩
    rw [h.tail] at hnull hsync
    rw [h.tortoise] at hsync
    rcases tortoise_eq (lfsBlockNull, lfsBlockNull) (tree.pair dirs) n with heq | ⟨m, hm, heq⟩
    · rw [heq] at hsync
      exact absurd hsync (not_lfsPairIssync_null hnull)
    · exact ⟨m, hm, heq ▸ hsync⟩
  · rw [wp_bind]
    apply wp_mono (hcb.visit _ _ _ h.visited) _ fun e t he => he
    rintro - t ht
    rw [wp_bind]
    apply wp_mono (hcb.visit _ _ _ ht) _ fun e u he => he
    rintro - u hu
    rw [wp_bind]
    have hfetch := hdirs.fetch _ _ n (hpath hnull) hu
    rw [← h.tail] at hfetch
    apply wp_mono hfetch _ fun e v he => he
    rintro dir v ⟨hdir, hv⟩
    rw [wp_bind]
    apply wp_mono (wp_lfsFsTraverseIds hcb hdirs hfiles (hpath hnull) (h.tail ▸ hdir) hv) _
      fun e w he => he
    rintro - w hw
    have hle := h.le hpairs
    have hnumbers := watch_numbers (lfsBlockNull, lfsBlockNull) (tree.pair dirs) n
    rw [← h.tortoise] at hnumbers
    rw [wp_pure]
    have hdir' := hdir
    rw [h.tail] at hdir hnull hsync
    refine ⟨(LfsTree.pair_succ hdir).symm, ?_, fun m hm => ?_, fun m hm => ?_, ?_⟩
    · show lfsTortoise l.2 l.1 = _
      rw [lfsTortoise_eq (by omega) (by omega), watch, ← h.tortoise, ← h.tail]
    · rcases (Nat.le_of_lt_succ hm).eq_or_lt with rfl | hlt
      · exact ⟨hnull, by rw [hdir]; rfl⟩
      · exact h.pairs m hlt
    · rcases (Nat.le_of_lt_succ hm).eq_or_lt with rfl | hlt
      · rwa [← h.tortoise]
      · exact h.unnoticed m hlt
    · rw [LfsTree.blocks, LfsTree.pairBlocks, ← h.tail, hdir', List.append_assoc, List.append_assoc]
      exact hw

/-- The loop over the pairs ends: there is a cycle, which is noticed, or there is not. -/
theorem wp_lfsFsTraversePairs {pairs : Finset (ℕ × ℕ)}
    (hcb : LfsVisitor cfg blockCount false overlaid known blocks cb I E) (hdirs : dirs.Reads tree I E)
    (hfiles : tree.FilesIn dirs cfg blockCount known blocks)
    (hpairs : ∀ n, ¬ lfsPairIsnull (tree.pair dirs n) → tree.pair dirs n ∈ pairs)
    (hcard : 3 * pairs.card < 2 ^ 30)
    (hcycle : ∀ visited s, I visited s → tree.Cyclic dirs → E .corrupt s) (h : I visited s) :
    wp (iterate (lfsFsTraverseRound cfg blockCount dirs cb includeorphans)
        ((0, 1), { tortoise := (lfsBlockNull, lfsBlockNull) }))
      (fun _ s' => ∃ n, tree.Ends dirs n ∧ I (tree.blocks dirs includeorphans n ++ visited) s') E s := by
  apply wp_iterate
    (I := fun l t => ∃ n, LfsTailProgress dirs tree includeorphans I visited l t n)
    (fun l _ => 3 * pairs.card + 3 - (l.2.i + l.2.period))
  · rintro l t ⟨n, ht⟩
    apply wp_mono (wp_lfsFsTraverseRound hcb hdirs hfiles hpairs hcard hcycle ht) _ fun e u he => he
    intro r u hr
    rcases r with l' | _
    · have hle := ht.le hpairs
      have hnumbers := watch_numbers (lfsBlockNull, lfsBlockNull) (tree.pair dirs) n
      have hnumbers' :=
        watch_numbers (lfsBlockNull, lfsBlockNull) (tree.pair dirs) (n + 1)
      rw [← ht.tortoise] at hnumbers
      have hr' : LfsTailProgress dirs tree includeorphans I visited l' u (n + 1) := hr
      rw [← hr'.tortoise] at hnumbers'
      exact ⟨⟨n + 1, hr⟩, by omega⟩
    · exact ⟨n, hr⟩
  · exact ⟨0, rfl, rfl, fun m hm => absurd hm (Nat.not_lt_zero m),
      fun m hm => absurd hm (Nat.not_lt_zero m), h⟩

/-- The blocks of the open file are where they should be. -/
structure LfsTree.OpenIn (tree : LfsTree δ) (cfg : LfsConfig) (blockCount : ℕ) (known : LfsBlocks)
    (f : LfsFileT) : Prop where
  dirty : f.dirty → ¬ f.inline → LfsCtzFile cfg blockCount known f.head f.size (tree.file f.head f.size)
  writing : f.writing → ¬ f.inline →
    LfsCtzFile cfg blockCount known f.block f.pos (tree.file f.block f.pos)

/-- **The traversal.** -/
theorem wp_lfsFsTraverse {pairs : Finset (ℕ × ℕ)} {f : LfsFileT}
    (hcb : LfsVisitor cfg blockCount false overlaid known blocks cb I E)
    (hopen : LfsVisitor cfg blockCount true overlaid known (fun _ => True) cb I E)
    (hdirs : dirs.Reads tree I E) (hfiles : tree.FilesIn dirs cfg blockCount known blocks)
    (hfile : tree.OpenIn cfg blockCount known f)
    (hpairs : ∀ n, ¬ lfsPairIsnull (tree.pair dirs n) → tree.pair dirs n ∈ pairs)
    (hcard : 3 * pairs.card < 2 ^ 30)
    (hcycle : ∀ visited s, I visited s → tree.Cyclic dirs → E .corrupt s)
    (hsame : ∀ visited s, I visited s → s.file = f) (h : I visited s) :
    wp (lfsFsTraverse cfg blockCount dirs cb includeorphans)
      (fun _ s' => ∃ n, tree.Ends dirs n ∧
        I (tree.openBlocks f ++ (tree.blocks dirs includeorphans n ++ visited)) s') E s := by
  rw [lfsFsTraverse, wp_bind]
  refine wp_mono (wp_lfsFsTraversePairs hcb hdirs hfiles hpairs hcard hcycle h) ?_ fun e t he => he
  rintro - t ⟨n, hends, ht⟩
  have hwriting : ∀ u, I ((if f.dirty ∧ ¬ f.inline then tree.file f.head f.size else []) ++
      (tree.blocks dirs includeorphans n ++ visited)) u →
      wp (do
        let s ← get
        when (s.file.writing ∧ ¬ s.file.inline)
          (lfsCtzTraverse cfg blockCount true s.file.block s.file.pos cb))
        (fun _ s' => ∃ n, tree.Ends dirs n ∧
          I (tree.openBlocks f ++ (tree.blocks dirs includeorphans n ++ visited)) s') E u := by
    intro u hu
    rw [wp_bind, wp_get, hsame _ _ hu]
    refine wp_when (fun hw => ?_) fun hw => ?_
    · refine wp_mono
        (wp_lfsCtzTraverse (hfile.writing hw.1 hw.2) (fun _ _ => trivial) hopen hu) ?_ fun e v he => he
      intro _ v hv
      refine ⟨n, hends, ?_⟩
      rw [LfsTree.openBlocks, if_pos hw, List.append_assoc]
      exact hv
    · refine ⟨n, hends, ?_⟩
      rw [LfsTree.openBlocks, if_neg hw]
      exact hu
  rw [wp_bind, wp_get, wp_bind, hsame _ _ ht]
  refine wp_when (fun hd => ?_) fun hd => ?_
  · refine wp_mono
      (wp_lfsCtzTraverse (hfile.dirty hd.1 hd.2) (fun _ _ => trivial) hopen ht) ?_ fun e u he => he
    intro _ u hu
    apply hwriting
    rw [if_pos hd]
    exact hu
  · apply hwriting
    rw [if_neg hd]
    exact ht

end Traverse

end Bricklib2
