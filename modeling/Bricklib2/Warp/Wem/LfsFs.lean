/-
Bricklib2/Warp/Wem/LfsFs.lean

The file system on the medium as the traversal of lfs.c finds it.

Main result: `lfsFsTraverse_ends`, the traversal succeeds exactly if the list of metadata pairs
comes to an end and all of them can be decoded, and then its callback has got every block that
is in use; otherwise it reports the damage instead of following the list forever.
-/
import Bricklib2.Warp.Wem.LfsBdRuns
import Bricklib2.Warp.Wem.LfsTraverse

namespace Bricklib2

open Cells Fallible

/-! ### The file system -/

/-- What the blocks hold, and the metadata pairs with their files. -/
structure LfsFs (δ : Type) where
  known : LfsBlocks
  tree : LfsTree δ

section Fs

variable {δ : Type}

/-- The blocks of the file system without those of the open file. -/
def LfsFs.live (fs : LfsFs δ) (dirs : LfsDirOps δ) : Set ℕ :=
  {b | ∃ n, (∀ m < n, ¬ lfsPairIsnull (fs.tree.pair dirs m) ∧
    (fs.tree.dir (fs.tree.pair dirs m)).isSome) ∧ b ∈ fs.tree.blocks dirs true n}

/-- The blocks of the file system and of the open file. -/
def LfsFs.used (fs : LfsFs δ) (dirs : LfsDirOps δ) (f : LfsFileT) : Set ℕ :=
  {b | b ∈ fs.tree.openBlocks f ∨ b ∈ fs.live dirs}

/-- Decoding the pairs of the list gives what is known, and all it changes is the read cache. -/
structure LfsDirOps.Decodes (cfg : LfsConfig) (dirs : LfsDirOps δ) (fs : LfsFs δ) : Prop where
  fetch : ∀ s n, fs.tree.Path dirs n → s.bd.Ok cfg → s.bd.Shows true fs.known →
    wp (dirs.fetch (fs.tree.pair dirs n))
      (fun dir s' => fs.tree.dir (fs.tree.pair dirs n) = some dir ∧
        ∃ b, s' = s.setBd b ∧ s.bd.Read cfg b ∧ b.Shows true fs.known)
      (fun e s' => (e = .corrupt ∧ fs.tree.dir (fs.tree.pair dirs n) = none ∨ s.disk.Fails e) ∧
        ∃ b, s' = s.setBd b ∧ s.bd.Read cfg b) s
  get : ∀ s n dir id, fs.tree.Path dirs n → fs.tree.dir (fs.tree.pair dirs n) = some dir →
    id < dirs.count dir → s.bd.Ok cfg → s.bd.Shows true fs.known →
    wp (dirs.get dir id)
      (fun tag s' => tag = fs.tree.entry dir id ∧
        ∃ b, s' = s.setBd b ∧ s.bd.Read cfg b ∧ b.Shows true fs.known)
      (fun e s' => s.disk.Fails e ∧ ∃ b, s' = s.setBd b ∧ s.bd.Read cfg b) s

/-- The file system is the one on the medium, and the block in the cache of the open file is
not one of another file. -/
structure LfsFs.In (fs : LfsFs δ) (cfg : LfsConfig) (blockCount : ℕ) (dirs : LfsDirOps δ) (s : LfsT) :
    Prop where
  readable : s.bd.Readable cfg false true fs.known (· ≠ s.file.cache.block)
  files : fs.tree.FilesIn dirs cfg blockCount fs.known (· ≠ s.file.cache.block)
  opened : fs.tree.OpenIn cfg blockCount fs.known s.file
  pairs : ∃ pairs : Finset (ℕ × ℕ), 3 * pairs.card < 2 ^ 30 ∧
    ∀ n, ¬ lfsPairIsnull (fs.tree.pair dirs n) → fs.tree.pair dirs n ∈ pairs
  used_lt : ∀ b ∈ fs.used dirs s.file, b < blockCount
  decodes : dirs.Decodes cfg fs

variable {cfg : LfsConfig} {blockCount lookaheadSize : ℕ} {dirs : LfsDirOps δ} {fs : LfsFs δ} {s : LfsT}

/-- A read leaves the open file as it is. -/
theorem LfsBd.Read.file_setBd {b : LfsBd} (h : s.bd.Read cfg b) : (s.setBd b).file = s.file := by
  show { s.file with cache := b.pcache } = s.file
  rw [h.pcache]
  rfl

theorem LfsFs.In.setBd {b : LfsBd} (h : fs.In cfg blockCount dirs s) (hread : s.bd.Read cfg b)
    (hreadable : b.Readable cfg false true fs.known (· ≠ s.file.cache.block)) :
    fs.In cfg blockCount dirs (s.setBd b) := by
  have hfile := hread.file_setBd
  exact ⟨by rw [hfile]; exact hreadable, by rw [hfile]; exact h.files, by rw [hfile]; exact h.opened,
    h.pairs, by rw [hfile]; exact h.used_lt, h.decodes⟩

theorem LfsFs.In.lookahead (h : fs.In cfg blockCount dirs s) (l : LfsLookahead) :
    fs.In cfg blockCount dirs { s with lookahead := l } :=
  ⟨h.readable, h.files, h.opened, h.pairs, h.used_lt, h.decodes⟩

/-- Only the read cache has changed. -/
theorem LfsBd.Readable.of_read {b b' : LfsBd} {known : LfsBlocks} {blocks : ℕ → Prop}
    (h : b.Readable cfg false true known blocks) (hread : b.Read cfg b') (hshows : b'.Shows true known) :
    b'.Readable cfg false true known blocks := by
  refine ⟨hread.ok, hshows, ?_, ?_⟩
  · rw [hread.pcache]
    exact h.unit
  · rw [hread.pcache]
    exact h.overlaid

/-- The blocks of a list that ends. -/
theorem LfsFs.mem_used_iff {n b : ℕ} {f : LfsFileT} (h : fs.tree.Ends dirs n) :
    b ∈ fs.tree.openBlocks f ++ fs.tree.blocks dirs true n ↔ b ∈ fs.used dirs f := by
  rw [List.mem_append]
  constructor
  · rintro (hopen | hblocks)
    · exact .inl hopen
    · exact .inr ⟨n, h.pairs, hblocks⟩
  · rintro (hopen | ⟨m, hm, hblocks⟩)
    · exact .inl hopen
    · refine .inr ?_
      have hle : m ≤ n := by
        by_contra hlt
        exact (hm n (not_le.mp hlt)).1 h.null
      exact LfsTree.mem_blocks_of_le hle hblocks

/-! ### The traversal -/

/-- Some blocks have been read; the window of the allocator may be another one. -/
structure LfsT.Browsed (cfg : LfsConfig) (s s' : LfsT) : Prop where
  file : s'.file = s.file
  pcache : s'.pcache = s.pcache
  bd : s.bd.Read cfg s'.bd

theorem LfsT.Browsed.setBd {s₀ : LfsT} {b : LfsBd} (h : s₀.Browsed cfg s) (hread : s.bd.Read cfg b) :
    s₀.Browsed cfg (s.setBd b) :=
  ⟨hread.file_setBd.trans h.file, h.pcache, h.bd.trans hread⟩

/-- What the traversal has from where it started. -/
structure LfsFs.Seen (fs : LfsFs δ) (cfg : LfsConfig) (blockCount : ℕ) (dirs : LfsDirOps δ) (s₀ s : LfsT) :
    Prop where
  isIn : fs.In cfg blockCount dirs s
  browsed : s₀.Browsed cfg s

theorem LfsFs.In.seen (h : fs.In cfg blockCount dirs s) : fs.Seen cfg blockCount dirs s s :=
  ⟨h, rfl, rfl, .refl h.readable.ok⟩

/-- The errors of the traversal: of the device, or because of what is on the medium. -/
structure LfsFs.TraverseError (fs : LfsFs δ) (cfg : LfsConfig) (dirs : LfsDirOps δ) (s₀ : LfsT) (e : LfsError)
    (s : LfsT) : Prop where
  reason : s₀.disk.Fails e ∨ e = .corrupt ∧ fs.tree.Damaged dirs
  browsed : s₀.Browsed cfg s

section Traverse

variable {s₀ : LfsT} {cb : ℕ → Fallible LfsError LfsT Unit} {J : List ℕ → LfsT → Prop}
  {K : LfsT → Prop} {includeorphans : Bool}

theorem LfsFs.Seen.setBd {b : LfsBd} (h : fs.Seen cfg blockCount dirs s₀ s) (hread : s.bd.Read cfg b)
    (hshows : b.Shows true fs.known) : fs.Seen cfg blockCount dirs s₀ (s.setBd b) :=
  ⟨h.isIn.setBd hread (h.isIn.readable.of_read hread hshows), h.browsed.setBd hread⟩

/-- A callback that keeps account of the blocks in its own part of the state. -/
structure LfsFs.Counts (fs : LfsFs δ) (cfg : LfsConfig) (blockCount : ℕ) (dirs : LfsDirOps δ) (s₀ : LfsT)
    (cb : ℕ → Fallible LfsError LfsT Unit) (J : List ℕ → LfsT → Prop) (K : LfsT → Prop) : Prop where
  visit : ∀ visited b s, fs.Seen cfg blockCount dirs s₀ s → J visited s →
    wp (cb b) (fun _ s' => fs.Seen cfg blockCount dirs s₀ s' ∧ J (b :: visited) s') (fun _ _ => False) s
  frame : ∀ visited s b, J visited s → J visited (s.setBd b)
  error : ∀ visited s, J visited s → K s

theorem LfsFs.Counts.visitor {pcached : Bool} {blocks : ℕ → Prop}
    (h : fs.Counts cfg blockCount dirs s₀ cb J K)
    (hover : ∀ s, fs.Seen cfg blockCount dirs s₀ s → ∀ block, blocks block →
      s.bd.pcache.block = block → pcached = true) :
    LfsVisitor cfg blockCount pcached true fs.known blocks cb
      (fun visited s => fs.Seen cfg blockCount dirs s₀ s ∧ J visited s)
      (fun e s => fs.TraverseError cfg dirs s₀ e s ∧ K s) where
  visit _ b s hs := wp_mono (h.visit _ b s hs.1 hs.2) (fun _ _ ht => ht) nofun
  readable _ s hs :=
    ⟨hs.1.isIn.readable.ok, hs.1.isIn.readable.shows, hs.1.isIn.readable.unit, hover s hs.1⟩
  read _ _ _ hs hread hreadable := ⟨hs.1.setBd hread hreadable.shows, h.frame _ _ _ hs.2⟩
  error visited _ _ _ hs he :=
    ⟨⟨.inl (hs.1.browsed.bd.disk.fails he.1), hs.1.browsed.setBd he.2⟩,
      h.error visited _ (h.frame _ _ _ hs.2)⟩

theorem LfsFs.Counts.reads (h : fs.Counts cfg blockCount dirs s₀ cb J K) (hdecodes : dirs.Decodes cfg fs) :
    dirs.Reads fs.tree (fun visited s => fs.Seen cfg blockCount dirs s₀ s ∧ J visited s)
      (fun e s => fs.TraverseError cfg dirs s₀ e s ∧ K s) where
  fetch visited s n hn hs := by
    have hreadable := hs.1.isIn.readable
    apply wp_mono (hdecodes.fetch s n hn hreadable.ok hreadable.shows)
    · rintro dir t ⟨hdir, b, rfl, hread, hshows⟩
      exact ⟨hdir, hs.1.setBd hread hshows, h.frame _ _ _ hs.2⟩
    · rintro e t ⟨hreason, b, rfl, hread⟩
      refine ⟨⟨?_, hs.1.browsed.setBd hread⟩, h.error visited _ (h.frame _ _ _ hs.2)⟩
      rcases hreason with ⟨rfl, hnone⟩ | hfails
      · exact .inr ⟨rfl, .inr ⟨n, hn, hnone⟩⟩
      · exact .inl (hs.1.browsed.bd.disk.fails hfails)
  get visited s n dir id hn hdir hid hs := by
    have hreadable := hs.1.isIn.readable
    apply wp_mono (hdecodes.get s n dir id hn hdir hid hreadable.ok hreadable.shows)
    · rintro tag t ⟨htag, b, rfl, hread, hshows⟩
      exact ⟨htag, hs.1.setBd hread hshows, h.frame _ _ _ hs.2⟩
    · rintro e t ⟨hfails, b, rfl, hread⟩
      exact ⟨⟨.inl (hs.1.browsed.bd.disk.fails hfails), hs.1.browsed.setBd hread⟩,
        h.error visited _ (h.frame _ _ _ hs.2)⟩

/-- **The traversal** of a file system. -/
theorem LfsFs.wp_traverse (h : fs.Counts cfg blockCount dirs s₀ cb J K)
    (hs : fs.Seen cfg blockCount dirs s₀ s) (hJ : J [] s) :
    wp (lfsFsTraverse cfg blockCount dirs cb includeorphans)
      (fun _ s' => ∃ n, fs.tree.Ends dirs n ∧ fs.Seen cfg blockCount dirs s₀ s' ∧
        J (fs.tree.openBlocks s₀.file ++ fs.tree.blocks dirs includeorphans n) s')
      (fun e s' => fs.TraverseError cfg dirs s₀ e s' ∧ K s') s := by
  obtain ⟨pairs, hcard, hpairs⟩ := hs.isIn.pairs
  have hfiles := hs.isIn.files
  have hopened := hs.isIn.opened
  rw [hs.browsed.file] at hfiles hopened
  have hdirs : LfsVisitor cfg blockCount false true fs.known (· ≠ s₀.file.cache.block) cb _ _ :=
    h.visitor (by
      intro t ht block hne hsame
      refine absurd hsame.symm ?_
      show block ≠ t.file.cache.block
      rwa [ht.browsed.file])
  refine wp_mono (wp_lfsFsTraverse hdirs (h.visitor fun _ _ _ _ _ => rfl) (h.reads hs.isIn.decodes)
    hfiles hopened hpairs hcard ?_ ?_ ⟨hs, hJ⟩) ?_ fun e t he => he
  · exact fun visited t ht hcycle =>
      ⟨⟨.inr ⟨rfl, .inl hcycle⟩, ht.1.browsed⟩, h.error visited _ ht.2⟩
  · exact fun visited t ht => ht.1.browsed.file
  · rintro - t ⟨n, hends, ht, hJt⟩
    rw [List.append_nil] at hJt
    exact ⟨n, hends, ht, hJt⟩

end Traverse

end Fs

/-! ### A file system without files -/

/-- The metadata pair of the root, with nothing in it. -/
def lfsEmptyDirs : LfsDirOps Unit where
  tail _ := (lfsBlockNull, lfsBlockNull)
  count _ := 0
  fetch pair := if lfsPairIssync pair (0, 1) then pure () else throw .corrupt
  get _ _ := pure none

/-- A file system that has its root and nothing else. -/
def lfsEmptyFs : LfsFs Unit where
  known _ _ := none
  tree :=
    { dir := fun pair => if lfsPairIssync pair (0, 1) then some () else none
      entry := fun _ _ => none
      file := fun _ _ => [] }

/-- A medium of eight blocks after `lfs_mount`. -/
def lfsEmptyMount : LfsT :=
  { lookahead := { ckpoint := 8 }, disk := { medium := fun _ _ => 0 } }

theorem lfsEmptyFs_pair_succ (n : ℕ) :
    lfsEmptyFs.tree.pair lfsEmptyDirs (n + 1) = (lfsBlockNull, lfsBlockNull) := by
  rw [LfsTree.pair, Function.iterate_succ_apply', LfsTree.next]
  cases lfsEmptyFs.tree.dir _ with
  | none => rfl
  | some dir => rfl

/-- The metadata pair of the root can be decoded. -/
theorem lfsEmptyDirs_decodes {fs : LfsFs Unit} (h : fs.tree.dir = lfsEmptyFs.tree.dir) :
    lfsEmptyDirs.Decodes sdLfsConfig fs where
  fetch s n _ hok hshows := by
    rw [h]
    refine wp_ite (fun hpair => ?_) fun hpair => ?_
    · rw [wp_pure]
      exact ⟨if_pos hpair, s.bd, rfl, .refl hok, hshows⟩
    · rw [wp_throw]
      exact ⟨.inl ⟨rfl, if_neg hpair⟩, s.bd, rfl, .refl hok⟩
  get _ _ _ id _ _ hid _ _ := absurd hid (Nat.not_lt_zero id)

theorem lfsEmptyFs_swap (a b : ℕ) : lfsEmptyFs.tree.dir (a, b) = lfsEmptyFs.tree.dir (b, a) :=
  if_congr (by simp only [lfsPairIssync]; omega) rfl rfl

theorem lfsEmptyFs_in : lfsEmptyFs.In sdLfsConfig 8 lfsEmptyDirs lfsEmptyMount where
  readable := by
    refine ⟨⟨fun h => absurd rfl h, fun call hcall => absurd hcall List.not_mem_nil⟩,
      ⟨fun _ => rfl, nofun, nofun⟩, fun h => absurd rfl h, fun block hne hsame => absurd hsame.symm hne⟩
  files := nofun
  opened := ⟨nofun, nofun⟩
  pairs := by
    refine ⟨{(0, 1)}, by rw [Finset.card_singleton]; norm_num, fun n hn => ?_⟩
    cases n with
    | zero => exact Finset.mem_singleton_self _
    | succ n =>
      rw [lfsEmptyFs_pair_succ] at hn
      exact absurd (.inl rfl) hn
  used_lt := by
    rintro b (hopen | ⟨n, hn, hb⟩)
    · exact absurd hopen List.not_mem_nil
    · rcases n with - | - | n
      · exact absurd hb List.not_mem_nil
      · have hb : b ∈ [1, 0] := hb
        simp only [List.mem_cons, List.not_mem_nil, or_false] at hb
        omega
      · have hnull := (hn 1 (by omega)).1
        rw [lfsEmptyFs_pair_succ] at hnull
        exact absurd (.inl rfl) hnull
  decodes := lfsEmptyDirs_decodes rfl

/-- A callback that counts. -/
def lfsCount (_ : ℕ) : Fallible LfsError LfsT Unit :=
  modify fun s => { s with lookahead := { s.lookahead with next := s.lookahead.next + 1 } }

theorem lfsEmptyFs_counts :
    lfsEmptyFs.Counts sdLfsConfig 8 lfsEmptyDirs lfsEmptyMount lfsCount
      (fun visited s => s.lookahead.next = visited.length) fun _ => True where
  visit _ b s hs hnext := by
    rw [lfsCount, wp_modify]
    exact ⟨⟨hs.isIn.lookahead _, hs.browsed.file, hs.browsed.pcache, hs.browsed.bd⟩,
      congrArg (· + 1) hnext⟩
  frame _ _ _ hnext := hnext
  error _ _ _ := trivial

end Bricklib2
