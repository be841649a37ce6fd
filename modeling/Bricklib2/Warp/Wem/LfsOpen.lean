/-
Bricklib2/Warp/Wem/LfsOpen.lean

The file system of littlefs behind an open file: what is committed stays as it is on the
medium, and the blocks that are written meanwhile come from the allocator.

The blocks of a file are determined by its head, its size and what the blocks hold, so the
traversal of the allocator finds the same files as long as their blocks are kept.

Main result: `LfsFs.Committed.wp_alloc`, a block that is handed out while a file is open is
neither one of what is committed nor one of the open file.
-/
import Bricklib2.Warp.Wem.LfsAllocRuns

namespace Bricklib2

open BinaryOnes Cells Fallible

/-! ### The blocks of a file -/

section Blocks

variable {cfg : LfsConfig} {blockCount head size : ℕ} {known known' : LfsBlocks} {file file' : List ℕ}

theorem lfsTole32_injective {m n : ℕ} (hm : m < 2 ^ 32) (hn : n < 2 ^ 32)
    (h : lfsTole32 m = lfsTole32 n) : m = n := by
  have heq := congrArg lfsFromle32 h
  rwa [lfsFromle32_lfsTole32 hm, lfsFromle32_lfsTole32 hn] at heq

/-- A pointer leads to one block. -/
theorem LfsBlocks.Points.unique {b x c c' : ℕ} (h : known.Points b x c) (h' : known.Points b x c') :
    c = c' := by
  apply lfsTole32_injective h.1 h'.1
  apply List.ext_getElem?
  intro k
  rcases Nat.lt_or_ge k 4 with hk | hk
  · rw [← h.2 k hk, h'.2 k hk]
  · rw [List.getElem?_eq_none hk, List.getElem?_eq_none hk]

/-- The last block of a list determines the ones before. -/
theorem LfsCtzList.unique {chain chain' : ℕ → ℕ} {last : ℕ}
    (h : LfsCtzList blockCount known chain (last + 1))
    (h' : LfsCtzList blockCount known chain' (last + 1)) (hlast : chain last = chain' last) :
    ∀ n ≤ last, chain n = chain' n := by
  intro n hn
  induction hn using Nat.decreasingInduction with
  | self => exact hlast
  | of_succ n hn ih =>
    have hpoints := h.linked (n + 1) 0 n.succ_pos (by omega) (Nat.zero_le _)
    have hpoints' := h'.linked (n + 1) 0 n.succ_pos (by omega) (Nat.zero_le _)
    rw [ih] at hpoints
    exact hpoints.unique hpoints'

theorem LfsCtzFile.unique (h : LfsCtzFile cfg blockCount known head size file)
    (h' : LfsCtzFile cfg blockCount known head size file') : file = file' := by
  cases h with
  | empty =>
    cases h' with
    | empty => rfl
    | blocks hpos => exact absurd hpos (Nat.lt_irrefl 0)
  | @blocks size last o chain hpos hsize hlast hlist =>
    generalize hhead : chain last = head' at h'
    cases h' with
    | empty => exact absurd hpos (Nat.lt_irrefl 0)
    | @blocks _ last' o' chain' hpos' hsize' hlast' hlist' =>
      obtain ⟨rfl, -⟩ := hlast.unique hlast'
      apply List.map_congr_left
      intro n hn
      exact hlist.unique hlist' hhead n (Nat.le_of_lt_succ (List.mem_range.mp hn))

theorem LfsBlocks.Points.of_eq {b x c : ℕ} (h : known.Points b x c) (hsame : known' b = known b) :
    known'.Points b x c :=
  ⟨h.1, fun k hk => by rw [hsame, h.2 k hk]⟩

/-- A list is there as long as its blocks are kept. -/
theorem LfsCtzList.of_eq {chain : ℕ → ℕ} {n : ℕ} (h : LfsCtzList blockCount known chain n)
    (hsame : ∀ m < n, known' (chain m) = known (chain m)) : LfsCtzList blockCount known' chain n :=
  ⟨h.valid, fun m x hpos hm hx => (h.linked m x hpos hm hx).of_eq (hsame m hm)⟩

theorem LfsCtzFile.of_eq (h : LfsCtzFile cfg blockCount known head size file)
    (hsame : ∀ b ∈ file, known' b = known b) : LfsCtzFile cfg blockCount known' head size file := by
  cases h with
  | empty => exact .empty head
  | blocks hpos hsize hlast hlist =>
    exact .blocks hpos hsize hlast (hlist.of_eq fun m hm =>
      hsame _ (List.mem_map_of_mem (List.mem_range.mpr hm)))

open Classical in
/-- The blocks that belong to a head and a size. -/
noncomputable def lfsCtzBlocks (cfg : LfsConfig) (blockCount : ℕ) (known : LfsBlocks) (head size : ℕ) :
    List ℕ :=
  if h : ∃ file, LfsCtzFile cfg blockCount known head size file then h.choose else []

theorem LfsCtzFile.blocks_eq (h : LfsCtzFile cfg blockCount known head size file) :
    lfsCtzBlocks cfg blockCount known head size = file := by
  have hex : ∃ file, LfsCtzFile cfg blockCount known head size file := ⟨file, h⟩
  rw [lfsCtzBlocks, dif_pos hex]
  exact hex.choose_spec.unique h

theorem LfsCtzFile.blocks_self (h : LfsCtzFile cfg blockCount known head size file) :
    LfsCtzFile cfg blockCount known head size (lfsCtzBlocks cfg blockCount known head size) := by
  rwa [h.blocks_eq]

end Blocks

/-! ### What is committed -/

section Committed

variable {δ : Type} {cfg : LfsConfig} {blockCount lookaheadSize : ℕ} {dirs : LfsDirOps δ} {fs : LfsFs δ}
  {known : LfsBlocks} {s : LfsT}

/-- `lfs_alloc` with its traversal -/
def LfsDirOps.alloc (dirs : LfsDirOps δ) (cfg : LfsConfig) (blockCount lookaheadSize : ℕ) :
    Fallible LfsError LfsT ℕ :=
  lfsAlloc blockCount lookaheadSize fun cb => lfsFsTraverse cfg blockCount dirs cb true

/-- The file system when `known` is what the blocks hold. -/
noncomputable def LfsFs.at (fs : LfsFs δ) (cfg : LfsConfig) (blockCount : ℕ) (known : LfsBlocks) :
    LfsFs δ where
  known := known
  tree := { fs.tree with file := lfsCtzBlocks cfg blockCount known }

/-- The blocks of what is committed hold what they held. -/
def LfsFs.Keeps (fs : LfsFs δ) (dirs : LfsDirOps δ) (known : LfsBlocks) : Prop :=
  ∀ b ∈ fs.live dirs, known b = fs.known b

/-- A file system that is in order.  That the pairs can be decoded only depends on its blocks. -/
structure LfsFs.Committed (fs : LfsFs δ) (cfg : LfsConfig) (blockCount : ℕ) (dirs : LfsDirOps δ) : Prop where
  ends : ∃ n, fs.tree.Ends dirs n
  swap : ∀ a b, fs.tree.dir (a, b) = fs.tree.dir (b, a)
  pairs : ∃ pairs : Finset (ℕ × ℕ), 3 * pairs.card < 2 ^ 30 ∧
    ∀ n, ¬ lfsPairIsnull (fs.tree.pair dirs n) → fs.tree.pair dirs n ∈ pairs
  files : fs.tree.FilesIn dirs cfg blockCount fs.known fun _ => True
  live_lt : ∀ b ∈ fs.live dirs, b < blockCount
  decodes : ∀ known, fs.Keeps dirs known → dirs.Decodes cfg (fs.at cfg blockCount known)

/-- All pairs of a list that has pair `n` can be decoded, up to that one. -/
theorem LfsTree.Path.isSome {tree : LfsTree δ} {n : ℕ} (h : tree.Path dirs n) :
    ∀ m < n, (tree.dir (tree.pair dirs m)).isSome := by
  intro m hm
  by_contra hnone
  rw [Option.not_isSome_iff_eq_none] at hnone
  apply h (m + 1) hm
  rw [LfsTree.pair, Function.iterate_succ_apply', LfsTree.next]
  rw [LfsTree.pair] at hnone
  rw [hnone]
  exact .inl rfl

theorem LfsTree.mem_dirBlocks {tree : LfsTree δ} {o : Bool} {dir : δ} {id n b : ℕ} (hid : id < n)
    (hb : b ∈ tree.structBlocks o (tree.entry dir id)) : b ∈ tree.dirBlocks o dir n := by
  induction n with
  | zero => exact absurd hid (Nat.not_lt_zero id)
  | succ n ih =>
    rw [LfsTree.dirBlocks, List.mem_append]
    rcases (Nat.le_of_lt_succ hid).eq_or_lt with rfl | hlt
    · exact .inl hb
    · exact .inr (ih hlt)

/-- The blocks of a file are blocks of the file system. -/
theorem LfsFs.mem_live {n id head size b : ℕ} {dir : δ} (hpath : fs.tree.Path dirs n)
    (hdir : fs.tree.dir (fs.tree.pair dirs n) = some dir) (hid : id < dirs.count dir)
    (hentry : fs.tree.entry dir id = some (.ctz head size)) (hb : b ∈ fs.tree.file head size) :
    b ∈ fs.live dirs := by
  refine ⟨n + 1, fun m hm => ⟨hpath m (Nat.le_of_lt_succ hm), ?_⟩, ?_⟩
  · rcases (Nat.le_of_lt_succ hm).eq_or_lt with rfl | hlt
    · rw [hdir]
      rfl
    · exact hpath.isSome m hlt
  · rw [LfsTree.blocks, LfsTree.pairBlocks, hdir]
    refine List.mem_append_left _ (List.mem_append_left _ (LfsTree.mem_dirBlocks hid ?_))
    rw [hentry]
    exact hb

namespace LfsFs.Committed

/-- The files of the file system are the same ones. -/
theorem file_eq (h : fs.Committed cfg blockCount dirs) (hkeep : fs.Keeps dirs known) {n id head size : ℕ}
    {dir : δ} (hpath : fs.tree.Path dirs n) (hdir : fs.tree.dir (fs.tree.pair dirs n) = some dir)
    (hid : id < dirs.count dir) (hentry : fs.tree.entry dir id = some (.ctz head size)) :
    LfsCtzFile cfg blockCount known head size (fs.tree.file head size) ∧
      lfsCtzBlocks cfg blockCount known head size = fs.tree.file head size := by
  have hfile := ((h.files n dir id head size hpath hdir hid hentry).1).of_eq fun b hb =>
    hkeep b (LfsFs.mem_live hpath hdir hid hentry hb)
  exact ⟨hfile, hfile.blocks_eq⟩

theorem dirBlocks_at (h : fs.Committed cfg blockCount dirs) (hkeep : fs.Keeps dirs known) {o : Bool} {n : ℕ}
    {dir : δ} (hpath : fs.tree.Path dirs n) (hdir : fs.tree.dir (fs.tree.pair dirs n) = some dir) :
    ∀ k ≤ dirs.count dir,
      (fs.at cfg blockCount known).tree.dirBlocks o dir k = fs.tree.dirBlocks o dir k := by
  intro k hk
  induction k with
  | zero => rfl
  | succ k ih =>
    rw [LfsTree.dirBlocks, LfsTree.dirBlocks, ih (by omega)]
    congr 1
    have hentry : (fs.at cfg blockCount known).tree.entry dir k = fs.tree.entry dir k := rfl
    rw [hentry]
    rcases he : fs.tree.entry dir k with - | ⟨head, size⟩ | pair | -
    · rfl
    · exact (h.file_eq hkeep hpath hdir hk he).2
    · rfl
    · rfl

theorem blocks_at (h : fs.Committed cfg blockCount dirs) (hkeep : fs.Keeps dirs known) {o : Bool} {n : ℕ}
    (hpairs : ∀ m < n, ¬ lfsPairIsnull (fs.tree.pair dirs m) ∧ (fs.tree.dir (fs.tree.pair dirs m)).isSome) :
    (fs.at cfg blockCount known).tree.blocks dirs o n = fs.tree.blocks dirs o n := by
  induction n with
  | zero => rfl
  | succ n ih =>
    rw [LfsTree.blocks, LfsTree.blocks, ih fun m hm => hpairs m (hm.trans n.lt_succ_self)]
    congr 1
    show LfsTree.pairBlocks _ dirs o (fs.tree.pair dirs n) = _
    obtain ⟨dir, hdir⟩ := Option.isSome_iff_exists.mp (hpairs n n.lt_succ_self).2
    have hpath : fs.tree.Path dirs n := fun m hm => (hpairs m (Nat.lt_succ_of_le hm)).1
    have hdir' : (fs.at cfg blockCount known).tree.dir (fs.tree.pair dirs n) = some dir := hdir
    rw [LfsTree.pairBlocks, LfsTree.pairBlocks, hdir, hdir']
    show LfsTree.dirBlocks _ o dir (dirs.count dir) ++ _ = _
    rw [h.dirBlocks_at hkeep hpath hdir _ le_rfl]
    rfl

@[simp] theorem live_at (h : fs.Committed cfg blockCount dirs) (hkeep : fs.Keeps dirs known) :
    (fs.at cfg blockCount known).live dirs = fs.live dirs := by
  ext b
  constructor
  · rintro ⟨n, hpairs, hb⟩
    exact ⟨n, hpairs, h.blocks_at hkeep hpairs ▸ hb⟩
  · rintro ⟨n, hpairs, hb⟩
    exact ⟨n, hpairs, (h.blocks_at hkeep hpairs).symm ▸ hb⟩

theorem not_damaged (h : fs.Committed cfg blockCount dirs) :
    ¬ (fs.at cfg blockCount known).tree.Damaged dirs := by
  obtain ⟨n, hends⟩ := h.ends
  have hends' : (fs.at cfg blockCount known).tree.Ends dirs n := ⟨hends.null, hends.pairs⟩
  exact hends'.not_damaged h.swap

/-- The traversal of the allocator finds its way, if the open file is where it should be. -/
theorem isIn (h : fs.Committed cfg blockCount dirs) (hkeep : fs.Keeps dirs known) (hok : s.bd.Ok cfg)
    (hshows : s.bd.Shows true known)
    (hunit : s.file.cache.block ≠ lfsBlockNull → cfg.readSize ∣ s.file.cache.off)
    (hcache : s.file.cache.block ∉ fs.live dirs)
    (hopened : (fs.at cfg blockCount known).tree.OpenIn cfg blockCount known s.file)
    (hlt : ∀ b ∈ (fs.at cfg blockCount known).tree.openBlocks s.file, b < blockCount) :
    (fs.at cfg blockCount known).In cfg blockCount dirs s where
  readable := ⟨hok, hshows, hunit, fun _ hne hsame => absurd hsame.symm hne⟩
  files n dir id head size hpath hdir hid hentry := by
    obtain ⟨hfile, hblocks⟩ := h.file_eq hkeep hpath hdir hid hentry
    refine ⟨hfile.blocks_self, fun b hb hsame => hcache ?_⟩
    have hb : b ∈ lfsCtzBlocks cfg blockCount known head size := hb
    rw [hblocks] at hb
    exact hsame ▸ LfsFs.mem_live hpath hdir hid hentry hb
  opened := hopened
  pairs := h.pairs
  used_lt b hb := by
    rcases hb with hopen | hlive
    · exact hlt b hopen
    · rw [h.live_at hkeep] at hlive
      exact h.live_lt b hlive
  decodes := h.decodes known hkeep

/-- **Allocating a block** while a file is open. -/
theorem wp_alloc {inflight taken : Set ℕ} (h : fs.Committed cfg blockCount dirs)
    (hcount : blockCount ≤ 2 ^ 31) (hsizePos : 0 < lookaheadSize) (hsizeLt : lookaheadSize < 2 ^ 29)
    (hin : (fs.at cfg blockCount known).In cfg blockCount dirs s)
    (hok : s.lookahead.Ok blockCount ((fs.at cfg blockCount known).used dirs s.file) inflight taken) :
    wp (dirs.alloc cfg blockCount lookaheadSize)
      (fun b s' => (b < blockCount ∧ b ∉ (fs.at cfg blockCount known).used dirs s.file ∪ inflight) ∧
        s'.lookahead.Ok blockCount ((fs.at cfg blockCount known).used dirs s.file) (insert b inflight)
          (insert b taken) ∧ (fs.at cfg blockCount known).Seen cfg blockCount dirs s s')
      (fun e s' => (s.disk.Fails e ∨ e = .nospc) ∧ s.Browsed cfg s') s := by
  apply wp_mono (wp_lfsAlloc hok hcount hsizePos hsizeLt (LfsFs.traversal _ s) hin.seen)
  · exact fun b t ht => ht
  · rintro e t ⟨-, ⟨hfails | ⟨-, hdamaged⟩, hbrowsed⟩ | ⟨rfl, hseen, -⟩⟩
    · exact ⟨.inl hfails, hbrowsed⟩
    · exact absurd hdamaged h.not_damaged
    · exact ⟨.inr rfl, hseen.browsed⟩

end LfsFs.Committed

end Committed

end Bricklib2
