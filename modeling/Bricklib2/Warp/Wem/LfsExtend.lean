/-
Bricklib2/Warp/Wem/LfsExtend.lean

A file in littlefs gets a new last block (`lfs_ctz_extend` in lfs.c): the old last block is
copied if it is not full, or the new one is linked to it and to the blocks before.  The
blocks of the old file are not touched, so it is there as long as the new one is not
committed.

Main result: `wp_lfsCtzExtendBlock`, the new block with the blocks in front of it is a file with
the same content, and the next byte can be programmed behind it.
-/
import Bricklib2.Warp.Wem.LfsState

namespace Bricklib2

open BinaryOnes Cells Fallible

/-! ### The source -/

/-- A bad block is a result, any other error remains one. -/
def lfsGoesBadResult {σ : Type} : Except LfsError Unit → Fallible LfsError σ Bool
  | .ok _ => pure false
  | .error .corrupt => pure true
  | .error e => throw e

/-- A call, and whether it reports `LFS_ERR_CORRUPT`; other errors are handed on. -/
def lfsGoesBad {σ : Type} (p : Fallible LfsError σ Unit) : Fallible LfsError σ Bool := do
  let err ← attempt p
  lfsGoesBadResult err

section Functions

variable (cfg : LfsConfig) (blockCount : ℕ)

/-- `just copy out the last block if it is incomplete`: true if the new block is bad. -/
def lfsCtzExtendCopy (head nblock noff : ℕ) : Fallible LfsError LfsBd Bool :=
  iterate
    (fun i =>
      if noff ≤ i then
        pure (.inr false)
      else do
        let data ← lfsBdRead cfg blockCount false (lfsWord (noff - i)) head i 1
        let bad ← lfsGoesBad (lfsBdProg cfg blockCount true nblock i data)
        if bad then pure (.inr true) else pure (.inl (i + 1)))
    0

/-- `append block`, with `i` and `nhead`. -/
def lfsCtzExtendLink (head nblock skips : ℕ) : Fallible LfsError LfsBd Bool :=
  iterate
    (fun l : ℕ × ℕ =>
      if skips ≤ l.1 then
        pure (.inr false)
      else do
        let bad ← lfsGoesBad (lfsBdProg cfg blockCount true nblock (4 * l.1) (lfsTole32 l.2))
        if bad then
          pure (.inr true)
        else if l.1 ≠ skips - 1 then do
          let nhead ← lfsBdRead cfg blockCount false 4 l.2 (4 * l.1) 4
          pure (.inl (l.1 + 1, lfsFromle32 nhead))
        else
          pure (.inl (l.1 + 1, l.2)))
    (0, head)

/-- The new block with its first bytes; the result is the place of the next one. -/
def lfsCtzExtendFill (head size nblock : ℕ) : Fallible LfsError LfsBd (Option ℕ) :=
  if size = 0 then
    pure (some 0)
  else do
    let index := lfsCtzIndex cfg.blockSize (lfsWord (size - 1))
    let noff := index.2 + 1
    if noff ≠ cfg.blockSize then do
      let bad ← lfsCtzExtendCopy cfg blockCount head nblock noff
      pure (if bad then none else some noff)
    else do
      let skips := lfsCtz (index.1 + 1) + 1
      let bad ← lfsCtzExtendLink cfg blockCount head nblock skips
      pure (if bad then none else some (4 * skips))

/-- `lfs_ctz_extend` with the block that was allocated; without a result it is bad. -/
def lfsCtzExtendBlock (head size nblock : ℕ) : Fallible LfsError LfsBd (Option ℕ) := do
  let bad ← lfsGoesBad (lfsBdErase nblock)
  if bad then pure none else lfsCtzExtendFill cfg blockCount head size nblock

/-- `relocate` if there is no result: just clear cache and try a new block -/
def lfsCtzExtendRest (nblock : ℕ) : Option ℕ → Fallible LfsError LfsT (Unit ⊕ (ℕ × ℕ))
  | some off => pure (.inr (nblock, off))
  | none => do
    modify fun s => { s with file := { s.file with cache := s.file.cache.drop } }
    pure (.inl ())

/-- `lfs_ctz_extend` -/
def lfsCtzExtend (alloc : Fallible LfsError LfsT ℕ) (head size : ℕ) :
    Fallible LfsError LfsT (ℕ × ℕ) :=
  iterate
    (fun _ => do
      let nblock ← alloc
      let off ← LfsT.onBd (lfsCtzExtendBlock cfg blockCount head size nblock)
      lfsCtzExtendRest nblock off)
    ()

end Functions

theorem wp_lfsGoesBad {σ : Type} {p : Fallible LfsError σ Unit} {Q : Unit → σ → Prop}
    {E : LfsError → σ → Prop} {R : Bool → σ → Prop} {s : σ} (h : wp p Q E s)
    (hok : ∀ s', Q () s' → R false s') (hbad : ∀ s', E .corrupt s' → R true s') :
    wp (lfsGoesBad p) R E s := by
  rw [lfsGoesBad, wp_bind, wp_attempt]
  apply wp_mono h
  · intro _ s' hs'
    rw [lfsGoesBadResult, wp_pure]
    exact hok s' hs'
  · intro e s' he
    cases e with
    | corrupt =>
      rw [lfsGoesBadResult, wp_pure]
      exact hbad s' he
    | _ => exact wp_throw.mpr he

/-! ### A new block -/

/-- What is known when a block was erased and programmed from its start on. -/
def LfsBlocks.write (known : LfsBlocks) (block : ℕ) (bytes : List UInt8) : LfsBlocks :=
  Function.update known block fun o => bytes[o]?

namespace LfsBlocks

variable {known : LfsBlocks} {block b : ℕ} {xs ys : List UInt8}

@[simp] theorem write_self : known.write block xs block = fun o => xs[o]? := Function.update_self _ _ _

theorem write_of_ne (h : b ≠ block) : known.write block xs b = known b := Function.update_of_ne h _ _

/-- A program behind what is there. -/
theorem put_write (known : LfsBlocks) (block : ℕ) (xs ys : List UInt8) :
    (known.write block xs).put block xs.length ys = known.write block (xs ++ ys) := by
  rw [put, write, write, Function.update_idem, Function.update_self]
  congr 1
  funext o
  rcases Nat.lt_or_ge o xs.length with hlt | hge
  · rw [store_of_lt hlt, List.getElem?_append_left hlt]
  · rcases Nat.lt_or_ge o (xs.length + ys.length) with hlt | hge'
    · have hin : o - xs.length < ys.length := by omega
      rw [store_inside hge (by rwa [List.length_map]) none, List.getElem?_append_right hge,
        List.getD_eq_getElem?_getD, List.getElem?_map, List.getElem?_eq_getElem hin]
      rfl
    · rw [store_of_ge (by rwa [List.length_map]), List.getElem?_eq_none hge,
        List.getElem?_eq_none (by rwa [List.length_append])]

end LfsBlocks

section Extend

variable {cfg : LfsConfig} {blockCount : ℕ} {known : LfsBlocks} {head nblock noff : ℕ} {s₀ s : LfsBd}
  {bytes : List UInt8}

/-- The caches while block `nblock` gets its bytes. -/
structure LfsBd.Filling (cfg : LfsConfig) (blockCount : ℕ) (known : LfsBlocks) (nblock : ℕ)
    (bytes : List UInt8) (s₀ s : LfsBd) : Prop where
  writes : s₀.Writes nblock s
  loaded : 8 < cfg.cacheSize → s.rcache.block = lfsBlockNull → s.rcache = s₀.rcache
  ready : s.Ready cfg blockCount (known.write nblock bytes)
  shows : s.Shows true (known.write nblock bytes)
  appends : s.Appends cfg nblock bytes.length

/-- What can be said when the block cannot be filled. -/
def LfsBd.FillError (nblock : ℕ) (s₀ : LfsBd) (e : LfsError) (s : LfsBd) : Prop :=
  s₀.disk.Fails e ∧ s₀.Writes nblock s

namespace LfsBd.Filling

/-- A read of another block. -/
theorem wp_read {hint off size : ℕ} (h : s₀.Filling cfg blockCount known nblock bytes s)
    (hblock : LfsBlockValid blockCount head) (hother : head ≠ nblock) (hhint : 0 < hint)
    (hle : hint ≤ cfg.blockSize) (hrange : off + size ≤ cfg.blockSize) :
    wp (lfsBdRead cfg blockCount false hint head off size)
      (fun data s' => (data.length = size ∧ Matches (known head) off data) ∧
        s₀.Filling cfg blockCount known nblock bytes s')
      (LfsBd.FillError nblock s₀) s := by
  have hmiss : s.pcache.block ≠ head := by
    intro hsame
    have hused := h.appends.used (hsame ▸ hblock.ne_null)
    exact hother (hsame.symm.trans hused.1)
  apply wp_mono (wp_lfsBdRead h.ready.ok h.shows hblock hhint hle hrange
    (fun hcached => absurd hcached Bool.false_ne_true) fun hsame => absurd hsame hmiss)
  · rintro data t ⟨hlen, hmatches, hread, hshows, -⟩
    rw [LfsBlocks.write_of_ne hother] at hmatches
    refine ⟨⟨hlen, hmatches⟩, h.writes.trans (hread.writes _), fun hlong hfree => ?_,
      ⟨hread.ok, ?_, ?_⟩, hshows, ?_⟩
    · exact (hread.rcache hfree).trans (h.loaded hlong (hread.rcache hfree ▸ hfree))
    · rw [hread.pcache]
      exact h.ready.window
    · rw [hread.pcache]
      exact h.ready.tail
    · refine ⟨?_, ?_⟩
      · rw [hread.pcache]
        exact h.appends.free
      · rw [hread.pcache]
        exact h.appends.used
  · exact fun e t he => ⟨h.writes.disk.fails he.1, h.writes.trans (he.2.writes _)⟩

/-- A program of the next bytes. -/
theorem wp_prog (data : List UInt8) (h : s₀.Filling cfg blockCount known nblock bytes s)
    (hblock : LfsBlockValid blockCount nblock)
    (hrange : bytes.length + data.length ≤ cfg.blockSize) :
    wp (lfsBdProg cfg blockCount true nblock bytes.length data)
      (fun _ s' => s₀.Filling cfg blockCount known nblock (bytes ++ data) s')
      (LfsBd.FillError nblock s₀) s := by
  have hroom : s.Room cfg (known.write nblock bytes) nblock bytes.length := h.appends.room fun o ho => by
    rw [LfsBlocks.write_self]
    exact List.getElem?_eq_none ho
  apply wp_mono (wp_lfsBdProg h.ready h.shows hblock hrange hroom (.inl rfl))
  · intro _ t ht
    have hready := ht.ready
    have hshows := ht.shows
    rw [LfsBlocks.put_write] at hready hshows
    refine ⟨h.writes.trans ht.writes, fun hlong hfree => ?_, hready, hshows, ?_⟩
    · have hsame := ht.loaded hlong hfree
      exact hsame.trans (h.loaded hlong (hsame ▸ hfree))
    rw [List.length_append]
    exact ht.appends h.appends
  · exact fun e t he => ⟨h.writes.disk.fails he.fails, h.writes.trans he.writes⟩

end LfsBd.Filling

theorem wp_lfsCtzExtendCopy (h : s₀.Filling cfg blockCount known nblock [] s)
    (hhead : LfsBlockValid blockCount head) (hnblock : LfsBlockValid blockCount nblock)
    (hother : head ≠ nblock) (hnoff : noff ≤ cfg.blockSize) :
    wp (lfsCtzExtendCopy cfg blockCount head nblock noff)
      (fun bad s' => (bad = true ∧ s₀.FillError nblock .corrupt s') ∨ bad = false ∧
        ∃ bytes, bytes.length = noff ∧ Matches (known head) 0 bytes ∧
          s₀.Filling cfg blockCount known nblock bytes s')
      (LfsBd.FillError nblock s₀) s := by
  have hblockSize := cfg.blockSize_le
  apply wp_iterate
    (I := fun i t => ∃ bytes, bytes.length = i ∧ i ≤ noff ∧ Matches (known head) 0 bytes ∧
      s₀.Filling cfg blockCount known nblock bytes t)
    (fun i _ => noff - i)
  · rintro i t ⟨bytes, rfl, hle, hmatches, ht⟩
    refine wp_ite (fun hge => ?_) fun hlt => ?_
    · rw [wp_pure]
      exact .inr ⟨rfl, bytes, le_antisymm hle hge, hmatches, ht⟩
    · have hword : lfsWord ((noff : ℤ) - (bytes.length : ℕ)) = noff - bytes.length := by
        rw [← Nat.cast_sub hle, lfsWord_of_lt (by omega)]
      rw [wp_bind, hword]
      apply wp_mono (ht.wp_read hhead hother (by omega) (by omega) (by omega)) _ fun e u he => he
      rintro data u ⟨⟨hlen, hdata⟩, hu⟩
      rw [wp_bind]
      apply wp_lfsGoesBad (hu.wp_prog data hnblock (by omega))
      · intro v hv
        refine wp_ite nofun fun _ => ?_
        rw [wp_pure]
        refine ⟨⟨bytes ++ data, ?_, by omega, hmatches.append (by rwa [Nat.zero_add]), hv⟩, by omega⟩
        rw [List.length_append, hlen]
      · intro v hv
        rw [if_pos rfl, wp_pure]
        exact .inl ⟨rfl, hv⟩
  · exact ⟨[], rfl, Nat.zero_le _, matches_nil _ _, h⟩

/-- The pointers of a block, from the nearest one on. -/
def ctzLinks (chain : ℕ → ℕ) (n x : ℕ) : List UInt8 :=
  (List.range x).flatMap fun i => lfsTole32 (chain (n - 2 ^ i))

theorem ctzLinks_succ (chain : ℕ → ℕ) (n x : ℕ) :
    ctzLinks chain n (x + 1) = ctzLinks chain n x ++ lfsTole32 (chain (n - 2 ^ x)) := by
  rw [ctzLinks, List.range_succ, List.flatMap_append, List.flatMap_singleton, ctzLinks]

@[simp] theorem length_ctzLinks (chain : ℕ → ℕ) (n x : ℕ) : (ctzLinks chain n x).length = 4 * x := by
  induction x with
  | zero => rfl
  | succ x ih =>
    rw [ctzLinks_succ, List.length_append, ih]
    rfl

theorem wp_lfsCtzExtendLink {chain : ℕ → ℕ} {n : ℕ} (h : s₀.Filling cfg blockCount known nblock [] s)
    (hlist : LfsCtzList blockCount known chain n) (hn : 0 < n) (hbound : n < 2 ^ 26)
    (hnblock : LfsBlockValid blockCount nblock) (hother : ∀ m < n, chain m ≠ nblock) :
    wp (lfsCtzExtendLink cfg blockCount (chain (n - 1)) nblock (trailingZeros n + 1))
      (fun bad s' => (bad = true ∧ s₀.FillError nblock .corrupt s') ∨ bad = false ∧
        s₀.Filling cfg blockCount known nblock (ctzLinks chain n (trailingZeros n + 1)) s')
      (LfsBd.FillError nblock s₀) s := by
  have hge := cfg.blockSize_ge
  have hzeros := trailingZeros_lt hn.ne' hbound
  have hpow : 2 ^ trailingZeros n ≤ n := SkipList.two_pow_trailingZeros_le hn
  apply wp_iterate
    (I := fun l t => l.1 ≤ trailingZeros n + 1 ∧
      (l.1 ≤ trailingZeros n → l.2 = chain (n - 2 ^ l.1)) ∧
      s₀.Filling cfg blockCount known nblock (ctzLinks chain n l.1) t)
    (fun l _ => trailingZeros n + 1 - l.1)
  · rintro ⟨x, nhead⟩ t ⟨hle, hnhead, ht⟩
    have hle : x ≤ trailingZeros n + 1 := hle
    refine wp_ite (fun hend => ?_) fun hmore => ?_
    · obtain rfl : x = trailingZeros n + 1 := le_antisymm hle hend
      rw [wp_pure]
      exact .inr ⟨rfl, ht⟩
    · have hx : x ≤ trailingZeros n := Nat.le_of_lt_succ (not_le.mp hmore)
      obtain rfl : nhead = chain (n - 2 ^ x) := hnhead hx
      have hxpow : 2 ^ x ≤ n := (Nat.pow_le_pow_right two_pos hx).trans hpow
      have hxpos := Nat.two_pow_pos x
      have hprog := ht.wp_prog (lfsTole32 (chain (n - 2 ^ x))) hnblock
        (by rw [length_ctzLinks]; show 4 * x + 4 ≤ _; omega)
      rw [length_ctzLinks, ← ctzLinks_succ] at hprog
      rw [wp_bind]
      apply wp_lfsGoesBad hprog
      · intro u hu
        refine wp_ite nofun fun _ => wp_ite (fun hnext => ?_) fun hlast => ?_
        · have hx' : x + 1 ≤ trailingZeros n := by omega
          have hpoints := hlist.linked.next hn hx'
          rw [wp_bind]
          apply wp_mono (hu.wp_read (hlist.valid _ (by omega)) (hother _ (by omega)) (by norm_num)
            (by omega) (by omega)) _ fun e v he => he
          rintro bytes v ⟨⟨hlen, hmatches⟩, hv⟩
          rw [wp_pure]
          exact ⟨⟨Nat.succ_le_succ hx, fun _ => hpoints.fromle32 hlen hmatches, hv⟩,
            by show trailingZeros n + 1 - (x + 1) < trailingZeros n + 1 - x; omega⟩
        · rw [wp_pure]
          exact ⟨⟨Nat.succ_le_succ hx, fun hle' => absurd hle' (by show ¬ x + 1 ≤ _; omega), hu⟩,
            by show trailingZeros n + 1 - (x + 1) < trailingZeros n + 1 - x; omega⟩
      · intro u hu
        rw [if_pos rfl, wp_pure]
        exact .inl ⟨rfl, hu⟩
  · exact ⟨Nat.zero_le _, fun _ => by rw [pow_zero], h⟩

/-! ### The file with the new block -/

/-- `size` bytes end in block `n` at `off`, which may be the end of the block. -/
structure CtzEnd (blockSize size n off : ℕ) : Prop where
  content : ctzPointers n ≤ off
  inside : off ≤ blockSize
  size_eq : size = ctzBefore blockSize n + (off - ctzPointers n)

/-- The blocks up to block `n - 1` have the bytes. -/
structure LfsStored (cfg : LfsConfig) (blockCount : ℕ) (known : LfsBlocks) (chain : ℕ → ℕ) (n : ℕ)
    (data : List UInt8) : Prop where
  list : LfsCtzList blockCount known chain n
  bytes : ∀ i m o, i < data.length → CtzPlace cfg.blockSize i m o →
    m < n ∧ known (chain m) o = data[i]?

theorem LfsBlocks.Points.congr {known' : LfsBlocks} {b b' x c : ℕ} (h : known.Points b x c)
    (heq : ∀ k < 4, known' b' (4 * x + k) = known b (4 * x + k)) : known'.Points b' x c :=
  ⟨h.1, fun k hk => (heq k hk).trans (h.2 k hk)⟩

/-- Other blocks do not matter to a file. -/
theorem LfsCtzList.write {chain : ℕ → ℕ} {n : ℕ} (h : LfsCtzList blockCount known chain n)
    (hother : ∀ m < n, chain m ≠ nblock) : LfsCtzList blockCount (known.write nblock bytes) chain n where
  valid := h.valid
  linked m x hpos hm hx := (h.linked m x hpos hm hx).congr fun k _ => by
    rw [LfsBlocks.write_of_ne (hother m hm)]

theorem LfsStored.write {chain : ℕ → ℕ} {n : ℕ} {data : List UInt8}
    (h : LfsStored cfg blockCount known chain n data) (hother : ∀ m < n, chain m ≠ nblock) :
    LfsStored cfg blockCount (known.write nblock bytes) chain n data where
  list := h.list.write hother
  bytes i m o hi hplace := by
    obtain ⟨hm, hknown⟩ := h.bytes i m o hi hplace
    rw [LfsBlocks.write_of_ne (hother m hm)]
    exact ⟨hm, hknown⟩

/-- A list with a new last block. -/
theorem LfsCtzList.snoc {chain : ℕ → ℕ} {m : ℕ} (h : LfsCtzList blockCount known chain m)
    (hnblock : LfsBlockValid blockCount nblock) (hother : ∀ k < m, chain k ≠ nblock)
    (hpoints : ∀ x ≤ trailingZeros m, 0 < m →
      (known.write nblock bytes).Points nblock x (chain (m - 2 ^ x))) :
    LfsCtzList blockCount (known.write nblock bytes) (Function.update chain m nblock) (m + 1) where
  valid k hk := by
    rcases (Nat.le_of_lt_succ hk).eq_or_lt with rfl | hlt
    · rwa [Function.update_self]
    · rw [Function.update_of_ne hlt.ne]
      exact h.valid k hlt
  linked k x hpos hk hx := by
    have hxpos := Nat.two_pow_pos x
    rcases (Nat.le_of_lt_succ hk).eq_or_lt with rfl | hlt
    · rw [Function.update_self, Function.update_of_ne (by omega)]
      exact hpoints x hx hpos
    · rw [Function.update_of_ne hlt.ne, Function.update_of_ne (by omega)]
      exact (h.write hother).linked k x hpos hlt hx

theorem LfsCtzList.le {chain : ℕ → ℕ} {n m : ℕ} (h : LfsCtzList blockCount known chain n) (hle : m ≤ n) :
    LfsCtzList blockCount known chain m :=
  ⟨fun k hk => h.valid k (hk.trans_le hle), fun k x hpos hk hx => h.linked k x hpos (hk.trans_le hle) hx⟩

theorem getElem?_ctzLinks (chain : ℕ → ℕ) (n : ℕ) {x y k : ℕ} (hx : x < y) (hk : k < 4) :
    (ctzLinks chain n y)[4 * x + k]? = (lfsTole32 (chain (n - 2 ^ x)))[k]? := by
  induction y with
  | zero => exact absurd hx (Nat.not_lt_zero x)
  | succ y ih =>
    rw [ctzLinks_succ]
    rcases (Nat.le_of_lt_succ hx).eq_or_lt with rfl | hlt
    · rw [List.getElem?_append_right (by rw [length_ctzLinks]; omega), length_ctzLinks,
        Nat.add_sub_cancel_left]
    · rw [List.getElem?_append_left (by rw [length_ctzLinks]; omega), ih hlt]

/-- What `lfs_ctz_extend` makes of a file. -/
structure LfsExtended (cfg : LfsConfig) (blockCount : ℕ) (known : LfsBlocks) (chain : ℕ → ℕ) (nblock : ℕ)
    (data : List UInt8) (m : ℕ) (bytes : List UInt8) : Prop where
  stored : LfsStored cfg blockCount (known.write nblock bytes) (Function.update chain m nblock) (m + 1) data
  ends : CtzEnd cfg.blockSize data.length m bytes.length
  room : bytes.length < cfg.blockSize

/-- Which block the next byte of a file belongs to. -/
theorem LfsExtended.of_copy {chain : ℕ → ℕ} {last o : ℕ} {data : List UInt8}
    (h : LfsStored cfg blockCount known chain (last + 1) data) (hdata : data ≠ [])
    (hlast : CtzPlace cfg.blockSize (data.length - 1) last o) (hroom : o + 1 < cfg.blockSize)
    (hnblock : LfsBlockValid blockCount nblock) (hother : ∀ m < last + 1, chain m ≠ nblock)
    (hlen : bytes.length = o + 1) (hmatches : Matches (known (chain last)) 0 bytes) :
    LfsExtended cfg blockCount known chain nblock data last bytes := by
  have hpos := List.length_pos_iff.mpr hdata
  have hcontent := hlast.content
  have hsize := hlast.pos_eq
  -- what was known of the old block is known of the new one
  have hcopied : ∀ k ≤ o, ∀ x, known (chain last) k = some x →
      known.write nblock bytes nblock k = some x := by
    intro k hk x hx
    rw [LfsBlocks.write_self]
    exact hmatches k x (by rwa [Nat.zero_add]) (by omega)
  refine ⟨⟨(h.list.le last.le_succ).snoc hnblock (fun k hk => hother k (by omega)) fun x hx hlastPos => ?_,
    fun i m o' hi hplace => ?_⟩, ⟨by omega, by omega, by omega⟩, by omega⟩
  · have hpoints := h.list.linked last x hlastPos last.lt_succ_self hx
    rw [ctzPointers, if_neg hlastPos.ne'] at hcontent
    refine ⟨hpoints.1, fun k hk => ?_⟩
    have hknown := hpoints.2 k hk
    have hlt : k < (lfsTole32 (chain (last - 2 ^ x))).length := hk
    rw [List.getElem?_eq_getElem hlt] at hknown ⊢
    exact hcopied _ (by omega) _ hknown
  · obtain ⟨hm, hknown⟩ := h.bytes i m o' hi hplace
    refine ⟨hm, ?_⟩
    rcases (Nat.le_of_lt_succ hm).eq_or_lt with rfl | hlt
    · rw [Function.update_self]
      rw [List.getElem?_eq_getElem hi] at hknown ⊢
      have hplaceContent := hplace.content
      have hplaceSize := hplace.pos_eq
      exact hcopied _ (by omega) _ hknown
    · rw [Function.update_of_ne hlt.ne, LfsBlocks.write_of_ne (hother m hm)]
      exact hknown

theorem LfsExtended.of_link {chain : ℕ → ℕ} {last o : ℕ} {data : List UInt8}
    (h : LfsStored cfg blockCount known chain (last + 1) data) (hdata : data ≠ [])
    (hlast : CtzPlace cfg.blockSize (data.length - 1) last o) (hfull : o + 1 = cfg.blockSize)
    (hbound : last + 1 < 2 ^ 26) (hnblock : LfsBlockValid blockCount nblock)
    (hother : ∀ m < last + 1, chain m ≠ nblock) :
    LfsExtended cfg blockCount known chain nblock data (last + 1)
      (ctzLinks chain (last + 1) (trailingZeros (last + 1) + 1)) := by
  have hpos := List.length_pos_iff.mpr hdata
  have hcontent := hlast.content
  have hsize := hlast.pos_eq
  have hbefore := ctzBefore_succ cfg.blockSize last
  have hfit := ctzPointers_le hbound
  have hge := cfg.blockSize_ge
  have hlen : (ctzLinks chain (last + 1) (trailingZeros (last + 1) + 1)).length =
      ctzPointers (last + 1) := by
    rw [length_ctzLinks, ctzPointers_succ]
  refine ⟨⟨h.list.snoc hnblock hother fun x hx _ => ⟨?_, fun k hk => ?_⟩, fun i m o' hi hplace => ?_⟩,
    ⟨hlen.ge, by omega, by omega⟩, by omega⟩
  · have hvalid := (h.list.valid (last + 1 - 2 ^ x) (by
      have hxpos := Nat.two_pow_pos x
      omega)).1
    rw [lfsBlockInline] at hvalid
    omega
  · rw [LfsBlocks.write_self]
    exact getElem?_ctzLinks chain (last + 1) (by omega) hk
  · obtain ⟨hm, hknown⟩ := h.bytes i m o' hi hplace
    rw [Function.update_of_ne hm.ne, LfsBlocks.write_of_ne (hother m hm)]
    exact ⟨hm.trans (last + 1).lt_succ_self, hknown⟩

/-- A file without content gets its first block. -/
theorem LfsExtended.of_empty {chain : ℕ → ℕ} (hnblock : LfsBlockValid blockCount nblock) :
    LfsExtended cfg blockCount known chain nblock [] 0 [] := by
  refine ⟨⟨⟨fun k hk => ?_, fun k x hpos hk _ => absurd hpos (by omega)⟩,
    fun i m o hi => absurd hi (Nat.not_lt_zero i)⟩, ⟨le_rfl, Nat.zero_le _, rfl⟩, cfg.blockSize_pos⟩
  obtain rfl : k = 0 := by omega
  rwa [Function.update_self]

/-- **Extending a file** by a block that is not one of its own.  It may go bad, and then the
device has reported that. -/
theorem wp_lfsCtzExtendBlock {chain : ℕ → ℕ} {last o : ℕ} {data : List UInt8}
    (hready : s.Ready cfg blockCount known) (hshows : s.Shows true known)
    (hfree : s.pcache.block = lfsBlockNull) (hnblock : LfsBlockValid blockCount nblock)
    (hlen : data.length < 2 ^ 32) (hbound : last + 1 < 2 ^ 26)
    (hstored : data ≠ [] → LfsStored cfg blockCount known chain (last + 1) data ∧
      CtzPlace cfg.blockSize (data.length - 1) last o ∧ ∀ m < last + 1, chain m ≠ nblock) :
    wp (lfsCtzExtendBlock cfg blockCount (chain last) data.length nblock)
      (fun r s' => (r = none ∧ s.FillError nblock .corrupt s') ∨ ∃ m bytes, r = some bytes.length ∧
        m ≤ last + 1 ∧ LfsExtended cfg blockCount known chain nblock data m bytes ∧
        s.Filling cfg blockCount known nblock bytes s')
      (LfsBd.FillError nblock s) s := by
  have hge := cfg.blockSize_ge
  have hblockSize := cfg.blockSize_le
  rw [lfsCtzExtendBlock, wp_bind]
  have herase := wp_lfsBdErase hready hshows (hfree ▸ hnblock.ne_null.symm) hnblock.ne_null
  apply wp_lfsGoesBad (wp_mono herase (fun _ _ ht => ht) fun e t he => ⟨he.fails, he.writes⟩)
  · rintro t ⟨hwrites, hready', hshows', hpcache, hrcache⟩
    have hfilling : s.Filling cfg blockCount known nblock [] t :=
      ⟨hwrites, fun _ _ => hrcache, hready', hshows', fun _ => Nat.dvd_zero _,
        fun hne => absurd ((congrArg LfsCache.block hpcache).trans hfree) hne⟩
    rw [if_neg Bool.false_ne_true, lfsCtzExtendFill]
    refine wp_ite (fun hzero => ?_) fun hsize => ?_
    · obtain rfl : data = [] := List.length_eq_zero_iff.mp hzero
      rw [wp_pure]
      exact .inr ⟨0, [], rfl, Nat.zero_le _, .of_empty hnblock, hfilling⟩
    · have hdata : data ≠ [] := fun hnil => hsize (by rw [hnil]; rfl)
      obtain ⟨hst, hlast, hother⟩ := hstored hdata
      have hinside := hlast.inside
      have hword : lfsWord ((data.length : ℤ) - 1) = data.length - 1 := by
        have hcast : (data.length - 1 : ℤ) = ((data.length - 1 : ℕ) : ℤ) := by omega
        rw [hcast, lfsWord_of_lt (by omega)]
      simp only [hword, hlast.lfsCtzIndex_eq hge (by omega) (by omega : data.length - 1 < 2 ^ 32)]
      refine wp_ite (fun hcopy => ?_) fun hlink => ?_
      · rw [wp_bind]
        apply wp_mono (wp_lfsCtzExtendCopy hfilling (hst.list.valid last last.lt_succ_self) hnblock
          (hother last last.lt_succ_self) (by omega)) _ fun e u he => he
        rintro bad u (⟨rfl, hfails⟩ | ⟨rfl, bytes, hbytes, hmatches, hu⟩)
        · rw [wp_pure]
          exact .inl ⟨rfl, hfails⟩
        · rw [wp_pure]
          exact .inr ⟨last, bytes, by rw [hbytes]; rfl, last.le_succ,
            .of_copy hst hdata hlast (by omega) hnblock hother hbytes hmatches, hu⟩
      · have hctz : lfsCtz (last + 1) = trailingZeros (last + 1) :=
          lfsCtz_eq (by omega) last.succ_pos
        have hlinkwp := wp_lfsCtzExtendLink (n := last + 1) hfilling hst.list last.succ_pos hbound
          hnblock hother
        rw [Nat.add_sub_cancel] at hlinkwp
        rw [wp_bind, hctz]
        apply wp_mono hlinkwp _ fun e u he => he
        rintro bad u (⟨rfl, hfails⟩ | ⟨rfl, hu⟩)
        · rw [wp_pure]
          exact .inl ⟨rfl, hfails⟩
        · rw [wp_pure]
          exact .inr ⟨last + 1, _, by rw [length_ctzLinks]; rfl, le_rfl,
            .of_link hst hdata hlast (not_not.mp hlink) hbound hnblock hother, hu⟩
  · intro t ht
    rw [if_pos rfl, wp_pure]
    exact .inl ⟨rfl, ht⟩

end Extend

end Bricklib2
