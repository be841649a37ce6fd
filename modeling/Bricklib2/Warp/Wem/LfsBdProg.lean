/-
Bricklib2/Warp/Wem/LfsBdProg.lean

Programming through the caches of littlefs: comparing, flushing and programming.  A block
is programmed from its start on; the bytes of a program unit that were not programmed yet
count as not known.

Main results: `wp_lfsBdProg`, what was programmed is known from then on and all that was
known before still is, wherever the bytes have got to; `wp_lfsBdFlush`, a flush does not
change what is known, and a validation cannot fail unless the device does.
-/
import Bricklib2.Warp.Wem.LfsBdRead

namespace Bricklib2

open Cells Fallible

variable {cfg : LfsConfig} {blockCount : ℕ} {known : LfsBlocks} {pcached validate : Bool}
  {hint block off : ℕ} {s : LfsBd}

/-! ### Comparing -/

theorem memcmp_append {xs xs' ys ys' : List UInt8} (h : xs.length = ys.length) :
    memcmp (xs ++ xs') (ys ++ ys') = if memcmp xs ys = .eq then memcmp xs' ys' else memcmp xs ys := by
  induction xs generalizing ys with
  | nil =>
    obtain rfl := List.length_eq_zero_iff.mp h.symm
    rfl
  | cons x xs ih =>
    cases ys with
    | nil => cases h
    | cons y ys =>
      have hrest := ih (Nat.succ.inj h)
      simp only [List.cons_append, memcmp]
      by_cases hlt : x < y
      · simp [hlt]
      · by_cases hgt : y < x
        · simp [hlt, hgt]
        · simp only [hlt, hgt, if_false, hrest]

theorem memcmp_self (xs : List UInt8) : memcmp xs xs = .eq := by
  induction xs with
  | nil => rfl
  | cons x xs ih => simp [memcmp, ih]

/-- The first `i` bytes are as they should be. -/
structure LfsCmpProgress (cfg : LfsConfig) (pcached : Bool) (known : LfsBlocks) (block off : ℕ)
    (buffer : List UInt8) (s₀ : LfsBd) (i : ℕ) (s : LfsBd) : Prop where
  le : i ≤ buffer.length
  eq : ∃ bytes : List UInt8, bytes.length = i ∧ Matches (known block) off bytes ∧
    memcmp bytes (buffer.take i) = .eq
  read : s₀.Read cfg s
  shows : s.Shows pcached known
  loaded : pcached = false → 8 < buffer.length → i ≠ 0 → s.rcache.block ≠ lfsBlockNull

theorem LfsBd.Read.trans {s s' s'' : LfsBd} (h : s.Read cfg s') (h' : s'.Read cfg s'') :
    s.Read cfg s'' :=
  ⟨h'.pcache.trans h.pcache, fun hfree => (h'.rcache hfree).trans (h.rcache (h'.rcache hfree ▸ hfree)),
    h'.medium.trans h.medium, h.disk.trans h'.disk, h'.ok⟩

/-- Of a block that is known in part there are always bytes to show. -/
theorem exists_matches (m : ℕ → Option UInt8) (off n : ℕ) :
    ∃ bytes : List UInt8, bytes.length = n ∧ Matches m off bytes := by
  refine ⟨load (fun i => (m i).getD 0) off n, length_load _ _ _, matches_load fun k _ x hx => ?_⟩
  rw [hx]
  rfl

/-- **Comparing** takes bytes that are known for what they are, and more than a few of them go
through the read cache. -/
theorem wp_lfsBdCmp {buffer : List UInt8} (hs : s.Ok cfg) (hshows : s.Shows pcached known)
    (hblock : LfsBlockValid blockCount block) (hhint : buffer.length ≤ hint)
    (hle : hint ≤ cfg.blockSize) (hrange : off + buffer.length ≤ cfg.blockSize)
    (hpcache : pcached = true → s.pcache.block = block → cfg.readSize ∣ s.pcache.off) :
    wp (lfsBdCmp cfg blockCount pcached hint block off buffer)
      (fun r s' => (∃ bytes : List UInt8, bytes.length = buffer.length ∧
        Matches (known block) off bytes ∧ r = memcmp bytes buffer) ∧ s.Read cfg s' ∧
        s'.Shows pcached known ∧
        (pcached = false → 8 < buffer.length → s'.rcache.block ≠ lfsBlockNull))
      (LfsBd.ReadError cfg s) s := by
  rw [lfsBdCmp]
  apply wp_iterate (I := LfsCmpProgress cfg pcached known block off buffer s)
    (fun i _ => buffer.length - i)
  · intro i t h
    obtain ⟨bytes, hlen, hmatches, heq⟩ := h.eq
    refine wp_ite (fun hend => ?_) fun hmore => ?_
    · have hi : i = buffer.length := le_antisymm h.le hend
      rw [wp_pure]
      refine ⟨⟨bytes, hlen.trans hi, hmatches, ?_⟩, h.read, h.shows,
        fun hp hlong => h.loaded hp hlong (by omega)⟩
      rw [hi, List.take_length] at heq
      exact heq.symm
    have hblockSize := cfg.blockSize_le
    have hcast : (hint - i : ℤ) = ((hint - i : ℕ) : ℤ) := by omega
    rw [hcast, lfsWord_of_lt (by omega), wp_bind]
    apply wp_mono (wp_lfsBdRead h.read.ok h.shows hblock (by omega) (by omega) (by omega) ?_
      fun _ => rfl)
    · rintro dat t' ⟨hdat, hdatMatches, hread, hshows', -, hload⟩
      have hloaded : pcached = false → 8 < buffer.length → t'.rcache.block ≠ lfsBlockNull := by
        intro hp hlong hfree
        rcases Nat.eq_zero_or_pos i with hzero | hpos
        · have hblock' := hload hp (by omega) (by omega)
          exact hblock.ne_null (hblock'.symm.trans hfree)
        · exact h.loaded hp hlong hpos.ne' (hread.rcache hfree ▸ hfree)
      have hchunk : ((buffer.drop i).take (min (buffer.length - i) 8)).length = dat.length := by
        rw [hdat, List.length_take, List.length_drop]
        omega
      have htake : buffer.take (i + min (buffer.length - i) 8) =
          buffer.take i ++ (buffer.drop i).take (min (buffer.length - i) 8) := List.take_add
      have hprefix : bytes.length = (buffer.take i).length := by
        rw [hlen, List.length_take_of_le h.le]
      have hjoined := hmatches.append (hlen ▸ hdatMatches)
      refine wp_ite (fun hres => ?_) fun hres => ?_
      · rw [wp_pure]
        refine ⟨⟨by omega, ⟨bytes ++ dat, ?_, hjoined, ?_⟩, h.read.trans hread, hshows',
          fun hp hlong _ => hloaded hp hlong⟩, by omega⟩
        · rw [List.length_append, hlen, hdat]
        · rw [htake, memcmp_append hprefix, if_pos heq, hres]
      · rw [wp_pure]
        obtain ⟨rest, hrest, hrestMatches⟩ := exists_matches (known block)
          (off + (bytes ++ dat).length) (buffer.length - (bytes ++ dat).length)
        have hsplit : buffer = buffer.take i ++
            ((buffer.drop i).take (min (buffer.length - i) 8) ++
              buffer.drop (i + min (buffer.length - i) 8)) := by
          rw [← List.append_assoc, ← htake, List.take_append_drop]
        refine ⟨⟨bytes ++ dat ++ rest, ?_, hjoined.append hrestMatches, ?_⟩, h.read.trans hread,
          hshows', hloaded⟩
        · rw [List.length_append, hrest, List.length_append]
          omega
        · conv_rhs => rw [hsplit]
          rw [List.append_assoc, memcmp_append hprefix, if_pos heq, memcmp_append hchunk.symm,
            if_neg hres]
    · exact fun e t' he => ⟨h.read.disk.fails he.1, h.read.trans he.2⟩
    · rw [h.read.pcache]
      exact hpcache
  · exact ⟨Nat.zero_le _, ⟨[], rfl, matches_nil _ _, rfl⟩, .refl hs, hshows,
      fun _ _ hne => absurd rfl hne⟩

/-! ### Flushing -/

/-- Where a program cache that is in use may lie. -/
structure LfsCache.Window (cfg : LfsConfig) (blockCount : ℕ) (c : LfsCache) : Prop where
  valid : LfsBlockValid blockCount c.block
  off_dvd : cfg.progSize ∣ c.off
  size_le : c.size ≤ cfg.cacheSize
  end_le : c.off + c.size ≤ cfg.blockSize

/-- The program cache is not in use, or it has the last bytes of a block that are known. -/
structure LfsBd.Ready (cfg : LfsConfig) (blockCount : ℕ) (known : LfsBlocks) (s : LfsBd) : Prop where
  ok : s.Ok cfg
  window : s.pcache.block ≠ lfsBlockNull → s.pcache.Window cfg blockCount ∧ 0 < s.pcache.size
  tail : s.pcache.block ≠ lfsBlockNull → ∀ o, s.pcache.off + s.pcache.size ≤ o →
    known s.pcache.block o = none

/-- Of the blocks on the medium only one may have changed. -/
structure LfsBd.Writes (block : ℕ) (s s' : LfsBd) : Prop where
  disk : s.disk.Later s'.disk
  medium : ∀ b ≠ block, s'.disk.medium b = s.disk.medium b

theorem LfsBd.Writes.trans {block : ℕ} {s s' s'' : LfsBd} (h : s.Writes block s')
    (h' : s'.Writes block s'') : s.Writes block s'' :=
  ⟨h.disk.trans h'.disk, fun b hb => (h'.medium b hb).trans (h.medium b hb)⟩

theorem LfsBd.Read.writes {s s' : LfsBd} (h : s.Read cfg s') (block : ℕ) : s.Writes block s' :=
  ⟨h.disk, fun b _ => congrFun h.medium b⟩

/-- What can be said of a program that gives up: the device did, and the caches can be used
on. -/
structure LfsBd.ProgError (cfg : LfsConfig) (blockCount block : ℕ) (s₀ : LfsBd) (e : LfsError) (s : LfsBd) :
    Prop where
  fails : s₀.disk.Fails e
  writes : s₀.Writes block s
  ready : s.Ready cfg blockCount fun _ _ => none

namespace LfsCache.Window

variable {c : LfsCache}

theorem block_ne_inline (h : c.Window cfg blockCount) : c.block ≠ lfsBlockInline := h.valid.1.ne

/-- A flush programs the cache up to the end of its last unit, which is in the block. -/
theorem alignup (h : c.Window cfg blockCount) :
    c.size ≤ lfsAlignup c.size cfg.progSize ∧
      c.off + lfsAlignup c.size cfg.progSize ≤ cfg.blockSize := by
  have hsize := h.size_le
  have hend := h.end_le
  have hcache := cfg.cacheSize_le
  have hprog := cfg.progSize_le
  have hblock := cfg.blockSize_le
  have hup := lfsAlignup_le (a := c.size) (b := cfg.blockSize - c.off) (by omega) cfg.progSize_pos
    (Nat.dvd_sub cfg.prog_dvd_block h.off_dvd) (by omega)
  exact ⟨le_lfsAlignup (by omega) cfg.progSize_pos, by omega⟩

end LfsCache.Window

/-- What is known while the cache is being flushed: also the rest of the last unit. -/
def LfsCache.flushed (c : LfsCache) (diff : ℕ) (known : LfsBlocks) : LfsBlocks := fun block off =>
  if block = c.block ∧ c.off ≤ off ∧ off < c.off + diff then some (c.buffer (off - c.off))
  else known block off

/-- What was known before a flush is known while it goes on. -/
theorem LfsBd.Shows.flushed {diff o : ℕ} {x : UInt8} (h : s.Shows true known)
    (htail : ∀ o, s.pcache.off + s.pcache.size ≤ o → known s.pcache.block o = none)
    (hx : known block o = some x) : s.pcache.flushed diff known block o = some x := by
  rw [LfsCache.flushed]
  split_ifs with hin
  · obtain ⟨rfl, hlow, hhigh⟩ := hin
    have hlt : o < s.pcache.off + s.pcache.size := by
      by_contra hge
      rw [htail o (not_lt.mp hge)] at hx
      cases hx
    rw [← h.shown _ _ _ hx, LfsBd.shown, if_pos ⟨rfl, rfl, hlow, hlt⟩]
  · exact hx

/-- The device after the program call of a flush. -/
def LfsBd.programmed (s : LfsBd) (diff : ℕ) : LfsDisk :=
  s.disk.afterProg s.pcache.block s.pcache.off (load s.pcache.buffer 0 diff)

theorem LfsBd.medium_programmed {diff b o : ℕ} (hnone : s.disk.fault = none) :
    (s.programmed diff).medium b o =
      if b = s.pcache.block ∧ s.pcache.off ≤ o ∧ o < s.pcache.off + diff then
        s.pcache.buffer (o - s.pcache.off)
      else s.disk.medium b o := by
  have hdata : s.disk.programmed s.pcache.block s.pcache.off (load s.pcache.buffer 0 diff) =
      store (s.disk.medium s.pcache.block) s.pcache.off (load s.pcache.buffer 0 diff) := by
    rw [LfsDisk.programmed, hnone]
    rfl
  show Function.update s.disk.medium s.pcache.block
    (s.disk.programmed s.pcache.block s.pcache.off (load s.pcache.buffer 0 diff)) b o = _
  rw [hdata]
  rcases eq_or_ne b s.pcache.block with rfl | hb
  · rw [Function.update_self]
    split_ifs with hin
    · obtain ⟨-, hlow, hhigh⟩ := hin
      rw [store_inside hlow (by rw [length_load]; exact hhigh) 0, getD_load 0 (by omega), zero_add]
    · rcases Nat.lt_or_ge o s.pcache.off with hlow | hlow
      · exact store_of_lt hlow
      · exact store_of_ge (by rw [length_load]; exact not_lt.mp fun hhigh => hin ⟨rfl, hlow, hhigh⟩)
  · rw [Function.update_of_ne hb, if_neg fun hin => hb hin.1]

/-- The medium has everything when the cache was programmed, and the read cache says
nothing else if it was dropped or is about another block. -/
theorem LfsBd.Shows.programmed {diff : ℕ} {rcache : LfsCache} (h : s.Shows true known)
    (hnone : s.disk.fault = none) (hnull : s.pcache.block ≠ lfsBlockNull)
    (hdiff : s.pcache.size ≤ diff)
    (hrcache : rcache.block = lfsBlockNull ∨
      rcache = s.rcache ∧ s.rcache.block ≠ s.pcache.block) :
    LfsBd.Shows { s with rcache := rcache, disk := s.programmed diff } false
      (s.pcache.flushed diff known) := by
  have hnotOver {b o : ℕ} (hb : ¬ (b = s.pcache.block ∧ s.pcache.off ≤ o ∧ o < s.pcache.off + diff)) :
      ¬ s.Over true b o := by
    rintro ⟨-, hblock, hlow, hhigh⟩
    exact hb ⟨hblock, hlow, by omega⟩
  refine ⟨fun o => ?_, fun b o x hx => ?_, fun hr i hi x hx _ => ?_⟩
  · rw [LfsCache.flushed, if_neg fun hin => hnull hin.1.symm, h.null]
  · show (s.programmed diff).medium b o = x
    rw [LfsBd.medium_programmed hnone]
    rw [LfsCache.flushed] at hx
    split_ifs at hx ⊢ with hin
    · exact Option.some.inj hx
    · rw [← h.shown _ _ _ hx]
      exact (if_neg (hnotOver hin)).symm
  · rcases hrcache with hdropped | ⟨rfl, hother⟩
    · exact absurd hdropped hr
    · have hout : ¬ (s.rcache.block = s.pcache.block ∧ s.pcache.off ≤ s.rcache.off + i ∧
          s.rcache.off + i < s.pcache.off + diff) := fun hin => hother hin.1
      rw [LfsCache.flushed, if_neg hout] at hx
      exact h.rcache hr i hi x hx (hnotOver hout)

/-- The program cache may be emptied when the medium has what is known. -/
theorem LfsBd.Shows.zero {known' : LfsBlocks} (h : s.Shows false known')
    (hsub : ∀ b o x, known b o = some x → known' b o = some x)
    (hnull : ∀ o, known lfsBlockNull o = none) :
    LfsBd.Shows { s with pcache := s.pcache.zero } true known := by
  have hnotOver {b o : ℕ} : ¬ s.Over false b o := fun hover => absurd hover.1 Bool.false_ne_true
  refine ⟨hnull, fun b o x hx => ?_, fun hr i hi x hx _ => ?_⟩
  · have hb : ¬ LfsBd.Over { s with pcache := s.pcache.zero } true b o := by
      rintro ⟨-, rfl, -⟩
      rw [show known s.pcache.zero.block o = none from hnull o] at hx
      cases hx
    rw [LfsBd.shown, if_neg hb, ← h.shown _ _ _ (hsub _ _ _ hx), LfsBd.shown, if_neg hnotOver]
  · exact h.rcache hr i hi x (hsub _ _ _ hx) hnotOver

theorem LfsDisk.later_afterProg (d : LfsDisk) (b o : ℕ) (data : List UInt8) :
    d.Later (d.afterProg b o data) := ⟨rfl, rfl, List.suffix_cons _ _⟩

theorem LfsBd.writes_programmed (s : LfsBd) (diff : ℕ) (rcache : LfsCache) :
    s.Writes s.pcache.block { s with rcache := rcache, disk := s.programmed diff } :=
  ⟨s.disk.later_afterProg _ _ _, fun _ hb => Function.update_of_ne hb _ _⟩

/-- What a flush leaves behind. -/
structure LfsBd.Flushed (cfg : LfsConfig) (validate : Bool) (known : LfsBlocks) (s s' : LfsBd) : Prop where
  free : s'.pcache.block = lfsBlockNull
  writes : s.Writes s.pcache.block s'
  ok : s'.Ok cfg
  shows : s'.Shows true known
  rcache : validate = true ∨ s'.rcache = s.rcache
  loaded : 8 < s.pcache.size → s'.rcache.block = lfsBlockNull → s'.rcache = s.rcache

/-- **Flushing** does not change what is known. -/
theorem wp_lfsBdFlush (hready : s.Ready cfg blockCount known) (hshows : s.Shows true known)
    (hrcache : s.pcache.block ≠ lfsBlockNull →
      validate = true ∨ s.rcache.block ≠ s.pcache.block) :
    wp (lfsBdFlush cfg blockCount validate) (fun _ s' => s.Flushed cfg validate known s')
      (LfsBd.ProgError cfg blockCount s.pcache.block s) s := by
  rw [lfsBdFlush, wp_bind, wp_get]
  refine wp_ite (fun hused => ?_) fun hfree => ?_
  · obtain ⟨hwindow, hpos⟩ := hready.window hused.1
    obtain ⟨hdiff, hend⟩ := hwindow.alignup
    have hdvd := dvd_lfsAlignup s.pcache.size cfg.progSize
    generalize lfsAlignup s.pcache.size cfg.progSize = diff at *
    have hcall : LfsDiskCall.Ok cfg ⟨.prog, s.pcache.block, s.pcache.off, diff⟩ :=
      ⟨hwindow.off_dvd, hdvd, by show 0 < diff; omega, hend⟩
    have hdisk : (s.programmed diff).Ok cfg := by
      have hlen : (load s.pcache.buffer 0 diff).length = diff := length_load _ _ _
      rw [← hlen] at hcall
      exact hready.ok.disk.record hcall
    rw [wp_bind, wp_modify, wp_bind, wp_check]
    refine ⟨fun e he => ⟨LfsDisk.fails_of_fault he, s.writes_programmed diff s.rcache,
      ⟨hready.ok.rcache_off, hdisk⟩, hready.window, fun _ _ _ => rfl⟩, fun hnone => ?_⟩
    have hsub : ∀ b o x, known b o = some x → s.pcache.flushed diff known b o = some x :=
      fun b o x hx => hshows.flushed (hready.tail hused.1) hx
    rw [wp_bind]
    refine wp_when (fun hvalidate => ?_) fun hvalidate => ?_
    · rw [lfsBdValidate, wp_bind, wp_modify, wp_bind, wp_get, wp_bind]
      have hprogrammed : LfsBd.Shows { s with rcache := s.rcache.drop, disk := s.programmed diff }
          false (s.pcache.flushed diff known) :=
        hshows.programmed hnone hused.1 hdiff (Or.inl rfl)
      refine wp_mono (wp_lfsBdCmp (s := { s with rcache := s.rcache.drop, disk := s.programmed diff })
        ⟨fun h => absurd rfl h, hdisk⟩ hprogrammed hwindow.valid (by rw [length_load])
        (by omega) (by rw [length_load]; exact hend) (fun h => absurd h Bool.false_ne_true)) ?_ ?_
      · rintro r t ⟨⟨bytes, hlen, hmatches, hr⟩, hread, hshown, hloaded⟩
        have hbytes : bytes = load s.pcache.buffer 0 diff := by
          rw [length_load] at hlen
          have hall := hmatches.eq_load (m := fun o => s.pcache.buffer (o - s.pcache.off))
            fun k hk => if_pos ⟨rfl, Nat.le_add_right _ _, Nat.add_lt_add_left (hlen ▸ hk) _⟩
          rw [hall, hlen]
          exact load_shift fun k _ => by rw [Nat.add_sub_cancel_left, zero_add]
        have heq : r = .eq := by rw [hr, hbytes, memcmp_self]
        rw [if_pos heq, wp_pure, wp_modify]
        have hwrites := (s.writes_programmed diff s.rcache.drop).trans (hread.writes _)
        refine ⟨rfl, ⟨hwrites.disk, hwrites.medium⟩, ⟨hread.ok.rcache_off, hread.ok.disk⟩,
          hshown.zero hsub hshows.null, Or.inl hvalidate, fun hlong hfree => ?_⟩
        rw [length_load] at hloaded
        exact absurd hfree (hloaded rfl (by omega))
      · rintro e t ⟨hfails, hread⟩
        have hwrites := s.writes_programmed diff s.rcache.drop
        refine ⟨hwrites.disk.fails hfails, hwrites.trans (hread.writes _), hread.ok, ?_,
          fun _ _ _ => rfl⟩
        rw [hread.pcache]
        exact hready.window
    · have hother := (hrcache hused.1).resolve_left hvalidate
      have hprogrammed : LfsBd.Shows { s with disk := s.programmed diff } false
          (s.pcache.flushed diff known) :=
        hshows.programmed hnone hused.1 hdiff (Or.inr ⟨rfl, hother⟩)
      rw [wp_modify]
      have hwrites := s.writes_programmed diff s.rcache
      exact ⟨rfl, ⟨hwrites.disk, hwrites.medium⟩, ⟨hready.ok.rcache_off, hdisk⟩,
        hprogrammed.zero hsub hshows.null, Or.inr rfl, fun _ _ => rfl⟩
  · have hnull : s.pcache.block = lfsBlockNull := by
      by_contra hne
      exact hfree ⟨hne, (hready.window hne).1.block_ne_inline⟩
    rw [wp_pure]
    exact ⟨hnull, ⟨.refl _, fun _ _ => rfl⟩, hready.ok, hshows, Or.inr rfl, fun _ _ => rfl⟩

/-! ### Programming -/

/-- What is known when `data` has been programmed. -/
def LfsBlocks.put (known : LfsBlocks) (block off : ℕ) (data : List UInt8) : LfsBlocks :=
  Function.update known block (store (known block) off (data.map some))

/-- What is known when the block has been erased. -/
def LfsBlocks.erase (known : LfsBlocks) (block : ℕ) : LfsBlocks :=
  Function.update known block fun _ => none

namespace LfsBlocks

variable {b o : ℕ} {data rest : List UInt8} {x : UInt8}

@[simp] theorem put_nil : known.put block off [] = known := by
  rw [put, List.map_nil, store_nil, Function.update_eq_self]

theorem put_append (known : LfsBlocks) (block off : ℕ) (data rest : List UInt8) :
    known.put block off (data ++ rest) =
      (known.put block off data).put block (off + data.length) rest := by
  rw [put, put, put, Function.update_idem, Function.update_self, List.map_append, store_append,
    List.length_map]

theorem put_of_ne (h : b ≠ block) : known.put block off data b = known b :=
  Function.update_of_ne h _ _

theorem put_of_lt (h : o < off) : known.put block off data block o = known block o := by
  rw [put, Function.update_self, store_of_lt h]

theorem put_of_ge (h : off + data.length ≤ o) :
    known.put block off data block o = known block o := by
  rw [put, Function.update_self, store_of_ge (by rwa [List.length_map])]

/-- A byte that is known after a program is one of the new ones, or it was known. -/
theorem put_cases (h : known.put block off data b o = some x) :
    b = block ∧ off ≤ o ∧ data[o - off]? = some x ∨
      ¬ (b = block ∧ off ≤ o ∧ o < off + data.length) ∧ known b o = some x := by
  rcases eq_or_ne b block with rfl | hb
  · rcases Nat.lt_or_ge o off with hlow | hlow
    · rw [put_of_lt hlow] at h
      exact Or.inr ⟨fun hin => by omega, h⟩
    · rcases Nat.lt_or_ge o (off + data.length) with hhigh | hhigh
      · have hlt : o - off < data.length := by omega
        rw [put, Function.update_self, store_inside hlow (by rwa [List.length_map]) none,
          List.getD_eq_getElem?_getD, List.getElem?_map, List.getElem?_eq_getElem hlt] at h
        exact Or.inl ⟨rfl, hlow, (List.getElem?_eq_getElem hlt).trans h⟩
      · rw [put_of_ge hhigh] at h
        exact Or.inr ⟨fun hin => by omega, h⟩
  · rw [put_of_ne hb] at h
    exact Or.inr ⟨fun hin => hb hin.1, h⟩

end LfsBlocks

/-- There is room for a program: the cache has the place, or it is free and the unit was not
programmed yet. -/
structure LfsBd.Room (cfg : LfsConfig) (known : LfsBlocks) (block off : ℕ) (s : LfsBd) : Prop where
  free : s.pcache.block = lfsBlockNull →
    ∀ o, lfsAligndown off cfg.progSize ≤ o → known block o = none
  used : s.pcache.block ≠ lfsBlockNull →
    s.pcache.block = block ∧ s.pcache.off ≤ off ∧ off < s.pcache.off + cfg.cacheSize

/-- The next byte of the block goes behind what is in the cache, or it is the first one of the
next cache. -/
structure LfsBd.Appends (cfg : LfsConfig) (block off : ℕ) (s : LfsBd) : Prop where
  free : s.pcache.block = lfsBlockNull → cfg.cacheSize ∣ off
  used : s.pcache.block ≠ lfsBlockNull →
    s.pcache.block = block ∧ s.pcache.off + s.pcache.size = off ∧ s.pcache.size < cfg.cacheSize ∧
      cfg.cacheSize ∣ s.pcache.off

theorem LfsBd.Appends.room (h : s.Appends cfg block off)
    (hfree : ∀ o, off ≤ o → known block o = none) : s.Room cfg known block off where
  free hnull o ho := hfree o (lfsAligndown_of_dvd (cfg.prog_dvd_cache.trans (h.free hnull)) ▸ ho)
  used hused := by
    obtain ⟨hblock, hoff, hsize, -⟩ := h.used hused
    exact ⟨hblock, by omega, by omega⟩

/-- The program cache with `data` written over it from `off` on. -/
def LfsBd.cached (s : LfsBd) (off : ℕ) (data : List UInt8) : LfsBd :=
  { s with
    pcache :=
      { s.pcache with
        buffer := store s.pcache.buffer (off - s.pcache.off) data
        size := max s.pcache.size (off + data.length - s.pcache.off) } }

/-- Bytes in the program cache are known at once. -/
theorem LfsBd.Shows.cached {data : List UInt8} (h : s.Shows true known)
    (hnull : s.pcache.block ≠ lfsBlockNull) (hlow : s.pcache.off ≤ off)
    (htail : ∀ o, s.pcache.off + s.pcache.size ≤ o → known s.pcache.block o = none) :
    (s.cached off data).Shows true (known.put s.pcache.block off data) := by
  -- what was known elsewhere is where it was
  have hover {b o : ℕ} {x : UInt8} (hx : known b o = some x)
      (hout : ¬ (b = s.pcache.block ∧ off ≤ o ∧ o < off + data.length)) :
      ((s.cached off data).Over true b o ↔ s.Over true b o) := by
    constructor
    · rintro ⟨-, rfl, hlow', hhigh⟩
      refine ⟨rfl, rfl, hlow', ?_⟩
      by_contra hge
      rw [show known (s.cached off data).pcache.block o = none from htail o (not_lt.mp hge)] at hx
      cases hx
    · rintro ⟨-, rfl, hlow', hhigh⟩
      refine ⟨rfl, rfl, hlow', ?_⟩
      show o < s.pcache.off + max s.pcache.size (off + data.length - s.pcache.off)
      omega
  refine ⟨fun o => ?_, fun b o x hx => ?_, fun hr i hi x hx hnot => ?_⟩
  · rw [LfsBlocks.put_of_ne hnull.symm, h.null]
  · rcases LfsBlocks.put_cases hx with ⟨rfl, hlow', hbyte⟩ | ⟨hout, hknown⟩
    · have hhigh : o - off < data.length := (List.getElem?_eq_some_iff.mp hbyte).1
      have hin : (s.cached off data).Over true s.pcache.block o := by
        refine ⟨rfl, rfl, ?_, ?_⟩
        · show s.pcache.off ≤ o
          omega
        · show o < s.pcache.off + max s.pcache.size (off + data.length - s.pcache.off)
          omega
      rw [LfsBd.shown, if_pos hin]
      show store s.pcache.buffer (off - s.pcache.off) data (o - s.pcache.off) = x
      rw [store_inside_eq (by omega)]
      rw [show o - s.pcache.off - (off - s.pcache.off) = o - off by omega, hbyte]
    · rw [← h.shown _ _ _ hknown, LfsBd.shown, LfsBd.shown]
      by_cases hin : s.Over true b o
      · rw [if_pos hin, if_pos ((hover hknown hout).mpr hin)]
        show store s.pcache.buffer (off - s.pcache.off) data (o - s.pcache.off) = _
        obtain ⟨-, rfl, hlow', -⟩ := hin
        rcases Nat.lt_or_ge o off with hlt | hge
        · exact store_of_lt (by omega)
        · refine store_of_ge ?_
          have hge' : off + data.length ≤ o := not_lt.mp fun hlt => hout ⟨rfl, hge, hlt⟩
          omega
      · rw [if_neg hin, if_neg fun hin' => hin ((hover hknown hout).mp hin')]
        rfl
  · rcases LfsBlocks.put_cases hx with ⟨hb, hlow', hbyte⟩ | ⟨hout, hknown⟩
    · have hhigh : s.rcache.off + i - off < data.length := (List.getElem?_eq_some_iff.mp hbyte).1
      refine absurd ⟨rfl, hb, ?_, ?_⟩ hnot
      · show s.pcache.off ≤ s.rcache.off + i
        have hlow' : off ≤ s.rcache.off + i := hlow'
        omega
      · show s.rcache.off + i < s.pcache.off + max s.pcache.size (off + data.length - s.pcache.off)
        have hlow' : off ≤ s.rcache.off + i := hlow'
        omega
    · exact h.rcache hr i hi x hknown fun hin => hnot ((hover hknown hout).mpr hin)

/-- A free program cache may be put to use with nothing in it. -/
theorem LfsBd.Shows.empty {c : LfsCache} (h : s.Shows true known)
    (hfree : s.pcache.block = lfsBlockNull) (hc : c.size = 0) :
    LfsBd.Shows { s with pcache := c } true known := by
  have hnew {b o : ℕ} : ¬ LfsBd.Over { s with pcache := c } true b o := by
    rintro ⟨-, -, hlow, hhigh⟩
    have hhigh : o < c.off + c.size := hhigh
    have hlow : c.off ≤ o := hlow
    omega
  have hold {b o : ℕ} {x : UInt8} (hx : known b o = some x) : ¬ s.Over true b o := by
    rintro ⟨-, rfl, -⟩
    rw [hfree, h.null] at hx
    cases hx
  refine ⟨h.null, fun b o x hx => ?_, fun hr i hi x hx _ => h.rcache hr i hi x hx (hold hx)⟩
  rw [← h.shown _ _ _ hx, LfsBd.shown, LfsBd.shown, if_neg hnew, if_neg (hold hx)]

section Loop

variable {goal : LfsBlocks} {s₀ : LfsBd} {l : ℕ × List UInt8} {start stop : ℕ}

/-- What is left to be programmed makes `goal` of what is known.  The caches are as between two
programs, but the program cache may be in use with nothing in it. -/
structure LfsProgProgress (cfg : LfsConfig) (blockCount : ℕ) (validate : Bool) (goal : LfsBlocks)
    (block start stop : ℕ) (s₀ : LfsBd) (known : LfsBlocks) (l : ℕ × List UInt8) (s : LfsBd) :
    Prop where
  goal : known.put block l.1 l.2 = goal
  stop_eq : l.1 + l.2.length = stop
  appends : s₀.Appends cfg block start → s.Appends cfg block l.1
  writes : s₀.Writes block s
  ok : s.Ok cfg
  shows : s.Shows true known
  window : s.pcache.block ≠ lfsBlockNull → s.pcache.Window cfg blockCount
  tail : s.pcache.block ≠ lfsBlockNull → ∀ o, s.pcache.off + s.pcache.size ≤ o →
    known s.pcache.block o = none
  room : l.2 ≠ [] → s.Room cfg known block l.1
  filled : l.2 = [] → s.pcache.block ≠ lfsBlockNull → 0 < s.pcache.size
  rcache : validate = true ∨ s.rcache.block ≠ block
  loaded : 8 < cfg.cacheSize → s.rcache.block = lfsBlockNull → s.rcache = s₀.rcache

/-- Rounds that may follow: a byte takes two at most, and one if the cache is at its place. -/
def lfsProgRounds (l : ℕ × List UInt8) (s : LfsBd) : ℕ :=
  2 * l.2.length + if s.pcache.block = lfsBlockNull then 1 else 0

/-- What programming leaves behind. -/
structure LfsBd.Programmed (cfg : LfsConfig) (blockCount : ℕ) (validate : Bool) (goal : LfsBlocks)
    (block start stop : ℕ) (s₀ s : LfsBd) : Prop where
  writes : s₀.Writes block s
  ready : s.Ready cfg blockCount goal
  shows : s.Shows true goal
  rcache : validate = true ∨ s.rcache.block ≠ block
  loaded : 8 < cfg.cacheSize → s.rcache.block = lfsBlockNull → s.rcache = s₀.rcache
  appends : s₀.Appends cfg block start → s.Appends cfg block stop

/-- A round that writes into the program cache. -/
theorem wp_lfsBdProgRound_cached (hblock : LfsBlockValid blockCount block) (hdata : l.2 ≠ [])
    (hused : s.pcache.block = block) (hlow : s.pcache.off ≤ l.1)
    (hhigh : l.1 < s.pcache.off + cfg.cacheSize) (hstop : stop ≤ cfg.blockSize)
    (h : LfsProgProgress cfg blockCount validate goal block start stop s₀ known l s) :
    let diff := min l.2.length (cfg.cacheSize - (l.1 - s.pcache.off))
    wp (when ((s.cached l.1 (l.2.take diff)).pcache.size = cfg.cacheSize)
        (lfsBdFlush cfg blockCount validate))
      (fun _ s' => ∃ known', LfsProgProgress cfg blockCount validate goal block start stop s₀ known'
        (l.1 + diff, l.2.drop diff) s')
      (LfsBd.ProgError cfg blockCount block s₀) (s.cached l.1 (l.2.take diff)) := by
  intro diff
  have hlen : 0 < l.2.length := List.length_pos_iff.mpr hdata
  have hnull : s.pcache.block ≠ lfsBlockNull := hused ▸ hblock.ne_null
  have hwindow := h.window hnull
  have hsize := hwindow.size_le
  have hend := hwindow.end_le
  have hrange := h.stop_eq
  have hchunk : (l.2.take diff).length = diff := by
    rw [List.length_take]
    omega
  -- the state between the two statements is one between two programs
  have hcached : (s.cached l.1 (l.2.take diff)).pcache.size =
      max s.pcache.size (l.1 + diff - s.pcache.off) := by
    show max s.pcache.size (l.1 + (l.2.take diff).length - s.pcache.off) = _
    rw [hchunk]
  have hshows : (s.cached l.1 (l.2.take diff)).Shows true (known.put block l.1 (l.2.take diff)) :=
    hused ▸ h.shows.cached hnull hlow (h.tail hnull)
  have hready : (s.cached l.1 (l.2.take diff)).Ready cfg blockCount
      (known.put block l.1 (l.2.take diff)) := by
    refine ⟨⟨h.ok.rcache_off, h.ok.disk⟩, fun _ => ⟨⟨hwindow.valid, hwindow.off_dvd, ?_, ?_⟩, ?_⟩,
      fun _ o ho => ?_⟩
    · rw [hcached]
      omega
    · rw [hcached]
      show s.pcache.off + max _ _ ≤ _
      omega
    · rw [hcached]
      omega
    · rw [hcached] at ho
      have ho : s.pcache.off + max s.pcache.size (l.1 + diff - s.pcache.off) ≤ o := ho
      show known.put block l.1 (l.2.take diff) s.pcache.block o = none
      rw [hused, LfsBlocks.put_of_ge (by omega), ← hused]
      exact h.tail hnull o (by omega)
  have hgoal : (known.put block l.1 (l.2.take diff)).put block (l.1 + diff) (l.2.drop diff) = goal := by
    have happend := known.put_append block l.1 (l.2.take diff) (l.2.drop diff)
    rw [List.take_append_drop, hchunk] at happend
    rw [← happend, h.goal]
  have hdrop : (l.2.drop diff).length = l.2.length - diff := List.length_drop
  have hend' : l.1 + diff + (l.2.drop diff).length = stop := by omega
  refine wp_when (fun hfull => ?_) fun hroom => ?_
  · rw [hcached] at hfull
    apply wp_mono (wp_lfsBdFlush hready hshows fun _ => hused ▸ h.rcache)
    · rintro - t ⟨hfree, hwrites, hok, hshown, hrcache, hloaded⟩
      have hwrites : s.Writes block t := ⟨hwrites.disk, hused ▸ hwrites.medium⟩
      refine ⟨_, hgoal, hend', fun happends => ⟨fun _ => ?_, fun hne => absurd hfree hne⟩,
        h.writes.trans hwrites, hok, hshown, fun hne => absurd hfree hne,
        fun hne => absurd hfree hne, fun hmore => ⟨fun _ o ho => ?_, fun hne => absurd hfree hne⟩,
        fun _ hne => absurd hfree hne, ?_, fun hlong hnull' => ?_⟩
      · obtain ⟨-, hoff, hlt, hdvd⟩ := (h.appends happends).used hnull
        have hnext : l.1 + diff = s.pcache.off + cfg.cacheSize := by omega
        show cfg.cacheSize ∣ l.1 + diff
        exact hnext ▸ Nat.dvd_add hdvd dvd_rfl
      · -- the next unit begins where the cache ended
        have hpos : 0 < (l.2.drop diff).length := List.length_pos_iff.mpr hmore
        have hnext : l.1 + diff = s.pcache.off + cfg.cacheSize := by omega
        have hdvd : cfg.progSize ∣ l.1 + diff :=
          hnext ▸ Nat.dvd_add hwindow.off_dvd cfg.prog_dvd_cache
        have ho : l.1 + diff ≤ o := lfsAligndown_of_dvd hdvd ▸ ho
        rw [LfsBlocks.put_of_ge (by omega), ← hused]
        exact h.tail hnull o (by omega)
      · rcases hrcache with hvalidate | hsame
        · exact Or.inl hvalidate
        · rw [hsame]
          exact h.rcache
      · have hsame := hloaded (by rw [hcached]; omega) hnull'
        exact hsame.trans (h.loaded hlong (hsame ▸ hnull'))
    · rintro e t ⟨hfails, hwrites, hready⟩
      have hwrites : s.Writes block t := ⟨hwrites.disk, hused ▸ hwrites.medium⟩
      exact ⟨h.writes.disk.fails hfails, h.writes.trans hwrites, hready⟩
  · rw [hcached] at hroom
    have hempty : l.2.drop diff = [] := List.length_eq_zero_iff.mp (by omega)
    refine ⟨_, hgoal, hend',
      fun happends => ⟨fun hfree => absurd hfree hnull, fun _ => ⟨hused, ?_, ?_, ?_⟩⟩,
      ⟨h.writes.disk, h.writes.medium⟩, hready.ok, hshows, fun hne => (hready.window hne).1, hready.tail,
      fun hmore => absurd hempty hmore, fun _ hne => (hready.window hne).2, h.rcache, h.loaded⟩
    · obtain ⟨-, hoff, -⟩ := (h.appends happends).used hnull
      rw [hcached]
      show s.pcache.off + _ = l.1 + diff
      omega
    · rw [hcached]
      omega
    · exact ((h.appends happends).used hnull).2.2.2

/-- **A round** of the loop. -/
theorem wp_lfsBdProgRound (hblock : LfsBlockValid blockCount block) (hstop : stop ≤ cfg.blockSize)
    (h : LfsProgProgress cfg blockCount validate goal block start stop s₀ known l s) :
    wp (lfsBdProgRound cfg blockCount validate block l)
      (fun r s' => r.elim
        (fun l' => (∃ known', LfsProgProgress cfg blockCount validate goal block start stop s₀ known' l' s') ∧
          lfsProgRounds l' s' < lfsProgRounds l s)
        (fun _ => s₀.Programmed cfg blockCount validate goal block start stop s'))
      (LfsBd.ProgError cfg blockCount block s₀) s := by
  have hnull := hblock.ne_null
  obtain ⟨off, data⟩ := l
  rw [lfsBdProgRound]
  refine wp_ite (fun hend => ?_) fun hdata => ?_
  · have hgoal := h.goal
    rw [hend, LfsBlocks.put_nil] at hgoal
    rw [wp_pure]
    have hoff : off = stop := by
      have hsum := h.stop_eq
      rw [hend] at hsum
      exact hsum
    exact ⟨h.writes, hgoal ▸ ⟨h.ok, fun hne => ⟨h.window hne, h.filled hend hne⟩, h.tail⟩,
      hgoal ▸ h.shows, h.rcache, h.loaded, fun happends => hoff ▸ h.appends happends⟩
  rw [wp_bind, wp_get]
  refine wp_ite (fun hin => ?_) fun hout => ?_
  · obtain ⟨hused, hlow, hhigh⟩ := hin
    have hlen : 0 < data.length := List.length_pos_iff.mpr hdata
    have hchunk : (data.take (min data.length (cfg.cacheSize - (off - s.pcache.off)))).length =
        min data.length (cfg.cacheSize - (off - s.pcache.off)) := by
      rw [List.length_take]
      omega
    have hround := wp_lfsBdProgRound_cached hblock hdata hused.symm hlow hhigh hstop h
    rw [wp_bind, wp_modify, wp_bind]
    simp only [LfsBd.cached, hchunk] at hround
    apply wp_mono hround
    · rintro - t ⟨known', hnext⟩
      rw [wp_pure]
      refine ⟨⟨known', hnext⟩, ?_⟩
      simp only [lfsProgRounds, List.length_drop]
      split_ifs <;> omega
    · exact fun e t he => he
  · have hroom := h.room hdata
    have hfree : s.pcache.block = lfsBlockNull := by
      by_contra hne
      obtain ⟨hsame, hlow, hhigh⟩ := hroom.used hne
      exact hout ⟨hsame.symm, hlow, hhigh⟩
    have hdown := lfsAligndown_le off cfg.progSize
    have hcache := Nat.le_of_dvd cfg.cacheSize_pos cfg.prog_dvd_cache
    have hlt := lt_lfsAligndown_add off cfg.progSize_pos
    have hrange := h.stop_eq
    rw [wp_bind, wp_modify, wp_pure]
    refine ⟨⟨known, h.goal, h.stop_eq, ?_, ⟨h.writes.disk, h.writes.medium⟩,
      ⟨h.ok.rcache_off, h.ok.disk⟩, ?_, ?_, ?_, ?_, ?_, h.rcache, h.loaded⟩, ?_⟩
    · intro happends
      have hdvd := (h.appends happends).free hfree
      have halign := lfsAligndown_of_dvd (cfg.prog_dvd_cache.trans hdvd)
      refine ⟨fun hne => absurd hne hnull, fun _ => ⟨rfl, ?_, cfg.cacheSize_pos, ?_⟩⟩
      · show lfsAligndown off cfg.progSize + 0 = off
        rw [halign, Nat.add_zero]
      · show cfg.cacheSize ∣ lfsAligndown off cfg.progSize
        rwa [halign]
    · exact h.shows.empty hfree rfl
    · exact fun _ => ⟨hblock, dvd_lfsAligndown _ _, Nat.zero_le _, by
        show lfsAligndown off cfg.progSize + 0 ≤ _
        have hrange : off + data.length = stop := hrange
        omega⟩
    · intro _ o ho
      exact hroom.free hfree o ho
    · refine fun _ => ⟨fun hne => absurd hne hnull, fun _ => ⟨rfl, hdown, ?_⟩⟩
      show off < lfsAligndown off cfg.progSize + cfg.cacheSize
      omega
    · exact fun hend => absurd hend hdata
    · simp only [lfsProgRounds]
      rw [if_pos hfree, if_neg hnull]
      omega

/-- **Programming.** -/
theorem wp_lfsBdProg {data : List UInt8} (hready : s.Ready cfg blockCount known)
    (hshows : s.Shows true known) (hblock : LfsBlockValid blockCount block)
    (hrange : off + data.length ≤ cfg.blockSize) (hroom : s.Room cfg known block off)
    (hrcache : validate = true ∨ s.rcache.block ≠ block) :
    wp (lfsBdProg cfg blockCount validate block off data)
      (fun _ s' => s.Programmed cfg blockCount validate (known.put block off data) block off
        (off + data.length) s')
      (LfsBd.ProgError cfg blockCount block s) s := by
  apply wp_iterate (I := fun l t => ∃ known', LfsProgProgress cfg blockCount validate
    (known.put block off data) block off (off + data.length) s known' l t) lfsProgRounds
  · rintro l t ⟨known', h⟩
    exact wp_lfsBdProgRound hblock hrange h
  · exact ⟨known, rfl, rfl, fun happends => happends, ⟨.refl _, fun _ _ => rfl⟩, hready.ok, hshows,
      fun h => (hready.window h).1, hready.tail, fun _ => hroom, fun _ h => (hready.window h).2,
      hrcache, fun _ _ => rfl⟩

end Loop

/-! ### Erasing and synchronising -/

theorem wp_lfsBdErase (hready : s.Ready cfg blockCount known) (hshows : s.Shows true known)
    (hother : s.pcache.block ≠ block) (hnull : block ≠ lfsBlockNull) :
    wp (lfsBdErase block)
      (fun _ s' => s.Writes block s' ∧ s'.Ready cfg blockCount (known.erase block) ∧
        s'.Shows true (known.erase block) ∧ s'.pcache = s.pcache ∧ s'.rcache = s.rcache)
      (LfsBd.ProgError cfg blockCount block s) s := by
  have hwrites : s.Writes block { s with disk := s.disk.afterErase block } :=
    ⟨⟨rfl, rfl, List.suffix_cons _ _⟩, fun _ hb => Function.update_of_ne hb _ _⟩
  have hok : LfsBd.Ok cfg { s with disk := s.disk.afterErase block } :=
    ⟨hready.ok.rcache_off, hready.ok.disk.record trivial⟩
  have herased {b o : ℕ} {x : UInt8} (hx : known.erase block b o = some x) :
      b ≠ block ∧ known b o = some x := by
    rcases eq_or_ne b block with rfl | hb
    · rw [LfsBlocks.erase, Function.update_self] at hx
      cases hx
    · rw [LfsBlocks.erase, Function.update_of_ne hb] at hx
      exact ⟨hb, hx⟩
  rw [lfsBdErase, wp_bind, wp_get, wp_bind, wp_modify, wp_check]
  refine ⟨fun e he => ⟨LfsDisk.fails_of_fault he, hwrites, hok, hready.window, fun _ _ _ => rfl⟩,
    fun _ => ⟨hwrites, ⟨hok, hready.window, fun hne o ho => ?_⟩, ⟨fun o => ?_, fun b o x hx => ?_,
      fun hr i hi x hx hnot => hshows.rcache hr i hi x (herased hx).2 hnot⟩, rfl, rfl⟩⟩
  · show known.erase block s.pcache.block o = none
    rw [LfsBlocks.erase, Function.update_of_ne hother]
    exact hready.tail hne o ho
  · rw [LfsBlocks.erase, Function.update_of_ne hnull.symm, hshows.null]
  · obtain ⟨hb, hknown⟩ := herased hx
    rw [← hshows.shown _ _ _ hknown, LfsBd.shown, LfsBd.shown]
    have hmedium : (s.disk.afterErase block).medium b = s.disk.medium b :=
      Function.update_of_ne hb _ _
    show (if s.Over true b o then _ else (s.disk.afterErase block).medium b o) = _
    rw [hmedium]

/-- Dropping the read cache takes nothing away. -/
theorem LfsBd.Shows.dropped (h : s.Shows pcached known) :
    LfsBd.Shows { s with rcache := s.rcache.drop } pcached known :=
  ⟨h.null, h.shown, fun hne => absurd rfl hne⟩

theorem wp_lfsBdSync (hready : s.Ready cfg blockCount known) (hshows : s.Shows true known) :
    wp (lfsBdSync cfg blockCount validate)
      (fun _ s' => s'.pcache.block = lfsBlockNull ∧ s.Writes s.pcache.block s' ∧ s'.Ok cfg ∧
        s'.Shows true known)
      (LfsBd.ProgError cfg blockCount s.pcache.block s) s := by
  have hdropped : LfsBd.Ready cfg blockCount known { s with rcache := s.rcache.drop } :=
    ⟨⟨fun hne => absurd rfl hne, hready.ok.disk⟩, hready.window, hready.tail⟩
  rw [lfsBdSync, wp_bind, wp_modify, wp_bind]
  apply wp_mono (wp_lfsBdFlush hdropped hshows.dropped fun hne => Or.inr hne.symm)
  · rintro - t ⟨hfree, hwrites, hok, hshown, -, -⟩
    have hwrites' : s.Writes s.pcache.block { t with disk := t.disk.record ⟨.sync, 0, 0, 0⟩ } :=
      ⟨hwrites.disk.trans (.record _ _), hwrites.medium⟩
    have hok' : LfsBd.Ok cfg { t with disk := t.disk.record ⟨.sync, 0, 0, 0⟩ } :=
      ⟨hok.rcache_off, hok.disk.record trivial⟩
    rw [wp_bind, wp_get, wp_bind, wp_modify, wp_check]
    exact ⟨fun e he => ⟨hwrites.disk.fails (LfsDisk.fails_of_fault he), hwrites', hok',
        fun hne => absurd hfree hne, fun _ _ _ => rfl⟩,
      fun _ => ⟨hfree, hwrites', hok', hshown.null, hshown.shown, hshown.rcache⟩⟩
  · exact fun e t he => ⟨he.fails, ⟨he.writes.disk, he.writes.medium⟩, he.ready⟩

/-- What is known when a cache that was not flushed is given up. -/
def LfsBlocks.lose (known : LfsBlocks) (c : LfsCache) : LfsBlocks :=
  fun b o => if c.has b o then none else known b o

theorem LfsBlocks.lose_eq_some {c : LfsCache} {b o : ℕ} {x : UInt8} :
    known.lose c b o = some x ↔ ¬ c.has b o ∧ known b o = some x := by
  rw [lose]
  split_ifs with h
  · simp [h]
  · simp [h]

/-- Dropping the program cache takes away what only it had. -/
theorem LfsBd.Shows.pcacheDropped (h : s.Shows true known) :
    LfsBd.Shows { s with pcache := s.pcache.drop } true (known.lose s.pcache) := by
  have hnull (o : ℕ) : known.lose s.pcache lfsBlockNull o = none := by
    rw [LfsBlocks.lose, h.null, ite_self]
  refine ⟨hnull, fun b o x hx => ?_, fun hr i hi x hx _ => ?_⟩
  · have hfree : ¬ LfsBd.Over { s with pcache := s.pcache.drop } true b o := by
      rintro ⟨-, rfl, -⟩
      rw [show known.lose s.pcache s.pcache.drop.block o = none from hnull o] at hx
      cases hx
    obtain ⟨hlost, hknown⟩ := LfsBlocks.lose_eq_some.mp hx
    rw [LfsBd.shown, if_neg hfree, ← h.shown _ _ _ hknown]
    exact (if_neg fun hover => hlost hover.2).symm
  · obtain ⟨hlost, hknown⟩ := LfsBlocks.lose_eq_some.mp hx
    exact h.rcache hr i hi x hknown fun hover => hlost hover.2

end Bricklib2
