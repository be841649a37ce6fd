/-
Bricklib2/Warp/Wem/LfsBdRead.lean

What a read through the caches of littlefs gives.  The program cache lies over the medium
(`LfsBd.shown`).  Of the blocks only a part is known, what was programmed since the last
erase; the read cache has to agree with that part only (`LfsBd.Shows`), so it may hold what
an erased block was before.

Main result: `wp_lfsBdRead`, a read comes to an end and returns what is known, however it is
spread over the two caches and the medium, or it gives up with an error of the device.
-/
import Bricklib2.Warp.Wem.LfsBd

namespace Bricklib2

open Cells Fallible

/-! ### Views -/

/-- The program cache has the byte. -/
def LfsCache.has (c : LfsCache) (block off : ℕ) : Prop :=
  block = c.block ∧ c.off ≤ off ∧ off < c.off + c.size

instance (c : LfsCache) (block off : ℕ) : Decidable (c.has block off) :=
  inferInstanceAs (Decidable (_ ∧ _ ∧ _))

/-- The program cache has the byte and is looked into. -/
def LfsBd.Over (s : LfsBd) (pcached : Bool) (block off : ℕ) : Prop :=
  pcached = true ∧ s.pcache.has block off

instance (s : LfsBd) (pcached : Bool) (block off : ℕ) : Decidable (s.Over pcached block off) :=
  inferInstanceAs (Decidable (_ ∧ _))

/-- A block as the program cache, if it is looked into, and the medium show it. -/
def LfsBd.shown (s : LfsBd) (pcached : Bool) (block : ℕ) : ℕ → UInt8 := fun off =>
  if s.Over pcached block off then s.pcache.buffer (off - s.pcache.off)
  else s.disk.medium block off

/-- What is known of the blocks: nothing of the bytes that were not programmed since their
block was erased. -/
abbrev LfsBlocks := ℕ → ℕ → Option UInt8

/-- What is known is shown, and the read cache does not say otherwise. -/
structure LfsBd.Shows (s : LfsBd) (pcached : Bool) (known : LfsBlocks) : Prop where
  null : ∀ off, known lfsBlockNull off = none
  shown : ∀ block off x, known block off = some x → s.shown pcached block off = x
  rcache : s.rcache.block ≠ lfsBlockNull → ∀ i < s.rcache.size, ∀ x,
    known s.rcache.block (s.rcache.off + i) = some x →
      ¬ s.Over pcached s.rcache.block (s.rcache.off + i) → s.rcache.buffer i = x

/-- A block number that is not one of the marks. -/
def LfsBlockValid (blockCount block : ℕ) : Prop :=
  block < lfsBlockInline ∧ (blockCount ≠ 0 → block < blockCount)

theorem lfsBlockInline_lt_null : lfsBlockInline < lfsBlockNull := by
  rw [lfsBlockInline, lfsBlockNull]
  omega

theorem LfsBlockValid.ne_null {blockCount block : ℕ} (h : LfsBlockValid blockCount block) :
    block ≠ lfsBlockNull :=
  (h.1.trans lfsBlockInline_lt_null).ne

/-! ### Invariants -/

/-- Reads are of whole read units inside of a block, programs of whole program units. -/
def LfsDiskCall.Ok (cfg : LfsConfig) (call : LfsDiskCall) : Prop :=
  match call.op with
  | .read =>
    cfg.readSize ∣ call.off ∧ cfg.readSize ∣ call.size ∧ 0 < call.size ∧
      call.off + call.size ≤ cfg.blockSize
  | .prog =>
    cfg.progSize ∣ call.off ∧ cfg.progSize ∣ call.size ∧ 0 < call.size ∧
      call.off + call.size ≤ cfg.blockSize
  | .erase | .sync => True

/-- The driver was only called in the units it is made for. -/
def LfsDisk.Ok (cfg : LfsConfig) (d : LfsDisk) : Prop := ∀ call ∈ d.calls, call.Ok cfg

/-- What holds of the caches and the calls at any time, whatever the read cache has. -/
structure LfsBd.Ok (cfg : LfsConfig) (s : LfsBd) : Prop where
  rcache_off : s.rcache.block ≠ lfsBlockNull → cfg.readSize ∣ s.rcache.off
  disk : s.disk.Ok cfg

/-- The later of two states of a device. -/
structure LfsDisk.Later (d d' : LfsDisk) : Prop where
  faults : d'.faults = d.faults
  junk : d'.junk = d.junk
  calls : d.calls <:+ d'.calls

/-- One of the calls from now on reports the error. -/
def LfsDisk.Fails (d : LfsDisk) (e : LfsError) : Prop :=
  ∃ n, d.calls.length ≤ n ∧ d.faults n = some e

/-- No call from now on reports an error. -/
def LfsDisk.Works (d : LfsDisk) : Prop := ∀ n, d.calls.length ≤ n → d.faults n = none

theorem LfsDisk.Works.not_fails {d : LfsDisk} {e : LfsError} (h : d.Works) : ¬ d.Fails e := by
  rintro ⟨n, hn, he⟩
  rw [h n hn] at he
  cases he

namespace LfsDisk.Later

variable {d d' d'' : LfsDisk} {e : LfsError} {call : LfsDiskCall}

theorem refl (d : LfsDisk) : d.Later d := ⟨rfl, rfl, List.suffix_refl _⟩

theorem trans (h : d.Later d') (h' : d'.Later d'') : d.Later d'' :=
  ⟨h'.faults.trans h.faults, h'.junk.trans h.junk, h.calls.trans h'.calls⟩

theorem record (d : LfsDisk) (call : LfsDiskCall) : d.Later (d.record call) :=
  ⟨rfl, rfl, List.suffix_cons _ _⟩

theorem fails (h : d.Later d') (he : d'.Fails e) : d.Fails e := by
  obtain ⟨n, hn, he⟩ := he
  refine ⟨n, h.calls.length_le.trans hn, ?_⟩
  rwa [← h.faults]

end LfsDisk.Later

theorem LfsDisk.fails_of_fault {d : LfsDisk} {e : LfsError} (h : d.fault = some e) : d.Fails e :=
  ⟨d.calls.length, le_rfl, h⟩

theorem LfsDisk.Ok.record {cfg : LfsConfig} {d : LfsDisk} {call : LfsDiskCall} (h : d.Ok cfg)
    (hcall : call.Ok cfg) : (d.record call).Ok cfg := by
  intro c hc
  rcases List.mem_cons.mp hc with rfl | hc
  · exact hcall
  · exact h c hc

/-- What a read leaves behind: the program cache and the medium are as they were, and so is a
read cache that is not in use. -/
structure LfsBd.Read (cfg : LfsConfig) (s s' : LfsBd) : Prop where
  pcache : s'.pcache = s.pcache
  rcache : s'.rcache.block = lfsBlockNull → s'.rcache = s.rcache
  medium : s'.disk.medium = s.disk.medium
  disk : s.disk.Later s'.disk
  ok : s'.Ok cfg

theorem LfsBd.Read.refl {cfg : LfsConfig} {s : LfsBd} (h : s.Ok cfg) : s.Read cfg s :=
  ⟨rfl, fun _ => rfl, rfl, .refl _, h⟩

/-! ### Caches -/

namespace LfsCache

variable {c : LfsCache} {block off diff k n : ℕ}

theorem limit_le : c.limit block off diff ≤ diff := by
  rw [limit]
  split_ifs
  · exact Nat.min_le_left _ _
  · exact le_rfl

/-- None of the bytes up to the limit is in the cache. -/
theorem not_has_of_lt_limit (hk : k < c.limit block off diff) : ¬ c.has block (off + k) := by
  rintro ⟨hblock, hlow, hhigh⟩
  have hahead : c.ahead block off := ⟨hblock, by omega⟩
  rw [limit, if_pos hahead] at hk
  omega

/-- The limit is still a whole unit if the cache lies at one. -/
theorem le_limit (h : ¬ (c.ahead block off ∧ c.off ≤ off)) (hoff : n ∣ off)
    (hc : c.ahead block off → n ∣ c.off) (hdiff : n ≤ diff) : n ≤ c.limit block off diff := by
  rw [limit]
  split_ifs with hahead
  · have hlt : off < c.off := not_le.mp fun hle => h ⟨hahead, hle⟩
    have hgap := Nat.le_of_dvd (by omega) (Nat.dvd_sub (hc hahead) hoff)
    omega
  · exact hdiff

@[simp] theorem length_copy : (c.copy off n).length = min n (c.size - (off - c.off)) :=
  length_load _ _ _

theorem length_copy_pos (h : c.ahead block off) (hlow : c.off ≤ off) (hn : 0 < n) :
    0 < (c.copy off n).length := by
  have hhigh := h.2
  rw [length_copy]
  omega

theorem matches_copy {known : ℕ → Option UInt8} (hlow : c.off ≤ off)
    (h : ∀ k < n, ∀ x, off + k < c.off + c.size → known (off + k) = some x →
      c.buffer (off + k - c.off) = x) : Matches known off (c.copy off n) := by
  apply matches_load
  intro k hk x hx
  rw [← Nat.sub_add_comm hlow]
  exact h k (by omega) x (by omega) hx

end LfsCache

/-! ### A round -/

section Round

variable {cfg : LfsConfig} {pcached overlaid : Bool} {known : LfsBlocks} {hint block off size : ℕ}
  {s₀ s : LfsBd} {l : LfsReadLocals}

/-- Calls of the device that may follow: one for each byte that is not in the cache. -/
def lfsReadCalls (block : ℕ) (l : LfsReadLocals) (s : LfsBd) : ℕ :=
  if s.rcache.has block l.off then l.size - 1 else l.size

theorem lfsReadCalls_of_has (h : s.rcache.has block l.off) :
    lfsReadCalls block l s = l.size - 1 :=
  if_pos h

theorem lfsReadCalls_of_not_has (h : ¬ s.rcache.has block l.off) :
    lfsReadCalls block l s = l.size :=
  if_neg h

theorem le_lfsReadCalls_add_one (block : ℕ) (l : LfsReadLocals) (s : LfsBd) :
    l.size ≤ lfsReadCalls block l s + 1 := by
  rw [lfsReadCalls]
  split_ifs <;> omega

/-- Up to `l.off` the bytes have been read; if they are fewer than expected, the read cache has
been loaded for them. -/
structure LfsReadProgress (cfg : LfsConfig) (pcached overlaid : Bool) (hint : ℕ) (known : LfsBlocks)
    (block off size : ℕ) (s₀ : LfsBd) (l : LfsReadLocals) (s : LfsBd) : Prop where
  data : Matches (known block) off l.data
  off_eq : l.off = off + l.data.length
  rest : l.data.length + l.size = size
  read : s₀.Read cfg s
  shows : s.Shows overlaid known
  calls : s.disk.calls.length + lfsReadCalls block l s ≤ s₀.disk.calls.length + size
  loaded : pcached = false → size < hint → l.data ≠ [] → s.rcache.block = block

/-- Rounds that may follow: each byte takes two at most, and one if it is in the cache. -/
def lfsReadRounds (block : ℕ) (l : LfsReadLocals) (s : LfsBd) : ℕ :=
  2 * l.size + if s.rcache.has block l.off then 0 else 1

theorem LfsReadProgress.advance {s' : LfsBd} {bytes : List UInt8}
    (h : LfsReadProgress cfg pcached overlaid hint known block off size s₀ l s) (hread : s₀.Read cfg s')
    (hshows : s'.Shows overlaid known) (hpos : 0 < bytes.length) (hle : bytes.length ≤ l.size)
    (hcalls : s'.disk.calls.length + l.size ≤
      s.disk.calls.length + lfsReadCalls block l s + bytes.length)
    (hloaded : pcached = false → size < hint → s'.rcache.block = block)
    (hbytes : Matches (known block) l.off bytes) :
    LfsReadProgress cfg pcached overlaid hint known block off size s₀ (l.advance bytes) s' ∧
      lfsReadRounds block (l.advance bytes) s' < lfsReadRounds block l s := by
  have hrest := h.rest
  have hoff := h.off_eq
  refine ⟨⟨h.data.append (hoff ▸ hbytes), ?_, ?_, hread, hshows, ?_, fun hp hlt _ => hloaded hp hlt⟩, ?_⟩
  · show l.off + bytes.length = off + (l.data ++ bytes).length
    rw [List.length_append]
    omega
  · show (l.data ++ bytes).length + (l.size - bytes.length) = size
    rw [List.length_append]
    omega
  · have hbefore := h.calls
    have hnow : lfsReadCalls block (l.advance bytes) s' ≤ l.size - bytes.length := by
      rw [lfsReadCalls]
      split_ifs
      · exact Nat.sub_le _ _
      · exact le_rfl
    omega
  · show 2 * (l.size - bytes.length) + _ < _
    rw [lfsReadRounds]
    split_ifs <;> omega

/-- What can be said of a read that gives up. -/
def LfsBd.ReadError (cfg : LfsConfig) (s₀ : LfsBd) (e : LfsError) (s : LfsBd) : Prop :=
  s₀.disk.Fails e ∧ s₀.Read cfg s

theorem LfsDisk.answer_of_none {d : LfsDisk} (h : d.fault = none) :
    d.answer block = d.medium block := by
  rw [answer, h]
  rfl

theorem wp_lfsBdReadBypass (h : LfsReadProgress cfg pcached overlaid hint known block off size s₀ l s) {diff : ℕ}
    (hcall : (⟨.read, block, l.off, diff⟩ : LfsDiskCall).Ok cfg) :
    wp (lfsBdReadBypass block l.off diff)
      (fun bytes s' => bytes = load (s.disk.medium block) l.off diff ∧ s₀.Read cfg s' ∧
        s'.Shows overlaid known ∧ s'.disk.calls.length = s.disk.calls.length + 1)
      (LfsBd.ReadError cfg s₀) s := by
  have hread : s₀.Read cfg { s with disk := s.disk.record ⟨.read, block, l.off, diff⟩ } :=
    ⟨h.read.pcache, h.read.rcache, h.read.medium, h.read.disk.trans (.record _ _),
      h.read.ok.rcache_off, h.read.ok.disk.record hcall⟩
  rw [lfsBdReadBypass, wp_bind, wp_get, wp_bind, wp_modify, wp_bind, wp_check]
  refine ⟨fun e he => ⟨h.read.disk.fails (LfsDisk.fails_of_fault he), hread⟩, fun hnone => ?_⟩
  rw [wp_pure, LfsDisk.answer_of_none hnone]
  exact ⟨rfl, hread, ⟨h.shows.null, h.shows.shown, h.shows.rcache⟩, rfl⟩

theorem wp_lfsBdReadLoad (hnull : block ≠ lfsBlockNull) (h : LfsReadProgress cfg pcached overlaid hint known block off size s₀ l s)
    (hhint : 0 < hint) (hle : hint ≤ cfg.blockSize) (hoff : l.off < cfg.blockSize)
    (hsize : 0 < l.size) (hmiss : ¬ s.rcache.has block l.off) :
    wp (lfsBdReadLoad cfg hint block l.off)
      (fun _ s' => LfsReadProgress cfg pcached overlaid hint known block off size s₀ l s' ∧
        s'.rcache.has block l.off)
      (LfsBd.ReadError cfg s₀) s := by
  obtain ⟨hlow, hhigh, hend, hdvd, hunits, -⟩ :=
    lfsBdReadTarget_window block s.rcache.buffer hhint hle hoff
  rw [lfsBdReadLoad, wp_bind, wp_get]
  generalize hT : lfsBdReadTarget cfg hint block l.off s.rcache.buffer = target at *
  have hTblock : target.block = block := by rw [← hT]; rfl
  have hcall : (⟨.read, block, target.off, target.size⟩ : LfsDiskCall).Ok cfg :=
    ⟨hdvd, hunits, by show 0 < target.size; omega, hend⟩
  have hread : ∀ rcache : LfsCache, rcache.block = target.block → rcache.off = target.off →
      s₀.Read cfg
        { s with rcache := rcache, disk := s.disk.record ⟨.read, block, target.off, target.size⟩ } :=
    fun rcache hblock hrcache => ⟨h.read.pcache,
      fun hfree => absurd ((hTblock.symm.trans hblock.symm).trans hfree) hnull, h.read.medium,
      h.read.disk.trans (.record _ _), fun _ => hrcache ▸ hdvd, h.read.ok.disk.record hcall⟩
  rw [wp_bind, wp_modify, wp_check]
  refine ⟨fun e he => ⟨h.read.disk.fails (LfsDisk.fails_of_fault he), hread _ rfl rfl⟩,
    fun hnone => ?_⟩
  refine ⟨⟨h.data, h.off_eq, h.rest, hread _ rfl rfl, ⟨h.shows.null, h.shows.shown, ?_⟩, ?_,
    fun _ _ _ => hTblock⟩, hTblock.symm, hlow, hhigh⟩
  rotate_left
  · -- the call is for a byte that is in the cache from now on
    have hcalls := h.calls
    rw [lfsReadCalls_of_not_has hmiss] at hcalls
    show s.disk.calls.length + 1 + _ ≤ _
    rw [lfsReadCalls_of_has ⟨hTblock.symm, hlow, hhigh⟩]
    omega
  intro _ i hi x hx hover
  have hi : i < target.size := hi
  have hshown : s.disk.medium target.block (target.off + i) = x := by
    rw [← h.shows.shown _ _ _ hx]
    exact (if_neg hover).symm
  show store s.rcache.buffer 0 (load (s.disk.answer block) target.off target.size) i = x
  rw [store_inside (Nat.zero_le _) (by rw [length_load]; omega) 0, Nat.sub_zero, getD_load 0 hi,
    LfsDisk.answer_of_none hnone, ← hTblock, hshown]

/-- **A round** of the loop takes bytes from where they are, or it loads the read cache. -/
theorem wp_lfsBdReadRound (hblock : block < lfsBlockInline) (hhint : 0 < hint)
    (hle : hint ≤ cfg.blockSize) (hrange : off + size ≤ cfg.blockSize)
    (hpcache : pcached = true → s₀.pcache.block = block → cfg.readSize ∣ s₀.pcache.off)
    (hover : s₀.pcache.block = block → pcached = overlaid)
    (h : LfsReadProgress cfg pcached overlaid hint known block off size s₀ l s) :
    wp (lfsBdReadRound cfg pcached hint block l)
      (fun r s' => r.elim
        (fun l' => LfsReadProgress cfg pcached overlaid hint known block off size s₀ l' s' ∧
          lfsReadRounds block l' s' < lfsReadRounds block l s)
        (fun bytes => bytes.length = size ∧ Matches (known block) off bytes ∧ s₀.Read cfg s' ∧
          s'.Shows overlaid known ∧ s'.disk.calls.length ≤ s₀.disk.calls.length + size ∧
          (pcached = false → size < hint → 0 < size → s'.rcache.block = block)))
      (LfsBd.ReadError cfg s₀) s := by
  have hrest := h.rest
  have hoff_eq := h.off_eq
  have hnull : block ≠ lfsBlockNull := (hblock.trans lfsBlockInline_lt_null).ne
  rw [lfsBdReadRound]
  refine wp_ite (fun hzero => ?_) fun hzero => ?_
  · rw [wp_pure]
    refine ⟨by omega, h.data, h.read, h.shows, (Nat.le_add_right _ _).trans h.calls,
      fun hp hlt hpos => h.loaded hp hlt ?_⟩
    rintro hnil
    rw [hnil, List.length_nil] at hrest
    omega
  rw [wp_bind, wp_get]
  refine wp_ite (fun hp => ?_) fun hp => ?_
  · -- the program cache has the byte
    obtain ⟨hcached, hahead, hlow⟩ := hp
    have hle : (s.pcache.copy l.off l.size).length ≤ l.size := by
      rw [LfsCache.length_copy]
      exact Nat.min_le_left _ _
    rw [wp_pure]
    refine h.advance h.read h.shows (LfsCache.length_copy_pos hahead hlow (by omega)) hle ?_
      (fun huncached => absurd (huncached.symm.trans hcached) Bool.false_ne_true) ?_
    · have hpos := LfsCache.length_copy_pos hahead hlow (show 0 < l.size by omega)
      have hcalls := le_lfsReadCalls_add_one block l s
      omega
    apply LfsCache.matches_copy hlow
    intro k _ x hhigh hx
    have hin : s.Over overlaid block (l.off + k) := by
      refine ⟨?_, hahead.1, by omega, hhigh⟩
      rw [h.read.pcache] at hahead
      rw [← hover hahead.1.symm, hcached]
    rw [← h.shows.shown _ _ _ hx]
    exact (if_pos hin).symm
  -- how far the program cache leaves room
  generalize hdiff : (if pcached then s.pcache.limit block l.off l.size else l.size) = diff
  have hdiff_le : diff ≤ l.size := by
    rw [← hdiff]
    split_ifs
    · exact LfsCache.limit_le
    · exact le_rfl
  have hnotOver : ∀ k < diff, ¬ s.Over overlaid block (l.off + k) := by
    rintro k hk ⟨hcached, hhas⟩
    have hblock := hhas.1
    rw [h.read.pcache] at hblock
    rw [if_pos ((hover hblock.symm).trans hcached)] at hdiff
    exact LfsCache.not_has_of_lt_limit (hdiff ▸ hk) hhas
  refine wp_ite (fun hr => ?_) fun hr => ?_
  · -- the read cache has it
    obtain ⟨hahead, hlow⟩ := hr
    have hpos : 0 < diff := by
      rw [← hdiff]
      split_ifs with hcached
      · exact LfsCache.le_limit (fun hin => hp ⟨hcached, hin⟩) (one_dvd _) (fun _ => one_dvd _)
          (by omega)
      · omega
    have hle : (s.rcache.copy l.off diff).length ≤ l.size := by
      rw [LfsCache.length_copy]
      exact (Nat.min_le_left _ _).trans hdiff_le
    rw [wp_pure]
    refine h.advance h.read h.shows (LfsCache.length_copy_pos hahead hlow hpos) hle ?_
      (fun _ _ => hahead.1.symm) ?_
    · have hpos := LfsCache.length_copy_pos hahead hlow hpos
      have hcalls := le_lfsReadCalls_add_one block l s
      omega
    apply LfsCache.matches_copy hlow
    intro k hk x hhigh hx
    have hpos_eq : s.rcache.off + (l.off + k - s.rcache.off) = l.off + k := by omega
    apply h.shows.rcache (hahead.1 ▸ hnull) (l.off + k - s.rcache.off) (by omega) x
    · rwa [hpos_eq, ← hahead.1]
    · rw [hpos_eq, ← hahead.1]
      exact hnotOver k hk
  have hmiss : ¬ s.rcache.has block l.off := fun hhas => hr ⟨⟨hhas.1, hhas.2.2⟩, hhas.2.1⟩
  refine wp_ite (fun hb => ?_) fun hb => ?_
  · -- whole read units, taken from the device
    obtain ⟨hexpected, haligned, hunit⟩ := hb
    have hoff : cfg.readSize ∣ l.off := Nat.dvd_of_mod_eq_zero haligned
    have hroom : cfg.readSize ≤ s.rcache.limit block l.off diff := by
      refine LfsCache.le_limit hr hoff (fun hahead => h.read.ok.rcache_off ?_) ?_
      · exact hahead.1 ▸ hnull
      · rw [← hdiff]
        split_ifs with hcached
        · refine LfsCache.le_limit (fun hin => hp ⟨hcached, hin⟩) hoff (fun hahead => ?_) hunit
          rw [h.read.pcache] at hahead ⊢
          exact hpcache hcached hahead.1.symm
        · exact hunit
    have hfit := (lfsAligndown_le (s.rcache.limit block l.off diff) cfg.readSize).trans
      LfsCache.limit_le
    have hpos := cfg.readSize_pos.trans_le (le_lfsAligndown dvd_rfl hroom)
    have hdvd := dvd_lfsAligndown (s.rcache.limit block l.off diff) cfg.readSize
    rw [wp_bind]
    generalize lfsAligndown (s.rcache.limit block l.off diff) cfg.readSize = n at *
    have hcall : (⟨.read, block, l.off, n⟩ : LfsDiskCall).Ok cfg :=
      ⟨hoff, hdvd, hpos, by show l.off + n ≤ _; omega⟩
    apply wp_mono (wp_lfsBdReadBypass h hcall)
    · rintro bytes s' ⟨hbytes, hread, hshows, hcalls⟩
      have hlen : bytes.length = n := by rw [hbytes, length_load]
      rw [wp_pure]
      refine h.advance hread hshows (by omega) (by omega) ?_ (fun _ hlt => absurd hlt (by omega)) ?_
      · rw [lfsReadCalls_of_not_has hmiss]
        omega
      rw [hbytes]
      apply matches_load
      intro k hk x hx
      rw [← h.shows.shown _ _ _ hx]
      exact (if_neg (hnotOver k (by omega))).symm
    · exact fun e s' he => he
  · rw [wp_bind]
    apply wp_mono (wp_lfsBdReadLoad hnull h hhint hle (by omega) (by omega) hmiss)
    · rintro - s' ⟨hprogress, hhas⟩
      rw [wp_pure]
      refine ⟨hprogress, ?_⟩
      rw [lfsReadRounds, lfsReadRounds, if_pos hhas, if_neg hmiss]
      omega
    · exact fun e s' he => he

/-- The test in front of the loop is about blocks and places that there are. -/
theorem lfsBdRead_eq {blockCount : ℕ} (hblock : LfsBlockValid blockCount block)
    (hrange : off + size ≤ cfg.blockSize) :
    lfsBdRead cfg blockCount pcached hint block off size =
      iterate (lfsBdReadRound cfg pcached hint block) { off := off, size := size } := by
  have hsize := cfg.blockSize_le
  have hword : lfsWord (off + size) = off + size := by
    exact_mod_cast lfsWord_of_lt (n := off + size) (by omega)
  rw [lfsBdRead, if_neg]
  rintro (h | ⟨hcount, h⟩)
  · omega
  · exact absurd (hblock.2 hcount) (not_lt.mpr h)

/-- **Reads through the caches.**  A byte takes one call of the device at most, and a read of fewer
bytes than expected loads the read cache. -/
theorem wp_lfsBdRead {blockCount : ℕ} (hs : s.Ok cfg) (hshows : s.Shows overlaid known)
    (hblock : LfsBlockValid blockCount block) (hhint : 0 < hint) (hle : hint ≤ cfg.blockSize)
    (hrange : off + size ≤ cfg.blockSize)
    (hpcache : pcached = true → s.pcache.block = block → cfg.readSize ∣ s.pcache.off)
    (hover : s.pcache.block = block → pcached = overlaid) :
    wp (lfsBdRead cfg blockCount pcached hint block off size)
      (fun bytes s' => bytes.length = size ∧ Matches (known block) off bytes ∧ s.Read cfg s' ∧
        s'.Shows overlaid known ∧ s'.disk.calls.length ≤ s.disk.calls.length + size ∧
        (pcached = false → size < hint → 0 < size → s'.rcache.block = block))
      (LfsBd.ReadError cfg s) s := by
  rw [lfsBdRead_eq hblock hrange]
  apply wp_iterate (I := LfsReadProgress cfg pcached overlaid hint known block off size s) (lfsReadRounds block)
  · exact fun l t h => wp_lfsBdReadRound hblock.1 hhint hle hrange hpcache hover h
  · refine ⟨matches_nil _ _, rfl, Nat.zero_add _, .refl hs, hshows, ?_, fun _ _ hne => absurd rfl hne⟩
    apply Nat.add_le_add_left
    rw [lfsReadCalls]
    split_ifs
    · exact Nat.sub_le _ _
    · exact le_rfl

end Round

end Bricklib2
