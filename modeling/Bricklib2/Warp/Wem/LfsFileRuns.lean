/-
Bricklib2/Warp/Wem/LfsFileRuns.lean

Runs of calls on an open file of littlefs, against the handle that the module for the card works with: the
handle of a file store that does what it is asked to.  The run ends with the first call that gives up.

Main results: `lfsFile_answers`, all calls of a run are answered as the handle answers them, as long as no
seek follows a read that ended with its block; `lfsFileSeek_misleads`, what is read after such a seek.
-/
import Bricklib2.Warp.Wem.LfsFileCalls

namespace Bricklib2

open BinaryOnes Cells Fallible
open FileStore (Session)

/-! ### The calls -/

/-- The calls on an open file. -/
inductive LfsFileCall
  | read (size : ℕ)
  | write (data : List UInt8)
  | seek (off : ℤ) (whence : LfsWhence)
  | flush

/-- What a call returns. -/
inductive LfsFileAnswer
  | bytes (data : List UInt8)
  | number (n : ℕ)
  deriving DecidableEq

namespace LfsFileCall

/-- The call on the open file of littlefs. -/
def run (cfg : LfsConfig) (blockCount inlineMax fileMax : ℕ) (alloc : Fallible LfsError LfsT ℕ)
    (getslice : ℕ → ℕ → Fallible LfsError LfsReader (List UInt8)) :
    LfsFileCall → Fallible LfsError LfsT LfsFileAnswer
  | read size => do
    let data ← lfsFileRead cfg blockCount inlineMax alloc getslice size
    pure (.bytes data)
  | write data => do
    let n ← lfsFileWrite cfg blockCount inlineMax fileMax alloc getslice data
    pure (.number n)
  | seek off whence => do
    let n ← lfsFileSeek cfg blockCount inlineMax fileMax alloc getslice off whence
    pure (.number n)
  | flush => do
    lfsFileFlush cfg blockCount inlineMax alloc getslice
    pure (.number 0)

/-- A seek of the handle. -/
def plainSeek (fileMax : ℕ) (f : LfsFile) : Option ℕ → Except LfsError (LfsFileAnswer × LfsFile)
  | some pos => if fileMax < pos then .error .inval else .ok (.number pos, f.seek pos none)
  | none => .error .inval

/-- The call on the handle. -/
def plain (fileMax : ℕ) (f : LfsFile) : LfsFileCall → Except LfsError (LfsFileAnswer × LfsFile)
  | read size => .ok (.bytes ((f.readBytes size none).getD []), f.read size none)
  | write data =>
    if fileMax < f.file.position + data.length then .error .fbig
    else .ok (.number data.length, f.write data none)
  | seek off whence =>
    plainSeek fileMax f (whence.target f.file.position f.file.content.length off)
  | flush => .ok (.number 0, f)

/-- A call that is answered right: the length of a write is an `lfs_ssize_t`, and a seek does not follow
a read that ended with its block. -/
def Safe (cfg : LfsConfig) (s : LfsT) : LfsFileCall → Prop
  | write data => data.length < 2 ^ 31
  | seek _ _ => ¬ s.AtBlockEnd cfg
  | read _ | flush => True

end LfsFileCall

section Runs

variable {δ : Type} {cfg : LfsConfig} {blockCount lookaheadSize inlineMax fileMax : ℕ}
  {dirs : LfsDirOps δ} {fs : LfsFs δ} {d₀ : LfsDisk} {f : LfsFile} {s : LfsT} {call : LfsFileCall}
  {getslice : ℕ → ℕ → Fallible LfsError LfsReader (List UInt8)}

/-- The open file has the content and the position of the handle. -/
structure LfsFs.Opened (fs : LfsFs δ) (cfg : LfsConfig) (blockCount : ℕ) (dirs : LfsDirOps δ) (d₀ : LfsDisk)
    (fileMax : ℕ) (f : LfsFile) (s : LfsT) : Prop where
  file : fs.Open cfg blockCount dirs d₀ f.file.content s
  position : s.file.pos = f.file.position
  append : s.file.append = false
  content_le : f.file.content.length ≤ fileMax
  position_le : f.file.position ≤ fileMax

/-- What was committed before is still there. -/
def LfsFs.Untouched (fs : LfsFs δ) (dirs : LfsDirOps δ) (d₀ : LfsDisk) (s : LfsT) : Prop :=
  ∀ b ∈ fs.live dirs, s.disk.medium b = d₀.medium b

/-! ### One call -/

/-- **A call** does to the open file what it does to the handle. -/
theorem LfsFs.Opened.wp_run (hm : fs.Mounted cfg blockCount lookaheadSize dirs d₀) (hlong : 8 < cfg.cacheSize)
    (hmax : fileMax < 2 ^ 31) (h : fs.Opened cfg blockCount dirs d₀ fileMax f s) (hsafe : call.Safe cfg s) :
    wp (call.run cfg blockCount inlineMax fileMax (dirs.alloc cfg blockCount lookaheadSize) getslice)
      (fun a s' => ∃ f', call.plain fileMax f = .ok (a, f') ∧
        fs.Opened cfg blockCount dirs d₀ fileMax f' s')
      (fun e s' => (call.plain fileMax f = .error e ∨ d₀.Fails e ∨ e = .nospc) ∧ fs.Untouched dirs d₀ s')
      s := by
  have hle := h.content_le
  have hpos := h.position
  have hposLe := h.position_le
  cases call with
  | read size =>
    rw [LfsFileCall.run, wp_bind]
    apply wp_mono (h.file.wp_lfsFileRead hm hlong (by omega))
    · rintro bytes t ⟨hbytes, hopen, hat, happend⟩
      rw [hpos] at hbytes hat
      have hread : (f.readBytes size none).getD [] = bytes := hbytes.symm
      rw [wp_pure]
      refine ⟨f.read size none, ?_, hopen, ?_, happend.trans h.append, hle, ?_⟩
      · rw [LfsFileCall.plain, hread]
      · rw [hat, ← hread]
        rfl
      · have hlen : bytes.length ≤ f.file.content.length - f.file.position := by
          rw [hbytes, List.length_take, List.length_drop]
          exact Nat.min_le_right _ _
        show f.file.position + ((f.readBytes size none).getD []).length ≤ fileMax
        rw [hread]
        omega
    · exact fun e t he => ⟨.inr he.reason, he.untouched⟩
  | write data =>
    rw [LfsFileCall.run, wp_bind]
    apply wp_mono (h.file.wp_lfsFileWrite hm hmax hle (hpos ▸ hposLe) hsafe h.append)
    · rintro n t ⟨rfl, hroom, hopen, hat, happend⟩
      rw [hpos] at hroom hopen hat
      rw [wp_pure]
      refine ⟨f.write data none, if_neg (not_lt.mpr hroom), hopen, hat, happend, ?_, hroom⟩
      have hlen := Session.length_patch f.file.content f.file.position data
      show (Session.patch f.file.content f.file.position data).length ≤ fileMax
      omega
    · rintro e t (hhalted | ⟨rfl, hfar, hopen⟩)
      · exact ⟨.inr hhalted.reason, hhalted.untouched⟩
      · -- the handle does not take so many bytes either
        rw [hpos] at hfar
        exact ⟨.inl (if_pos hfar), hopen.untouched⟩
  | seek off whence =>
    rw [LfsFileCall.run, wp_bind]
    apply wp_mono (h.file.wp_lfsFileSeek hm hlong (by omega) (by omega) (by omega) hsafe)
    · rintro n t ⟨htarget, hnear, hopen, hat, happend⟩
      rw [hpos] at htarget
      rw [wp_pure]
      refine ⟨f.seek n none, ?_, hopen, hat, happend.trans h.append, hle, hnear⟩
      rw [LfsFileCall.plain, htarget]
      exact if_neg (not_lt.mpr hnear)
    · rintro e t (hhalted | ⟨rfl, rfl, hfar⟩)
      · exact ⟨.inr hhalted.reason, hhalted.untouched⟩
      · -- the target is no position for the handle either
        rw [hpos] at hfar
        refine ⟨.inl ?_, h.file.untouched⟩
        rw [LfsFileCall.plain]
        rcases htarget : whence.target f.file.position f.file.content.length off with - | pos
        · rfl
        · exact if_pos (hfar pos htarget)
  | flush =>
    rw [LfsFileCall.run, wp_bind]
    apply wp_mono (h.file.wp_lfsFileFlush hm hlong (by omega))
    · rintro - t ⟨⟨known, blocks, hidle⟩, hat, happend⟩
      rw [wp_pure]
      exact ⟨f, rfl, .rests _ _ _ _ hidle.rests, hat.trans hpos, happend.trans h.append, hle, hposLe⟩
    · exact fun e t he => ⟨.inr he.reason, he.untouched⟩

/-! ### All calls -/

/-- The calls are answered as the handle answers them, up to the first one that gives up, as the handle
does or because the device or the room on it has come to an end.  Nothing that was committed is touched. -/
def LfsAnswers (fs : LfsFs δ) (cfg : LfsConfig) (blockCount lookaheadSize inlineMax fileMax : ℕ)
    (dirs : LfsDirOps δ) (getslice : ℕ → ℕ → Fallible LfsError LfsReader (List UInt8)) (d₀ : LfsDisk) :
    List LfsFileCall → LfsFile → LfsT → Prop
  | [], _, s => fs.Untouched dirs d₀ s
  | call :: calls, f, s =>
    fs.Untouched dirs d₀ s ∧ (call.Safe cfg s →
      wp (call.run cfg blockCount inlineMax fileMax (dirs.alloc cfg blockCount lookaheadSize) getslice)
        (fun a s' => ∃ f', call.plain fileMax f = .ok (a, f') ∧
          LfsAnswers fs cfg blockCount lookaheadSize inlineMax fileMax dirs getslice d₀ calls f' s')
        (fun e s' => (call.plain fileMax f = .error e ∨ d₀.Fails e ∨ e = .nospc) ∧
          fs.Untouched dirs d₀ s') s)

end Runs

/-! ### A file system without files -/

theorem lfsEmptyFs_mounted : lfsEmptyFs.Mounted sdLfsConfig 8 1 lfsEmptyDirs lfsEmptyMount.disk where
  committed :=
    { ends := by
        refine ⟨1, ?_, fun m hm => ?_⟩
        · rw [lfsEmptyFs_pair_succ]
          exact .inl rfl
        · obtain rfl : m = 0 := Nat.lt_one_iff.mp hm
          exact ⟨by decide, rfl⟩
      swap := lfsEmptyFs_swap
      pairs := lfsEmptyFs_in.pairs
      files := nofun
      live_lt := fun b hb => lfsEmptyFs_in.used_lt b (.inr hb)
      decodes := fun _ _ => lfsEmptyDirs_decodes rfl }
  count := by norm_num
  size_pos := by norm_num
  size_lt := by norm_num
  good := by
    rintro ⟨n, -, hfault⟩
    cases hfault

/-- A handle on an empty file. -/
def emptyHandle : LfsFile := { store := { files := fun _ => none }, file := { status := .opened } }

theorem lfsEmptyMount_opened :
    lfsEmptyFs.Opened sdLfsConfig 8 lfsEmptyDirs lfsEmptyMount.disk (2 ^ 31 - 1) emptyHandle
      lfsEmptyMount where
  file := by
    have hmount : LfsAllocReaches sdLfsConfig 8 1 lfsEmptyDirs lfsEmptyMount lfsEmptyFs ∅
        (lfsEmptyFs.used lfsEmptyDirs lfsEmptyMount.file) :=
      .mount (l := {}) lfsEmptyFs_in (by norm_num) rfl
    obtain ⟨hok, -⟩ := hmount.ok (by norm_num) (by norm_num) (by norm_num)
    have hidle : lfsEmptyFs.Idle sdLfsConfig 8 lfsEmptyDirs lfsEmptyMount.disk lfsEmptyFs.known [] []
        lfsEmptyMount :=
      ⟨⟨fun _ _ => rfl, fun _ _ => rfl, .refl _, rfl⟩, .empty _, rfl, nofun, rfl, rfl, rfl, rfl,
        lfsEmptyFs_in.readable.ok, lfsEmptyFs_in.readable.shows, _, _, _, hok, ?_⟩
    · exact .rests _ _ _ _ hidle.rests
    · rintro b (hb | hb | hb)
      · exact .inl (.inr hb)
      · exact absurd hb List.not_mem_nil
      · exact absurd hb List.not_mem_nil
  position := rfl
  append := rfl
  content_le := by norm_num [emptyHandle]
  position_le := by norm_num [emptyHandle]

section Misled

variable {cfg : LfsConfig} {blockCount inlineMax fileMax : ℕ} {known : LfsBlocks} {data : List UInt8}
  {blocks : List ℕ} {s : LfsT} {alloc : Fallible LfsError LfsT ℕ}
  {getslice : ℕ → ℕ → Fallible LfsError LfsReader (List UInt8)} {blockSize pos n n' o npos before k : ℕ}

/-- A position at the end of a block is one of the next block. -/
theorem CtzEnd.next_unique (h : CtzEnd blockSize pos n' blockSize) (hplace : CtzPlace blockSize pos (n + 1) o)
    (hfit : ctzPointers n < blockSize) : n' = n := by
  have hat : pos = ctzBefore blockSize (n' + 1) := h.size_eq.trans (ctzBefore_succ _ _).symm
  have hpos := hplace.pos_eq
  have hcontent := hplace.content
  have hinside := hplace.inside
  rcases lt_trichotomy n' n with hlt | heq | hgt
  · have hmono := ctzBefore_mono blockSize (Nat.succ_le_of_lt hlt)
    rw [ctzBefore_succ] at hpos
    rw [Nat.succ_eq_add_one] at hmono
    omega
  · exact heq
  · have hmono := ctzBefore_mono blockSize (Nat.succ_le_succ hgt)
    rw [Nat.succ_eq_add_one, ctzBefore_succ, Nat.succ_eq_add_one] at hmono
    omega

/-- A read inside of the block that the last one left off in is one of that block, whatever the
position. -/
theorem LfsReader.wp_lfsFileFlushedread_inside {r : LfsReader} (hinline : r.file.inline = false)
    (hreading : r.file.reading = true) (hbd : r.bd.Readable cfg false false known (· ∈ blocks))
    (hin : r.file.block ∈ blocks) (hvalid : LfsBlockValid blockCount r.file.block) (hk : 0 < k)
    (hroom : r.file.off + k ≤ cfg.blockSize) (hsize : r.file.pos + k ≤ r.file.size) :
    wp (lfsFileFlushedread cfg blockCount getslice k)
      (fun bytes _ => bytes.length = k ∧ Matches (known r.file.block) r.file.off bytes)
      (fun e _ => r.disk.Fails e) r := by
  have hblock : ¬ r.file.inline = true := hinline ▸ Bool.false_ne_true
  rw [lfsFileFlushedread, wp_bind, wp_get]
  refine wp_ite (fun hpast => by omega) fun _ => ?_
  rw [Nat.min_eq_left (by omega)]
  -- the first round reads everything, the second one finds nothing left to read
  apply wp_iterate_step
  rw [lfsFileFlushedreadRound, if_neg hk.ne', wp_bind, wp_get, wp_bind]
  refine wp_when (fun hfinds => ?_) fun _ => ?_
  · rcases hfinds with hidle | hoff
    · exact absurd hreading hidle
    · omega
  · rw [lfsFileReadBlock, wp_bind, wp_get, wp_bind, lfsFileReadBytes, wp_bind, wp_get]
    refine wp_ite (fun h => absurd h hblock) fun _ => ?_
    rw [Nat.min_eq_left (show k ≤ cfg.blockSize - r.file.off by omega), onBd, wp_zoom]
    apply wp_mono (hbd.wp_read hin hvalid cfg.blockSize_pos le_rfl hroom)
    · rintro bytes b ⟨hbytes, -⟩
      rw [wp_bind, wp_modify, wp_pure]
      apply wp_iterate_step
      rw [lfsFileFlushedreadRound, if_pos (Nat.sub_self k), wp_pure]
      exact hbytes
    · exact fun e b he => he.1

/-- **A seek that misleads.**  A read up to the end of block `n` leaves the position in the next block and
the cache where it was.  A seek inside of the next block keeps the cache, and then the bytes of block `n`
are read. -/
theorem lfsFileSeek_misleads (hon : s.reader.On cfg blockCount known data blocks)
    (hwriting : s.file.writing = false) (hend : s.AtBlockEnd cfg) (hpos : s.file.pos < 2 ^ 32)
    (hmoves : s.file.pos ≠ npos) (hmax : npos ≤ fileMax) (hstays : s.file.stays cfg npos)
    (hplace : CtzPlace cfg.blockSize npos (n + 1) o) (hbefore : CtzPlace cfg.blockSize before n o)
    (hk : 0 < k) (hsize : npos + k ≤ data.length) (hroom : o + k ≤ cfg.blockSize) (hworks : s.disk.Works) :
    ∃ s', Program.Returns (do
        let _ ← lfsFileSeek cfg blockCount inlineMax fileMax alloc getslice npos .set
        lfsFileRead cfg blockCount inlineMax alloc getslice k : Fallible LfsError LfsT (List UInt8)).run s
      (.ok ((data.drop before).take k), s') := by
  have hword : cfg.blockSize < 2 ^ 32 := cfg.blockSize_le.trans_lt (by norm_num)
  have hlen := hon.content.length_lt
  -- the block that is read is block `n`
  obtain ⟨n', hblock, hat⟩ := hon.place hend.1
  rw [show s.reader.file.off = cfg.blockSize from hend.2] at hat
  obtain ⟨m, oPos, hplacePos⟩ := exists_ctzPlace cfg.blockSize_ge hpos
  have hindex := hplace.lfsCtzIndex_eq cfg.blockSize_ge hword (by omega)
  obtain rfl : m = n + 1 := by
    have hsame := hstays.1
    rwa [hplacePos.lfsCtzIndex_eq cfg.blockSize_ge hword hpos, hindex] at hsame
  obtain rfl : n' = n := hat.next_unique hplacePos (hbefore.content.trans_lt hbefore.inside)
  have hin : s.file.block ∈ blocks := List.mem_of_getElem? hblock
  have hnext := hplace.pos_eq
  have hthis := hbefore.pos_eq
  have hsucc := ctzBefore_succ cfg.blockSize n'
  have hinside := hbefore.inside
  have hcontent := hbefore.content
  have hrun : wp (do
        let _ ← lfsFileSeek cfg blockCount inlineMax fileMax alloc getslice npos .set
        lfsFileRead cfg blockCount inlineMax alloc getslice k : Fallible LfsError LfsT (List UInt8))
      (fun bytes _ => bytes = (data.drop before).take k) (fun e _ => s.disk.Fails e) s := by
    have hidle : ¬ s.file.writing = true := hwriting ▸ Bool.false_ne_true
    rw [wp_bind, lfsFileSeek, wp_bind, wp_get, wp_bind, LfsWhence.target, lfsWord_of_lt (by omega),
      lfsFileSeek.lfsFileSeekTarget, wp_pure, lfsFileSeekTo, wp_bind, wp_get]
    refine wp_ite (fun hfar => absurd hfar (not_lt.mpr hmax)) fun _ =>
      wp_ite (fun hsame => absurd hsame hmoves) fun _ =>
        wp_ite (fun _ => ?_) fun hleaves => absurd ⟨hidle, hstays⟩ hleaves
    rw [wp_bind, lfsModifyFile, wp_modify, wp_pure, lfsFileRead, wp_bind, wp_get, wp_bind]
    refine wp_when (fun h => absurd h hidle) fun _ => ?_
    rw [LfsT.onReader, wp_zoom, hindex]
    apply wp_mono (LfsReader.wp_lfsFileFlushedread_inside
      (r := { file := { s.file with pos := npos, off := o }, disk := s.disk }) hon.inline hend.1 hon.bd hin
      (hon.content.valid hin) hk hroom (hon.size.symm ▸ hsize))
    · rintro bytes t ⟨hbytes, hmatches⟩
      exact hon.content.eq_take hblock hbefore.ctzEnd hroom (by omega) hbytes hmatches
    · exact fun e t he => he
  obtain ⟨r, s', hr, hpost⟩ := hrun
  rcases r with e | bytes
  · exact absurd hpost hworks.not_fails
  · obtain rfl : bytes = (data.drop before).take k := hpost
    exact ⟨s', hr⟩

end Misled

/-! ### A file of two blocks -/

/-- Ones in the first block and twos in the second. -/
def lfsTwoBlocksData : List UInt8 := (List.range 900).map fun i => if i < 512 then 1 else 2

/-- The blocks, the second one with a pointer to the first. -/
def lfsTwoBlocks : LfsBlocks := fun b off =>
  if b = 2 then if off < 512 then some 1 else none
  else if b = 3 then if off < 4 then (lfsTole32 2)[off]? else if off < 392 then some 2 else none
  else none

/-- The file is open, and its first block was read. -/
def lfsTwoBlocksRead : LfsT where
  file :=
    { head := 3, size := 900, pos := 512, block := 2, off := 512, reading := true,
      cache := { block := 2, off := 0, size := 512, buffer := fun _ => 1 } }
  disk := { medium := fun b off => (lfsTwoBlocks b off).getD 0 }

theorem length_lfsTwoBlocksData : lfsTwoBlocksData.length = 900 := by
  rw [lfsTwoBlocksData, List.length_map, List.length_range]

theorem lfsTwoBlocks_stored : LfsStored sdLfsConfig 8 lfsTwoBlocks (· + 2) (1 + 1) lfsTwoBlocksData where
  list :=
    { valid := fun n hn => by
        show n + 2 < lfsBlockInline ∧ (8 ≠ 0 → n + 2 < 8)
        rw [lfsBlockInline]
        omega
      linked := fun n x hpos hn hx => by
        have hlt := trailingZeros_lt hpos.ne' (show n < 2 ^ 1 by omega)
        obtain rfl : n = 1 := by omega
        obtain rfl : x = 0 := by omega
        exact ⟨by decide, by decide⟩ }
  bytes i m o hi hplace := by
    have hodd : trailingZeros 1 = 0 := trailingZeros_odd 0
    have hpointers : ctzPointers 1 = 4 := by rw [ctzPointers_succ, hodd]
    have hbefore : ctzBefore sdLfsConfig.blockSize 1 = 512 := rfl
    rw [length_lfsTwoBlocksData] at hi
    rw [lfsTwoBlocksData, List.getElem?_map, List.getElem?_range hi, Option.map_some]
    rcases Nat.lt_or_ge i 512 with hfirst | hsecond
    · obtain ⟨rfl, ho⟩ := hplace.unique (show CtzPlace sdLfsConfig.blockSize i 0 i from
        ⟨Nat.zero_le _, hfirst, (Nat.zero_add _).symm⟩)
      refine ⟨Nat.zero_lt_two, ?_⟩
      show (if o < 512 then some 1 else none) = some (if i < 512 then 1 else 2)
      rw [ho, if_pos hfirst, if_pos hfirst]
    · obtain ⟨rfl, ho⟩ := hplace.unique (show CtzPlace sdLfsConfig.blockSize i 1 (i - 508) from
        ⟨by omega, by show i - 508 < 512; omega, by omega⟩)
      refine ⟨Nat.one_lt_two, ?_⟩
      show (if o < 4 then _ else if o < 392 then some 2 else none) = some (if i < 512 then 1 else 2)
      rw [if_neg (by omega), if_pos (by omega), if_neg (by omega)]

theorem lfsTwoBlocksRead_on :
    lfsTwoBlocksRead.reader.On sdLfsConfig 8 lfsTwoBlocks lfsTwoBlocksData [2, 3] where
  inline := rfl
  content := by
    have hlast : CtzPlace sdLfsConfig.blockSize (lfsTwoBlocksData.length - 1) 1 391 := by
      rw [length_lfsTwoBlocksData]
      exact ctzPlace_of_eq (by decide) (by decide) (by decide) (by decide)
    have hsize : lfsTwoBlocksData.length < 2 ^ 32 := by
      rw [length_lfsTwoBlocksData]
      norm_num
    have hdata : lfsTwoBlocksData ≠ [] := List.length_pos_iff.mp (by rw [length_lfsTwoBlocksData]; norm_num)
    exact .blocks hdata hsize hlast lfsTwoBlocks_stored
  size := length_lfsTwoBlocksData.symm
  bd := by
    refine ⟨⟨fun _ => dvd_zero _, fun call hcall => absurd hcall List.not_mem_nil⟩, ⟨fun off => rfl, ?_, ?_⟩,
      fun hne => absurd rfl hne, fun _ _ _ => rfl⟩
    · intro block off x hx
      show Option.getD _ _ = _
      rw [hx]
      rfl
    · intro _ i hi x hx _
      have hknown : (if 0 + i < 512 then some (1 : UInt8) else none) = some x := hx
      rw [if_pos (by rwa [Nat.zero_add])] at hknown
      exact Option.some.inj hknown
  place _ := ⟨0, rfl, Nat.zero_le _, le_rfl, rfl⟩

/-- A read of the second block that gets ones. -/
theorem lfsFileSeek_misleads_two :
    ∃ s', Program.Returns (do
        let _ ← lfsFileSeek sdLfsConfig 8 0 900 (throw .nospc) (fun _ _ => throw .inval) (600 : ℕ) .set
        lfsFileRead sdLfsConfig 8 0 (throw .nospc) (fun _ _ => throw .inval) 8 :
          Fallible LfsError LfsT (List UInt8)).run lfsTwoBlocksRead
      (.ok ((lfsTwoBlocksData.drop 92).take 8), s') :=
  lfsFileSeek_misleads lfsTwoBlocksRead_on rfl ⟨rfl, rfl⟩ (by norm_num [lfsTwoBlocksRead]) (by decide)
    (by norm_num) (by decide) (n := 0) (o := 92)
    (ctzPlace_of_eq (by decide) (by decide) (by decide) (by decide))
    (ctzPlace_of_eq (by decide) (by decide) (by decide) (by decide)) (by norm_num)
    (by rw [length_lfsTwoBlocksData]; norm_num) (by decide) (fun _ _ => rfl)

set_option maxRecDepth 4000 in
example : (lfsTwoBlocksData.drop 92).take 8 = [1, 1, 1, 1, 1, 1, 1, 1] ∧
    (lfsTwoBlocksData.drop 600).take 8 = [2, 2, 2, 2, 2, 2, 2, 2] := by decide

end Bricklib2
