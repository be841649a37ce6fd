/-
Bricklib2/Warp/Wem/LfsFileRead.lean

Reading from an open file of littlefs that is a list of blocks (`lfs_file_flushedread`).

Main result: `wp_lfsFileFlushedread`, a read gets the bytes from the position on, up to the end of
the file, whichever of its blocks the last read has left off in.
-/
import Bricklib2.Warp.Wem.LfsFile
import Bricklib2.Warp.Wem.LfsOpen

namespace Bricklib2

open Cells Fallible

/-! ### The content of a file -/

/-- The file has the bytes, in the blocks of the list. -/
inductive LfsContent (cfg : LfsConfig) (blockCount : ℕ) (known : LfsBlocks) :
    (head : ℕ) → List UInt8 → List ℕ → Prop
  | empty (head : ℕ) : LfsContent cfg blockCount known head [] []
  | blocks {data : List UInt8} {last o : ℕ} {chain : ℕ → ℕ} (hdata : data ≠ [])
      (hsize : data.length < 2 ^ 32) (hlast : CtzPlace cfg.blockSize (data.length - 1) last o)
      (hstored : LfsStored cfg blockCount known chain (last + 1) data) :
      LfsContent cfg blockCount known (chain last) data ((List.range (last + 1)).map chain)

section Content

variable {cfg : LfsConfig} {blockCount : ℕ} {known known' : LfsBlocks} {head n o pos off b k : ℕ}
  {data bytes : List UInt8} {blocks : List ℕ}

theorem CtzPlace.ctzEnd {blockSize : ℕ} (h : CtzPlace blockSize pos n o) : CtzEnd blockSize pos n o :=
  ⟨h.content, h.inside.le, h.pos_eq⟩

theorem CtzEnd.ctzPlace {blockSize : ℕ} (h : CtzEnd blockSize pos n off) (hk : off + k < blockSize) :
    CtzPlace blockSize (pos + k) n (off + k) := by
  have hcontent := h.content
  have hsize := h.size_eq
  exact ⟨by omega, hk, by omega⟩

theorem CtzEnd.add {blockSize : ℕ} (h : CtzEnd blockSize pos n off) (hk : off + k ≤ blockSize) :
    CtzEnd blockSize (pos + k) n (off + k) := by
  have hcontent := h.content
  have hsize := h.size_eq
  exact ⟨by omega, hk, by omega⟩

theorem LfsStored.of_eq {chain : ℕ → ℕ} (h : LfsStored cfg blockCount known chain n data)
    (hsame : ∀ m < n, known' (chain m) = known (chain m)) :
    LfsStored cfg blockCount known' chain n data where
  list := h.list.of_eq hsame
  bytes i m o hi hplace := by
    obtain ⟨hm, hknown⟩ := h.bytes i m o hi hplace
    exact ⟨hm, by rw [hsame m hm, hknown]⟩

namespace LfsContent

theorem length_lt (h : LfsContent cfg blockCount known head data blocks) : data.length < 2 ^ 32 := by
  cases h with
  | empty => norm_num
  | blocks _ hsize => exact hsize

theorem file (h : LfsContent cfg blockCount known head data blocks) :
    LfsCtzFile cfg blockCount known head data.length blocks := by
  cases h with
  | empty => exact .empty head
  | blocks hdata hsize hlast hstored =>
    exact .blocks (List.length_pos_iff.mpr hdata) hsize hlast hstored.list

/-- A file has its content as long as its blocks are kept. -/
theorem of_eq (h : LfsContent cfg blockCount known head data blocks)
    (hsame : ∀ b ∈ blocks, known' b = known b) : LfsContent cfg blockCount known' head data blocks := by
  cases h with
  | empty => exact .empty head
  | blocks hdata hsize hlast hstored =>
    exact .blocks hdata hsize hlast (hstored.of_eq fun m hm =>
      hsame _ (List.mem_map_of_mem (List.mem_range.mpr hm)))

theorem valid (h : LfsContent cfg blockCount known head data blocks) (hb : b ∈ blocks) :
    LfsBlockValid blockCount b := by
  cases h with
  | empty => exact absurd hb List.not_mem_nil
  | blocks _ _ _ hstored =>
    obtain ⟨m, hm, rfl⟩ := List.mem_map.mp hb
    exact hstored.list.valid m (List.mem_range.mp hm)

theorem exists_chain (h : LfsContent cfg blockCount known head data blocks) (hdata : data ≠ []) :
    ∃ chain last o, head = chain last ∧ blocks = (List.range (last + 1)).map chain ∧
      CtzPlace cfg.blockSize (data.length - 1) last o ∧
      LfsStored cfg blockCount known chain (last + 1) data := by
  cases h with
  | empty => exact absurd rfl hdata
  | @blocks _ last o chain _ _ hlast hstored => exact ⟨chain, last, o, rfl, rfl, hlast, hstored⟩

/-- The byte at a position is in the block of its place. -/
theorem known_eq (h : LfsContent cfg blockCount known head data blocks) (hpos : pos < data.length)
    (hb : blocks[n]? = some b) (hplace : CtzPlace cfg.blockSize pos n o) :
    known b o = data[pos]? := by
  cases h with
  | empty => exact absurd hpos (Nat.not_lt_zero pos)
  | @blocks _ last _ chain _ _ _ hstored =>
    obtain ⟨hn, hknown⟩ := hstored.bytes pos n o hpos hplace
    rw [List.getElem?_map, List.getElem?_range hn] at hb
    rw [← hknown, ← Option.some.inj hb]

/-- Bytes of a block are bytes of the file. -/
theorem eq_take (h : LfsContent cfg blockCount known head data blocks) (hb : blocks[n]? = some b)
    (hend : CtzEnd cfg.blockSize pos n off) (hroom : off + k ≤ cfg.blockSize)
    (hsize : pos + k ≤ data.length) (hlen : bytes.length = k) (hmatches : Matches (known b) off bytes) :
    bytes = (data.drop pos).take k := by
  apply List.ext_getElem?
  intro i
  rcases Nat.lt_or_ge i k with hi | hi
  · have hknown := h.known_eq (show pos + i < data.length by omega) hb (hend.ctzPlace (by omega))
    have hin : pos + i < data.length := by omega
    rw [List.getElem?_eq_getElem hin] at hknown
    rw [List.getElem?_take_of_lt hi, List.getElem?_drop, List.getElem?_eq_getElem hin]
    exact hmatches i _ hknown (hlen ▸ hi)
  · rw [List.getElem?_eq_none (hlen ▸ hi), List.getElem?_eq_none]
    rw [List.length_take]
    omega

/-- **Finding a position** of the file. -/
theorem wp_find {pcached overlaid : Bool} {s : LfsBd}
    (h : LfsContent cfg blockCount known head data blocks) (hpos : pos < data.length)
    (hs : s.Readable cfg pcached overlaid known (· ∈ blocks)) :
    wp (lfsCtzFind cfg blockCount pcached head data.length pos)
      (fun r s' => (∃ n, blocks[n]? = some r.1 ∧ CtzPlace cfg.blockSize pos n r.2) ∧ s.Read cfg s' ∧
        s'.Readable cfg pcached overlaid known (· ∈ blocks))
      (LfsBd.ReadError cfg s) s := by
  cases h with
  | empty => exact absurd hpos (Nat.not_lt_zero pos)
  | @blocks _ last oLast chain hdata hsize hlast hstored =>
    obtain ⟨n, o, hplace⟩ := exists_ctzPlace cfg.blockSize_ge (show pos < 2 ^ 32 by omega)
    have hle := hplace.mono hlast (show pos ≤ data.length - 1 by omega)
    have hin : ctzBlocks chain last = (· ∈ (List.range (last + 1)).map chain) := by
      ext b
      simp only [ctzBlocks, List.mem_map, List.mem_range, Nat.lt_succ_iff]
    have hs' : s.Readable cfg pcached overlaid known (ctzBlocks chain last) := hin ▸ hs
    apply wp_mono (wp_lfsCtzFind hstored.list hsize hlast hpos hplace hs') _ fun e t he => he
    rintro r t ⟨rfl, hread, hreadable, -⟩
    refine ⟨⟨n, ?_, hplace⟩, hread, hin ▸ hreadable⟩
    rw [List.getElem?_map, List.getElem?_range (by omega)]
    rfl

end LfsContent

end Content

/-! ### Reading -/

namespace LfsReader

@[simp] theorem bd_setBd (b : LfsBd) (r : LfsReader) (h : b.pcache = {}) : (r.setBd b).bd = b := by
  obtain ⟨pcache, rcache, disk⟩ := b
  subst h
  rfl

/-- A file that is a list of blocks, and where it is being read. -/
structure On (cfg : LfsConfig) (blockCount : ℕ) (known : LfsBlocks) (data : List UInt8) (blocks : List ℕ)
    (r : LfsReader) : Prop where
  inline : r.file.inline = false
  content : LfsContent cfg blockCount known r.file.head data blocks
  size : r.file.size = data.length
  bd : r.bd.Readable cfg false false known (· ∈ blocks)
  place : r.file.reading → ∃ n, blocks[n]? = some r.file.block ∧
    CtzEnd cfg.blockSize r.file.pos n r.file.off
/-- What a read of `n` bytes leaves behind.  Without a byte the file may not be reading afterwards,
and then nothing was done. -/
structure Advanced (cfg : LfsConfig) (n : ℕ) (r r' : LfsReader) : Prop where
  file : r'.file =
    { r.file with
      cache := r'.file.cache, block := r'.file.block, off := r'.file.off,
      reading := r'.file.reading, pos := r.file.pos + n }
  bd : r.bd.Read cfg r'.bd
  quiet : r'.file.reading = false → r.file.reading = false ∧ r'.file.cache = r.file.cache

/-- What a read leaves behind that gives up. -/
structure Stuck (cfg : LfsConfig) (r : LfsReader) (e : LfsError) (r' : LfsReader) : Prop where
  fails : r.disk.Fails e
  bd : r.bd.Read cfg r'.bd

section Read

variable {cfg : LfsConfig} {blockCount : ℕ} {known : LfsBlocks} {data : List UInt8} {blocks : List ℕ}
  {getslice : ℕ → ℕ → Fallible LfsError LfsReader (List UInt8)} {r r' r'' : LfsReader} {m n : ℕ}

theorem Advanced.refl (h : r.bd.Ok cfg) : Advanced cfg 0 r r := ⟨rfl, .refl h, fun hidle => ⟨hidle, rfl⟩⟩

theorem Advanced.trans (h : Advanced cfg m r r') (h' : Advanced cfg n r' r'') :
    Advanced cfg (m + n) r r'' := by
  refine ⟨?_, h.bd.trans h'.bd, fun hidle => ?_⟩
  · rw [h'.file, h.file, Nat.add_assoc]
  · obtain ⟨hidle', hcache'⟩ := h'.quiet hidle
    obtain ⟨hidle'', hcache⟩ := h.quiet hidle'
    exact ⟨hidle'', hcache'.trans hcache⟩

theorem Advanced.stuck {e : LfsError} (h : Advanced cfg m r r') (h' : Stuck cfg r' e r'') :
    Stuck cfg r e r'' :=
  ⟨h.bd.disk.fails h'.fails, h.bd.trans h'.bd⟩

/-- A read of the caches. -/
theorem read_setBd {b : LfsBd} (h : r.bd.Read cfg b) : r.bd.Read cfg (r.setBd b).bd := by
  rwa [bd_setBd b r h.pcache]

/-- The blocks are still there after a read of the caches. -/
theorem readable_setBd {b : LfsBd} (hread : r.bd.Read cfg b)
    (hreadable : b.Readable cfg false false known (· ∈ blocks)) :
    (r.setBd b).bd.Readable cfg false false known (· ∈ blocks) := by
  rwa [bd_setBd b r hread.pcache]

/-- After it the position is inside of the block. -/
theorem wp_lfsFileReadFind (h : r.On cfg blockCount known data blocks) (hpos : r.file.pos < data.length) :
    wp (lfsFileReadFind cfg blockCount)
      (fun _ r' => r'.On cfg blockCount known data blocks ∧ Advanced cfg 0 r r' ∧
        r'.file.reading = true ∧ r'.file.off < cfg.blockSize)
      (Stuck cfg r) r := by
  rw [lfsFileReadFind, wp_bind, wp_get]
  refine wp_ite (fun hinline => ?_) fun _ => ?_
  · rw [h.inline] at hinline
    exact absurd hinline Bool.false_ne_true
  · rw [wp_bind, onBd, wp_zoom, h.size]
    apply wp_mono (h.content.wp_find hpos h.bd)
    · rintro place b ⟨⟨n, hblock, hplace⟩, hread, hreadable⟩
      rw [wp_modify]
      exact ⟨⟨h.inline, h.content, h.size, readable_setBd hread hreadable,
        fun _ => ⟨n, hblock, hplace.ctzEnd⟩⟩,
        ⟨rfl, read_setBd hread, nofun⟩, rfl, hplace.inside⟩
    · exact fun e b he => ⟨he.1, read_setBd he.2⟩

/-- The rest of a block, or as much of it as is asked for. -/
theorem wp_lfsFileReadBlock {l : List UInt8 × ℕ} (h : r.On cfg blockCount known data blocks)
    (hreading : r.file.reading = true) (hoff : r.file.off < cfg.blockSize) (hmore : 0 < l.2)
    (hsize : r.file.pos + l.2 ≤ data.length) :
    wp (lfsFileReadBlock cfg blockCount getslice l)
      (fun res r' => ∃ l' n, res = .inl l' ∧ 0 < n ∧ n + l'.2 = l.2 ∧
        l'.1 = l.1 ++ (data.drop r.file.pos).take n ∧ r'.On cfg blockCount known data blocks ∧
        Advanced cfg n r r')
      (Stuck cfg r) r := by
  obtain ⟨m, hblock, hend⟩ := h.place hreading
  have hin : r.file.block ∈ blocks := List.mem_of_getElem? hblock
  rw [lfsFileReadBlock, wp_bind, wp_get, wp_bind]
  generalize hn : min l.2 (cfg.blockSize - r.file.off) = n
  have hroom : r.file.off + n ≤ cfg.blockSize := by omega
  rw [lfsFileReadBytes, wp_bind, wp_get]
  refine wp_ite (fun hinline => ?_) fun _ => ?_
  · rw [h.inline] at hinline
    exact absurd hinline Bool.false_ne_true
  · rw [onBd, wp_zoom]
    apply wp_mono (h.bd.wp_read hin (h.content.valid hin) cfg.blockSize_pos le_rfl hroom)
    · rintro bytes b ⟨⟨hlen, hmatches⟩, hread, hreadable, -⟩
      rw [wp_bind, wp_modify, wp_pure]
      refine ⟨_, n, rfl, by omega, by show n + (l.2 - n) = l.2; omega, ?_,
        ⟨h.inline, h.content, h.size, readable_setBd hread hreadable,
          fun _ => ⟨m, hblock, hend.add hroom⟩⟩,
        ⟨rfl, read_setBd hread, fun hidle => Bool.noConfusion (hreading.symm.trans hidle)⟩⟩
      rw [h.content.eq_take hblock hend hroom (by omega) hlen hmatches]
    · exact fun e b he => ⟨he.1, read_setBd he.2⟩

/-- A round of the loop. -/
theorem wp_lfsFileFlushedreadRound {l : List UInt8 × ℕ} (h : r.On cfg blockCount known data blocks)
    (hmore : 0 < l.2) (hsize : r.file.pos + l.2 ≤ data.length) :
    wp (lfsFileFlushedreadRound cfg blockCount getslice l)
      (fun res r' => ∃ l' n, res = .inl l' ∧ 0 < n ∧ n + l'.2 = l.2 ∧
        l'.1 = l.1 ++ (data.drop r.file.pos).take n ∧ r'.On cfg blockCount known data blocks ∧
        Advanced cfg n r r')
      (Stuck cfg r) r := by
  rw [lfsFileFlushedreadRound, if_neg hmore.ne', wp_bind, wp_get, wp_bind]
  refine wp_when (fun _ => ?_) fun hskip => ?_
  · apply wp_mono (wp_lfsFileReadFind h (by omega)) _ fun e t he => he
    rintro - t ⟨ht, hfound, hreading, hoff⟩
    have hpos : t.file.pos = r.file.pos := by rw [hfound.file, Nat.add_zero]
    apply wp_mono (wp_lfsFileReadBlock ht hreading hoff hmore (hpos ▸ hsize))
    · rintro res u ⟨l', n, hres, hn, hrest, hl', hu, hadvanced⟩
      have htrans := hfound.trans hadvanced
      rw [Nat.zero_add] at htrans
      exact ⟨l', n, hres, hn, hrest, hpos ▸ hl', hu, htrans⟩
    · exact fun e u he => hfound.stuck he
  · rw [not_or, not_not] at hskip
    obtain ⟨n, -, hend⟩ := h.place hskip.1
    exact wp_lfsFileReadBlock h hskip.1 (lt_of_le_of_ne hend.inside hskip.2) hmore hsize

/-- **Reading** gets the bytes from the position on. -/
theorem wp_lfsFileFlushedread {size : ℕ} (h : r.On cfg blockCount known data blocks) :
    wp (lfsFileFlushedread cfg blockCount getslice size)
      (fun bytes r' => bytes = (data.drop r.file.pos).take size ∧
        r'.On cfg blockCount known data blocks ∧ Advanced cfg bytes.length r r')
      (Stuck cfg r) r := by
  rw [lfsFileFlushedread, wp_bind, wp_get]
  refine wp_ite (fun hend => ?_) fun hmore => ?_
  · rw [wp_pure, List.drop_eq_nil_of_le (h.size ▸ hend), List.take_nil]
    exact ⟨rfl, h, .refl h.bd.ok⟩
  · have hsize := h.size
    have hlen : ((data.drop r.file.pos).take size).length = min size (r.file.size - r.file.pos) := by
      rw [List.length_take, List.length_drop, hsize]
    apply wp_iterate
      (I := fun l t => ∃ n, n + l.2 = min size (r.file.size - r.file.pos) ∧
        l.1 = (data.drop r.file.pos).take n ∧ t.On cfg blockCount known data blocks ∧ Advanced cfg n r t)
      (fun l _ => l.2)
    · rintro l t ⟨n, hn, hdata, ht, hadvanced⟩
      have hpos : t.file.pos = r.file.pos + n := by rw [hadvanced.file]
      rcases Nat.eq_zero_or_pos l.2 with hzero | hpositive
      · have hbytes : l.1 = (data.drop r.file.pos).take size := by
          rw [hdata, List.take_eq_take_iff, List.length_drop]
          omega
        rw [lfsFileFlushedreadRound, if_pos hzero, wp_pure]
        refine ⟨hbytes, ht, ?_⟩
        rwa [hbytes, hlen, ← hn, hzero, Nat.add_zero]
      · apply wp_mono (wp_lfsFileFlushedreadRound ht hpositive (by omega))
        · rintro res u ⟨l', k, rfl, hk, hrest, hl', hu, hadvanced'⟩
          refine ⟨⟨n + k, by omega, ?_, hu, hadvanced.trans hadvanced'⟩, by omega⟩
          rw [hl', hdata, hpos, List.take_add, List.drop_drop]
        · exact fun e u he => hadvanced.stuck he
    · exact ⟨0, Nat.zero_add _, by rw [List.take_zero], h, .refl h.bd.ok⟩

end Read

end LfsReader

end Bricklib2
