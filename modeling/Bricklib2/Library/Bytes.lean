/-
Bricklib2/Library/Bytes.lean

Fixed-size memory as lists: `overwrite mem off src` is what copying `src` to
`mem + off` leaves behind.  The lemmas say how the copied part, the part below
it and the part above it read afterwards; they need the copy to fit, which is
the side condition a C program has to meet as well.  The other sections are
about a byte stream that is cut into blocks, about numbers whose bytes are sent
high byte first, and about tables that are indexed by a byte.
-/
import Mathlib.Data.List.Basic
import Mathlib.Data.List.Induction
import Mathlib.Data.List.TakeDrop
import Mathlib.Tactic.Linarith

namespace Bytes

variable {α : Type*}

/-- Copy `src` over the cells of `mem` that start at `off`. -/
def overwrite (mem : List α) (off : ℕ) (src : List α) : List α :=
  mem.take off ++ src ++ mem.drop (off + src.length)

@[simp] theorem length_overwrite {mem : List α} {off : ℕ} {src : List α}
    (h : off + src.length ≤ mem.length) : (overwrite mem off src).length = mem.length := by
  simp only [overwrite, List.length_append, List.length_take, List.length_drop]
  omega

/-- Reading up to the end of the copy: the old cells, then the copied ones. -/
theorem take_overwrite {mem : List α} {off : ℕ} (src : List α) (h : off ≤ mem.length) :
    (overwrite mem off src).take (off + src.length) = mem.take off ++ src := by
  have hl : (mem.take off ++ src).length = off + src.length := by
    rw [List.length_append, List.length_take_of_le h]
  exact List.take_left' hl

/-- Cells above the copy are unchanged. -/
theorem drop_overwrite {mem : List α} {off : ℕ} (src : List α) (h : off ≤ mem.length) :
    (overwrite mem off src).drop (off + src.length) = mem.drop (off + src.length) := by
  have hl : (mem.take off ++ src).length = off + src.length := by
    rw [List.length_append, List.length_take_of_le h]
  exact List.drop_left' hl

/-- Cells below the copy are unchanged. -/
theorem take_overwrite_of_le {mem : List α} {off n : ℕ} {src : List α} (h : off ≤ mem.length)
    (hn : n ≤ off) : (overwrite mem off src).take n = mem.take n := by
  rw [overwrite, List.append_assoc, List.take_append_of_le_length, List.take_take,
    Nat.min_eq_left hn]
  rw [List.length_take_of_le h]
  exact hn

theorem getElem?_overwrite_above {mem : List α} {off i : ℕ} {src : List α}
    (h : off ≤ mem.length) (hi : off + src.length ≤ i) :
    (overwrite mem off src)[i]? = mem[i]? := by
  have hd := congrArg (fun l : List α => l[i - (off + src.length)]?) (drop_overwrite src h)
  simp only [List.getElem?_drop] at hd
  rwa [Nat.add_sub_cancel' hi] at hd

/-- A window of the first `n` cells. -/
theorem window_take {mem : List α} {n i m : ℕ} (h : i + m ≤ n) :
    ((mem.take n).drop i).take m = (mem.drop i).take m := by
  rw [List.drop_take, List.take_take, Nat.min_eq_left (by omega)]

/-- A window of cells that are given by their position. -/
theorem window_range {f : ℕ → α} {n i m : ℕ} (h : i + m ≤ n) :
    (((List.range n).map f).drop i).take m = (List.range m).map fun k => f (i + k) := by
  apply List.ext_getElem?
  intro k
  rcases Nat.lt_or_ge k m with hk | hk
  · rw [List.getElem?_take_of_lt hk, List.getElem?_drop, List.getElem?_map, List.getElem?_map,
      List.getElem?_range (by omega), List.getElem?_range hk]
    rfl
  · rw [List.getElem?_eq_none (by simp; omega), List.getElem?_eq_none (by simp; omega)]

/-! ### Prefixes of a concatenation -/

/-- A prefix of a concatenation that is at least as long as the first block
starts with that block and goes on with a prefix of the others. -/
theorem prefix_flatten_cons {m xs : List α} {ms : List (List α)}
    (h : xs <+: (m :: ms).flatten) (hl : m.length ≤ xs.length) :
    xs.take m.length = m ∧ xs.drop m.length <+: ms.flatten := by
  obtain ⟨ys, hys⟩ := h
  rw [List.flatten_cons] at hys
  have htake := congrArg (List.take m.length) hys
  have hdrop := congrArg (List.drop m.length) hys
  rw [List.take_append_of_le_length hl, List.take_left] at htake
  rw [List.drop_append_of_le_length hl, List.drop_left] at hdrop
  exact ⟨htake, ys, hdrop⟩

/-! ### Big-endian numbers -/

/-- The number that the bytes stand for, the first one being the highest. -/
def bigEndian (bytes : List UInt8) : ℕ := bytes.foldl (fun n b => n * 256 + b.toNat) 0

theorem bigEndian_concat (bytes : List UInt8) (b : UInt8) :
    bigEndian (bytes ++ [b]) = bigEndian bytes * 256 + b.toNat := by
  rw [bigEndian, List.foldl_append]
  rfl

theorem bigEndian_lt (bytes : List UInt8) : bigEndian bytes < 256 ^ bytes.length := by
  induction bytes using List.reverseRecOn with
  | nil => exact Nat.one_pos
  | append_singleton bytes b ih =>
    rw [bigEndian_concat, List.length_append, List.length_singleton, pow_succ]
    have hb : b.toNat < 256 := b.toNat_lt
    omega

/-- A digit of `w` bits under the ones that are there. -/
theorem shiftLeft_or_shiftLeft {x y w : ℕ} (k : ℕ) (hy : y < 2 ^ w) :
    (x <<< (w + k)) ||| (y <<< k) = (x * 2 ^ w + y) <<< k := by
  rw [Nat.shiftLeft_add, ← Nat.shiftLeft_or_distrib, ← Nat.shiftLeft_add_eq_or_of_lt hy,
    Nat.shiftLeft_eq x]

/-- The next byte of a number that is put together by shifts. -/
theorem bigEndian_or_shiftLeft (bytes : List UInt8) (b : UInt8) (k : ℕ) :
    (bigEndian bytes <<< (8 + k)) ||| (b.toNat <<< k) = bigEndian (bytes ++ [b]) <<< k := by
  rw [shiftLeft_or_shiftLeft k b.toNat_lt, bigEndian_concat, show 2 ^ 8 = 256 from rfl]

/-! ### Little-endian numbers -/

/-- The number that the bytes stand for, the first one being the lowest. -/
def littleEndian (bytes : List UInt8) : ℕ := bytes.foldr (fun b n => n * 256 + b.toNat) 0

theorem littleEndian_reverse (bytes : List UInt8) :
    littleEndian bytes.reverse = bigEndian bytes := by
  rw [littleEndian, List.foldr_reverse, bigEndian]

/-- Reading the first `n` cells backwards. -/
theorem map_range_backwards {xs : List α} {n : ℕ} (d : α) (h : n ≤ xs.length) :
    ((List.range n).map fun i => xs.getD (n - 1 - i) d) = (xs.take n).reverse := by
  apply List.ext_getElem
  · rw [List.length_map, List.length_range, List.length_reverse, List.length_take_of_le h]
  · intro i hi hi'
    have hin : i < n := by simpa using hi
    have hlt : n - 1 - i < xs.length := by omega
    simp [List.getElem_reverse, List.getD_eq_getElem?_getD, hlt, Nat.min_eq_left h]

/-! ### Tables -/

/-- A table that was found to list the values of `f` is `f`. -/
theorem table_getD {table : List α} {f : BitVec 8 → α} {d : α}
    (h : table = (List.range 256).map fun i => f (BitVec.ofNat 8 i)) (b : BitVec 8) :
    table.getD b.toNat d = f b := by
  have hb : b.toNat < 256 := b.isLt
  rw [h, List.getD_eq_getElem?_getD, List.getElem?_map, List.getElem?_range hb, Option.map_some,
    Option.getD_some, BitVec.ofNat_toNat, BitVec.setWidth_eq]

end Bytes
