/-
Bricklib2/Library/Cells.lean

Memory as a function of the position: loading a run of cells and storing a list over
some of them.  Unlike `Bytes.overwrite` on lists of a fixed length, nothing has to fit.

Of a memory that is only known in part, `Matches` says that a list has what is known of
the cells from a position on.
-/
import Mathlib.Data.List.Basic
import Mathlib.Data.List.GetD
import Mathlib.Data.List.TakeDrop

namespace Cells

variable {α : Type*} {m m' : ℕ → α} {off n k i : ℕ} {data : List α}

/-- The `n` cells from `off` on. -/
def load (m : ℕ → α) (off n : ℕ) : List α := (List.range n).map fun i => m (off + i)

/-- The cells from `off` on are those of `data`. -/
def store (m : ℕ → α) (off : ℕ) (data : List α) : ℕ → α :=
  fun i => if off ≤ i then data.getD (i - off) (m i) else m i

@[simp] theorem length_load (m : ℕ → α) (off n : ℕ) : (load m off n).length = n := by
  rw [load, List.length_map, List.length_range]

@[simp] theorem load_zero (m : ℕ → α) (off : ℕ) : load m off 0 = [] := rfl

/-- Cells of a window that was moved. -/
theorem load_shift (h : ∀ i < n, m (off + i) = m' (k + i)) : load m off n = load m' k n := by
  apply List.map_congr_left
  intro i hi
  exact h i (List.mem_range.mp hi)

theorem getD_load (d : α) (h : i < n) : (load m off n).getD i d = m (off + i) := by
  rw [List.getD_eq_getElem?_getD, load, List.getElem?_map, List.getElem?_range h]
  rfl

theorem store_of_lt (h : i < off) : store m off data i = m i := if_neg (by omega)

theorem store_of_ge (h : off + data.length ≤ i) : store m off data i = m i := by
  rw [store, if_pos (by omega), List.getD_eq_default _ _ (by omega)]

theorem store_inside (h : off ≤ i) (hi : i < off + data.length) (d : α) :
    store m off data i = data.getD (i - off) d := by
  have hlt : i - off < data.length := by omega
  rw [store, if_pos h, List.getD_eq_getElem _ _ hlt, List.getD_eq_getElem _ _ hlt]

/-- Storing one list behind the other. -/
theorem store_append (m : ℕ → α) (off : ℕ) (xs ys : List α) :
    store m off (xs ++ ys) = store (store m off xs) (off + xs.length) ys := by
  funext i
  rcases Nat.lt_or_ge i (off + xs.length) with h | h
  · rw [store_of_lt h]
    rcases Nat.lt_or_ge i off with hlow | hlow
    · rw [store_of_lt hlow, store_of_lt hlow]
    · rw [store_inside hlow (by rw [List.length_append]; omega) (m i), store_inside hlow h (m i),
        List.getD_append _ _ _ _ (by omega)]
  · rw [store, if_pos (by omega), store, if_pos h, store_of_ge h,
      List.getD_append_right _ _ _ _ (by omega), Nat.sub_sub]

theorem store_inside_eq {x : α} (h : off ≤ i) (hi : data[i - off]? = some x) :
    store m off data i = x := by
  rw [store, if_pos h, List.getD_eq_getElem?_getD, hi]
  rfl

@[simp] theorem store_nil (m : ℕ → α) (off : ℕ) : store m off [] = m := by
  funext i
  simp [store]

/-! ### Memory that is known in part -/

/-- The bytes are what is known of the cells from `off` on. -/
def Matches (known : ℕ → Option α) (off : ℕ) (data : List α) : Prop :=
  ∀ k x, known (off + k) = some x → k < data.length → data[k]? = some x

variable {known : ℕ → Option α} {xs ys : List α}

theorem matches_nil (known : ℕ → Option α) (off : ℕ) : Matches known off [] := by
  intro k x _ hk
  exact absurd hk (Nat.not_lt_zero k)

theorem Matches.append (hx : Matches known off xs) (hy : Matches known (off + xs.length) ys) :
    Matches known off (xs ++ ys) := by
  intro k x hknown hk
  rcases Nat.lt_or_ge k xs.length with h | h
  · rw [List.getElem?_append_left h]
    exact hx k x hknown h
  · rw [List.getElem?_append_right h]
    rw [List.length_append] at hk
    refine hy _ _ ?_ (by omega)
    rwa [Nat.add_assoc, Nat.add_sub_cancel' h]

theorem matches_load (h : ∀ k < n, ∀ x, known (off + k) = some x → m (i + k) = x) :
    Matches known off (load m i n) := by
  intro k x hknown hk
  rw [length_load] at hk
  rw [load, List.getElem?_map, List.getElem?_range hk, Option.map_some, h k hk x hknown]

/-- Where all is known, the list is determined. -/
theorem Matches.eq_load (h : Matches known off data)
    (hm : ∀ k < data.length, known (off + k) = some (m (off + k))) :
    data = load m off data.length := by
  apply List.ext_getElem?
  intro k
  rcases Nat.lt_or_ge k data.length with hk | hk
  · rw [h k _ (hm k hk) hk, load, List.getElem?_map, List.getElem?_range hk, Option.map_some]
  · rw [List.getElem?_eq_none hk, List.getElem?_eq_none (by rwa [length_load])]

end Cells
