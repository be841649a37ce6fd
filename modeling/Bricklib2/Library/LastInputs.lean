/-
Bricklib2/Library/LastInputs.lean

A ring that keeps the last inputs: its cells are overwritten in a cycle, the oldest one
first.  `window` has the cells in the order of the inputs; an input takes its first
element away and goes to its end (`window_push`).
-/
import Mathlib.Algebra.BigOperators.Group.List.Basic
import Mathlib.Data.List.Infix
import Mathlib.Tactic.Linarith

namespace LastInputs

variable {α : Type*} {cells inputs : List α} {index : ℕ}

/-- The cells, the oldest one in front. -/
def window (cells : List α) (index : ℕ) : List α := cells.drop index ++ cells.take index

/-- The cell to overwrite next. -/
def next (cells : List α) (index : ℕ) : ℕ := if cells.length ≤ index + 1 then 0 else index + 1

theorem next_lt (h : index < cells.length) : next cells index < cells.length := by
  unfold next
  split_ifs <;> omega

@[simp] theorem length_window (cells : List α) (index : ℕ) :
    (window cells index).length = cells.length := by
  simp only [window, List.length_append, List.length_drop, List.length_take]
  omega

theorem window_eq_cons (h : index < cells.length) :
    window cells index = cells[index] :: (cells.drop (index + 1) ++ cells.take index) := by
  rw [window, List.drop_eq_getElem_cons h, List.cons_append]

/-- **An input** takes the place of the oldest one. -/
theorem window_push (h : index < cells.length) (input : α) :
    window (cells.set index input) (next cells index) =
      (window cells index).tail ++ [input] := by
  have hset : (cells.set index input).take (index + 1) = cells.take index ++ [input] := by
    rw [List.take_add_one, List.getElem?_set_self h, List.take_set_of_le (le_refl index)]
    rfl
  have hdrop : (cells.set index input).drop (index + 1) = cells.drop (index + 1) :=
    List.drop_set_of_lt (Nat.lt_succ_self index)
  rw [window_eq_cons h, List.tail_cons, List.append_assoc, ← hset, next]
  split_ifs with hlast
  · have hall : (cells.set index input).take (index + 1) = cells.set index input :=
      List.take_of_length_le (by rwa [List.length_set])
    rw [window, List.drop_zero, List.take_zero, List.append_nil, hall,
      List.drop_of_length_le hlast, List.nil_append]
  · rw [window, hdrop]

/-- The window has the last inputs before and behind a step. -/
theorem suffix_push (h : window cells index <:+ inputs) (hlt : index < cells.length) (input : α) :
    window (cells.set index input) (next cells index) <:+ inputs ++ [input] := by
  rw [window_push hlt]
  obtain ⟨front, rfl⟩ := h
  refine ⟨front ++ [cells[index]], ?_⟩
  rw [window_eq_cons hlt, List.tail_cons]
  simp only [List.append_assoc, List.cons_append, List.nil_append]

section Sum

variable [AddCommGroup α]

/-- The sum of the cells does not depend on their order. -/
theorem sum_window (cells : List α) (index : ℕ) : (window cells index).sum = cells.sum := by
  rw [window, List.sum_append, add_comm, ← List.sum_append, List.take_append_drop]

/-- **The sum** is kept by taking the overwritten cell off and adding the input. -/
theorem sum_set (h : index < cells.length) (input : α) :
    (cells.set index input).sum = cells.sum - cells[index] + input := by
  rw [← sum_window _ (next cells index), window_push h, ← sum_window cells index,
    window_eq_cons h, List.tail_cons, List.sum_append, List.sum_cons, List.sum_cons,
    List.sum_nil, add_zero, add_sub_cancel_left]

end Sum

end LastInputs
