/-
Bricklib2/Library/LossyPipe.lean

A pipe that may lose elements: what has come out and what is still inside is, in order,
part of what was put in.  If as much has come out as was put in, nothing was lost and the
pipe is empty.
-/
import Mathlib.Data.List.Basic

variable {α : Type*} {input inside output : List α} {x : α}

/-- `input` was put in, `output` has come out, and `inside` is on its way. -/
def LossyPipe (input inside output : List α) : Prop := (output ++ inside).Sublist input

namespace LossyPipe

theorem empty : LossyPipe ([] : List α) [] [] := List.Sublist.refl []

/-- An element is put in. -/
theorem push (h : LossyPipe input inside output) (x : α) :
    LossyPipe (input ++ [x]) (inside ++ [x]) output := by
  rw [LossyPipe, ← List.append_assoc]
  exact List.Sublist.append h (List.Sublist.refl [x])

/-- An element is lost. -/
theorem lose (h : LossyPipe input inside output) (x : α) :
    LossyPipe (input ++ [x]) inside output :=
  List.Sublist.trans h (List.sublist_append_left input [x])

/-- An element comes out. -/
theorem pop (h : LossyPipe input (x :: inside) output) :
    LossyPipe input inside (output ++ [x]) := by
  rw [LossyPipe, List.append_assoc]
  exact h

theorem length_le (h : LossyPipe input inside output) :
    output.length + inside.length ≤ input.length := by
  rw [← List.length_append]
  exact List.Sublist.length_le h

/-- **Nothing was lost** if as much has come out as was put in. -/
theorem complete (h : LossyPipe input inside output) (hlength : input.length ≤ output.length) :
    output = input ∧ inside = [] := by
  have hle := h.length_le
  have hinside : inside = [] := List.eq_nil_of_length_eq_zero (by omega)
  rw [LossyPipe, hinside, List.append_nil] at h
  exact ⟨h.eq_of_length_le hlength, hinside⟩

/-- Nothing comes out of a pipe that nothing was put in. -/
theorem eq_nil (h : LossyPipe [] inside output) : inside = [] ∧ output = [] := by
  obtain ⟨houtput, hinside⟩ := List.append_eq_nil_iff.mp (List.sublist_nil.mp h)
  exact ⟨hinside, houtput⟩

end LossyPipe
