/-
Bricklib2/Library/CString.lean

Strings in arrays of a fixed size, ended by a terminator.  A store behind the end
of an array has no result, so a program in `Option` that has one has kept to its
arrays.

A program that builds a string from left to right in a cleared array keeps it
`padded`: the string so far, and terminators up to the end of the array.
-/
import Bricklib2.Library.Bytes

namespace CString

variable {α : Type*} {nul : α} {n i : ℕ} {s cs array : List α} {c : α}

/-- `array[i] = c` -/
def store (array : List α) (i : ℕ) (c : α) : Option (List α) :=
  if i < array.length then some (array.set i c) else none

/-- Stores one behind the other. -/
def storeAll : (array : List α) → (i : ℕ) → List α → Option (List α)
  | array, _, [] => some array
  | array, i, c :: cs => (store array i c).bind fun array => storeAll array (i + 1) cs

theorem overwrite_cons (h : i < array.length) :
    Bytes.overwrite (array.set i c) (i + 1) cs = Bytes.overwrite array i (c :: cs) := by
  have htake : (array.set i c).take (i + 1) = array.take i ++ [c] := by
    rw [List.set_eq_take_append_cons_drop, if_pos h, List.take_append, List.take_take,
      List.length_take_of_le h.le]
    simp
  have hdrop : (array.set i c).drop (i + 1 + cs.length) = array.drop (i + 1 + cs.length) :=
    List.drop_set_of_lt (by omega)
  rw [Bytes.overwrite, Bytes.overwrite, htake, hdrop, List.append_assoc, List.append_assoc,
    List.append_assoc, List.length_cons, Nat.add_right_comm, Nat.add_assoc i]
  rfl

/-- Stores that fit. -/
theorem storeAll_eq (h : i + cs.length ≤ array.length) :
    storeAll array i cs = some (Bytes.overwrite array i cs) := by
  induction cs generalizing array i with
  | nil =>
    simp [storeAll, Bytes.overwrite]
  | cons c cs ih =>
    rw [List.length_cons] at h
    have hi : i < array.length := by omega
    rw [storeAll, store, if_pos hi, Option.bind_some, ih (by rw [List.length_set]; omega),
      overwrite_cons hi]

theorem storeAll_append (array : List α) (i : ℕ) (cs ds : List α) :
    storeAll array i (cs ++ ds) =
      (storeAll array i cs).bind fun array => storeAll array (i + cs.length) ds := by
  induction cs generalizing array i with
  | nil => rfl
  | cons c cs ih =>
    rw [List.cons_append, storeAll, storeAll, Option.bind_assoc, List.length_cons,
      Nat.add_comm cs.length, ← Nat.add_assoc]
    exact congrArg _ (funext fun array => ih array (i + 1))

/-! Stores from the last place to the first. -/

theorem bind_storeAll_two {β : Type*} {a b : α} (h : i + 2 ≤ array.length)
    (f : List α → Option β) :
    ((store array (i + 1) b).bind fun array => (store array i a).bind f) =
      (storeAll array i [a, b]).bind f := by
  have h0 : i < array.length := by omega
  have h1 : i + 1 < array.length := by omega
  simp only [storeAll, store, List.length_set, h0, h1, if_true, Option.bind_some]
  rw [List.set_comm _ _ (by omega : i + 1 ≠ i)]

theorem bind_storeAll_three {β : Type*} {a b c : α} (h : i + 3 ≤ array.length)
    (f : List α → Option β) :
    ((store array (i + 2) c).bind fun array =>
        (store array (i + 1) b).bind fun array => (store array i a).bind f) =
      (storeAll array i [a, b, c]).bind f := by
  have h0 : i < array.length := by omega
  have h1 : i + 1 < array.length := by omega
  have h2 : i + 2 < array.length := by omega
  simp only [storeAll, store, List.length_set, h0, h1, h2, if_true, Option.bind_some]
  rw [List.set_comm _ _ (by omega : i + 2 ≠ i + 1), List.set_comm _ _ (by omega : i + 2 ≠ i),
    List.set_comm _ _ (by omega : i + 1 ≠ i)]

section Strings

variable [DecidableEq α]

/-- The characters in front of the first terminator. -/
def string (nul : α) (array : List α) : List α := array.takeWhile (· ≠ nul)

/-- `strlen(array + p)` -/
def strlen (nul : α) (array : List α) (p : ℕ) : ℕ := (string nul (array.drop p)).length

/-- `strncat(array + p, src, n)` -/
def strncat (nul : α) (array : List α) (p : ℕ) (src : List α) (n : ℕ) : Option (List α) :=
  storeAll array (p + strlen nul array p) (src.take n ++ [nul])

/-- `strcat(array + p, src)` -/
def strcat (nul : α) (array : List α) (p : ℕ) (src : List α) : Option (List α) :=
  storeAll array (p + strlen nul array p) (src ++ [nul])

end Strings

/-! ### Strings that are built in a cleared array -/

/-- A string of an array of `n` characters, with terminators behind it. -/
def padded (nul : α) (n : ℕ) (s : List α) : List α := s ++ List.replicate (n - s.length) nul

theorem padded_nil (nul : α) (n : ℕ) : padded nul n [] = List.replicate n nul := rfl

@[simp] theorem length_padded (h : s.length ≤ n) : (padded nul n s).length = n := by
  rw [padded, List.length_append, List.length_replicate]
  omega

/-- What is written behind the string is a part of it. -/
theorem overwrite_padded (nul : α) (n : ℕ) (s cs : List α) :
    Bytes.overwrite (padded nul n s) s.length cs = padded nul n (s ++ cs) := by
  have hdrop : (padded nul n s).drop (s.length + cs.length) =
      List.replicate (n - (s ++ cs).length) nul := by
    rw [padded, List.drop_length_add_append, List.drop_replicate, List.length_append,
      Nat.sub_sub]
  rw [Bytes.overwrite, hdrop, padded, List.take_left]
  rfl

theorem storeAll_padded (h : s.length + cs.length ≤ n) :
    storeAll (padded nul n s) s.length cs = some (padded nul n (s ++ cs)) := by
  rw [storeAll_eq (by rwa [length_padded (by omega)]), overwrite_padded]

theorem store_padded (h : s.length < n) :
    store (padded nul n s) s.length c = some (padded nul n (s ++ [c])) := by
  have hstore : storeAll (padded nul n s) s.length [c] = some (padded nul n (s ++ [c])) :=
    storeAll_padded h
  rw [storeAll] at hstore
  rwa [show (fun array => storeAll array (s.length + 1) []) = some from funext fun _ => rfl,
    Option.bind_fun_some] at hstore

/-- One more terminator is not seen. -/
theorem padded_nul (h : s.length < n) : padded nul n (s ++ [nul]) = padded nul n s := by
  rw [padded, padded, List.append_assoc, List.length_append, List.length_singleton,
    ← List.replicate_one, List.replicate_append_replicate]
  congr 2
  omega

section Strings

variable [DecidableEq α]

theorem string_append (hs : nul ∉ s) (cs : List α) :
    string nul (s ++ cs) = s ++ string nul cs := by
  apply List.takeWhile_append_of_pos
  intro c hc
  exact decide_eq_true fun heq => hs (heq ▸ hc)

theorem string_replicate (nul : α) (m : ℕ) : string nul (List.replicate m nul) = [] := by
  cases m <;> simp [string, List.replicate_succ]

theorem string_padded (hs : nul ∉ s) : string nul (padded nul n s) = s := by
  rw [padded, string_append hs, string_replicate, List.append_nil]

/-- The end of the string, seen from its beginning or from its end. -/
theorem strlen_padded (hs : nul ∉ s) : strlen nul (padded nul n s) 0 = s.length := by
  rw [strlen, List.drop_zero, string_padded hs]

theorem strlen_padded_end (nul : α) (n : ℕ) (s : List α) :
    strlen nul (padded nul n s) s.length = 0 := by
  rw [strlen, padded, List.drop_left, string_replicate]
  rfl

theorem strcat_padded (hs : nul ∉ s) (h : s.length + cs.length < n) :
    strcat nul (padded nul n s) 0 cs = some (padded nul n (s ++ cs)) := by
  rw [strcat, strlen_padded hs, Nat.zero_add, storeAll_padded, ← List.append_assoc, padded_nul]
  · rwa [List.length_append]
  · rw [List.length_append, List.length_singleton]
    omega

/-- `strncat` at the end of the string. -/
theorem strncat_padded (h : s.length + cs.length < n) (m : ℕ) (hm : cs.length ≤ m) :
    strncat nul (padded nul n s) s.length cs m = some (padded nul n (s ++ cs)) := by
  rw [strncat, strlen_padded_end, List.take_of_length_le hm, Nat.add_zero, storeAll_padded,
    ← List.append_assoc, padded_nul]
  · rwa [List.length_append]
  · rw [List.length_append, List.length_singleton]
    omega

end Strings

end CString
