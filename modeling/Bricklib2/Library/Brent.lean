/-
Bricklib2/Library/Brent.lean

Brent's algorithm for cycles in a sequence: a watch remembers one of the elements and is set
to the current one after 1, 2, 4, ... steps.  An element that is the same as the remembered
one has been there before (`tortoise_eq`), and a sequence in which each element
determines the next one, with elements of a finite set, is not watched for long
(`exists_tortoise_eq`).
-/
import Mathlib.Algebra.Order.Ring.Nat
import Mathlib.Data.Finset.Card
import Mathlib.Data.Nat.Log

namespace Brent

variable {β : Type*}

/-- The remembered element, the steps since it was set and when to set it again. -/
structure Watch (β : Type*) where
  tortoise : β
  i : ℕ := 1
  period : ℕ := 1

/-- The watch after an element that is not the remembered one. -/
def Watch.step (w : Watch β) (x : β) : Watch β :=
  if w.i = w.period then { tortoise := x, period := w.period * 2 }
  else { w with i := w.i + 1 }

/-- The watch in front of an element of the sequence. -/
def watch (start : β) (x : ℕ → β) : ℕ → Watch β
  | 0 => { tortoise := start }
  | n + 1 => (watch start x n).step (x n)

/-- The element that is remembered after the watch has been set `k` times. -/
def remembered (start : β) (x : ℕ → β) : ℕ → β
  | 0 => start
  | k + 1 => x (2 ^ (k + 1) - 2)

variable {start : β} {x : ℕ → β} {n k m : ℕ}

/-- The watch was set at position `2^k - 2`. -/
theorem watch_eq (hlow : 2 ^ k - 1 ≤ n) (hhigh : n ≤ 2 ^ (k + 1) - 2) :
    watch start x n = ⟨remembered start x k, n + 2 - 2 ^ k, 2 ^ k⟩ := by
  induction n generalizing k with
  | zero =>
    obtain rfl : k = 0 := by
      by_contra hk
      have hpow := Nat.pow_le_pow_right two_pos (Nat.one_le_iff_ne_zero.mpr hk)
      omega
    rfl
  | succ n ih =>
    have hpos := Nat.two_pow_pos k
    rw [pow_succ] at hhigh
    rcases Nat.lt_or_ge n (2 ^ k - 1) with hlt | hge
    · -- the watch is set in this step
      obtain ⟨j, rfl⟩ : ∃ j, k = j + 1 := by
        cases k with
        | zero => exact absurd hlt (Nat.not_lt_zero n)
        | succ j => exact ⟨j, rfl⟩
      have hpow : 2 ^ (j + 1) = 2 ^ j * 2 := pow_succ 2 j
      have hj := Nat.two_pow_pos j
      rw [watch, ih (k := j) (by omega) (by omega), Watch.step]
      have hset : n + 2 - 2 ^ j = 2 ^ j := by omega
      have hnow : n + 1 + 2 - 2 ^ (j + 1) = 1 := by omega
      obtain rfl : n = 2 ^ (j + 1) - 2 := by omega
      simp only [hset, if_true, hnow]
      rw [← hpow]
      rfl
    · have hnot : n + 2 - 2 ^ k ≠ 2 ^ k := by omega
      have hnext : n + 1 + 2 - 2 ^ k = n + 2 - 2 ^ k + 1 := by omega
      rw [watch, ih (k := k) hge (by rw [pow_succ]; omega), Watch.step]
      simp only [if_neg hnot, hnext]

/-- The number of times that the watch has been set. -/
theorem exists_set (n : ℕ) : ∃ k, 2 ^ k - 1 ≤ n ∧ n ≤ 2 ^ (k + 1) - 2 := by
  refine ⟨Nat.log 2 (n + 1), ?_, ?_⟩
  · have hle := Nat.pow_log_le_self 2 (Nat.succ_ne_zero n)
    rw [Nat.succ_eq_add_one] at hle
    omega
  · have hlt := Nat.lt_pow_succ_log_self one_lt_two (n + 1)
    omega

/-- What is remembered is from the start, or an element that was there before. -/
theorem tortoise_eq (start : β) (x : ℕ → β) (n : ℕ) :
    (watch start x n).tortoise = start ∨ ∃ m < n, (watch start x n).tortoise = x m := by
  obtain ⟨k, hlow, hhigh⟩ := exists_set n
  rw [watch_eq hlow hhigh]
  cases k with
  | zero => exact .inl rfl
  | succ k =>
    refine .inr ⟨2 ^ (k + 1) - 2, ?_, rfl⟩
    have hpow := Nat.pow_le_pow_right two_pos (show 1 ≤ k + 1 by omega)
    omega

/-- **Cycles are found.**  Among the first `3 N + 1` elements from a set of `N` there is one that
is remembered when its turn comes. -/
theorem exists_tortoise_eq (start : β) {s : Finset β} (hmem : ∀ m < n, x m ∈ s)
    (hnext : ∀ i j, i + 1 < n → j + 1 < n → x i = x j → x (i + 1) = x (j + 1))
    (hn : 3 * s.card + 1 ≤ n) : ∃ m < n, (watch start x m).tortoise = x m := by
  -- two of the elements are the same
  obtain ⟨i, hi, j, hj, hne, hij⟩ : ∃ i ∈ Finset.range (s.card + 1),
      ∃ j ∈ Finset.range (s.card + 1), i ≠ j ∧ x i = x j := by
    apply Finset.exists_ne_map_eq_of_card_lt_of_maps_to (t := s)
    · rw [Finset.card_range]
      exact Nat.lt_succ_self _
    · intro m hm
      have hm := Finset.mem_range.mp hm
      exact hmem m (by omega)
  wlog hlt : i < j generalizing i j
  · exact this j hj i hi hne.symm hij.symm (lt_of_le_of_ne (not_lt.mp hlt) hne.symm)
  rw [Finset.mem_range] at hi hj
  -- and so are all later ones at the same distance
  have hperiod : ∀ m, j + m < n → x (i + m) = x (j + m) := by
    intro m
    induction m with
    | zero => exact fun _ => hij
    | succ m ih => exact fun hm => hnext (i + m) (j + m) (by omega) (by omega) (ih (by omega))
  obtain ⟨k, hlow, hhigh⟩ := exists_set s.card
  have hpow : 2 ^ (k + 1) = 2 ^ k * 2 := pow_succ 2 k
  have hpow' : 2 ^ (k + 1 + 1) = 2 ^ (k + 1) * 2 := pow_succ 2 (k + 1)
  refine ⟨2 ^ (k + 1) - 2 + (j - i), by omega, ?_⟩
  rw [watch_eq (k := k + 1) (by omega) (by omega)]
  have heq := hperiod (2 ^ (k + 1) - 2 - i) (by omega)
  rw [show i + (2 ^ (k + 1) - 2 - i) = 2 ^ (k + 1) - 2 by omega,
    show j + (2 ^ (k + 1) - 2 - i) = 2 ^ (k + 1) - 2 + (j - i) by omega] at heq
  exact heq

end Brent
