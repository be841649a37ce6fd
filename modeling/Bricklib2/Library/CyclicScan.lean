/-
Bricklib2/Library/CyclicScan.lean

A cursor on a table of `n` cells that is scanned round and round.  `next` moves it to the
next cell that `p` selects, and counts how often it comes past the front.

* `exists_next` — there is a next cell, at most two rounds away, as soon as one cell is
  selected; `Next` says which one;
* `Next.below_ahead`, `Next.below_around` — who notes the cell at the cursor before each
  move notes every selected cell once a round, in order;
* `Next.passed_ahead`, `Next.passed_around` — no selected cell is left out.
-/
import Mathlib.Data.List.Range
import Mathlib.Tactic.Common

namespace CyclicScan

variable {p : ℕ → Bool} {n i j : ℕ}

/-! ### Moving on -/

/-- The next cell that `p` selects, and how often the scan comes past the front. -/
def next (p : ℕ → Bool) (n : ℕ) : (fuel : ℕ) → (i : ℕ) → Option (ℕ × ℕ)
  | 0, _ => none
  | fuel + 1, i =>
    let j := if i + 1 < n then i + 1 else 0
    let rounds := if i + 1 < n then 0 else 1
    if p j then
      some (j, rounds)
    else
      (next p n fuel j).map fun r => (r.1, r.2 + rounds)

/-- `Next p n i j rounds`: from `i` the scan gets to `j`, behind `i` or past the front. -/
inductive Next (p : ℕ → Bool) (n i : ℕ) : ℕ → ℕ → Prop
  | ahead {j : ℕ} (hlt : i < j) (hj : j < n) (hp : p j = true)
      (hskip : ∀ k, i < k → k < j → p k = false) : Next p n i j 0
  | around {j : ℕ} (hj : j < n) (hp : p j = true) (hrest : ∀ k, i < k → k < n → p k = false)
      (hskip : ∀ k < j, p k = false) : Next p n i j 1

theorem next_inside {fuel : ℕ} (h : i + 1 < n) : next p n (fuel + 1) i =
    if p (i + 1) then some (i + 1, 0) else next p n fuel (i + 1) := by
  simp [next, h]

theorem next_last {fuel : ℕ} (h : i + 1 = n) : next p n (fuel + 1) i =
    if p 0 then some (0, 1) else (next p n fuel 0).map fun r => (r.1, r.2 + 1) := by
  simp [next, h]

/-- While a selected cell lies ahead, the first of them is the next one. -/
theorem next_ahead {fuel k : ℕ} (hlt : i < k) (hk : k < n) (hp : p k = true)
    (hfuel : k - i ≤ fuel) : ∃ j, next p n fuel i = some (j, 0) ∧ Next p n i j 0 := by
  induction fuel generalizing i with
  | zero => omega
  | succ fuel ih =>
    rw [next_inside (by omega)]
    by_cases hnext : p (i + 1) = true
    · refine ⟨i + 1, if_pos hnext, .ahead (by omega) (by omega) hnext ?_⟩
      intro k' hlt' hk'
      omega
    · have hne : k ≠ i + 1 := by
        rintro rfl
        exact hnext hp
      rw [if_neg hnext]
      obtain ⟨j, hj, hspec⟩ := ih (i := i + 1) (by omega) (by omega)
      refine ⟨j, hj, ?_⟩
      cases hspec with
      | ahead hlt' hj' hp' hskip =>
        refine .ahead (by omega) hj' hp' fun k' hlt'' hk' => ?_
        obtain rfl | hbehind : k' = i + 1 ∨ i + 1 < k' := by omega
        · exact eq_false_of_ne_true hnext
        · exact hskip k' hbehind hk'

/-- With no selected cell ahead the scan comes to the front. -/
theorem next_front {fuel : ℕ} (hi : i < n) (hrest : ∀ k, i < k → k < n → p k = false) :
    next p n (fuel + (n - i)) i =
      if p 0 then some (0, 1) else (next p n fuel 0).map fun r => (r.1, r.2 + 1) := by
  obtain ⟨m, hm⟩ : ∃ m, n - i = m + 1 := ⟨n - i - 1, by omega⟩
  rw [hm]
  induction m generalizing i with
  | zero => exact next_last (by omega)
  | succ m ih =>
    have hnext : p (i + 1) = false := hrest (i + 1) (by omega) (by omega)
    rw [← Nat.add_assoc, next_inside (by omega), hnext, if_neg Bool.false_ne_true]
    exact ih (by omega) (fun k hlt hk => hrest k (by omega) hk) (by omega)

/-- Two rounds are enough. -/
theorem exists_next {fuel : ℕ} (hi : i < n) (hsome : ∃ k < n, p k = true)
    (hfuel : 2 * n ≤ fuel) :
    ∃ j rounds, next p n fuel i = some (j, rounds) ∧ Next p n i j rounds := by
  by_cases hahead : ∃ k, i < k ∧ k < n ∧ p k = true
  · obtain ⟨k, hlt, hk, hp⟩ := hahead
    obtain ⟨j, hj, hspec⟩ := next_ahead hlt hk hp (show k - i ≤ fuel by omega)
    exact ⟨j, 0, hj, hspec⟩
  · have hrest : ∀ k, i < k → k < n → p k = false := by
      intro k hlt hk
      exact eq_false_of_ne_true fun hp => hahead ⟨k, hlt, hk, hp⟩
    obtain ⟨fuel', rfl⟩ : ∃ fuel', fuel = fuel' + (n - i) := ⟨fuel - (n - i), by omega⟩
    rw [next_front hi hrest]
    by_cases hfront : p 0 = true
    · refine ⟨0, 1, if_pos hfront, .around (by omega) hfront hrest ?_⟩
      intro k hk
      exact absurd hk (Nat.not_lt_zero k)
    · rw [if_neg hfront]
      obtain ⟨k, hk, hp⟩ := hsome
      have hpos : 0 < k := by
        apply Nat.pos_of_ne_zero
        rintro rfl
        exact hfront hp
      obtain ⟨j, hj, hspec⟩ := next_ahead hpos hk hp (show k - 0 ≤ fuel' by omega)
      refine ⟨j, 1, by rw [hj]; rfl, ?_⟩
      cases hspec with
      | ahead hlt' hj' hp' hskip =>
        refine .around hj' hp' hrest fun k' hk' => ?_
        obtain rfl | hpos' := Nat.eq_zero_or_pos k'
        · exact eq_false_of_ne_true hfront
        · exact hskip k' hpos' hk'

theorem Next.lt {rounds : ℕ} (h : Next p n i j rounds) : j < n := by
  cases h with
  | ahead _ hj => exact hj
  | around hj => exact hj

theorem Next.selected {rounds : ℕ} (h : Next p n i j rounds) : p j = true := by
  cases h with
  | ahead _ _ hp => exact hp
  | around _ hp => exact hp

theorem Next.rounds {rounds : ℕ} (h : Next p n i j rounds) : rounds = 0 ∨ rounds = 1 := by
  cases h with
  | ahead => exact Or.inl rfl
  | around => exact Or.inr rfl

/-! ### What a round passes -/

/-- The selected cells in front of `i`. -/
def below (p : ℕ → Bool) (i : ℕ) : List ℕ := (List.range i).filter p

theorem below_succ (h : p i = true) : below p (i + 1) = below p i ++ [i] := by
  simp [below, List.range_succ, h]

theorem below_skip (hle : i ≤ j) (h : ∀ k, i ≤ k → k < j → p k = false) :
    below p j = below p i := by
  induction j, hle using Nat.le_induction with
  | base => rfl
  | succ j hle ih =>
    have hp : p j = false := h j hle (Nat.lt_succ_self j)
    have hsame := ih fun k hk hlt => h k hk (by omega)
    rw [← hsame]
    simp [below, List.range_succ, hp]

theorem mem_below {k : ℕ} : k ∈ below p i ↔ k < i ∧ p k = true := by
  simp [below]

/-- Inside a round nothing is left out. -/
theorem Next.below_ahead (h : Next p n i j 0) : below p j = below p (i + 1) := by
  cases h with
  | ahead hlt _ _ hskip => exact below_skip hlt fun k hk hlt' => hskip k hk hlt'

/-- A round ends with all selected cells, and the next one starts with none. -/
theorem Next.below_around (hi : i < n) (h : Next p n i j 1) :
    below p (i + 1) = below p n ∧ below p j = [] := by
  cases h with
  | around _ _ hrest hskip =>
    exact ⟨(below_skip hi fun k hk hlt => hrest k hk hlt).symm,
      below_skip (Nat.zero_le j) fun k _ hlt => hskip k hlt⟩

theorem Next.passed_ahead {k : ℕ} (h : Next p n i j 0) (hk : k < j) (hp : p k = true) : k ≤ i := by
  cases h with
  | ahead _ _ _ hskip =>
    by_contra hlt
    rw [hskip k (by omega) hk] at hp
    cases hp

theorem Next.passed_around {k : ℕ} (h : Next p n i j 1) (hk : k < n) (hp : p k = true) :
    k ≤ i := by
  cases h with
  | around _ _ hrest _ =>
    by_contra hlt
    rw [hrest k (by omega) hk] at hp
    cases hp

end CyclicScan
