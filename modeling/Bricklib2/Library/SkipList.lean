/-
Bricklib2/Library/SkipList.lean

Lists of blocks that skip by powers of two: block `n` has a pointer to block `n - 2^x` for
every `x` up to the trailing zeros of `n`.  Such a list grows at its head without a change
to the blocks that are there.

* `hop`: the longest pointer that does not lead past a target; `hops_le`, it takes at most
  `2 log + 1` of them to get there;
* `Linked.next`: the pointers of a new head can be found by following the pointers of
  the blocks they lead to.
-/
import Bricklib2.Library.BinaryOnes
import Mathlib.Data.Nat.Log

namespace SkipList

open BinaryOnes

variable {β : Type*} {points : β → ℕ → β → Prop} {chain : ℕ → β} {n t x : ℕ}

/-! ### Hops -/

/-- The pointer to follow from block `n` towards block `t`. -/
def skip (n t : ℕ) : ℕ := min (Nat.log 2 (n - t)) (trailingZeros n)

/-- The block it leads to. -/
def hop (n t : ℕ) : ℕ := n - 2 ^ skip n t

theorem skip_le : skip n t ≤ trailingZeros n := Nat.min_le_right _ _

theorem two_pow_skip_le (h : t < n) : 2 ^ skip n t ≤ n - t :=
  (Nat.pow_le_pow_right two_pos (Nat.min_le_left _ _)).trans
    (Nat.pow_log_le_self 2 (by omega))

theorem le_hop (h : t < n) : t ≤ hop n t := by
  have hle := two_pow_skip_le h
  rw [hop]
  omega

theorem hop_lt (h : t < n) : hop n t < n := by
  have hpos := Nat.two_pow_pos (skip n t)
  rw [hop]
  omega

/-- An upper bound of the hops from `n` to `t`: at first the pointers get longer, and once
they are long enough they get shorter. -/
def hops (n t : ℕ) : ℕ :=
  if n ≤ t then 0
  else if Nat.log 2 (n - t) ≤ trailingZeros n then Nat.log 2 (n - t) + 1
  else 2 * Nat.log 2 (n - t) + 1 - trailingZeros n

theorem hops_le (n t : ℕ) : hops n t ≤ 2 * Nat.log 2 (n - t) + 1 := by
  rw [hops]
  split_ifs <;> omega

/-- Going back by a pointer does not take away trailing zeros. -/
theorem le_trailingZeros_sub (hx : x ≤ trailingZeros n) (hlt : 2 ^ x < n) :
    x ≤ trailingZeros (n - 2 ^ x) := by
  have hdvd : 2 ^ x ∣ n := (pow_dvd_pow 2 hx).trans pow_padicValNat_dvd
  exact (padicValNat_dvd_iff_le (by omega)).mp (Nat.dvd_sub hdvd dvd_rfl)

theorem two_pow_trailingZeros_le (hn : 0 < n) : 2 ^ trailingZeros n ≤ n :=
  Nat.le_of_dvd hn pow_padicValNat_dvd

/-- After the longest pointer there are more trailing zeros. -/
theorem trailingZeros_lt_sub (hlt : 2 ^ trailingZeros n < n) :
    trailingZeros n < trailingZeros (n - 2 ^ trailingZeros n) := by
  obtain ⟨m, hm⟩ : 2 ^ trailingZeros n ∣ n := pow_padicValNat_dvd
  have hodd : ¬ 2 ∣ m := by
    rintro ⟨k, rfl⟩
    have hne : n ≠ 0 := ((Nat.two_pow_pos _).trans hlt).ne'
    have hnot : ¬ 2 ^ (trailingZeros n + 1) ∣ n := pow_succ_padicValNat_not_dvd hne
    refine hnot ⟨k, ?_⟩
    rw [pow_succ, mul_assoc]
    exact hm
  have heven : 2 ∣ m - 1 := by omega
  have hsub : n - 2 ^ trailingZeros n = 2 ^ trailingZeros n * (m - 1) := by
    rw [Nat.mul_sub_one, ← hm]
  refine (padicValNat_dvd_iff_le (by omega)).mp ?_
  rw [hsub, pow_succ]
  exact Nat.mul_dvd_mul_left _ heven

/-- **Hops** get used up. -/
theorem hops_hop_lt (h : t < n) : hops (hop n t) t < hops n t := by
  have hle := le_hop h
  rcases Nat.lt_or_ge (trailingZeros n) (Nat.log 2 (n - t)) with hshort | hlong
  · -- pointers that are still too short
    have hskip : skip n t = trailingZeros n := Nat.min_eq_right hshort.le
    have hhops : hops n t = 2 * Nat.log 2 (n - t) + 1 - trailingZeros n := by
      rw [hops, if_neg (by omega), if_neg (by omega)]
    rcases hle.eq_or_lt with heq | hlt
    · rw [hhops, hops, if_pos heq.ge]
      omega
    · have hlog : Nat.log 2 (hop n t - t) ≤ Nat.log 2 (n - t) :=
        Nat.log_mono_right (Nat.sub_le_sub_right (Nat.sub_le _ _) t)
      have hzeros : trailingZeros n < trailingZeros (hop n t) := by
        rw [hop, hskip] at hlt ⊢
        exact trailingZeros_lt_sub (by omega)
      rw [hhops, hops, if_neg (by omega)]
      split_ifs <;> omega
  · -- pointers that are long enough
    have hskip : skip n t = Nat.log 2 (n - t) := Nat.min_eq_left hlong
    have hhops : hops n t = Nat.log 2 (n - t) + 1 := by
      rw [hops, if_neg (by omega), if_pos hlong]
    rcases hle.eq_or_lt with heq | hlt
    · rw [hhops, hops, if_pos heq.ge]
      omega
    · have hpow := Nat.lt_pow_succ_log_self one_lt_two (n - t)
      rw [hop, hskip] at hlt ⊢
      rw [pow_succ] at hpow
      have hlog : Nat.log 2 (n - 2 ^ Nat.log 2 (n - t) - t) < Nat.log 2 (n - t) :=
        Nat.log_lt_of_lt_pow (by omega) (by omega)
      have hzeros := le_trailingZeros_sub hlong (by omega)
      rw [hhops, hops, if_neg (by omega), if_pos (by omega)]
      omega

/-! ### Lists -/

/-- The blocks of the list have their pointers. -/
def Linked (points : β → ℕ → β → Prop) (chain : ℕ → β) (len : ℕ) : Prop :=
  ∀ n x, 0 < n → n < len → x ≤ trailingZeros n → points (chain n) x (chain (n - 2 ^ x))

/-- **Growing.**  Pointer `x + 1` of a new head is pointer `x` of the block that pointer `x`
leads to. -/
theorem Linked.next (h : Linked points chain n) (hn : 0 < n) (hx : x + 1 ≤ trailingZeros n) :
    points (chain (n - 2 ^ x)) x (chain (n - 2 ^ (x + 1))) := by
  have hpow : 2 ^ (x + 1) ≤ n :=
    (Nat.pow_le_pow_right two_pos hx).trans (two_pow_trailingZeros_le hn)
  have hpos := Nat.two_pow_pos x
  have hsub : n - 2 ^ x - 2 ^ x = n - 2 ^ (x + 1) := by
    rw [pow_succ]
    omega
  rw [pow_succ] at hpow
  rw [← hsub]
  exact h _ _ (by omega) (by omega) (le_trailingZeros_sub (by omega) (by omega))

end SkipList
