/-
Bricklib2/Library/Radix.lean

Numbers written with the symbols of an alphabet, lowest digit first, as a loop of
divisions writes them.  The loop gets a bound on its rounds; a number below
`base ^ rounds` is written in full (`written_eq`), and reading the symbols back
gives the number (`read_written`).  Zero is one digit, unlike in `Nat.digits`.
-/
import Mathlib.Data.Nat.Digits.Lemmas

namespace Radix

variable {α : Type*} {base rounds v : ℕ} {symbol : ℕ → α} {index : α → ℕ}

/-- The symbols in the order in which divisions by the base give them. -/
def written (base : ℕ) (symbol : ℕ → α) : (rounds : ℕ) → ℕ → List α
  | 0, _ => []
  | rounds + 1, v =>
    if base ≤ v then symbol (v % base) :: written base symbol rounds (v / base) else [symbol v]

/-- The number that symbols stand for. -/
def read (base : ℕ) (index : α → ℕ) (cs : List α) : ℕ := Nat.ofDigits base (cs.map index)

theorem written_of_lt (h : v < base) : written base symbol (rounds + 1) v = [symbol v] := by
  rw [written, if_neg (by omega)]

theorem written_zero (hbase : 0 < base) (hrounds : 0 < rounds) :
    written base symbol rounds 0 = [symbol 0] := by
  obtain ⟨rounds, rfl⟩ := Nat.exists_eq_succ_of_ne_zero hrounds.ne'
  exact written_of_lt hbase

/-- The digits of a number that is not zero. -/
theorem written_eq (hbase : 1 < base) (hv : 0 < v) (hlt : v < base ^ rounds) :
    written base symbol rounds v = (base.digits v).map symbol := by
  induction rounds generalizing v with
  | zero =>
    rw [pow_zero] at hlt
    omega
  | succ rounds ih =>
    rw [written, Nat.digits_def' hbase hv, List.map_cons]
    split_ifs with h
    · rw [ih (Nat.div_pos h (by omega)) (Nat.div_lt_of_lt_mul (by rwa [← pow_succ']))]
    · have hmod : v % base = v := Nat.mod_eq_of_lt (by omega)
      have hdiv : v / base = 0 := Nat.div_eq_of_lt (by omega)
      rw [hmod, hdiv, Nat.digits_zero, List.map_nil]

theorem length_written_pos (hrounds : 0 < rounds) : 0 < (written base symbol rounds v).length := by
  obtain ⟨rounds, rfl⟩ := Nat.exists_eq_succ_of_ne_zero hrounds.ne'
  rw [written]
  split_ifs <;> exact Nat.succ_pos _

/-- As many symbols as the size of the number needs. -/
theorem length_written_le {k : ℕ} (hbase : 1 < base) (hk : 0 < k) (hlt : v < base ^ k)
    (hrounds : v < base ^ rounds) : (written base symbol rounds v).length ≤ k := by
  rcases Nat.eq_zero_or_pos v with rfl | hv
  · rcases Nat.eq_zero_or_pos rounds with rfl | hpos
    · exact Nat.zero_le _
    · rw [written_zero (by omega) hpos]
      exact hk
  · rw [written_eq hbase hv hrounds, List.length_map]
    exact (Nat.digits_length_le_iff hbase v).mpr hlt

/-- Only symbols of digits are written. -/
theorem mem_written {c : α} (hbase : 0 < base) (h : c ∈ written base symbol rounds v) :
    ∃ d < base, c = symbol d := by
  induction rounds generalizing v with
  | zero => exact absurd h List.not_mem_nil
  | succ rounds ih =>
    rw [written] at h
    split_ifs at h with hv
    · rcases List.mem_cons.mp h with rfl | hc
      · exact ⟨_, Nat.mod_lt v hbase, rfl⟩
      · exact ih hc
    · exact ⟨v, by omega, List.mem_singleton.mp h⟩

/-- **Reading what was written** gives the number back. -/
theorem read_written (hbase : 1 < base) (hindex : ∀ d < base, index (symbol d) = d)
    (hlt : v < base ^ rounds) : read base index (written base symbol rounds v) = v := by
  induction rounds generalizing v with
  | zero =>
    rw [pow_zero] at hlt
    obtain rfl : v = 0 := by omega
    rfl
  | succ rounds ih =>
    rw [written]
    split_ifs with h
    · have hdiv := ih (Nat.div_lt_of_lt_mul (by rwa [← pow_succ']))
      rw [read] at hdiv
      rw [read, List.map_cons, Nat.ofDigits_cons, hindex _ (Nat.mod_lt v (by omega)), hdiv]
      exact Nat.mod_add_div v base
    · rw [read, List.map_singleton, Nat.ofDigits_singleton, hindex v (by omega)]

/-- The highest digit is zero only for the number zero. -/
theorem eq_zero_of_getLast (hbase : 1 < base) (hindex : ∀ d < base, index (symbol d) = d)
    (hlt : v < base ^ rounds) (h : (written base symbol rounds v).getLast? = some (symbol 0)) :
    v = 0 := by
  by_contra hne
  have hdigits : base.digits v ≠ [] := Nat.digits_ne_nil_iff_ne_zero.mpr hne
  rw [written_eq hbase (Nat.pos_of_ne_zero hne) hlt, List.getLast?_map,
    List.getLast?_eq_getLast_of_ne_nil hdigits, Option.map_some] at h
  have hlast := hindex _ (Nat.digits_lt_base hbase (List.getLast_mem hdigits))
  rw [Option.some.inj h, hindex 0 (by omega)] at hlast
  exact Nat.getLast_digit_ne_zero base hne hlast.symm

/-- Rounds that are not needed change nothing. -/
theorem written_rounds {rounds' : ℕ} (hbase : 1 < base) (hpos : 0 < rounds) (hpos' : 0 < rounds')
    (h : v < base ^ rounds) (h' : v < base ^ rounds') :
    written base symbol rounds v = written base symbol rounds' v := by
  rcases Nat.eq_zero_or_pos v with rfl | hv
  · rw [written_zero (by omega) hpos, written_zero (by omega) hpos']
  · rw [written_eq hbase hv h, written_eq hbase hv h']

/-- The same digits in another alphabet. -/
theorem map_written {β : Type*} {f : α → β} {symbol' : ℕ → β} (hbase : 0 < base)
    (hf : ∀ d < base, f (symbol d) = symbol' d) :
    (written base symbol rounds v).map f = written base symbol' rounds v := by
  induction rounds generalizing v with
  | zero => rfl
  | succ rounds ih =>
    rw [written, written]
    split_ifs with h
    · rw [List.map_cons, hf _ (Nat.mod_lt v hbase), ih]
    · rw [List.map_singleton, hf v (by omega)]

/-- The symbols determine the number. -/
theorem written_injective {w : ℕ} (hbase : 1 < base) (hindex : ∀ d < base, index (symbol d) = d)
    (hv : v < base ^ rounds) (hw : w < base ^ rounds)
    (h : written base symbol rounds v = written base symbol rounds w) : v = w := by
  rw [← read_written hbase hindex hv, h, read_written hbase hindex hw]

end Radix
