/-
Bricklib2/Protocols/Base58.lean

The two functions that write a number in base 58: `tfp_uid_uint32_to_base58` of
the protocol (tfp.c) and `base58_encode` of the SD module (sd.c).  Both collect the
digits in a buffer, lowest first, and copy them to the string in reverse; they
differ in the sizes of the buffers and in what follows the last digit.

Main result: `base58_strings`, both write the same string, which is the number in
base 58.
-/
import Bricklib2.Library.CString
import Bricklib2.Protocols.Tfp
import Bricklib2.Warp.Wem.Path

namespace Bricklib2

open CString

/-! ### The code -/

section Loop

variable {α : Type*}

/-- The division loop of both functions, with `reverse_str` and `i`. -/
def base58Loop (symbol : ℕ → α) (value i : ℕ) (reverseStr : List α) : Option (List α × ℕ) :=
  if _h : 58 ≤ value then
    (store reverseStr i (symbol (value % 58))).bind fun reverseStr =>
      base58Loop symbol (value / 58) (i + 1) reverseStr
  else
    (store reverseStr i (symbol value)).map fun reverseStr => (reverseStr, i)
termination_by value

/-- `reverse_str[i - k]` for `k` from 0 to `i`. -/
def reversed (nul : α) (reverseStr : List α) (i : ℕ) : List α :=
  (List.range (i + 1)).map fun k => reverseStr.getD (i - k) nul

end Loop

/-- The end of a string. -/
def charNul : Char := Char.ofNat 0

/-- `base58_encode` writes at `str` and returns the place behind the last character. -/
def base58EncodeAt (value : UInt32) (array : List Char) (str : ℕ) : Option (List Char × ℕ) := do
  let (reverseStr, i) ←
    base58Loop base58Symbol value.toNat 0 (List.replicate base58MaxStrSize charNul)
  let array ← storeAll array str (reversed charNul reverseStr i)
  return (array, str + i + 1)

/-- `tfp_uid_uint32_to_base58` fills up its string with terminators. -/
def tfpUidUint32ToBase58At (value : UInt32) (str : List UInt8) : Option (List UInt8) := do
  let (reverseStr, i) ←
    base58Loop (byteAt tfpBase58Str) value.toNat 0 (List.replicate tfpBase58StrSize 0)
  let str ← storeAll str 0 (reversed 0 reverseStr i)
  storeAll str (i + 1) (List.replicate (tfpBase58StrSize - (i + 1)) 0)

/-! ### The loop -/

section Loop

variable {α : Type*} {nul : α} {n rounds value : ℕ} {symbol : ℕ → α} {ds : List α}

/-- Behind the digits `ds` the loop stores the remaining ones. -/
theorem base58Loop_padded (hlt : value < 58 ^ rounds)
    (hfit : ds.length + (Radix.written 58 symbol rounds value).length ≤ n) (hrounds : 0 < rounds) :
    base58Loop symbol value ds.length (padded nul n ds) =
      some (padded nul n (ds ++ Radix.written 58 symbol rounds value),
        ds.length + (Radix.written 58 symbol rounds value).length - 1) := by
  induction rounds generalizing value ds with
  | zero => exact absurd hrounds (lt_irrefl 0)
  | succ rounds ih =>
    rw [Radix.written] at hfit ⊢
    rw [base58Loop]
    split_ifs at hfit ⊢ with h
    · rw [List.length_cons] at hfit
      have hpos : 0 < rounds := by
        rcases Nat.eq_zero_or_pos rounds with rfl | hpos
        · rw [zero_add, pow_one] at hlt
          omega
        · exact hpos
      have hrest := @ih (value / 58) (ds ++ [symbol (value % 58)])
        (Nat.div_lt_of_lt_mul (by rwa [← pow_succ']))
        (by rw [List.length_append, List.length_singleton]; omega) hpos
      rw [List.length_append, List.length_singleton, List.append_assoc] at hrest
      rw [store_padded (by omega), Option.bind_some, hrest, List.length_cons]
      congr 2
      omega
    · rw [List.length_singleton] at hfit
      rw [store_padded (by omega)]
      rfl

theorem reversed_padded {i : ℕ} (hi : i + 1 = ds.length) :
    reversed nul (padded nul n ds) i = ds.reverse := by
  rw [reversed, hi]
  apply List.ext_getElem
  · simp
  · intro k hk hk'
    have hlt : k < ds.length := by simpa using hk
    rw [List.getElem_map, List.getElem_range, List.getElem_reverse, List.getD_eq_getElem?_getD,
      padded, List.getElem?_append_left (by omega), List.getElem?_eq_getElem (by omega),
      Option.getD_some]
    congr 1
    omega

/-- Both functions go on with the digits in their order. -/
theorem base58Loop_reversed (hlt : value < 58 ^ rounds) (hrounds : 0 < rounds)
    (hfit : (Radix.written 58 symbol rounds value).length ≤ n) :
    ∃ reverseStr i, base58Loop symbol value 0 (List.replicate n nul) = some (reverseStr, i) ∧
      i + 1 = (Radix.written 58 symbol rounds value).length ∧
      reversed nul reverseStr i = (Radix.written 58 symbol rounds value).reverse := by
  have hpos : 0 < (Radix.written 58 symbol rounds value).length :=
    Radix.length_written_pos hrounds
  have hloop := @base58Loop_padded _ nul n _ _ symbol [] hlt (by simpa using hfit) hrounds
  rw [padded_nil, List.nil_append, List.length_nil, Nat.zero_add] at hloop
  exact ⟨_, _, hloop, by omega, reversed_padded (by omega)⟩

end Loop

/-! ### The strings -/

section Strings

variable {value : UInt32}

theorem length_base58Encode_le (value : UInt32) : (base58Encode value).length ≤ 6 := by
  rw [base58Encode_eq, List.length_reverse]
  exact Radix.length_written_le (by decide) (by decide)
    (lt_of_lt_of_le value.toNat_lt (by decide)) (lt_base58MaxStrSize value)

theorem length_base58Encode_pos (value : UInt32) : 0 < (base58Encode value).length := by
  rw [base58Encode_eq, List.length_reverse]
  exact Radix.length_written_pos (by decide)

/-- `base58_encode` writes its digits, and nothing behind them. -/
theorem base58EncodeAt_eq {array : List Char} {str : ℕ}
    (h : str + (base58Encode value).length ≤ array.length) :
    base58EncodeAt value array str =
      some (Bytes.overwrite array str (base58Encode value), str + (base58Encode value).length) := by
  have hlength := length_base58Encode_le value
  rw [base58Encode_eq] at h hlength ⊢
  rw [List.length_reverse] at hlength
  obtain ⟨reverseStr, i, hloop, hi, hreversed⟩ := @base58Loop_reversed _ charNul base58MaxStrSize
    base58MaxStrSize _ base58Symbol (lt_base58MaxStrSize value) (by decide)
    (hlength.trans (by decide))
  have hstore := storeAll_eq h
  rw [base58EncodeAt, hloop]
  show (storeAll array str (reversed charNul reverseStr i)).bind _ = _
  rw [hreversed, hstore, List.length_reverse, ← hi]
  rfl

/-- The code of a character. -/
def charCode (c : Char) : UInt8 := UInt8.ofNat c.toNat

theorem charCode_base58Symbol : ∀ d < 58, charCode (base58Symbol d) = byteAt tfpBase58Str d := by
  decide +kernel

/-- The digits of the protocol are those of the SD module. -/
theorem map_base58Encode (value : UInt32) :
    (base58Encode value).map charCode =
      (Radix.written 58 (byteAt tfpBase58Str) tfpBase58StrSize value.toNat).reverse := by
  rw [base58Encode_eq, List.map_reverse, Radix.map_written (by decide) charCode_base58Symbol]
  congr 1
  exact Radix.written_rounds (by decide) (by decide) (by decide) (lt_base58MaxStrSize value)
    (lt_of_lt_of_le value.toNat_lt (by decide))

/-- `tfp_uid_uint32_to_base58` writes its eight bytes, whatever was there. -/
theorem tfpUidUint32ToBase58At_eq {str : List UInt8} (h : tfpBase58StrSize ≤ str.length) :
    tfpUidUint32ToBase58At value str =
      some (Bytes.overwrite str 0
        (padded 0 tfpBase58StrSize ((base58Encode value).map charCode))) := by
  have hlength := length_base58Encode_le value
  rw [← List.length_map (f := charCode)] at hlength
  rw [map_base58Encode] at hlength ⊢
  rw [List.length_reverse] at hlength
  obtain ⟨reverseStr, i, hloop, hi, hreversed⟩ := @base58Loop_reversed _ (0 : UInt8)
    tfpBase58StrSize tfpBase58StrSize _ (byteAt tfpBase58Str)
    (lt_of_lt_of_le value.toNat_lt (by decide)) (by decide) (hlength.trans (by decide))
  generalize Radix.written 58 (byteAt tfpBase58Str) tfpBase58StrSize value.toNat = ds at *
  have hall : storeAll str 0 (padded 0 tfpBase58StrSize ds.reverse) = _ := storeAll_eq (by
    rw [length_padded (by rw [List.length_reverse]; exact hlength.trans (by decide))]
    omega)
  -- the terminators follow the digits
  rw [padded, storeAll_append, Nat.zero_add, List.length_reverse, ← hi] at hall
  rw [tfpUidUint32ToBase58At, hloop]
  show (storeAll str 0 (reversed 0 reverseStr i)).bind _ = _
  rw [hreversed, padded, List.length_reverse, ← hi]
  exact hall

/-! ### The number -/

/-- The value of a string as a number in base 58, the first digit being the highest. -/
def base58Value (s : List Char) : ℕ := s.foldl (fun value c => 58 * value + base58Index c) 0

theorem base58Value_eq (s : List Char) : base58Value s = Radix.read 58 base58Index s.reverse := by
  rw [Radix.read, Nat.ofDigits_eq_foldr, List.foldr_map, List.foldr_reverse, base58Value]
  congr 1
  funext value c
  exact Nat.add_comm _ _

theorem base58Value_base58Encode (value : UInt32) :
    base58Value (base58Encode value) = value.toNat := by
  rw [base58Value_eq, base58Encode_eq, List.reverse_reverse,
    Radix.read_written (by decide) base58Index_base58Symbol (lt_base58MaxStrSize value)]

/-- Only zero begins with the digit zero. -/
theorem eq_zero_of_head (h : (base58Encode value).head? = some (base58Symbol 0)) :
    value = 0 ∧ base58Encode value = [base58Symbol 0] := by
  rw [base58Encode_eq, List.head?_reverse] at h
  have hzero := Radix.eq_zero_of_getLast (by decide) base58Index_base58Symbol
    (lt_base58MaxStrSize value) h
  obtain rfl : value = 0 := UInt32.toNat.inj hzero
  exact ⟨rfl, by rw [base58Encode_eq, UInt32.toNat_zero,
    Radix.written_zero (by decide) (by decide), List.reverse_singleton]⟩

theorem mem_base58Alphabet {c : Char} (h : c ∈ base58Encode value) : c ∈ base58Alphabet := by
  rw [base58Encode_eq, List.mem_reverse] at h
  obtain ⟨d, hd, rfl⟩ := Radix.mem_written (by decide) h
  exact base58Symbol_mem d hd

end Strings

/-- **Base 58.**  Both functions write the same string and nothing else; it is the
number in base 58 without leading zeros, so different numbers have different strings. -/
theorem base58_strings :
    (∀ value : UInt32,
      (∀ (array : List Char) (str : ℕ), str + (base58Encode value).length ≤ array.length →
        base58EncodeAt value array str = some
          (Bytes.overwrite array str (base58Encode value),
            str + (base58Encode value).length)) ∧
      (∀ str : List UInt8, tfpBase58StrSize ≤ str.length →
        tfpUidUint32ToBase58At value str = some
          (Bytes.overwrite str 0
            (padded 0 tfpBase58StrSize ((base58Encode value).map charCode)))) ∧
      0 < (base58Encode value).length ∧ (base58Encode value).length ≤ 6 ∧
      (∀ c ∈ base58Encode value, c ∈ base58Alphabet) ∧
      ((base58Encode value).head? = some (base58Symbol 0) →
        value = 0 ∧ base58Encode value = [base58Symbol 0]) ∧
      base58Value (base58Encode value) = value.toNat) ∧
    Function.Injective base58Encode := by
  refine ⟨fun value => ⟨fun _ _ h => base58EncodeAt_eq h, fun _ h => tfpUidUint32ToBase58At_eq h,
    length_base58Encode_pos value, length_base58Encode_le value, fun _ h => mem_base58Alphabet h,
    eq_zero_of_head, base58Value_base58Encode value⟩, base58Encode_injective⟩

example : base58Encode 4294967295 = "7xwQ9g".toList := by decide +kernel

end Bricklib2
