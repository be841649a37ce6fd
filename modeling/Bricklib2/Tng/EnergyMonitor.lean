/-
Bricklib2/Tng/EnergyMonitor.lean

The energy monitor of the TNG modules (tng_energy_monitor.c): the state machine that has
the registers of the PAC193X sent by DMA, and the arithmetic on them.

The accumulated power is divided by `524288*count`, a product in `uint32_t`, although the
counter has 24 bits: from 8192 samples on it wraps, and it is 0 for every multiple of 8192.
Without a sample it is 0 as well, and the buffer is cleared before each transfer.

Main result: `pac193x_exact_iff`, the power is right in exactly the runs in which every
update has between 1 and 8191 samples.
-/
import Bricklib2.Hal.SystemTimer
import Bricklib2.Library.Bytes
import Bricklib2.Library.CInt
import Bricklib2.Library.Machine
import Mathlib.Data.Nat.Bitwise
import Mathlib.Logic.Function.Basic

namespace Bricklib2

open Bytes CInt Machine

/-! ### Signed numbers of a few bits -/

/-- `INTN_TO_INT32` and `INTN_TO_INT64`, by the width of the word. -/
def intnToInt (w : ℕ) (value : BitVec w) (bits : ℕ) : ℤ :=
  if value &&& ((1 : BitVec w) <<< (bits - 1)) ≠ 0 then
    (value ||| ~~~(((1 : BitVec w) <<< bits) - 1)).toInt
  else
    value.toInt

/-- `INTN_TO_INT32` -/
def intnToInt32 : BitVec 32 → ℕ → ℤ := intnToInt 32

/-- `INTN_TO_INT64` -/
def intnToInt64 : BitVec 64 → ℕ → ℤ := intnToInt 64

/-- `ABS` on the integer promotions of a type. -/
def absInt (t : CInt) (a : ℤ) : ℤ := if a < 0 then t.promote.conv (-a) else a

section Intn

variable {w bits : ℕ} {value : BitVec w}

theorem toNat_one_shiftLeft (h : bits < w) : ((1 : BitVec w) <<< bits).toNat = 2 ^ bits := by
  have hlt : 2 ^ bits < 2 ^ w := Nat.pow_lt_pow_right (by omega) h
  have hone : (1 : BitVec w).toNat = 1 := by
    rw [BitVec.ofNat_eq_ofNat, BitVec.toNat_ofNat, Nat.mod_eq_of_lt (Nat.one_lt_two_pow (by omega))]
  rw [BitVec.toNat_shiftLeft, hone, Nat.one_shiftLeft, Nat.mod_eq_of_lt hlt]

/-- The test of the macro is the one on the sign bit. -/
theorem and_signBit_eq_zero_iff (hpos : 0 < bits) (h : bits < w) (hv : value.toNat < 2 ^ bits) :
    value &&& ((1 : BitVec w) <<< (bits - 1)) = 0 ↔ value.toNat < 2 ^ (bits - 1) := by
  have hpow : 2 ^ bits = 2 ^ (bits - 1) * 2 := by
    rw [← pow_succ, Nat.sub_add_cancel hpos]
  have htwo : 0 < 2 ^ (bits - 1) := Nat.two_pow_pos _
  have hdiv : value.toNat / 2 ^ (bits - 1) < 2 := Nat.div_lt_of_lt_mul (by omega)
  have hzero : (0 : BitVec w).toNat = 0 := BitVec.toNat_zero
  rw [← BitVec.toNat_inj, BitVec.toNat_and, toNat_one_shiftLeft (by omega), hzero, Nat.and_comm,
    Nat.two_pow_and, Nat.testBit_eq_decide_div_mod_eq, Nat.mod_eq_of_lt hdiv]
  rcases lt_or_ge value.toNat (2 ^ (bits - 1)) with hlt | hge
  · refine iff_of_true ?_ hlt
    rw [Nat.div_eq_of_lt hlt]
    rfl
  · have hle : 1 ≤ value.toNat / 2 ^ (bits - 1) := (Nat.le_div_iff_mul_le htwo).mpr (by omega)
    have hone : value.toNat / 2 ^ (bits - 1) = 1 := by omega
    refine iff_of_false ?_ (by omega)
    rw [hone]
    show ¬ 2 ^ (bits - 1) * 1 = 0
    omega

/-- What is put over the sign bit. -/
theorem toNat_or_upper (h : bits < w) (hv : value.toNat < 2 ^ bits) :
    (value ||| ~~~(((1 : BitVec w) <<< bits) - 1)).toNat = 2 ^ w - 2 ^ bits + value.toNat := by
  have hlt : 2 ^ bits < 2 ^ w := Nat.pow_lt_pow_right (by omega) h
  have hone : (1 : BitVec w).toNat = 1 := by
    rw [BitVec.ofNat_eq_ofNat, BitVec.toNat_ofNat, Nat.mod_eq_of_lt (Nat.one_lt_two_pow (by omega))]
  have hmask : (((1 : BitVec w) <<< bits) - 1).toNat = 2 ^ bits - 1 := by
    have hle : (1 : BitVec w).toNat ≤ ((1 : BitVec w) <<< bits).toNat := by
      rw [hone, toNat_one_shiftLeft h]
      exact Nat.one_le_two_pow
    rw [BitVec.toNat_sub_of_le hle, toNat_one_shiftLeft h, hone]
  have hupper : 2 ^ w - 1 - (2 ^ bits - 1) = (2 ^ (w - bits) - 1) <<< bits := by
    have hw : 2 ^ w = 2 ^ (w - bits) * 2 ^ bits := by
      rw [← pow_add, Nat.sub_add_cancel h.le]
    have hpos := Nat.two_pow_pos bits
    rw [Nat.shiftLeft_eq, Nat.sub_mul, one_mul, ← hw]
    omega
  rw [BitVec.toNat_or, BitVec.toNat_not, hmask, hupper, Nat.or_comm,
    ← Nat.shiftLeft_add_eq_or_of_lt hv, ← hupper]
  have hpos := Nat.two_pow_pos bits
  omega

/-- The macros extend the sign. -/
theorem intnToInt_eq (hpos : 0 < bits) (h : bits < w) (hv : value.toNat < 2 ^ bits) :
    intnToInt w value bits = Int.bmod value.toNat (2 ^ bits) := by
  have hhalf : 2 ^ bits = 2 ^ (bits - 1) * 2 := by
    rw [← pow_succ, Nat.sub_add_cancel hpos]
  have hlt : 2 ^ bits * 2 ≤ 2 ^ w := by
    rw [← pow_succ]
    exact Nat.pow_le_pow_right (by omega) h
  have hmod : (value.toNat : ℤ) % (2 ^ bits : ℕ) = value.toNat :=
    Int.emod_eq_of_lt (Int.natCast_nonneg _) (Int.ofNat_lt.mpr hv)
  unfold intnToInt
  rw [Int.bmod_def, hmod]
  split_ifs with hsign hbmod hbmod
  · rw [ne_eq, and_signBit_eq_zero_iff hpos h hv, not_lt] at hsign
    omega
  · rw [BitVec.toInt_eq_toNat_cond, toNat_or_upper h hv, if_neg (by omega)]
    omega
  · rw [not_not, and_signBit_eq_zero_iff hpos h hv] at hsign
    rw [BitVec.toInt_eq_toNat_cond, if_pos (by omega)]
  · rw [not_not, and_signBit_eq_zero_iff hpos h hv] at hsign
    omega

end Intn

/-! ### Registers -/

/-- `PAC193X_CHANNEL_NUM` -/
def pac193xChannelNum : ℕ := 3

/-- The bytes of the registers that are used, by channel and position. -/
structure PAC193XReadRegister where
  accCount : ℕ → UInt8
  vpowerAcc : ℕ → ℕ → UInt8
  vbusAvg : ℕ → ℕ → UInt8
  vsenseAvg : ℕ → ℕ → UInt8

/-- Registers that have not been read yet. -/
def PAC193XReadRegister.zero : PAC193XReadRegister where
  accCount _ := 0
  vpowerAcc _ _ := 0
  vbusAvg _ _ := 0
  vsenseAvg _ _ := 0

/-- `(x[0] << 8) | (x[1] << 0)` -/
def wordOf (x : ℕ → UInt8) : ℕ := ((x 0).toNat <<< 8) ||| ((x 1).toNat <<< 0)

/-- `count` -/
def PAC193XReadRegister.count (r : PAC193XReadRegister) : ℕ :=
  ((r.accCount 0).toNat <<< 16) ||| ((r.accCount 1).toNat <<< 8) ||| ((r.accCount 2).toNat <<< 0)

/-- The argument of `INTN_TO_INT64`. -/
def PAC193XReadRegister.acc (r : PAC193XReadRegister) (i : ℕ) : BitVec 64 :=
  let x := r.vpowerAcc i
  BitVec.ofNat 64 (((x 0).toNat <<< 40) ||| ((x 1).toNat <<< 32) ||| ((x 2).toNat <<< 24) |||
    ((x 3).toNat <<< 16) ||| ((x 4).toNat <<< 8) ||| ((x 5).toNat <<< 0))

/-! ### Values -/

/-- The values for the API, with the registers they come from. -/
structure TNGEnergyMonitor where
  readRegister : PAC193XReadRegister
  voltage : ℕ → ℤ
  current : ℕ → ℤ
  power : ℕ → ℤ
  energy : ℕ → ℤ

/-- The voltage of a channel in mV. -/
def PAC193XReadRegister.voltage (r : PAC193XReadRegister) (i : ℕ) : ℤ :=
  div uint32 int32 (mul uint32 int32 (wordOf (r.vbusAvg i)) 125) 256

/-- The current of a channel in mA, without its sign. -/
def PAC193XReadRegister.current (r : PAC193XReadRegister) (i : ℕ) : ℤ :=
  uint32.conv (absInt int32
    (div int32 int32
      (mul int32 int32 (intnToInt32 (BitVec.ofNat 32 (wordOf (r.vsenseAvg i))) 16) 625) 4096))

/-- `ABS(INTN_TO_INT64(...))*625` -/
def powerDividend (a : ℤ) : ℤ := mul int64 int32 (absInt int64 a) 625

/-- `524288*count` -/
def powerDivisor (count : ℕ) : ℤ := mul int32 uint32 524288 count

/-- The power; without a divisor there is none. -/
def PAC193XReadRegister.power (r : PAC193XReadRegister) (i : ℕ) : Option ℤ :=
  if powerDivisor r.count = 0 then none
  else some (uint32.conv (div int64 uint32 (powerDividend (intnToInt64 (r.acc i) 48))
    (powerDivisor r.count)))

/-- The loop of `pac193x_update_values` for one channel. -/
def TNGEnergyMonitor.updateChannel (m : TNGEnergyMonitor) (i : ℕ) : Option TNGEnergyMonitor :=
  (m.readRegister.power i).map fun power =>
    { m with
      voltage := Function.update m.voltage i (m.readRegister.voltage i)
      current := Function.update m.current i (m.readRegister.current i)
      power := Function.update m.power i power
      energy := Function.update m.energy i
        (add uint64 uint32 (m.energy i) (div uint32 int32 power 5)) }

/-- `pac193x_update_values`; `none` is a division by zero. -/
def pac193xUpdateValues (regs : PAC193XReadRegister) (m : TNGEnergyMonitor) :
    Option TNGEnergyMonitor :=
  (List.range pac193xChannelNum).foldlM TNGEnergyMonitor.updateChannel { m with readRegister := regs }

/-! ### State machine -/

/-- The states of `pac193x_tick`. -/
inductive PAC193XState
  | refresh
  | refreshWait
  | readTx
  | readTxWait
  | readRx
  | readRxWait
  | sleep
  deriving DecidableEq

/-- The energy monitor and the `static` variables of `pac193x_tick`. -/
structure Pac193x where
  monitor : TNGEnergyMonitor
  state : PAC193XState
  data : UInt8 × UInt8
  readRegTmp : PAC193XReadRegister
  waitStartTime : ℕ

/-- `tng_energy_monitor_init` and the start values of the `static` variables. -/
def tngEnergyMonitorInit : Pac193x where
  monitor := { readRegister := .zero, voltage _ := 0, current _ := 0, power _ := 0, energy _ := 0 }
  state := .refresh
  data := (0, 0)
  readRegTmp := .zero
  waitStartTime := 0

/-- A tick, with whether a DMA transfer that it starts is accepted and whether the I2C
peripheral is ready, or what the DMA leaves in the buffer. -/
inductive Pac193xEvent
  | tick (ok : Bool) (ready : Bool) (now : ℕ)
  | receive (registers : PAC193XReadRegister)

/-- `(wait_start_time == 0) || system_timer_is_time_elapsed_ms(wait_start_time, time)` -/
def Pac193x.waited (s : Pac193x) (now time : ℕ) : Bool :=
  s.waitStartTime == 0 || systemTimerIsTimeElapsedMs now s.waitStartTime time

/-- `pac193x_tick`; the enumeration has no value for its `default`. -/
def pac193xTick (ok ready : Bool) (now : ℕ) (s : Pac193x) : Option Pac193x :=
  match s.state with
  | .refresh =>
    -- PAC193X_REG_REFRESH
    some { s with data := (0x00, 0), state := if ok then .refreshWait else .refresh }
  | .refreshWait =>
    if ready then some { s with state := .readTx, waitStartTime := systemTimerGetMs now }
    else some s
  | .readTx =>
    if s.waited now 2 then
      -- PAC193X_REG_CTRL
      some { s with
        waitStartTime := 0, data := (0x01, s.data.2), state := if ok then .readTxWait else .readTx }
    else
      some s
  | .readTxWait => if ready then some { s with state := .readRx } else some s
  | .readRx => some { s with readRegTmp := .zero, state := if ok then .readRxWait else .readRx }
  | .readRxWait =>
    if ready then
      (pac193xUpdateValues s.readRegTmp s.monitor).map fun m =>
        { s with monitor := m, state := .sleep, waitStartTime := systemTimerGetMs now }
    else
      some s
  | .sleep =>
    if s.waited now 200 then some { s with waitStartTime := 0, state := .refresh } else some s

/-- The DMA writes while the code waits for it. -/
def pac193xStep (s : Pac193x) : Pac193xEvent → Option Pac193x
  | .tick ok ready now => pac193xTick ok ready now s
  | .receive registers =>
    if s.state = .readRxWait then some { s with readRegTmp := registers } else none

/-! ### What the registers stand for -/

variable {r regs : PAC193XReadRegister} {m m' : TNGEnergyMonitor} {i n : ℕ}

/-- The bytes of the accumulator, the highest first. -/
def PAC193XReadRegister.accBytes (r : PAC193XReadRegister) (i : ℕ) : List UInt8 :=
  [r.vpowerAcc i 0, r.vpowerAcc i 1, r.vpowerAcc i 2, r.vpowerAcc i 3, r.vpowerAcc i 4,
    r.vpowerAcc i 5]

/-- The signed 48-bit accumulator. -/
def PAC193XReadRegister.acc48 (r : PAC193XReadRegister) (i : ℕ) : ℤ :=
  Int.bmod (bigEndian (r.accBytes i)) (2 ^ 48)

/-- The 24-bit sample counter. -/
def PAC193XReadRegister.count24 (r : PAC193XReadRegister) : ℕ :=
  bigEndian [r.accCount 0, r.accCount 1, r.accCount 2]

/-- The power in the accumulator. -/
def PAC193XReadRegister.exactPower (r : PAC193XReadRegister) (i : ℕ) : ℤ :=
  |r.acc48 i| * 625 / (524288 * r.count24)

theorem bigEndian_singleton (b : UInt8) : b.toNat = bigEndian [b] := by
  show b.toNat = 0 * 256 + b.toNat
  omega

theorem count_eq : r.count = r.count24 := by
  unfold PAC193XReadRegister.count PAC193XReadRegister.count24
  rw [bigEndian_singleton (r.accCount 0), bigEndian_or_shiftLeft _ _ 8, bigEndian_or_shiftLeft _ _ 0,
    Nat.shiftLeft_zero]
  rfl

theorem bigEndian_accBytes_lt : bigEndian (r.accBytes i) < 2 ^ 48 := by
  have hlt := bigEndian_lt (r.accBytes i)
  calc bigEndian (r.accBytes i) < 256 ^ 6 := hlt
    _ = 2 ^ 48 := by norm_num

theorem toNat_acc : (r.acc i).toNat = bigEndian (r.accBytes i) := by
  have hlt : bigEndian (r.accBytes i) < 2 ^ 64 :=
    bigEndian_accBytes_lt.trans (Nat.pow_lt_pow_right (by omega) (by omega))
  unfold PAC193XReadRegister.acc
  dsimp only
  rw [bigEndian_singleton (r.vpowerAcc i 0), bigEndian_or_shiftLeft _ _ 32,
    bigEndian_or_shiftLeft _ _ 24, bigEndian_or_shiftLeft _ _ 16, bigEndian_or_shiftLeft _ _ 8,
    bigEndian_or_shiftLeft _ _ 0, Nat.shiftLeft_zero, BitVec.toNat_ofNat]
  exact Nat.mod_eq_of_lt hlt

theorem intnToInt64_acc : intnToInt64 (r.acc i) 48 = r.acc48 i := by
  have hlt : (r.acc i).toNat < 2 ^ 48 := toNat_acc.trans_lt bigEndian_accBytes_lt
  rw [intnToInt64, intnToInt_eq (by omega) (by omega) hlt, toNat_acc]
  rfl

theorem abs_acc48_le : |r.acc48 i| ≤ 2 ^ 47 := by
  have hle := Int.le_bmod (x := (bigEndian (r.accBytes i) : ℤ)) (m := 2 ^ 48) (by norm_num)
  have hlt := Int.bmod_lt (x := (bigEndian (r.accBytes i) : ℤ)) (m := 2 ^ 48) (by norm_num)
  rw [abs_le]
  unfold PAC193XReadRegister.acc48
  norm_num at hle hlt ⊢
  omega

/-! ### The products -/

theorem inRange_int64_iff {x : ℤ} : int64.InRange x ↔ -2 ^ 63 ≤ x ∧ x < 2 ^ 63 := by
  have hmin : int64.min = -2 ^ 63 := rfl
  have hmax : int64.max = 2 ^ 63 - 1 := by decide
  rw [InRange, hmin, hmax]
  omega

theorem inRange_uint32_iff {x : ℤ} : uint32.InRange x ↔ 0 ≤ x ∧ x < 2 ^ 32 := by
  have hmin : uint32.min = 0 := rfl
  have hmax : uint32.max = 2 ^ 32 - 1 := by decide
  rw [InRange, hmin, hmax]
  omega

theorem absInt_acc48 : absInt int64 (r.acc48 i) = |r.acc48 i| := by
  have hle := abs_acc48_le (r := r) (i := i)
  unfold absInt
  split_ifs with hneg
  · rw [abs_of_neg hneg] at hle ⊢
    exact conv_of_inRange (inRange_int64_iff.mpr (by omega))
  · rw [abs_of_nonneg (not_lt.mp hneg)]

/-- The dividend never overflows. -/
theorem powerDividend_acc48 : powerDividend (r.acc48 i) = |r.acc48 i| * 625 := by
  have hle := abs_acc48_le (r := r) (i := i)
  have hnonneg := abs_nonneg (r.acc48 i)
  rw [powerDividend, absInt_acc48]
  apply (mul_eq_iff _ _).mpr
  · exact inRange_int64_iff.mpr (by omega)
  · exact inRange_int64_iff.mpr (by omega)
  · exact inRange_int64_iff.mpr (by omega)

theorem conv_uint32 (x : ℤ) : uint32.conv x = x % 2 ^ 32 := by
  have hmin : uint32.min = 0 := rfl
  have hwidth : uint32.width = 32 := rfl
  rw [conv, hmin, hwidth]
  omega

/-- The divisor is a product modulo 2^32. -/
theorem powerDivisor_eq (count : ℕ) : powerDivisor count = (524288 * (count : ℤ)) % 2 ^ 32 := by
  have hcommon : int32.common uint32 = uint32 := rfl
  rw [powerDivisor, mul, hcommon, conv_uint32, conv_uint32, conv_uint32, ← Int.mul_emod]

theorem powerDivisor_eq_zero_iff (count : ℕ) : powerDivisor count = 0 ↔ count % 8192 = 0 := by
  rw [powerDivisor_eq]
  omega

/-- The divisor does not overflow. -/
theorem powerDivisor_exact_iff (count : ℕ) :
    powerDivisor count = 524288 * count ↔ count < 8192 := by
  rw [powerDivisor_eq]
  omega

theorem power_eq (hpos : 0 < r.count24) (hlt : r.count24 < 8192) :
    r.power i = some (uint32.conv (r.exactPower i)) := by
  have hle := abs_acc48_le (r := r) (i := i)
  have hnonneg := abs_nonneg (r.acc48 i)
  have hdivisor := (powerDivisor_exact_iff r.count24).mpr hlt
  have hcommon : int64.common uint32 = int64 := rfl
  have hdiv : div int64 uint32 (|r.acc48 i| * 625) (524288 * r.count24) = r.exactPower i := by
    rw [div_eq _ _ (by omega), Int.tdiv_eq_ediv_of_nonneg (by omega)]
    · rfl
    · exact inRange_int64_iff.mpr (by omega)
    · exact inRange_int64_iff.mpr (by omega)
  unfold PAC193XReadRegister.power
  rw [count_eq, intnToInt64_acc, powerDividend_acc48, hdivisor, if_neg (by omega), hdiv]

/-! ### An update -/

theorem updateChannel_of_power {power : ℤ} (h : m.readRegister.power i = some power) :
    ∃ m', m.updateChannel i = some m' ∧ m'.readRegister = m.readRegister ∧
      m'.power = Function.update m.power i power := by
  rw [TNGEnergyMonitor.updateChannel, h]
  exact ⟨_, rfl, rfl, rfl⟩

/-- The channels are updated one after the other, all from the same registers. -/
theorem updateChannels_of_power {power : ℕ → ℤ}
    (hpower : ∀ i < n, m.readRegister.power i = some (power i)) :
    ∃ m', (List.range n).foldlM TNGEnergyMonitor.updateChannel m = some m' ∧
      m'.readRegister = m.readRegister ∧ ∀ i < n, m'.power i = power i := by
  induction n with
  | zero => exact ⟨m, rfl, rfl, fun i hi => absurd hi (Nat.not_lt_zero i)⟩
  | succ n ih =>
    obtain ⟨u, hu, hregs, hvalues⟩ := ih fun i hi => hpower i (Nat.lt_succ_of_lt hi)
    have hn : u.readRegister.power n = some (power n) := by
      rw [hregs]
      exact hpower n (Nat.lt_succ_self n)
    obtain ⟨m', hm', hregs', hpower'⟩ := updateChannel_of_power hn
    refine ⟨m', ?_, hregs'.trans hregs, fun i hi => ?_⟩
    · rw [List.range_succ, List.foldlM_append, hu, Option.bind_eq_bind, Option.bind_some,
        List.foldlM_cons, hm']
      rfl
    · rw [hpower']
      rcases Nat.lt_succ_iff_lt_or_eq.mp hi with hlt | rfl
      · exact (Function.update_of_ne hlt.ne _ _).trans (hvalues i hlt)
      · exact Function.update_self ..

/-- Without a divisor the first channel does not come to an end. -/
theorem updateValues_eq_none (h : powerDivisor regs.count = 0) :
    pac193xUpdateValues regs m = none := by
  have hnone : ({ m with readRegister := regs } : TNGEnergyMonitor).updateChannel 0 = none := by
    rw [TNGEnergyMonitor.updateChannel, PAC193XReadRegister.power, if_pos h, Option.map_none]
  unfold pac193xUpdateValues
  rw [pac193xChannelNum, List.range_succ_eq_map, List.foldlM_cons, hnone]
  rfl

/-- What an update has to do: no division by zero, and the exact power of each channel where
it fits, with products that do not overflow. -/
def UpdatesExactly (regs : PAC193XReadRegister) (m : TNGEnergyMonitor) : Prop :=
  ∃ m', pac193xUpdateValues regs m = some m' ∧
    ∀ i < pac193xChannelNum, regs.count24 ≠ 0 → uint32.InRange (regs.exactPower i) →
      m'.power i = regs.exactPower i ∧
      powerDividend (intnToInt64 (regs.acc i) 48) = |regs.acc48 i| * 625 ∧
      powerDivisor regs.count = 524288 * regs.count24

theorem exactPower_inRange (h : 8192 ≤ r.count24) : uint32.InRange (r.exactPower i) := by
  have hle := abs_acc48_le (r := r) (i := i)
  have hnonneg := abs_nonneg (r.acc48 i)
  refine inRange_uint32_iff.mpr ⟨Int.ediv_nonneg (by omega) (by omega), ?_⟩
  apply Int.ediv_lt_of_lt_mul (by omega)
  omega

theorem updatesExactly_iff :
    UpdatesExactly regs m ↔ 0 < regs.count24 ∧ regs.count24 < 8192 := by
  constructor
  · rintro ⟨m', hm', hexact⟩
    have hpos : 0 < regs.count24 := by
      by_contra hzero
      have hdivisor : powerDivisor regs.count = 0 := by
        rw [count_eq, powerDivisor_eq_zero_iff]
        omega
      rw [updateValues_eq_none hdivisor] at hm'
      cases hm'
    refine ⟨hpos, ?_⟩
    by_contra hge
    obtain ⟨-, -, hdivisor⟩ := hexact 0 (by decide) hpos.ne' (exactPower_inRange (not_lt.mp hge))
    rw [count_eq, powerDivisor_exact_iff] at hdivisor
    exact hge hdivisor
  · rintro ⟨hpos, hlt⟩
    obtain ⟨m', hm', -, hvalues⟩ := updateChannels_of_power (n := pac193xChannelNum)
      (m := { m with readRegister := regs }) fun i _ => power_eq (r := regs) (i := i) hpos hlt
    refine ⟨m', hm', fun i hi _ hfits => ⟨?_, ?_, ?_⟩⟩
    · rw [hvalues i hi]
      exact conv_of_inRange hfits
    · rw [intnToInt64_acc]
      exact powerDividend_acc48
    · rw [count_eq]
      exact (powerDivisor_exact_iff _).mpr hlt

/-! ### Runs -/

/-- The registers that an event makes the code evaluate. -/
def Pac193x.updates (s : Pac193x) : Pac193xEvent → Option PAC193XReadRegister
  | .tick _ ready _ => if s.state = .readRxWait ∧ ready then some s.readRegTmp else none
  | .receive _ => none

/-- **Energy monitor**: the updates of a run are right exactly if none of them has no sample,
or so many that the divisor overflows. -/
theorem pac193x_exact_iff (es : List Pac193xEvent) :
    (∀ pre e post u regs, es = pre ++ e :: post → run pac193xStep tngEnergyMonitorInit pre = some u →
      u.updates e = some regs → UpdatesExactly regs u.monitor) ↔
    Meets pac193xStep (fun u e => ∀ regs, u.updates e = some regs →
      0 < regs.count24 ∧ regs.count24 < 8192) tngEnergyMonitorInit es := by
  rw [meets_iff_next]
  constructor
  · intro h pre e post u hsplit hu regs hregs
    exact updatesExactly_iff.mp (h pre e post u regs hsplit hu hregs)
  · intro h pre e post u regs hsplit hu hregs
    exact updatesExactly_iff.mpr (h pre e post u hsplit hu regs hregs)

/-- A transfer that fails leaves the buffer empty, and the update divides by zero. -/
theorem pac193x_emptyBuffer :
    ∃ u, run pac193xStep tngEnergyMonitorInit [.tick true true 1, .tick true true 1,
        .tick true true 3, .tick true true 3, .tick true true 3] = some u ∧
      u.updates (.tick true true 3) = some .zero ∧ ¬ UpdatesExactly .zero u.monitor := by
  refine ⟨_, rfl, rfl, fun h => ?_⟩
  have hpos := (updatesExactly_iff.mp h).1
  exact absurd hpos (by decide)

end Bricklib2
