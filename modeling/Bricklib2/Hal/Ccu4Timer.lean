/-
Bricklib2/Hal/Ccu4Timer.lean

The timer out of concatenated 16-bit slices (ccu4_timer.c).  A slice counts when the
one below it wraps, so together they are one counter, but the code can only read one
slice at a time and the counter goes on in between.  It reads the upper slices once
more and starts again when one of them has changed.

The counter is the true number of ticks, and `gap` says how many of them pass before
each read.

Main result: `ccu4TimerGetValue_linearizable`.  The value is the counter's at the read
of slice 0 in the last round.  Slice 1 may not make a full turn during the call, or it
is at its old value again in the second read (`ccu4TimerGetValue32bit_fullTurn`).
-/
import Bricklib2.Library.Bytes
import Bricklib2.Library.Program
import Mathlib.Algebra.Group.Nat.Defs

namespace Bricklib2

open Program Bytes

/-! ### Reading -/

/-- The ticks so far and the register reads so far. -/
structure Ccu4 where
  counter : ℕ
  reads : ℕ

/-- The next register read. -/
def Ccu4.wait (gap : ℕ → ℕ) (s : Ccu4) : Ccu4 where
  counter := s.counter + gap s.reads
  reads := s.reads + 1

/-- What is in the 16 bits of a slice. -/
def Ccu4.slice (s : Ccu4) (k : ℕ) : UInt16 := UInt16.ofNat (s.counter / 2 ^ (16 * k))

variable {gap : ℕ → ℕ} {k : ℕ} {s s' : Ccu4}

/-- `XMC_CCU4_SLICE_GetTimerValue` -/
def sliceGetTimerValue (gap : ℕ → ℕ) (k : ℕ) : Program Ccu4 UInt16 :=
  state fun s => ((s.wait gap).slice k, s.wait gap)

/-- The body of the loop of `ccu4_timer_get_value_32bit`, and the test after it. -/
def ccu4TimerRound32bit (gap : ℕ → ℕ) : Program Ccu4 (Option UInt32) := do
  let t1 ← sliceGetTimerValue gap 1
  let t0 ← sliceGetTimerValue gap 0
  let again1 ← sliceGetTimerValue gap 1
  if t1 ≠ again1 then
    pure none
  else
    pure (some ((t1.toUInt64 <<< 16) ||| (t0.toUInt64 <<< 0)).toUInt32)

/-- `ccu4_timer_get_value_32bit`; the reads in front of the loop are those of its body. -/
def ccu4TimerGetValue32bit (gap : ℕ → ℕ) : Program Ccu4 UInt32 :=
  loop (ccu4TimerRound32bit gap)

/-- The body of the loop of `ccu4_timer_get_value_64bit`, and the test after it; `||` reads
no further slice after one that has changed. -/
def ccu4TimerRound64bit (gap : ℕ → ℕ) : Program Ccu4 (Option UInt64) := do
  let t3 ← sliceGetTimerValue gap 3
  let t2 ← sliceGetTimerValue gap 2
  let t1 ← sliceGetTimerValue gap 1
  let t0 ← sliceGetTimerValue gap 0
  let again3 ← sliceGetTimerValue gap 3
  if t3 ≠ again3 then
    pure none
  else do
    let again2 ← sliceGetTimerValue gap 2
    if t2 ≠ again2 then
      pure none
    else do
      let again1 ← sliceGetTimerValue gap 1
      if t1 ≠ again1 then
        pure none
      else
        pure (some ((t3.toUInt64 <<< 48) ||| (t2.toUInt64 <<< 32) ||| (t1.toUInt64 <<< 16) |||
          (t0.toUInt64 <<< 0)))

/-- `ccu4_timer_get_value_64bit` -/
def ccu4TimerGetValue64bit (gap : ℕ → ℕ) : Program Ccu4 UInt64 :=
  loop (ccu4TimerRound64bit gap)

/-! ### One read -/

theorem le_wait : s.counter ≤ (s.wait gap).counter := Nat.le_add_right ..

/-- Time passes, then the register is read. -/
theorem returns_sliceGetTimerValue {t : UInt16}
    (h : (sliceGetTimerValue gap k).Returns s (t, s')) : t = s'.slice k ∧ s.counter ≤ s'.counter := by
  obtain ⟨rfl, rfl⟩ := Prod.mk.inj (returns_state.mp h)
  exact ⟨rfl, le_wait⟩

/-- The number that the slices from `k` on make up. -/
def Ccu4.above (s : Ccu4) (k : ℕ) : ℕ := s.counter / 2 ^ (16 * k)

theorem toNat_slice : (s.slice k).toNat = s.above k % 2 ^ 16 := UInt16.toNat_ofNat'

theorem above_mono (h : s.counter ≤ s'.counter) : s.above k ≤ s'.above k :=
  Nat.div_le_div_right h

theorem above_add {j : ℕ} : s.above (k + j) = s.above k / 2 ^ (16 * j) := by
  rw [Ccu4.above, Ccu4.above, Nat.div_div_eq_div_mul, ← pow_add, Nat.mul_add]

/-- A slice that is read twice with one value has not moved, unless it went round. -/
theorem above_eq_of_slice_eq (h : s.slice k = s'.slice k) (hle : s.above k ≤ s'.above k)
    (hlt : s'.above k - s.above k < 2 ^ 16) : s.above k = s'.above k := by
  have hmod := congrArg UInt16.toNat h
  rw [toNat_slice, toNat_slice] at hmod
  omega

/-- Slices over slice 1 only move with it. -/
theorem slice_eq_of_above_eq {j : ℕ} (h : s.above 1 = s'.above 1) :
    s.slice (1 + j) = s'.slice (1 + j) := by
  apply UInt16.toNat_inj.mp
  rw [toNat_slice, toNat_slice, above_add, above_add, h]

/-! ### The number out of the slices -/

theorem toNat_toUInt64_shiftLeft {t : UInt16} {k : UInt64} (hk : k.toNat ≤ 48) :
    (t.toUInt64 <<< k).toNat = t.toNat <<< k.toNat := by
  have ht := t.toNat_lt
  rw [UInt64.toNat_shiftLeft, UInt16.toNat_toUInt64, Nat.mod_eq_of_lt (b := 64) (by omega)]
  apply Nat.mod_eq_of_lt
  calc t.toNat <<< k.toNat = t.toNat * 2 ^ k.toNat := Nat.shiftLeft_eq ..
    _ < 2 ^ 16 * 2 ^ k.toNat := Nat.mul_lt_mul_of_pos_right ht (Nat.two_pow_pos _)
    _ ≤ 2 ^ 16 * 2 ^ 48 := Nat.mul_le_mul_left _ (Nat.pow_le_pow_right (by omega) hk)
    _ = 2 ^ 64 := by norm_num

theorem toNat_value64bit {t3 t2 t1 t0 : UInt16} :
    ((t3.toUInt64 <<< 48) ||| (t2.toUInt64 <<< 32) ||| (t1.toUInt64 <<< 16) |||
      (t0.toUInt64 <<< 0)).toNat =
      ((t3.toNat * 2 ^ 16 + t2.toNat) * 2 ^ 16 + t1.toNat) * 2 ^ 16 + t0.toNat := by
  rw [UInt64.toNat_or, UInt64.toNat_or, UInt64.toNat_or, toNat_toUInt64_shiftLeft (by decide),
    toNat_toUInt64_shiftLeft (by decide), toNat_toUInt64_shiftLeft (by decide),
    toNat_toUInt64_shiftLeft (by decide)]
  show (t3.toNat <<< (16 + 32)) ||| (t2.toNat <<< 32) ||| (t1.toNat <<< 16) |||
    (t0.toNat <<< 0) = _
  rw [shiftLeft_or_shiftLeft 32 t2.toNat_lt, shiftLeft_or_shiftLeft 16 t1.toNat_lt, shiftLeft_or_shiftLeft 0 t0.toNat_lt,
    Nat.shiftLeft_zero]

theorem toNat_value32bit {t1 t0 : UInt16} :
    ((t1.toUInt64 <<< 16) ||| (t0.toUInt64 <<< 0)).toUInt32.toNat =
      t1.toNat * 2 ^ 16 + t0.toNat := by
  have ht1 := t1.toNat_lt
  have ht0 := t0.toNat_lt
  rw [UInt64.toNat_toUInt32, UInt64.toNat_or, toNat_toUInt64_shiftLeft (by decide),
    toNat_toUInt64_shiftLeft (by decide)]
  show ((t1.toNat <<< (16 + 0)) ||| (t0.toNat <<< 0)) % 2 ^ 32 = _
  rw [shiftLeft_or_shiftLeft 0 ht0, Nat.shiftLeft_zero]
  exact Nat.mod_eq_of_lt (by omega)

/-- The slices at one instant are the counter at that instant. -/
theorem slices32bit : (s.slice 1).toNat * 2 ^ 16 + (s.slice 0).toNat = s.counter % 2 ^ 32 := by
  simp only [toNat_slice, Ccu4.above]
  omega

theorem slices64bit :
    (((s.slice 3).toNat * 2 ^ 16 + (s.slice 2).toNat) * 2 ^ 16 + (s.slice 1).toNat) * 2 ^ 16 +
      (s.slice 0).toNat = s.counter % 2 ^ 64 := by
  simp only [toNat_slice, Ccu4.above]
  omega

/-! ### The reads of a call -/

/-- `v` is the number that the counter has, cut to `bits` bits, at an instant between two
states. -/
def HadBetween (bits : ℕ) (s s' : Ccu4) (v : ℕ) : Prop :=
  ∃ c, s.counter ≤ c ∧ c ≤ s'.counter ∧ v = c % 2 ^ bits

/-- Slice 1 counts less than one turn between two states. -/
def LessThanATurn (s s' : Ccu4) : Prop := s'.above 1 - s.above 1 < 2 ^ 16

/-- Between two reads of slice 1 with one value, nothing over slice 0 moves. -/
theorem above_eq_between {s0 first x last : Ccu4} (hturn : LessThanATurn s0 last)
    (h0 : s0.counter ≤ first.counter) (hx : first.counter ≤ x.counter)
    (hlast : x.counter ≤ last.counter) (h : first.slice 1 = last.slice 1) :
    x.above 1 = first.above 1 := by
  unfold LessThanATurn at hturn
  have hle0 : s0.above 1 ≤ first.above 1 := above_mono h0
  have hlex : first.above 1 ≤ x.above 1 := above_mono hx
  have hlel : x.above 1 ≤ last.above 1 := above_mono hlast
  have heq := above_eq_of_slice_eq h (hlex.trans hlel) (by omega)
  omega

/-- What a round of either loop does: time passes, and a value that it returns is the
counter's after the read of slice 0. -/
def ReadsCounter {α : Type} (bits : ℕ) (toNat : α → ℕ) (round : Program Ccu4 (Option α)) : Prop :=
  ∀ s o s', round.Returns s (o, s') → s.counter ≤ s'.counter ∧
    ∀ v s0, o = some v → s0.counter ≤ s.counter → LessThanATurn s0 s' →
      HadBetween bits s0 s' (toNat v)

theorem readsCounter_round32bit :
    ReadsCounter 32 UInt32.toNat (ccu4TimerRound32bit gap) := by
  intro s o s' hround
  obtain ⟨t1, x1, h1, hround⟩ := returns_bind.mp hround
  obtain ⟨t0, x0, h0, hround⟩ := returns_bind.mp hround
  obtain ⟨again1, y1, hagain1, hround⟩ := returns_bind.mp hround
  obtain ⟨rfl, hle1⟩ := returns_sliceGetTimerValue h1
  obtain ⟨rfl, hle0⟩ := returns_sliceGetTimerValue h0
  obtain ⟨rfl, hleAgain⟩ := returns_sliceGetTimerValue hagain1
  split_ifs at hround with heq
  · obtain ⟨rfl, rfl⟩ := Prod.mk.inj (returns_pure.mp hround)
    exact ⟨by omega, fun v s0 hv => by cases hv⟩
  · obtain ⟨rfl, rfl⟩ := Prod.mk.inj (returns_pure.mp hround)
    refine ⟨by omega, fun v s0 hv hs0 hturn => ?_⟩
    obtain rfl := Option.some.inj hv
    have hsame := above_eq_between hturn (by omega) hle0 hleAgain (not_not.mp heq)
    have hslice1 : x1.slice 1 = x0.slice 1 := slice_eq_of_above_eq (j := 0) hsame.symm
    refine ⟨x0.counter, by omega, by omega, ?_⟩
    rw [toNat_value32bit, hslice1, slices32bit]

theorem readsCounter_round64bit :
    ReadsCounter 64 UInt64.toNat (ccu4TimerRound64bit gap) := by
  intro s o s' hround
  obtain ⟨t3, x3, h3, hround⟩ := returns_bind.mp hround
  obtain ⟨t2, x2, h2, hround⟩ := returns_bind.mp hround
  obtain ⟨t1, x1, h1, hround⟩ := returns_bind.mp hround
  obtain ⟨t0, x0, h0, hround⟩ := returns_bind.mp hround
  obtain ⟨again3, y3, hagain3, hround⟩ := returns_bind.mp hround
  obtain ⟨rfl, hle3⟩ := returns_sliceGetTimerValue h3
  obtain ⟨rfl, hle2⟩ := returns_sliceGetTimerValue h2
  obtain ⟨rfl, hle1⟩ := returns_sliceGetTimerValue h1
  obtain ⟨rfl, hle0⟩ := returns_sliceGetTimerValue h0
  obtain ⟨rfl, hleAgain3⟩ := returns_sliceGetTimerValue hagain3
  split_ifs at hround with heq3
  · obtain ⟨rfl, rfl⟩ := Prod.mk.inj (returns_pure.mp hround)
    exact ⟨by omega, fun v s0 hv => by cases hv⟩
  obtain ⟨again2, y2, hagain2, hround⟩ := returns_bind.mp hround
  obtain ⟨rfl, hleAgain2⟩ := returns_sliceGetTimerValue hagain2
  split_ifs at hround with heq2
  · obtain ⟨rfl, rfl⟩ := Prod.mk.inj (returns_pure.mp hround)
    exact ⟨by omega, fun v s0 hv => by cases hv⟩
  obtain ⟨again1, y1, hagain1, hround⟩ := returns_bind.mp hround
  obtain ⟨rfl, hleAgain1⟩ := returns_sliceGetTimerValue hagain1
  split_ifs at hround with heq1
  · obtain ⟨rfl, rfl⟩ := Prod.mk.inj (returns_pure.mp hround)
    exact ⟨by omega, fun v s0 hv => by cases hv⟩
  obtain ⟨rfl, rfl⟩ := Prod.mk.inj (returns_pure.mp hround)
  refine ⟨by omega, fun v s0 hv hs0 hturn => ?_⟩
  obtain rfl := Option.some.inj hv
  -- From the first read of slice 1 to the second nothing over slice 0 moves, and the upper
  -- slices are read again in between.
  have hsame {x : Ccu4} (hx : x1.counter ≤ x.counter) (hlast : x.counter ≤ y1.counter) :
      x.above 1 = x1.above 1 :=
    above_eq_between hturn (by omega) hx hlast (not_not.mp heq1)
  have hx0 := hsame hle0 (by omega)
  have hslice1 : x1.slice 1 = x0.slice 1 := slice_eq_of_above_eq (j := 0) hx0.symm
  have hslice2 : x2.slice 2 = x0.slice 2 := by
    rw [not_not.mp heq2]
    exact slice_eq_of_above_eq (j := 1) ((hsame (by omega) hleAgain1).trans hx0.symm)
  have hslice3 : x3.slice 3 = x0.slice 3 := by
    rw [not_not.mp heq3]
    exact slice_eq_of_above_eq (j := 2) ((hsame (by omega) (by omega)).trans hx0.symm)
  refine ⟨x0.counter, by omega, by omega, ?_⟩
  rw [toNat_value64bit, hslice1, hslice2, hslice3, slices64bit]

/-- Rounds follow each other until one of them returns. -/
theorem ReadsCounter.loop {α : Type} {bits : ℕ} {toNat : α → ℕ}
    {round : Program Ccu4 (Option α)} {v : α} (hround : ReadsCounter bits toNat round)
    (h : (loop round).Returns s (v, s')) (hturn : LessThanATurn s s') :
    HadBetween bits s s' (toNat v) := by
  refine loop_induct (I := fun x => s.counter ≤ x.counter)
    (Q := fun v x => LessThanATurn s x → HadBetween bits s x (toNat v)) ?_ ?_ le_rfl h hturn
  · exact fun x x' hx hnext => hx.trans (hround x _ x' hnext).1
  · exact fun x v x' hx hlast => (hround x _ x' hlast).2 v s rfl hx

/-- **One instant**: whatever passes between the register reads, a call that returns gives
the number that the concatenated counter has at an instant of the call. -/
theorem ccu4TimerGetValue_linearizable (gap : ℕ → ℕ) (s s' : Ccu4) (hturn : LessThanATurn s s') :
    (∀ v, (ccu4TimerGetValue32bit gap).Returns s (v, s') → HadBetween 32 s s' v.toNat) ∧
    (∀ v, (ccu4TimerGetValue64bit gap).Returns s (v, s') → HadBetween 64 s s' v.toNat) :=
  ⟨fun _ h => readsCounter_round32bit.loop h hturn,
    fun _ h => readsCounter_round64bit.loop h hturn⟩

/-- Slice 0 wraps between the first two reads of the first round: the second round is
the one that counts. -/
theorem ccu4TimerGetValue_carry :
    HadBetween 32 ⟨65535, 0⟩ ⟨65536, 6⟩ 65536 ∧ HadBetween 64 ⟨65535, 0⟩ ⟨65536, 14⟩ 65536 :=
  ⟨(ccu4TimerGetValue_linearizable (fun i => if i = 1 then 1 else 0) ⟨65535, 0⟩ ⟨65536, 6⟩
      (by unfold LessThanATurn; decide)).1 65536 ⟨2, rfl⟩,
    (ccu4TimerGetValue_linearizable (fun i => if i = 3 then 1 else 0) ⟨65535, 0⟩ ⟨65536, 14⟩
      (by unfold LessThanATurn; decide)).2 65536 ⟨2, rfl⟩⟩

/-- The bound is needed: when slice 1 gets from 0 to 0 again between its two reads, slice 0
may have any value in between. -/
theorem ccu4TimerGetValue32bit_fullTurn :
    ∃ gap s s', s'.above 1 - s.above 1 = 2 ^ 16 ∧
      (ccu4TimerGetValue32bit gap).Returns s (5, s') ∧ ¬ HadBetween 32 s s' 5 := by
  refine ⟨fun i => if i = 0 then 0 else if i = 1 then 6 else 2 ^ 32 - 65541, ⟨65535, 0⟩,
    ⟨2 ^ 32, 3⟩, by decide, ⟨1, rfl⟩, ?_⟩
  rintro ⟨c, hle, hge, h⟩
  change 65535 ≤ c at hle
  change c ≤ 2 ^ 32 at hge
  omega

end Bricklib2
