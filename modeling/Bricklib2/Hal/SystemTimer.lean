/-
Bricklib2/Hal/SystemTimer.lean

The millisecond clock (system_timer.c).  A model time is the true number of
milliseconds since the start; the code reads it modulo 2^32 and compares
differences, which is right as long as the true difference stays below 2^32.
-/
import Mathlib.Data.Nat.Basic
import Mathlib.Tactic.Linarith

namespace Bricklib2

/-- `system_timer_get_ms` at true time `now`. -/
def systemTimerGetMs (now : ℕ) : ℕ := now % 2 ^ 32

/-- `(uint32_t)(system_timer_get_ms() - start_measurement) >= time_to_be_elapsed` -/
def systemTimerIsTimeElapsedMs (now startMeasurement timeToBeElapsed : ℕ) : Bool :=
  decide (timeToBeElapsed ≤ (systemTimerGetMs now + 2 ^ 32 - startMeasurement % 2 ^ 32) % 2 ^ 32)

/-- The comparison is exact below the wrap-around. -/
theorem systemTimerIsTimeElapsedMs_iff {now start time : ℕ} (h : start ≤ now)
    (hlt : now - start < 2 ^ 32) :
    systemTimerIsTimeElapsedMs now (systemTimerGetMs start) time = true ↔ time ≤ now - start := by
  have hsub : (systemTimerGetMs now + 2 ^ 32 - systemTimerGetMs start % 2 ^ 32) % 2 ^ 32 =
      now - start := by
    unfold systemTimerGetMs
    omega
  rw [systemTimerIsTimeElapsedMs, hsub, decide_eq_true_iff]

end Bricklib2
