/-
# Timers and retry schedules

A timer that is set, expires and is read; and a list of delays that is worked
through one by one. Neither knows what it is used for.
-/

import Mathlib.Data.Int.Notation
import Mathlib.Data.List.Basic

namespace CecControl

/-- A one-shot timer: a `timerfd` is readable from its expiry until it is read
or set again. -/
inductive TimerSource
  | disarmed
  | armed (ms : ℕ)
  | expired
  deriving DecidableEq, Repr

namespace TimerSource

def disarm (_ : TimerSource) : TimerSource := .disarmed

/-- Set the timer; a failed `timerfd_settime` leaves it as it was. -/
def armOnce (timer : TimerSource) (ms : ℕ) (ok : Bool) : TimerSource :=
  if ok then .armed ms else timer

/-- Reading the expiration count; a timer that has not expired answers EAGAIN. -/
def consume : TimerSource → TimerSource
  | .expired => .disarmed
  | timer => timer

/-- The expirations that reading answers. -/
def expirations : TimerSource → ℕ
  | .expired => 1
  | _ => 0

/-- The time set has passed. -/
def expire : TimerSource → Option TimerSource
  | .armed _ => some .expired
  | _ => none

@[simp]
theorem disarm_eq (timer : TimerSource) : timer.disarm = .disarmed := rfl

end TimerSource

/-- The `it_value` handed to `timerfd_settime`. -/
structure TimerSpec where
  tvSec : ℤ
  tvNsec : ℤ
  deriving DecidableEq, Repr

namespace TimerSpec

/-- How long a timer set to it runs. -/
def nanoseconds (spec : TimerSpec) : ℤ := spec.tvSec * 1000000000 + spec.tvNsec

/-- What `armOnce` programs for a number of milliseconds: nothing if that is negative, and an
instant, rather than the zero that disarms, if it is zero. -/
def ofMilliseconds (ms : ℤ) : Option TimerSpec :=
  if ms > 0 then some ⟨ms / 1000, ms % 1000 * 1000000⟩
  else if ms = 0 then some ⟨0, 1⟩
  else none

end TimerSpec

namespace TimerSource

/-- `timerfd_settime`: all zeros disarm. -/
def settime (spec : TimerSpec) : TimerSource :=
  if spec.tvSec = 0 ∧ spec.tvNsec = 0 then .disarmed
  else .armed (spec.nanoseconds / 1000000).toNat

/-- Every number of milliseconds is programmed, and runs for that long. -/
theorem armOnce_eq_settime (timer : TimerSource) (ms : ℕ) :
    ∃ spec, TimerSpec.ofMilliseconds ms = some spec ∧ timer.armOnce ms true = settime spec := by
  cases ms with
  | zero => exact ⟨⟨0, 1⟩, rfl, rfl⟩
  | succ ms =>
      refine ⟨_, if_pos (by omega), ?_⟩
      unfold settime TimerSpec.nanoseconds
      rw [if_neg (by dsimp only; omega)]
      simp only [armOnce, if_true]
      congr 1
      omega

end TimerSource

/-- A fixed retry schedule with a position; delays are milliseconds. -/
structure BackoffSchedule where
  delays : List ℕ
  attempt : ℕ := 0
  deriving DecidableEq, Repr

namespace BackoffSchedule

/-- One step drawn from the schedule: the delay, its 1-based position, and the
number of steps. -/
structure Attempt where
  delay : ℕ
  index : ℕ
  total : ℕ
  deriving DecidableEq, Repr

/-- Advance one step, or `none` once every entry has been consumed. -/
def nextDelay (s : BackoffSchedule) : Option Attempt × BackoffSchedule :=
  match s.delays[s.attempt]? with
  | none => (none, s)
  | some delay =>
      (some ⟨delay, s.attempt + 1, s.delays.length⟩, { s with attempt := s.attempt + 1 })

def reset (s : BackoffSchedule) : BackoffSchedule := { s with attempt := 0 }

def size (s : BackoffSchedule) : ℕ := s.delays.length

@[simp]
theorem reset_delays (s : BackoffSchedule) : s.reset.delays = s.delays := rfl

@[simp]
theorem nextDelay_delays (s : BackoffSchedule) : s.nextDelay.2.delays = s.delays := by
  unfold nextDelay
  split <;> rfl

end BackoffSchedule

end CecControl
