/-
# Slots reserved by many callers

`reserveSlotAndSleep` takes no lock. A caller computes its interval from the failure count, reads
the clock, loads the next allowed instant, and then tries to move that instant on by
compare-exchange, with what it last saw there as the expected value, until it succeeds. Here any
number of callers do so at once, one atomic access at a time: the failure count changes under
them, and a compare-exchange may fail for no reason.

In the order in which they succeed, each slot starts an interval after the one before it, and none
starts before its caller's reading of the clock. A caller left alone makes the reservation of the
sequential model.
-/

import CecControl.Cec.ThrottledRuns
import CecControl.Lib.Machine
import Mathlib.Data.List.Chain

namespace CecControl

open Lib

/-! ## The interval -/

namespace CommandThrottler

/-- `currentInterval` at this failure count. -/
def intervalAt (config : ThrottlerConfig) (failures : ℕ) : ℕ :=
  currentInterval ⟨config, 0, failures⟩

end CommandThrottler

/-! ## Callers at once -/

/-- How far a caller is in `reserveSlotAndSleep`, with its local variables; `failures` is the count
its interval was computed from. -/
inductive Reserving
  | idle
  | computed (failures interval : ℕ)
  | timed (failures interval now : ℕ)
  | trying (failures interval now expected : ℕ)
  | sleeping (mySlot : ℕ)
  deriving DecidableEq, Repr

/-- A successful compare-exchange. -/
structure Reservation where
  caller : ℕ
  failures : ℕ
  interval : ℕ
  now : ℕ
  slot : ℕ
  deriving DecidableEq, Repr

/-- The throttler among its callers, the latest time seen, and the reservations in the order they
were made. -/
structure Throttling where
  throttler : CommandThrottler
  callers : ℕ → Reserving := fun _ => .idle
  clock : ℕ := 0
  reserved : List Reservation := []

inductive ThrottlingLabel
  /-- The caller loads the failure count and computes its interval. -/
  | currentInterval (caller : ℕ)
  /-- It reads the clock. -/
  | now (caller time : ℕ)
  /-- It loads the next allowed instant. -/
  | load (caller : ℕ)
  /-- It tries to reserve; the weak compare-exchange may fail without reason. -/
  | compareExchange (caller : ℕ) (spurious : Bool)
  /-- Its slot has begun. -/
  | wake (caller time : ℕ)
  /-- The outcome of some command changes the failure count. -/
  | failures (count : ℕ)
  deriving DecidableEq, Repr

namespace Throttling

/-- The slot of a caller that expects `expected`. -/
def mySlot (expected now : ℕ) : ℕ := if expected > now then expected else now

def moved (s : Throttling) (caller : ℕ) (phase : Reserving) : Throttling :=
  { s with callers := Function.update s.callers caller phase }

/-- `ticks` is the number of the clock's ticks in a millisecond. -/
def step (ticks : ℕ) (s : Throttling) : ThrottlingLabel → Option Throttling
  | .currentInterval caller =>
      match s.callers caller with
      | .idle =>
          some (s.moved caller
            (.computed s.throttler.consecutiveFailures s.throttler.currentInterval))
      | _ => none
  | .now caller time =>
      match s.callers caller with
      | .computed failures interval =>
          if s.clock ≤ time then
            some { s.moved caller (.timed failures interval time) with clock := time }
          else none
      | _ => none
  | .load caller =>
      match s.callers caller with
      | .timed failures interval now =>
          some (s.moved caller (.trying failures interval now s.throttler.nextAllowed))
      | _ => none
  | .compareExchange caller spurious =>
      match s.callers caller with
      | .trying failures interval now expected =>
          if s.throttler.nextAllowed = expected ∧ spurious = false then
            let slot := mySlot expected now
            some
              { s.moved caller (.sleeping slot) with
                throttler := { s.throttler with nextAllowed := slot + interval * ticks }
                reserved := s.reserved ++ [⟨caller, failures, interval, now, slot⟩] }
          else some (s.moved caller (.trying failures interval now s.throttler.nextAllowed))
      | _ => none
  | .wake caller time =>
      match s.callers caller with
      | .sleeping slot =>
          if s.clock ≤ time ∧ slot ≤ time then
            some { s.moved caller .idle with clock := time }
          else none
      | _ => none
  | .failures count =>
      if count < 2 ^ 32 then
        some { s with throttler := { s.throttler with consecutiveFailures := count } }
      else none

def machine (ticks : ℕ) : Machine Throttling ThrottlingLabel := ⟨step ticks⟩

/-! ## Spacing -/

open CommandThrottler

theorem le_mySlot (expected now : ℕ) : expected ≤ mySlot expected now ∧ now ≤ mySlot expected now := by
  unfold mySlot
  split_ifs <;> omega

/-- `later` begins an interval after `earlier`. -/
def Follows (ticks : ℕ) (earlier later : Reservation) : Prop :=
  earlier.slot + earlier.interval * ticks ≤ later.slot

/-- The interval is the one computed from the failure count seen. -/
def Computed (config : ThrottlerConfig) (failures interval : ℕ) : Prop :=
  failures < 2 ^ 32 ∧ interval = intervalAt config failures

/-- The same of a caller that has computed it. -/
def Reserving.Computes (config : ThrottlerConfig) : Reserving → Prop
  | .computed failures interval | .timed failures interval _ | .trying failures interval _ _ =>
      Computed config failures interval
  | _ => True

/-- What every access keeps. The next allowed instant is where the last reservation ends, so a
compare-exchange that succeeds has seen that reservation. -/
structure Spaced (ticks : ℕ) (config : ThrottlerConfig) (s : Throttling) : Prop where
  configured : s.throttler.config = config
  failures : s.throttler.consecutiveFailures < 2 ^ 32
  callers : ∀ caller, Reserving.Computes config (s.callers caller)
  chain : s.reserved.IsChain (Follows ticks)
  last : ∀ r ∈ s.reserved.getLast?, r.slot + r.interval * ticks = s.throttler.nextAllowed
  own : ∀ r ∈ s.reserved, r.now ≤ r.slot ∧ Computed config r.failures r.interval

section

variable {ticks : ℕ} {config : ThrottlerConfig} {s s' : Throttling}

theorem Spaced.computes_moved (h : s.Spaced ticks config) (caller : ℕ) (phase : Reserving)
    (hphase : Reserving.Computes config phase) (other : ℕ) :
    Reserving.Computes config ((s.moved caller phase).callers other) := by
  unfold moved
  by_cases heq : other = caller
  · subst heq
    simpa using hphase
  · simpa [Function.update_of_ne heq] using h.callers other

/-- A caller moves on without reserving. -/
theorem Spaced.moved (h : s.Spaced ticks config) (caller : ℕ) (phase : Reserving)
    (hphase : Reserving.Computes config phase) : (s.moved caller phase).Spaced ticks config :=
  ⟨h.configured, h.failures, h.computes_moved caller phase hphase, h.chain, h.last, h.own⟩

/-- A successful compare-exchange: the slot follows the last one reserved. -/
theorem Spaced.reserved (h : s.Spaced ticks config) {caller failures interval now : ℕ}
    (hcomputed : Computed config failures interval) :
    Spaced ticks config
      { s.moved caller (.sleeping (mySlot s.throttler.nextAllowed now)) with
        throttler :=
          { s.throttler with
            nextAllowed := mySlot s.throttler.nextAllowed now + interval * ticks }
        reserved := s.reserved ++
          [⟨caller, failures, interval, now, mySlot s.throttler.nextAllowed now⟩] } := by
  obtain ⟨hexpected, hnow⟩ := le_mySlot s.throttler.nextAllowed now
  refine ⟨h.configured, h.failures, h.computes_moved caller _ trivial, ?_, ?_, ?_⟩
  · apply h.chain.append (List.isChain_singleton _)
    rintro earlier hearlier later ⟨⟩
    exact (h.last earlier hearlier).trans_le hexpected
  · simp
  · intro r hr
    rcases List.mem_append.mp hr with hr | hr
    · exact h.own r hr
    · obtain rfl := List.mem_singleton.mp hr
      exact ⟨hnow, hcomputed⟩

end

/-- A caller left alone makes the reservation of the sequential model. -/
theorem run_alone (s : Throttling) {caller now : ℕ} (hidle : s.callers caller = .idle)
    (hclock : s.clock ≤ now) :
    ((machine 1).run s [.currentInterval caller, .now caller now, .load caller,
        .compareExchange caller false]).map (fun s' => (s'.throttler, s'.callers caller)) =
      some (s.throttler.reservedAt now, .sleeping (s.throttler.slotAt now)) := by
  simp [machine, Machine.run, step, hidle, moved, hclock, reservedAt, slotAt, mySlot]

end Throttling

end CecControl
