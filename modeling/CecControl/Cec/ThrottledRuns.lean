/-
# Runs of throttled commands

What a run of `executeWithThrottle` consists of: for each attempt a reservation, which reads
the clock once and may sleep, then a run of the command, and after a failure a sleep before
the next attempt. Statements about what commands do on the bus, and about what they leave in
the throttler, take runs apart along these lines.
-/

import CecControl.Cec.Operations

namespace CecControl

open WorkerM

namespace CommandThrottler

variable {t t' : CommandThrottler} {trace : Trace}

/-- The slot a caller gets at time `now`. -/
def slotAt (t : CommandThrottler) (now : ℕ) : ℕ := if t.nextAllowed > now then t.nextAllowed else now

/-- The throttler after a reservation at time `now`. -/
def reservedAt (t : CommandThrottler) (now : ℕ) : CommandThrottler :=
  { t with nextAllowed := t.slotAt now + t.currentInterval }

/-- The operations of a reservation at time `now`. -/
def reservation (t : CommandThrottler) (now : ℕ) : Trace :=
  ⟨.now, now⟩ :: if t.slotAt now > now then [⟨.sleep (t.slotAt now - now), ()⟩] else []

@[simp]
theorem reservedAt_config (t : CommandThrottler) (now : ℕ) : (t.reservedAt now).config = t.config :=
  rfl

@[simp]
theorem reservedAt_consecutiveFailures (t : CommandThrottler) (now : ℕ) :
    (t.reservedAt now).consecutiveFailures = t.consecutiveFailures := rfl

/-- A reservation reads the clock, moves the next slot and waits for its own. -/
theorem runs_reserveSlotAndSleep {outcome : Except Exn Unit} :
    Runs reserveSlotAndSleep t trace outcome t' ↔
      ∃ now, trace = t.reservation now ∧ outcome = .ok () ∧ t' = t.reservedAt now := by
  constructor
  · rintro ⟨(now : ℕ), rest, rfl, h⟩
    refine ⟨now, ?_⟩
    change Runs (if t.slotAt now > now then sleep (t.slotAt now - now) else pure ())
      (t.reservedAt now) rest outcome t' at h
    by_cases hlate : t.slotAt now > now
    · rw [if_pos hlate, runs_sleep] at h
      obtain ⟨rfl, rfl, rfl⟩ := h
      simp [reservation, hlate]
    · rw [if_neg hlate, runs_pure] at h
      obtain ⟨rfl, rfl, rfl⟩ := h
      simp [reservation, hlate]
  · rintro ⟨now, rfl, rfl, rfl⟩
    refine ⟨now, _, rfl, ?_⟩
    change Runs (if t.slotAt now > now then sleep (t.slotAt now - now) else pure ())
      (t.reservedAt now) _ (.ok ()) (t.reservedAt now)
    by_cases hlate : t.slotAt now > now
    · rw [if_pos hlate, runs_sleep, if_pos hlate]
      exact ⟨rfl, rfl, rfl⟩
    · rw [if_neg hlate, runs_pure, if_neg hlate]
      exact ⟨rfl, rfl, rfl⟩

/-- What follows an invocation of the command: its exception goes through, a success ends the
loop, and after a failure `remaining` attempts are left. -/
def Continues (command : WorkerM Bool) (remaining attempt : ℕ) (result : Outcome)
    (t : CommandThrottler) (trace : Trace) (outcome : Outcome) (t' : CommandThrottler) : Prop :=
  match result with
  | .error e => trace = [] ∧ outcome = .error e ∧ t' = t
  | .ok true => trace = [] ∧ outcome = .ok true ∧ t' = { t with consecutiveFailures := 0 }
  | .ok false =>
      ∃ rest, trace = ⟨.sleep (retryDelayMs attempt), ()⟩ :: rest ∧
        Runs (attempts command remaining (attempt + 1))
          { t with consecutiveFailures := u32 (t.consecutiveFailures + 1) } rest outcome t'

/-- No attempts left: the failure count is softened. -/
theorem runs_attempts_zero {command : WorkerM Bool} {attempt : ℕ} {outcome : Outcome} :
    Runs (attempts command 0 attempt) t trace outcome t' ↔
      trace = [] ∧ outcome = .ok false ∧
        t' = { t with consecutiveFailures := t.consecutiveFailures - 1 } := by
  constructor
  · rintro ⟨rfl, h⟩
    cases h
    exact ⟨rfl, rfl, rfl⟩
  · rintro ⟨rfl, rfl, rfl⟩
    exact ⟨rfl, rfl⟩

/-- One attempt: a reservation, the command, and what follows from its result. -/
theorem runs_attempts_succ {command : WorkerM Bool} {remaining attempt : ℕ} {outcome : Outcome} :
    Runs (attempts command (remaining + 1) attempt) t trace outcome t' ↔
      ∃ now body result between rest, trace = t.reservation now ++ (body ++ rest) ∧
        Runs command (t.reservedAt now) body result between ∧
        Continues command remaining attempt result between rest outcome t' := by
  have hok : ∀ {trace e t'}, ¬ Runs reserveSlotAndSleep t trace (.error e) t' := by
    intro trace e t' h
    obtain ⟨_, _, hout, _⟩ := runs_reserveSlotAndSleep.mp h
    cases hout
  rw [attempts, runs_bind_of_ok hok]
  constructor
  · rintro ⟨_, _, rest, _, rfl, hreserve, h⟩
    obtain ⟨now, rfl, -, rfl⟩ := runs_reserveSlotAndSleep.mp hreserve
    rcases runs_bind.mp h with ⟨e, rfl, hthrow⟩ | ⟨result, body, rest, between, rfl, hbody, hrest⟩
    · exact ⟨now, rest, .error e, t', [], by simp, hthrow, rfl, rfl, rfl⟩
    · refine ⟨now, body, .ok result, between, rest, rfl, hbody, ?_⟩
      cases result with
      | true =>
          obtain ⟨rfl, hresult⟩ := hrest
          cases hresult
          exact ⟨rfl, rfl, rfl⟩
      | false =>
          obtain ⟨_, rest, rfl, hrest⟩ := hrest
          exact ⟨rest, rfl, hrest⟩
  · rintro ⟨now, body, result, between, rest, rfl, hbody, hrest⟩
    refine ⟨(), _, _, _, rfl, runs_reserveSlotAndSleep.mpr ⟨now, rfl, rfl, rfl⟩, ?_⟩
    rw [runs_bind]
    rcases result with e | _ | _
    · obtain ⟨rfl, rfl, rfl⟩ := hrest
      exact Or.inl ⟨e, rfl, by simpa using hbody⟩
    · obtain ⟨rest, rfl, hrest⟩ := hrest
      exact Or.inr ⟨false, body, _, between, rfl, hbody, (), rest, rfl, hrest⟩
    · obtain ⟨rfl, rfl, rfl⟩ := hrest
      exact Or.inr ⟨true, body, [], between, rfl, hbody, rfl, rfl⟩

theorem runs_executeWithThrottle {command : WorkerM Bool} {outcome : Outcome} :
    Runs (executeWithThrottle command) t trace outcome t' ↔
      Runs (attempts command t.config.maxRetryAttempts 0) t trace outcome t' := Iff.rfl

end CommandThrottler

end CecControl
