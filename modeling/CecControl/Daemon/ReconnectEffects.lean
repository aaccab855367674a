/-
# What the reconnect machine makes the daemon do

With timers that can be armed, an event of the reconnect machine has one of four
outcomes: nothing, a retry scheduled, the cycle abandoned, or an attempt. An
attempt in turn ends at once when the lifecycle turns it down or finds the
adapter connected, and otherwise becomes a job. The effects are written out here
as single updates of the daemon, one per event, for the proofs that have to
follow the machine's state rather than treat it as a black box.
-/

import CecControl.Daemon.Rounds

namespace CecControl.Daemon

/-- A failed attempt: the next retry of the schedule, or the end of the cycle. -/
def retryOrAbandon (d : Daemon) : Daemon :=
  match d.adapterReconnect.schedule.nextDelay with
  | (some attempt, schedule) =>
      { d with
        adapterReconnect :=
          { d.adapterReconnect with
            schedule := schedule, state := .waitingForRetry,
            nextAttemptNumber := attempt.index + 1 }
        reconnectRetryTimer := .armed attempt.delay
        arms := d.arms + 1 }
  | (none, schedule) =>
      onAdapterUnrecoverable
        { d with
          adapterReconnect :=
            AdapterReconnect.resetCycle { d.adapterReconnect with schedule := schedule } }

/-- An attempt: turned down, unnecessary, or handed to the worker. -/
def attempted (d : Daemon) : Daemon :=
  if d.lifecycleShutdown then
    retryOrAbandon
      { d with reconnectRetryTimer := .disarmed, tickets := d.tickets + 1,
               log := d.log ++ [.issued d.tickets, .invoked d.tickets] }
  else if d.suspended then
    retryOrAbandon
      { d with reconnectRetryTimer := .disarmed, tickets := d.tickets + 1,
               log := d.log ++ [.issued d.tickets, .refused d.tickets, .invoked d.tickets] }
  else if d.connected then
    { d with
      adapterReconnect := d.adapterReconnect.resetCycle
      reconnectRetryTimer := .disarmed
      tickets := d.tickets + 1
      log := d.log ++ [.issued d.tickets, .invoked d.tickets] }
  else
    { d with
      reconnectRetryTimer := .disarmed
      tickets := d.tickets + 1
      jobs := if d.stopRequested then d.jobs else d.jobs ++ [.reconnect d.tickets]
      log := d.log ++ [.issued d.tickets] }

variable {d : Daemon}

theorem executeWithin_scheduleRetry {out : AdapterReconnect.Output} (depth : ℕ)
    (heffect : out.effect = .scheduleRetry) (harm : d.armOk d.arms = true) :
    executeWithin (depth + 1) d out =
      { d with reconnectRetryTimer := .armed out.delay, arms := d.arms + 1 } := by
  simp [executeWithin, heffect, armRetry, harm, TimerSource.armOnce]

/-- A failed attempt, at any depth of the nested callbacks. -/
theorem executeWithin_attemptFailed (depth : ℕ)
    (hstate : d.adapterReconnect.state = .attempting) (harm : d.armOk d.arms = true) :
    executeWithin (depth + 1) (d.reconnectEvent .attemptFailed).1
      (d.reconnectEvent .attemptFailed).2 = d.retryOrAbandon := by
  unfold retryOrAbandon reconnectEvent
  cases hnext : d.adapterReconnect.schedule.nextDelay with
  | mk drawn schedule =>
      cases drawn with
      | some attempt =>
          rw [executeWithin_scheduleRetry depth]
          · simp [AdapterReconnect.onEvent, hstate, hnext]
          · simp [AdapterReconnect.onEvent, hstate, hnext]
          · exact harm
      | none => simp [AdapterReconnect.onEvent, hstate, hnext, executeWithin]

theorem executeWithin_startAttempt {out : AdapterReconnect.Output} (depth : ℕ)
    (heffect : out.effect = .startAttempt) (hstate : d.adapterReconnect.state = .attempting)
    (harm : d.armOk d.arms = true) :
    executeWithin (depth + 2) d out = d.attempted := by
  unfold executeWithin attempted
  rw [heffect]
  dsimp only
  by_cases hshut : d.lifecycleShutdown = true
  · rw [if_pos hshut]
    simp only [reconnectAsync, issue, emit, hshut, if_true, Bool.false_eq_true, if_false]
    rw [executeWithin_attemptFailed depth (by exact hstate) (by exact harm)]
    simp [TimerSource.disarm]
  rw [if_neg hshut]
  by_cases hsuspended : d.suspended = true
  · rw [if_pos hsuspended]
    simp only [reconnectAsync, issue, emit, hshut, hsuspended, if_true, Bool.false_eq_true,
      if_false]
    rw [executeWithin_attemptFailed depth (by exact hstate) (by exact harm)]
    simp [TimerSource.disarm]
  rw [if_neg hsuspended]
  by_cases hconnected : d.connected = true
  · rw [if_pos hconnected]
    simp [reconnectAsync, hshut, hsuspended, hconnected, reconnectEvent,
      AdapterReconnect.onEvent, hstate, executeWithin, TimerSource.disarm]
  · rw [if_neg hconnected]
    simp [reconnectAsync, hshut, hsuspended, hconnected, TimerSource.disarm]

/-! ## Events -/

/-- A result is consumed by the attempt in flight. -/
theorem onReconnectResult_of_attempting (hstate : d.adapterReconnect.state = .attempting)
    (harm : d.armOk d.arms = true) (ok : Bool) :
    d.onReconnectResult ok =
      if ok then { d with adapterReconnect := d.adapterReconnect.resetCycle }
      else d.retryOrAbandon := by
  cases ok with
  | true =>
      simp [onReconnectResult, onReconnectEvent, reconnectEvent, AdapterReconnect.onEvent, hstate,
        execute, executeWithin]
  | false => exact executeWithin_attemptFailed 2 hstate harm

/-- Without an attempt in flight a result is absorbed. -/
theorem onReconnectResult_of_not_attempting (hstate : d.adapterReconnect.state ≠ .attempting)
    (ok : Bool) : d.onReconnectResult ok = d := by
  cases hs : d.adapterReconnect.state with
  | attempting => exact absurd hs hstate
  | idle =>
      cases ok <;>
        simp [onReconnectResult, onReconnectEvent, reconnectEvent, AdapterReconnect.onEvent, hs,
          execute, executeWithin]
  | waitingForRetry =>
      cases ok <;>
        simp [onReconnectResult, onReconnectEvent, reconnectEvent, AdapterReconnect.onEvent, hs,
          execute, executeWithin]

/-- A loss noticed at rest opens a cycle with its settling delay. -/
theorem onConnectionLost_of_idle (hstate : d.adapterReconnect.state = .idle)
    (hdelay : 0 < d.adapterReconnect.connectionLostDelay) (harm : d.armOk d.arms = true) :
    d.onConnectionLost =
      { d with
        adapterReconnect :=
          { d.adapterReconnect with
            schedule := d.adapterReconnect.schedule.reset, nextAttemptNumber := 1,
            state := .waitingForRetry }
        reconnectRetryTimer := .armed d.adapterReconnect.connectionLostDelay
        arms := d.arms + 1 } := by
  unfold onConnectionLost onReconnectEvent execute
  rw [executeWithin_scheduleRetry 2]
  · simp [reconnectEvent, AdapterReconnect.onEvent, hstate, hdelay]
  · simp [reconnectEvent, AdapterReconnect.onEvent, hstate, hdelay]
  · exact harm

theorem onConnectionLost_of_attempting (hstate : d.adapterReconnect.state = .attempting) :
    d.onConnectionLost = d := by
  simp [onConnectionLost, onReconnectEvent, reconnectEvent, AdapterReconnect.onEvent, hstate,
    execute, executeWithin]

/-- A loss noticed while a retry is pending starts an attempt at once. -/
theorem onConnectionLost_of_waiting (hstate : d.adapterReconnect.state = .waitingForRetry)
    (harm : d.armOk d.arms = true) :
    d.onConnectionLost =
      attempted { d with
        adapterReconnect :=
          { d.adapterReconnect with
            schedule := d.adapterReconnect.schedule.reset, state := .attempting,
            nextAttemptNumber := 1 } } := by
  unfold onConnectionLost onReconnectEvent execute
  rw [executeWithin_startAttempt 1]
  · simp [reconnectEvent, AdapterReconnect.onEvent, hstate]
  · simp [reconnectEvent, AdapterReconnect.onEvent, hstate]
  · simp [reconnectEvent, AdapterReconnect.onEvent, hstate]
  · exact harm

theorem onReconnectRetryTimerFired_of_waiting
    (hstate : d.adapterReconnect.state = .waitingForRetry) (harm : d.armOk d.arms = true) :
    d.onReconnectRetryTimerFired =
      attempted { d with
        reconnectRetryTimer := d.reconnectRetryTimer.consume
        adapterReconnect := { d.adapterReconnect with state := .attempting } } := by
  unfold onReconnectRetryTimerFired onReconnectEvent execute
  rw [executeWithin_startAttempt 1]
  · simp [reconnectEvent, AdapterReconnect.onEvent, hstate]
  · simp [reconnectEvent, AdapterReconnect.onEvent, hstate]
  · simp [reconnectEvent, AdapterReconnect.onEvent, hstate]
  · exact harm

/-- Without a retry pending the timer's handler only reads the timer. -/
theorem onReconnectRetryTimerFired_of_not_waiting
    (hstate : d.adapterReconnect.state ≠ .waitingForRetry) :
    d.onReconnectRetryTimerFired =
      { d with reconnectRetryTimer := d.reconnectRetryTimer.consume } := by
  cases hs : d.adapterReconnect.state with
  | waitingForRetry => exact absurd hs hstate
  | idle =>
      simp [onReconnectRetryTimerFired, onReconnectEvent, reconnectEvent,
        AdapterReconnect.onEvent, hs, execute, executeWithin]
  | attempting =>
      simp [onReconnectRetryTimerFired, onReconnectEvent, reconnectEvent,
        AdapterReconnect.onEvent, hs, execute, executeWithin]

/-- Seeding opens a cycle unless one is open. -/
theorem seedReconnect_of_idle (hstate : d.adapterReconnect.state = .idle)
    (harm : d.armOk d.arms = true) :
    d.seedReconnect =
      { d with
        adapterReconnect :=
          { d.adapterReconnect with
            schedule := d.adapterReconnect.schedule.reset, state := .waitingForRetry,
            nextAttemptNumber := 1 }
        reconnectRetryTimer := .armed kPostResumeRetryDelay
        arms := d.arms + 1 } := by
  unfold seedReconnect execute
  rw [executeWithin_scheduleRetry 2]
  · simp [AdapterReconnect.seedCycle, hstate]
  · simp [AdapterReconnect.seedCycle, hstate]
  · exact harm

theorem seedReconnect_of_not_idle (hstate : d.adapterReconnect.state ≠ .idle) :
    d.seedReconnect = d := by
  simp [seedReconnect, AdapterReconnect.seedCycle, hstate, execute, executeWithin]

end CecControl.Daemon
