/-
# The adapter reconnect cycle

`AdapterReconnect` decides when a lost adapter is reopened: a first attempt
after a settling delay, then one retry per entry of its backoff schedule, then
abandonment. Like the suspend sequencer it is pure; each transition answers with
the one side effect its owner has to carry out.

The handler is transcribed state by state, with the events each state absorbs.
What later proofs need from it is collected at the end: which events can ask for
an attempt, and that the schedule and the settling delay never change.
-/

import CecControl.Common.Timers

namespace CecControl

namespace AdapterReconnect

inductive Event
  | connectionLost
  | attemptSucceeded
  | attemptFailed
  | systemSuspend
  | systemResume
  | retryTimerFired
  | timerArmFailed
  deriving DecidableEq, Repr

inductive Effect
  | none
  | startAttempt
  | scheduleRetry
  | cancelRetry
  | abandonCycle
  deriving DecidableEq, Repr

/-- Result of a transition. -/
structure Output where
  effect : Effect := .none
  delay : ℕ := 0
  attemptNumber : ℕ := 0
  totalAttempts : ℕ := 0
  deriving DecidableEq, Repr

inductive State
  | idle
  | attempting
  | waitingForRetry
  deriving DecidableEq, Repr

end AdapterReconnect

/-- State of the reconnect machine. `nextAttemptNumber` is captured when the
retry timer is armed and is zero outside a cycle. -/
structure AdapterReconnect where
  state : AdapterReconnect.State := .idle
  schedule : BackoffSchedule
  connectionLostDelay : ℕ
  nextAttemptNumber : ℕ := 0
  deriving DecidableEq, Repr

namespace AdapterReconnect

/-- Attempts in a cycle: the first one and one per schedule entry. -/
def totalAttempts (r : AdapterReconnect) : ℕ := r.schedule.size + 1

/-- Return to idle with a rewound schedule and no pending attempt. -/
def resetCycle (r : AdapterReconnect) : AdapterReconnect :=
  { r with state := .idle, schedule := r.schedule.reset, nextAttemptNumber := 0 }

/-- Start a cycle whose first attempt waits `initialDelay`; absorbed unless
idle. -/
def seedCycle (r : AdapterReconnect) (initialDelay : ℕ) : AdapterReconnect × Output :=
  if r.state ≠ .idle then (r, {})
  else
    ({ r with schedule := r.schedule.reset, state := .waitingForRetry, nextAttemptNumber := 1 },
      ⟨.scheduleRetry, initialDelay, 1, r.totalAttempts⟩)

def onEvent (r : AdapterReconnect) (event : Event) : AdapterReconnect × Output :=
  match r.state with
  | .idle =>
      -- every other event is stale or inapplicable at rest
      if event = .connectionLost then
        if r.connectionLostDelay > 0 then
          ({ r with schedule := r.schedule.reset, nextAttemptNumber := 1,
                    state := .waitingForRetry },
            ⟨.scheduleRetry, r.connectionLostDelay, 1, r.totalAttempts⟩)
        else
          ({ r with schedule := r.schedule.reset, nextAttemptNumber := 1,
                    state := .attempting },
            ⟨.startAttempt, 0, 1, r.totalAttempts⟩)
      else (r, {})
  | .attempting =>
      match event with
      | .attemptSucceeded => (r.resetCycle, {})
      | .attemptFailed =>
          match r.schedule.nextDelay with
          | (some attempt, schedule) =>
              ({ r with schedule := schedule, state := .waitingForRetry,
                        nextAttemptNumber := attempt.index + 1 },
                ⟨.scheduleRetry, attempt.delay, attempt.index + 1, r.totalAttempts⟩)
          | (none, schedule) =>
              ({ r with schedule := schedule }.resetCycle,
                ⟨.abandonCycle, 0, 0, r.totalAttempts⟩)
      -- the job in flight lands later and is meant to be absorbed by `idle`
      | .systemSuspend | .systemResume => (r.resetCycle, {})
      -- the attempt in flight is taken to address the same condition
      | .connectionLost => (r, {})
      | .retryTimerFired | .timerArmFailed => (r, {})
  | .waitingForRetry =>
      match event with
      | .connectionLost =>
          ({ r with schedule := r.schedule.reset, state := .attempting, nextAttemptNumber := 1 },
            ⟨.startAttempt, 0, 1, r.totalAttempts⟩)
      | .retryTimerFired =>
          ({ r with state := .attempting },
            ⟨.startAttempt, 0, r.nextAttemptNumber, r.totalAttempts⟩)
      | .systemSuspend | .systemResume => (r.resetCycle, ⟨.cancelRetry, 0, 0, 0⟩)
      | .timerArmFailed => (r.resetCycle, ⟨.abandonCycle, 0, 0, r.totalAttempts⟩)
      | .attemptSucceeded | .attemptFailed => (r, {})

/-! ## What the transitions leave alone -/

@[simp]
theorem resetCycle_state (r : AdapterReconnect) : r.resetCycle.state = .idle := rfl

@[simp]
theorem resetCycle_delays (r : AdapterReconnect) :
    r.resetCycle.schedule.delays = r.schedule.delays := rfl

@[simp]
theorem resetCycle_connectionLostDelay (r : AdapterReconnect) :
    r.resetCycle.connectionLostDelay = r.connectionLostDelay := rfl

/-- Everything an event can do, by state. The failed attempt is the only event
that draws from the schedule. -/
theorem onEvent_attemptFailed_of_attempting {r : AdapterReconnect}
    (h : r.state = .attempting) :
    (∃ attempt, r.schedule.nextDelay.1 = some attempt ∧
      r.onEvent .attemptFailed =
        ({ r with schedule := r.schedule.nextDelay.2, state := .waitingForRetry,
                  nextAttemptNumber := attempt.index + 1 },
          ⟨.scheduleRetry, attempt.delay, attempt.index + 1, r.totalAttempts⟩)) ∨
    (r.schedule.nextDelay.1 = none ∧
      r.onEvent .attemptFailed =
        ({ r with schedule := r.schedule.nextDelay.2 }.resetCycle,
          ⟨.abandonCycle, 0, 0, r.totalAttempts⟩)) := by
  cases hnext : r.schedule.nextDelay with
  | mk drawn schedule =>
      cases drawn with
      | some attempt => exact Or.inl ⟨attempt, rfl, by simp [onEvent, h, hnext]⟩
      | none => exact Or.inr ⟨rfl, by simp [onEvent, h, hnext]⟩

/-- The construction parameters survive every event. -/
@[simp]
theorem onEvent_connectionLostDelay (r : AdapterReconnect) (event : Event) :
    (r.onEvent event).1.connectionLostDelay = r.connectionLostDelay := by
  cases hstate : r.state with
  | idle =>
      simp only [onEvent, hstate]
      split_ifs <;> rfl
  | attempting =>
      cases event with
      | attemptFailed =>
          rcases onEvent_attemptFailed_of_attempting hstate with ⟨_, _, h⟩ | ⟨_, h⟩ <;>
            simp [h]
      | _ => simp [onEvent, hstate]
  | waitingForRetry => cases event <;> simp [onEvent, hstate]

@[simp]
theorem seedCycle_connectionLostDelay (r : AdapterReconnect) (delay : ℕ) :
    (r.seedCycle delay).1.connectionLostDelay = r.connectionLostDelay := by
  unfold seedCycle
  split_ifs <;> rfl

/-! ## Results, timer failures and power transitions never start an attempt -/

/-- Events after which no attempt is started, whatever the state. -/
theorem onEvent_effect_ne_startAttempt (r : AdapterReconnect) {event : Event}
    (hlost : event ≠ .connectionLost) (htimer : event ≠ .retryTimerFired) :
    (r.onEvent event).2.effect ≠ .startAttempt := by
  cases hstate : r.state with
  | idle => simp [onEvent, hstate, hlost]
  | attempting =>
      cases event with
      | attemptFailed =>
          rcases onEvent_attemptFailed_of_attempting hstate with ⟨_, _, h⟩ | ⟨_, h⟩ <;>
            simp [h]
      | _ => simp [onEvent, hstate]
  | waitingForRetry => cases event <;> simp_all [onEvent]

/-- The machine enters an attempt only with the effect that starts it. -/
theorem attempting_of_onEvent {r : AdapterReconnect} {event : Event}
    (h : (r.onEvent event).1.state = .attempting) :
    r.state = .attempting ∨ (r.onEvent event).2.effect = .startAttempt := by
  cases hstate : r.state with
  | attempting => exact Or.inl rfl
  | idle =>
      refine Or.inr ?_
      simp only [onEvent, hstate] at h ⊢
      split_ifs at h ⊢ <;> simp_all
  | waitingForRetry => cases event <;> simp_all [onEvent]

/-- A result ends the attempt in flight. -/
theorem onEvent_result_state (r : AdapterReconnect) (ok : Bool) :
    (r.onEvent (if ok then .attemptSucceeded else .attemptFailed)).1.state ≠ .attempting := by
  cases hstate : r.state with
  | idle => cases ok <;> simp [onEvent, hstate]
  | waitingForRetry => cases ok <;> simp [onEvent, hstate]
  | attempting =>
      cases ok with
      | true => simp [onEvent, hstate]
      | false =>
          rcases onEvent_attemptFailed_of_attempting hstate with ⟨_, _, h⟩ | ⟨_, h⟩ <;> simp [h]

/-- A reported arm failure is answered by abandonment or by nothing. -/
theorem onEvent_timerArmFailed_effect (r : AdapterReconnect) :
    (r.onEvent .timerArmFailed).2.effect = .abandonCycle ∨
      (r.onEvent .timerArmFailed).2.effect = .none := by
  cases hstate : r.state <;> simp [onEvent, hstate]

end AdapterReconnect

end CecControl
