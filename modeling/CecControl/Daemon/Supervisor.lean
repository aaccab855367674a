/-
# The power supervisor

The supervisor carries out what the two state machines decide. Its handlers call
each other through the lifecycle's callbacks: a suspend or resume that the
lifecycle turns down completes inside the call that started it, and the
completion pumps the next queued request. The source bounds that recursion by
the queue; here the bound is an explicit argument, and `settle` is what the
recursion amounts to, one queued request per round.

The proof rules at the end say when a property of the daemon survives a
supervisor entry: it is enough to check the rounds and the reconnect effects one
by one.
-/

import CecControl.Daemon.State

namespace CecControl.Daemon

open PowerLifecycle

/-! ## Reconnect effects -/

/-- Delay of the first attempt after a resume that left the adapter closed. -/
def kPostResumeRetryDelay : ℕ := 10000

/-- Feed one event to the reconnect machine. -/
def reconnectEvent (d : Daemon) (event : AdapterReconnect.Event) :
    Daemon × AdapterReconnect.Output :=
  ({ d with adapterReconnect := (d.adapterReconnect.onEvent event).1 },
    (d.adapterReconnect.onEvent event).2)

/-- `onAdapterUnrecoverable`: the exit status is latched and the loop asked to
stop. -/
def onAdapterUnrecoverable (d : Daemon) : Daemon :=
  { d with unrecoverable := true }.emit (.abandoned d.suspended d.lifecycleShutdown)

/-- `PowerSupervisor::execute` with a bound on the nesting of the results that
arrive inside the call. -/
def executeWithin : ℕ → Daemon → AdapterReconnect.Output → Daemon
  | 0, d, _ => d
  | depth + 1, d, out =>
      match out.effect with
      | .none => d
      | .startAttempt =>
          match reconnectAsync
              { d with reconnectRetryTimer := d.reconnectRetryTimer.disarm } with
          | (d, none) => d
          | (d, some ok) =>
              let event := if ok then AdapterReconnect.Event.attemptSucceeded else .attemptFailed
              executeWithin depth (d.reconnectEvent event).1 (d.reconnectEvent event).2
      | .scheduleRetry =>
          match d.armRetry out.delay with
          | (d, true) => d
          | (d, false) =>
              executeWithin depth (d.reconnectEvent .timerArmFailed).1
                (d.reconnectEvent .timerArmFailed).2
      | .cancelRetry => { d with reconnectRetryTimer := d.reconnectRetryTimer.disarm }
      | .abandonCycle => d.onAdapterUnrecoverable

/-- An attempt turned down at once, its retry not armable, the cycle abandoned:
nothing nests deeper. -/
def execute (d : Daemon) (out : AdapterReconnect.Output) : Daemon := executeWithin 3 d out

/-- Feed one event to the reconnect machine and carry out its effect. -/
def onReconnectEvent (d : Daemon) (event : AdapterReconnect.Event) : Daemon :=
  (d.reconnectEvent event).1.execute (d.reconnectEvent event).2

def onConnectionLost (d : Daemon) : Daemon := d.onReconnectEvent .connectionLost

def onReconnectResult (d : Daemon) (ok : Bool) : Daemon :=
  d.onReconnectEvent (if ok then .attemptSucceeded else .attemptFailed)

def onReconnectRetryTimerFired (d : Daemon) : Daemon :=
  { d with reconnectRetryTimer := d.reconnectRetryTimer.consume }.onReconnectEvent
    .retryTimerFired

/-- Seed a reconnect cycle after a resume that left the adapter closed. -/
def seedReconnect (d : Daemon) : Daemon :=
  { d with adapterReconnect := (d.adapterReconnect.seedCycle kPostResumeRetryDelay).1 }.execute
    (d.adapterReconnect.seedCycle kPostResumeRetryDelay).2

/-! ## Power effects -/

/-- The reconnect machine is told about a system suspend or resume. -/
def notify (d : Daemon) : Notify → Daemon
  | .none => d
  | .systemSuspend => d.onReconnectEvent .systemSuspend
  | .systemResume => d.onReconnectEvent .systemResume

/-- Log the request in flight as started. -/
def logStarted (d : Daemon) : Daemon :=
  match d.powerLifecycle.active with
  | some request => d.emit (.started request)
  | none => d

/-- Log the request in flight as finished, if a completion of its kind arrives. -/
def logFinished (d : Daemon) (kind : EventKind) : Daemon :=
  match d.powerLifecycle.active with
  | some request => if request.kind = kind then d.emit (.finished request) else d
  | none => d

def submitSuspendWork (onSuspendCompleted : Daemon → Daemon) (d : Daemon) : Daemon :=
  match d.logStarted.suspendAsync with
  | (d, true) => onSuspendCompleted d
  | (d, false) => d

/-- A resume turned down at once reports an invalid adapter and no commands. -/
def submitResumeWork (onResumeCompleted : Daemon → Bool → Daemon) (d : Daemon) : Daemon :=
  match d.logStarted.resumeAsync with
  | (d, true) => onResumeCompleted d false
  | (d, false) => d

/-- The effects of an output up to the adapter work, in the source's order:
disarm, notify, arm, lock. -/
def quietEffects (d : Daemon) (out : Output) : Daemon :=
  let d :=
    if out.safetyTimer = .disarm then
      { d with suspendSafetyTimer := d.suspendSafetyTimer.disarm }
    else d
  let d := d.notify out.reconnectNotify
  let d :=
    if out.safetyTimer = .arm then
      match d.armSafety out.safetyDelay with
      | (d, true) => d
      -- the feedback is inert: the completion will release the lock
      | (d, false) => { d with powerLifecycle := d.powerLifecycle.onSafetyTimerArmFailed.1 }
    else d
  if out.lock = .none then d else d.emit (.lock out.lock)

def executeEffects (onSuspendCompleted : Daemon → Daemon)
    (onResumeCompleted : Daemon → Bool → Daemon) (d : Daemon) (out : Output) : Daemon :=
  let d := d.quietEffects out
  match out.work with
  | .startSuspend => submitSuspendWork onSuspendCompleted d
  | .startResume => submitResumeWork onResumeCompleted d
  | .none => d

/-- `PowerSupervisor::onSuspendCompleted` over a given `applyLifecycle`. -/
def suspendCompletedWith (applyLifecycle : Daemon → Output → Daemon) (d : Daemon) : Daemon :=
  applyLifecycle
    { d.logFinished .suspend with powerLifecycle := d.powerLifecycle.onSuspendCompleted.1 }
    d.powerLifecycle.onSuspendCompleted.2

/-- `PowerSupervisor::onResumeCompleted` over a given `applyLifecycle`: the next
queued request is pumped first, and only then is a reconnect cycle seeded. -/
def resumeCompletedWith (applyLifecycle : Daemon → Output → Daemon) (d : Daemon)
    (adapterValid : Bool) : Daemon :=
  let d := applyLifecycle
    { d.logFinished .resume with
      powerLifecycle := (d.powerLifecycle.onResumeCompleted adapterValid).1 }
    (d.powerLifecycle.onResumeCompleted adapterValid).2
  if adapterValid then d else d.seedReconnect

/-- `PowerSupervisor::applyLifecycle` with a bound on the completions that arrive
inside it. -/
def applyLifecycleWithin : ℕ → Daemon → Output → Daemon
  | 0, d, _ => d
  | depth + 1, d, out =>
      let effects := executeEffects (suspendCompletedWith (applyLifecycleWithin depth))
        (resumeCompletedWith (applyLifecycleWithin depth))
      let d := effects d out
      effects { d with powerLifecycle := d.powerLifecycle.pumpQueue.1 }
        d.powerLifecycle.pumpQueue.2

/-- Every nested completion has taken a request off the queue. -/
def applyLifecycle (d : Daemon) (out : Output) : Daemon :=
  applyLifecycleWithin (d.powerLifecycle.pending.length + 1) d out

/-- A suspend or resume request reaches the supervisor. -/
def onRequested (d : Daemon) (request : Pending) : Daemon :=
  let d := d.emit (.requested request)
  applyLifecycle
    { d with powerLifecycle := (d.powerLifecycle.onRequested request.kind request.source).1 }
    (d.powerLifecycle.onRequested request.kind request.source).2

def onSuspendRequested (d : Daemon) (source : Source) : Daemon :=
  d.onRequested ⟨.suspend, source⟩

def onResumeRequested (d : Daemon) (source : Source) : Daemon :=
  d.onRequested ⟨.resume, source⟩

def onSuspendCompleted (d : Daemon) : Daemon := suspendCompletedWith applyLifecycle d

def onResumeCompleted (d : Daemon) (adapterValid : Bool) : Daemon :=
  resumeCompletedWith applyLifecycle d adapterValid

def onSafetyTimerFired (d : Daemon) : Daemon :=
  applyLifecycle
    { d with suspendSafetyTimer := d.suspendSafetyTimer.consume,
             powerLifecycle := d.powerLifecycle.onSafetyTimerFired.1 }
    d.powerLifecycle.onSafetyTimerFired.2

end CecControl.Daemon
