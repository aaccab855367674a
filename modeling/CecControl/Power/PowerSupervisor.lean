/-
# The power supervisor in any environment

The supervisor carries out what its two state machines decide by calling others:
the kernel for its timers, logind's monitor for the inhibit lock, the adapter
lifecycle for the work itself. Here those calls are answered by an environment
that is nothing but a state and functions on it. In particular an asynchronous
call may complete inside the call or at any later time, as the environment
chooses, so what is proved of the supervisor here does not depend on when the
lifecycle turns work down.

Completions that arrive inside a call nest the supervisor's functions in each
other. The nesting allowed is an argument, and running out of it is an answer of
its own, so that a bound on the nesting can be stated and proved.
-/

import CecControl.Power.PowerLifecycle
import CecControl.Power.AdapterReconnect

namespace CecControl

open PowerLifecycle Lib

universe u

/-- What happened to a request, for the environment to write down. -/
inductive PowerSupervisor.Note
  | requested (request : Pending)
  | started (request : Pending)
  | finished (request : Pending)
  deriving DecidableEq, Repr

/-- The calls a supervisor makes. -/
structure PowerSupervisor.Ports (E : Type u) where
  /-- `timerfd_settime`, and whether it succeeded. -/
  armOnce : E → E × Bool
  /-- `releaseInhibitLock` or `takeInhibitLock`. -/
  lock : E → Lock → E
  /-- Whether the suspend completes inside the call. -/
  suspendAsync : E → E × Bool
  /-- Whether the resume completes inside the call, and with which validity. -/
  resumeAsync : E → E × Option Bool
  /-- Whether the attempt completes inside the call, and with which result. -/
  reconnectAsync : E → E × Option Bool
  onAdapterUnrecoverable : E → E
  note : E → PowerSupervisor.Note → E

/-- The supervisor and its environment. -/
structure PowerSupervisor (E : Type u) where
  powerLifecycle : PowerLifecycle := {}
  adapterReconnect : AdapterReconnect
  suspendSafetyTimer : TimerSource := .disarmed
  reconnectRetryTimer : TimerSource := .disarmed
  env : E
  /-- Works handed to the lifecycle so far. -/
  works : ℕ := 0
  /-- Suspend cycles entered so far. -/
  entries : ℕ := 0
  /-- The cycle whose entry last set the safety timer. -/
  armedBy : ℕ := 0
  /-- The cycle in which the safety timer last released the lock. -/
  firedIn : ℕ := 0
  /-- The retry timer has been reported as expired, and no retry scheduled since. -/
  undisturbed : Bool := false

namespace PowerSupervisor

variable {E : Type u} (ports : Ports E)

/-- Delay of the first attempt after a resume that left the adapter closed. -/
def kPostResumeRetryDelay : ℕ := 10000

def note (s : PowerSupervisor E) (n : Note) : PowerSupervisor E :=
  { s with env := ports.note s.env n }

/-! ## Reconnect effects -/

/-- Feed one event to the reconnect machine. -/
def reconnectEvent (s : PowerSupervisor E) (event : AdapterReconnect.Event) :
    PowerSupervisor E × AdapterReconnect.Output :=
  ({ s with adapterReconnect := (s.adapterReconnect.onEvent event).1 },
    (s.adapterReconnect.onEvent event).2)

def execute : ℕ → PowerSupervisor E → AdapterReconnect.Output → Option (PowerSupervisor E)
  | 0, _, _ => none
  | depth + 1, s, out =>
      match out.effect with
      | .none => some s
      | .startAttempt =>
          let s := { s with reconnectRetryTimer := s.reconnectRetryTimer.disarm }
          match ports.reconnectAsync s.env with
          | (env, none) => some { s with env := env }
          | (env, some ok) =>
              let event := if ok then AdapterReconnect.Event.attemptSucceeded else .attemptFailed
              let next := reconnectEvent { s with env := env } event
              execute depth next.1 next.2
      | .scheduleRetry =>
          match ports.armOnce s.env with
          | (env, ok) =>
              let s := { s with
                env := env
                reconnectRetryTimer := s.reconnectRetryTimer.armOnce out.delay ok
                undisturbed := false }
              if ok then some s
              else execute depth (s.reconnectEvent .timerArmFailed).1
                (s.reconnectEvent .timerArmFailed).2
      | .cancelRetry => some { s with reconnectRetryTimer := s.reconnectRetryTimer.disarm }
      | .abandonCycle => some { s with env := ports.onAdapterUnrecoverable s.env }

/-- Feed one event to the reconnect machine and carry out its effect. -/
def onReconnectEvent (depth : ℕ) (s : PowerSupervisor E) (event : AdapterReconnect.Event) :
    Option (PowerSupervisor E) :=
  execute ports depth (s.reconnectEvent event).1 (s.reconnectEvent event).2

def onConnectionLost (depth : ℕ) (s : PowerSupervisor E) : Option (PowerSupervisor E) :=
  s.onReconnectEvent ports depth .connectionLost

def onReconnectResult (depth : ℕ) (s : PowerSupervisor E) (ok : Bool) :
    Option (PowerSupervisor E) :=
  s.onReconnectEvent ports depth (if ok then .attemptSucceeded else .attemptFailed)

/-- The expiration count is read and not looked at. -/
def onReconnectRetryTimerFired (depth : ℕ) (s : PowerSupervisor E) : Option (PowerSupervisor E) :=
  onReconnectEvent ports depth
    { s with reconnectRetryTimer := s.reconnectRetryTimer.consume } .retryTimerFired

/-- Seed a reconnect cycle after a resume that left the adapter closed. -/
def seedReconnect (depth : ℕ) (s : PowerSupervisor E) : Option (PowerSupervisor E) :=
  execute ports depth
    { s with adapterReconnect := (s.adapterReconnect.seedCycle kPostResumeRetryDelay).1 }
    (s.adapterReconnect.seedCycle kPostResumeRetryDelay).2

/-! ## Power effects -/

/-- The reconnect machine is told about a system suspend or resume. -/
def notify (depth : ℕ) (s : PowerSupervisor E) : Notify → Option (PowerSupervisor E)
  | .none => some s
  | .systemSuspend => s.onReconnectEvent ports depth .systemSuspend
  | .systemResume => s.onReconnectEvent ports depth .systemResume

/-- A suspend cycle is entered and its safety timer set. A failure is fed back, which
is inert: the completion will release the lock. -/
def armSafety (s : PowerSupervisor E) (ms : ℕ) : PowerSupervisor E :=
  match ports.armOnce s.env with
  | (env, ok) =>
      { s with
        env := env
        suspendSafetyTimer := s.suspendSafetyTimer.armOnce ms ok
        powerLifecycle :=
          if ok then s.powerLifecycle else s.powerLifecycle.onSafetyTimerArmFailed.1
        entries := s.entries + 1
        armedBy := if ok then s.entries + 1 else s.armedBy }

/-- Note the request in flight as started. -/
def noteStarted (s : PowerSupervisor E) : PowerSupervisor E :=
  match s.powerLifecycle.active with
  | some request => s.note ports (.started request)
  | none => s

/-- Note the request in flight as finished, if a completion of its kind arrives. -/
def noteFinished (s : PowerSupervisor E) (kind : EventKind) : PowerSupervisor E :=
  match s.powerLifecycle.active with
  | some request => if request.kind = kind then s.note ports (.finished request) else s
  | none => s

def submitSuspendWork (onSuspendCompleted : PowerSupervisor E → Option (PowerSupervisor E))
    (s : PowerSupervisor E) : Option (PowerSupervisor E) :=
  let s := s.noteStarted ports
  match ports.suspendAsync s.env with
  | (env, true) => onSuspendCompleted { s with env := env, works := s.works + 1 }
  | (env, false) => some { s with env := env, works := s.works + 1 }

def submitResumeWork (onResumeCompleted : PowerSupervisor E → Bool → Option (PowerSupervisor E))
    (s : PowerSupervisor E) : Option (PowerSupervisor E) :=
  let s := s.noteStarted ports
  match ports.resumeAsync s.env with
  | (env, some adapterValid) =>
      onResumeCompleted { s with env := env, works := s.works + 1 } adapterValid
  | (env, none) => some { s with env := env, works := s.works + 1 }

/-- The effects of an output up to the adapter work, in the source's order: disarm,
notify, arm, lock. -/
def quietEffects (depth : ℕ) (s : PowerSupervisor E) (out : Output) :
    Option (PowerSupervisor E) :=
  let s :=
    if out.safetyTimer = .disarm then
      { s with suspendSafetyTimer := s.suspendSafetyTimer.disarm }
    else s
  (s.notify ports depth out.reconnectNotify).map fun s =>
    let s := if out.safetyTimer = .arm then s.armSafety ports out.safetyDelay else s
    if out.lock = .none then s else { s with env := ports.lock s.env out.lock }

def executeEffects (depth : ℕ) (onSuspendCompleted : PowerSupervisor E → Option (PowerSupervisor E))
    (onResumeCompleted : PowerSupervisor E → Bool → Option (PowerSupervisor E))
    (s : PowerSupervisor E) (out : Output) : Option (PowerSupervisor E) :=
  (s.quietEffects ports depth out).bind fun s =>
    match out.work with
    | .startSuspend => submitSuspendWork ports onSuspendCompleted s
    | .startResume => submitResumeWork ports onResumeCompleted s
    | .none => some s

/-- `onSuspendCompleted` over a given `applyLifecycle`. -/
def suspendCompletedWith (applyLifecycle : PowerSupervisor E → Output → Option (PowerSupervisor E))
    (s : PowerSupervisor E) : Option (PowerSupervisor E) :=
  applyLifecycle
    { s.noteFinished ports .suspend with powerLifecycle := s.powerLifecycle.onSuspendCompleted.1 }
    s.powerLifecycle.onSuspendCompleted.2

/-- `onResumeCompleted` over a given `applyLifecycle`: the next queued request is pumped
first, and only then is a reconnect cycle seeded. -/
def resumeCompletedWith (depth : ℕ)
    (applyLifecycle : PowerSupervisor E → Output → Option (PowerSupervisor E))
    (s : PowerSupervisor E) (adapterValid : Bool) : Option (PowerSupervisor E) :=
  (applyLifecycle
    { s.noteFinished ports .resume with
      powerLifecycle := (s.powerLifecycle.onResumeCompleted adapterValid).1 }
    (s.powerLifecycle.onResumeCompleted adapterValid).2).bind fun s =>
      if adapterValid then some s else s.seedReconnect ports depth

def applyLifecycle : ℕ → PowerSupervisor E → Output → Option (PowerSupervisor E)
  | 0, _, _ => none
  | depth + 1, s, out =>
      let effects := executeEffects ports depth
        (suspendCompletedWith ports (applyLifecycle depth))
        (resumeCompletedWith ports depth (applyLifecycle depth))
      (effects s out).bind fun s =>
        effects { s with powerLifecycle := s.powerLifecycle.pumpQueue.1 }
          s.powerLifecycle.pumpQueue.2

/-- A suspend or resume request reaches the supervisor. -/
def onRequested (depth : ℕ) (s : PowerSupervisor E) (request : Pending) :
    Option (PowerSupervisor E) :=
  let s := s.note ports (.requested request)
  applyLifecycle ports depth
    { s with powerLifecycle := (s.powerLifecycle.onRequested request.kind request.source).1 }
    (s.powerLifecycle.onRequested request.kind request.source).2

def onSafetyTimerFired (depth : ℕ) (s : PowerSupervisor E) : Option (PowerSupervisor E) :=
  applyLifecycle ports depth
    { s with
      suspendSafetyTimer := s.suspendSafetyTimer.consume
      powerLifecycle := s.powerLifecycle.onSafetyTimerFired.1
      firedIn :=
        if s.powerLifecycle.onSafetyTimerFired.2.safety = .fired then s.entries else s.firedIn }
    s.powerLifecycle.onSafetyTimerFired.2

/-! ## Entries and runs -/

/-- The supervisor's public functions. -/
inductive Entry
  | suspendRequested (source : Source)
  | resumeRequested (source : Source)
  | suspendCompleted
  | resumeCompleted (adapterValid : Bool)
  | safetyTimerFired
  | connectionLost
  | reconnectResult (ok : Bool)
  | reconnectRetryTimerFired
  deriving DecidableEq, Repr

def enter (depth : ℕ) (s : PowerSupervisor E) : Entry → Option (PowerSupervisor E)
  | .suspendRequested source => s.onRequested ports depth ⟨.suspend, source⟩
  | .resumeRequested source => s.onRequested ports depth ⟨.resume, source⟩
  | .suspendCompleted => suspendCompletedWith ports (applyLifecycle ports depth) s
  | .resumeCompleted adapterValid =>
      resumeCompletedWith ports depth (applyLifecycle ports depth) s adapterValid
  | .safetyTimerFired => s.onSafetyTimerFired ports depth
  | .connectionLost => s.onConnectionLost ports depth
  | .reconnectResult ok => s.onReconnectResult ports depth ok
  | .reconnectRetryTimerFired => s.onReconnectRetryTimerFired ports depth

/-- How deep an entry's calls may nest. -/
def depthBound (s : PowerSupervisor E) : ℕ := s.powerLifecycle.pending.length + 5

/-- What moves: a public function is called, in whatever environment there is by then, or
a timer expires. -/
inductive Label (E : Type u)
  | enter (entry : Entry) (env : E)
  | safetyExpire
  | retryExpire

def step (s : PowerSupervisor E) : Label E → Option (PowerSupervisor E)
  | .enter entry env => enter ports s.depthBound { s with env := env } entry
  | .safetyExpire =>
      s.suspendSafetyTimer.expire.map fun timer => { s with suspendSafetyTimer := timer }
  | .retryExpire =>
      s.reconnectRetryTimer.expire.map fun timer => { s with reconnectRetryTimer := timer }

def machine : Machine (PowerSupervisor E) (Label E) where
  step := step ports

/-- A supervisor at rest. -/
def initial (schedule : BackoffSchedule) (connectionLostDelay : ℕ) (env : E) :
    PowerSupervisor E where
  adapterReconnect := { schedule := schedule, connectionLostDelay := connectionLostDelay }
  env := env

end PowerSupervisor

end CecControl
