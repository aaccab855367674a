/-
# The composed daemon as a machine

The command dispatcher and the wire entry point, the main thread draining its
work queue, the adapter worker running one job after another, libcec's alert
thread, the two timers and shutdown, as one labelled machine. A label says which
thread moves and carries what the environment decides: the message read from a
client, the outcome of an adapter call, the time read from the clock.

Nothing is assumed about the order of labels. Timer handlers may run when their
timer has not expired, as they do when a handler earlier in the same batch has
disarmed it, and alerts may arrive at any time.
-/

import CecControl.Daemon.Rounds
import CecControl.Lib.Machine

namespace CecControl

open Lib PowerLifecycle

namespace Daemon

/-! ## The command dispatcher -/

/-- `Message(MessageType::RESP_SUCCESS)`. -/
def respSuccess : Message := ⟨.respSuccess, 0, []⟩

/-- `Message(MessageType::RESP_ERROR)`. -/
def respError : Message := ⟨.respError, 0, []⟩

/-- `StandbyPolicy::apply`: an empty payload is an error and changes nothing. -/
def applyStandby (d : Daemon) (command : Message) : Daemon × Message :=
  match command.data with
  | [] => (d, respError)
  | enabled :: _ => ({ d with standbyEnabled := enabled.toNat > 0 }, respSuccess)

/-- While suspended a command is parked for replay or turned down. -/
def handleSuspendedInline (d : Daemon) (command : Command) (spec : DispatchSpec) :
    Daemon × Message :=
  if d.queueCommandsDuringSuspend && spec.queueableWhileSuspended then
    ((d.enqueue command).emit (.accepted command true), respSuccess)
  else (d, respError)

def submitAdapterWork (d : Daemon) (command : Command) (spec : DispatchSpec) : Daemon :=
  (d.emit (.accepted command false)).submit (.live command spec)

/-- `CommandDispatcher::dispatch`, with the reply when it is made on the spot. -/
def dispatch (d : Daemon) (command : Command) : Daemon × Option Message :=
  if d.dispatcherShutdown then (d, some respError)
  else
    match findDispatchByType command.message.type with
    | none => (d, some respError)
    | some spec =>
        if spec.dispatch = .supervisorIntercepted then (d, some respError)
        else if d.suspended then
          ((d.handleSuspendedInline command spec).1,
            some (d.handleSuspendedInline command spec).2)
        else
          match spec.dispatch with
          | .stateOnly =>
              ((d.applyStandby command.message).1, some (d.applyStandby command.message).2)
          | .adapterCall => (d.submitAdapterWork command spec, none)
          | .supervisorIntercepted => (d, some respError)

/-- `CommandDispatcher::replay`: only adapter-call commands are submitted. -/
def replay (d : Daemon) : List Command → Daemon
  | [] => d
  | command :: commands =>
      match findDispatchByType command.message.type with
      | some spec =>
          if spec.dispatch = .adapterCall then (d.submit (.replay command spec)).replay commands
          else d.replay commands
      | none => d.replay commands

/-- `CECDaemon::handleCommand`: the power commands go to the supervisor, the rest
to the dispatcher. -/
def handleCommand (d : Daemon) (command : Command) : Daemon × Option Message :=
  match findDispatchByType command.message.type with
  | some spec =>
      if spec.dispatch = .supervisorIntercepted then
        match command.message.type with
        | .cmdSuspend => (d.onSuspendRequested .wire, some respSuccess)
        | .cmdResume => (d.onResumeRequested .wire, some respSuccess)
        | _ => (d, some respError)
      else d.dispatch command
  | none => d.dispatch command

/-! ## The main thread -/

/-- The request being handled is answered on the spot. -/
def answer (d : Daemon) (response : Message) : Daemon :=
  { d with requests := d.requests + 1, log := d.log ++ [.replied d.requests response] }

/-- A request read from a client. -/
def receive (d : Daemon) (message : Message) : Daemon :=
  match d.handleCommand ⟨d.requests, message⟩ with
  | (d, some response) => d.answer response
  | (d, none) => { d with requests := d.requests + 1 }

/-- Run one closure of the work queue. -/
def runPost (d : Daemon) : Post → Daemon
  | .suspendDone ticket => (d.emit (.invoked ticket)).onSuspendCompleted
  | .resumeDone ticket adapterValid =>
      ((((d.onResumeWorkerComplete adapterValid).1.emit (.invoked ticket)).replay
        (d.onResumeWorkerComplete adapterValid).2)).onResumeCompleted adapterValid
  | .reconnectDone ticket ok => (d.emit (.invoked ticket)).onReconnectResult ok
  | .reply id response => d.emit (.replied id response)
  | .connectionLost => d.onConnectionLost
  | .power .suspend => d.onSuspendRequested .dbus
  | .power .resume => d.onResumeRequested .dbus

/-- The ordered teardown: both shutdown gates, the queue discarded, the worker
told to stop and its pending jobs dropped. -/
def stop (d : Daemon) : Daemon :=
  { { d with dispatcherShutdown := true }.lifecycleStop with stopRequested := true, jobs := [] }

/-- Both gates are closed afterwards, whether or not the lifecycle's was before. -/
theorem stop_eq (d : Daemon) :
    d.stop = { d with
      dispatcherShutdown := true
      lifecycleShutdown := true
      queued := if d.lifecycleShutdown then d.queued else []
      stopRequested := true
      jobs := []
      log := d.log ++ if d.lifecycleShutdown then [] else [.shutdown] } := by
  unfold stop lifecycleStop
  dsimp only
  by_cases hshut : d.lifecycleShutdown = true
  · simp [hshut]
  · simp [hshut]

/-! ## The worker thread -/

/-- Take the next job off the queue. -/
def takeJob (d : Daemon) (job : Job) (jobs : List Job) : Daemon :=
  { d with
    jobs := jobs
    running := some ⟨job, job.body.program d.throttler, .outside⟩
    log := d.log ++ (.taken job :: job.command?.toList.map .executed) }

/-- The connected flag after an adapter call of the worker. -/
def connectedAfter (d : Daemon) (c : AdapterCall) (outcome : Outcome) : Bool :=
  match c, outcome with
  | .closeConnection, _ => false
  | .reopenConnection, .ok true => d.connected
  | .reopenConnection, _ => false
  | _, _ => d.connected

/-- Outcomes the adapter can give: a connection reading is the flag's value, and
a reopen has begun before it returns and has opened before it returns success. -/
def possibleOutcome (d : Daemon) (stage : ReopenStage) (c : AdapterCall) (outcome : Outcome) :
    Bool :=
  match c, outcome with
  | .isConnected, .ok value => value == d.connected
  | .reopenConnection, .ok true => stage == .opened
  | .reopenConnection, _ => stage != .outside
  | _, _ => true

/-- The job's program has ended: post its closure, or log the exception the
worker's loop swallows. -/
def finishJob (d : Daemon) (job : Job) (result : Except Exn (Option Post))
    (throttler : CommandThrottler) : Daemon :=
  let d := { d with running := none, throttler := throttler }
  match result with
  | .ok (some p) => d.post p
  | .ok none => d
  | .error _ => d.emit (.escaped job)

/-! ## Labels and steps -/

/-- Who moves, and what the environment answers. -/
inductive Label
  /-- A client's request is read and handled. -/
  | wire (message : Message)
  /-- logind's `PrepareForSleep` signal is dispatched. -/
  | dbusSignal (kind : EventKind)
  /-- The oldest posted closure runs. -/
  | drain
  | safetyTimer
  | retryTimer
  | safetyExpire
  | retryExpire
  | workerTake
  /-- `reopenConnection` tears the connection down. -/
  | workerReopen
  /-- `reopenConnection` has opened the adapter and set the flag. -/
  | workerOpened
  | workerCall (outcome : Outcome)
  | workerClock (time : ℕ)
  | workerSleep
  | workerFinish
  | workerExit
  /-- A connection-lost alert clears the flag, and then posts. -/
  | alertStore
  | alertPost
  | stop
  deriving Repr

/-- One step of the worker's program. -/
def workerStep (d : Daemon) (r : Running) : Label → Option Daemon
  | .workerReopen =>
      match r.rest, r.stage with
      | .call (.adapter .reopenConnection) _, .outside =>
          some { d with running := some { r with stage := .closed }, connected := false }
      | _, _ => none
  | .workerOpened =>
      match r.stage with
      | .closed => some { d with running := some { r with stage := .opened }, connected := true }
      | _ => none
  | .workerCall outcome =>
      match r.rest with
      | .call (.adapter c) next =>
          if d.possibleOutcome r.stage c outcome then
            some { d with running := some { r with rest := next outcome, stage := .outside },
                          connected := d.connectedAfter c outcome }
          else none
      | _ => none
  | .workerClock time =>
      match r.rest with
      | .call .now next => some { d with running := some { r with rest := next time } }
      | _ => none
  | .workerSleep =>
      match r.rest with
      | .call (.sleep _) next => some { d with running := some { r with rest := next () } }
      | _ => none
  | .workerFinish =>
      match r.rest with
      | .ret (result, throttler) => some (d.finishJob r.job result throttler)
      | _ => none
  | _ => none

def step (d : Daemon) : Label → Option Daemon
  | .wire message => some (d.receive message)
  | .dbusSignal kind => some (d.post (.power kind))
  | .drain =>
      match d.posts with
      | p :: posts => some (runPost { d with posts := posts } p)
      | [] => none
  | .safetyTimer => some d.onSafetyTimerFired
  | .retryTimer => some d.onReconnectRetryTimerFired
  | .safetyExpire =>
      match d.suspendSafetyTimer with
      | .armed _ => some { d with suspendSafetyTimer := .expired }
      | _ => none
  | .retryExpire =>
      match d.reconnectRetryTimer with
      | .armed _ => some { d with reconnectRetryTimer := .expired }
      | _ => none
  | .workerTake =>
      match d.running, d.jobs with
      | none, job :: jobs => if d.stopRequested then none else some (d.takeJob job jobs)
      | _, _ => none
  | .workerExit =>
      match d.running with
      | none => if d.stopRequested then some { d with connected := false } else none
      | some _ => none
  | .alertStore => some { d with connected := false, alerting := d.alerting + 1 }
  | .alertPost =>
      match d.alerting with
      | alerting + 1 => some ({ d with alerting := alerting }.post .connectionLost)
      | 0 => none
  | .stop => some d.stop
  | label =>
      match d.running with
      | some r => d.workerStep r label
      | none => none

/-- The daemon and its environment. -/
def machine : Machine Daemon Label where
  step := step

/-- What the configuration file and the kernel decide. -/
structure Setup where
  queueCommandsDuringSuspend : Bool := true
  standbyEnabled : Bool := true
  throttler : ThrottlerConfig := {}
  /-- Outcome of the `n`-th attempt to arm a timer. -/
  armOk : ℕ → Bool := fun _ => true

/-- The daemon as `CECDaemon::start` leaves it: connected, idle, nothing queued. -/
def boot (setup : Setup) : Daemon :=
  { queueCommandsDuringSuspend := setup.queueCommandsDuringSuspend
    standbyEnabled := setup.standbyEnabled
    throttler := { config := setup.throttler }
    armOk := setup.armOk }

end Daemon

end CecControl
