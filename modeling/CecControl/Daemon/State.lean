/-
# The daemon's shared state

The two pure state machines of the power supervisor, the adapter lifecycle with
its suspend queue, the command dispatcher, the adapter worker with its FIFO of
jobs, and the main-thread work queue, in one record. Main-thread code runs to
completion between two events, so each of its entry points is a function on this
record; the worker and libcec's alert thread move in between.

A job is kept with the program it still has to run, so that an alert, a request
or a shutdown can fall between any two of its adapter calls. Completions are
identified by the number of the asynchronous call they belong to, replies by the
number of the wire request; both, and the log of what has happened, are there to
be talked about and are never read by the code.
-/

import CecControl.Daemon.CommandDispatch
import CecControl.Power.PowerLifecycle
import CecControl.Power.AdapterReconnect

namespace CecControl

open Lib WorkerM

/-- A wire command under the number of the request that carried it. -/
structure Command where
  id : ℕ
  message : Message
  deriving DecidableEq, Repr

/-- Work closures posted to the main thread. -/
inductive Post
  | suspendDone (ticket : ℕ)
  | resumeDone (ticket : ℕ) (adapterValid : Bool)
  | reconnectDone (ticket : ℕ) (ok : Bool)
  | reply (id : ℕ) (response : Message)
  | connectionLost
  | power (kind : PowerLifecycle.EventKind)
  deriving DecidableEq, Repr

/-- Jobs of the adapter worker: the three lifecycle jobs, a command submitted by
live dispatch, and a command replayed after a resume. -/
inductive Job
  | suspend (ticket : ℕ)
  | resume (ticket : ℕ)
  | reconnect (ticket : ℕ)
  | live (command : Command) (spec : DispatchSpec)
  | replay (command : Command) (spec : DispatchSpec)
  deriving DecidableEq, Repr

namespace Job

/-- The job of `suspendAsync`. Only the broadcast standby is guarded. -/
def suspendBody (ticket : ℕ) : WorkerM (Option Post) := do
  if ← adapter .isConnected then
    catchStd (do let _ ← adapter (.standbyDevices cecDeviceBroadcast)) (pure ())
  let _ ← adapter .closeConnection
  return some (.suspendDone ticket)

/-- The job of `resumeAsync`. The validity reported is a fresh reading of the
connection, not the reopen's own result. -/
def resumeBody (ticket : ℕ) : WorkerM (Option Post) := do
  let reconnected ← adapter .reopenConnection
  if reconnected then
    catchStd (do let _ ← adapter (.powerOnDevices cecDeviceBroadcast)) (pure ())
  let adapterValid ← adapter .isConnected
  return some (.resumeDone ticket adapterValid)

/-- The job of `reconnectAsync`. -/
def reconnectBody (ticket : ℕ) : WorkerM (Option Post) := do
  let ok ← adapter .reopenConnection
  return some (.reconnectDone ticket ok)

/-- What a job runs, and the closure it posts at its end. A replay posts
nothing. -/
def body : Job → WorkerM (Option Post)
  | .suspend ticket => suspendBody ticket
  | .resume ticket => resumeBody ticket
  | .reconnect ticket => reconnectBody ticket
  | .live command spec => do
      let response ← executeOnAdapter command.message spec
      return some (.reply command.id response)
  | .replay command spec => do
      let _ ← executeOnAdapter command.message spec
      return none

/-- The command a job executes on the adapter. -/
def command? : Job → Option Command
  | .live command _ => some command
  | .replay command _ => some command
  | _ => none

end Job

/-- The closures a job can post at its end. -/
def Job.Completes : Job → Option Post → Prop
  | .suspend ticket, result => result = some (.suspendDone ticket)
  | .resume ticket, result => ∃ adapterValid, result = some (.resumeDone ticket adapterValid)
  | .reconnect ticket, result => ∃ ok, result = some (.reconnectDone ticket ok)
  | .live command _, result => ∃ response, result = some (.reply command.id response)
  | .replay _ _, result => result = none

/-- A job that ends without an exception posts its own closure. -/
theorem Job.returns_body (job : Job) : Returns job.Completes job.body := by
  cases job with
  | suspend ticket =>
      refine Returns.bind fun _ => ?_
      split
      · exact Returns.bind fun _ => Returns.bind fun _ => returns_pure rfl
      · exact Returns.bind fun _ => returns_pure rfl
  | resume ticket =>
      refine Returns.bind fun _ => ?_
      split
      · exact Returns.bind fun _ => Returns.bind fun _ => returns_pure ⟨_, rfl⟩
      · exact Returns.bind fun _ => returns_pure ⟨_, rfl⟩
  | reconnect ticket => exact Returns.bind fun _ => returns_pure ⟨_, rfl⟩
  | live command spec => exact Returns.bind fun _ => returns_pure ⟨_, rfl⟩
  | replay command spec => exact Returns.bind fun _ => returns_pure rfl

/-- How far `reopenConnection` has got: not called, torn down with the connected
flag cleared, or opened with the flag set and yet to return. -/
inductive ReopenStage
  | outside
  | closed
  | opened
  deriving DecidableEq, Repr

/-- The rest of a job's program. -/
abbrev JobProgram := Program Op Op.Ans (Except Exn (Option Post) × CommandThrottler)

/-- The job the worker thread is executing. -/
structure Running where
  job : Job
  rest : JobProgram
  stage : ReopenStage := .outside

/-- What the log records. -/
inductive Effect
  /-- A suspend or resume request reached the supervisor. -/
  | requested (request : PowerLifecycle.Pending)
  | started (request : PowerLifecycle.Pending)
  | finished (request : PowerLifecycle.Pending)
  | lock (op : PowerLifecycle.Lock)
  /-- A command was submitted live, or parked for replay with a success reply. -/
  | accepted (command : Command) (parked : Bool)
  | executed (command : Command)
  /-- The resume work completed and the suspend queue was drained. -/
  | resumed (adapterValid : Bool)
  | shutdown
  | taken (job : Job)
  /-- A job ended in an exception and posted nothing. -/
  | escaped (job : Job)
  | issued (ticket : ℕ)
  | invoked (ticket : ℕ)
  | replied (id : ℕ) (response : Message)
  /-- A reconnect attempt was turned down because the adapter is suspended. -/
  | refused (ticket : ℕ)
  | abandoned (suspended shutdown : Bool)
  deriving DecidableEq, Repr

/-- The daemon. -/
structure Daemon where
  -- power supervisor
  powerLifecycle : PowerLifecycle := {}
  adapterReconnect : AdapterReconnect :=
    { schedule := { delays := [5000, 10000, 20000] }, connectionLostDelay := 1500 }
  suspendSafetyTimer : TimerSource := .disarmed
  reconnectRetryTimer : TimerSource := .disarmed
  /-- Outcome of the `n`-th `armOnce`, and how many there have been. -/
  armOk : ℕ → Bool := fun _ => true
  arms : ℕ := 0
  /-- The exit status latched by an abandoned reconnect cycle. -/
  unrecoverable : Bool := false
  -- adapter lifecycle and its suspend queue
  lifecycleShutdown : Bool := false
  suspended : Bool := false
  queued : List Command := []
  tickets : ℕ := 0
  -- command dispatcher
  dispatcherShutdown : Bool := false
  queueCommandsDuringSuspend : Bool := true
  standbyEnabled : Bool := true
  throttler : CommandThrottler := {}
  requests : ℕ := 0
  -- adapter worker
  jobs : List Job := []
  running : Option Running := none
  stopRequested : Bool := false
  -- adapter flag, and alert callbacks between clearing it and posting
  connected : Bool := true
  alerting : ℕ := 0
  -- main-thread work
  posts : List Post := []
  log : List Effect := []

namespace Daemon

@[simp]
def emit (d : Daemon) (e : Effect) : Daemon := { d with log := d.log ++ [e] }

/-- `MainThreadWork::post`. -/
@[simp]
def post (d : Daemon) (p : Post) : Daemon := { d with posts := d.posts ++ [p] }

/-- `AdapterWorker::submit`: refused once a stop has been requested. -/
@[simp]
def submit (d : Daemon) (job : Job) : Daemon :=
  { d with jobs := if d.stopRequested then d.jobs else d.jobs ++ [job] }

/-- `TimerSource::armOnce` on the suspend-safety timer, with its outcome. -/
@[simp]
def armSafety (d : Daemon) (ms : ℕ) : Daemon × Bool :=
  ({ d with suspendSafetyTimer := d.suspendSafetyTimer.armOnce ms (d.armOk d.arms),
            arms := d.arms + 1 },
    d.armOk d.arms)

/-- `TimerSource::armOnce` on the reconnect-retry timer, with its outcome. -/
@[simp]
def armRetry (d : Daemon) (ms : ℕ) : Daemon × Bool :=
  ({ d with reconnectRetryTimer := d.reconnectRetryTimer.armOnce ms (d.armOk d.arms),
            arms := d.arms + 1 },
    d.armOk d.arms)

/-! ## The adapter lifecycle

The asynchronous calls answer whether their callback has to run at once, and
with what; otherwise it runs when the job's closure is drained. -/

/-- The number of a new asynchronous call. -/
@[simp]
def issue (d : Daemon) : Daemon :=
  { d with tickets := d.tickets + 1 }.emit (.issued d.tickets)

def suspendAsync (d : Daemon) : Daemon × Bool :=
  let ticket := d.tickets
  let d := d.issue
  if d.lifecycleShutdown then (d.emit (.invoked ticket), true)
  else if d.suspended then (d.emit (.invoked ticket), true)
  else ({ d with suspended := true }.submit (.suspend ticket), false)

def resumeAsync (d : Daemon) : Daemon × Bool :=
  let ticket := d.tickets
  let d := d.issue
  if d.lifecycleShutdown then (d.emit (.invoked ticket), true)
  else if !d.suspended then (d.emit (.invoked ticket), true)
  else (d.submit (.resume ticket), false)

def reconnectAsync (d : Daemon) : Daemon × Option Bool :=
  let ticket := d.tickets
  let d := d.issue
  if d.lifecycleShutdown then (d.emit (.invoked ticket), some false)
  else if d.suspended then ((d.emit (.refused ticket)).emit (.invoked ticket), some false)
  else if d.connected then (d.emit (.invoked ticket), some true)
  else (d.submit (.reconnect ticket), none)

/-- An attempt is answered within the call, which only the log and the tickets show, or becomes a
job. -/
theorem reconnectAsync_cases (d : Daemon) :
    ((d.lifecycleShutdown = true ∨ d.suspended = true ∨ d.connected = true) ∧
      ∃ ok more, (more = [.issued d.tickets, .invoked d.tickets] ∨
          more = [.issued d.tickets, .refused d.tickets, .invoked d.tickets]) ∧
        d.reconnectAsync =
          ({ d with tickets := d.tickets + 1, log := d.log ++ more }, some ok)) ∨
      d.lifecycleShutdown = false ∧ d.suspended = false ∧ d.connected = false ∧
        d.reconnectAsync = (d.issue.submit (.reconnect d.tickets), none) := by
  cases hshut : d.lifecycleShutdown with
  | true =>
      refine Or.inl ⟨Or.inl rfl, false, _, Or.inl rfl, ?_⟩
      simp [reconnectAsync, issue, hshut]
  | false =>
      cases hsuspended : d.suspended with
      | true =>
          refine Or.inl ⟨Or.inr (Or.inl rfl), false, _, Or.inr rfl, ?_⟩
          simp [reconnectAsync, issue, hshut, hsuspended]
      | false =>
          cases hconnected : d.connected with
          | true =>
              refine Or.inl ⟨Or.inr (Or.inr rfl), true, _, Or.inl rfl, ?_⟩
              simp [reconnectAsync, issue, hshut, hsuspended, hconnected]
          | false =>
              refine Or.inr ⟨rfl, rfl, rfl, ?_⟩
              simp [reconnectAsync, issue, hshut, hsuspended, hconnected]

/-- `AdapterLifecycle::enqueue`: the queue repeats the suspended check. -/
@[simp]
def enqueue (d : Daemon) (command : Command) : Daemon :=
  { d with queued := if d.suspended then d.queued ++ [command] else d.queued }

/-- Drain the queue and leave suspension; what was queued is handed on only if
the adapter is back. -/
def onResumeWorkerComplete (d : Daemon) (adapterValid : Bool) : Daemon × List Command :=
  let drained := d.queued
  let d := { d with queued := [], suspended := false }.emit (.resumed adapterValid)
  if !adapterValid then (d, []) else (d, drained)

/-- `AdapterLifecycle::shutdown`: idempotent, discards the queue. -/
def lifecycleStop (d : Daemon) : Daemon :=
  if d.lifecycleShutdown then d
  else { d with lifecycleShutdown := true, queued := [] }.emit .shutdown

end Daemon

end CecControl
