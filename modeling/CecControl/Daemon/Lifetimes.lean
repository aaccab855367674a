/-
# Building the daemon up and taking it down

`CECDaemon` owns a dozen parts that hold references to one another, and while they exist up to
three kinds of threads run in them: its own main thread, the two threads it creates, and those
libcec creates inside the adapter. `start` may fail between any two of its statements, and then
the members are destroyed in the reverse order of their declaration, without the ordered teardown
of `stop`, which returns at once on a daemon that has not been started.

The main thread's code is written out here as the list of what it builds, uses and destroys. The
other threads take their own steps in between. What a step may touch is what the code that is run
can reach through references; a part that is null is not touched, since the code asks first.
-/

import CecControl.Lib.Worker
import Mathlib.Logic.Function.Basic

namespace CecControl

open Lib

/-! ## Parts -/

/-- The members of `CECDaemon`, and the adapter, which `start` hands over to the worker. -/
inductive Part
  | signals
  | work
  | loop
  | suspendSafetyTimer
  | reconnectRetryTimer
  | watchdogTimer
  | hookDebounceTimer
  | standbyPolicy
  | hookExecutor
  | hooks
  | worker
  | lifecycle
  | dispatcher
  | socketServer
  | dbusMonitor
  | supervisor
  | config
  | adapter
  deriving DecidableEq, Repr

namespace Part

/-- What a part refers to, the targets of its callbacks included. The supervisor's pointer to the
monitor comes and goes. -/
def refs : Part → List Part
  | .adapter => [.work]
  | .standbyPolicy => [.work]
  | .hooks => [.hookExecutor, .hookDebounceTimer]
  | .worker => [.adapter]
  | .lifecycle => [.worker, .work]
  | .dispatcher => [.worker, .work, .lifecycle, .standbyPolicy]
  | .socketServer => [.loop]
  | .dbusMonitor => [.loop, .work]
  | .supervisor => [.dispatcher, .lifecycle, .worker, .suspendSafetyTimer, .reconnectRetryTimer]
  | .signals | .work | .loop | .suspendSafetyTimer | .reconnectRetryTimer | .watchdogTimer
  | .hookDebounceTimer | .hookExecutor | .config => []

/-- What can be reached by following that many references. -/
def within : ℕ → Part → List Part
  | 0, p => [p]
  | depth + 1, p => p :: p.refs.flatMap (within depth)

/-- Code of a part may touch whatever can be reached from it. -/
def reach (p : Part) : List Part := p.within 5

/-- What the constructor is given, and looks at. -/
def givenTo : Part → List Part
  | .adapter | .standbyPolicy | .hooks | .dispatcher => [.config]
  | _ => []

/-- What the destructor touches besides the part: both take their descriptors out of the loop. -/
def destructs : Part → List Part
  | .socketServer | .dbusMonitor => [.loop]
  | _ => []

/-- In the order of declaration. -/
def members : List Part :=
  [.signals, .work, .loop, .suspendSafetyTimer, .reconnectRetryTimer, .watchdogTimer,
    .hookDebounceTimer, .standbyPolicy, .hookExecutor, .hooks, .worker, .lifecycle, .dispatcher,
    .socketServer, .dbusMonitor, .supervisor, .config]

/-- Members that are there from the constructor on. -/
def constructed : List Part :=
  [.signals, .work, .loop, .suspendSafetyTimer, .reconnectRetryTimer, .watchdogTimer,
    .hookDebounceTimer, .config]

end Part

/-! ## Threads -/

/-- The threads the daemon creates. -/
inductive Actor
  | adapterWorker
  | hookExecutor
  deriving DecidableEq, Repr

/-- Jobs of the adapter's worker, by what they have captured. -/
inductive AdapterJob
  /-- The scan at start-up. -/
  | snapshot
  /-- Suspend, resume and reconnect. -/
  | lifecycle
  /-- Commands, live or replayed. -/
  | command
  deriving DecidableEq, Repr

def AdapterJob.uses : AdapterJob → List Part
  | .snapshot => [.adapter]
  | .lifecycle => [.adapter, .lifecycle, .work]
  | .command => [.adapter, .dispatcher, .work]

namespace Actor

/-- The part whose queue the thread works off. -/
def part : Actor → Part
  | .adapterWorker => .worker
  | .hookExecutor => .hookExecutor

def Job : Actor → Type
  | .adapterWorker => AdapterJob
  | .hookExecutor => Unit

def uses : (actor : Actor) → actor.Job → List Part
  | .adapterWorker, job => AdapterJob.uses job
  | .hookExecutor, _ => []

/-- What the thread touches after its loop: the worker closes the adapter. -/
def leaves : Actor → List Part
  | .adapterWorker => [.adapter]
  | .hookExecutor => []

end Actor

/-! ## The main thread's code -/

inductive Act
  /-- A part is constructed. -/
  | make (p : Part)
  /-- A call or a check on these parts that has to succeed. -/
  | require (parts : List Part)
  | openAdapter
  /-- `start` of a part with a thread. -/
  | spawn (actor : Actor)
  | submit (job : AdapterJob)
  /-- The end of a `submit`, and of `stop`'s critical section. -/
  | notify (actor : Actor)
  /-- `setupPowerMonitor`, which may fail without harm. -/
  | monitor
  /-- `attach`; if it fails the monitor is given up. -/
  | attach
  /-- `start` returns true, and `run` enters the loop. -/
  | enter
  /-- A method of a part inside the teardown's `try`. -/
  | call (p : Part)
  /-- The end of that `try`. -/
  | caught
  /-- `stop` of a part with a thread: the order, which a second `stop` does not repeat, -/
  | order (actor : Actor)
  /-- the wait for the thread, -/
  | join (actor : Actor)
  /-- and any part's end, if it is there. -/
  | drop (p : Part)
  deriving DecidableEq, Repr

namespace Act

/-- What `CECDaemon` is configured to do. -/
structure Options where
  scanDevicesAtStartup : Bool := true
  enablePowerMonitor : Bool := true
  watchdog : Bool := false
  deriving DecidableEq, Repr

/-- `CECDaemon::start`. -/
def start (options : Options) : List Act :=
  [.require [], .require [.signals], .require [.work],
    .require [.suspendSafetyTimer, .reconnectRetryTimer, .watchdogTimer, .hookDebounceTimer],
    .make .adapter, .require [.adapter], .openAdapter, .make .worker, .make .lifecycle,
    .make .standbyPolicy, .make .hookExecutor, .spawn .hookExecutor, .make .hooks,
    .make .dispatcher, .make .supervisor, .spawn .adapterWorker] ++
  (if options.scanDevicesAtStartup then [.submit .snapshot, .notify .adapterWorker] else []) ++
  [.make .socketServer, .require (Part.reach .socketServer)] ++
  (if options.enablePowerMonitor then [.monitor] else []) ++
  [.require [.loop, .signals], .require [.loop, .work], .require [.loop, .suspendSafetyTimer],
    .require [.loop, .reconnectRetryTimer], .require [.loop, .hookDebounceTimer], .attach] ++
  (if options.watchdog then [.require [.loop, .watchdogTimer], .require [.watchdogTimer]] else []) ++
  [.require [.work], .enter]

/-- `stop` of a part with a thread. The worker gives up its adapter last. -/
def stopActor : Actor → List Act
  | .adapterWorker =>
      [.order .adapterWorker, .notify .adapterWorker, .join .adapterWorker, .drop .adapter]
  | .hookExecutor => [.order .hookExecutor, .notify .hookExecutor, .join .hookExecutor]

/-- The destructor of a part, if it is there. -/
def destroy : Part → List Act
  | .worker => stopActor .adapterWorker ++ [.drop .worker]
  | .hookExecutor => stopActor .hookExecutor ++ [.drop .hookExecutor]
  | p => [.drop p]

/-- The members, in reverse. -/
def destructMembers : List Act := Part.members.reverse.flatMap destroy

/-- `CECDaemon::stop` on a daemon that has been started, and the end of its destructor. -/
def stop : List Act :=
  [.call .dbusMonitor, .call .socketServer, .call .dispatcher, .call .lifecycle] ++
  stopActor .adapterWorker ++ [.call .dbusMonitor, .caught] ++
  [.supervisor, .dbusMonitor, .socketServer, .dispatcher, .lifecycle, .worker, .hooks, .hookExecutor,
    .standbyPolicy].flatMap destroy ++
  destructMembers

/-- After a failed `start`. An adapter that nobody owns yet goes with the scope it was made in. -/
def unwind (alive : List Part) : List Act :=
  if .worker ∈ alive then destructMembers else .drop .adapter :: destructMembers

end Act

/-! ## The process -/

/-- Where the main thread is. -/
inductive MainPhase
  | starting
  | looping
  /-- `start` has failed. -/
  | unwinding
  | stopping
  deriving DecidableEq, Repr

structure DaemonProcess where
  alive : List Part := Part.constructed
  phase : MainPhase := .starting
  /-- What the main thread has still to do before it returns or looks at the loop. -/
  todo : List Act
  /-- The supervisor has a pointer to the monitor. -/
  monitored : Bool := false
  /-- The loop has been asked to stop. -/
  stopRequested : Bool := false
  crew : (actor : Actor) → Worker Unit actor.Job := fun _ => {}
  /-- The adapter's connected flag, and whether libcec's threads may run. -/
  connected : Bool := false
  busThreads : Bool := false

namespace DaemonProcess

/-- What a handler of the loop gets done. -/
inductive Outcome
  | nothing
  | submits (job : AdapterJob)
  | fires
  /-- A signal, or a reconnect cycle that has been given up. -/
  | stopsLoop
  deriving DecidableEq, Repr

/-- Handlers of the loop, and closures run by the drain of its work queue. -/
inductive Handler
  | signals
  | observation
  | connectionLost
  | completion
  | reply
  | power
  | suspendSystem
  | arm
  | safetyTimer
  | retryTimer
  | debounceTimer
  | bus
  | watchdog
  | socket
  deriving DecidableEq, Repr

/-- What the drain has taken out is still run after the loop has been asked to stop, and so are the
signals behind the first. -/
def Handler.goesOn : Handler → Bool
  | .signals | .observation | .connectionLost | .completion | .reply | .power | .suspendSystem
  | .arm => true
  | .safetyTimer | .retryTimer | .debounceTimer | .bus | .watchdog | .socket => false

inductive Label
  /-- The main thread goes on; what it tries may fail. -/
  | main (ok : Bool)
  | handle (handler : Handler) (outcome : Outcome)
  /-- The loop ends: asked to, because the poller has failed, or with an exception. -/
  | leave
  /-- A step of one of the daemon's own threads. -/
  | crew (actor : Actor) (label : Worker.Label Unit actor.Job)
  /-- The job that runs closes or reopens the connection, or does something else. -/
  | works (connected : Bool)
  /-- A thread of libcec calls the daemon back, to report a lost connection perhaps. -/
  | callback (lost : Bool)

variable (s : DaemonProcess)

def withCrew (actor : Actor) (worker : Worker Unit actor.Job) : DaemonProcess :=
  { s with crew := Function.update s.crew actor worker }

/-- `start` returns false. -/
def fail : DaemonProcess := { s with phase := .unwinding, todo := Act.unwind s.alive }

/-- A part is gone. The adapter takes libcec's threads with it, whether or not it was connected. -/
def dropped (p : Part) : DaemonProcess :=
  let s := { s with alive := s.alive.filter (· ≠ p) }
  if p = .adapter then { s with connected := false, busThreads := false } else s

/-- One statement, with the rest already waiting. A `join` has to wait for its thread. -/
def perform (a : Act) (ok : Bool) : Option DaemonProcess :=
  match a with
  | .make p => some (if ok then { s with alive := p :: s.alive } else s.fail)
  | .require _ => some (if ok then s else s.fail)
  | .openAdapter =>
      let s := { s with connected := ok, busThreads := true }
      some (if ok then s else s.fail)
  | .spawn actor =>
      ((s.crew actor).step (.start ok)).map fun worker =>
        if ok then s.withCrew actor worker else s.fail
  | .submit job => ((s.crew .adapterWorker).step (.submit () job)).map (s.withCrew .adapterWorker)
  | .notify actor =>
      if () ∈ (s.crew actor).notifying then
        ((s.crew actor).step (.notify ())).map (s.withCrew actor)
      else some s
  | .monitor => some (if ok then { s with alive := .dbusMonitor :: s.alive, monitored := true } else s)
  | .attach =>
      some (if ok then s else { s.dropped .dbusMonitor with monitored := false })
  | .enter => some { s with phase := .looping }
  | .call p =>
      some (if ok ∨ p ∉ s.alive then s else { s with todo := s.todo.dropWhile (· ≠ .caught) })
  | .caught => some s
  | .order actor =>
      if actor.part ∈ s.alive then
        ((s.crew actor).step (.requestStop ())).map (s.withCrew actor)
      else some s
  | .join actor =>
      if (s.crew actor).stopping.isSome then
        ((s.crew actor).step .join).map (s.withCrew actor)
      else some s
  | .drop p => some (s.dropped p)

/-- Steps a thread takes by itself. -/
def ownStep {actor : Actor} : Worker.Label Unit actor.Job → Bool
  | .look | .wake | .finish _ | .leave => true
  | _ => false

/-- The adapter is left closed by the thread; libcec's own threads stop if the flag was set. -/
def closed : DaemonProcess :=
  { s with connected := false, busThreads := s.busThreads && !s.connected }

def step : Label → Option DaemonProcess
  | .main ok =>
      match s.todo with
      | a :: rest => perform { s with todo := rest } a ok
      | [] => none
  | .handle handler outcome =>
      if s.phase = .looping ∧ s.todo = [] ∧ (s.stopRequested = true → handler.goesOn = true) ∧
          (handler = .bus → .dbusMonitor ∈ s.alive) then
        match outcome with
        | .nothing => some s
        | .submits job =>
            ((s.crew .adapterWorker).step (.submit () job)).map fun worker =>
              { s.withCrew .adapterWorker worker with todo := [.notify .adapterWorker] }
        | .fires =>
            ((s.crew .hookExecutor).step (.submit () ())).map fun worker =>
              { s.withCrew .hookExecutor worker with todo := [.notify .hookExecutor] }
        | .stopsLoop => some { s with stopRequested := true }
      else none
  | .leave =>
      if s.phase = .looping ∧ s.todo = [] then some { s with phase := .stopping, todo := Act.stop }
      else none
  | .crew actor label =>
      if ownStep label then
        ((s.crew actor).step label).map fun worker =>
          match actor, label with
          | .adapterWorker, .leave => (s.withCrew actor worker).closed
          | _, _ => s.withCrew actor worker
      else none
  | .works connected =>
      match (s.crew .adapterWorker).phase with
      | .running _ => some { s with connected := connected, busThreads := true }
      | _ => none
  | .callback lost =>
      if s.busThreads then some { s with connected := s.connected && !lost } else none

def machine : Machine DaemonProcess Label where
  step := step

/-- `CECDaemon daemon(std::move(config))`, and then `start`. -/
def boot (options : Act.Options) : DaemonProcess := { todo := Act.start options }

/-! ## What a step touches -/

/-- Through the supervisor, with its pointer. -/
def supervised : List Part :=
  Part.reach .supervisor ++ if s.monitored then Part.reach .dbusMonitor else []

def ifAlive (p : Part) (parts : List Part) : List Part := if p ∈ s.alive then parts else []

def Handler.touches (s : DaemonProcess) : Handler → List Part
  | .signals => [.signals, .loop]
  | .observation => .work :: (Part.reach .standbyPolicy ++ Part.reach .hooks)
  | .connectionLost | .completion | .power => .work :: .loop :: s.supervised
  | .reply => .work :: Part.reach .socketServer
  | .suspendSystem => .work :: s.ifAlive .dbusMonitor (Part.reach .dbusMonitor)
  | .arm => .work :: Part.reach .standbyPolicy
  | .safetyTimer | .retryTimer => .loop :: s.supervised
  | .debounceTimer => Part.reach .hooks
  | .bus => Part.reach .dbusMonitor
  | .watchdog => [.watchdogTimer]
  | .socket => Part.reach .socketServer ++ s.supervised

def actTouches : Act → List Part
  | .make p => p.refs ++ p.givenTo
  | .require parts => parts
  | .openAdapter => Part.reach .adapter
  | .spawn actor => [actor.part]
  | .submit _ => [.worker]
  | .notify actor => if () ∈ (s.crew actor).notifying then [actor.part] else []
  | .monitor => [.supervisor, .work]
  | .attach => s.ifAlive .dbusMonitor (.supervisor :: Part.reach .dbusMonitor)
  | .enter | .caught => []
  | .call p => s.ifAlive p p.reach
  | .order actor => s.ifAlive actor.part [actor.part]
  | .join actor => if (s.crew actor).stopping.isSome then [actor.part] else []
  | .drop p => s.ifAlive p (p :: p.destructs)

/-- The parts that the step looks at. -/
def touches : Label → List Part
  | .main _ => (s.todo.head?.map s.actTouches).getD []
  | .handle handler outcome =>
      handler.touches s ++
        match outcome with
        | .nothing => []
        | .submits _ => [.worker]
        | .fires => [.hookExecutor]
        | .stopsLoop => [.loop]
  | .leave => [.loop]
  | .crew actor label =>
      actor.part ::
        match label with
        | .leave => actor.leaves
        | .finish _ => (s.crew actor).phase.current.toList.flatMap actor.uses
        | _ => []
  | .works _ =>
      .worker :: (s.crew .adapterWorker).phase.current.toList.flatMap (Actor.uses .adapterWorker)
  | .callback _ => Part.reach .adapter

end DaemonProcess

end CecControl
