/-
# The system bus monitor

The monitor holds a connection to the system bus, a match on logind's sleep signal, and
a delay inhibitor that keeps the system from sleeping before the adapter is closed. The
connection may be lost at any time. It is then torn down, and a timer drives attempts to
set it up again, first along a schedule and then at a slow heartbeat.

sd-bus and the event loop are outside: what they answer is part of each label. The bus
is processed in a loop of its own, in the middle of which callbacks run, and a callback
may call the monitor; so that loop is taken one pass at a time, and `phase` says where
the main thread is in it. Wherever the source calls `processBus` it goes on with
`updateLoopRegistration` and is then done, so this is all that has to be remembered.
-/

import CecControl.Common.EventLoop
import CecControl.Common.Timers
import CecControl.Lib.Machine
import Mathlib.Data.Int.Notation

namespace CecControl

open Lib

/-- A connection: its descriptor does not change while it is open. -/
structure SdBus where
  fd : ℕ
  deriving DecidableEq, Repr

inductive BusState
  | operational
  | reconnecting
  | disabled
  deriving DecidableEq, Repr

/-- Where the main thread is. -/
inductive BusPhase
  /-- Between handlers. -/
  | idle
  /-- In the loop of `processBus`. -/
  | processing
  /-- In the power-state callback, called from that loop. -/
  | inCallback
  deriving DecidableEq, Repr

/-- What happens to the connection. -/
inductive BusEvent
  | disconnected
  /-- The reconnect timer is set. -/
  | armed (ms : ℕ)
  | attempted (succeeded : Bool)
  /-- The schedule is used up. -/
  | disabled
  deriving DecidableEq, Repr

/-- Milliseconds of `kHeartbeatInterval`. -/
def kHeartbeatInterval : ℕ := 1800000

/-- The delays of `m_reconnectSchedule`. -/
def kReconnectDelays : List ℕ := [2000, 10000, 30000, 60000]

structure DBusMonitor where
  bus : Option SdBus := none
  signalSlot : Bool := false
  /-- The number of the Inhibit request in flight. -/
  inhibitSlot : Option ℕ := none
  inhibitFd : Option ℕ := none
  /-- `m_loop` is set. -/
  attached : Bool := false
  registeredBusFd : Option ℕ := none
  registeredMask : EventMask := .none
  /-- Carries sd-bus's own deadline. -/
  timer : TimerSource := .disarmed
  reconnectTimer : TimerSource := .disarmed
  state : BusState := .operational
  reconnectSchedule : BackoffSchedule := { delays := kReconnectDelays }
  currentAttemptNumber : ℕ := 0
  phase : BusPhase := .idle
  /-- Descriptors of connections the loop watches. -/
  loopFds : List ℕ := []
  /-- The loop has seen the reconnect timer expired and is about to call its handler. -/
  reported : Bool := false
  /-- Duplicates of inhibitor descriptors that are open. -/
  openFds : List ℕ := []
  /-- Inhibit requests issued so far; they are numbered in this order. -/
  requests : ℕ := 0
  /-- The request whose answer was installed last. -/
  holder : ℕ := 0
  /-- How many requests had been issued when `releaseInhibitLock` last returned. -/
  lastRelease : ℕ := 0
  log : List BusEvent := []

namespace DBusMonitor

/-! ## Registration with the loop -/

/-- What sd-bus and the system answer when the registration is brought up to date. -/
structure Update where
  fdOk : Bool := true
  pollin : Bool := true
  pollout : Bool := false
  addOk : Bool := true
  modifyOk : Bool := true
  /-- The deadline `sd_bus_get_timeout` gives, unless it fails. -/
  timeout : Option UInt64 := some 0xffffffffffffffff
  /-- Seconds and nanoseconds on the monotonic clock, unless reading it fails. -/
  clock : Option (UInt64 × UInt64) := some (0, 0)
  timerOk : Bool := true
  reconnectTimerOk : Bool := true
  deriving DecidableEq, Repr

/-- Milliseconds until a deadline, or −1 if there is none. -/
def relativeFromAbsoluteUs (absUs : UInt64) (clock : Option (UInt64 × UInt64)) : ℤ :=
  if absUs = 0xffffffffffffffff then -1
  else
    match clock with
    | none => 0
    | some (sec, nsec) =>
        let nowUs := sec * 1000000 + nsec / 1000
        if absUs ≤ nowUs then 0
        else
          let deltaUs := absUs - nowUs
          let deltaMs := deltaUs / 1000 + if deltaUs % 1000 ≠ 0 then 1 else 0
          (min deltaMs 2147483647).toNat

def pollToEventMask (pollin pollout : Bool) : EventMask where
  read := pollin
  write := pollout

def releaseInhibitLock (m : DBusMonitor) : DBusMonitor :=
  match m.inhibitFd with
  | none => { m with lastRelease := m.requests }
  | some fd =>
      { m with inhibitFd := none, openFds := m.openFds.erase fd, lastRelease := m.requests }

@[simp]
theorem releaseInhibitLock_inhibitFd (m : DBusMonitor) : m.releaseInhibitLock.inhibitFd = none := by
  unfold releaseInhibitLock
  split
  · assumption
  · rfl

@[simp]
theorem releaseInhibitLock_loopFds (m : DBusMonitor) : m.releaseInhibitLock.loopFds = m.loopFds := by
  unfold releaseInhibitLock
  split <;> rfl

/-- Dropping a slot cancels its request. -/
def tearDownBusState (m : DBusMonitor) : DBusMonitor :=
  { m with inhibitSlot := none, signalSlot := false, bus := none }

/-- Take the descriptor of the connection out of the loop. -/
def unregister (m : DBusMonitor) : DBusMonitor :=
  match m.registeredBusFd with
  | none => m
  | some fd =>
      if m.attached then { m with loopFds := m.loopFds.erase fd, registeredBusFd := none } else m

/-- Draw the first delay of the schedule and set the timer for it. -/
def scheduleFirst (m : DBusMonitor) (armOk : Bool) : DBusMonitor :=
  match m.reconnectSchedule.nextDelay with
  | (none, schedule) => { m with reconnectSchedule := schedule, state := .disabled }
  | (some attempt, schedule) =>
      if armOk then
        { m with
          reconnectSchedule := schedule
          reconnectTimer := m.reconnectTimer.armOnce attempt.delay true
          currentAttemptNumber := attempt.index
          log := m.log ++ [.armed attempt.delay] }
      else { m with reconnectSchedule := schedule, state := .disabled }

def handleBusDisconnect (m : DBusMonitor) (armOk : Bool) : DBusMonitor :=
  if m.state ≠ .operational then m
  else
    let m := m.releaseInhibitLock.unregister
    let m := { m with registeredMask := .none, timer := m.timer.disarm }
    let m := m.tearDownBusState
    scheduleFirst { m with
      state := .reconnecting
      reconnectSchedule := m.reconnectSchedule.reset
      currentAttemptNumber := 0
      log := m.log ++ [.disconnected] } armOk

/-- Set the timer to sd-bus's deadline. -/
def updateTimer (m : DBusMonitor) (u : Update) : DBusMonitor :=
  match u.timeout with
  | none => { m with timer := m.timer.disarm }
  | some absUs =>
      let relMs := relativeFromAbsoluteUs absUs u.clock
      if relMs < 0 then { m with timer := m.timer.disarm }
      else { m with timer := m.timer.armOnce relMs.toNat u.timerOk }

def updateLoopRegistration (m : DBusMonitor) (u : Update) : DBusMonitor :=
  if m.state ≠ .operational ∨ m.attached = false then m
  else
    match m.bus with
    | none => m
    | some bus =>
        if u.fdOk = false then m.handleBusDisconnect u.reconnectTimerOk
        else
          let mask := pollToEventMask u.pollin u.pollout
          if m.registeredBusFd ≠ some bus.fd then
            let m := m.unregister
            if u.addOk then
              updateTimer { m with
                registeredBusFd := some bus.fd
                registeredMask := mask
                loopFds := m.loopFds ++ [bus.fd] } u
            else { m with registeredBusFd := none, registeredMask := mask }
          else if mask ≠ m.registeredMask ∧ u.modifyOk then
            updateTimer { m with registeredMask := mask } u
          else m.updateTimer u

/-! ## The inhibitor -/

/-- An answer to an Inhibit request: an error, something that cannot be read, or a descriptor,
of which a duplicate is made unless that fails. -/
inductive InhibitReply
  | error
  | unreadable
  | descriptor (dup : Option ℕ)
  deriving DecidableEq, Repr

/-- A duplicate of the descriptor answered to a request is kept. -/
def install (m : DBusMonitor) (request : ℕ) : Option ℕ → DBusMonitor
  | none => { m with inhibitFd := none }
  | some fd => { m with inhibitFd := some fd, openFds := m.openFds ++ [fd], holder := request }

/-- The monitor after the call, and what it returns. Before `attach` the request is answered on
the spot, by `reply`. -/
def takeInhibitLock (m : DBusMonitor) (callOk : Bool) (u : Update) (reply : InhibitReply) :
    DBusMonitor × Bool :=
  match m.bus with
  | none => (m, false)
  | some _ =>
      if m.inhibitFd.isSome then (m, true)
      else if m.inhibitSlot.isSome then (m, true)
      else if m.attached then
        if callOk then
          (updateLoopRegistration
            { m with inhibitSlot := some m.requests, requests := m.requests + 1 } u, true)
        else (m, false)
      else
        match reply with
        | .descriptor dup =>
            (install { m with requests := m.requests + 1 } m.requests dup, dup.isSome)
        | _ => ({ m with requests := m.requests + 1 }, false)

/-- The answer to the request in flight. A descriptor still held is closed first. -/
def onInhibitReply (m : DBusMonitor) (request : ℕ) (reply : InhibitReply) : DBusMonitor :=
  let m := { m with inhibitSlot := none }
  match reply with
  | .descriptor dup =>
      match m.inhibitFd with
      | none => m.install request dup
      | some fd =>
          install { m with inhibitFd := none, openFds := m.openFds.erase fd } request dup
  | _ => m

def suspendSystem (m : DBusMonitor) (callOk : Bool) (u : Update) : DBusMonitor × Bool :=
  match m.bus with
  | none => (m, false)
  | some _ => if callOk then (m.updateLoopRegistration u, true) else (m, false)

/-! ## Processing the bus -/

/-- What one `sd_bus_process` comes to. -/
inductive Pass
  | inhibitReply (reply : InhibitReply)
  /-- A sleep signal; `readOk` says whether its argument could be read. -/
  | prepareForSleep (readOk : Bool)
  /-- Anything else, the answer to a Suspend request included. -/
  | other
  | nothing
  | failed (isOpen : Bool)
  deriving DecidableEq, Repr

/-- Enter the loop, or go on with what follows it. -/
def processBus (m : DBusMonitor) (u : Update) : DBusMonitor :=
  if m.state ≠ .operational ∨ m.bus = none then m.updateLoopRegistration u
  else { m with phase := .processing }

/-- The loop is left, and the handler is done. -/
def leaveLoop (m : DBusMonitor) (u : Update) : DBusMonitor :=
  { m.updateLoopRegistration u with phase := .idle }

/-- One pass of the loop; `none` if sd-bus cannot dispatch this. A connection torn down by a
callback is a null pointer, which sd-bus refuses. -/
def pass (m : DBusMonitor) (u : Update) (outcome : Pass) : Option DBusMonitor :=
  match m.bus with
  | none => some ((m.handleBusDisconnect u.reconnectTimerOk).leaveLoop u)
  | some _ =>
      match outcome with
      | .inhibitReply reply => m.inhibitSlot.map fun request => m.onInhibitReply request reply
      | .prepareForSleep true => some { m with phase := .inCallback }
      | .prepareForSleep false => some m
      | .other => some m
      | .nothing => some (m.leaveLoop u)
      | .failed true => some (m.leaveLoop u)
      | .failed false => some ((m.handleBusDisconnect u.reconnectTimerOk).leaveLoop u)

/-! ## Reconnecting -/

/-- What is answered in an attempt to reconnect. -/
structure AttemptAnswers where
  /-- The descriptor of the new connection, if there is one. -/
  connect : Option ℕ
  matchOk : Bool := true
  callOk : Bool := true
  fdOk : Bool := true
  pollin : Bool := true
  pollout : Bool := false
  addOk : Bool := true
  reconnectTimerOk : Bool := true
  deriving DecidableEq, Repr

def reconnectBus (m : DBusMonitor) (answers : AttemptAnswers) : DBusMonitor × Bool :=
  match answers.connect with
  | none => ({ m with bus := none }, false)
  | some fd =>
      let m := { m with bus := some ⟨fd⟩ }
      if answers.matchOk then
        -- Not operational yet, so the registration is left alone.
        ((takeInhibitLock { m with signalSlot := true } answers.callOk {} .error).1, true)
      else (m, false)

def registerBusWithLoop (m : DBusMonitor) (answers : AttemptAnswers) : DBusMonitor × Bool :=
  match m.bus with
  | none => (m, false)
  | some bus =>
      if m.attached = false then (m, false)
      else if answers.fdOk = false then (m, false)
      else if answers.addOk then
        ({ m with
            registeredBusFd := some bus.fd
            registeredMask := pollToEventMask answers.pollin answers.pollout
            loopFds := m.loopFds ++ [bus.fd] }, true)
      else ({ m with registeredBusFd := none, registeredMask := .none }, false)

/-- The drain that follows a success is left to the loop of `processBus`. -/
def attemptReconnect (m : DBusMonitor) (answers : AttemptAnswers) : DBusMonitor × Bool :=
  let reconnected := m.reconnectBus answers
  let registered :=
    if reconnected.2 then reconnected.1.registerBusWithLoop answers else (reconnected.1, false)
  if registered.2 then
    (processBus { registered.1 with
      state := .operational
      reconnectSchedule := registered.1.reconnectSchedule.reset
      currentAttemptNumber := 0
      log := registered.1.log ++ [.attempted true] } {}, true)
  else
    let m := registered.1.tearDownBusState
    ({ m with log := m.log ++ [.attempted false] }, false)

def armHeartbeat (m : DBusMonitor) (armOk : Bool) : DBusMonitor :=
  if armOk then
    { m with
      reconnectTimer := m.reconnectTimer.armOnce kHeartbeatInterval true
      log := m.log ++ [.armed kHeartbeatInterval] }
  else m

/-- After a failed scheduled attempt: the next one, or the heartbeat. -/
def scheduleNext (m : DBusMonitor) (armOk : Bool) : DBusMonitor :=
  match m.reconnectSchedule.nextDelay with
  | (none, schedule) =>
      armHeartbeat
        { m with reconnectSchedule := schedule, state := .disabled, log := m.log ++ [.disabled] }
        armOk
  | (some attempt, schedule) =>
      if armOk then
        { m with
          reconnectSchedule := schedule
          reconnectTimer := m.reconnectTimer.armOnce attempt.delay true
          currentAttemptNumber := attempt.index
          log := m.log ++ [.armed attempt.delay] }
      else { m with reconnectSchedule := schedule, state := .disabled }

def onReconnectTimer (m : DBusMonitor) (answers : AttemptAnswers) : DBusMonitor :=
  let m := { m with reconnectTimer := m.reconnectTimer.consume }
  match m.state with
  | .operational => m
  | .reconnecting =>
      let attempted := m.attemptReconnect answers
      if attempted.2 then attempted.1 else attempted.1.scheduleNext answers.reconnectTimerOk
  | .disabled =>
      let attempted := m.attemptReconnect answers
      if attempted.2 then attempted.1 else attempted.1.armHeartbeat answers.reconnectTimerOk

/-! ## Setting up and tearing down -/

/-- What is answered while the monitor is set up and attached. -/
structure SetupAnswers where
  connect : Option ℕ
  matchOk : Bool := true
  inhibit : InhibitReply := .error
  timersValid : Bool := true
  fdOk : Bool := true
  pollin : Bool := true
  pollout : Bool := false
  addBusOk : Bool := true
  addTimerOk : Bool := true
  addReconnectTimerOk : Bool := true
  deriving DecidableEq, Repr

/-- `initialize`; `none` if it returns false. -/
def initializeMonitor (m : DBusMonitor) (answers : SetupAnswers) : Option DBusMonitor :=
  match answers.connect with
  | none => none
  | some fd =>
      if answers.matchOk then
        some (takeInhibitLock { m with bus := some ⟨fd⟩, signalSlot := true } true {}
          answers.inhibit).1
      else none

/-- `none` if it returns false; the drain at the end is left to the loop of `processBus`. -/
def attach (m : DBusMonitor) (answers : SetupAnswers) : Option DBusMonitor :=
  match m.bus with
  | none => none
  | some bus =>
      if m.attached ∨ answers.timersValid = false ∨ answers.fdOk = false then none
      else if answers.addBusOk ∧ answers.addTimerOk ∧ answers.addReconnectTimerOk then
        some (processBus { m with
          attached := true
          registeredBusFd := some bus.fd
          registeredMask := pollToEventMask answers.pollin answers.pollout
          loopFds := m.loopFds ++ [bus.fd] } {})
      else none

/-- A monitor with the given schedule, set up and attached. -/
def started (delays : List ℕ) (answers : SetupAnswers) : Option DBusMonitor :=
  (initializeMonitor { reconnectSchedule := { delays } } answers).bind fun m => m.attach answers

def detach (m : DBusMonitor) : DBusMonitor :=
  if m.attached then { m.unregister with attached := false } else m

def stop (m : DBusMonitor) : DBusMonitor :=
  if m.bus = none ∧ m.inhibitFd = none ∧ m.state = .operational then m
  else
    let m := m.releaseInhibitLock
    let m := { m with timer := m.timer.disarm, reconnectTimer := m.reconnectTimer.disarm }
    let m := m.tearDownBusState
    { m with
      state := .operational
      reconnectSchedule := m.reconnectSchedule.reset
      currentAttemptNumber := 0 }

/-! ## Runs -/

inductive Label
  | take (callOk : Bool) (u : Update)
  | release
  | suspendSystem (callOk : Bool) (u : Update)
  | busReadable (u : Update)
  | timerExpires
  | timerFires (u : Update)
  /-- The next `sd_bus_process`. -/
  | process (outcome : Pass) (u : Update)
  | callbackReturns
  | reconnectTimerExpires
  /-- The loop sees that the reconnect timer has expired. -/
  | reconnectTimerReported
  | reconnectTimerFires (answers : AttemptAnswers)
  deriving Repr

/-- The main thread runs code other than the monitor's own: it is between handlers or in the
callback. -/
def mayCall (m : DBusMonitor) : Bool := m.phase != .processing

def step (m : DBusMonitor) : Label → Option DBusMonitor
  | .take callOk u => if m.mayCall then some (m.takeInhibitLock callOk u .error).1 else none
  | .release => if m.mayCall then some m.releaseInhibitLock else none
  | .suspendSystem callOk u => if m.mayCall then some (m.suspendSystem callOk u).1 else none
  | .busReadable u => if m.phase = .idle then some (m.processBus u) else none
  | .timerExpires => m.timer.expire.map fun timer => { m with timer }
  | .timerFires u =>
      if m.phase = .idle then some (processBus { m with timer := m.timer.consume } u) else none
  | .process outcome u => if m.phase = .processing then m.pass u outcome else none
  | .callbackReturns => if m.phase = .inCallback then some { m with phase := .processing } else none
  | .reconnectTimerExpires => m.reconnectTimer.expire.map fun reconnectTimer =>
      { m with reconnectTimer }
  | .reconnectTimerReported =>
      if m.phase = .idle ∧ m.reconnectTimer = .expired then some { m with reported := true }
      else none
  | .reconnectTimerFires answers =>
      if m.phase = .idle ∧ m.reported then
        some (onReconnectTimer { m with reported := false } answers)
      else none

def machine : Machine DBusMonitor Label where
  step := step

end DBusMonitor

end CecControl
