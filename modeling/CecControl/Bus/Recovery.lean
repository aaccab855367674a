/-
# Recovering the connection to the bus

The monitor is either connected, with its descriptor watched by the loop and the
reconnect timer idle, or waiting, with everything torn down and the timer set. There is
no third state, wherever a loss is noticed: in a drain, in a callback run from a drain,
in a call that brings the registration up to date, in the drain right after a successful
attempt.

`outage` is the history of one outage: what has happened between a loss and the moment
when so many attempts have failed. The monitor's log is always a sequence of outages
that have each ended in a successful attempt, and possibly one more that is still going
on.
-/

import CecControl.Bus.DBusMonitor
import Mathlib.Logic.Basic

namespace CecControl

open Lib

namespace DBusMonitor

/-! ## What the monitor is for -/

/-- A connection that is watched, and no attempt is due. -/
structure Connected (m : DBusMonitor) : Prop where
  operational : m.state = .operational
  watched : ∃ bus, m.bus = some bus ∧ m.registeredBusFd = some bus.fd ∧ m.loopFds = [bus.fd]
  idle : m.reconnectTimer = .disarmed

/-- Nothing is left of the connection, and an attempt is due. -/
structure Waiting (m : DBusMonitor) : Prop where
  down : m.state ≠ .operational
  bus : m.bus = none
  signalSlot : m.signalSlot = false
  inhibitSlot : m.inhibitSlot = none
  registeredBusFd : m.registeredBusFd = none
  loopFds : m.loopFds = []
  inhibitFd : m.inhibitFd = none
  armed : m.reconnectTimer ≠ .disarmed

/-- How the timer is set when so many attempts have failed: along the schedule, and for the
heartbeat once the schedule is used up. -/
def arming (delays : List ℕ) (failed : ℕ) : List BusEvent :=
  match delays[failed]? with
  | some delay => [.armed delay]
  | none =>
      if failed = delays.length then [.disabled, .armed kHeartbeatInterval]
      else [.armed kHeartbeatInterval]

/-- An outage in which so many attempts have failed. -/
def outage (delays : List ℕ) : ℕ → List BusEvent
  | 0 => .disconnected :: arming delays 0
  | failed + 1 => outage delays failed ++ .attempted false :: arming delays (failed + 1)

/-- A sequence of outages, each ended by a successful attempt. -/
inductive Recovered (delays : List ℕ) : List BusEvent → Prop
  | start : Recovered delays []
  | recover {past : List BusEvent} (failed : ℕ) (h : Recovered delays past) :
      Recovered delays (past ++ outage delays failed ++ [.attempted true])

/-- With two delays: two scheduled attempts, and then the heartbeat. -/
example : outage [2000, 10000] 3 =
    [.disconnected, .armed 2000, .attempted false, .armed 10000, .attempted false, .disabled,
      .armed kHeartbeatInterval, .attempted false, .armed kHeartbeatInterval] := by decide

/-- As long as the schedule lasts, each failure is followed by the next of its delays. -/
theorem outage_of_le {delays : List ℕ} {failed : ℕ} (hle : failed ≤ delays.length) :
    outage delays failed =
      .disconnected :: ((delays.take failed).flatMap fun delay => [.armed delay, .attempted false]) ++
        arming delays failed := by
  induction failed with
  | zero => simp [outage]
  | succ failed ih =>
      have hlt : failed < delays.length := hle
      have harmed : arming delays failed = [.armed delays[failed]] := by simp [arming, hlt]
      rw [outage, ih (Nat.le_of_lt hlt), harmed, List.take_succ_eq_append_getElem hlt,
        List.flatMap_append]
      simp

/-- Before it is disabled the monitor has made exactly the scheduled attempts, in their order. -/
theorem outage_length (delays : List ℕ) :
    outage delays delays.length =
      .disconnected :: (delays.flatMap fun delay => [.armed delay, .attempted false]) ++
        [.disabled, .armed kHeartbeatInterval] := by
  simp [outage_of_le (Nat.le_refl delays.length), arming]

/-! ## The invariant -/

structure Up (delays : List ℕ) (m : DBusMonitor) : Prop where
  attached : m.attached = true
  schedule : m.reconnectSchedule.delays = delays
  connected : Connected m
  reported : m.reported = false
  recovered : Recovered delays m.log

structure Down (delays : List ℕ) (m : DBusMonitor) (past : List BusEvent) (failed : ℕ) : Prop where
  attached : m.attached = true
  schedule : m.reconnectSchedule.delays = delays
  waiting : Waiting m
  recovered : Recovered delays past
  log : m.log = past ++ outage delays failed
  state : m.state = if failed < delays.length then .reconnecting else .disabled
  position : m.reconnectSchedule.attempt = min (failed + 1) delays.length
  timer : m.reconnectTimer = .armed (delays.getD failed kHeartbeatInterval) ∨
    m.reconnectTimer = .expired
  reported : m.reported = true → m.reconnectTimer = .expired

/-- The monitor is connected, or waits in an outage. -/
def Sound (delays : List ℕ) (m : DBusMonitor) : Prop :=
  Up delays m ∨ ∃ past failed, Down delays m past failed

variable {delays : List ℕ} {m m' : DBusMonitor} {past : List BusEvent} {failed : ℕ}

/-- What `Up` is about. -/
def connection (m : DBusMonitor) :=
  (m.attached, m.reconnectSchedule, m.state, m.bus, m.registeredBusFd, m.loopFds,
    m.reconnectTimer, m.reported, m.log)

theorem Up.congr (h : Up delays m) (heq : m'.connection = m.connection) : Up delays m' := by
  simp only [connection, Prod.mk.injEq] at heq
  obtain ⟨hattached, hschedule, hstate, hbus, hfd, hloop, htimer, hreported, hlog⟩ := heq
  constructor
  · rw [hattached, h.attached]
  · rw [hschedule, h.schedule]
  · constructor
    · rw [hstate, h.connected.operational]
    · rw [hbus, hfd, hloop]
      exact h.connected.watched
    · rw [htimer, h.connected.idle]
  · rw [hreported, h.reported]
  · rw [hlog]
    exact h.recovered

/-- What else `Down` is about. -/
def inhibitor (m : DBusMonitor) := (m.signalSlot, m.inhibitSlot, m.inhibitFd)

theorem Down.congr (h : Down delays m past failed) (heq : m'.connection = m.connection)
    (hinhibitor : m'.inhibitor = m.inhibitor) : Down delays m' past failed := by
  simp only [connection, inhibitor, Prod.mk.injEq] at heq hinhibitor
  obtain ⟨hattached, hschedule, hstate, hbus, hfd, hloop, htimer, hreported, hlog⟩ := heq
  obtain ⟨hsignal, hslot, hinhibit⟩ := hinhibitor
  have hwaiting := h.waiting
  constructor
  · rw [hattached, h.attached]
  · rw [hschedule, h.schedule]
  · constructor
    · rw [hstate]
      exact hwaiting.down
    · rw [hbus, hwaiting.bus]
    · rw [hsignal, hwaiting.signalSlot]
    · rw [hslot, hwaiting.inhibitSlot]
    · rw [hfd, hwaiting.registeredBusFd]
    · rw [hloop, hwaiting.loopFds]
    · rw [hinhibit, hwaiting.inhibitFd]
    · rw [htimer]
      exact hwaiting.armed
  · exact h.recovered
  · rw [hlog, h.log]
  · rw [hstate, h.state]
  · rw [hschedule, h.position]
  · rw [htimer]
    exact h.timer
  · rw [hreported, htimer]
    exact h.reported

theorem Sound.congr (h : Sound delays m) (heq : m'.connection = m.connection)
    (hinhibitor : m'.inhibitor = m.inhibitor) : Sound delays m' := by
  rcases h with hup | ⟨past, failed, hdown⟩
  · exact Or.inl (hup.congr heq)
  · exact Or.inr ⟨past, failed, hdown.congr heq hinhibitor⟩

/-! ## A loss -/

theorem connection_releaseInhibitLock (m : DBusMonitor) :
    m.releaseInhibitLock.connection = m.connection := by
  unfold releaseInhibitLock
  split <;> rfl

/-- A connected monitor takes its descriptor out of the loop. -/
theorem Up.unregister (h : Up delays m) :
    m.unregister = { m with loopFds := [], registeredBusFd := none } := by
  obtain ⟨bus, _, hfd, hloop⟩ := h.connected.watched
  simp [DBusMonitor.unregister, hfd, hloop, h.attached]

/-- The first delay is drawn when the connection is lost. -/
theorem nextDelay_reset (schedule : BackoffSchedule) (hdelays : schedule.delays ≠ []) :
    ∃ delay rest, schedule.delays = delay :: rest ∧
      schedule.reset.nextDelay =
        (some ⟨delay, 1, schedule.delays.length⟩, { schedule with attempt := 1 }) := by
  obtain ⟨delay, rest, heq⟩ := List.exists_cons_of_ne_nil hdelays
  refine ⟨delay, rest, heq, ?_⟩
  simp [BackoffSchedule.nextDelay, BackoffSchedule.reset, heq]

/-- A loss opens an outage. -/
theorem Up.handleBusDisconnect (h : Up delays m) (hdelays : delays ≠ []) :
    Down delays (m.handleBusDisconnect true) m.log 0 := by
  have hreleased := h.congr (connection_releaseInhibitLock m)
  have hrecovered := h.recovered
  have hlog : m.releaseInhibitLock.log = m.log := by
    have := connection_releaseInhibitLock m
    simp_all [connection]
  obtain ⟨delay, rest, hschedule, hnext⟩ :=
    nextDelay_reset m.releaseInhibitLock.reconnectSchedule
      (by rw [hreleased.schedule]; exact hdelays)
  have hcons : delays = delay :: rest := hreleased.schedule.symm.trans hschedule
  have hdown : m.handleBusDisconnect true =
      { m.releaseInhibitLock with
        loopFds := []
        registeredBusFd := none
        registeredMask := .none
        timer := .disarmed
        inhibitSlot := none
        signalSlot := false
        bus := none
        state := .reconnecting
        reconnectSchedule := { m.releaseInhibitLock.reconnectSchedule with attempt := 1 }
        reconnectTimer := .armed delay
        currentAttemptNumber := 1
        log := m.log ++ [.disconnected, .armed delay] } := by
    simp [DBusMonitor.handleBusDisconnect, h.connected.operational, hreleased.unregister,
      tearDownBusState, scheduleFirst, hnext, hlog, TimerSource.armOnce]
  rw [hdown]
  constructor
  · exact hreleased.attached
  · exact hreleased.schedule
  · constructor <;> simp
  · exact hrecovered
  · simp [outage, arming, hcons]
  · simp [hcons]
  · simp [hcons]
  · simp [hcons]
  · intro hreported
    exact absurd hreported (by simp [hreleased.reported])

theorem Sound.handleBusDisconnect (h : Sound delays m) (hdelays : delays ≠ []) :
    Sound delays (m.handleBusDisconnect true) := by
  rcases h with hup | ⟨past, failed, hdown⟩
  · exact Or.inr ⟨m.log, 0, hup.handleBusDisconnect hdelays⟩
  · have hsame : m.handleBusDisconnect true = m := by
      simp [DBusMonitor.handleBusDisconnect, hdown.waiting.down]
    rw [hsame]
    exact Or.inr ⟨past, failed, hdown⟩

/-! ## The registration -/

theorem connection_updateTimer (m : DBusMonitor) (u : Update) :
    (m.updateTimer u).connection = m.connection := by
  simp only [updateTimer]
  split
  · rfl
  · split_ifs <;> rfl

theorem Down.updateLoopRegistration (h : Down delays m past failed) (u : Update) :
    m.updateLoopRegistration u = m := by
  simp [DBusMonitor.updateLoopRegistration, h.waiting.down]

/-- Bringing the registration up to date either finds the connection lost or leaves it. -/
theorem Up.updateLoopRegistration (h : Up delays m) (u : Update) :
    m.updateLoopRegistration u = m.handleBusDisconnect u.reconnectTimerOk ∨
      (m.updateLoopRegistration u).connection = m.connection := by
  obtain ⟨bus, hbus, hfd, _⟩ := h.connected.watched
  simp only [DBusMonitor.updateLoopRegistration, h.connected.operational, h.attached, hbus, hfd]
  simp only [ne_eq, not_true_eq_false, Bool.true_eq_false, or_self, if_false]
  split_ifs
  · exact Or.inl rfl
  · right
    rw [connection_updateTimer]
    simp [connection, h.attached, h.connected.operational, hbus, hfd]
  · exact Or.inr (connection_updateTimer m u)

theorem Sound.updateLoopRegistration (h : Sound delays m) (hdelays : delays ≠ []) {u : Update}
    (hu : u.reconnectTimerOk = true) : Sound delays (m.updateLoopRegistration u) := by
  rcases h with hup | ⟨past, failed, hdown⟩
  · rcases hup.updateLoopRegistration u with hlost | hkept
    · rw [hlost, hu]
      exact Sound.handleBusDisconnect (Or.inl hup) hdelays
    · exact Or.inl (hup.congr hkept)
  · rw [hdown.updateLoopRegistration u]
    exact Or.inr ⟨past, failed, hdown⟩

/-! ## Calls and the drain -/

theorem Sound.releaseInhibitLock (h : Sound delays m) : Sound delays m.releaseInhibitLock := by
  rcases h with hup | ⟨past, failed, hdown⟩
  · exact Or.inl (hup.congr (connection_releaseInhibitLock m))
  · refine Or.inr ⟨past, failed, hdown.congr (connection_releaseInhibitLock m) ?_⟩
    simp [DBusMonitor.releaseInhibitLock, inhibitor, hdown.waiting.inhibitFd]

theorem Sound.takeInhibitLock (h : Sound delays m) (hdelays : delays ≠ []) {callOk : Bool}
    {u : Update} (hu : u.reconnectTimerOk = true) :
    Sound delays (m.takeInhibitLock callOk u .error).1 := by
  rcases h with hup | ⟨past, failed, hdown⟩
  · obtain ⟨bus, hbus, _⟩ := hup.connected.watched
    simp only [DBusMonitor.takeInhibitLock, hbus, hup.attached, if_true]
    split_ifs
    · exact Or.inl hup
    · exact Or.inl hup
    · apply Sound.updateLoopRegistration _ hdelays hu
      apply Or.inl
      apply hup.congr
      simp [connection, hbus, hup.attached]
    · exact Or.inl hup
  · simp only [DBusMonitor.takeInhibitLock, hdown.waiting.bus]
    exact Or.inr ⟨past, failed, hdown⟩

theorem Sound.suspendSystem (h : Sound delays m) (hdelays : delays ≠ []) {callOk : Bool}
    {u : Update} (hu : u.reconnectTimerOk = true) :
    Sound delays (m.suspendSystem callOk u).1 := by
  unfold DBusMonitor.suspendSystem
  split
  · exact h
  · split_ifs
    · exact h.updateLoopRegistration hdelays hu
    · exact h

theorem Sound.processBus (h : Sound delays m) (hdelays : delays ≠ []) {u : Update}
    (hu : u.reconnectTimerOk = true) : Sound delays (m.processBus u) := by
  unfold DBusMonitor.processBus
  split_ifs
  · exact h.updateLoopRegistration hdelays hu
  · exact h.congr rfl rfl

theorem Sound.leaveLoop (h : Sound delays m) (hdelays : delays ≠ []) {u : Update}
    (hu : u.reconnectTimerOk = true) : Sound delays (m.leaveLoop u) :=
  (h.updateLoopRegistration hdelays hu).congr rfl rfl

theorem connection_onInhibitReply (m : DBusMonitor) (request : ℕ) (reply : InhibitReply) :
    (m.onInhibitReply request reply).connection = m.connection := by
  simp only [onInhibitReply]
  split
  · next dup => cases dup <;> split <;> rfl
  · rfl

theorem Sound.pass (h : Sound delays m) (hdelays : delays ≠ []) {u : Update}
    (hu : u.reconnectTimerOk = true) {outcome : Pass} (hpass : m.pass u outcome = some m') :
    Sound delays m' := by
  have hlost := (h.handleBusDisconnect hdelays).leaveLoop hdelays hu
  have hleft := h.leaveLoop hdelays hu
  unfold DBusMonitor.pass at hpass
  rw [hu] at hpass
  split at hpass
  · exact Option.some.inj hpass ▸ hlost
  · next bus hbus =>
      cases outcome with
      | inhibitReply reply =>
          obtain ⟨request, _, rfl⟩ := Option.map_eq_some_iff.mp hpass
          -- A monitor that waits has no connection to dispatch an answer.
          rcases h with hup | ⟨past, failed, hdown⟩
          · exact Or.inl (hup.congr (connection_onInhibitReply m request reply))
          · exact absurd hdown.waiting.bus (by simp [hbus])
      | prepareForSleep readOk =>
          cases readOk with
          | true => exact Option.some.inj hpass ▸ h.congr rfl rfl
          | false => exact Option.some.inj hpass ▸ h
      | other => exact Option.some.inj hpass ▸ h
      | nothing => exact Option.some.inj hpass ▸ hleft
      | failed isOpen =>
          cases isOpen with
          | true => exact Option.some.inj hpass ▸ hleft
          | false => exact Option.some.inj hpass ▸ hlost

/-! ## An attempt -/

/-- Nothing is left of a connection. -/
structure TornDown (m : DBusMonitor) : Prop where
  attached : m.attached = true
  down : m.state ≠ .operational
  bus : m.bus = none
  signalSlot : m.signalSlot = false
  inhibitSlot : m.inhibitSlot = none
  registeredBusFd : m.registeredBusFd = none
  loopFds : m.loopFds = []
  inhibitFd : m.inhibitFd = none

/-- What an attempt does not change, whatever comes of it. -/
def outlook (m : DBusMonitor) :=
  (m.attached, m.reconnectSchedule.delays, m.reconnectTimer, m.reported)

/-- A failed attempt leaves nothing behind, wherever it fails. -/
structure AttemptFailed (m m' : DBusMonitor) : Prop where
  tornDown : TornDown m'
  outlook : m'.outlook = m.outlook
  schedule : m'.reconnectSchedule = m.reconnectSchedule
  state : m'.state = m.state
  log : m'.log = m.log ++ [.attempted false]

structure AttemptSucceeded (m m' : DBusMonitor) : Prop where
  operational : m'.state = .operational
  watched : ∃ bus, m'.bus = some bus ∧ m'.registeredBusFd = some bus.fd ∧ m'.loopFds = [bus.fd]
  outlook : m'.outlook = m.outlook
  log : m'.log = m.log ++ [.attempted true]

/-- While the monitor is not operational, a request is scheduled and nothing else happens. -/
theorem takeInhibitLock_of_tornDown (h : TornDown m) (bus : SdBus) (callOk : Bool) :
    (takeInhibitLock { m with bus := some bus, signalSlot := true } callOk {} .error).1 =
      { m with
        bus := some bus
        signalSlot := true
        inhibitSlot := if callOk then some m.requests else none
        requests := if callOk then m.requests + 1 else m.requests } := by
  cases callOk with
  | true =>
      simp [takeInhibitLock, h.inhibitFd, h.inhibitSlot, h.attached,
        DBusMonitor.updateLoopRegistration, h.down]
  | false => simp [takeInhibitLock, h.inhibitFd, h.inhibitSlot, h.attached]

/-- How far an attempt has come that fails: there may be a connection, but it is not watched. -/
structure HalfBuilt (m m' : DBusMonitor) : Prop where
  outlook : m'.outlook = m.outlook
  schedule : m'.reconnectSchedule = m.reconnectSchedule
  state : m'.state = m.state
  log : m'.log = m.log
  registeredBusFd : m'.registeredBusFd = none
  loopFds : m'.loopFds = []
  inhibitFd : m'.inhibitFd = none

/-- Whatever half of a connection there was is taken down. -/
theorem HalfBuilt.attemptFailed (h : HalfBuilt m m') (htornDown : TornDown m) :
    AttemptFailed m { m'.tearDownBusState with
      log := m'.tearDownBusState.log ++ [.attempted false] } where
  tornDown := by
    have hattached : m'.attached = m.attached := congrArg Prod.fst h.outlook
    exact ⟨hattached.trans htornDown.attached, h.state ▸ htornDown.down, rfl, rfl, rfl,
      h.registeredBusFd, h.loopFds, h.inhibitFd⟩
  outlook := h.outlook
  schedule := h.schedule
  state := h.state
  log := by rw [← h.log]; rfl

theorem reconnectBus_of_tornDown (h : TornDown m) {answers : AttemptAnswers} {fd : ℕ}
    (hconnect : answers.connect = some fd) (hmatch : answers.matchOk = true) :
    m.reconnectBus answers =
      ({ m with
          bus := some ⟨fd⟩
          signalSlot := true
          inhibitSlot := if answers.callOk then some m.requests else none
          requests := if answers.callOk then m.requests + 1 else m.requests }, true) := by
  simp only [reconnectBus, hconnect, hmatch, if_true]
  rw [takeInhibitLock_of_tornDown h]

/-- What registering comes to: the new connection is watched, or it is not and nothing else. -/
theorem registerBusWithLoop_cases (hattached : m.attached = true) {bus : SdBus}
    (hbus : m.bus = some bus) (hfd : m.registeredBusFd = none) (answers : AttemptAnswers) :
    (∃ registeredMask, m.registerBusWithLoop answers =
        ({ m with
            registeredBusFd := some bus.fd
            registeredMask
            loopFds := m.loopFds ++ [bus.fd] }, true)) ∨
      ∃ registeredMask, m.registerBusWithLoop answers = ({ m with registeredMask }, false) := by
  simp only [registerBusWithLoop, hbus, hattached]
  cases answers.fdOk with
  | false => exact Or.inr ⟨m.registeredMask, by cases m; simp_all⟩
  | true =>
      cases answers.addOk with
      | false => exact Or.inr ⟨.none, by cases m; simp_all⟩
      | true =>
          exact Or.inl ⟨pollToEventMask answers.pollin answers.pollout, by cases m; simp_all⟩

theorem attemptReconnect_cases (h : TornDown m) (answers : AttemptAnswers) :
    ((m.attemptReconnect answers).2 = true ∧ AttemptSucceeded m (m.attemptReconnect answers).1) ∨
      ((m.attemptReconnect answers).2 = false ∧
        AttemptFailed m (m.attemptReconnect answers).1) := by
  cases hconnect : answers.connect with
  | none =>
      right
      simp only [attemptReconnect, reconnectBus, hconnect]
      refine ⟨rfl, HalfBuilt.attemptFailed ?_ h⟩
      exact ⟨rfl, rfl, rfl, rfl, h.registeredBusFd, h.loopFds, h.inhibitFd⟩
  | some fd =>
      cases hmatch : answers.matchOk with
      | false =>
          right
          simp only [attemptReconnect, reconnectBus, hconnect, hmatch]
          refine ⟨rfl, HalfBuilt.attemptFailed ?_ h⟩
          exact ⟨rfl, rfl, rfl, rfl, h.registeredBusFd, h.loopFds, h.inhibitFd⟩
      | true =>
          have hreconnected := reconnectBus_of_tornDown h hconnect hmatch
          have hattached : (m.reconnectBus answers).1.attached = true := by
            rw [hreconnected]
            exact h.attached
          have hbus : (m.reconnectBus answers).1.bus = some ⟨fd⟩ := by rw [hreconnected]
          have hfd : (m.reconnectBus answers).1.registeredBusFd = none := by
            rw [hreconnected]
            exact h.registeredBusFd
          rcases registerBusWithLoop_cases hattached hbus hfd answers with
            ⟨registeredMask, hregistered⟩ | ⟨registeredMask, hregistered⟩
          · left
            rw [hreconnected] at hregistered
            simp only [attemptReconnect, hreconnected, if_true, hregistered]
            refine ⟨trivial, rfl, ⟨⟨fd⟩, rfl, rfl, ?_⟩, rfl, rfl⟩
            simp [processBus, h.loopFds]
          · right
            rw [hreconnected] at hregistered
            simp only [attemptReconnect, hreconnected, if_true, hregistered]
            refine ⟨rfl, HalfBuilt.attemptFailed ?_ h⟩
            exact ⟨rfl, rfl, rfl, rfl, h.registeredBusFd, h.loopFds, h.inhibitFd⟩

/-! ## The reconnect timer -/

/-- An attempt has failed and the timer has yet to be set again. -/
structure Unarmed (delays : List ℕ) (m : DBusMonitor) (past : List BusEvent) (failed : ℕ) :
    Prop where
  tornDown : TornDown m
  schedule : m.reconnectSchedule.delays = delays
  position : m.reconnectSchedule.attempt = min (failed + 1) delays.length
  idle : m.reconnectTimer = .disarmed
  reported : m.reported = false
  recovered : Recovered delays past
  log : m.log = past ++ outage delays failed ++ [.attempted false]
  state : m.state = if failed < delays.length then .reconnecting else .disabled

/-- Setting the timer goes on with the outage. -/
theorem Unarmed.arm (h : Unarmed delays m past failed) (schedule : BackoffSchedule)
    (state : BusState) (number : ℕ)
    (hschedule : schedule.delays = delays)
    (hposition : schedule.attempt = min (failed + 2) delays.length)
    (hstate : state = if failed + 1 < delays.length then .reconnecting else .disabled) :
    Down delays { m with
      reconnectSchedule := schedule
      state := state
      reconnectTimer := .armed (delays.getD (failed + 1) kHeartbeatInterval)
      currentAttemptNumber := number
      log := m.log ++ arming delays (failed + 1) } past (failed + 1) where
  attached := h.tornDown.attached
  schedule := hschedule
  waiting := by
    have hdown : state ≠ .operational := by
      rw [hstate]
      split_ifs <;> simp
    have htornDown := h.tornDown
    exact ⟨hdown, htornDown.bus, htornDown.signalSlot, htornDown.inhibitSlot,
      htornDown.registeredBusFd, htornDown.loopFds, htornDown.inhibitFd, by simp⟩
  recovered := h.recovered
  log := by simp [h.log, outage]
  state := hstate
  position := hposition
  timer := Or.inl rfl
  reported := by simp [h.reported]

theorem Unarmed.scheduleNext (h : Unarmed delays m past failed) (hlt : failed < delays.length) :
    Down delays (m.scheduleNext true) past (failed + 1) := by
  have hposition : m.reconnectSchedule.attempt = failed + 1 := by
    rw [h.position]
    omega
  cases hdelay : delays[failed + 1]? with
  | some delay =>
      obtain ⟨hnext, rfl⟩ := List.getElem?_eq_some_iff.mp hdelay
      have harmed := h.arm { m.reconnectSchedule with attempt := failed + 2 } m.state (failed + 2)
        h.schedule (by simp; omega) (by simp [h.state, hlt, hnext])
      simpa [DBusMonitor.scheduleNext, BackoffSchedule.nextDelay, h.schedule, hposition, hdelay,
        TimerSource.armOnce, arming, hnext, List.getD_eq_getElem?_getD] using harmed
  | none =>
      have hlast : failed + 1 = delays.length := by
        have := List.getElem?_eq_none_iff.mp hdelay
        omega
      have harmed := h.arm m.reconnectSchedule .disabled m.currentAttemptNumber
        h.schedule (by rw [hposition]; omega) (by simp [hlast])
      simpa [DBusMonitor.scheduleNext, BackoffSchedule.nextDelay, h.schedule, hposition, hdelay,
        DBusMonitor.armHeartbeat, TimerSource.armOnce, arming, hlast,
        List.getD_eq_getElem?_getD] using harmed

theorem Unarmed.armHeartbeat (h : Unarmed delays m past failed) (hge : ¬ failed < delays.length) :
    Down delays (m.armHeartbeat true) past (failed + 1) := by
  have hnone : delays[failed + 1]? = none := List.getElem?_eq_none_iff.mpr (by omega)
  have harmed := h.arm m.reconnectSchedule m.state m.currentAttemptNumber
    h.schedule (by rw [h.position]; omega) (by rw [h.state]; simp [hge]; omega)
  have hpast : failed + 1 ≠ delays.length := by omega
  simpa [DBusMonitor.armHeartbeat, TimerSource.armOnce, arming, hnone, hpast,
    List.getD_eq_getElem?_getD] using harmed

theorem onReconnectTimer_of_down (hdown : m.state ≠ .operational) (answers : AttemptAnswers) :
    m.onReconnectTimer answers =
      let attempted :=
        attemptReconnect { m with reconnectTimer := m.reconnectTimer.consume } answers
      if attempted.2 then attempted.1
      else if m.state = .reconnecting then attempted.1.scheduleNext answers.reconnectTimerOk
      else attempted.1.armHeartbeat answers.reconnectTimerOk := by
  unfold onReconnectTimer
  cases hstate : m.state with
  | operational => exact absurd hstate hdown
  | reconnecting => simp only [if_true]
  | disabled => simp only [reduceCtorEq, if_false]

/-- The attempt a timer was set for either ends the outage or adds a failure to it. -/
theorem Down.onReconnectTimer (h : Down delays m past failed) (hreported : m.reported = true)
    {answers : AttemptAnswers} (harm : answers.reconnectTimerOk = true) :
    Sound delays (DBusMonitor.onReconnectTimer { m with reported := false } answers) := by
  have hwaiting := h.waiting
  have htornDown : TornDown { m with reported := false, reconnectTimer := .disarmed } :=
    ⟨h.attached, hwaiting.down, hwaiting.bus, hwaiting.signalSlot, hwaiting.inhibitSlot,
      hwaiting.registeredBusFd, hwaiting.loopFds, hwaiting.inhibitFd⟩
  rw [onReconnectTimer_of_down (m := { m with reported := false }) hwaiting.down]
  simp only [h.reported hreported, TimerSource.consume, harm]
  rcases attemptReconnect_cases htornDown answers with ⟨hok, hsucceeded⟩ | ⟨hok, hfailed⟩
  · rw [if_pos hok]
    have houtlook := hsucceeded.outlook
    simp only [outlook, Prod.mk.injEq] at houtlook
    obtain ⟨hattached, hschedule, htimer, hquiet⟩ := houtlook
    refine Or.inl ⟨hattached.trans h.attached, hschedule.trans h.schedule,
      ⟨hsucceeded.operational, hsucceeded.watched, htimer⟩, hquiet, ?_⟩
    rw [hsucceeded.log, h.log]
    exact h.recovered.recover failed
  · rw [if_neg (by simp [hok])]
    have houtlook := hfailed.outlook
    simp only [outlook, Prod.mk.injEq] at houtlook
    obtain ⟨_, hschedule, htimer, hquiet⟩ := houtlook
    have hunarmed : Unarmed delays
        (attemptReconnect { m with reported := false, reconnectTimer := .disarmed } answers).1
        past failed := by
      refine ⟨hfailed.tornDown, hschedule.trans h.schedule, ?_, htimer, hquiet, h.recovered, ?_,
        hfailed.state.trans h.state⟩
      · rw [hfailed.schedule]
        exact h.position
      · rw [hfailed.log, h.log]
    apply Or.inr
    by_cases hlt : failed < delays.length
    · rw [if_pos (by rw [h.state, if_pos hlt])]
      exact ⟨past, failed + 1, hunarmed.scheduleNext hlt⟩
    · rw [if_neg (by rw [h.state, if_neg hlt]; simp)]
      exact ⟨past, failed + 1, hunarmed.armHeartbeat hlt⟩

/-! ## Runs -/

/-- Setting the reconnect timer succeeds, should it be tried. -/
def Label.timerSet : Label → Bool
  | .take _ u => u.reconnectTimerOk
  | .suspendSystem _ u => u.reconnectTimerOk
  | .busReadable u => u.reconnectTimerOk
  | .timerFires u => u.reconnectTimerOk
  | .process _ u => u.reconnectTimerOk
  | .reconnectTimerFires answers => answers.reconnectTimerOk
  | _ => true

theorem Sound.step (h : Sound delays m) (hdelays : delays ≠ []) {label : Label}
    (hset : label.timerSet = true) (hstep : machine.step m label = some m') : Sound delays m' := by
  change DBusMonitor.step m label = some m' at hstep
  cases label with
  | take callOk u =>
      simp only [DBusMonitor.step] at hstep
      split_ifs at hstep
      exact Option.some.inj hstep ▸ h.takeInhibitLock hdelays hset
  | release =>
      simp only [DBusMonitor.step] at hstep
      split_ifs at hstep
      exact Option.some.inj hstep ▸ h.releaseInhibitLock
  | suspendSystem callOk u =>
      simp only [DBusMonitor.step] at hstep
      split_ifs at hstep
      exact Option.some.inj hstep ▸ h.suspendSystem hdelays hset
  | busReadable u =>
      simp only [DBusMonitor.step] at hstep
      split_ifs at hstep
      exact Option.some.inj hstep ▸ h.processBus hdelays hset
  | timerExpires =>
      obtain ⟨timer, _, rfl⟩ := Option.map_eq_some_iff.mp hstep
      exact h.congr rfl rfl
  | timerFires u =>
      simp only [DBusMonitor.step] at hstep
      split_ifs at hstep
      have hread : Sound delays { m with timer := m.timer.consume } := h.congr rfl rfl
      exact Option.some.inj hstep ▸ hread.processBus hdelays hset
  | process outcome u =>
      simp only [DBusMonitor.step] at hstep
      split_ifs at hstep
      exact h.pass hdelays hset hstep
  | callbackReturns =>
      simp only [DBusMonitor.step] at hstep
      split_ifs at hstep
      exact Option.some.inj hstep ▸ h.congr rfl rfl
  | reconnectTimerExpires =>
      obtain ⟨reconnectTimer, hexpire, rfl⟩ := Option.map_eq_some_iff.mp hstep
      rcases h with hup | ⟨past, failed, hdown⟩
      · exact absurd hexpire (by simp [hup.connected.idle, TimerSource.expire])
      · have hexpired : reconnectTimer = .expired := by
          cases htimer : m.reconnectTimer <;> simp_all [TimerSource.expire]
        subst hexpired
        have hwaiting := hdown.waiting
        refine Or.inr ⟨past, failed, hdown.attached, hdown.schedule, ?_, hdown.recovered, hdown.log,
          hdown.state, hdown.position, Or.inr rfl, fun _ => rfl⟩
        exact ⟨hwaiting.down, hwaiting.bus, hwaiting.signalSlot, hwaiting.inhibitSlot,
          hwaiting.registeredBusFd, hwaiting.loopFds, hwaiting.inhibitFd, by simp⟩
  | reconnectTimerReported =>
      simp only [DBusMonitor.step] at hstep
      split_ifs at hstep with hexpired
      obtain rfl := Option.some.inj hstep
      rcases h with hup | ⟨past, failed, hdown⟩
      · exact absurd hexpired.2 (by simp [hup.connected.idle])
      · have hwaiting := hdown.waiting
        refine Or.inr ⟨past, failed, hdown.attached, hdown.schedule, ?_, hdown.recovered, hdown.log,
          hdown.state, hdown.position, hdown.timer, fun _ => hexpired.2⟩
        exact ⟨hwaiting.down, hwaiting.bus, hwaiting.signalSlot, hwaiting.inhibitSlot,
          hwaiting.registeredBusFd, hwaiting.loopFds, hwaiting.inhibitFd, hwaiting.armed⟩
  | reconnectTimerFires answers =>
      simp only [DBusMonitor.step] at hstep
      split_ifs at hstep with hreported
      rcases h with hup | ⟨past, failed, hdown⟩
      · exact absurd hreported.2 (by simp [hup.reported])
      · exact Option.some.inj hstep ▸ hdown.onReconnectTimer hreported.2 hset

/-- The first inhibitor is taken without touching the connection. -/
theorem connection_takeInhibitLock (hdetached : m.attached = false) (callOk : Bool) (u : Update)
    (reply : InhibitReply) : (m.takeInhibitLock callOk u reply).1.connection = m.connection := by
  unfold DBusMonitor.takeInhibitLock
  split
  · rfl
  · simp only [hdetached, Bool.false_eq_true, if_false]
    split_ifs
    · rfl
    · rfl
    · cases reply with
      | descriptor dup => cases dup <;> simp [connection, install, hdetached]
      | error | unreadable => simp [connection, hdetached]

/-- An attached monitor is connected. -/
theorem up_of_started {answers : SetupAnswers} (h : started delays answers = some m) :
    Up delays m := by
  obtain ⟨fresh, hinitialized, hattach⟩ := Option.bind_eq_some_iff.mp h
  unfold initializeMonitor at hinitialized
  split at hinitialized
  · cases hinitialized
  · next fd _ =>
      split_ifs at hinitialized
      have hfresh := connection_takeInhibitLock (m :=
        { bus := some ⟨fd⟩, signalSlot := true, reconnectSchedule := { delays } }) rfl true {}
        answers.inhibit
      rw [Option.some.inj hinitialized] at hfresh
      simp only [connection, Prod.mk.injEq] at hfresh
      obtain ⟨_, hschedule, hstate, hbus, _, hloop, htimer, hreported, hlog⟩ := hfresh
      simp only [attach, hbus] at hattach
      split_ifs at hattach
      obtain rfl := Option.some.inj hattach
      simp only [DBusMonitor.processBus, hstate]
      refine ⟨rfl, by simp [hschedule], ⟨rfl, ⟨⟨fd⟩, ?_, ?_, ?_⟩, ?_⟩, ?_, ?_⟩
      all_goals simp [hloop, htimer, hreported, hlog, Recovered.start]

theorem sound_of_run (hdelays : delays ≠ []) {answers : SetupAnswers} {attached : DBusMonitor}
    (hstarted : started delays answers = some attached) {labels : List Label}
    (hset : ∀ label ∈ labels, label.timerSet = true)
    (hrun : machine.run attached labels = some m) : Sound delays m := by
  exact machine.invariant_of_meets (fun h hC hstep => h.step hdelays hC hstep)
    (Or.inl (up_of_started hstarted)) (machine.meets_of_forall hset) hrun

/-- A monitor that is taken out of the loop and stopped leaves nothing behind. -/
theorem Sound.stop_detach (h : Sound delays m) :
    m.detach.stop.bus = none ∧ m.detach.stop.loopFds = [] ∧ m.detach.stop.inhibitFd = none ∧
      m.detach.stop.reconnectTimer = .disarmed := by
  rcases h with hup | ⟨past, failed, hdown⟩
  · obtain ⟨bus, hbus, _⟩ := hup.connected.watched
    have hdetach : m.detach = { m with attached := false, loopFds := [], registeredBusFd := none } := by
      simp [detach, hup.attached, hup.unregister]
    simp [hdetach, DBusMonitor.stop, hbus, tearDownBusState]
  · have hwaiting := hdown.waiting
    have hdetach : m.detach = { m with attached := false } := by
      simp [detach, hdown.attached, DBusMonitor.unregister, hwaiting.registeredBusFd]
    simp [hdetach, DBusMonitor.stop, hwaiting.down, tearDownBusState, hwaiting.loopFds]

/-- **Recovery is never stuck.** For a schedule with at least one delay, and as long as the timer
can be set: the monitor is connected or waiting, and not both. While it is connected its history
is a sequence of outages, each ended by a successful attempt; while it is waiting there is one
more outage, in which the attempts made so far followed the schedule, it is disabled exactly when
the schedule is used up, and the timer is set for the next delay, or for the heartbeat after the
last, or has expired. -/
theorem recovery_never_stuck (hdelays : delays ≠ []) {answers : SetupAnswers}
    {attached : DBusMonitor} (hstarted : started delays answers = some attached)
    {labels : List Label} (hset : ∀ label ∈ labels, label.timerSet = true)
    (hrun : machine.run attached labels = some m) :
    Xor (Connected m) (Waiting m) ∧
      (Connected m → Recovered delays m.log) ∧
      (Waiting m → ∃ past failed, Recovered delays past ∧ m.log = past ++ outage delays failed ∧
        m.state = (if failed < delays.length then .reconnecting else .disabled) ∧
        (m.reconnectTimer = .armed (delays.getD failed kHeartbeatInterval) ∨
          m.reconnectTimer = .expired)) := by
  have hexclusive : Connected m → ¬ Waiting m := fun hup hdown => hdown.down hup.operational
  rcases sound_of_run hdelays hstarted hset hrun with hup | ⟨past, failed, hdown⟩
  · exact ⟨Or.inl ⟨hup.connected, hexclusive hup.connected⟩, fun _ => hup.recovered,
      fun hwaiting => absurd hwaiting (hexclusive hup.connected)⟩
  · exact ⟨Or.inr ⟨hdown.waiting, fun hconnected => hexclusive hconnected hdown.waiting⟩,
      fun hconnected => absurd hdown.waiting (hexclusive hconnected),
      fun _ => ⟨past, failed, hdown.recovered, hdown.log, hdown.state, hdown.timer⟩⟩

/-- The connection is lost in a drain; the attempt fails when the descriptor cannot be registered;
the next one succeeds and is lost again in the drain that follows it; then the schedule is used up
and the first heartbeat fails. -/
def longOutage : List Label :=
  [.process (.failed false) {},
    .reconnectTimerExpires, .reconnectTimerReported,
    .reconnectTimerFires { connect := some 8, addOk := false },
    .reconnectTimerExpires, .reconnectTimerReported, .reconnectTimerFires { connect := some 9 },
    .process (.failed false) {},
    .reconnectTimerExpires, .reconnectTimerReported, .reconnectTimerFires { connect := none },
    .reconnectTimerExpires, .reconnectTimerReported,
    .reconnectTimerFires { connect := some 8, matchOk := false },
    .reconnectTimerExpires, .reconnectTimerReported, .reconnectTimerFires { connect := none }]

theorem recovery_never_stuck_longOutage :
    ∃ attached m, started [2000, 10000] { connect := some 7 } = some attached ∧
      machine.run attached longOutage = some m ∧
      m.state = .disabled ∧ m.reconnectTimer = .armed kHeartbeatInterval ∧
      m.log = outage [2000, 10000] 1 ++ [.attempted true] ++ outage [2000, 10000] 3 ∧
      Xor (Connected m) (Waiting m) ∧
      (Connected m → Recovered [2000, 10000] m.log) ∧
      (Waiting m → ∃ past failed, Recovered [2000, 10000] past ∧
        m.log = past ++ outage [2000, 10000] failed ∧
        m.state = (if failed < 2 then .reconnecting else .disabled) ∧
        (m.reconnectTimer = .armed ([2000, 10000].getD failed kHeartbeatInterval) ∨
          m.reconnectTimer = .expired)) := by
  have hreached : ((started [2000, 10000] { connect := some 7 }).bind fun attached =>
      (machine.run attached longOutage).map fun m => (m.state, m.reconnectTimer, m.log)) =
      some (.disabled, .armed kHeartbeatInterval,
        outage [2000, 10000] 1 ++ [.attempted true] ++ outage [2000, 10000] 3) := by decide
  obtain ⟨attached, hstarted, hfinal⟩ := Option.bind_eq_some_iff.mp hreached
  obtain ⟨m, hrun, heq⟩ := Option.map_eq_some_iff.mp hfinal
  simp only [Prod.mk.injEq] at heq
  obtain ⟨hstate, htimer, hlog⟩ := heq
  exact ⟨attached, m, hstarted, hrun, hstate, htimer, hlog,
    recovery_never_stuck (by decide) hstarted (by decide) hrun⟩

end DBusMonitor

end CecControl
