/-
# Letting the system sleep

The daemon together with its bus monitor. A sleep signal met while the bus is processed is handed
to the main thread as a closure, and what the power supervisor does with the inhibitor it does by
calling the monitor from within a handler, so the lock operations that a handler logs are carried
out on the monitor in the same step. The worker, the alert thread and the kernel's timers move in
between.

The inhibitor is what keeps the system awake until the adapter is closed. It is let go of at the
end of a suspend, when the safety timer has had enough of waiting for one, when the bus is lost,
and at the end of the teardown. In the first case and in the last the adapter is closed by then,
the worker is idle, and no job is left that could open the adapter again.
-/

import CecControl.Bus.Grip
import CecControl.Daemon.Asleep

namespace CecControl

open Lib

/-- The daemon with a system bus. -/
structure BusDaemon where
  daemon : Daemon
  monitor : DBusMonitor
  /-- The worker's thread has been joined. -/
  joined : Bool := false

namespace BusDaemon

/-- What the system answers to the takes of a handler, in their order. -/
abbrev TakeAnswers := List (Bool × DBusMonitor.Update)

/-- The lock operations of a handler are carried out on the monitor. -/
def carryOut (m : DBusMonitor) (answers : TakeAnswers) : List Effect → DBusMonitor
  | [] => m
  | .lock .release :: effects => carryOut m.releaseInhibitLock answers effects
  | .lock .take :: effects =>
      let answer := answers.headD (true, {})
      carryOut (m.takeInhibitLock answer.1 answer.2 .error).1 answers.tail effects
  | _ :: effects => carryOut m answers effects

inductive Label
  /-- A handler of the main thread that is not the monitor's. -/
  | handler (label : Daemon.Label) (answers : TakeAnswers)
  /-- The worker, the alert thread, or a timer of the supervisor in the kernel. -/
  | thread (label : Daemon.Label)
  | monitor (label : DBusMonitor.Label)
  /-- The callback for sleep signals, up to its return. -/
  | sleepSignal (kind : PowerLifecycle.EventKind)
  /-- `CECDaemon::stop`, up to the wait for the worker. -/
  | stop
  /-- The wait is over. -/
  | join
  /-- The rest of it that is about the bus. -/
  | stopMonitor
  deriving Repr

/-- Handlers of the main thread. -/
def isHandler : Daemon.Label → Bool
  | .wire _ | .drain | .safetyTimer | .retryTimer => true
  | _ => false

/-- What happens beside the main thread. The worker's exit is part of `join`, and the sleep signal
comes from the monitor. -/
def isBeside : Daemon.Label → Bool
  | .safetyExpire | .retryExpire | .workerTake | .workerReopen | .workerOpened | .workerCall _
  | .workerClock _ | .workerSleep | .workerFinish | .alertStore | .alertPost => true
  | _ => false

/-- The inhibitor is taken and released through the supervisor, and the callback is a label of its
own. -/
def isOwn : DBusMonitor.Label → Bool
  | .take _ _ | .release | .callbackReturns => false
  | _ => true

/-- A timer in the kernel. -/
def isExpiry : DBusMonitor.Label → Bool
  | .timerExpires | .reconnectTimerExpires => true
  | _ => false

/-- The main thread has returned to its loop, which has not been left. -/
def AtRest (s : BusDaemon) : Prop := s.monitor.phase = .idle ∧ s.daemon.stopRequested = false

instance (s : BusDaemon) : Decidable s.AtRest := inferInstanceAs (Decidable (_ ∧ _))

def step (s : BusDaemon) : Label → Option BusDaemon
  | .handler label answers =>
      if s.AtRest ∧ isHandler label then
        (s.daemon.step label).map fun daemon =>
          { s with
            daemon
            monitor := carryOut s.monitor answers (daemon.log.drop s.daemon.log.length) }
      else none
  | .thread label =>
      if isBeside label then (s.daemon.step label).map fun daemon => { s with daemon } else none
  | .monitor label =>
      if isOwn label ∧ (s.daemon.stopRequested = false ∨ isExpiry label) then
        (s.monitor.step label).map fun monitor => { s with monitor }
      else none
  | .sleepSignal kind =>
      if s.monitor.phase = .inCallback ∧ s.daemon.stopRequested = false then
        (s.monitor.step .callbackReturns).bind fun monitor =>
          (s.daemon.step (.dbusSignal kind)).map fun daemon => { s with daemon, monitor }
      else none
  | .stop =>
      if s.AtRest then
        (s.daemon.step .stop).map fun daemon =>
          { s with daemon, monitor := s.monitor.detach }
      else none
  | .join =>
      (s.daemon.step .workerExit).map fun daemon => { s with daemon, joined := true }
  | .stopMonitor => if s.joined then some { s with monitor := s.monitor.stop } else none

def machine : Machine BusDaemon Label where
  step := step

/-- The daemon as it starts, with a monitor that has been set up and attached. -/
def boot (setup : Daemon.Setup) (answers : DBusMonitor.SetupAnswers) : Option BusDaemon :=
  (DBusMonitor.started kReconnectDelays answers).map fun monitor =>
    { daemon := Daemon.boot setup, monitor }

/-! ## The invariant -/

open DBusMonitor (Grips)

variable {s s' : BusDaemon}

structure Guarding (s : BusDaemon) : Prop where
  asleep : Daemon.Asleep s.daemon
  grips : Grips none s.monitor
  /-- The worker has left the adapter closed, and nobody is there to open it. -/
  down : s.joined = true → s.daemon.stopRequested = true ∧ Daemon.Down s.daemon

/-- Handlers are run on the main thread, which waits for the worker's only in the teardown. -/
theorem Guarding.not_joined (h : Guarding s) (hopen : s.daemon.stopRequested = false) :
    ¬ s.joined = true := by
  intro hjoined
  rw [(h.down hjoined).1] at hopen
  cases hopen

/-- A handler that releases nothing loses nothing. -/
theorem grips_carryOut {fd : Option ℕ} {m : DBusMonitor} {effects : List Effect}
    (h : Grips fd m) (hfree : .lock .release ∈ effects → fd = none) (answers : TakeAnswers) :
    Grips fd (carryOut m answers effects) := by
  induction effects generalizing m answers with
  | nil => exact h
  | cons e effects ih =>
      have hrest := fun hmem => hfree (List.mem_cons_of_mem _ hmem)
      cases e with
      | lock op =>
          cases op with
          | release =>
              refine ih ?_ hrest answers
              obtain rfl := hfree List.mem_cons_self
              exact h.releaseInhibitLock
          | take => exact ih (h.takeInhibitLock _ _) hrest answers.tail
          | none => exact ih h hrest answers
      | _ => exact ih h hrest answers

/-- Beside the main thread nothing opens an adapter that is down for good. -/
theorem down_of_beside {d d' : Daemon} {label : Daemon.Label} (hbeside : isBeside label)
    (hstop : d.stopRequested = true) (hdown : Daemon.Down d) (hstep : d.step label = some d') :
    d'.stopRequested = true ∧ Daemon.Down d' := by
  obtain ⟨hclosed, hnone, hnil⟩ := hdown
  cases Daemon.moves_of_step hstep with
  | safetyExpire _ => exact ⟨hstop, hclosed, hnone, hnil⟩
  | retryExpire _ => exact ⟨hstop, hclosed, hnone, hnil⟩
  | alertStore => exact ⟨hstop, rfl, hnone, hnil⟩
  | alertPost _ => exact ⟨hstop, hclosed, hnone, hnil⟩
  | workerTake _ hjobs _ => simp [hnil] at hjobs
  | working hrunning _ => simp [hnone] at hrunning
  | _ => simp [isBeside] at hbeside

/-- The inhibitor that is held stays held, or one of four things has let go of it. -/
def Accounted (s : BusDaemon) (label : Label) (s' : BusDaemon) : Prop :=
  ∀ fd, s.monitor.inhibitFd = some fd →
    s'.monitor.inhibitFd = some fd ∨ Daemon.Down s.daemon ∨
      (s.monitor.state = .operational ∧ s'.monitor.state ≠ .operational) ∨
      ∃ answers, label = .handler .safetyTimer answers

theorem accounted_of_grips {label : Label} (h : Guarding s)
    (hgrips : Grips s.monitor.inhibitFd s'.monitor) : Accounted s label s' := fun _ hheld =>
  (h.grips.same_or_lost hgrips hheld).imp_right fun hlost => .inr (.inl hlost)

theorem Guarding.handler (h : Guarding s) {label : Daemon.Label} {answers : TakeAnswers}
    (hstep : s.step (.handler label answers) = some s') :
    Guarding s' ∧ Accounted s (.handler label answers) s' := by
  simp only [BusDaemon.step] at hstep
  split_ifs at hstep with hrest
  obtain ⟨daemon, hdaemon, rfl⟩ := Option.map_eq_some_iff.mp hstep
  have hopen : s.daemon.lifecycleShutdown = false := by
    rw [← h.asleep.coupled.gates.1]
    exact hrest.1.2
  refine ⟨⟨h.asleep.step hdaemon, grips_carryOut h.grips (fun _ => rfl) answers,
    fun hjoined => absurd hjoined (h.not_joined hrest.1.2)⟩, ?_⟩
  by_cases htimer : label = .safetyTimer
  · subst htimer
    exact fun _ _ => .inr (.inr (.inr ⟨answers, rfl⟩))
  · obtain ⟨more, hlog, hmore⟩ := Daemon.grown_of_step h.asleep hopen htimer hdaemon
    by_cases hrelease : .lock .release ∈ more
    · exact fun _ _ => .inr (.inl (hmore hrelease))
    · apply accounted_of_grips h
      refine grips_carryOut h.grips.here (fun hmem => ?_) answers
      rw [hlog, List.drop_left] at hmem
      exact absurd hmem hrelease

theorem Guarding.step (h : Guarding s) {label : Label} (hstep : s.step label = some s') :
    Guarding s' ∧ Accounted s label s' := by
  have hsame {label : Label} (heq : s'.monitor = s.monitor) : Accounted s label s' := by
    intro fd hheld
    rw [heq]
    exact .inl hheld
  cases label with
  | handler label answers => exact h.handler hstep
  | thread label =>
      simp only [BusDaemon.step] at hstep
      split_ifs at hstep with hbeside
      obtain ⟨daemon, hdaemon, rfl⟩ := Option.map_eq_some_iff.mp hstep
      refine ⟨⟨h.asleep.step hdaemon, h.grips, fun hjoined => ?_⟩, hsame rfl⟩
      obtain ⟨hstop, hdown⟩ := h.down hjoined
      exact down_of_beside hbeside hstop hdown hdaemon
  | monitor label =>
      simp only [BusDaemon.step] at hstep
      split_ifs at hstep with hown
      obtain ⟨monitor, hmonitor, rfl⟩ := Option.map_eq_some_iff.mp hstep
      have hgrips := h.grips.step (fun heq => by simp [heq, isOwn] at hown) hmonitor
      exact ⟨⟨h.asleep, hgrips.forget, h.down⟩, accounted_of_grips h hgrips⟩
  | sleepSignal kind =>
      simp only [BusDaemon.step] at hstep
      split_ifs at hstep with hcalled
      obtain ⟨monitor, hmonitor, hstep⟩ := Option.bind_eq_some_iff.mp hstep
      obtain ⟨daemon, hdaemon, rfl⟩ := Option.map_eq_some_iff.mp hstep
      have hgrips := h.grips.step (by simp) hmonitor
      exact ⟨⟨h.asleep.step hdaemon, hgrips.forget,
        fun hjoined => absurd hjoined (h.not_joined hcalled.2)⟩, accounted_of_grips h hgrips⟩
  | stop =>
      simp only [BusDaemon.step] at hstep
      split_ifs at hstep with hrest
      obtain ⟨daemon, hdaemon, rfl⟩ := Option.map_eq_some_iff.mp hstep
      exact ⟨⟨h.asleep.step hdaemon, h.grips.detach,
        fun hjoined => absurd hjoined (h.not_joined hrest.2)⟩,
        accounted_of_grips h h.grips.here.detach⟩
  | join =>
      obtain ⟨daemon, hdaemon, rfl⟩ := Option.map_eq_some_iff.mp hstep
      refine ⟨⟨h.asleep.step hdaemon, h.grips, fun _ => ?_⟩, hsame rfl⟩
      cases Daemon.moves_of_step hdaemon with
      | workerExit hnone hstop => exact ⟨hstop, rfl, hnone, h.asleep.coupled.gates.2.2 hstop⟩
      | working _ hworks => cases hworks
  | stopMonitor =>
      simp only [BusDaemon.step] at hstep
      split_ifs at hstep with hjoined
      rw [← Option.some.inj hstep]
      exact ⟨⟨h.asleep, h.grips.stop, h.down⟩, fun _ _ => .inr (.inl (h.down hjoined).2)⟩

theorem guarding_boot {setup : Daemon.Setup} {answers : DBusMonitor.SetupAnswers}
    (hboot : boot setup answers = some s) : Guarding s := by
  obtain ⟨monitor, hstarted, rfl⟩ := Option.map_eq_some_iff.mp hboot
  exact ⟨Daemon.Asleep.boot setup, DBusMonitor.grips_of_started hstarted, by simp⟩

/-- **The system sleeps only after the adapter.** In every run, whatever the order of signals,
requests, alerts, timers and the worker's steps: as long as the daemon is suspended and no power
request is being carried out, the connection is down and the worker has nothing to do; and an
inhibitor is let go of only in such a state, or by the safety timer, or with the bus. -/
theorem released_over_closed_adapter {setup : Daemon.Setup} {answers : DBusMonitor.SetupAnswers}
    {start : BusDaemon} (hboot : boot setup answers = some start) {labels : List Label}
    (hrun : machine.run start labels = some s) :
    (s.daemon.stopRequested = false → s.daemon.powerLifecycle.phase = .idle →
        s.daemon.suspended = true → Daemon.Down s.daemon) ∧
      ∀ label s', machine.step s label = some s' → Accounted s label s' := by
  have hguarding := machine.invariant_of_step (fun h hstep => (Guarding.step h hstep).1)
    (guarding_boot hboot) hrun
  refine ⟨fun hopen => ?_, fun label s' hstep => (hguarding.step hstep).2⟩
  rw [hguarding.asleep.coupled.gates.1] at hopen
  exact hguarding.asleep.rested hopen

/-- The system announces that it will sleep, and the adapter is closed. -/
def closing : List Label :=
  [.monitor (.process .nothing {}), .monitor (.busReadable {}),
    .monitor (.process (.prepareForSleep true) {}), .sleepSignal .suspend,
    .monitor (.process .nothing {}), .handler .drain [], .thread .workerTake,
    .thread (.workerCall (.ok true)), .thread (.workerCall (.ok true)),
    .thread (.workerCall (.ok true)), .thread .workerFinish]

theorem released_over_closed_adapter_closing :
    ∃ start s s', boot {} { connect := some 3, inhibit := .descriptor (some 7) } = some start ∧
      machine.run start closing = some s ∧ machine.step s (.handler .drain []) = some s' ∧
      s.monitor.inhibitFd = some 7 ∧ s'.monitor.inhibitFd = none ∧
      Accounted s (.handler .drain []) s' := by
  have hruns : ((boot {} { connect := some 3, inhibit := .descriptor (some 7) }).bind fun start =>
      (machine.run start closing).bind fun s => (machine.step s (.handler .drain [])).map fun s' =>
        (s.monitor.inhibitFd, s'.monitor.inhibitFd)) = some (some 7, none) := by decide
  obtain ⟨start, hboot, hruns⟩ := Option.bind_eq_some_iff.mp hruns
  obtain ⟨s, hrun, hruns⟩ := Option.bind_eq_some_iff.mp hruns
  obtain ⟨s', hstep, hfds⟩ := Option.map_eq_some_iff.mp hruns
  rw [Prod.mk.injEq] at hfds
  exact ⟨start, s, s', hboot, hrun, hstep, hfds.1, hfds.2,
    (released_over_closed_adapter hboot hrun).2 _ _ hstep⟩

end BusDaemon

end CecControl
