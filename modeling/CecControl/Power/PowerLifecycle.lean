/-
# The suspend / resume sequencer

`PowerLifecycle` is a pure decision type: one lifecycle event is in flight at a
time, later ones queue behind it, and every handler answers with an `Output`
naming the side effects its owner has to carry out. The handlers here are the
source's, one definition each; nothing in this module knows who executes the
outputs.

The lemmas at the end say what each handler does to phase and queue. The rule by
which a request is dropped is restated there in the terms it is about, the
requests that are not yet finished.
-/

import CecControl.Lib.Machine

namespace CecControl

/-- Origin of a suspend / resume request. D-Bus requests belong to a real
logind sleep cycle and carry the inhibit-lock obligation; wire requests are
local operator actions. -/
inductive Source
  | dbus
  | wire
  deriving DecidableEq, Repr

namespace PowerLifecycle

/-- Work to start on the adapter. -/
inductive Work
  | none
  | startSuspend
  | startResume
  deriving DecidableEq, Repr

/-- Operation on the logind inhibit lock. -/
inductive Lock
  | none
  | release
  | take
  deriving DecidableEq, Repr

/-- Operation on the suspend-safety timer. -/
inductive Timer
  | none
  | arm
  | disarm
  deriving DecidableEq, Repr

/-- Notification owed to the reconnect state machine. -/
inductive Notify
  | none
  | systemSuspend
  | systemResume
  deriving DecidableEq, Repr

/-- What a transition observed about the safety timer. -/
inductive SafetyOutcome
  | inert
  | fired
  | overrun
  deriving DecidableEq, Repr

/-- Side effects of one transition, one axis per subsystem. The default value
is inert. Delays are milliseconds. -/
structure Output where
  work : Work := .none
  lock : Lock := .none
  safetyTimer : Timer := .none
  safetyDelay : ℕ := 0
  reconnectNotify : Notify := .none
  safety : SafetyOutcome := .inert
  deriving DecidableEq, Repr

inductive Phase
  | idle
  | suspending
  | resuming
  deriving DecidableEq, Repr

inductive EventKind
  | suspend
  | resume
  deriving DecidableEq, Repr

/-- A queued request. -/
structure Pending where
  kind : EventKind
  source : Source
  deriving DecidableEq, Repr

/-- Deadline after which the safety timer releases the inhibit lock. -/
def kSuspendSafetyDeadline : ℕ := 10000

end PowerLifecycle

open PowerLifecycle in
/-- State of the sequencer. -/
structure PowerLifecycle where
  phase : Phase := .idle
  phaseSource : Source := .dbus
  safetyFiredFirst : Bool := false
  pending : List Pending := []
  deriving DecidableEq, Repr

namespace PowerLifecycle

/-- The request in flight, if any. -/
def active (p : PowerLifecycle) : Option Pending :=
  match p.phase with
  | .idle => none
  | .suspending => some ⟨.suspend, p.phaseSource⟩
  | .resuming => some ⟨.resume, p.phaseSource⟩

/-- A request is dropped iff it equals the effective tail of the pipeline: the
back of the queue, or the request in flight when the queue is empty. -/
def coalescesWithEffectiveTail (p : PowerLifecycle) (kind : EventKind) (source : Source) :
    Bool :=
  match p.pending.getLast? with
  | some tail => tail.kind == kind && tail.source == source
  | none =>
      if p.phase = .idle then false
      else
        let activeKind := if p.phase = .suspending then EventKind.suspend else .resume
        activeKind == kind && p.phaseSource == source

/-- Common body of the two request handlers. -/
def onRequested (p : PowerLifecycle) (kind : EventKind) (source : Source) :
    PowerLifecycle × Output :=
  if p.coalescesWithEffectiveTail kind source then (p, {})
  else ({ p with pending := p.pending ++ [⟨kind, source⟩] }, {})

def onSuspendRequested (p : PowerLifecycle) (source : Source) : PowerLifecycle × Output :=
  p.onRequested .suspend source

def onResumeRequested (p : PowerLifecycle) (source : Source) : PowerLifecycle × Output :=
  p.onRequested .resume source

def makeSuspendEntry (p : PowerLifecycle) : PowerLifecycle × Output :=
  ({ p with phase := .suspending, safetyFiredFirst := false },
    { work := .startSuspend, safetyTimer := .arm, safetyDelay := kSuspendSafetyDeadline,
      reconnectNotify := .systemSuspend })

def makeResumeEntry (p : PowerLifecycle) : PowerLifecycle × Output :=
  ({ p with phase := .resuming },
    { work := .startResume, reconnectNotify := .systemResume })

/-- If idle with a queued request, pop it and emit its entry output. -/
def pumpQueue (p : PowerLifecycle) : PowerLifecycle × Output :=
  match p.phase, p.pending with
  | .idle, next :: rest =>
      let popped := { p with pending := rest, phaseSource := next.source }
      match next.kind with
      | .suspend => popped.makeSuspendEntry
      | .resume => popped.makeResumeEntry
  | _, _ => (p, {})

/-- The suspend work has completed. The timer is disarmed unconditionally; the
lock is released here unless the safety timer already did. -/
def onSuspendCompleted (p : PowerLifecycle) : PowerLifecycle × Output :=
  if p.phase ≠ .suspending then (p, {})
  else
    ({ p with phase := .idle, safetyFiredFirst := false },
      if p.safetyFiredFirst then { safetyTimer := .disarm, safety := .overrun }
      else if p.phaseSource = .dbus then { safetyTimer := .disarm, lock := .release }
      else { safetyTimer := .disarm })

/-- The resume work has completed. `adapterValid` is not read: the supervisor
seeds the reconnect machine itself. -/
def onResumeCompleted (p : PowerLifecycle) (_adapterValid : Bool) :
    PowerLifecycle × Output :=
  if p.phase ≠ .resuming then (p, {})
  else
    ({ p with phase := .idle },
      if p.phaseSource = .dbus then { lock := .take } else {})

/-- The safety timer became readable. Stale and repeated firings are inert. -/
def onSafetyTimerFired (p : PowerLifecycle) : PowerLifecycle × Output :=
  if p.phase ≠ .suspending ∨ p.safetyFiredFirst = true then (p, {})
  else
    ({ p with safetyFiredFirst := true },
      if p.phaseSource = .dbus then { safety := .fired, lock := .release }
      else { safety := .fired })

/-- Arming the safety timer failed: a deliberate no-op, so that the completion
takes its ordinary branch and releases the lock. -/
def onSafetyTimerArmFailed (p : PowerLifecycle) : PowerLifecycle × Output := (p, {})

/-! ## What the handlers do to phase and queue -/

@[simp]
theorem active_eq_none_iff (p : PowerLifecycle) : p.active = none ↔ p.phase = .idle := by
  unfold active
  cases p.phase <;> simp

/-- Requests that are accepted or in flight and not yet finished, oldest first. -/
def unfinished (p : PowerLifecycle) : List Pending :=
  p.active.toList ++ p.pending

/-- The coalescing rule in terms of unfinished requests: a request is dropped
exactly when an equal one is the last still unfinished. -/
theorem coalescesWithEffectiveTail_iff (p : PowerLifecycle) (kind : EventKind)
    (source : Source) :
    p.coalescesWithEffectiveTail kind source = true ↔
      p.unfinished.getLast? = some ⟨kind, source⟩ := by
  obtain ⟨phase, phaseSource, fired, pending⟩ := p
  cases hlast : pending.getLast? with
  | some tail =>
      obtain ⟨tailKind, tailSource⟩ := tail
      simp [coalescesWithEffectiveTail, unfinished, hlast, List.getLast?_append]
  | none =>
      have hnil : pending = [] := List.getLast?_eq_none_iff.mp hlast
      subst hnil
      cases phase <;>
        simp [coalescesWithEffectiveTail, unfinished, active]

/-- A request either changes nothing because an equal one is last, or joins the
queue. -/
theorem onRequested_eq (p : PowerLifecycle) (kind : EventKind) (source : Source) :
    p.onRequested kind source =
      (if p.unfinished.getLast? = some ⟨kind, source⟩ then p
        else { p with pending := p.pending ++ [⟨kind, source⟩] }, {}) := by
  unfold onRequested
  by_cases h : p.unfinished.getLast? = some ⟨kind, source⟩
  · simp [h, (p.coalescesWithEffectiveTail_iff kind source).mpr h]
  · have hc : p.coalescesWithEffectiveTail kind source = false := by
      rw [← Bool.not_eq_true, p.coalescesWithEffectiveTail_iff]
      exact h
    simp [h, hc]

theorem onSuspendCompleted_of_suspending {p : PowerLifecycle} (h : p.phase = .suspending) :
    p.onSuspendCompleted =
      ({ p with phase := .idle, safetyFiredFirst := false },
        { safetyTimer := .disarm
          safety := if p.safetyFiredFirst then .overrun else .inert
          lock := if p.safetyFiredFirst = false ∧ p.phaseSource = .dbus then .release
            else .none }) := by
  cases hfired : p.safetyFiredFirst <;> cases hsource : p.phaseSource <;>
    simp [onSuspendCompleted, h, hfired, hsource]

theorem onSuspendCompleted_of_not_suspending {p : PowerLifecycle} (h : p.phase ≠ .suspending) :
    p.onSuspendCompleted = (p, {}) := by
  simp [onSuspendCompleted, h]

theorem onResumeCompleted_of_resuming {p : PowerLifecycle} (h : p.phase = .resuming)
    (adapterValid : Bool) :
    p.onResumeCompleted adapterValid =
      ({ p with phase := .idle },
        { lock := if p.phaseSource = .dbus then .take else .none }) := by
  cases hsource : p.phaseSource <;> simp [onResumeCompleted, h, hsource]

theorem onResumeCompleted_of_not_resuming {p : PowerLifecycle} (h : p.phase ≠ .resuming)
    (adapterValid : Bool) : p.onResumeCompleted adapterValid = (p, {}) := by
  simp [onResumeCompleted, h]

theorem pumpQueue_suspend {p : PowerLifecycle} {source : Source} {rest : List Pending}
    (hphase : p.phase = .idle) (hpending : p.pending = ⟨.suspend, source⟩ :: rest) :
    p.pumpQueue = PowerLifecycle.makeSuspendEntry { p with pending := rest, phaseSource := source } := by
  simp [pumpQueue, hphase, hpending]

theorem pumpQueue_resume {p : PowerLifecycle} {source : Source} {rest : List Pending}
    (hphase : p.phase = .idle) (hpending : p.pending = ⟨.resume, source⟩ :: rest) :
    p.pumpQueue = PowerLifecycle.makeResumeEntry { p with pending := rest, phaseSource := source } := by
  simp [pumpQueue, hphase, hpending]

theorem pumpQueue_of_busy {p : PowerLifecycle} (h : p.phase ≠ .idle) : p.pumpQueue = (p, {}) := by
  unfold pumpQueue
  cases hphase : p.phase <;> simp_all

theorem pumpQueue_of_nil {p : PowerLifecycle} (h : p.pending = []) : p.pumpQueue = (p, {}) := by
  unfold pumpQueue
  cases hphase : p.phase <;> simp [h]

end PowerLifecycle

end CecControl
