/-
# What a supervisor entry does

A supervisor entry makes one small change and then works off the queue: each
queued request is either completed on the spot, because the lifecycle turns it
down, or handed to the worker, which ends the entry. The two outcomes of a
request are written out here as single updates of the daemon (`suspendNow`,
`suspendLater` and their resume counterparts); `settle` repeats them, and the
supervisor's nested callbacks are shown to be `settle`.

Two proof rules follow. A property that survives the four rounds and the seeding
of a reconnect cycle survives `settle`, and one that survives an attempt, an
abandonment and the reconnect machine's own bookkeeping survives `execute`.
-/

import CecControl.Daemon.Supervisor

namespace CecControl

/-- A power transition takes the reconnect machine out of any cycle. -/
def AdapterReconnect.interrupted (r : AdapterReconnect) : AdapterReconnect :=
  if r.state = .idle then r else r.resetCycle

@[simp]
theorem AdapterReconnect.interrupted_state (r : AdapterReconnect) :
    r.interrupted.state = .idle := by
  unfold interrupted
  split_ifs with h
  · exact h
  · rfl

@[simp]
theorem AdapterReconnect.interrupted_connectionLostDelay (r : AdapterReconnect) :
    r.interrupted.connectionLostDelay = r.connectionLostDelay := by
  unfold interrupted
  split_ifs <;> rfl

namespace Daemon

open PowerLifecycle

/-! ## Rounds -/

/-- The retry timer after a power transition: only an armed retry is cancelled. -/
def interruptedTimer (d : Daemon) : TimerSource :=
  if d.adapterReconnect.state = .waitingForRetry then .disarmed else d.reconnectRetryTimer

/-- Lock operations owed at the end of a suspend or resume of the given source. -/
def lockLog (source : Source) (op : Lock) : List Effect :=
  if source = .dbus then [.lock op] else []

/-- A suspend request completed on the spot. -/
def suspendNow (d : Daemon) (source : Source) (rest : List Pending) : Daemon :=
  { d with
    powerLifecycle := { phase := .idle, phaseSource := source, pending := rest }
    adapterReconnect := d.adapterReconnect.interrupted
    reconnectRetryTimer := d.interruptedTimer
    suspendSafetyTimer := .disarmed
    arms := d.arms + 1
    tickets := d.tickets + 1
    log := d.log ++ ([.started ⟨.suspend, source⟩, .issued d.tickets, .invoked d.tickets,
      .finished ⟨.suspend, source⟩] ++ lockLog source .release) }

/-- A suspend request handed to the worker. -/
def suspendLater (d : Daemon) (source : Source) (rest : List Pending) : Daemon :=
  { d with
    powerLifecycle := { phase := .suspending, phaseSource := source, pending := rest }
    adapterReconnect := d.adapterReconnect.interrupted
    reconnectRetryTimer := d.interruptedTimer
    suspendSafetyTimer :=
      d.suspendSafetyTimer.armOnce kSuspendSafetyDeadline (d.armOk d.arms)
    arms := d.arms + 1
    tickets := d.tickets + 1
    suspended := true
    jobs := if d.stopRequested then d.jobs else d.jobs ++ [.suspend d.tickets]
    log := d.log ++ [.started ⟨.suspend, source⟩, .issued d.tickets] }

/-- A resume request completed on the spot. -/
def resumeNow (d : Daemon) (source : Source) (rest : List Pending) : Daemon :=
  { d with
    powerLifecycle :=
      { d.powerLifecycle with phase := .idle, phaseSource := source, pending := rest }
    adapterReconnect := d.adapterReconnect.interrupted
    reconnectRetryTimer := d.interruptedTimer
    tickets := d.tickets + 1
    log := d.log ++ ([.started ⟨.resume, source⟩, .issued d.tickets, .invoked d.tickets,
      .finished ⟨.resume, source⟩] ++ lockLog source .take) }

/-- A resume request handed to the worker. -/
def resumeLater (d : Daemon) (source : Source) (rest : List Pending) : Daemon :=
  { d with
    powerLifecycle :=
      { d.powerLifecycle with phase := .resuming, phaseSource := source, pending := rest }
    adapterReconnect := d.adapterReconnect.interrupted
    reconnectRetryTimer := d.interruptedTimer
    tickets := d.tickets + 1
    jobs := if d.stopRequested then d.jobs else d.jobs ++ [.resume d.tickets]
    log := d.log ++ [.started ⟨.resume, source⟩, .issued d.tickets] }

/-- The lifecycle turns a suspend down. -/
def suspendsNow (d : Daemon) : Bool := d.lifecycleShutdown || d.suspended

/-- The lifecycle turns a resume down. -/
def resumesNow (d : Daemon) : Bool := d.lifecycleShutdown || !d.suspended

/-- Work off the queue, for at most the given number of rounds. Every resume
completed on the spot reports an invalid adapter, so a reconnect cycle is seeded
once the rest of the queue has been worked off. -/
def settle : ℕ → Daemon → Daemon
  | 0, d => d
  | rounds + 1, d =>
      match d.powerLifecycle.phase, d.powerLifecycle.pending with
      | .idle, ⟨.suspend, source⟩ :: rest =>
          if d.suspendsNow then settle rounds (d.suspendNow source rest)
          else d.suspendLater source rest
      | .idle, ⟨.resume, source⟩ :: rest =>
          if d.resumesNow then (settle rounds (d.resumeNow source rest)).seedReconnect
          else d.resumeLater source rest
      | _, _ => d

/-! ## The supervisor's effects, one by one -/

theorem onReconnectEvent_system (d : Daemon) {event : AdapterReconnect.Event}
    (h : event = .systemSuspend ∨ event = .systemResume) :
    d.onReconnectEvent event =
      { d with adapterReconnect := d.adapterReconnect.interrupted,
               reconnectRetryTimer := d.interruptedTimer } := by
  rcases h with rfl | rfl <;> cases hs : d.adapterReconnect.state <;>
    simp [onReconnectEvent, reconnectEvent, AdapterReconnect.onEvent, hs, execute, executeWithin,
      AdapterReconnect.interrupted, interruptedTimer, TimerSource.disarm]

/-- Entering a suspend: the reconnect machine is interrupted and the safety timer
armed. -/
theorem quietEffects_suspendEntry (d : Daemon) :
    d.quietEffects d.powerLifecycle.makeSuspendEntry.2 =
      { d with
        adapterReconnect := d.adapterReconnect.interrupted
        reconnectRetryTimer := d.interruptedTimer
        suspendSafetyTimer :=
          d.suspendSafetyTimer.armOnce kSuspendSafetyDeadline (d.armOk d.arms)
        arms := d.arms + 1 } := by
  cases hok : d.armOk d.arms <;>
    simp [quietEffects, makeSuspendEntry, notify, onReconnectEvent_system, armSafety, hok,
      onSafetyTimerArmFailed]

theorem quietEffects_resumeEntry (d : Daemon) :
    d.quietEffects d.powerLifecycle.makeResumeEntry.2 =
      { d with
        adapterReconnect := d.adapterReconnect.interrupted
        reconnectRetryTimer := d.interruptedTimer } := by
  simp [quietEffects, makeResumeEntry, notify, onReconnectEvent_system]

/-- An output that neither notifies nor arms only disarms and logs its lock
operation. -/
theorem quietEffects_of_plain (d : Daemon) (out : Output) (hnotify : out.reconnectNotify = .none)
    (htimer : out.safetyTimer ≠ .arm) :
    d.quietEffects out =
      { d with
        suspendSafetyTimer :=
          if out.safetyTimer = .disarm then .disarmed else d.suspendSafetyTimer
        log := d.log ++ if out.lock = .none then [] else [.lock out.lock] } := by
  by_cases hlock : out.lock = .none <;> by_cases hdisarm : out.safetyTimer = .disarm <;>
    simp [quietEffects, notify, hnotify, htimer, hlock, hdisarm, TimerSource.disarm]

theorem suspendAsync_of_suspendsNow {d : Daemon} (h : d.suspendsNow = true) :
    d.suspendAsync =
      ({ d with tickets := d.tickets + 1,
                log := d.log ++ [.issued d.tickets, .invoked d.tickets] }, true) := by
  unfold suspendsNow at h
  unfold suspendAsync
  cases hshut : d.lifecycleShutdown <;> simp_all

theorem suspendAsync_of_not_suspendsNow {d : Daemon} (h : d.suspendsNow = false) :
    d.suspendAsync =
      ({ d with
          tickets := d.tickets + 1
          suspended := true
          jobs := if d.stopRequested then d.jobs else d.jobs ++ [.suspend d.tickets]
          log := d.log ++ [.issued d.tickets] }, false) := by
  simp [suspendsNow] at h
  simp [suspendAsync, h.1, h.2]

theorem resumeAsync_of_resumesNow {d : Daemon} (h : d.resumesNow = true) :
    d.resumeAsync =
      ({ d with tickets := d.tickets + 1,
                log := d.log ++ [.issued d.tickets, .invoked d.tickets] }, true) := by
  unfold resumesNow at h
  unfold resumeAsync
  cases hshut : d.lifecycleShutdown <;> simp_all

theorem resumeAsync_of_not_resumesNow {d : Daemon} (h : d.resumesNow = false) :
    d.resumeAsync =
      ({ d with
          tickets := d.tickets + 1
          jobs := if d.stopRequested then d.jobs else d.jobs ++ [.resume d.tickets]
          log := d.log ++ [.issued d.tickets] }, false) := by
  simp [resumesNow] at h
  simp [resumeAsync, h.1, h.2]

/-- The completion of the suspend in flight, up to the pump. -/
def finishSuspend (d : Daemon) : Daemon :=
  { d with
    powerLifecycle := { d.powerLifecycle with phase := .idle, safetyFiredFirst := false }
    suspendSafetyTimer := .disarmed
    log := d.log ++ (.finished ⟨.suspend, d.powerLifecycle.phaseSource⟩ ::
      if d.powerLifecycle.safetyFiredFirst then []
      else lockLog d.powerLifecycle.phaseSource .release) }

/-- The completion of the resume in flight, up to the pump. -/
def finishResume (d : Daemon) : Daemon :=
  { d with
    powerLifecycle := { d.powerLifecycle with phase := .idle }
    log := d.log ++ (.finished ⟨.resume, d.powerLifecycle.phaseSource⟩ ::
      lockLog d.powerLifecycle.phaseSource .take) }

/-- The outputs handed to `applyLifecycle` from outside: they start no work,
notify nobody and arm nothing. -/
def PlainOutput (out : Output) : Prop :=
  out.work = .none ∧ out.reconnectNotify = .none ∧ out.safetyTimer ≠ .arm

/-- The daemon handed on by a completion, and the output handed on with it. -/
theorem suspendCompletedWith_of_suspending (applyLifecycle : Daemon → Output → Daemon)
    {d : Daemon} (h : d.powerLifecycle.phase = .suspending) :
    ∃ d' out, suspendCompletedWith applyLifecycle d = applyLifecycle d' out ∧
      PlainOutput out ∧ d'.powerLifecycle.pending = d.powerLifecycle.pending ∧
      d'.quietEffects out = d.finishSuspend := by
  refine ⟨_, _, rfl, ?_, ?_, ?_⟩
  · simp [PlainOutput, onSuspendCompleted_of_suspending h]
  · simp [onSuspendCompleted_of_suspending h]
  · have hactive : d.powerLifecycle.active = some ⟨.suspend, d.powerLifecycle.phaseSource⟩ := by
      simp [active, h]
    rw [onSuspendCompleted_of_suspending h, quietEffects_of_plain _ _ rfl (by simp)]
    cases hfired : d.powerLifecycle.safetyFiredFirst <;>
      cases hsource : d.powerLifecycle.phaseSource <;>
      simp [logFinished, hactive, finishSuspend, lockLog, hfired, hsource]

theorem suspendCompletedWith_of_not_suspending {applyLifecycle : Daemon → Output → Daemon}
    {d : Daemon} (h : d.powerLifecycle.phase ≠ .suspending) :
    suspendCompletedWith applyLifecycle d = applyLifecycle d {} := by
  have hlog : d.logFinished .suspend = d := by
    unfold logFinished active
    cases hphase : d.powerLifecycle.phase <;> simp_all
  simp [suspendCompletedWith, onSuspendCompleted_of_not_suspending h, hlog]

theorem resumeCompletedWith_of_resuming (applyLifecycle : Daemon → Output → Daemon)
    {d : Daemon} (h : d.powerLifecycle.phase = .resuming) (adapterValid : Bool) :
    ∃ d' out, resumeCompletedWith applyLifecycle d adapterValid =
        (if adapterValid then applyLifecycle d' out else (applyLifecycle d' out).seedReconnect) ∧
      PlainOutput out ∧ d'.powerLifecycle.pending = d.powerLifecycle.pending ∧
      d'.quietEffects out = d.finishResume := by
  refine ⟨_, _, rfl, ?_, ?_, ?_⟩
  · simp [PlainOutput, onResumeCompleted_of_resuming h]
  · simp [onResumeCompleted_of_resuming h]
  · have hactive : d.powerLifecycle.active = some ⟨.resume, d.powerLifecycle.phaseSource⟩ := by
      simp [active, h]
    rw [onResumeCompleted_of_resuming h, quietEffects_of_plain _ _ rfl (by simp)]
    cases hsource : d.powerLifecycle.phaseSource <;>
      simp [logFinished, hactive, finishResume, lockLog, hsource]

theorem resumeCompletedWith_of_not_resuming {applyLifecycle : Daemon → Output → Daemon}
    {d : Daemon} (h : d.powerLifecycle.phase ≠ .resuming) (adapterValid : Bool) :
    resumeCompletedWith applyLifecycle d adapterValid =
      if adapterValid then applyLifecycle d {} else (applyLifecycle d {}).seedReconnect := by
  have hlog : d.logFinished .resume = d := by
    unfold logFinished active
    cases hphase : d.powerLifecycle.phase <;> simp_all
  simp [resumeCompletedWith, onResumeCompleted_of_not_resuming h, hlog]

/-! ## The nested callbacks are `settle` -/

/-- The effects of the output that pumping the queue gives. -/
def pumpWith (applyLifecycle : Daemon → Output → Daemon) (d : Daemon) : Daemon :=
  executeEffects (suspendCompletedWith applyLifecycle) (resumeCompletedWith applyLifecycle)
    { d with powerLifecycle := d.powerLifecycle.pumpQueue.1 } d.powerLifecycle.pumpQueue.2

/-- A suspend request taken off the queue, when its work is about to be
submitted. -/
private def suspendEntered (d : Daemon) (source : Source) (rest : List Pending) : Daemon :=
  { d with
    powerLifecycle := { phase := .suspending, phaseSource := source, pending := rest }
    adapterReconnect := d.adapterReconnect.interrupted
    reconnectRetryTimer := d.interruptedTimer
    suspendSafetyTimer :=
      d.suspendSafetyTimer.armOnce kSuspendSafetyDeadline (d.armOk d.arms)
    arms := d.arms + 1
    log := d.log ++ [.started ⟨.suspend, source⟩] }

private def resumeEntered (d : Daemon) (source : Source) (rest : List Pending) : Daemon :=
  { d with
    powerLifecycle :=
      { d.powerLifecycle with phase := .resuming, phaseSource := source, pending := rest }
    adapterReconnect := d.adapterReconnect.interrupted
    reconnectRetryTimer := d.interruptedTimer
    log := d.log ++ [.started ⟨.resume, source⟩] }

private theorem pumpWith_suspend {applyLifecycle : Daemon → Output → Daemon} {d : Daemon}
    {source : Source} {rest : List Pending} (hphase : d.powerLifecycle.phase = .idle)
    (hpending : d.powerLifecycle.pending = ⟨.suspend, source⟩ :: rest) :
    pumpWith applyLifecycle d =
      match (d.suspendEntered source rest).suspendAsync with
      | (d, true) => suspendCompletedWith applyLifecycle d
      | (d, false) => d := by
  have hentry := quietEffects_suspendEntry { d with
    powerLifecycle := { phase := .suspending, phaseSource := source, pending := rest } }
  unfold pumpWith
  rw [pumpQueue_suspend hphase hpending]
  change submitSuspendWork _ (quietEffects { d with
    powerLifecycle := { phase := .suspending, phaseSource := source, pending := rest } } _) = _
  exact (congrArg (submitSuspendWork _) hentry).trans rfl

private theorem pumpWith_resume {applyLifecycle : Daemon → Output → Daemon} {d : Daemon}
    {source : Source} {rest : List Pending} (hphase : d.powerLifecycle.phase = .idle)
    (hpending : d.powerLifecycle.pending = ⟨.resume, source⟩ :: rest) :
    pumpWith applyLifecycle d =
      match (d.resumeEntered source rest).resumeAsync with
      | (d, true) => resumeCompletedWith applyLifecycle d false
      | (d, false) => d := by
  have hentry := quietEffects_resumeEntry { d with
    powerLifecycle :=
      { d.powerLifecycle with phase := .resuming, phaseSource := source, pending := rest } }
  unfold pumpWith
  rw [pumpQueue_resume hphase hpending]
  change submitResumeWork _ (quietEffects { d with
    powerLifecycle :=
      { d.powerLifecycle with phase := .resuming, phaseSource := source, pending := rest } } _) = _
  exact (congrArg (submitResumeWork _) hentry).trans rfl

theorem pumpWith_suspend_now (applyLifecycle : Daemon → Output → Daemon) {d : Daemon}
    {source : Source} {rest : List Pending} (hphase : d.powerLifecycle.phase = .idle)
    (hpending : d.powerLifecycle.pending = ⟨.suspend, source⟩ :: rest)
    (hnow : d.suspendsNow = true) :
    ∃ d' out, pumpWith applyLifecycle d = applyLifecycle d' out ∧ PlainOutput out ∧
      d'.powerLifecycle.pending = rest ∧ d'.quietEffects out = d.suspendNow source rest := by
  rw [pumpWith_suspend hphase hpending,
    suspendAsync_of_suspendsNow (d := d.suspendEntered source rest) hnow]
  obtain ⟨d', out, heq, hplain, hrest, hquiet⟩ :=
    suspendCompletedWith_of_suspending applyLifecycle (d := { d.suspendEntered source rest with
      tickets := d.tickets + 1
      log := (d.suspendEntered source rest).log ++ [.issued d.tickets, .invoked d.tickets] }) rfl
  refine ⟨d', out, heq, hplain, hrest, hquiet.trans ?_⟩
  simp [finishSuspend, suspendNow, suspendEntered]

theorem pumpWith_suspend_later {applyLifecycle : Daemon → Output → Daemon} {d : Daemon}
    {source : Source} {rest : List Pending} (hphase : d.powerLifecycle.phase = .idle)
    (hpending : d.powerLifecycle.pending = ⟨.suspend, source⟩ :: rest)
    (hlater : d.suspendsNow = false) :
    pumpWith applyLifecycle d = d.suspendLater source rest := by
  rw [pumpWith_suspend hphase hpending,
    suspendAsync_of_not_suspendsNow (d := d.suspendEntered source rest) hlater]
  simp only [suspendEntered, suspendLater, List.append_assoc, List.cons_append, List.nil_append]
  rfl

theorem pumpWith_resume_now (applyLifecycle : Daemon → Output → Daemon) {d : Daemon}
    {source : Source} {rest : List Pending} (hphase : d.powerLifecycle.phase = .idle)
    (hpending : d.powerLifecycle.pending = ⟨.resume, source⟩ :: rest)
    (hnow : d.resumesNow = true) :
    ∃ d' out, pumpWith applyLifecycle d = (applyLifecycle d' out).seedReconnect ∧
      PlainOutput out ∧ d'.powerLifecycle.pending = rest ∧
      d'.quietEffects out = d.resumeNow source rest := by
  rw [pumpWith_resume hphase hpending,
    resumeAsync_of_resumesNow (d := d.resumeEntered source rest) hnow]
  obtain ⟨d', out, heq, hplain, hrest, hquiet⟩ :=
    resumeCompletedWith_of_resuming applyLifecycle (d := { d.resumeEntered source rest with
      tickets := d.tickets + 1
      log := (d.resumeEntered source rest).log ++ [.issued d.tickets, .invoked d.tickets] }) rfl
      false
  refine ⟨d', out, heq.trans rfl, hplain, hrest, hquiet.trans ?_⟩
  simp [finishResume, resumeNow, resumeEntered]

theorem pumpWith_resume_later {applyLifecycle : Daemon → Output → Daemon} {d : Daemon}
    {source : Source} {rest : List Pending} (hphase : d.powerLifecycle.phase = .idle)
    (hpending : d.powerLifecycle.pending = ⟨.resume, source⟩ :: rest)
    (hlater : d.resumesNow = false) :
    pumpWith applyLifecycle d = d.resumeLater source rest := by
  rw [pumpWith_resume hphase hpending,
    resumeAsync_of_not_resumesNow (d := d.resumeEntered source rest) hlater]
  simp only [resumeEntered, resumeLater, List.append_assoc, List.cons_append, List.nil_append]
  rfl

/-- An output that changes nothing is handed on by a pump that finds nothing. -/
theorem pumpWith_of_inert {applyLifecycle : Daemon → Output → Daemon} {d : Daemon}
    (h : d.powerLifecycle.pumpQueue = (d.powerLifecycle, {})) : pumpWith applyLifecycle d = d := by
  unfold pumpWith
  rw [h]
  change quietEffects d {} = d
  simp [quietEffects_of_plain d {} rfl (by simp)]

/-- **The supervisor's recursion.** With as many rounds as there are queued
requests, applying a plain output carries out its effects and works off the
queue. -/
theorem applyLifecycleWithin_eq_settle {rounds : ℕ} {d : Daemon} {out : Output}
    (hplain : PlainOutput out) (hrounds : d.powerLifecycle.pending.length ≤ rounds) :
    applyLifecycleWithin (rounds + 1) d out = settle rounds (d.quietEffects out) := by
  induction rounds generalizing d out with
  | zero =>
      have hkeep : (d.quietEffects out).powerLifecycle = d.powerLifecycle := by
        rw [quietEffects_of_plain d out hplain.2.1 hplain.2.2]
      have hnil : (d.quietEffects out).powerLifecycle.pending = [] := by
        rw [hkeep]
        exact List.length_eq_zero_iff.mp (Nat.le_zero.mp hrounds)
      change pumpWith (applyLifecycleWithin 0) (executeEffects _ _ d out) = _
      simp only [executeEffects, hplain.1]
      exact pumpWith_of_inert (pumpQueue_of_nil hnil)
  | succ rounds ih =>
      have hkeep : (d.quietEffects out).powerLifecycle = d.powerLifecycle := by
        rw [quietEffects_of_plain d out hplain.2.1 hplain.2.2]
      change pumpWith (applyLifecycleWithin (rounds + 1)) (executeEffects _ _ d out) = _
      simp only [executeEffects, hplain.1]
      rw [← hkeep] at hrounds
      generalize d.quietEffects out = d₁ at hrounds
      clear hkeep hplain
      cases hphase : d₁.powerLifecycle.phase with
      | suspending =>
          rw [pumpWith_of_inert (pumpQueue_of_busy (by simp [hphase]))]
          simp [settle, hphase]
      | resuming =>
          rw [pumpWith_of_inert (pumpQueue_of_busy (by simp [hphase]))]
          simp [settle, hphase]
      | idle =>
          cases hpending : d₁.powerLifecycle.pending with
          | nil =>
              rw [pumpWith_of_inert (pumpQueue_of_nil hpending)]
              simp [settle, hphase, hpending]
          | cons next rest =>
              obtain ⟨kind, source⟩ := next
              have hrest : rest.length ≤ rounds := by simpa [hpending] using hrounds
              cases kind with
              | suspend =>
                  cases hnow : d₁.suspendsNow with
                  | true =>
                      obtain ⟨d', out', heq, hplain', hd', hquiet⟩ :=
                        pumpWith_suspend_now (applyLifecycleWithin (rounds + 1)) hphase hpending hnow
                      rw [heq, ih hplain' (by rw [hd']; exact hrest), hquiet]
                      simp [settle, hphase, hpending, hnow]
                  | false =>
                      rw [pumpWith_suspend_later hphase hpending hnow]
                      simp [settle, hphase, hpending, hnow]
              | resume =>
                  cases hnow : d₁.resumesNow with
                  | true =>
                      obtain ⟨d', out', heq, hplain', hd', hquiet⟩ :=
                        pumpWith_resume_now (applyLifecycleWithin (rounds + 1)) hphase hpending hnow
                      rw [heq, ih hplain' (by rw [hd']; exact hrest), hquiet]
                      simp [settle, hphase, hpending, hnow]
                  | false =>
                      rw [pumpWith_resume_later hphase hpending hnow]
                      simp [settle, hphase, hpending, hnow]

theorem applyLifecycle_eq_settle {d : Daemon} {out : Output} (hplain : PlainOutput out) :
    d.applyLifecycle out = settle d.powerLifecycle.pending.length (d.quietEffects out) :=
  applyLifecycleWithin_eq_settle hplain (Nat.le_refl _)

/-! ## Supervisor entries -/

@[simp]
theorem quietEffects_inert (d : Daemon) : d.quietEffects {} = d := by
  simp [quietEffects_of_plain d {} rfl (by simp)]

/-- A request received: logged, and queued unless an equal one is last. -/
def received (d : Daemon) (request : Pending) : Daemon :=
  { d with
    powerLifecycle :=
      if d.powerLifecycle.unfinished.getLast? = some request then d.powerLifecycle
      else { d.powerLifecycle with pending := d.powerLifecycle.pending ++ [request] }
    log := d.log ++ [.requested request] }

theorem onRequested_eq_settle (d : Daemon) (request : Pending) :
    d.onRequested request =
      settle (d.received request).powerLifecycle.pending.length (d.received request) := by
  unfold onRequested
  have h := PowerLifecycle.onRequested_eq (d.emit (.requested request)).powerLifecycle
    request.kind request.source
  simp only [h]
  rw [applyLifecycle_eq_settle (by simp [PlainOutput]), quietEffects_inert]
  rfl

/-- The suspend work has reported back. -/
def suspendReported (d : Daemon) : Daemon :=
  if d.powerLifecycle.phase = .suspending then d.finishSuspend else d

/-- The resume work has reported back. -/
def resumeReported (d : Daemon) : Daemon :=
  if d.powerLifecycle.phase = .resuming then d.finishResume else d

theorem onSuspendCompleted_eq_settle (d : Daemon) :
    d.onSuspendCompleted = settle d.powerLifecycle.pending.length d.suspendReported := by
  unfold onSuspendCompleted suspendReported
  by_cases hphase : d.powerLifecycle.phase = .suspending
  · obtain ⟨d', out, heq, hplain, hpending, hquiet⟩ :=
      suspendCompletedWith_of_suspending applyLifecycle hphase
    rw [heq, applyLifecycle_eq_settle hplain, hpending, hquiet, if_pos hphase]
  · rw [suspendCompletedWith_of_not_suspending hphase,
      applyLifecycle_eq_settle (by simp [PlainOutput]), quietEffects_inert, if_neg hphase]

theorem onResumeCompleted_eq_settle (d : Daemon) (adapterValid : Bool) :
    d.onResumeCompleted adapterValid =
      if adapterValid then settle d.powerLifecycle.pending.length d.resumeReported
      else (settle d.powerLifecycle.pending.length d.resumeReported).seedReconnect := by
  unfold onResumeCompleted resumeReported
  by_cases hphase : d.powerLifecycle.phase = .resuming
  · obtain ⟨d', out, heq, hplain, hpending, hquiet⟩ :=
      resumeCompletedWith_of_resuming applyLifecycle hphase adapterValid
    rw [heq, applyLifecycle_eq_settle hplain, hpending, hquiet, if_pos hphase]
  · rw [resumeCompletedWith_of_not_resuming hphase,
      applyLifecycle_eq_settle (by simp [PlainOutput]), quietEffects_inert, if_neg hphase]

/-- The safety timer fires: inside a suspend that it has not fired in yet, the
lock is released for a D-Bus request. -/
def safetyFired (d : Daemon) : Daemon :=
  { d with
    suspendSafetyTimer := d.suspendSafetyTimer.consume
    powerLifecycle := d.powerLifecycle.onSafetyTimerFired.1
    log := d.log ++
      if d.powerLifecycle.phase = .suspending ∧ d.powerLifecycle.safetyFiredFirst = false then
        lockLog d.powerLifecycle.phaseSource .release
      else [] }

theorem onSafetyTimerFired_eq_settle (d : Daemon) :
    d.onSafetyTimerFired = settle d.powerLifecycle.pending.length d.safetyFired := by
  have hplain : PlainOutput d.powerLifecycle.onSafetyTimerFired.2 := by
    unfold PlainOutput PowerLifecycle.onSafetyTimerFired
    split_ifs <;> simp
  have hpending : d.powerLifecycle.onSafetyTimerFired.1.pending = d.powerLifecycle.pending := by
    unfold PowerLifecycle.onSafetyTimerFired
    split_ifs <;> rfl
  unfold onSafetyTimerFired
  rw [applyLifecycle_eq_settle hplain, quietEffects_of_plain _ _ hplain.2.1 hplain.2.2, hpending]
  congr 1
  unfold safetyFired PowerLifecycle.onSafetyTimerFired lockLog
  cases hphase : d.powerLifecycle.phase <;> cases hfired : d.powerLifecycle.safetyFiredFirst <;>
    cases hsource : d.powerLifecycle.phaseSource <;> simp

/-! ## Proof rules -/

/-- A property that each round preserves. -/
structure RoundStable (P : Daemon → Prop) : Prop where
  suspendNow : ∀ {d source rest}, P d → d.powerLifecycle.phase = .idle →
    d.powerLifecycle.pending = ⟨.suspend, source⟩ :: rest → d.suspendsNow = true →
    P (d.suspendNow source rest)
  suspendLater : ∀ {d source rest}, P d → d.powerLifecycle.phase = .idle →
    d.powerLifecycle.pending = ⟨.suspend, source⟩ :: rest → d.suspendsNow = false →
    P (d.suspendLater source rest)
  resumeNow : ∀ {d source rest}, P d → d.powerLifecycle.phase = .idle →
    d.powerLifecycle.pending = ⟨.resume, source⟩ :: rest → d.resumesNow = true →
    P (d.resumeNow source rest)
  resumeLater : ∀ {d source rest}, P d → d.powerLifecycle.phase = .idle →
    d.powerLifecycle.pending = ⟨.resume, source⟩ :: rest → d.resumesNow = false →
    P (d.resumeLater source rest)

/-- What one round can do to the state `settle` is in. -/
theorem settle_succ_cases (rounds : ℕ) (d : Daemon) :
    (d.powerLifecycle.phase = .idle ∧ ∃ source rest,
        d.powerLifecycle.pending = ⟨.suspend, source⟩ :: rest ∧
        (d.suspendsNow = true ∧
            settle (rounds + 1) d = settle rounds (d.suspendNow source rest) ∨
          d.suspendsNow = false ∧ settle (rounds + 1) d = d.suspendLater source rest)) ∨
      (d.powerLifecycle.phase = .idle ∧ ∃ source rest,
        d.powerLifecycle.pending = ⟨.resume, source⟩ :: rest ∧
        (d.resumesNow = true ∧
            settle (rounds + 1) d = (settle rounds (d.resumeNow source rest)).seedReconnect ∨
          d.resumesNow = false ∧ settle (rounds + 1) d = d.resumeLater source rest)) ∨
      ((d.powerLifecycle.phase ≠ .idle ∨ d.powerLifecycle.pending = []) ∧
        settle (rounds + 1) d = d) := by
  cases hphase : d.powerLifecycle.phase with
  | idle =>
      cases hpending : d.powerLifecycle.pending with
      | nil => simp [settle, hphase, hpending]
      | cons next rest =>
          obtain ⟨kind, source⟩ := next
          cases kind with
          | suspend =>
              refine Or.inl ⟨rfl, source, rest, rfl, ?_⟩
              cases hnow : d.suspendsNow <;> simp [settle, hphase, hpending, hnow]
          | resume =>
              refine Or.inr (Or.inl ⟨rfl, source, rest, rfl, ?_⟩)
              cases hnow : d.resumesNow <;> simp [settle, hphase, hpending, hnow]
  | suspending => simp [settle, hphase]
  | resuming => simp [settle, hphase]

/-- A property preserved by every round and by seeding is preserved by working
off the queue. -/
theorem RoundStable.settle {P : Daemon → Prop} (h : RoundStable P)
    (hseed : ∀ {d}, P d → P (seedReconnect d)) (rounds : ℕ) {d : Daemon} (hd : P d) :
    P (settle rounds d) := by
  induction rounds generalizing d with
  | zero => exact hd
  | succ rounds ih =>
      rcases settle_succ_cases rounds d with
        ⟨hphase, source, rest, hpending, ⟨hnow, heq⟩ | ⟨hlater, heq⟩⟩ |
        ⟨hphase, source, rest, hpending, ⟨hnow, heq⟩ | ⟨hlater, heq⟩⟩ | ⟨_, heq⟩
      · rw [heq]
        exact ih (h.suspendNow hd hphase hpending hnow)
      · rw [heq]
        exact h.suspendLater hd hphase hpending hlater
      · rw [heq]
        exact hseed (ih (h.resumeNow hd hphase hpending hnow))
      · rw [heq]
        exact h.resumeLater hd hphase hpending hlater
      · rw [heq]
        exact hd

/-- A property that ignores the reconnect machine and survives what `execute` can
do outside it. -/
structure ReconnectStable (P : Daemon → Prop) : Prop where
  quiet : ∀ {d : Daemon} (reconnect : AdapterReconnect) (timer : TimerSource) (arms : ℕ), P d →
    P { d with adapterReconnect := reconnect, reconnectRetryTimer := timer, arms := arms }
  attempt : ∀ {d : Daemon}, P d → P d.reconnectAsync.1
  abandon : ∀ {d : Daemon}, P d → P d.onAdapterUnrecoverable

theorem ReconnectStable.executeWithin {P : Daemon → Prop} (h : ReconnectStable P) (depth : ℕ)
    {d : Daemon} (hd : P d) (out : AdapterReconnect.Output) :
    P (executeWithin depth d out) := by
  induction depth generalizing d out with
  | zero => exact hd
  | succ depth ih =>
      have hevent {d : Daemon} (hd : P d) (event : AdapterReconnect.Event) :
          P (d.reconnectEvent event).1 :=
        h.quiet (d := d) _ d.reconnectRetryTimer d.arms hd
      unfold Daemon.executeWithin
      cases heffect : out.effect with
      | none => exact hd
      | startAttempt =>
          have hasync : P (reconnectAsync
              { d with reconnectRetryTimer := d.reconnectRetryTimer.disarm }).1 :=
            h.attempt (h.quiet (d := d) d.adapterReconnect _ d.arms hd)
          dsimp only
          split
          · next d' heq =>
              rw [heq] at hasync
              exact hasync
          · next d' ok heq =>
              rw [heq] at hasync
              exact ih (hevent hasync _) _
      | scheduleRetry =>
          have harm : P (d.armRetry out.delay).1 :=
            h.quiet (d := d) d.adapterReconnect _ (d.arms + 1) hd
          dsimp only
          split
          · next d' heq =>
              rw [heq] at harm
              exact harm
          · next d' heq =>
              rw [heq] at harm
              exact ih (hevent harm _) _
      | cancelRetry => exact h.quiet (d := d) d.adapterReconnect _ d.arms hd
      | abandonCycle => exact h.abandon hd

/-- Such a property survives every event of the reconnect machine. -/
theorem ReconnectStable.onReconnectEvent {P : Daemon → Prop} (h : ReconnectStable P)
    {d : Daemon} (hd : P d) (event : AdapterReconnect.Event) : P (d.onReconnectEvent event) :=
  h.executeWithin 3 (h.quiet (d := d) _ d.reconnectRetryTimer d.arms hd) _

theorem ReconnectStable.seedReconnect {P : Daemon → Prop} (h : ReconnectStable P)
    {d : Daemon} (hd : P d) : P d.seedReconnect :=
  h.executeWithin 3 (h.quiet (d := d) _ d.reconnectRetryTimer d.arms hd) _

/-- What carrying out an effect that starts no attempt keeps: it can only arm or disarm the retry
timer, tell the machine that arming failed, and abandon the cycle. -/
theorem executeWithin_of_quiet {P : Daemon → Prop}
    (hretry : ∀ {d : Daemon} (timer : TimerSource) (arms : ℕ), P d →
      P { d with reconnectRetryTimer := timer, arms := arms })
    (hunarmed : ∀ {d : Daemon}, P d → P (d.reconnectEvent .timerArmFailed).1)
    (habandon : ∀ {d : Daemon}, P d → P d.onAdapterUnrecoverable)
    {depth : ℕ} {d : Daemon} {out : AdapterReconnect.Output}
    (hquiet : out.effect ≠ .startAttempt) (hd : P d) : P (executeWithin depth d out) := by
  induction depth generalizing d out with
  | zero => exact hd
  | succ depth ih =>
      unfold executeWithin
      cases heffect : out.effect with
      | none => exact hd
      | startAttempt => exact absurd heffect hquiet
      | scheduleRetry =>
          have harmed : P (d.armRetry out.delay).1 := hretry _ _ hd
          dsimp only
          split
          · next d' heq =>
              rw [heq] at harmed
              exact harmed
          · next d' heq =>
              rw [heq] at harmed
              exact ih (AdapterReconnect.onEvent_effect_ne_startAttempt _ (by simp) (by simp))
                (hunarmed harmed)
      | cancelRetry => exact hretry _ d.arms hd
      | abandonCycle => exact habandon hd

end Daemon

end CecControl
