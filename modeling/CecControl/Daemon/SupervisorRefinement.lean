/-
# The daemon's supervisor is the supervisor in the daemon

The supervisor was written twice: on the daemon's record, where its calls go to the
lifecycle that is part of it, and by itself, where they go to an environment. Here
the daemon is made an environment, and the two are shown to do the same. What is
proved of the supervisor in any environment therefore holds in the daemon, and the
other way round a run of the daemon can be followed with what the supervisor by
itself records about its timers.

An environment that is a daemon has a supervisor's fields of its own, which nobody
reads; `supervise` puts the real ones in their place.
-/

import CecControl.Daemon.Rounds
import CecControl.Power.SupervisorReturns

namespace CecControl

open PowerLifecycle

namespace Daemon

/-- The supervisor's fields in place of the daemon's. -/
def superpose {E : Type} (s : PowerSupervisor E) (d : Daemon) : Daemon :=
  { d with
    powerLifecycle := s.powerLifecycle
    adapterReconnect := s.adapterReconnect
    suspendSafetyTimer := s.suspendSafetyTimer
    reconnectRetryTimer := s.reconnectRetryTimer }

/-- The daemon a supervisor is part of. -/
def supervise (s : PowerSupervisor Daemon) : Daemon := superpose s s.env

/-- The supervisor's notes are entries of the log. -/
def noteEffect : PowerSupervisor.Note → Effect
  | .requested request => .requested request
  | .started request => .started request
  | .finished request => .finished request

/-- The daemon as an environment. -/
def ports : PowerSupervisor.Ports Daemon where
  armOnce d := ({ d with arms := d.arms + 1 }, d.armOk d.arms)
  lock d op := d.emit (.lock op)
  suspendAsync := suspendAsync
  resumeAsync d := ((resumeAsync d).1, if (resumeAsync d).2 then some false else none)
  reconnectAsync := reconnectAsync
  onAdapterUnrecoverable := onAdapterUnrecoverable
  note d n := d.emit (noteEffect n)

/-! ## The lifecycle does not see the supervisor -/

theorem suspendAsync_over {E : Type} (s : PowerSupervisor E) (d : Daemon) :
    (superpose s d).suspendAsync = (superpose s d.suspendAsync.1, d.suspendAsync.2) := by
  by_cases hnow : d.suspendsNow = true
  · rw [suspendAsync_of_suspendsNow hnow, suspendAsync_of_suspendsNow (d := superpose s d) hnow]
    rfl
  · rw [Bool.not_eq_true] at hnow
    rw [suspendAsync_of_not_suspendsNow hnow, suspendAsync_of_not_suspendsNow (d := superpose s d) hnow]
    rfl

theorem resumeAsync_over {E : Type} (s : PowerSupervisor E) (d : Daemon) :
    (superpose s d).resumeAsync = (superpose s d.resumeAsync.1, d.resumeAsync.2) := by
  by_cases hnow : d.resumesNow = true
  · rw [resumeAsync_of_resumesNow hnow, resumeAsync_of_resumesNow (d := superpose s d) hnow]
    rfl
  · rw [Bool.not_eq_true] at hnow
    rw [resumeAsync_of_not_resumesNow hnow, resumeAsync_of_not_resumesNow (d := superpose s d) hnow]
    rfl

theorem reconnectAsync_over {E : Type} (s : PowerSupervisor E) (d : Daemon) :
    (superpose s d).reconnectAsync = (superpose s d.reconnectAsync.1, d.reconnectAsync.2) := by
  cases hshut : d.lifecycleShutdown <;> cases hsuspended : d.suspended <;>
    cases hconnected : d.connected <;>
    simp [reconnectAsync, superpose, hshut, hsuspended, hconnected]

/-! ## Reconnect effects -/

/-- The two do the same when allowed to nest equally deep. -/
theorem execute_refines {depth : ℕ} {s s' : PowerSupervisor Daemon}
    {out : AdapterReconnect.Output} (h : PowerSupervisor.execute ports depth s out = some s') :
    executeWithin depth (supervise s) out = supervise s' := by
  induction depth generalizing s out with
  | zero => simp [PowerSupervisor.execute] at h
  | succ depth ih =>
      cases heffect : out.effect with
      | none =>
          simp only [PowerSupervisor.execute, heffect, Option.some.injEq] at h
          simp [executeWithin, heffect, h]
      | cancelRetry =>
          simp only [PowerSupervisor.execute, heffect, Option.some.injEq] at h
          simp only [executeWithin, heffect, ← h]
          rfl
      | abandonCycle =>
          simp only [PowerSupervisor.execute, heffect, Option.some.injEq] at h
          simp only [executeWithin, heffect, ← h]
          rfl
      | startAttempt =>
          have hcall := reconnectAsync_over
            { s with reconnectRetryTimer := s.reconnectRetryTimer.disarm } s.env
          have hdisarmed : { supervise s with
              reconnectRetryTimer := (supervise s).reconnectRetryTimer.disarm } =
              superpose { s with reconnectRetryTimer := s.reconnectRetryTimer.disarm } s.env := rfl
          rw [PowerSupervisor.execute_startAttempt ports depth s heffect] at h
          simp only [executeWithin, heffect, hdisarmed, hcall]
          have hasked : supervise (s.asked ports) =
              superpose { s with reconnectRetryTimer := s.reconnectRetryTimer.disarm }
                s.env.reconnectAsync.1 := rfl
          rw [← hasked]
          cases hanswer : s.env.reconnectAsync.2 with
          | none =>
              rw [show (ports.reconnectAsync s.env).2 = none from hanswer] at h
              exact congrArg supervise (Option.some.inj h)
          | some ok =>
              rw [show (ports.reconnectAsync s.env).2 = some ok from hanswer] at h
              exact ih h
      | scheduleRetry =>
          rw [PowerSupervisor.execute_scheduleRetry ports depth s heffect] at h
          have hasked : ((supervise s).armRetry out.delay) =
              (supervise (s.scheduled ports out.delay), (ports.armOnce s.env).2) := rfl
          simp only [executeWithin, heffect, hasked]
          cases hok : (ports.armOnce s.env).2 with
          | true =>
              rw [if_pos hok] at h
              exact congrArg supervise (Option.some.inj h)
          | false =>
              rw [if_neg (by simp [hok])] at h
              exact ih h

/-- Allowing more nesting changes nothing. -/
theorem execute_succ {E : Type} {calls : PowerSupervisor.Ports E} {depth : ℕ}
    {s s' : PowerSupervisor E} {out : AdapterReconnect.Output}
    (h : PowerSupervisor.execute calls depth s out = some s') :
    PowerSupervisor.execute calls (depth + 1) s out = some s' := by
  induction depth generalizing s out with
  | zero => simp [PowerSupervisor.execute] at h
  | succ depth ih =>
      cases heffect : out.effect with
      | none => simpa only [PowerSupervisor.execute, heffect] using h
      | cancelRetry => simpa only [PowerSupervisor.execute, heffect] using h
      | abandonCycle => simpa only [PowerSupervisor.execute, heffect] using h
      | startAttempt =>
          rw [PowerSupervisor.execute_startAttempt calls _ s heffect] at h ⊢
          cases hanswer : (calls.reconnectAsync s.env).2 with
          | none => rwa [hanswer] at h
          | some ok =>
              rw [hanswer] at h
              exact ih h
      | scheduleRetry =>
          rw [PowerSupervisor.execute_scheduleRetry calls _ s heffect] at h ⊢
          by_cases hok : (calls.armOnce s.env).2 = true
          · rwa [if_pos hok] at h ⊢
          · rw [if_neg hok] at h ⊢
            exact ih h

theorem execute_refines_execute {depth : ℕ} {s s' : PowerSupervisor Daemon}
    {out : AdapterReconnect.Output} (h : PowerSupervisor.execute ports depth s out = some s') :
    (supervise s).execute out = supervise s' := by
  obtain ⟨s'', hreturns, _⟩ := PowerSupervisor.carried ports s out
  have hmore (extra : ℕ) : PowerSupervisor.execute ports (depth + extra) s out = some s' := by
    induction extra with
    | zero => exact h
    | succ extra ih => exact execute_succ ih
  obtain rfl := Option.some.inj ((hreturns (depth + 3) (by omega)).symm.trans (hmore 3))
  exact execute_refines (hreturns 3 (Nat.le_refl 3))

theorem onReconnectEvent_refines {depth : ℕ} {s s' : PowerSupervisor Daemon}
    {event : AdapterReconnect.Event} (h : s.onReconnectEvent ports depth event = some s') :
    (supervise s).onReconnectEvent event = supervise s' :=
  execute_refines_execute h

theorem seedReconnect_refines {depth : ℕ} {s s' : PowerSupervisor Daemon}
    (h : s.seedReconnect ports depth = some s') : (supervise s).seedReconnect = supervise s' :=
  execute_refines_execute h

/-! ## Power effects -/

theorem notify_refines {depth : ℕ} {s s' : PowerSupervisor Daemon} {notice : Notify}
    (h : s.notify ports depth notice = some s') : (supervise s).notify notice = supervise s' := by
  cases notice with
  | none => exact congrArg supervise (Option.some.inj h)
  | systemSuspend => exact onReconnectEvent_refines h
  | systemResume => exact onReconnectEvent_refines h

theorem quietEffects_refines {depth : ℕ} {s s' : PowerSupervisor Daemon} {out : Output}
    (h : s.quietEffects ports depth out = some s') : (supervise s).quietEffects out = supervise s' := by
  obtain ⟨told, hnotify, rfl⟩ := Option.map_eq_some_iff.mp h
  have hdisarmed : (if out.safetyTimer = .disarm then
      { supervise s with suspendSafetyTimer := (supervise s).suspendSafetyTimer.disarm }
      else supervise s) = supervise (if out.safetyTimer = .disarm then
        { s with suspendSafetyTimer := s.suspendSafetyTimer.disarm } else s) := by
    split_ifs <;> rfl
  have hnotified := notify_refines hnotify
  rw [← hdisarmed] at hnotified
  unfold quietEffects
  dsimp only
  rw [hnotified]
  by_cases harm : out.safetyTimer = .arm
  · have harmed : (supervise told).armSafety out.safetyDelay =
        (supervise (told.armSafety ports out.safetyDelay), told.env.armOk told.env.arms) := by
      have hinert : (told.armSafety ports out.safetyDelay).powerLifecycle = told.powerLifecycle := by
        simp [PowerSupervisor.armSafety, onSafetyTimerArmFailed]
      simp only [supervise, superpose, hinert]
      rfl
    rw [if_pos harm, if_pos harm, harmed]
    cases told.env.armOk told.env.arms with
    | true =>
        dsimp only
        split_ifs <;> rfl
    | false =>
        dsimp only
        split_ifs <;> rfl
  · rw [if_neg harm, if_neg harm]
    split_ifs <;> rfl

theorem noteStarted_refines (s : PowerSupervisor Daemon) :
    (supervise s).logStarted = supervise (s.noteStarted ports) := by
  have hactive : (supervise s).powerLifecycle.active = s.powerLifecycle.active := rfl
  unfold logStarted PowerSupervisor.noteStarted
  rw [hactive]
  cases s.powerLifecycle.active <;> rfl

theorem noteFinished_refines (s : PowerSupervisor Daemon) (kind : EventKind) :
    (supervise s).logFinished kind = supervise (s.noteFinished ports kind) := by
  have hactive : (supervise s).powerLifecycle.active = s.powerLifecycle.active := rfl
  unfold logFinished PowerSupervisor.noteFinished
  rw [hactive]
  cases s.powerLifecycle.active with
  | none => rfl
  | some request =>
      dsimp only
      split_ifs <;> rfl

section Callbacks

variable {onSuspendCompleted : PowerSupervisor Daemon → Option (PowerSupervisor Daemon)}
  {onResumeCompleted : PowerSupervisor Daemon → Bool → Option (PowerSupervisor Daemon)}
  {suspendCompleted : Daemon → Daemon} {resumeCompleted : Daemon → Bool → Daemon}
  {s s' : PowerSupervisor Daemon}

theorem submitSuspendWork_refines
    (hcallback : ∀ s s', onSuspendCompleted s = some s' →
      suspendCompleted (supervise s) = supervise s')
    (h : PowerSupervisor.submitSuspendWork ports onSuspendCompleted s = some s') :
    submitSuspendWork suspendCompleted (supervise s) = supervise s' := by
  have hcall : (supervise (s.noteStarted ports)).suspendAsync =
      (supervise (s.suspendSubmitted ports), (ports.suspendAsync (s.noteStarted ports).env).2) :=
    suspendAsync_over (s.noteStarted ports) (s.noteStarted ports).env
  rw [PowerSupervisor.submitSuspendWork_eq] at h
  unfold submitSuspendWork
  rw [noteStarted_refines, hcall]
  cases hnow : (ports.suspendAsync (s.noteStarted ports).env).2 with
  | true =>
      rw [if_pos hnow] at h
      exact hcallback _ _ h
  | false =>
      rw [if_neg (by simp [hnow])] at h
      exact congrArg supervise (Option.some.inj h)

theorem submitResumeWork_refines
    (hcallback : ∀ s s', onResumeCompleted s false = some s' →
      resumeCompleted (supervise s) false = supervise s')
    (h : PowerSupervisor.submitResumeWork ports onResumeCompleted s = some s') :
    submitResumeWork resumeCompleted (supervise s) = supervise s' := by
  have hcall : (supervise (s.noteStarted ports)).resumeAsync =
      (supervise (s.resumeSubmitted ports), (s.noteStarted ports).env.resumeAsync.2) :=
    resumeAsync_over (s.noteStarted ports) (s.noteStarted ports).env
  rw [PowerSupervisor.submitResumeWork_eq] at h
  unfold submitResumeWork
  rw [noteStarted_refines, hcall]
  have hanswer : (ports.resumeAsync (s.noteStarted ports).env).2 =
      if (s.noteStarted ports).env.resumeAsync.2 then some false else none := rfl
  rw [hanswer] at h
  cases hnow : (s.noteStarted ports).env.resumeAsync.2 with
  | true =>
      rw [hnow, if_pos rfl] at h
      exact hcallback _ _ h
  | false =>
      rw [hnow, if_neg (by simp)] at h
      exact congrArg supervise (Option.some.inj h)

theorem executeEffects_refines {depth : ℕ} {out : Output}
    (hsuspend : ∀ s s', onSuspendCompleted s = some s' →
      suspendCompleted (supervise s) = supervise s')
    (hresume : ∀ s s', onResumeCompleted s false = some s' →
      resumeCompleted (supervise s) false = supervise s')
    (h : PowerSupervisor.executeEffects ports depth onSuspendCompleted onResumeCompleted s out =
      some s') :
    executeEffects suspendCompleted resumeCompleted (supervise s) out = supervise s' := by
  obtain ⟨quieted, hquiet, hwork⟩ := Option.bind_eq_some_iff.mp h
  unfold executeEffects
  rw [quietEffects_refines hquiet]
  cases hout : out.work with
  | none =>
      rw [hout] at hwork
      exact congrArg supervise (Option.some.inj hwork)
  | startSuspend =>
      rw [hout] at hwork
      exact submitSuspendWork_refines hsuspend hwork
  | startResume =>
      rw [hout] at hwork
      exact submitResumeWork_refines hresume hwork

end Callbacks

/-! ## Applying an output -/

section Apply

variable {apply : PowerSupervisor Daemon → Output → Option (PowerSupervisor Daemon)}
  {applied : Daemon → Output → Daemon} {s s' : PowerSupervisor Daemon}

theorem suspendCompletedWith_refines
    (happly : ∀ s out s', apply s out = some s' → applied (supervise s) out = supervise s')
    (h : PowerSupervisor.suspendCompletedWith ports apply s = some s') :
    suspendCompletedWith applied (supervise s) = supervise s' := by
  have hdone := happly _ _ _ h
  unfold suspendCompletedWith
  rw [noteFinished_refines]
  exact hdone

theorem resumeCompletedWith_refines {depth : ℕ} {adapterValid : Bool}
    (happly : ∀ s out s', apply s out = some s' → applied (supervise s) out = supervise s')
    (h : PowerSupervisor.resumeCompletedWith ports depth apply s adapterValid = some s') :
    resumeCompletedWith applied (supervise s) adapterValid = supervise s' := by
  obtain ⟨next, hnext, hseed⟩ := Option.bind_eq_some_iff.mp h
  have hdone := happly _ _ _ hnext
  unfold resumeCompletedWith
  rw [noteFinished_refines]
  refine (congrArg (fun d => if adapterValid then d else d.seedReconnect) hdone).trans ?_
  cases adapterValid with
  | true => exact congrArg supervise (Option.some.inj hseed)
  | false => exact seedReconnect_refines hseed

end Apply

/-- The supervisor's recursion, at equal depth. -/
theorem applyLifecycle_refines {depth : ℕ} {s s' : PowerSupervisor Daemon} {out : Output}
    (h : PowerSupervisor.applyLifecycle ports depth s out = some s') :
    applyLifecycleWithin depth (supervise s) out = supervise s' := by
  induction depth generalizing s out s' with
  | zero => simp [PowerSupervisor.applyLifecycle] at h
  | succ depth ih =>
      obtain ⟨next, heffects, hpump⟩ := Option.bind_eq_some_iff.mp h
      have heffects' := executeEffects_refines
        (fun s s' => suspendCompletedWith_refines fun s out s' => ih)
        (fun s s' => resumeCompletedWith_refines fun s out s' => ih) heffects
      have hpump' := executeEffects_refines
        (fun s s' => suspendCompletedWith_refines fun s out s' => ih)
        (fun s s' => resumeCompletedWith_refines fun s out s' => ih) hpump
      simp only [applyLifecycleWithin, heffects']
      exact hpump'

/-! ## Entries -/

theorem settle_suspend (rounds : ℕ) {d : Daemon} {source : Source} {rest : List Pending}
    (hphase : d.powerLifecycle.phase = .idle)
    (hpending : d.powerLifecycle.pending = ⟨.suspend, source⟩ :: rest) :
    settle (rounds + 1) d =
      if d.suspendsNow then settle rounds (d.suspendNow source rest)
      else d.suspendLater source rest := by
  simp only [settle, hphase, hpending]

theorem settle_resume (rounds : ℕ) {d : Daemon} {source : Source} {rest : List Pending}
    (hphase : d.powerLifecycle.phase = .idle)
    (hpending : d.powerLifecycle.pending = ⟨.resume, source⟩ :: rest) :
    settle (rounds + 1) d =
      if d.resumesNow then (settle rounds (d.resumeNow source rest)).seedReconnect
      else d.resumeLater source rest := by
  simp only [settle, hphase, hpending]

/-- More rounds than there are requests waiting change nothing. -/
theorem settle_succ_of_le {rounds : ℕ} {d : Daemon}
    (hrounds : d.powerLifecycle.pending.length ≤ rounds) :
    settle (rounds + 1) d = settle rounds d := by
  induction rounds generalizing d with
  | zero =>
      have hnil := List.length_eq_zero_iff.mp (Nat.le_zero.mp hrounds)
      cases hphase : d.powerLifecycle.phase <;> simp [settle, hphase, hnil]
  | succ rounds ih =>
      cases hphase : d.powerLifecycle.phase with
      | suspending => simp [settle, hphase]
      | resuming => simp [settle, hphase]
      | idle =>
          cases hpending : d.powerLifecycle.pending with
          | nil => simp [settle, hphase, hpending]
          | cons next rest =>
              obtain ⟨kind, source⟩ := next
              have hrest : rest.length ≤ rounds := by simpa [hpending] using hrounds
              cases kind with
              | suspend =>
                  have hnext := ih (d := d.suspendNow source rest) hrest
                  rw [settle_suspend _ hphase hpending, settle_suspend _ hphase hpending, hnext]
              | resume =>
                  have hnext := ih (d := d.resumeNow source rest) hrest
                  rw [settle_resume _ hphase hpending, settle_resume _ hphase hpending, hnext]

theorem settle_of_le {rounds : ℕ} {d : Daemon}
    (hrounds : d.powerLifecycle.pending.length ≤ rounds) :
    settle rounds d = settle d.powerLifecycle.pending.length d := by
  induction hrounds with
  | refl => rfl
  | step hrounds ih => rw [settle_succ_of_le hrounds, ih]

/-- Allowing the recursion more than the queue needs changes nothing. -/
theorem applyLifecycleWithin_of_lt {depth : ℕ} {d : Daemon} {out : Output}
    (hplain : PlainOutput out) (hdepth : d.powerLifecycle.pending.length < depth) :
    applyLifecycleWithin depth d out = d.applyLifecycle out := by
  obtain ⟨rounds, rfl⟩ := Nat.exists_eq_succ_of_ne_zero (Nat.ne_zero_of_lt hdepth)
  have hkeep : (d.quietEffects out).powerLifecycle = d.powerLifecycle := by
    rw [quietEffects_of_plain d out hplain.2.1 hplain.2.2]
  have hrounds := Nat.lt_succ_iff.mp hdepth
  rw [applyLifecycleWithin_eq_settle hplain hrounds, applyLifecycle_eq_settle hplain,
    settle_of_le (by rw [hkeep]; exact hrounds), hkeep]

theorem suspendCompletedWith_of_lt {depth : ℕ} {d : Daemon}
    (hdepth : d.powerLifecycle.pending.length < depth) :
    suspendCompletedWith (applyLifecycleWithin depth) d = d.onSuspendCompleted := by
  by_cases hphase : d.powerLifecycle.phase = .suspending
  · apply applyLifecycleWithin_of_lt
    · simp [PlainOutput, onSuspendCompleted_of_suspending hphase]
    · simpa [onSuspendCompleted_of_suspending hphase] using hdepth
  · rw [suspendCompletedWith_of_not_suspending hphase, onSuspendCompleted,
      suspendCompletedWith_of_not_suspending hphase]
    exact applyLifecycleWithin_of_lt (by simp [PlainOutput]) hdepth

theorem resumeCompletedWith_of_lt {depth : ℕ} {d : Daemon}
    (hdepth : d.powerLifecycle.pending.length < depth) (adapterValid : Bool) :
    resumeCompletedWith (applyLifecycleWithin depth) d adapterValid =
      d.onResumeCompleted adapterValid := by
  by_cases hphase : d.powerLifecycle.phase = .resuming
  · have happly : applyLifecycleWithin depth
        { d.logFinished .resume with
          powerLifecycle := (d.powerLifecycle.onResumeCompleted adapterValid).1 }
        (d.powerLifecycle.onResumeCompleted adapterValid).2 =
        applyLifecycle
          { d.logFinished .resume with
            powerLifecycle := (d.powerLifecycle.onResumeCompleted adapterValid).1 }
          (d.powerLifecycle.onResumeCompleted adapterValid).2 := by
      apply applyLifecycleWithin_of_lt
      · simp [PlainOutput, onResumeCompleted_of_resuming hphase]
      · simpa [onResumeCompleted_of_resuming hphase] using hdepth
    unfold onResumeCompleted resumeCompletedWith
    rw [happly]
  · rw [resumeCompletedWith_of_not_resuming hphase, onResumeCompleted,
      resumeCompletedWith_of_not_resuming hphase,
      applyLifecycleWithin_of_lt (by simp [PlainOutput]) hdepth]

/-- The supervisor's public functions, on the daemon. -/
def onEntry (d : Daemon) : PowerSupervisor.Entry → Daemon
  | .suspendRequested source => d.onSuspendRequested source
  | .resumeRequested source => d.onResumeRequested source
  | .suspendCompleted => d.onSuspendCompleted
  | .resumeCompleted adapterValid => d.onResumeCompleted adapterValid
  | .safetyTimerFired => d.onSafetyTimerFired
  | .connectionLost => d.onConnectionLost
  | .reconnectResult ok => d.onReconnectResult ok
  | .reconnectRetryTimerFired => d.onReconnectRetryTimerFired

theorem onRequested_refines {depth : ℕ} {s s' : PowerSupervisor Daemon} {request : Pending}
    (hdepth : s.depthBound ≤ depth) (h : s.onRequested ports depth request = some s') :
    (supervise s).onRequested request = supervise s' := by
  have happly := applyLifecycle_refines h
  rw [applyLifecycleWithin_of_lt] at happly
  · exact happly
  · simp [PlainOutput, onRequested_eq]
  · have hlength : (s.powerLifecycle.onRequested request.kind request.source).1.pending.length ≤
        s.powerLifecycle.pending.length + 1 := by
      rw [onRequested_eq]
      split_ifs <;> simp
    unfold PowerSupervisor.depthBound at hdepth
    exact Nat.lt_of_le_of_lt hlength (by omega)

theorem onSafetyTimerFired_refines {depth : ℕ} {s s' : PowerSupervisor Daemon}
    (hdepth : s.depthBound ≤ depth) (h : s.onSafetyTimerFired ports depth = some s') :
    (supervise s).onSafetyTimerFired = supervise s' := by
  have happly := applyLifecycle_refines h
  rw [applyLifecycleWithin_of_lt] at happly
  · exact happly
  · unfold PlainOutput PowerLifecycle.onSafetyTimerFired
    split_ifs <;> simp
  · have hpending : s.powerLifecycle.onSafetyTimerFired.1.pending = s.powerLifecycle.pending := by
      unfold PowerLifecycle.onSafetyTimerFired
      split_ifs <;> rfl
    unfold PowerSupervisor.depthBound at hdepth
    simp only [supervise, superpose, hpending]
    omega

/-- **The two supervisors do the same**, in every entry. -/
theorem enter_refines {depth : ℕ} {s s' : PowerSupervisor Daemon} {entry : PowerSupervisor.Entry}
    (hdepth : s.depthBound ≤ depth) (h : PowerSupervisor.enter ports depth s entry = some s') :
    (supervise s).onEntry entry = supervise s' := by
  have hlt : (supervise s).powerLifecycle.pending.length < depth := by
    unfold PowerSupervisor.depthBound at hdepth
    simp only [supervise, superpose]
    omega
  cases entry with
  | suspendRequested source => exact onRequested_refines hdepth h
  | resumeRequested source => exact onRequested_refines hdepth h
  | suspendCompleted =>
      exact (suspendCompletedWith_of_lt hlt).symm.trans
        (suspendCompletedWith_refines (fun _ _ _ => applyLifecycle_refines) h)
  | resumeCompleted adapterValid =>
      exact (resumeCompletedWith_of_lt hlt adapterValid).symm.trans
        (resumeCompletedWith_refines (fun _ _ _ => applyLifecycle_refines) h)
  | safetyTimerFired => exact onSafetyTimerFired_refines hdepth h
  | connectionLost => exact onReconnectEvent_refines h
  | reconnectResult ok => exact onReconnectEvent_refines h
  | reconnectRetryTimerFired => exact onReconnectEvent_refines h

end Daemon

end CecControl
