/-
# Reconnect attempts during a suspension

While the adapter is suspended the lifecycle turns every reconnect attempt down:
the connection is closed on purpose and the resume will reopen it. The supervisor
does not tell such a refusal from a failure. It is fed back to the reconnect
machine as a failed attempt, uses up an entry of the backoff schedule, and once
the schedule is used up the cycle is abandoned and the daemon shuts down.

Nothing keeps a cycle from being open during a suspension: an alert posted just
before the suspend is drained after it, and a resume that finds no adapter seeds
a cycle after the next queued suspend has started. Whether a refusal happens is
decided by one thing, an alert or a timer that starts an attempt while suspended.
-/

import CecControl.Daemon.Coupling
import CecControl.Daemon.ReconnectEffects

namespace CecControl

open Lib PowerLifecycle

/-- A refusal during suspension, or an abandonment that takes place during one. -/
def Effect.countsSuspension : Effect → Bool
  | .refused _ => true
  | .abandoned inSuspension stopped => inSuspension && !stopped
  | _ => false

namespace Daemon

/-- No attempt is started while the adapter is suspended: neither the retry timer
nor a connection-lost alert is handled then with a retry pending. -/
def StartsNoAttemptSuspended (d : Daemon) (label : Label) : Prop :=
  d.suspended = true → d.lifecycleShutdown = false →
    d.adapterReconnect.state = .waitingForRetry →
    label ≠ .retryTimer ∧ ¬ (label = .drain ∧ d.posts.head? = some .connectionLost)

/-- Nothing logged counts a suspension against the adapter. -/
def Unblamed (log : List Effect) : Prop := ∀ e ∈ log, e.countsSuspension = false

instance (log : List Effect) : Decidable (Unblamed log) :=
  inferInstanceAs (Decidable (∀ e ∈ log, e.countsSuspension = false))

@[simp]
theorem unblamed_append (log more : List Effect) :
    Unblamed (log ++ more) ↔ Unblamed log ∧ Unblamed more := by
  simp [Unblamed, or_imp, forall_and]

@[simp]
theorem unblamed_nil : Unblamed [] := by simp [Unblamed]

@[simp]
theorem unblamed_cons (e : Effect) (log : List Effect) :
    Unblamed (e :: log) ↔ e.countsSuspension = false ∧ Unblamed log := by
  simp [Unblamed]

@[simp]
theorem unblamed_lockLog (source : Source) (op : Lock) : Unblamed (lockLog source op) := by
  unfold lockLog
  split_ifs <;> simp [Effect.countsSuspension]

/-- Timers can be armed, a loss waits for its settling delay, and no attempt is in
flight while suspended. -/
structure Steady (d : Daemon) : Prop where
  arms : ∀ n, d.armOk n = true
  delay : 0 < d.adapterReconnect.connectionLostDelay
  settled : d.suspended = true → d.lifecycleShutdown = false →
    d.adapterReconnect.state ≠ .attempting

/-- The reconnect part of a daemon is as another's. -/
theorem Steady.keep {d d' : Daemon} (h : Steady d) (harm : d'.armOk = d.armOk)
    (hreconnect : d'.adapterReconnect = d.adapterReconnect)
    (hshut : d'.lifecycleShutdown = d.lifecycleShutdown)
    (hsuspended : d'.suspended = d.suspended) : Steady d' := by
  refine ⟨?_, ?_, ?_⟩
  · rw [harm]
    exact h.arms
  · rw [hreconnect]
    exact h.delay
  · rw [hsuspended, hshut, hreconnect]
    exact h.settled

/-- A machine that is not attempting is steady whatever the flags say. -/
theorem Steady.of_not_attempting {d d' : Daemon} (h : Steady d) (harm : d'.armOk = d.armOk)
    (hdelay : d'.adapterReconnect.connectionLostDelay = d.adapterReconnect.connectionLostDelay)
    (hstate : d'.adapterReconnect.state ≠ .attempting) : Steady d' :=
  ⟨harm ▸ h.arms, hdelay ▸ h.delay, fun _ _ => hstate⟩

/-! ## Attempts -/

variable {d : Daemon}

theorem retryOrAbandon_armOk (d : Daemon) : d.retryOrAbandon.armOk = d.armOk := by
  unfold retryOrAbandon
  split <;> rfl

theorem retryOrAbandon_connectionLostDelay (d : Daemon) :
    d.retryOrAbandon.adapterReconnect.connectionLostDelay =
      d.adapterReconnect.connectionLostDelay := by
  unfold retryOrAbandon
  split <;> rfl

theorem retryOrAbandon_state (d : Daemon) :
    d.retryOrAbandon.adapterReconnect.state ≠ .attempting := by
  unfold retryOrAbandon
  split <;> simp [onAdapterUnrecoverable]

/-- A failed attempt logs at most an abandonment, under the flags of the moment. -/
theorem unblamed_retryOrAbandon (hlog : Unblamed d.log)
    (hflags : (d.suspended && !d.lifecycleShutdown) = false) : Unblamed d.retryOrAbandon.log := by
  unfold retryOrAbandon
  split
  · exact hlog
  · simp [onAdapterUnrecoverable, hlog, Effect.countsSuspension, hflags]

/-- An attempt leaves the machine attempting only when it was handed to the
worker, and so not while suspended. -/
theorem steady_attempted (harms : ∀ n, d.armOk n = true)
    (hdelay : 0 < d.adapterReconnect.connectionLostDelay) : Steady d.attempted := by
  unfold attempted
  by_cases hshut : d.lifecycleShutdown = true
  · rw [if_pos hshut]
    exact ⟨by rw [retryOrAbandon_armOk]; exact harms,
      by rw [retryOrAbandon_connectionLostDelay]; exact hdelay,
      fun _ _ => retryOrAbandon_state _⟩
  rw [if_neg hshut]
  by_cases hsuspended : d.suspended = true
  · rw [if_pos hsuspended]
    exact ⟨by rw [retryOrAbandon_armOk]; exact harms,
      by rw [retryOrAbandon_connectionLostDelay]; exact hdelay,
      fun _ _ => retryOrAbandon_state _⟩
  rw [if_neg hsuspended]
  by_cases hconnected : d.connected = true
  · rw [if_pos hconnected]
    exact ⟨harms, hdelay, fun _ _ => by simp⟩
  · rw [if_neg hconnected]
    exact ⟨harms, hdelay, fun hflag => absurd hflag hsuspended⟩

theorem unblamed_attempted (hlog : Unblamed d.log)
    (hflags : d.suspended = true → d.lifecycleShutdown = true) : Unblamed d.attempted.log := by
  unfold attempted
  by_cases hshut : d.lifecycleShutdown = true
  · rw [if_pos hshut]
    refine unblamed_retryOrAbandon ?_ (by simp [hshut])
    simp [hlog, Effect.countsSuspension]
  rw [if_neg hshut, if_neg fun hsuspended => hshut (hflags hsuspended)]
  by_cases hconnected : d.connected = true
  · rw [if_pos hconnected]
    simp [hlog, Effect.countsSuspension]
  · rw [if_neg hconnected]
    simp [hlog, Effect.countsSuspension]

/-- An attempt made while suspended is refused, and the refusal counted. -/
theorem refused_mem_attempted (hsuspended : d.suspended = true)
    (hopen : d.lifecycleShutdown = false) : .refused d.tickets ∈ d.attempted.log := by
  unfold attempted
  rw [if_neg (by simp [hopen]), if_pos hsuspended]
  unfold retryOrAbandon
  split <;> simp [onAdapterUnrecoverable]

/-! ## The invariant along a run -/

/-- Steady, and as long as the run is watched nothing counts a suspension. Not
watching gives the part that needs no condition on the steps. -/
structure Spared (watched : Prop) (d : Daemon) : Prop where
  steady : Steady d
  unblamed : watched → Unblamed d.log

namespace Spared

variable {watched : Prop}

/-- Nothing but harmless log entries has been added. -/
theorem keep (h : Spared watched d) {d' : Daemon} {more : List Effect}
    (hsteady : Steady d') (hlog : d'.log = d.log ++ more) (hmore : Unblamed more) :
    Spared watched d' := by
  refine ⟨hsteady, fun hwatched => ?_⟩
  rw [hlog, unblamed_append]
  exact ⟨h.unblamed hwatched, hmore⟩

theorem roundStable : RoundStable (Spared watched) where
  suspendNow {d source rest} h _ _ _ :=
    h.keep (h.steady.of_not_attempting rfl (by simp [suspendNow]) (by simp [suspendNow])) rfl
      (by simp [Effect.countsSuspension])
  suspendLater {d source rest} h _ _ _ :=
    h.keep (h.steady.of_not_attempting rfl (by simp [suspendLater]) (by simp [suspendLater])) rfl
      (by simp [Effect.countsSuspension])
  resumeNow {d source rest} h _ _ _ :=
    h.keep (h.steady.of_not_attempting rfl (by simp [resumeNow]) (by simp [resumeNow])) rfl
      (by simp [Effect.countsSuspension])
  resumeLater {d source rest} h _ _ _ :=
    h.keep (h.steady.of_not_attempting rfl (by simp [resumeLater]) (by simp [resumeLater])) rfl
      (by simp [Effect.countsSuspension])

theorem seedReconnect (h : Spared watched d) : Spared watched d.seedReconnect := by
  by_cases hstate : d.adapterReconnect.state = .idle
  · rw [seedReconnect_of_idle hstate (h.steady.arms _)]
    exact h.keep (h.steady.of_not_attempting rfl rfl (by simp)) (List.append_nil _).symm
      unblamed_nil
  · rw [seedReconnect_of_not_idle hstate]
    exact h

theorem settle (h : Spared watched d) (rounds : ℕ) : Spared watched (settle rounds d) :=
  roundStable.settle seedReconnect rounds h

/-- A result arrives for an attempt in flight, and so not while suspended. -/
theorem onReconnectResult (h : Spared watched d) (ok : Bool) :
    Spared watched (d.onReconnectResult ok) := by
  by_cases hstate : d.adapterReconnect.state = .attempting
  · rw [onReconnectResult_of_attempting hstate (h.steady.arms _)]
    split_ifs
    · exact ⟨h.steady.of_not_attempting rfl rfl (by simp), h.unblamed⟩
    · refine ⟨h.steady.of_not_attempting (retryOrAbandon_armOk d)
        (retryOrAbandon_connectionLostDelay d) (retryOrAbandon_state d), fun hwatched => ?_⟩
      refine unblamed_retryOrAbandon (h.unblamed hwatched) ?_
      by_contra hflags
      simp only [Bool.not_eq_false, Bool.and_eq_true, Bool.not_eq_true'] at hflags
      exact h.steady.settled hflags.1 hflags.2 hstate
  · rw [onReconnectResult_of_not_attempting hstate]
    exact h

theorem onConnectionLost (h : Spared watched d)
    (hspared : watched → d.suspended = true → d.lifecycleShutdown = false →
      d.adapterReconnect.state ≠ .waitingForRetry) : Spared watched d.onConnectionLost := by
  cases hstate : d.adapterReconnect.state with
  | idle =>
      rw [onConnectionLost_of_idle hstate h.steady.delay (h.steady.arms _)]
      exact ⟨h.steady.of_not_attempting rfl rfl (by simp), h.unblamed⟩
  | attempting =>
      rw [onConnectionLost_of_attempting hstate]
      exact h
  | waitingForRetry =>
      rw [onConnectionLost_of_waiting hstate (h.steady.arms _)]
      refine ⟨steady_attempted h.steady.arms h.steady.delay, fun hwatched => ?_⟩
      refine unblamed_attempted (h.unblamed hwatched) fun hsuspended => ?_
      by_contra hopen
      exact hspared hwatched hsuspended (by simpa using hopen) hstate

theorem onReconnectRetryTimerFired (h : Spared watched d)
    (hspared : watched → d.suspended = true → d.lifecycleShutdown = false →
      d.adapterReconnect.state ≠ .waitingForRetry) :
    Spared watched d.onReconnectRetryTimerFired := by
  by_cases hstate : d.adapterReconnect.state = .waitingForRetry
  · rw [onReconnectRetryTimerFired_of_waiting hstate (h.steady.arms _)]
    refine ⟨steady_attempted h.steady.arms h.steady.delay, fun hwatched => ?_⟩
    refine unblamed_attempted (h.unblamed hwatched) fun hsuspended => ?_
    by_contra hopen
    exact hspared hwatched hsuspended (by simpa using hopen) hstate
  · rw [onReconnectRetryTimerFired_of_not_waiting hstate]
    exact ⟨h.steady.keep rfl rfl rfl rfl, h.unblamed⟩

/-- A resume lowers the flag. -/
theorem resumeReported_resumedWith (h : Spared watched d) (ticket : ℕ) (adapterValid : Bool)
    (posts : List Post) :
    Spared watched (d.resumedWith ticket adapterValid posts).resumeReported := by
  have hresumed : Spared watched (d.resumedWith ticket adapterValid posts) :=
    h.keep ⟨h.steady.arms, h.steady.delay, fun hflag => absurd hflag (by simp [resumedWith])⟩ rfl
      (by simp [Effect.countsSuspension])
  unfold resumeReported
  split_ifs
  · exact hresumed.keep (hresumed.steady.keep rfl rfl rfl rfl) rfl
      (by simp [Effect.countsSuspension])
  · exact hresumed

/-- A completion is handed to the supervisor. -/
theorem invoked (h : Spared watched d) (ticket : ℕ) (posts : List Post) :
    Spared watched { d with posts := posts, log := d.log ++ [.invoked ticket] } :=
  h.keep (h.steady.keep rfl rfl rfl rfl) rfl (by simp [Effect.countsSuspension])

theorem stepStable (watched : Prop) :
    StepStable (fun d label => watched → StartsNoAttemptSuspended d label) (Spared watched) where
  settle rounds h := h.settle rounds
  received _ h := h.keep (h.steady.keep rfl rfl rfl rfl) rfl (by simp [Effect.countsSuspension])
  safetyFired {d} h := by
    refine h.keep (h.steady.keep rfl rfl rfl rfl) rfl ?_
    split_ifs <;> simp
  answered _ _ h := h.keep (h.steady.keep rfl rfl rfl rfl) rfl (by simp [Effect.countsSuspension])
  standby _ h := ⟨h.steady.keep rfl rfl rfl rfl, h.unblamed⟩
  parked _ h _ _ _ _ :=
    h.keep (h.steady.keep rfl rfl rfl rfl) rfl (by simp [Effect.countsSuspension])
  live _ h _ _ _ _ :=
    h.keep (h.steady.keep rfl rfl rfl rfl) rfl (by simp [Effect.countsSuspension])
  posted _ h := ⟨h.steady.keep rfl rfl rfl rfl, h.unblamed⟩
  powerDrained h _ := ⟨h.steady.keep rfl rfl rfl rfl, h.unblamed⟩
  replyDrained _ h _ :=
    h.keep (h.steady.keep rfl rfl rfl rfl) rfl (by simp [Effect.countsSuspension])
  suspendDrained {d ticket posts} h _ := by
    unfold suspendReported
    split_ifs
    · refine (h.invoked ticket posts).keep (h.steady.keep rfl rfl rfl rfl) rfl ?_
      split_ifs <;> simp [Effect.countsSuspension]
    · exact h.invoked ticket posts
  resumeDrained _ h _ :=
    resumeDrained_of_reported (P := Spared watched) (fun rounds h => h.settle rounds)
      seedReconnect (h.resumeReported_resumedWith _ _ _)
  reconnectDrained {d ticket ok posts} _ h _ := (h.invoked ticket posts).onReconnectResult ok
  lostDrained {d posts} hC h hposts := by
    refine onConnectionLost ⟨h.steady.keep rfl rfl rfl rfl, h.unblamed⟩ ?_
    intro hwatched hsuspended hopen hstate
    exact (hC hwatched hsuspended hopen hstate).2 ⟨rfl, by simp [hposts]⟩
  retryTimer hC h := by
    refine h.onReconnectRetryTimerFired ?_
    intro hwatched hsuspended hopen hstate
    exact (hC hwatched hsuspended hopen hstate).1 rfl
  safetyExpired h := ⟨h.steady.keep rfl rfl rfl rfl, h.unblamed⟩
  retryExpired _ h := ⟨h.steady.keep rfl rfl rfl rfl, h.unblamed⟩
  taken {d job jobs} h _ _ _ := by
    refine h.keep (h.steady.keep rfl rfl rfl rfl) rfl ?_
    cases job <;> simp [Job.command?, Effect.countsSuspension]
  reopening h _ _ _ := ⟨h.steady.keep rfl rfl rfl rfl, h.unblamed⟩
  opened h _ _ := ⟨h.steady.keep rfl rfl rfl rfl, h.unblamed⟩
  called _ h _ _ _ := ⟨h.steady.keep rfl rfl rfl rfl, h.unblamed⟩
  ticked _ h _ _ := ⟨h.steady.keep rfl rfl rfl rfl, h.unblamed⟩
  slept h _ _ := ⟨h.steady.keep rfl rfl rfl rfl, h.unblamed⟩
  finished {d r result throttler} _ h _ _ := by
    rcases result with _ | (_ | p)
    · exact h.keep (h.steady.keep rfl rfl rfl rfl) rfl (by simp [Effect.countsSuspension])
    · exact ⟨h.steady.keep rfl rfl rfl rfl, h.unblamed⟩
    · exact ⟨h.steady.keep rfl rfl rfl rfl, h.unblamed⟩
  exited h _ _ := ⟨h.steady.keep rfl rfl rfl rfl, h.unblamed⟩
  alerted h := ⟨h.steady.keep rfl rfl rfl rfl, h.unblamed⟩
  alertPosted h _ := ⟨h.steady.keep rfl rfl rfl rfl, h.unblamed⟩
  stopped {d} h := by
    rw [stop_eq]
    refine h.keep ⟨h.steady.arms, h.steady.delay, fun _ hopen => absurd hopen (by simp)⟩ rfl ?_
    split_ifs <;> simp [Effect.countsSuspension]

theorem boot (watched : Prop) {setup : Setup} (harms : ∀ n, setup.armOk n = true) :
    Spared watched (boot setup) :=
  ⟨⟨harms, by simp [Daemon.boot], by simp [Daemon.boot]⟩, fun _ => unblamed_nil⟩

end Spared

/-- The part that needs no condition on the steps. -/
theorem Steady.stepStable {C : Daemon → Label → Prop} : StepStable C Steady := by
  have hspared : Spared False = Steady :=
    funext fun d => propext ⟨Spared.steady, fun hsteady => ⟨hsteady, False.elim⟩⟩
  rw [← hspared]
  exact (Spared.stepStable False).of_condition fun _ _ _ => False.elim

/-- An attempt started while suspended is refused and counted. -/
theorem exists_refused_of_startsAttempt {label : Label} {next : Daemon} (hsteady : Steady d)
    (hstarts : ¬ StartsNoAttemptSuspended d label) (hstep : machine.step d label = some next) :
    ¬ Unblamed next.log := by
  simp only [StartsNoAttemptSuspended, not_forall] at hstarts
  obtain ⟨hsuspended, hopen, hstate, hlabel⟩ := hstarts
  have hrefused : .refused d.tickets ∈ next.log := by
    by_cases htimer : label = .retryTimer
    · subst htimer
      rw [← Option.some.inj hstep, onReconnectRetryTimerFired_of_waiting hstate (hsteady.arms _)]
      exact refused_mem_attempted hsuspended hopen
    · obtain ⟨rfl, hhead⟩ : label = .drain ∧ d.posts.head? = some .connectionLost := by
        by_contra hdrain
        exact hlabel ⟨htimer, hdrain⟩
      obtain ⟨posts, hposts⟩ := List.head?_eq_some_iff.mp hhead
      simp only [machine, step, hposts, Option.some.injEq] at hstep
      rw [← hstep]
      change .refused d.tickets ∈ (onConnectionLost { d with posts := posts }).log
      rw [onConnectionLost_of_waiting (by exact hstate) (by exact hsteady.arms _)]
      exact refused_mem_attempted hsuspended hopen
  intro hunblamed
  simpa [Effect.countsSuspension] using hunblamed _ hrefused

/-- **Suspension counted against the adapter.** When timers can be armed, a run
counts no suspension against the adapter (it neither feeds a refusal to the
backoff schedule nor abandons a cycle while suspended) if and only if no attempt
is started in it while the adapter is suspended. -/
theorem unblamed_iff_startsNoAttemptSuspended {setup : Setup} {labels : List Label} {d : Daemon}
    (harms : ∀ n, setup.armOk n = true) (hrun : machine.run (boot setup) labels = some d) :
    Unblamed d.log ↔ machine.Meets StartsNoAttemptSuspended (boot setup) labels := by
  constructor
  · intro hunblamed
    refine machine.meets_of_unmarked (I := Steady) (fun d => ¬ Unblamed d.log)
      ?_ ?_ exists_refused_of_startsAttempt (Spared.boot False harms).steady hrun
      (not_not.mpr hunblamed)
    · intro d label next hsteady hstep
      exact Steady.stepStable (C := fun _ _ => True) |>.step hsteady trivial hstep
    · intro d label next hmarked hstep hunblamed'
      refine hmarked fun e he => hunblamed' e ?_
      exact (mem_log_stepStable (C := fun _ _ => True) e).step he trivial hstep
  · intro hmeets
    have hspared := (Spared.stepStable True).run (Spared.boot True harms)
      (machine.meets_mono (fun _ _ hC _ => hC) hmeets) hrun
    exact hspared.unblamed trivial

/-- An alert drained just after a suspend request opens a cycle, which the resume
interrupts before its retry is due. -/
def lossDuringSuspend : List Label :=
  [.alertStore, .alertPost, .wire ⟨.cmdSuspend, 0, []⟩, .drain, .workerTake,
    .workerCall (.ok false), .workerCall (.ok true), .workerFinish, .drain,
    .wire ⟨.cmdResume, 0, []⟩, .retryTimer]

theorem unblamed_iff_startsNoAttemptSuspended_lossDuringSuspend :
    machine.Meets StartsNoAttemptSuspended (boot {}) lossDuringSuspend := by
  have hlog : (machine.run (boot {}) lossDuringSuspend).map (fun d => decide (Unblamed d.log)) =
      some true := by decide
  obtain ⟨d, hd, hunblamed⟩ := Option.map_eq_some_iff.mp hlog
  exact (unblamed_iff_startsNoAttemptSuspended (fun _ => rfl) hd).mp
    (of_decide_eq_true hunblamed)

/-- The same loss with the retries falling due during the suspension. -/
def retriesDuringSuspend : List Label :=
  [.alertStore, .alertPost, .wire ⟨.cmdSuspend, 0, []⟩, .drain, .workerTake,
    .workerCall (.ok false), .workerCall (.ok true), .workerFinish, .drain,
    .retryExpire, .retryTimer, .retryExpire, .retryTimer, .retryExpire, .retryTimer,
    .retryExpire, .retryTimer]

/-- The daemon gives the adapter up, and shuts down, while it is suspended and not
shut down. -/
theorem abandoned_while_suspended :
    ¬ ∀ labels d, machine.run (boot {}) labels = some d → .abandoned true false ∉ d.log := by
  intro hclaim
  have hrun : (machine.run (boot {}) retriesDuringSuspend).map
      (fun d => decide (.abandoned true false ∈ d.log)) = some true := by decide
  obtain ⟨d, hd, habandoned⟩ := Option.map_eq_some_iff.mp hrun
  exact hclaim _ d hd (of_decide_eq_true habandoned)

end Daemon

end CecControl
