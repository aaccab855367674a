/-
# The daemon comes to rest

Once nobody asks anything of it any more, the daemon settles: whatever the adapter answers or throws,
and however often an attempt fails, the worker, the main thread, the timers and the alert thread run
out of things to do, and then everything that was asked has been seen to.

That the steps run out is shown in two orders, one after the other. A reserve is put aside for
whatever may still happen on account of what is queued, posted or armed: a cycle of attempts for an
alert, a job and perhaps such a cycle for a request, a retry for each delay that is left. Every step
takes from it, except those by which the worker goes on with its job, and a job is a finite program.
-/

import CecControl.Daemon.Completion
import CecControl.Daemon.WorkingOff
import CecControl.Lib.Progress

namespace CecControl

open Lib PowerLifecycle

/-! ## What a cycle of attempts may still cost -/

namespace TimerSource

/-- An armed timer expires and is read. -/
def reserve : TimerSource → ℕ
  | .armed _ => 2
  | .expired => 1
  | .disarmed => 0

@[simp]
theorem reserve_disarmed : reserve .disarmed = 0 := rfl

@[simp]
theorem reserve_expired : reserve .expired = 1 := rfl

@[simp]
theorem reserve_armed (ms : ℕ) : reserve (.armed ms) = 2 := rfl

theorem reserve_le (timer : TimerSource) : timer.reserve ≤ 2 := by
  cases timer <;> simp

end TimerSource

namespace AdapterReconnect

/-- Retries left in the schedule. -/
def remaining (r : AdapterReconnect) : ℕ := r.schedule.delays.length - r.schedule.attempt

/-- A retry is a timer and a job. -/
def reserve (r : AdapterReconnect) : ℕ :=
  match r.state with
  | .idle => 0
  | .attempting => 7 * r.remaining
  | .waitingForRetry => 7 * r.remaining + 4

/-- A whole cycle, with the timer it may begin with. -/
def cycleReserve (retries : ℕ) : ℕ := 7 * retries + 6

theorem onEvent_delays (r : AdapterReconnect) (event : Event) :
    (r.onEvent event).1.schedule.delays = r.schedule.delays := by
  cases hstate : r.state with
  | idle =>
      simp only [onEvent, hstate]
      split_ifs <;> rfl
  | attempting =>
      cases event with
      | attemptFailed =>
          rcases onEvent_attemptFailed_of_attempting hstate with ⟨_, _, h⟩ | ⟨_, h⟩ <;> simp [h]
      | _ => simp [onEvent, hstate]
  | waitingForRetry => cases event <;> simp [onEvent, hstate]

theorem seedCycle_delays (r : AdapterReconnect) (delay : ℕ) :
    (r.seedCycle delay).1.schedule.delays = r.schedule.delays := by
  unfold seedCycle
  split_ifs <;> rfl

theorem interrupted_delays (r : AdapterReconnect) :
    r.interrupted.schedule.delays = r.schedule.delays := by
  unfold interrupted
  split_ifs <;> rfl

/-- A retry that is drawn is one less. -/
theorem remaining_nextDelay {r : AdapterReconnect} {attempt : BackoffSchedule.Attempt}
    (h : r.schedule.nextDelay.1 = some attempt) :
    r.schedule.nextDelay.2.delays.length - r.schedule.nextDelay.2.attempt + 1 = r.remaining := by
  unfold BackoffSchedule.nextDelay at h ⊢
  cases hdelay : r.schedule.delays[r.schedule.attempt]? with
  | none => simp [hdelay] at h
  | some delay =>
      have hlt := (List.getElem?_eq_some_iff.mp hdelay).1
      simp only [remaining]
      omega

/-- A result ends the attempt, or takes a retry from the schedule. -/
theorem reserve_result (r : AdapterReconnect) {event : Event}
    (hresult : event = .attemptSucceeded ∨ event = .attemptFailed) :
    (r.onEvent event).2.effect = .none ∧ (r.onEvent event).1.reserve ≤ r.reserve ∨
      (r.onEvent event).2.effect = .abandonCycle ∧ (r.onEvent event).1.reserve ≤ r.reserve ∨
      (r.onEvent event).2.effect = .scheduleRetry ∧ (r.onEvent event).1.reserve + 3 ≤ r.reserve := by
  cases hstate : r.state with
  | idle => rcases hresult with rfl | rfl <;> simp [onEvent, hstate]
  | waitingForRetry => rcases hresult with rfl | rfl <;> simp [onEvent, hstate]
  | attempting =>
      rcases hresult with rfl | rfl
      · simp [onEvent, hstate, reserve]
      · rcases onEvent_attemptFailed_of_attempting hstate with ⟨attempt, hnext, h⟩ | ⟨_, h⟩
        · have hremaining := remaining_nextDelay hnext
          right; right
          rw [h]
          refine ⟨rfl, ?_⟩
          simp only [reserve, hstate, remaining] at hremaining ⊢
          omega
        · right; left
          rw [h]
          exact ⟨rfl, Nat.zero_le _⟩

/-- A lost connection starts the cycle over. -/
theorem reserve_connectionLost (r : AdapterReconnect) :
    (r.onEvent .connectionLost).2.effect = .none ∧
        (r.onEvent .connectionLost).1.reserve ≤ r.reserve ∨
      (r.onEvent .connectionLost).2.effect = .scheduleRetry ∧
        (r.onEvent .connectionLost).1.reserve ≤ 7 * r.schedule.delays.length + 4 ∨
      (r.onEvent .connectionLost).2.effect = .startAttempt ∧
        (r.onEvent .connectionLost).1.state = .attempting ∧
        (r.onEvent .connectionLost).1.reserve ≤ 7 * r.schedule.delays.length := by
  cases hstate : r.state with
  | idle =>
      simp only [onEvent, hstate, if_true]
      split_ifs <;> simp [reserve, remaining, BackoffSchedule.reset]
  | attempting => simp [onEvent, hstate, reserve]
  | waitingForRetry => simp [onEvent, hstate, reserve, remaining, BackoffSchedule.reset]

theorem reserve_retryTimerFired (r : AdapterReconnect) :
    (r.onEvent .retryTimerFired).2.effect = .none ∧
        (r.onEvent .retryTimerFired).1.reserve ≤ r.reserve ∨
      (r.onEvent .retryTimerFired).2.effect = .startAttempt ∧
        (r.onEvent .retryTimerFired).1.state = .attempting ∧
        (r.onEvent .retryTimerFired).1.reserve + 4 ≤ r.reserve := by
  cases hstate : r.state <;> simp [onEvent, hstate, reserve, remaining]

theorem reserve_seedCycle (r : AdapterReconnect) (delay : ℕ) :
    (r.seedCycle delay).2.effect = .none ∧ (r.seedCycle delay).1.reserve ≤ r.reserve ∨
      (r.seedCycle delay).2.effect = .scheduleRetry ∧
        (r.seedCycle delay).1.reserve ≤ 7 * r.schedule.delays.length + 4 := by
  unfold seedCycle
  split_ifs <;> simp [reserve, remaining, BackoffSchedule.reset]

theorem reserve_timerArmFailed (r : AdapterReconnect) :
    (r.onEvent .timerArmFailed).1.reserve ≤ r.reserve := by
  cases hstate : r.state <;> simp [onEvent, hstate, reserve]

theorem reserve_interrupted (r : AdapterReconnect) : r.interrupted.reserve = 0 := by
  simp [reserve]

end AdapterReconnect

open AdapterReconnect (cycleReserve)

/-! ## What the daemon may still have to do -/

def Post.reserve (retries : ℕ) : Post → ℕ
  | .power _ => cycleReserve retries + 5
  | .connectionLost | .resumeDone _ _ => cycleReserve retries + 1
  | .suspendDone _ | .reconnectDone _ _ | .reply _ _ => 1

/-- What is put aside for the closure of a job. -/
def Job.reserve (retries : ℕ) : Job → ℕ
  | .resume _ => cycleReserve retries + 1
  | .suspend _ | .reconnect _ | .live _ _ | .replay _ _ => 1

namespace Daemon

/-- All but the retry timer. -/
def shelf (retries : ℕ) (d : Daemon) : ℕ :=
  (d.jobs.map fun job => job.reserve retries + 2).sum +
    (d.running.toList.map fun r => r.job.reserve retries + 1).sum +
    (d.posts.map (Post.reserve retries)).sum +
    (cycleReserve retries + 4) * d.powerLifecycle.pending.length + 3 * d.queued.length +
    d.suspendSafetyTimer.reserve + (cycleReserve retries + 2) * d.alerting +
    d.adapterReconnect.reserve

def reserve (retries : ℕ) (d : Daemon) : ℕ := d.shelf retries + d.reconnectRetryTimer.reserve

/-- The retries of a cycle. -/
def retries (d : Daemon) : ℕ := d.adapterReconnect.schedule.delays.length

variable {d : Daemon} {n bound : ℕ}

/-- The schedule stays, and no more is put aside than that. -/
structure Within (n bound : ℕ) (d : Daemon) : Prop where
  retries : d.retries = n
  reserve : d.reserve n ≤ bound

theorem Within.mono (h : Within n bound d) {bound' : ℕ} (hle : bound ≤ bound') : Within n bound' d :=
  ⟨h.retries, Nat.le_trans h.reserve hle⟩

theorem reserve_le_shelf (d : Daemon) : d.reserve n ≤ d.shelf n + 2 :=
  Nat.add_le_add_left (TimerSource.reserve_le _) _

/-! ## Attempts -/

/-- What a machine event changes of it. -/
theorem shelf_reconnectEvent (d : Daemon) (event : AdapterReconnect.Event) :
    (d.reconnectEvent event).1.shelf n + d.adapterReconnect.reserve =
      d.shelf n + (d.adapterReconnect.onEvent event).1.reserve := by
  simp only [shelf, reconnectEvent]
  omega

theorem retries_reconnectEvent (d : Daemon) (event : AdapterReconnect.Event) :
    (d.reconnectEvent event).1.retries = d.retries := by
  simp [retries, reconnectEvent, AdapterReconnect.onEvent_delays]

/-- An effect that starts no attempt sets the timer at most. -/
theorem execute_quiet {depth : ℕ} {out : AdapterReconnect.Output}
    (hquiet : out.effect ≠ .startAttempt) :
    (executeWithin depth d out).shelf n ≤ d.shelf n ∧
      (executeWithin depth d out).retries = d.retries := by
  refine executeWithin_of_quiet (P := fun d' => d'.shelf n ≤ d.shelf n ∧ d'.retries = d.retries)
    (fun _ _ h => h) (fun {d'} h => ?_) (fun h => h) hquiet ⟨Nat.le_refl _, rfl⟩
  have hshelf := shelf_reconnectEvent (n := n) d' .timerArmFailed
  have hless := d'.adapterReconnect.reserve_timerArmFailed
  exact ⟨by omega, (retries_reconnectEvent d' _).trans h.2⟩

/-- An effect that does nothing. -/
theorem executeWithin_none {depth : ℕ} {out : AdapterReconnect.Output} (hnone : out.effect = .none) :
    executeWithin depth d out = d := by
  cases depth with
  | zero => rfl
  | succ depth => simp [executeWithin, hnone]

theorem executeWithin_abandon {depth : ℕ} {out : AdapterReconnect.Output}
    (habandon : out.effect = .abandonCycle) :
    (executeWithin depth d out).reserve n = d.reserve n := by
  cases depth with
  | zero => rfl
  | succ depth =>
      simp only [executeWithin, habandon]
      rfl

/-- The result of an attempt takes a retry, or ends the cycle. -/
theorem Within.result (h : Within n bound d) {depth : ℕ} {event : AdapterReconnect.Event}
    (hresult : event = .attemptSucceeded ∨ event = .attemptFailed) :
    Within n bound (executeWithin depth (d.reconnectEvent event).1 (d.reconnectEvent event).2) := by
  have hshelf := shelf_reconnectEvent (n := n) d event
  have hretries := (retries_reconnectEvent d event).trans h.retries
  have hreserve := h.reserve
  have htimer : (d.reconnectEvent event).1.reconnectRetryTimer = d.reconnectRetryTimer := rfl
  have hcases := d.adapterReconnect.reserve_result hresult
  rw [← show (d.reconnectEvent event).2 = (d.adapterReconnect.onEvent event).2 from rfl] at hcases
  unfold Daemon.reserve at hreserve
  obtain ⟨heffect, hle⟩ | ⟨heffect, hle⟩ | ⟨heffect, hle⟩ := hcases
  · rw [executeWithin_none heffect]
    refine ⟨hretries, ?_⟩
    rw [Daemon.reserve, htimer]
    omega
  · refine ⟨(execute_quiet (n := n) (by simp [heffect])).2.trans hretries, ?_⟩
    rw [executeWithin_abandon heffect, Daemon.reserve, htimer]
    omega
  · have hquiet : (executeWithin depth (d.reconnectEvent event).1 (d.reconnectEvent event).2).shelf n ≤
          (d.reconnectEvent event).1.shelf n ∧
        (executeWithin depth (d.reconnectEvent event).1 (d.reconnectEvent event).2).retries =
          (d.reconnectEvent event).1.retries := execute_quiet (by simp [heffect])
    have hset := reserve_le_shelf (n := n)
      (executeWithin depth (d.reconnectEvent event).1 (d.reconnectEvent event).2)
    exact ⟨hquiet.2.trans hretries, by omega⟩

theorem shelf_reconnectAsync (d : Daemon) :
    d.reconnectAsync.1.shelf n ≤ d.shelf n + 3 ∧ d.reconnectAsync.1.retries = d.retries ∧
      d.reconnectAsync.1.reconnectRetryTimer = d.reconnectRetryTimer ∧
      ∀ ok, d.reconnectAsync.2 = some ok → d.reconnectAsync.1.shelf n = d.shelf n := by
  obtain ⟨-, ok, more, -, heq⟩ | ⟨-, -, -, heq⟩ := d.reconnectAsync_cases
  · rw [heq]
    exact ⟨Nat.le_add_right _ _, rfl, rfl, fun _ _ => rfl⟩
  · rw [heq]
    refine ⟨?_, rfl, rfl, by simp⟩
    by_cases hstop : d.stopRequested = true
    · simp [issue, shelf, hstop]
    · simp only [issue, emit, submit, shelf, hstop, if_false, Bool.false_eq_true, List.map_append,
        List.sum_append, List.map_cons, List.map_nil, List.sum_cons, List.sum_nil, Job.reserve]
      omega

/-- An attempt is a job, or comes to a result at once. -/
theorem within_startAttempt {depth : ℕ} {out : AdapterReconnect.Output} (hretries : d.retries = n)
    (hstarts : out.effect = .startAttempt) :
    Within n (d.shelf n + max 3 d.reconnectRetryTimer.reserve) (executeWithin depth d out) := by
  cases depth with
  | zero =>
      refine ⟨hretries, ?_⟩
      unfold executeWithin reserve
      omega
  | succ depth =>
      obtain ⟨hle, hsame, htimer, hdone⟩ := shelf_reconnectAsync (n := n)
        { d with reconnectRetryTimer := d.reconnectRetryTimer.disarm }
      have hshelf : shelf n { d with reconnectRetryTimer := d.reconnectRetryTimer.disarm } =
        d.shelf n := rfl
      simp only [executeWithin, hstarts]
      split
      · next d' heq =>
          rw [heq] at hle hsame htimer
          refine ⟨hsame.trans hretries, ?_⟩
          rw [reserve, show d'.reconnectRetryTimer = .disarmed from htimer]
          rw [TimerSource.reserve_disarmed]
          dsimp only at hle
          omega
      · next d' ok heq =>
          rw [heq] at hsame htimer hdone
          have hdone := hdone ok rfl
          have hwithin : Within n (d.shelf n) d' := by
            refine ⟨hsame.trans hretries, ?_⟩
            rw [reserve, show d'.reconnectRetryTimer = .disarmed from htimer]
            rw [TimerSource.reserve_disarmed]
            dsimp only at hdone
            omega
          exact (hwithin.result (by cases ok <;> simp)).mono (Nat.le_add_right _ _)

theorem Within.onReconnectResult (h : Within n bound d) (ok : Bool) :
    Within n bound (d.onReconnectResult ok) :=
  h.result (by cases ok <;> simp)

/-- A cycle that is started takes no more than was put aside for it. -/
theorem within_scheduleRetry {depth : ℕ} {out : AdapterReconnect.Output} (hretries : d.retries = n)
    (hschedules : out.effect = .scheduleRetry) :
    Within n (d.shelf n + 2) (executeWithin depth d out) := by
  have hquiet : (executeWithin depth d out).shelf n ≤ d.shelf n ∧
      (executeWithin depth d out).retries = d.retries := execute_quiet (by simp [hschedules])
  exact ⟨hquiet.2.trans hretries, Nat.le_trans (reserve_le_shelf _) (by omega)⟩

theorem Within.seedReconnect (h : Within n bound d) :
    Within n (bound + cycleReserve n) d.seedReconnect := by
  have hreserve := h.reserve
  have hretries := h.retries
  have hcases := d.adapterReconnect.reserve_seedCycle kPostResumeRetryDelay
  set d₁ : Daemon := { d with
    adapterReconnect := (d.adapterReconnect.seedCycle kPostResumeRetryDelay).1 } with hd₁
  have hsame : d₁.retries = n := by
    simpa [hd₁, Daemon.retries, AdapterReconnect.seedCycle_delays] using hretries
  have hshelf : d₁.shelf n + d.adapterReconnect.reserve =
      d.shelf n + (d.adapterReconnect.seedCycle kPostResumeRetryDelay).1.reserve := by
    simp only [hd₁, shelf]
    omega
  unfold Daemon.reserve at hreserve
  unfold Daemon.retries at hretries
  change Within n _ (executeWithin 3 d₁ (d.adapterReconnect.seedCycle kPostResumeRetryDelay).2)
  rw [hretries] at hcases
  obtain ⟨heffect, hle⟩ | ⟨heffect, hle⟩ := hcases
  · rw [executeWithin_none heffect]
    refine ⟨hsame, ?_⟩
    have htimer : d₁.reconnectRetryTimer = d.reconnectRetryTimer := rfl
    rw [Daemon.reserve, htimer]
    omega
  · refine (within_scheduleRetry hsame heffect).mono ?_
    unfold cycleReserve
    omega

theorem Within.onConnectionLost (h : Within n bound d) :
    Within n (bound + cycleReserve n) d.onConnectionLost := by
  have hreserve := h.reserve
  have hshelf := shelf_reconnectEvent (n := n) d .connectionLost
  have hretries := (retries_reconnectEvent d .connectionLost).trans h.retries
  have hcases := d.adapterReconnect.reserve_connectionLost
  rw [show d.adapterReconnect.schedule.delays.length = n from h.retries,
    ← show (d.reconnectEvent .connectionLost).2 =
      (d.adapterReconnect.onEvent .connectionLost).2 from rfl] at hcases
  have htimer : (d.reconnectEvent .connectionLost).1.reconnectRetryTimer = d.reconnectRetryTimer :=
    rfl
  have hset := TimerSource.reserve_le d.reconnectRetryTimer
  unfold Daemon.reserve at hreserve
  unfold Daemon.onConnectionLost onReconnectEvent execute
  obtain ⟨heffect, hle⟩ | ⟨heffect, hle⟩ | ⟨heffect, -, hle⟩ := hcases
  · rw [executeWithin_none heffect]
    refine ⟨hretries, ?_⟩
    rw [Daemon.reserve, htimer]
    omega
  · refine (within_scheduleRetry hretries heffect).mono ?_
    unfold cycleReserve
    omega
  · refine (within_startAttempt hretries heffect).mono ?_
    rw [htimer]
    unfold cycleReserve
    omega

/-- A retry that is due is one less to come. -/
theorem Within.onReconnectRetryTimerFired (h : Within n (bound + 1) d)
    (hdue : d.reconnectRetryTimer = .expired) : Within n bound d.onReconnectRetryTimerFired := by
  have hreserve := h.reserve
  set d₁ : Daemon := { d with reconnectRetryTimer := d.reconnectRetryTimer.consume } with hd₁
  have hconsumed : d₁.reconnectRetryTimer = .disarmed := by simp [hd₁, hdue, TimerSource.consume]
  have hsame : d₁.shelf n = d.shelf n := rfl
  have hshelf := shelf_reconnectEvent (n := n) d₁ .retryTimerFired
  have hretries := (retries_reconnectEvent d₁ .retryTimerFired).trans h.retries
  have hcases := d₁.adapterReconnect.reserve_retryTimerFired
  rw [← show (d₁.reconnectEvent .retryTimerFired).2 =
    (d₁.adapterReconnect.onEvent .retryTimerFired).2 from rfl] at hcases
  have htimer : (d₁.reconnectEvent .retryTimerFired).1.reconnectRetryTimer = .disarmed := hconsumed
  rw [Daemon.reserve, hdue] at hreserve
  rw [TimerSource.reserve_expired] at hreserve
  change Within n bound (executeWithin 3 (d₁.reconnectEvent .retryTimerFired).1
    (d₁.reconnectEvent .retryTimerFired).2)
  obtain ⟨heffect, hle⟩ | ⟨heffect, -, hle⟩ := hcases
  · rw [executeWithin_none heffect]
    refine ⟨hretries, ?_⟩
    rw [Daemon.reserve, htimer]
    rw [TimerSource.reserve_disarmed]
    omega
  · refine (within_startAttempt hretries heffect).mono ?_
    rw [htimer]
    rw [TimerSource.reserve_disarmed]
    omega

/-! ## Requests -/

theorem reserve_interruptedTimer (d : Daemon) :
    d.interruptedTimer.reserve ≤ d.reconnectRetryTimer.reserve := by
  unfold interruptedTimer
  split_ifs
  · exact Nat.zero_le _
  · exact Nat.le_refl _

theorem retries_interrupted (d : Daemon) :
    d.adapterReconnect.interrupted.schedule.delays.length = d.retries := by
  rw [AdapterReconnect.interrupted_delays, Daemon.retries]

/-- The first request of the queue, and what is put aside for it. -/
theorem reserve_pending {request : Pending} {rest : List Pending}
    (hpending : d.powerLifecycle.pending = request :: rest) :
    d.reserve n = d.reconnectRetryTimer.reserve + (cycleReserve n + 4) +
      shelf n { d with powerLifecycle := { d.powerLifecycle with pending := rest } } := by
  simp only [Daemon.reserve, shelf, hpending, List.length_cons, Nat.mul_add]
  omega

section Round

variable {request : Pending} {source : Source} {rest : List Pending}

theorem Within.suspendNow (h : Within n bound d)
    (hpending : d.powerLifecycle.pending = request :: rest) :
    Within n bound (d.suspendNow source rest) := by
  have hreserve := reserve_pending (n := n) hpending ▸ h.reserve
  have htimer := reserve_interruptedTimer d
  refine ⟨(retries_interrupted d).trans h.retries, ?_⟩
  simp only [Daemon.reserve, shelf, Daemon.suspendNow, AdapterReconnect.reserve_interrupted,
    TimerSource.reserve_disarmed] at hreserve ⊢
  omega

theorem Within.suspendLater (h : Within n bound d)
    (hpending : d.powerLifecycle.pending = request :: rest) :
    Within n bound (d.suspendLater source rest) := by
  have hreserve := reserve_pending (n := n) hpending ▸ h.reserve
  have htimer := reserve_interruptedTimer d
  have hsafety := TimerSource.reserve_le
    (d.suspendSafetyTimer.armOnce kSuspendSafetyDeadline (d.armOk d.arms))
  refine ⟨(retries_interrupted d).trans h.retries, ?_⟩
  simp only [Daemon.reserve, shelf, Daemon.suspendLater, AdapterReconnect.reserve_interrupted]
    at hreserve ⊢
  have hjobs : ((if d.stopRequested = true then d.jobs else d.jobs ++ [.suspend d.tickets]).map
      fun job => job.reserve n + 2).sum ≤ (d.jobs.map fun job => job.reserve n + 2).sum + 3 := by
    split_ifs
    · exact Nat.le_add_right _ _
    · simp [Job.reserve]
  unfold cycleReserve at hreserve ⊢
  omega

theorem Within.resumeNow (h : Within n bound d)
    (hpending : d.powerLifecycle.pending = request :: rest) :
    Within n (bound - cycleReserve n) (d.resumeNow source rest) ∧ cycleReserve n ≤ bound := by
  have hreserve := reserve_pending (n := n) hpending ▸ h.reserve
  have htimer := reserve_interruptedTimer d
  refine ⟨⟨(retries_interrupted d).trans h.retries, ?_⟩, by omega⟩
  simp only [Daemon.reserve, shelf, Daemon.resumeNow, AdapterReconnect.reserve_interrupted]
    at hreserve ⊢
  omega

theorem Within.resumeLater (h : Within n bound d)
    (hpending : d.powerLifecycle.pending = request :: rest) :
    Within n bound (d.resumeLater source rest) := by
  have hreserve := reserve_pending (n := n) hpending ▸ h.reserve
  have htimer := reserve_interruptedTimer d
  refine ⟨(retries_interrupted d).trans h.retries, ?_⟩
  have hjobs : ((if d.stopRequested = true then d.jobs else d.jobs ++ [.resume d.tickets]).map
      fun job => job.reserve n + 2).sum ≤
      (d.jobs.map fun job => job.reserve n + 2).sum + (cycleReserve n + 3) := by
    split_ifs
    · exact Nat.le_add_right _ _
    · simp [Job.reserve]
  simp only [Daemon.reserve, shelf, Daemon.resumeLater, AdapterReconnect.reserve_interrupted]
    at hreserve ⊢
  omega

end Round

/-- What a request has put aside pays for its job, and for the cycle that may follow. -/
theorem Within.settle (h : Within n bound d) (rounds : ℕ) : Within n bound (settle rounds d) := by
  induction rounds generalizing d bound with
  | zero => exact h
  | succ rounds ih =>
      rcases settle_succ_cases rounds d with
        ⟨hphase, source, rest, hpending, ⟨hnow, heq⟩ | ⟨hlater, heq⟩⟩ |
        ⟨hphase, source, rest, hpending, ⟨hnow, heq⟩ | ⟨hlater, heq⟩⟩ | ⟨_, heq⟩
      · rw [heq]
        exact ih (h.suspendNow hpending)
      · rw [heq]
        exact h.suspendLater hpending
      · rw [heq]
        have hresumed : Within n (bound - cycleReserve n) (d.resumeNow source rest) ∧
          cycleReserve n ≤ bound := h.resumeNow hpending
        have hle := hresumed.2
        exact (ih hresumed.1).seedReconnect.mono (by omega)
      · rw [heq]
        exact h.resumeLater hpending
      · rw [heq]
        exact h

/-- A request takes what was put aside for its closure. -/
theorem Within.onRequested (h : Within n bound d) (request : Pending) :
    Within n (bound + (cycleReserve n + 4)) (d.onRequested request) := by
  have hreserve := h.reserve
  rw [onRequested_eq_settle]
  refine Within.settle (d := d.received request) ⟨h.retries, ?_⟩ _
  unfold received
  simp only [Daemon.reserve, shelf] at hreserve ⊢
  split_ifs
  · omega
  · simp only [List.length_append, List.length_singleton, Nat.mul_add]
    omega

theorem Within.onSafetyTimerFired (h : Within n (bound + 1) d)
    (hdue : d.suspendSafetyTimer = .expired) : Within n bound d.onSafetyTimerFired := by
  have hreserve := h.reserve
  rw [onSafetyTimerFired_eq_settle]
  refine Within.settle (d := d.safetyFired) ⟨h.retries, ?_⟩ _
  have hpending : d.powerLifecycle.onSafetyTimerFired.1.pending = d.powerLifecycle.pending := by
    unfold PowerLifecycle.onSafetyTimerFired
    split_ifs <;> rfl
  simp only [Daemon.reserve, shelf, safetyFired, hdue, hpending, TimerSource.consume,
    TimerSource.reserve_expired, TimerSource.reserve_disarmed] at hreserve ⊢
  omega

theorem Within.onSuspendCompleted (h : Within n bound d) : Within n bound d.onSuspendCompleted := by
  have hreserve := h.reserve
  rw [onSuspendCompleted_eq_settle]
  refine Within.settle ?_ _
  unfold suspendReported
  split_ifs
  · refine ⟨h.retries, ?_⟩
    simp only [Daemon.reserve, shelf, finishSuspend, TimerSource.reserve_disarmed] at hreserve ⊢
    omega
  · exact h

theorem Within.resumeReported (h : Within n bound d) : Within n bound d.resumeReported := by
  unfold Daemon.resumeReported
  split_ifs
  · exact ⟨h.retries, h.reserve⟩
  · exact h

/-- A parked command pays for its replay. -/
theorem reserve_replayJobs (commands : List Command) :
    ((replayJobs commands).map fun job => job.reserve n + 2).sum ≤ 3 * commands.length := by
  induction commands with
  | nil => simp [replayJobs]
  | cons command commands ih =>
      unfold replayJobs at ih ⊢
      rw [List.filterMap_cons, List.length_cons]
      split
      · omega
      · next job hjob =>
          obtain ⟨spec, -, hspec⟩ := Option.bind_eq_some_iff.mp hjob
          split_ifs at hspec
          rw [← Option.some.inj hspec, List.map_cons, List.sum_cons, Job.reserve]
          omega

/-- What was parked is replayed, or dropped. -/
theorem Within.resumedWith {posts : List Post} (h : Within n bound { d with posts := posts })
    (ticket : ℕ) (adapterValid : Bool) :
    Within n bound (d.resumedWith ticket adapterValid posts) := by
  have hreserve := h.reserve
  refine ⟨h.retries, ?_⟩
  have hjobs : ((if d.stopRequested = true then d.jobs
        else d.jobs ++ replayJobs (if adapterValid = true then d.queued else [])).map
      fun job => job.reserve n + 2).sum ≤
      (d.jobs.map fun job => job.reserve n + 2).sum + 3 * d.queued.length := by
    split_ifs
    · exact Nat.le_add_right _ _
    · have hreplay := reserve_replayJobs (n := n) d.queued
      simp only [List.map_append, List.sum_append]
      omega
    · simp [replayJobs]
  simp only [Daemon.reserve, shelf, Daemon.resumedWith, List.length_nil] at hreserve ⊢
  omega

/-- **What a closure does was put aside with it.** -/
theorem within_drained {p : Post} {posts : List Post} (hretries : d.retries = n)
    (hposts : d.posts = p :: posts) :
    Within n (d.reserve n - 1) (runPost { d with posts := posts } p) ∧ 0 < d.reserve n := by
  have hreserve : d.reserve n = p.reserve n + Daemon.reserve n { d with posts := posts } := by
    simp only [Daemon.reserve, shelf, hposts, List.map_cons, List.sum_cons]
    omega
  have hbefore : Within n (Daemon.reserve n { d with posts := posts }) { d with posts := posts } :=
    ⟨hretries, Nat.le_refl _⟩
  cases p with
  | suspendDone ticket =>
      simp only [Post.reserve] at hreserve
      have hafter : Within n _ (Daemon.emit { d with posts := posts } (.invoked ticket)) :=
        ⟨hbefore.retries, hbefore.reserve⟩
      exact ⟨hafter.onSuspendCompleted.mono (by omega), by omega⟩
  | resumeDone ticket adapterValid =>
      simp only [Post.reserve] at hreserve
      refine ⟨?_, by omega⟩
      have hsettled := (hbefore.resumedWith ticket adapterValid).resumeReported.settle
        d.powerLifecycle.pending.length
      rw [runPost_resumeDone]
      split_ifs
      · exact hsettled.mono (by omega)
      · exact hsettled.seedReconnect.mono (by omega)
  | reconnectDone ticket ok =>
      simp only [Post.reserve] at hreserve
      have hafter : Within n _ (Daemon.emit { d with posts := posts } (.invoked ticket)) :=
        ⟨hbefore.retries, hbefore.reserve⟩
      exact ⟨(hafter.onReconnectResult ok).mono (by omega), by omega⟩
  | reply id response =>
      simp only [Post.reserve] at hreserve
      have hafter : Within n _ (Daemon.emit { d with posts := posts } (.replied id response)) :=
        ⟨hbefore.retries, hbefore.reserve⟩
      exact ⟨hafter.mono (by omega), by omega⟩
  | connectionLost =>
      simp only [Post.reserve] at hreserve
      exact ⟨hbefore.onConnectionLost.mono (by omega), by omega⟩
  | power kind =>
      simp only [Post.reserve] at hreserve
      refine ⟨?_, by omega⟩
      cases kind with
      | suspend => exact (hbefore.onRequested ⟨.suspend, .dbus⟩).mono (by omega)
      | resume => exact (hbefore.onRequested ⟨.resume, .dbus⟩).mono (by omega)

/-! ## Steps that are due -/

/-- What the threads and the timers do without being asked for more: a timer's handler when its time
is up, an alert that has cleared the flag going on to post, and whatever the worker and the main
thread find to do. The clients, logind, libcec and a shutdown are left out. -/
def due (d : Daemon) : Label → Bool
  | .drain | .safetyExpire | .retryExpire | .workerTake | .workerReopen | .workerOpened
  | .workerCall _ | .workerClock _ | .workerSleep | .workerFinish | .alertPost => true
  | .safetyTimer => d.suspendSafetyTimer == .expired
  | .retryTimer => d.reconnectRetryTimer == .expired
  | .wire _ | .dbusSignal _ | .workerExit | .alertStore | .stop => false

/-- How far a reopen has to go. -/
def stageRank : ReopenStage → ℕ
  | .outside => 2
  | .closed => 1
  | .opened => 0

/-- What the worker has still to run, and how far a reopen has to go. -/
def ahead (d : Daemon) : JobProgram × ℕ :=
  match d.running with
  | some r => (r.rest, stageRank r.stage)
  | none => (.ret (.ok none, d.throttler), 0)

/-- What was put aside has become less, or the worker has gone on with its job. -/
def Lower (after before : ℕ × JobProgram × ℕ) : Prop :=
  Prod.Lex (· < ·) (Prod.Lex Program.Child (· < ·)) after before

theorem wellFounded_lower : WellFounded Lower :=
  WellFounded.prod_lex Nat.lt_wfRel.wf (WellFounded.prod_lex Program.wellFounded_child
    Nat.lt_wfRel.wf)

def rank (n : ℕ) (d : Daemon) : ℕ × JobProgram × ℕ := (d.reserve n, d.ahead)

/-- A due step leaves less to be done. -/
structure Lowered (n : ℕ) (d d' : Daemon) : Prop where
  retries : d'.retries = n
  lower : Lower (d'.rank n) (d.rank n)

theorem lowered_of_within {d' : Daemon} (h : Within n (d.reserve n - 1) d') (hpos : 0 < d.reserve n) :
    Lowered n d d' where
  retries := h.retries
  lower := Prod.Lex.left _ _ (by have := h.reserve; omega)

/-- The worker has gone on with its job. -/
theorem lowered_of_running (hretries : d.retries = n) {r : Running} (hrunning : d.running = some r)
    {rest : JobProgram} {stage : ReopenStage} {connected : Bool}
    (hlower : Prod.Lex Program.Child (· < ·) (rest, stageRank stage) (r.rest, stageRank r.stage)) :
    Lowered n d { d with running := some ⟨r.job, rest, stage⟩, connected := connected } := by
  refine ⟨hretries, ?_⟩
  have hreserve : Daemon.reserve n
      { d with running := some ⟨r.job, rest, stage⟩, connected := connected } = d.reserve n := by
    simp [Daemon.reserve, shelf, hrunning]
  unfold Lower rank ahead
  rw [hreserve, hrunning]
  exact Prod.Lex.right _ hlower

/-- The closure that a job posts was put aside with the job. -/
theorem lowered_finishJob (hretries : d.retries = n) {r : Running} (hrunning : d.running = some r)
    {result : Except Exn (Option Post)} {throttler : CommandThrottler}
    (hends : ∀ p, result = .ok p → r.job.Completes p) :
    Lowered n d (d.finishJob r.job result throttler) := by
  have hpost : ∀ p, result = .ok (some p) → p.reserve n = r.job.reserve n := by
    intro p hresult
    have hcompletes := hends _ hresult
    cases hjob : r.job <;> rw [hjob] at hcompletes <;>
      simp only [Job.Completes, Option.some.injEq, reduceCtorEq] at hcompletes
    · rw [hcompletes]
      rfl
    all_goals
      obtain ⟨_, rfl⟩ := hcompletes
      rfl
  refine lowered_of_within ⟨?_, ?_⟩ ?_
  · rcases result with e | (_ | p) <;> exact hretries
  · rcases result with e | (_ | p)
    · simp only [Daemon.reserve, shelf, finishJob, emit, hrunning, Option.toList, List.map_cons,
        List.map_nil, List.sum_cons, List.sum_nil]
      omega
    · simp only [Daemon.reserve, shelf, finishJob, hrunning, Option.toList, List.map_cons,
        List.map_nil, List.sum_cons, List.sum_nil]
      omega
    · have hsame := hpost p rfl
      simp only [Daemon.reserve, shelf, finishJob, post, hrunning, Option.toList, List.map_cons,
        List.map_nil, List.sum_cons, List.sum_nil, List.map_append, List.sum_append]
      omega
  · simp only [Daemon.reserve, shelf, hrunning, Option.toList, List.map_cons, List.sum_cons]
    omega

theorem lowered_of_works (hcoupled : Coupled d) (hretries : d.retries = n) {d' : Daemon}
    {r : Running} (hrunning : d.running = some r) {label : Label} (hworks : Works d r label d') :
    Lowered n d d' := by
  -- the worker goes on to what follows the call, whatever the answer
  have hnext {op : Op} {next : op.Ans → JobProgram} (hrest : r.rest = .call op next)
      (answer : op.Ans) (stage : ReopenStage) (connected : Bool) :
      Lowered n d { d with running := some ⟨r.job, next answer, stage⟩, connected := connected } := by
    refine lowered_of_running hretries hrunning (Prod.Lex.left _ _ ?_)
    rw [hrest]
    exact .next _ next _
  cases hworks with
  | reopening hrest hstage =>
      exact lowered_of_running hretries hrunning (Prod.Lex.right _ (by simp [hstage, stageRank]))
  | opened hstage =>
      exact lowered_of_running hretries hrunning (Prod.Lex.right _ (by simp [hstage, stageRank]))
  | called hrest hpossible => exact hnext hrest _ _ _
  | ticked time hrest => exact hnext hrest time r.stage d.connected
  | slept hrest => exact hnext hrest () r.stage d.connected
  | finished hrest =>
      have hends := hcoupled.completes r hrunning
      rw [hrest] at hends
      exact lowered_finishJob hretries hrunning hends

/-- **Step.** A due step leaves less to be done. -/
theorem lowered_of_due (hcoupled : Coupled d) (hretries : d.retries = n) {label : Label}
    (hdue : d.due label = true) {d' : Daemon} (hstep : machine.step d label = some d') :
    Lowered n d d' := by
  cases moves_of_step hstep with
  | drain hposts =>
      obtain ⟨hwithin, hpos⟩ := within_drained hretries hposts
      exact lowered_of_within hwithin hpos
  | safetyTimer =>
      have hexpired : d.suspendSafetyTimer = .expired := by simpa [due] using hdue
      have hpos : 0 < d.reserve n := by
        simp only [Daemon.reserve, shelf, hexpired, TimerSource.reserve_expired]
        omega
      exact lowered_of_within (Within.onSafetyTimerFired ⟨hretries, by omega⟩ hexpired) hpos
  | retryTimer =>
      have hexpired : d.reconnectRetryTimer = .expired := by simpa [due] using hdue
      have hpos : 0 < d.reserve n := by
        rw [Daemon.reserve, hexpired, TimerSource.reserve_expired]
        omega
      exact lowered_of_within (Within.onReconnectRetryTimerFired ⟨hretries, by omega⟩ hexpired) hpos
  | safetyExpire htimer =>
      refine lowered_of_within ⟨hretries, ?_⟩ ?_ <;>
        simp only [Daemon.reserve, shelf, htimer, TimerSource.reserve_armed,
          TimerSource.reserve_expired] <;>
        omega
  | retryExpire htimer =>
      refine lowered_of_within ⟨hretries, ?_⟩ ?_ <;>
        simp only [Daemon.reserve, shelf, htimer, TimerSource.reserve_armed,
          TimerSource.reserve_expired] <;>
        omega
  | workerTake hrunning hjobs hstop =>
      refine lowered_of_within ⟨hretries, ?_⟩ ?_ <;>
        simp only [Daemon.reserve, shelf, takeJob, hrunning, hjobs, Option.toList, List.map_cons,
          List.map_nil, List.sum_cons, List.sum_nil] <;>
        omega
  | alertPost halerting =>
      refine lowered_of_within ⟨hretries, ?_⟩ ?_ <;>
        simp only [Daemon.reserve, shelf, post, halerting, Post.reserve, List.map_append,
          List.map_cons, List.map_nil, List.sum_append, List.sum_cons, List.sum_nil,
          Nat.mul_add] <;>
        omega
  | working hrunning hworks => exact lowered_of_works hcoupled hretries hrunning hworks
  | _ => simp [due] at hdue

theorem descends (n : ℕ) : machine.Descends (fun d => Accounted d ∧ d.retries = n)
    (fun d label => d.due label = true) Lower (rank n) where
  keeps h hdue hstep := ⟨Accounted.stepStable.step h.1 trivial hstep,
    (lowered_of_due h.1.coupled h.2 hdue hstep).retries⟩
  lower h hdue hstep := (lowered_of_due h.1.coupled h.2 hdue hstep).lower

/-! ## Rest -/

/-- Nothing is queued, running, posted or armed. -/
structure AtRest (d : Daemon) : Prop where
  jobs : d.jobs = []
  running : d.running = none
  posts : d.posts = []
  alerting : d.alerting = 0
  safety : d.suspendSafetyTimer = .disarmed
  retry : d.reconnectRetryTimer = .disarmed

/-- The job that runs can go on. -/
theorem exists_workerStep {r : Running} (hrunning : d.running = some r) :
    ∃ label d', d.due label = true ∧ machine.step d label = some d' := by
  obtain ⟨job, rest, stage⟩ := r
  cases rest with
  | ret value => exact ⟨.workerFinish, _, rfl, by simp [machine, step, hrunning, workerStep]; rfl⟩
  | call op next =>
      cases op with
      | now => exact ⟨.workerClock 0, _, rfl, by simp [machine, step, hrunning, workerStep]; rfl⟩
      | sleep ms => exact ⟨.workerSleep, _, rfl, by simp [machine, step, hrunning, workerStep]; rfl⟩
      | adapter c =>
          by_cases hreopen : c = .reopenConnection ∧ stage = .outside
          · obtain ⟨rfl, rfl⟩ := hreopen
            exact ⟨.workerReopen, _, rfl, by simp [machine, step, hrunning, workerStep]; rfl⟩
          · have hanswer := possibleOutcome_answer d fun hc hstage => hreopen ⟨hc, hstage⟩
            exact ⟨.workerCall (.ok (c == .isConnected && d.connected)), _, rfl, by
              simp only [machine, step, hrunning, workerStep, hanswer, if_true]; rfl⟩

/-- The daemon is at rest when nothing is due, and only then. -/
theorem atRest_iff (hcoupled : Coupled d) :
    AtRest d ↔ ∀ label, d.due label = true → machine.step d label = none := by
  constructor
  · intro h label hdue
    cases label <;>
      simp [due, machine, step, h.jobs, h.running, h.posts, h.alerting, h.safety, h.retry]
        at hdue ⊢
  · intro hnone
    have hrunning : d.running = none := by
      by_contra hbusy
      obtain ⟨r, hr⟩ := Option.ne_none_iff_exists'.mp hbusy
      obtain ⟨label, d', hdue, hstep⟩ := exists_workerStep hr
      simp [hnone label hdue] at hstep
    refine ⟨?_, hrunning, ?_, ?_, ?_, ?_⟩
    · have htake := hnone .workerTake rfl
      cases hjobs : d.jobs with
      | nil => rfl
      | cons job jobs =>
          -- a worker that has been told to stop has no jobs
          have hstop : d.stopRequested = true := by simpa [machine, step, hrunning, hjobs] using htake
          simpa [hjobs] using hcoupled.gates.2.2 hstop
    · have hdrain := hnone .drain rfl
      cases hposts : d.posts with
      | nil => rfl
      | cons p posts => simp [machine, step, hposts] at hdrain
    · have hpost := hnone .alertPost rfl
      cases halerting : d.alerting with
      | zero => rfl
      | succ alerting => simp [machine, step, halerting] at hpost
    · have hexpire := hnone .safetyExpire rfl
      have hfire := hnone .safetyTimer
      cases htimer : d.suspendSafetyTimer with
      | disarmed => rfl
      | armed ms => simp [machine, step, htimer] at hexpire
      | expired => simp [due, machine, step, htimer] at hfire
    · have hexpire := hnone .retryExpire rfl
      have hfire := hnone .retryTimer
      cases htimer : d.reconnectRetryTimer with
      | disarmed => rfl
      | armed ms => simp [machine, step, htimer] at hexpire
      | expired => simp [due, machine, step, htimer] at hfire

/-- What has been asked has been seen to, save for what an exception has taken along. -/
structure SeenTo (d : Daemon) : Prop where
  callbacks : ∀ ticket < d.tickets,
    d.dischargedCount (.callback ticket) + d.lostCount (.callback ticket) = 1
  replies : ∀ id < d.requests, d.dischargedCount (.reply id) + d.lostCount (.reply id) = 1
  completed : (∀ job, .escaped job ∈ d.log → job.isReplay = true) → Completed d

theorem AtRest.seenTo (h : AtRest d) (haccounted : Accounted d) (hopen : d.stopRequested = false) :
    SeenTo d := by
  have hcount (o : Obligation) :
      d.dischargedCount o + d.lostCount o = issuedCount d.tickets d.requests o := by
    have hexactly := haccounted.balanced.exactly hopen o
    simpa [outstandingCount, h.jobs, h.running, h.posts] using hexactly
  refine ⟨fun ticket hticket => ?_, fun id hid => ?_, fun hfree => ?_⟩
  · rw [hcount, issuedCount, if_pos hticket]
  · rw [hcount, issuedCount, if_pos hid]
  · refine completed_of_not_orphaned haccounted hopen h.jobs h.running h.posts ?_
    rintro (⟨r, hr, -⟩ | ⟨job, hmem, hjob⟩)
    · simp [h.running] at hr
    · simp [hfree job hmem] at hjob

/-- **The daemon comes to rest.** Wherever a run has brought it: the steps that are due do not go on
for ever, in whatever order they are taken and whatever the adapter answers or throws; some of them
lead to rest; where none is left, the daemon is at rest, and unless it has been told to stop
whatever was asked has been seen to. -/
theorem comes_to_rest {setup : Setup} {labels : List Label} {d : Daemon}
    (hrun : machine.run (boot setup) labels = some d) :
    (∀ (states : ℕ → Daemon) (taken : ℕ → Label), states 0 = d →
      ∃ k, ¬ ((states k).due (taken k) = true ∧
        machine.step (states k) (taken k) = some (states (k + 1)))) ∧
    (∃ more d', machine.Meets (fun d label => d.due label = true) d more ∧
      machine.run d more = some d' ∧ AtRest d') ∧
    (AtRest d ↔ ∀ label, d.due label = true → machine.step d label = none) ∧
    (AtRest d → d.stopRequested = false → SeenTo d) := by
  have h : Accounted d := Accounted.stepStable.always (Accounted.boot setup) hrun
  refine ⟨?_, ?_, atRest_iff h.coupled, fun hrest hopen => hrest.seenTo h hopen⟩
  · rintro states taken rfl
    exact (descends (states 0).retries).exists_last wellFounded_lower ⟨h, rfl⟩
  · have hgo {d' : Daemon} (h' : Accounted d' ∧ d'.retries = d.retries) (hbusy : ¬ AtRest d') :
        ∃ label next, d'.due label = true ∧ machine.step d' label = some next := by
      by_contra hnone
      push Not at hnone
      refine hbusy ((atRest_iff h'.1.coupled).mpr fun label hdue => ?_)
      exact Option.eq_none_iff_forall_ne_some.mpr fun next => hnone label next hdue
    obtain ⟨more, d', hmeets, hmore, -, hrest⟩ :=
      (descends d.retries).exists_run wellFounded_lower hgo ⟨h, rfl⟩
    exact ⟨more, d', hmeets, hmore, hrest⟩

/-- The connection is lost while a client's suspend is with the worker. -/
def busyEvening : List Label :=
  [.wire ⟨.cmdSuspend, 0, []⟩, .workerTake, .alertStore, .wire ⟨.cmdVolumeUp, 0, []⟩, .alertPost,
    .dbusSignal .resume]

theorem comes_to_rest_busyEvening :
    ∃ d, machine.run (boot {}) busyEvening = some d ∧ ∃ more d',
      machine.Meets (fun d label => d.due label = true) d more ∧ machine.run d more = some d' ∧
        AtRest d' := by
  have hsome : (machine.run (boot {}) busyEvening).isSome = true := by decide
  obtain ⟨d, hd⟩ := Option.isSome_iff_exists.mp hsome
  exact ⟨d, hd, (comes_to_rest hd).2.1⟩

end Daemon

end CecControl
