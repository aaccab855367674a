/-
# Everything can be worked off

Left to themselves, the worker and the main thread come to rest: jobs are finite,
and what a closure puts behind itself (a queued request's job, the replay of what
was parked) has been counted before. So as long as the worker is not told to
stop, nothing that has been submitted or posted is beyond reach.

The argument is a weight. A job weighs more than the closure it will post, a
queued request or a parked command more than the job it may become, and a posted
request or alert more than what it may set off.
-/

import CecControl.Daemon.Coupling
import Mathlib.Algebra.GroupWithZero.Nat

namespace CecControl

open Lib PowerLifecycle

namespace Daemon

/-- Steps of the worker and of the main thread that finish what there is to do. -/
def Label.works : Label → Bool
  | .drain | .workerTake | .workerReopen | .workerCall (.ok _) | .workerClock _ | .workerSleep
  | .workerFinish => true
  | _ => false

/-- Nothing is queued, running or posted. -/
def workedOff (d : Daemon) : Bool := d.jobs.isEmpty && d.running.isNone && d.posts.isEmpty

end Daemon

def Post.weight : Post → ℕ
  | .power _ => 6
  | .connectionLost => 5
  | _ => 1

namespace Daemon

def weight (d : Daemon) : ℕ :=
  3 * d.jobs.length + 2 * d.running.toList.length + (d.posts.map Post.weight).sum +
    4 * d.powerLifecycle.pending.length + 4 * d.queued.length

variable {d : Daemon}

/-! ## Supervisor entries do not add weight -/

/-- What the weight is made of. -/
def load (d : Daemon) : List Job × Option Running × List Post × PowerLifecycle × List Command :=
  (d.jobs, d.running, d.posts, d.powerLifecycle, d.queued)

theorem weight_of_load {d' : Daemon} (h : d'.load = d.load) : d'.weight = d.weight := by
  simp only [load, Prod.mk.injEq] at h
  obtain ⟨hjobs, hrunning, hposts, hlifecycle, hqueued⟩ := h
  simp [weight, hjobs, hrunning, hposts, hlifecycle, hqueued]

/-- An effect that starts no attempt submits nothing. -/
theorem executeWithin_load {depth : ℕ} {out : AdapterReconnect.Output}
    (hquiet : out.effect ≠ .startAttempt) : (executeWithin depth d out).load = d.load :=
  executeWithin_of_quiet (P := fun d' => d'.load = d.load) (fun _ _ h => h) (fun h => h)
    (fun h => h) hquiet rfl

theorem seedReconnect_weight (d : Daemon) : d.seedReconnect.weight = d.weight := by
  refine weight_of_load (executeWithin_load ?_)
  unfold AdapterReconnect.seedCycle
  split_ifs <;> simp

theorem onReconnectResult_weight (d : Daemon) (ok : Bool) :
    (d.onReconnectResult ok).weight = d.weight := by
  refine weight_of_load (executeWithin_load ?_)
  refine AdapterReconnect.onEvent_effect_ne_startAttempt _ ?_ ?_ <;> cases ok <;> simp

/-- An attempt is at most one job. -/
theorem reconnectAsync_weight (d : Daemon) : d.reconnectAsync.1.weight ≤ d.weight + 3 := by
  obtain ⟨-, ok, more, -, heq⟩ | ⟨-, -, -, heq⟩ := d.reconnectAsync_cases
  · rw [heq]
    exact Nat.le_add_right _ _
  · rw [heq]
    by_cases hstop : d.stopRequested = true
    · simp [issue, weight, hstop]
    · simp only [issue, emit, submit, weight, hstop, if_false, Bool.false_eq_true,
        List.length_append, List.length_singleton]
      omega

theorem onConnectionLost_weight (d : Daemon) : d.onConnectionLost.weight ≤ d.weight + 3 := by
  have hevent : (d.reconnectEvent .connectionLost).1.weight = d.weight := rfl
  unfold onConnectionLost onReconnectEvent execute
  by_cases hstarts : (d.reconnectEvent .connectionLost).2.effect = .startAttempt
  · have hasync := reconnectAsync_weight { (d.reconnectEvent .connectionLost).1 with
      reconnectRetryTimer := (d.reconnectEvent .connectionLost).1.reconnectRetryTimer.disarm }
    unfold executeWithin
    rw [hstarts]
    dsimp only
    split
    · next d' heq =>
        rw [heq] at hasync
        exact hasync
    · next d' ok heq =>
        rw [heq] at hasync
        have hresult : (executeWithin 2 (d'.reconnectEvent
            (if ok then .attemptSucceeded else .attemptFailed)).1 (d'.reconnectEvent
            (if ok then .attemptSucceeded else .attemptFailed)).2).weight = d'.weight := by
          refine weight_of_load (executeWithin_load ?_)
          refine AdapterReconnect.onEvent_effect_ne_startAttempt _ ?_ ?_ <;> cases ok <;> simp
        exact hresult ▸ hasync
  · rw [weight_of_load (executeWithin_load hstarts), hevent]
    exact Nat.le_add_right _ _

theorem weight_roundStable (bound : ℕ) : RoundStable fun d => d.weight ≤ bound where
  suspendNow {d source rest} h _ hpending _ := by
    simp only [weight, suspendNow, hpending, List.length_cons] at h ⊢
    omega
  suspendLater {d source rest} h _ hpending _ := by
    simp only [weight, suspendLater, hpending, List.length_cons] at h ⊢
    split_ifs
    · omega
    · simp only [List.length_append, List.length_singleton]
      omega
  resumeNow {d source rest} h _ hpending _ := by
    simp only [weight, resumeNow, hpending, List.length_cons] at h ⊢
    omega
  resumeLater {d source rest} h _ hpending _ := by
    simp only [weight, resumeLater, hpending, List.length_cons] at h ⊢
    split_ifs
    · omega
    · simp only [List.length_append, List.length_singleton]
      omega

theorem settle_weight (rounds : ℕ) (d : Daemon) : (settle rounds d).weight ≤ d.weight :=
  (weight_roundStable d.weight).settle (fun h => by rwa [seedReconnect_weight]) rounds
    (Nat.le_refl _)

/-! ## One closure, one job -/

theorem replayJobs_length (commands : List Command) :
    (replayJobs commands).length ≤ commands.length := List.length_filterMap_le _ _

/-- A parked command weighs more than its replay. -/
theorem resumeReported_resumedWith_weight (d : Daemon) (ticket : ℕ) (adapterValid : Bool)
    (posts : List Post) :
    (d.resumedWith ticket adapterValid posts).resumeReported.weight ≤
      weight { d with posts := posts } := by
  have hreported : (d.resumedWith ticket adapterValid posts).resumeReported.weight =
      (d.resumedWith ticket adapterValid posts).weight := by
    unfold resumeReported
    split_ifs <;> rfl
  have hreplay : (replayJobs (if adapterValid then d.queued else [])).length ≤ d.queued.length := by
    refine Nat.le_trans (replayJobs_length _) ?_
    split_ifs <;> simp
  rw [hreported]
  simp only [weight, resumedWith, List.length_nil]
  by_cases hstop : d.stopRequested = true
  · rw [if_pos hstop]
    omega
  · rw [if_neg hstop, List.length_append]
    omega

/-- Draining a closure takes weight off. -/
theorem drain_weight {p : Post} {posts : List Post} (hposts : d.posts = p :: posts) :
    (runPost { d with posts := posts } p).weight < d.weight := by
  have hrequest (kind : EventKind) (source : Source) :
      (onRequested { d with posts := posts } ⟨kind, source⟩).weight ≤
        weight { d with posts := posts } + 4 := by
    rw [onRequested_eq_settle]
    refine Nat.le_trans (settle_weight _ _) ?_
    unfold received weight
    dsimp only
    split_ifs
    · omega
    · simp only [List.length_append, List.length_singleton]
      omega
  have hweight : d.weight = p.weight + weight { d with posts := posts } := by
    simp only [weight, hposts, List.map_cons, List.sum_cons]
    omega
  rw [hweight]
  cases p with
  | suspendDone ticket =>
      simp only [runPost, onSuspendCompleted_eq_settle, Post.weight]
      refine Nat.lt_of_le_of_lt (settle_weight _ _) ?_
      unfold suspendReported
      split_ifs <;> simp [weight, finishSuspend]
  | resumeDone ticket adapterValid =>
      have hresumed := resumeReported_resumedWith_weight d ticket adapterValid posts
      have hsettled := settle_weight d.powerLifecycle.pending.length
        (d.resumedWith ticket adapterValid posts).resumeReported
      rw [runPost_resumeDone]
      simp only [Post.weight]
      cases adapterValid with
      | true =>
          rw [if_pos rfl]
          omega
      | false =>
          rw [if_neg (by simp), seedReconnect_weight]
          omega
  | reconnectDone ticket ok =>
      have hresult : (runPost { d with posts := posts } (.reconnectDone ticket ok)).weight =
          weight { d with posts := posts } := onReconnectResult_weight _ ok
      simp only [Post.weight]
      omega
  | reply id response =>
      have hreply : (runPost { d with posts := posts } (.reply id response)).weight =
          weight { d with posts := posts } := rfl
      simp only [Post.weight]
      omega
  | connectionLost =>
      have hlost := onConnectionLost_weight { d with posts := posts }
      simp only [runPost, Post.weight]
      omega
  | power kind =>
      cases kind with
      | suspend =>
          have hle := hrequest .suspend .dbus
          simp only [runPost, onSuspendRequested, Post.weight]
          omega
      | resume =>
          have hle := hrequest .resume .dbus
          simp only [runPost, onResumeRequested, Post.weight]
          omega

theorem stopRequested_roundStable (stop : Bool) :
    RoundStable fun d => d.stopRequested = stop where
  suspendNow h _ _ _ := h
  suspendLater h _ _ _ := h
  resumeNow h _ _ _ := h
  resumeLater h _ _ _ := h

theorem stopRequested_reconnectStable (stop : Bool) :
    ReconnectStable fun d => d.stopRequested = stop where
  quiet _ _ _ h := h
  attempt {d} h := by
    unfold reconnectAsync
    dsimp only [issue, emit]
    split_ifs <;> exact h
  abandon h := h

/-- Draining does not stop the worker. -/
theorem runPost_stopRequested (d : Daemon) (p : Post) :
    (d.runPost p).stopRequested = d.stopRequested := by
  have hrounds := stopRequested_roundStable d.stopRequested
  have hreconnect := stopRequested_reconnectStable d.stopRequested
  have hsettle {d' : Daemon} (rounds : ℕ) (h : d'.stopRequested = d.stopRequested) :
      (settle rounds d').stopRequested = d.stopRequested :=
    hrounds.settle hreconnect.seedReconnect rounds h
  cases p with
  | suspendDone ticket =>
      simp only [runPost, onSuspendCompleted_eq_settle]
      refine hsettle _ ?_
      unfold suspendReported
      split_ifs <;> rfl
  | resumeDone ticket adapterValid =>
      refine resumeDrained_of_reported (P := fun d' => d'.stopRequested = d.stopRequested) (d := d)
        (fun rounds => hsettle rounds) hreconnect.seedReconnect ?_
      unfold resumeReported
      split_ifs <;> rfl
  | reconnectDone ticket ok => exact hreconnect.onReconnectEvent (d := d.emit _) rfl _
  | reply id response => rfl
  | connectionLost => exact hreconnect.onReconnectEvent (d := d) rfl _
  | power kind =>
      cases kind with
      | suspend =>
          simp only [runPost, onSuspendRequested, onRequested_eq_settle]
          exact hsettle _ rfl
      | resume =>
          simp only [runPost, onResumeRequested, onRequested_eq_settle]
          exact hsettle _ rfl

/-- A step followed by a run of working steps. -/
private theorem working_cons {d next : Daemon} {label : Label} {P : Daemon → Prop}
    (hworks : label.works = true) (hstep : machine.step d label = some next)
    (hrest : ∃ labels d', (∀ label ∈ labels, Label.works label = true) ∧
      machine.run next labels = some d' ∧ P d') :
    ∃ labels d', (∀ label ∈ labels, Label.works label = true) ∧ machine.run d labels = some d' ∧
      P d' := by
  obtain ⟨labels, d', hlabels, hrun, hP⟩ := hrest
  refine ⟨label :: labels, d', ?_, machine.run_cons_eq_some.mpr ⟨next, hstep, hrun⟩, hP⟩
  exact List.forall_mem_cons.mpr ⟨hworks, hlabels⟩

/-- The running job has ended, and posted no more than a closure of its own. -/
structure Ended (d d' : Daemon) : Prop where
  running : d'.running = none
  stop : d'.stopRequested = d.stopRequested
  weight : d'.weight + 2 ≤ d.weight + 1

/-- Only the running job has moved on. -/
theorem Ended.of_moved {d₁ d' : Daemon} {r r₁ : Running} (h : Ended d₁ d')
    (hrunning : d.running = some r) {connected : Bool}
    (hmoved : d₁ = { d with running := some r₁, connected := connected }) : Ended d d' := by
  subst hmoved
  refine ⟨h.running, h.stop, ?_⟩
  have hweight := h.weight
  simpa [Daemon.weight, hrunning] using hweight

/-- Every call can be answered, once a reopen has begun. -/
theorem possibleOutcome_answer (d : Daemon) {stage : ReopenStage} {c : AdapterCall}
    (hreopen : c = .reopenConnection → stage ≠ .outside) :
    d.possibleOutcome stage c (.ok (c == .isConnected && d.connected)) = true := by
  cases c with
  | isConnected => simp [possibleOutcome]
  | reopenConnection => simpa [possibleOutcome] using hreopen rfl
  | _ => rfl

/-- The running job can be brought to its end: the worker takes what the adapter
answers and goes on. -/
theorem exists_ended (hcoupled : Coupled d) {r : Running} (hrunning : d.running = some r) :
    ∃ labels d', (∀ label ∈ labels, Label.works label = true) ∧ machine.run d labels = some d' ∧
      Ended d d' := by
  obtain ⟨job, rest, stage⟩ := r
  induction rest generalizing d stage with
  | ret value =>
      obtain ⟨result, throttler⟩ := value
      have hends := hcoupled.completes _ hrunning
      have hstep : machine.step d .workerFinish = some (d.finishJob job result throttler) := by
        simp [machine, step, hrunning, workerStep]
      refine working_cons rfl hstep ⟨[], _, by simp, rfl, ?_⟩
      rcases result with e | (_ | p)
      · refine ⟨rfl, rfl, ?_⟩
        simp only [Daemon.weight, finishJob, emit, hrunning, Option.toList, List.length_nil,
          List.length_cons]
        omega
      · refine ⟨rfl, rfl, ?_⟩
        simp only [Daemon.weight, finishJob, hrunning, Option.toList, List.length_nil,
          List.length_cons]
        omega
      · have hweight : p.weight = 1 := by
          have hcompletes : job.Completes (some p) := hends _ rfl
          cases job <;> simp only [Job.Completes, Option.some.injEq, reduceCtorEq] at hcompletes
          · rw [hcompletes]; rfl
          · obtain ⟨_, rfl⟩ := hcompletes; rfl
          · obtain ⟨_, rfl⟩ := hcompletes; rfl
          · obtain ⟨_, rfl⟩ := hcompletes; rfl
        exact ⟨rfl, rfl, by simp [Daemon.weight, finishJob, hrunning, hweight]; omega⟩
  | call op next ih =>
      cases op with
      | now =>
          have hstep : machine.step d (.workerClock 0) =
              some { d with running := some ⟨job, next (0 : ℕ), stage⟩ } := by
            simp [machine, step, hrunning, workerStep]
          have hcoupled' := Coupled.stable.ticked 0 hcoupled hrunning rfl
          obtain ⟨labels, d', hlabels, hrun, hended⟩ := ih (0 : ℕ) hcoupled' stage rfl
          exact working_cons rfl hstep ⟨labels, d', hlabels, hrun, hended.of_moved hrunning rfl⟩
      | sleep ms =>
          have hstep : machine.step d .workerSleep =
              some { d with running := some ⟨job, next (), stage⟩ } := by
            simp [machine, step, hrunning, workerStep]
          have hcoupled' := Coupled.stable.slept hcoupled hrunning rfl
          obtain ⟨labels, d', hlabels, hrun, hended⟩ := ih () hcoupled' stage rfl
          exact working_cons rfl hstep ⟨labels, d', hlabels, hrun, hended.of_moved hrunning rfl⟩
      | adapter c =>
          -- the answer to a call that can answer it
          have hcall (d : Daemon) (hcoupled : Coupled d) (stage : ReopenStage)
              (hrunning : d.running = some ⟨job, .call (.adapter c) next, stage⟩) (value : Bool)
              (hpossible : d.possibleOutcome stage c (.ok value) = true) :
              ∃ labels d', (∀ label ∈ labels, Label.works label = true) ∧
                machine.run d labels = some d' ∧ Ended d d' := by
            have hstep : machine.step d (.workerCall (.ok value)) =
                some { d with running := some ⟨job, next (.ok value), .outside⟩,
                              connected := d.connectedAfter c (.ok value) } := by
              simp [machine, step, hrunning, workerStep, hpossible]
            have hcoupled' := Coupled.stable.called trivial hcoupled hrunning rfl hpossible
            obtain ⟨labels, d', hlabels, hrun, hended⟩ := ih (.ok value) hcoupled' .outside rfl
            exact working_cons rfl hstep ⟨labels, d', hlabels, hrun, hended.of_moved hrunning rfl⟩
          by_cases hreopen : c = .reopenConnection ∧ stage = .outside
          · obtain ⟨rfl, rfl⟩ := hreopen
            have hstep : machine.step d .workerReopen =
                some { d with
                  running := some ⟨job, .call (.adapter .reopenConnection) next, .closed⟩
                  connected := false } := by
              simp [machine, step, hrunning, workerStep]
            have hcoupled' := Coupled.stable.reopening hcoupled hrunning rfl rfl
            obtain ⟨labels, d', hlabels, hrun, hended⟩ := hcall _ hcoupled' .closed rfl false rfl
            exact working_cons rfl hstep ⟨labels, d', hlabels, hrun, hended.of_moved hrunning rfl⟩
          · refine hcall d hcoupled stage hrunning (c == .isConnected && d.connected) ?_
            exact possibleOutcome_answer d fun hc hstage => hreopen ⟨hc, hstage⟩

/-- **Working off.** As long as the worker has not been told to stop, the worker
and the main thread can work off everything that has been submitted or posted. -/
theorem exists_workedOff (hcoupled : Coupled d) (hstop : d.stopRequested = false) :
    ∃ labels d', (∀ label ∈ labels, Label.works label = true) ∧ machine.run d labels = some d' ∧
      d'.workedOff = true := by
  induction hweight : d.weight using Nat.strongRecOn generalizing d with
  | ind weight ih =>
      cases hposts : d.posts with
      | cons p posts =>
          have hstep : machine.step d .drain = some (runPost { d with posts := posts } p) := by
            simp [machine, step, hposts]
          refine working_cons rfl hstep (ih _ (hweight ▸ drain_weight hposts)
            (Coupled.stable.step hcoupled trivial hstep) ?_ rfl)
          rw [runPost_stopRequested]
          exact hstop
      | nil =>
          cases hrunning : d.running with
          | some r =>
              obtain ⟨labels, d', hlabels, hrun, hended⟩ := exists_ended hcoupled hrunning
              have hless : d'.weight < weight := by
                have := hended.weight
                omega
              have hcoupled' : Coupled d' := machine.invariant_of_step
                (fun h hstep => Coupled.stable.step h trivial hstep) hcoupled hrun
              obtain ⟨more, final, hmore, hfinal, hdone⟩ :=
                ih _ hless hcoupled' (hended.stop.trans hstop) rfl
              refine ⟨labels ++ more, final, ?_, machine.run_append_eq_some.mpr ⟨d', hrun, hfinal⟩,
                hdone⟩
              exact List.forall_mem_append.mpr ⟨hlabels, hmore⟩
          | none =>
              cases hjobs : d.jobs with
              | nil => exact ⟨[], d, by simp, rfl, by simp [workedOff, hjobs, hrunning, hposts]⟩
              | cons job jobs =>
                  have hstep : machine.step d .workerTake = some (d.takeJob job jobs) := by
                    simp [machine, step, hrunning, hjobs, hstop]
                  have hless : (d.takeJob job jobs).weight < weight := by
                    rw [← hweight]
                    simp only [Daemon.weight, takeJob, hrunning, hjobs, List.length_cons,
                      Option.toList_none, Option.toList_some, List.length_nil]
                    omega
                  exact working_cons rfl hstep (ih _ hless
                    (Coupled.stable.step hcoupled trivial hstep) hstop rfl)

end Daemon

end CecControl
