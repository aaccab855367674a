/-
# The adapter stays closed through a suspension

The gate that keeps other work away from a suspended adapter is a flag of the
main thread, read when a job is submitted; the jobs run later, on another thread.
What carries the gate over to the worker is the FIFO: no job can be submitted
between a suspend and the resume that follows it, so none can run there either.
The suspend's own job closes the adapter, and only a reopen could open it again.
-/

import CecControl.Daemon.AdapterWorker
import CecControl.Daemon.Asleep
import CecControl.Daemon.StepLog
import Mathlib.Data.List.Chain

namespace CecControl

open Lib PowerLifecycle

def Job.isSuspend : Job → Bool
  | .suspend _ => true
  | _ => false

def Job.isResume : Job → Bool
  | .resume _ => true
  | _ => false

namespace Daemon

/-- The jobs the worker has taken, in the order it ran them. -/
def takenJobs : List Effect → List Job
  | [] => []
  | .taken job :: log => job :: takenJobs log
  | _ :: log => takenJobs log

/-- Jobs in submission order: those already taken and those still queued. -/
def submittedJobs (d : Daemon) : List Job := takenJobs d.log ++ d.jobs

/-- In a list of jobs, whatever follows a suspend is a resume. -/
def KeepsClosed (jobs : List Job) : Prop :=
  jobs.IsChain fun earlier later => earlier.isSuspend = true → later.isResume = true

/-- The last job of a list is a suspend. -/
def endsInSuspend (jobs : List Job) : Bool := jobs.getLast?.any Job.isSuspend

theorem keepsClosed_append {jobs more : List Job} (hjobs : KeepsClosed jobs)
    (hlast : endsInSuspend jobs = false) (hmore : ∀ job ∈ more, job.isSuspend = false) :
    KeepsClosed (jobs ++ more) ∧ endsInSuspend (jobs ++ more) = false := by
  constructor
  · refine List.isChain_append.mpr ⟨hjobs, ?_, ?_⟩
    · refine List.Pairwise.isChain (List.pairwise_of_forall_mem_list ?_)
      intro earlier hearlier later _ hsuspend
      simp [hmore earlier hearlier] at hsuspend
    · intro earlier hearlier later _ hsuspend
      have hearlier : jobs.getLast? = some earlier := hearlier
      simp [endsInSuspend, hearlier, hsuspend] at hlast
  · cases hm : more.getLast? with
    | none => simpa [List.getLast?_eq_none_iff.mp hm] using hlast
    | some job =>
        simp [endsInSuspend, List.getLast?_append, hm, hmore job (List.mem_of_getLast? hm)]

theorem keepsClosed_append_resume {jobs : List Job} (hjobs : KeepsClosed jobs) (ticket : ℕ) :
    KeepsClosed (jobs ++ [.resume ticket]) := by
  refine List.isChain_append.mpr ⟨hjobs, by simp, ?_⟩
  intro earlier _ later hlater _
  obtain rfl : Job.resume ticket = later := by simpa using hlater
  rfl

theorem keepsClosed_append_suspend {jobs : List Job} (hjobs : KeepsClosed jobs)
    (hlast : endsInSuspend jobs = false) (ticket : ℕ) :
    KeepsClosed (jobs ++ [.suspend ticket]) := by
  refine List.isChain_append.mpr ⟨hjobs, by simp, ?_⟩
  intro earlier hearlier later _ hsuspend
  have hearlier : jobs.getLast? = some earlier := hearlier
  simp [endsInSuspend, hearlier, hsuspend] at hlast

/-- The submission order keeps the adapter closed, and can only be extended past
a suspend by a resume: as long as the last job submitted is a suspend the flag is
up and no resume is on its way. -/
structure Closed (d : Daemon) : Prop where
  coupled : Coupled d
  keeps : KeepsClosed (submittedJobs d)
  gated : d.lifecycleShutdown = false → d.suspended = false →
    endsInSuspend (submittedJobs d) = false
  resuming : d.lifecycleShutdown = false → ∀ ticket, .resume ticket ∈ d.outstanding →
    endsInSuspend (submittedJobs d) = false

@[simp]
theorem takenJobs_append (log more : List Effect) :
    takenJobs (log ++ more) = takenJobs log ++ takenJobs more := by
  fun_induction takenJobs log <;> simp_all [takenJobs]

@[simp]
theorem takenJobs_lockLog (source : Source) (op : Lock) : takenJobs (lockLog source op) = [] := by
  unfold lockLog
  split_ifs <;> rfl

namespace Closed

variable {d : Daemon}

/-- Nothing was submitted, and no gate moved. -/
theorem keep (h : Closed d) {d' : Daemon} (hcoupled : Coupled d')
    (hjobs : submittedJobs d' = submittedJobs d)
    (hshut : d'.lifecycleShutdown = d.lifecycleShutdown) (hsuspended : d'.suspended = d.suspended)
    (hout : ∀ ticket, .resume ticket ∈ d'.outstanding → .resume ticket ∈ d.outstanding) :
    Closed d' where
  coupled := hcoupled
  keeps := hjobs ▸ h.keeps
  gated hopen hflag := hjobs ▸ h.gated (hshut ▸ hopen) (hsuspended ▸ hflag)
  resuming hopen ticket hmem := hjobs ▸ h.resuming (hshut ▸ hopen) ticket (hout ticket hmem)

/-- Ordinary work submitted while the flag is down. -/
theorem submit (h : Closed d) {d' : Daemon} (hcoupled : Coupled d') (jobs : List Job)
    (hjobs : submittedJobs d' = submittedJobs d ++ jobs) (hlast : endsInSuspend (submittedJobs d) = false)
    (hordinary : ∀ job ∈ jobs, job.isSuspend = false) : Closed d' := by
  obtain ⟨hkeeps, hends⟩ := keepsClosed_append h.keeps hlast hordinary
  rw [← hjobs] at hkeeps hends
  exact ⟨hcoupled, hkeeps, fun _ _ => hends, fun _ _ _ => hends⟩

theorem roundStable : RoundStable Closed where
  suspendNow h hidle hpending hnow :=
    h.keep (Coupled.roundStable.suspendNow h.coupled hidle hpending hnow)
      (by simp [submittedJobs, Daemon.suspendNow, takenJobs]) rfl rfl fun _ => id
  suspendLater {d source rest} h hidle hpending hlater := by
    have hcoupled := Coupled.roundStable.suspendLater h.coupled hidle hpending hlater
    simp only [suspendsNow, Bool.or_eq_false_iff] at hlater
    have hstop : d.stopRequested = false := h.coupled.gates.1.trans hlater.1
    have hjobs : submittedJobs (d.suspendLater source rest) =
        submittedJobs d ++ [.suspend d.tickets] := by
      simp [submittedJobs, Daemon.suspendLater, hstop, takenJobs]
    refine ⟨hcoupled, ?_, fun _ hflag => by simp [Daemon.suspendLater] at hflag, ?_⟩
    · rw [hjobs]
      exact keepsClosed_append_suspend h.keeps (h.gated hlater.1 hlater.2) _
    · intro hopen ticket hmem
      exact absurd (hcoupled.resuming hopen ticket hmem) (by simp [Daemon.suspendLater])
  resumeNow h hidle hpending hnow :=
    h.keep (Coupled.roundStable.resumeNow h.coupled hidle hpending hnow)
      (by simp [submittedJobs, Daemon.resumeNow, takenJobs]) rfl rfl fun _ => id
  resumeLater {d source rest} h hidle hpending hlater := by
    have hcoupled := Coupled.roundStable.resumeLater h.coupled hidle hpending hlater
    simp only [resumesNow, Bool.or_eq_false_iff, Bool.not_eq_false'] at hlater
    have hstop : d.stopRequested = false := h.coupled.gates.1.trans hlater.1
    have hjobs : submittedJobs (d.resumeLater source rest) =
        submittedJobs d ++ [.resume d.tickets] := by
      simp [submittedJobs, Daemon.resumeLater, hstop, takenJobs]
    have hends : endsInSuspend (submittedJobs d ++ [.resume d.tickets]) = false := by
      simp [endsInSuspend, Job.isSuspend]
    refine ⟨hcoupled, ?_, fun _ _ => hjobs ▸ hends, fun _ _ _ => hjobs ▸ hends⟩
    rw [hjobs]
    exact keepsClosed_append_resume h.keeps _

theorem reconnectStable : ReconnectStable Closed where
  quiet {d} reconnect timer arms h :=
    h.keep (Coupled.reconnectStable.quiet (d := d) _ _ _ h.coupled) rfl rfl rfl fun _ => id
  attempt {d} h := by
    have hcoupled := Coupled.reconnectStable.attempt h.coupled
    unfold reconnectAsync at hcoupled ⊢
    dsimp only [issue, emit] at hcoupled ⊢
    split_ifs at hcoupled ⊢ with hshut hsuspended hconnected
    · exact h.keep hcoupled (by simp [submittedJobs, takenJobs]) rfl rfl fun _ => id
    · exact h.keep hcoupled (by simp [submittedJobs, takenJobs]) rfl rfl fun _ => id
    · exact h.keep hcoupled (by simp [submittedJobs, takenJobs]) rfl rfl fun _ => id
    · have hopen : d.lifecycleShutdown = false := by simpa using hshut
      have hstop : d.stopRequested = false := h.coupled.gates.1.trans hopen
      refine h.submit hcoupled [.reconnect d.tickets] ?_
        (h.gated hopen (by simpa using hsuspended)) (by simp [Job.isSuspend])
      simp [submittedJobs, takenJobs, hstop]
  abandon h :=
    h.keep (Coupled.reconnectStable.abandon h.coupled)
      (by simp [submittedJobs, onAdapterUnrecoverable, takenJobs]) rfl rfl fun _ => id

theorem settle (h : Closed d) (rounds : ℕ) : Closed (settle rounds d) :=
  roundStable.settle reconnectStable.seedReconnect rounds h

/-- A resume that reports back was the last job submitted, so its replays may
follow. -/
theorem resumeReported_resumedWith (h : Closed d) {ticket : ℕ} {adapterValid : Bool}
    {posts : List Post} (hposts : d.posts = .resumeDone ticket adapterValid :: posts) :
    Closed (d.resumedWith ticket adapterValid posts).resumeReported := by
  have hcoupled := h.coupled.resumeReported_resumedWith hposts
  have hjobs : submittedJobs (d.resumedWith ticket adapterValid posts).resumeReported =
      takenJobs d.log ++ (d.resumedWith ticket adapterValid posts).jobs := by
    unfold resumeReported
    split_ifs <;> simp [submittedJobs, finishResume, resumedWith, takenJobs]
  have hshut : (d.resumedWith ticket adapterValid posts).resumeReported.lifecycleShutdown =
      d.lifecycleShutdown := by
    unfold resumeReported
    split_ifs <;> rfl
  by_cases hopen : d.lifecycleShutdown = true
  · have hstop : d.stopRequested = true := h.coupled.gates.1.trans hopen
    have hclosed {P : Prop} :
        (d.resumedWith ticket adapterValid posts).resumeReported.lifecycleShutdown = false → P :=
      fun hfalse => absurd (hshut.symm.trans hfalse) (by simp [hopen])
    refine ⟨hcoupled, ?_, hclosed, hclosed⟩
    rw [hjobs]
    simpa [resumedWith, hstop, submittedJobs] using h.keeps
  · have hopen : d.lifecycleShutdown = false := by simpa using hopen
    have hstop : d.stopRequested = false := h.coupled.gates.1.trans hopen
    refine h.submit hcoupled (replayJobs (if adapterValid then d.queued else [])) ?_
      (h.resuming hopen ticket (by simp [outstanding, hposts, Post.token])) ?_
    · rw [hjobs]
      simp [resumedWith, hstop, submittedJobs]
    · intro job hjob
      have hpower := Coupled.replayJobs_not_isPower _ job hjob
      cases job <;> simp_all [Job.isSuspend, Job.token, Token.isPower]

theorem stepStable {C : Daemon → Label → Prop} : StepStable C Closed where
  settle rounds h := h.settle rounds
  received request h :=
    h.keep (h.coupled.received request) (by simp [submittedJobs, Daemon.received, takenJobs])
      rfl rfl fun _ => id
  safetyFired {d} h := by
    refine h.keep h.coupled.safetyFired ?_ rfl rfl fun _ => id
    unfold Daemon.safetyFired submittedJobs
    split_ifs <;> simp
  answered response hC h :=
    h.keep (Coupled.stepStable (C := C) |>.answered response hC h.coupled)
      (by simp [submittedJobs, answer, takenJobs]) rfl rfl fun _ => id
  standby enabled h :=
    h.keep (Coupled.stepStable (C := C) |>.standby enabled h.coupled) rfl rfl rfl fun _ => id
  parked hC h hshut hsuspended hfind hqueue :=
    h.keep (Coupled.stepStable.parked hC h.coupled hshut hsuspended hfind hqueue)
      (by simp [submittedJobs, takenJobs]) rfl rfl fun _ => id
  live {d message spec} hC h hshut hsuspended hfind hcall := by
    have hcoupled := Coupled.stepStable.live hC h.coupled hshut hsuspended hfind hcall
    have hopen : d.lifecycleShutdown = false := h.coupled.gates.2.1.symm.trans hshut
    have hstop : d.stopRequested = false := h.coupled.gates.1.trans hopen
    refine h.submit hcoupled [.live ⟨d.requests, message⟩ spec] ?_
      (h.gated hopen hsuspended) (by simp [Job.isSuspend])
    simp [submittedJobs, takenJobs, hstop]
  posted kind h := by
    refine h.keep (Coupled.stepStable (C := C) |>.posted kind h.coupled) rfl rfl rfl ?_
    simp [outstanding, Post.token]
  powerDrained h hposts := by
    refine h.keep (h.coupled.drained hposts) rfl rfl rfl ?_
    simp [outstanding, hposts, Post.token]
  replyDrained _ h hposts := by
    refine h.keep (h.coupled.drained hposts) (by simp [submittedJobs, takenJobs]) rfl rfl ?_
    simp [outstanding, hposts, Post.token]
  suspendDrained {d ticket posts} h hposts := by
    have hcoupled := h.coupled.suspendDrained hposts
    unfold suspendReported at hcoupled ⊢
    split_ifs at hcoupled ⊢
    · refine h.keep hcoupled ?_ rfl rfl ?_
      · unfold finishSuspend submittedJobs
        split_ifs <;> simp [takenJobs]
      · simp [outstanding, finishSuspend, hposts, Post.token]
    · refine h.keep hcoupled (by simp [submittedJobs, takenJobs]) rfl rfl ?_
      simp [outstanding, hposts, Post.token]
  resumeDrained _ h hposts :=
    resumeDrained_of_reported (P := Closed) (fun rounds h => h.settle rounds)
      reconnectStable.seedReconnect (h.resumeReported_resumedWith hposts)
  reconnectDrained {d ticket ok posts} _ h hposts := by
    refine reconnectStable.onReconnectEvent (h.keep (h.coupled.drained hposts) ?_ rfl rfl ?_) _
    · simp [submittedJobs, takenJobs]
    · simp [outstanding, hposts, Post.token]
  lostDrained {d posts} _ h hposts := by
    refine reconnectStable.onReconnectEvent (h.keep (h.coupled.drained hposts) rfl rfl rfl ?_) _
    simp [outstanding, hposts, Post.token]
  retryTimer {d} _ h :=
    reconnectStable.onReconnectEvent (reconnectStable.quiet (d := d) _ _ d.arms h) _
  safetyExpired h :=
    h.keep (Coupled.stepStable (C := C) |>.safetyExpired h.coupled) rfl rfl rfl fun _ => id
  retryExpired htimer h :=
    h.keep (Coupled.stepStable (C := C) |>.retryExpired htimer h.coupled) rfl rfl rfl
      fun _ => id
  taken {d job jobs} h hrunning hjobs hstop := by
    refine h.keep (Coupled.stepStable (C := C) |>.taken h.coupled hrunning hjobs hstop) ?_
      rfl rfl ?_
    · cases hcommand : job.command? <;> simp [submittedJobs, takeJob, takenJobs, hjobs, hcommand]
    · simp [outstanding, takeJob, hrunning, hjobs]
  reopening {d r next} h hrunning hrest hstage := by
    refine h.keep (Coupled.stepStable (C := C) |>.reopening h.coupled hrunning hrest hstage)
      rfl rfl rfl ?_
    simp [outstanding, hrunning]
  opened {d r} h hrunning hstage := by
    refine h.keep (Coupled.stepStable (C := C) |>.opened h.coupled hrunning hstage) rfl rfl rfl ?_
    simp [outstanding, hrunning]
  called {d r c next outcome} hC h hrunning hrest hpossible := by
    refine h.keep (Coupled.stepStable.called hC h.coupled hrunning hrest hpossible) rfl rfl rfl ?_
    simp [outstanding, hrunning]
  ticked {d r next} time h hrunning hrest := by
    refine h.keep (Coupled.stepStable (C := C) |>.ticked time h.coupled hrunning hrest)
      rfl rfl rfl ?_
    simp [outstanding, hrunning]
  slept {d r ms next} h hrunning hrest := by
    refine h.keep (Coupled.stepStable (C := C) |>.slept h.coupled hrunning hrest) rfl rfl rfl ?_
    simp [outstanding, hrunning]
  finished {d r result throttler} hC h hrunning hrest := by
    have hsub : (d.finishJob r.job result throttler).outstanding ⊆ d.outstanding := by
      rcases h.coupled.finishJob_outstanding hrunning hrest with ⟨heq, _⟩ | ⟨hsub, _⟩
      · exact heq ▸ List.Subset.refl _
      · exact hsub.subset
    have hcoupled := Coupled.stepStable.finished hC h.coupled hrunning hrest
    rcases result with _ | (_ | p)
    · exact h.keep hcoupled (by simp [submittedJobs, finishJob, takenJobs]) rfl rfl
        fun _ hmem => hsub hmem
    · exact h.keep hcoupled rfl rfl rfl fun _ hmem => hsub hmem
    · exact h.keep hcoupled rfl rfl rfl fun _ hmem => hsub hmem
  exited h hrunning hstop :=
    h.keep (Coupled.stepStable (C := C) |>.exited h.coupled hrunning hstop) rfl rfl rfl
      fun _ => id
  alerted h := h.keep (Coupled.stepStable (C := C) |>.alerted h.coupled) rfl rfl rfl fun _ => id
  alertPosted h halerting := by
    refine h.keep (Coupled.stepStable (C := C) |>.alertPosted h.coupled halerting) rfl rfl rfl ?_
    simp [outstanding, Post.token]
  stopped {d} h := by
    have hcoupled := Coupled.stepStable (C := C) |>.stopped h.coupled
    have hshut : d.stop.lifecycleShutdown = true := hcoupled.gates.1.symm.trans rfl
    have hclosed {P : Prop} : d.stop.lifecycleShutdown = false → P :=
      fun hopen => absurd (hshut.symm.trans hopen) (by simp)
    have htaken : takenJobs d.stop.log = takenJobs d.log := by
      rw [stop_eq]
      split_ifs <;> simp [takenJobs]
    refine ⟨hcoupled, ?_, hclosed, hclosed⟩
    have hjobs : submittedJobs d.stop = takenJobs d.log := by
      rw [submittedJobs, htaken]
      exact List.append_nil _
    rw [hjobs]
    exact List.IsChain.left_of_append h.keeps

theorem boot (setup : Setup) : Closed (boot setup) where
  coupled := Coupled.boot setup
  keeps := by simp [KeepsClosed, submittedJobs, takenJobs, Daemon.boot]
  gated := by simp [endsInSuspend, submittedJobs, takenJobs, Daemon.boot]
  resuming := by simp [Daemon.boot, outstanding]

end Closed

/-! ## The adapter's side -/

/-- The adapter is shut behind a suspend, once that has run to its end. -/
structure ShutBehind (d : Daemon) : Prop where
  asleep : Asleep d
  /-- What runs is the job taken last. -/
  current : ∀ r, d.running = some r → (takenJobs d.log).getLast? = some r.job
  shut : d.running = none → ∀ job, (takenJobs d.log).getLast? = some job →
    job.isSuspend = true → d.connected = false ∨ .escaped job ∈ d.log

variable {d d' : Daemon} {label : Label}

theorem takenJobs_told (d : Daemon) : takenJobs d.log = takenJobs d.told := by
  unfold told
  induction d.log with
  | nil => rfl
  | cons e log ih => cases e <;> simp_all [takenJobs, Effect.ofSupervisor]

/-- Jobs are taken by the step that takes one. -/
theorem takenJobs_step (hlabel : label ≠ .workerTake) (hstep : machine.step d label = some d') :
    takenJobs d'.log = takenJobs d.log := by
  obtain ⟨more, hmore, htells⟩ := told_step hstep
  have hnone : takenJobs more = [] := by
    cases htells with
    | taken => exact absurd rfl hlabel
    | _ => rfl
  rw [takenJobs_told, takenJobs_told, hmore, takenJobs_append, hnone, List.append_nil]

namespace ShutBehind

/-- The worker has taken nothing, and no connection has been opened. -/
theorem keep (h : ShutBehind d) (hlabel : label ≠ .workerTake)
    (hstep : machine.step d label = some d') (hrunning : d'.running = d.running)
    (hconnected : d.connected = false → d'.connected = false) : ShutBehind d' := by
  have htaken := takenJobs_step hlabel hstep
  refine ⟨h.asleep.step hstep, ?_, fun hnone job hlast hsuspend => ?_⟩
  · rw [hrunning, htaken]
    exact h.current
  · rw [hrunning] at hnone
    rw [htaken] at hlast
    refine (h.shut hnone job hlast hsuspend).imp hconnected fun hescaped => ?_
    exact (mem_log_stepStable (C := fun _ _ => True) _).step hescaped trivial hstep

/-- The job goes on. -/
theorem goOn (h : ShutBehind d) (hstep : machine.step d label = some d') {r r' : Running}
    (hrunning : d.running = some r) (hrunning' : d'.running = some r') (hjob : r'.job = r.job)
    (hlog : d'.log = d.log) : ShutBehind d' := by
  refine ⟨h.asleep.step hstep, fun other hother => ?_, fun hnone => ?_⟩
  · obtain rfl := Option.some.inj (hrunning'.symm.trans hother)
    rw [hlog, hjob]
    exact h.current r hrunning
  · exact absurd (hrunning'.symm.trans hnone) (by simp)

/-- A suspend that ends has closed the adapter, unless an exception has ended it. -/
theorem finish (h : ShutBehind d) {r : Running} {result : Except Exn (Option Post)}
    {throttler : CommandThrottler}
    (hstep : machine.step d label = some (d.finishJob r.job result throttler))
    (hrunning : d.running = some r) (hrest : r.rest = .ret (result, throttler)) :
    ShutBehind (d.finishJob r.job result throttler) := by
  refine ⟨h.asleep.step hstep, ?_, fun _ job hlast hsuspend => ?_⟩
  · rcases result with _ | (_ | p) <;> simp [finishJob]
  · have htaken : takenJobs (d.finishJob r.job result throttler).log = takenJobs d.log := by
      rcases result with _ | (_ | p) <;> simp [finishJob, takenJobs]
    obtain rfl : r.job = job := by
      rw [htaken, h.current r hrunning] at hlast
      exact Option.some.inj hlast
    obtain ⟨ticket, hjob⟩ : ∃ ticket, r.job = .suspend ticket := by
      cases hjob : r.job <;> simp_all [Job.isSuspend]
    rcases result with e | p
    · exact .inr (by simp [finishJob])
    · have hclosed := (h.asleep.closing r ticket hrunning hjob).2
      rw [hrest] at hclosed
      rcases p with _ | p <;> exact .inl (hclosed.resolve_right id)

theorem step (h : ShutBehind d) (hstep : machine.step d label = some d') : ShutBehind d' := by
  have hasleep : Asleep d' := h.asleep.step hstep
  cases hlabel : label.isHandled with
  | true =>
      have hsubmits := Submits.of_step hlabel hstep
      refine h.keep ?_ hstep hsubmits.running (hsubmits.connected.trans ·)
      rintro rfl
      cases hlabel
  | false =>
      cases moves_of_step hstep with
      | workerTake hrunning hjobs hstop =>
          rename_i job jobs
          refine ⟨hasleep, fun r hr => ?_, fun hnone => by cases hnone⟩
          obtain rfl := Option.some.inj hr
          cases hcommand : job.command? <;> simp [takeJob, takenJobs, hcommand]
      | workerExit hrunning hstop => exact h.keep (by simp) hstep rfl fun _ => rfl
      | alertStore => exact h.keep (by simp) hstep rfl fun _ => rfl
      | alertPost halerting => exact h.keep (by simp) hstep rfl id
      | stop =>
          refine h.keep (by simp) hstep ?_ ?_
          · rw [stop_eq]
          · rw [stop_eq]
            exact id
      | working hrunning hworks =>
          cases hworks with
          | finished hrest => exact h.finish hstep hrunning hrest
          | _ => exact h.goOn hstep hrunning rfl rfl rfl
      | _ => cases hlabel

theorem boot (setup : Setup) : ShutBehind (boot setup) where
  asleep := Asleep.boot setup
  current := by simp [Daemon.boot]
  shut := by simp [Daemon.boot, takenJobs]

end ShutBehind

/-- **The adapter stays closed through a suspension.** In every run, in the order
in which the worker executes its jobs, the job after a suspend is a resume: no
other job runs between a suspend and the next resume. The suspend does not reopen
the adapter; when it has ended, unless by an exception, the adapter is not
connected, and until a resume is taken the worker runs nothing. -/
theorem suspend_followed_by_resume {setup : Setup} {labels : List Label} {d : Daemon}
    (hrun : machine.run (boot setup) labels = some d) :
    ((takenJobs d.log).IsChain fun earlier later =>
      earlier.isSuspend = true → later.isResume = true) ∧
    ∀ job, (takenJobs d.log).getLast? = some job → job.isSuspend = true →
      (∀ r, d.running = some r → r.job = job ∧ r.rest.Calls Job.NeverReopens) ∧
      (d.running = none → d.connected = false ∨ .escaped job ∈ d.log) ∧
      ∀ next ∈ d.jobs.head?, next.isResume = true := by
  have hclosed : Closed d := Closed.stepStable.always (Closed.boot setup) hrun
  have hshut : ShutBehind d :=
    machine.invariant_of_step (fun h hstep => h.step hstep) (ShutBehind.boot setup) hrun
  obtain ⟨htaken, -, hnext⟩ := List.isChain_append.mp hclosed.keeps
  refine ⟨htaken, fun job hlast hsuspend => ⟨fun r hr => ?_, fun hnone => ?_, fun next hhead => ?_⟩⟩
  · obtain rfl : job = r.job := Option.some.inj (hlast.symm.trans (hshut.current r hr))
    obtain ⟨ticket, hjob⟩ : ∃ ticket, r.job = .suspend ticket := by
      cases hjob : r.job <;> simp_all [Job.isSuspend]
    exact ⟨rfl, hshut.asleep.kept.running r hr ticket hjob⟩
  · exact hshut.shut hnone job hlast hsuspend
  · exact hnext job hlast next hhead hsuspend

/-- A suspend, a resume and a command accepted after it. -/
def suspendCycle : List Label :=
  [.wire ⟨.cmdSuspend, 0, []⟩, .workerTake, .workerCall (.ok true), .workerCall (.ok true),
    .workerCall (.ok true), .workerFinish, .drain, .wire ⟨.cmdResume, 0, []⟩, .workerTake,
    .workerReopen, .workerOpened, .workerCall (.ok true), .workerCall (.ok true),
    .workerCall (.ok true), .workerFinish, .drain, .wire ⟨.cmdVolumeUp, 0, []⟩, .workerTake]

theorem suspend_followed_by_resume_cycle :
    ∃ d, machine.run (boot {}) suspendCycle = some d ∧ (takenJobs d.log).length = 3 ∧
      (takenJobs d.log).IsChain fun earlier later =>
        earlier.isSuspend = true → later.isResume = true := by
  have hlength : (machine.run (boot {}) suspendCycle).map (fun d => (takenJobs d.log).length) =
      some 3 := by decide
  obtain ⟨d, hd, hthree⟩ := Option.map_eq_some_iff.mp hlength
  exact ⟨d, hd, hthree, (suspend_followed_by_resume hd).1⟩

end Daemon

end CecControl
