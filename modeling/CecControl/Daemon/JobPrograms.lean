/-
# What the worker's jobs do to the connection

The connected flag is written by the alert thread and by two adapter calls. Among
the jobs, a command reopens or closes nothing unless it restarts the adapter; a
reconnect job reports back unless its reopen throws; and a resume reports a valid
adapter only straight after it has read the flag as set. Each of these is a fact
about the tree of calls the job can make, and stays true of what is left of that
tree while the job runs.
-/

import CecControl.Daemon.Coupling

namespace CecControl

open Lib WorkerM PowerLifecycle

namespace Job

/-- The program has ended with the report of a valid adapter. -/
def ReportsValid (rest : JobProgram) : Prop :=
  ∃ ticket throttler, rest = .ret (.ok (some (.resumeDone ticket true)), throttler)

/-- The answer is a reading of the connection as up. -/
def ReadsUp : ∀ op : Op, op.Ans → Prop
  | .adapter .isConnected, .ok true => True
  | _, _ => False

theorem ReadsUp.eq {c : AdapterCall} {outcome : Outcome} (h : ReadsUp (.adapter c) outcome) :
    c = .isConnected ∧ outcome = .ok true := by
  rcases outcome with e | (_ | _) <;> cases c <;> first | exact ⟨rfl, rfl⟩ | exact h.elim

/-- A valid adapter is reported only straight after reading the connection as up. -/
def ReadsLast : JobProgram → Prop
  | .ret _ => True
  | .call op next =>
      ∀ answer, (ReportsValid (next answer) → ReadsUp op answer) ∧ ReadsLast (next answer)

/-- Code that reads the connection before it reports. -/
def Careful (m : WorkerM (Option Post)) : Prop :=
  ∀ t, ¬ ReportsValid (m.program t) ∧ ReadsLast (m.program t)

theorem Careful.bind {α : Type} {m : WorkerM α} {f : α → WorkerM (Option Post)}
    (hf : ∀ value, Careful (f value)) : Careful (m >>= f) := by
  intro t
  rw [program_bind]
  induction m.program t with
  | ret result =>
      obtain ⟨outcome, t'⟩ := result
      cases outcome with
      | ok value => exact hf value t'
      | error e => exact ⟨by rintro ⟨_, _, ⟨⟩⟩, trivial⟩
  | call op next ih =>
      exact ⟨by rintro ⟨_, _, ⟨⟩⟩, fun answer => ⟨fun h => absurd h (ih answer).1, (ih answer).2⟩⟩

/-- The end of the resume job. -/
theorem careful_reading (ticket : ℕ) :
    Careful (do return some (.resumeDone ticket (← adapter .isConnected))) := by
  intro t
  refine ⟨by rintro ⟨_, _, ⟨⟩⟩, fun answer => ?_⟩
  rcases answer with e | (_ | _)
  · exact ⟨by rintro ⟨_, _, ⟨⟩⟩, trivial⟩
  · exact ⟨by rintro ⟨_, _, ⟨⟩⟩, trivial⟩
  · exact ⟨fun _ => trivial, trivial⟩

theorem careful_resumeBody (ticket : ℕ) : Careful (resumeBody ticket) := by
  refine Careful.bind fun reconnected => ?_
  dsimp only
  split
  · exact Careful.bind fun _ => careful_reading ticket
  · exact careful_reading ticket

/-- The two ways in which a program can end without an exception. -/
def EndsWell (result : Except Exn (Option Post) × CommandThrottler) : Prop :=
  ∃ p, result.1 = .ok p

/-- What is known of the rest of a job's program. -/
def Follows : Job → JobProgram → Prop
  | .suspend _, _ => True
  | .resume _, rest => ReadsLast rest
  | .reconnect _, rest => rest.Settles (Throws fun _ _ => True) Propagates EndsWell
  | .live _ _, rest => rest.Calls Ops.LeavesConnection
  | .replay _ _, rest => rest.Calls Ops.LeavesConnection

/-- It is known from the start. -/
def Sound (job : Job) : Prop := ∀ t, job.Follows (job.body.program t)

theorem sound_suspend (ticket : ℕ) : Sound (.suspend ticket) := fun _ => trivial

theorem sound_resume (ticket : ℕ) : Sound (.resume ticket) :=
  fun t => (careful_resumeBody ticket t).2

theorem sound_reconnect (ticket : ℕ) : Sound (.reconnect ticket) :=
  fun t => (transparent_adapter .reopenConnection).bind (fun _ => exposed_pure _) t

/-- A command other than a restart leaves the connection alone. -/
theorem leavesConnection_executeOnAdapter {message : Message} {spec : DispatchSpec}
    (hfind : findDispatchByType message.type = some spec)
    (hrestart : message.type ≠ .cmdRestartAdapter) :
    Uses Ops.LeavesConnection (executeOnAdapter message spec) := by
  apply uses_executeOnAdapter Ops.allowed_leavesConnection
  intro handler c hspec hmakes
  apply hmakes.leavesConnection
  rintro rfl
  exact hrestart (AdapterHandler.serves_of_find hfind hspec).symm

theorem sound_live {command : Command} {spec : DispatchSpec}
    (hfind : findDispatchByType command.message.type = some spec)
    (hrestart : command.message.type ≠ .cmdRestartAdapter) : Sound (.live command spec) :=
  (leavesConnection_executeOnAdapter hfind hrestart).bind fun _ => uses_pure _

theorem sound_replay {command : Command} {spec : DispatchSpec}
    (hfind : findDispatchByType command.message.type = some spec)
    (hrestart : command.message.type ≠ .cmdRestartAdapter) : Sound (.replay command spec) :=
  (leavesConnection_executeOnAdapter hfind hrestart).bind fun _ => uses_pure _

/-! ## While the job runs -/

/-- An operation answered without an exception. -/
theorem Follows.answered {job : Job} {op : Op} {next : op.Ans → JobProgram}
    (h : job.Follows (.call op next)) {answer : op.Ans} (hquiet : ¬ Throws (fun _ _ => True) op answer) :
    job.Follows (next answer) := by
  cases job with
  | suspend ticket => trivial
  | resume ticket => exact (h answer).2
  | reconnect ticket => exact (h answer).2 hquiet
  | live command spec => exact h.2 answer
  | replay command spec => exact h.2 answer

/-- A command in progress does not touch the connection. -/
theorem Follows.leavesConnection {job : Job} {op : Op} {next : op.Ans → JobProgram}
    (h : job.Follows (.call op next)) (hcommand : job.command?.isSome = true) :
    Ops.LeavesConnection op := by
  cases job with
  | live command spec => exact h.1
  | replay command spec => exact h.1
  | _ => simp [command?] at hcommand

end Job

namespace Daemon

/-- Steps of a run without restarts and without exceptions. -/
def ordinary : Label → Bool
  | .wire message => message.type != .cmdRestartAdapter
  | .workerCall (.error _) => false
  | _ => true

/-- What is known of every command that waits for replay, and of every job: before it is
taken, and of what is left of it while it runs. -/
structure JobsKept (Q : Command → Prop) (K : Job → JobProgram → Prop) (d : Daemon) : Prop where
  queued : ∀ command ∈ d.queued, Q command
  jobs : ∀ job ∈ d.jobs, ∀ t, K job (job.body.program t)
  running : ∀ r, d.running = some r → K r.job r.rest

/-- Knowledge about jobs that no step spoils, where the steps meet `C`: it holds of the jobs
when they are submitted, and every answer leaves it true of the rest. -/
structure JobRules (C : Daemon → Label → Prop) (Q : Command → Prop) (K : Job → JobProgram → Prop) :
    Prop where
  suspend : ∀ ticket t, K (.suspend ticket) ((Job.suspend ticket).body.program t)
  resume : ∀ ticket t, K (.resume ticket) ((Job.resume ticket).body.program t)
  reconnect : ∀ ticket t, K (.reconnect ticket) ((Job.reconnect ticket).body.program t)
  parked : ∀ {d : Daemon} {message : Message}, C d (.wire message) → Q ⟨d.requests, message⟩
  live : ∀ {d : Daemon} {message : Message} {spec : DispatchSpec}, C d (.wire message) →
    findDispatchByType message.type = some spec → ∀ t,
    K (.live ⟨d.requests, message⟩ spec) ((Job.live ⟨d.requests, message⟩ spec).body.program t)
  replay : ∀ {command : Command} {spec : DispatchSpec}, Q command →
    findDispatchByType command.message.type = some spec → ∀ t,
    K (.replay command spec) ((Job.replay command spec).body.program t)
  called : ∀ {d : Daemon} {job : Job} {c : AdapterCall} {next} {outcome : Outcome},
    C d (.workerCall outcome) → K job (.call (.adapter c) next) → K job (next outcome)
  ticked : ∀ {job : Job} {next} (time : ℕ), K job (.call .now next) → K job (next time)
  slept : ∀ {job : Job} {ms : ℕ} {next}, K job (.call (.sleep ms) next) → K job (next ())

namespace JobsKept

variable {C : Daemon → Label → Prop} {Q : Command → Prop} {K : Job → JobProgram → Prop}
  {d : Daemon}

theorem submit (h : JobsKept Q K d) (jobs : List Job)
    (hjobs : ∀ job ∈ jobs, ∀ t, K job (job.body.program t)) :
    JobsKept Q K { d with jobs := if d.stopRequested then d.jobs else d.jobs ++ jobs } := by
  refine ⟨h.queued, fun job hjob => ?_, h.running⟩
  split_ifs at hjob
  · exact h.jobs job hjob
  · rcases List.mem_append.mp hjob with hold | hnew
    · exact h.jobs job hold
    · exact hjobs job hnew

theorem roundStable (hrules : JobRules C Q K) : RoundStable (JobsKept Q K) where
  suspendNow h _ _ _ := ⟨h.queued, h.jobs, h.running⟩
  suspendLater {d source rest} h _ _ _ := by
    have hsubmit := h.submit [.suspend d.tickets] (by simpa using hrules.suspend d.tickets)
    exact ⟨hsubmit.queued, hsubmit.jobs, hsubmit.running⟩
  resumeNow h _ _ _ := ⟨h.queued, h.jobs, h.running⟩
  resumeLater {d source rest} h _ _ _ := by
    have hsubmit := h.submit [.resume d.tickets] (by simpa using hrules.resume d.tickets)
    exact ⟨hsubmit.queued, hsubmit.jobs, hsubmit.running⟩

theorem reconnectStable (hrules : JobRules C Q K) : ReconnectStable (JobsKept Q K) where
  quiet _ _ _ h := ⟨h.queued, h.jobs, h.running⟩
  attempt {d} h := by
    have hkeep {tickets : ℕ} {log : List Effect} :
        JobsKept Q K { d with tickets := tickets, log := log } := ⟨h.queued, h.jobs, h.running⟩
    obtain ⟨-, ok, more, -, heq⟩ | ⟨-, -, -, heq⟩ := d.reconnectAsync_cases
    · rw [heq]
      exact hkeep
    · rw [heq]
      exact hkeep.submit _ (by simpa using hrules.reconnect d.tickets)
  abandon h := ⟨h.queued, h.jobs, h.running⟩

theorem settle (hrules : JobRules C Q K) (h : JobsKept Q K d) (rounds : ℕ) :
    JobsKept Q K (settle rounds d) :=
  (roundStable hrules).settle (reconnectStable hrules).seedReconnect rounds h

theorem replayJobs (hrules : JobRules C Q K) {commands : List Command}
    (h : ∀ command ∈ commands, Q command) :
    ∀ job ∈ replayJobs commands, ∀ t, K job (job.body.program t) := by
  intro job hjob
  simp only [Daemon.replayJobs, List.mem_filterMap, Option.bind_eq_some_iff] at hjob
  obtain ⟨command, hcommand, spec, hfind, hspec⟩ := hjob
  split_ifs at hspec
  rw [← Option.some.inj hspec]
  exact hrules.replay (h command hcommand) hfind

theorem resumeReported_resumedWith (hrules : JobRules C Q K) (h : JobsKept Q K d) (ticket : ℕ)
    (adapterValid : Bool) (posts : List Post) :
    JobsKept Q K (d.resumedWith ticket adapterValid posts).resumeReported := by
  have hreplay : ∀ job ∈ Daemon.replayJobs (if adapterValid then d.queued else []), ∀ t,
      K job (job.body.program t) := by
    refine replayJobs hrules ?_
    split_ifs
    · exact h.queued
    · simp
  have hsubmit := h.submit _ hreplay
  have hresumed : JobsKept Q K (d.resumedWith ticket adapterValid posts) :=
    ⟨by simp [resumedWith], hsubmit.jobs, h.running⟩
  unfold resumeReported
  split_ifs
  · exact ⟨hresumed.queued, hresumed.jobs, hresumed.running⟩
  · exact hresumed

/-- Knowledge kept by the rules is kept by every step. -/
theorem stepStable (hrules : JobRules C Q K) : StepStable C (JobsKept Q K) where
  settle rounds h := h.settle hrules rounds
  received _ h := ⟨h.queued, h.jobs, h.running⟩
  safetyFired h := ⟨h.queued, h.jobs, h.running⟩
  answered _ _ h := ⟨h.queued, h.jobs, h.running⟩
  standby _ h := ⟨h.queued, h.jobs, h.running⟩
  parked {d message spec} hC h _ _ _ _ := by
    refine ⟨fun command hcommand => ?_, h.jobs, h.running⟩
    rcases List.mem_append.mp hcommand with hold | hnew
    · exact h.queued command hold
    · obtain rfl := List.mem_singleton.mp hnew
      exact hrules.parked hC
  live {d message spec} hC h _ _ hfind _ := by
    have hsubmit := h.submit [.live ⟨d.requests, message⟩ spec] (by
      intro job hjob
      rw [List.mem_singleton.mp hjob]
      exact hrules.live hC hfind)
    exact ⟨hsubmit.queued, hsubmit.jobs, hsubmit.running⟩
  posted _ h := ⟨h.queued, h.jobs, h.running⟩
  powerDrained h _ := ⟨h.queued, h.jobs, h.running⟩
  replyDrained _ h _ := ⟨h.queued, h.jobs, h.running⟩
  suspendDrained h _ := by
    unfold suspendReported
    split_ifs
    · exact ⟨h.queued, h.jobs, h.running⟩
    · exact ⟨h.queued, h.jobs, h.running⟩
  resumeDrained _ h _ :=
    resumeDrained_of_reported (P := JobsKept Q K) (fun rounds h => h.settle hrules rounds)
      (reconnectStable hrules).seedReconnect (h.resumeReported_resumedWith hrules _ _ _)
  reconnectDrained {d ticket ok posts} _ h _ := by
    have hdrained : JobsKept Q K { d with posts := posts, log := d.log ++ [.invoked ticket] } :=
      ⟨h.queued, h.jobs, h.running⟩
    exact (reconnectStable hrules).onReconnectEvent hdrained _
  lostDrained {d posts} _ h _ := by
    have hdrained : JobsKept Q K { d with posts := posts } := ⟨h.queued, h.jobs, h.running⟩
    exact (reconnectStable hrules).onReconnectEvent hdrained _
  retryTimer {d} _ h :=
    (reconnectStable hrules).onReconnectEvent
      ((reconnectStable hrules).quiet (d := d) _ _ d.arms h) _
  safetyExpired h := ⟨h.queued, h.jobs, h.running⟩
  retryExpired _ h := ⟨h.queued, h.jobs, h.running⟩
  taken {d job jobs} h _ hjobs _ := by
    refine ⟨h.queued, fun other hother => h.jobs other ?_, ?_⟩
    · rw [hjobs]
      exact List.mem_cons_of_mem job hother
    · rintro r ⟨⟩
      exact h.jobs job (by simp [hjobs]) d.throttler
  reopening {d r next} h hrunning _ _ := by
    refine ⟨h.queued, h.jobs, ?_⟩
    rintro _ ⟨⟩
    exact h.running r hrunning
  opened {d r} h hrunning _ := by
    refine ⟨h.queued, h.jobs, ?_⟩
    rintro _ ⟨⟩
    exact h.running r hrunning
  called {d r c next outcome} hC h hrunning hrest _ := by
    refine ⟨h.queued, h.jobs, ?_⟩
    rintro _ ⟨⟩
    exact hrules.called hC (hrest ▸ h.running r hrunning)
  ticked {d r next} time h hrunning hrest := by
    refine ⟨h.queued, h.jobs, ?_⟩
    rintro _ ⟨⟩
    exact hrules.ticked time (hrest ▸ h.running r hrunning)
  slept {d r ms next} h hrunning hrest := by
    refine ⟨h.queued, h.jobs, ?_⟩
    rintro _ ⟨⟩
    exact hrules.slept (hrest ▸ h.running r hrunning)
  finished {d r result throttler} _ h _ _ := by
    rcases result with _ | (_ | p)
    · exact ⟨h.queued, h.jobs, by simp [finishJob]⟩
    · exact ⟨h.queued, h.jobs, by simp [finishJob]⟩
    · exact ⟨h.queued, h.jobs, by simp [finishJob]⟩
  exited h _ _ := ⟨h.queued, h.jobs, h.running⟩
  alerted h := ⟨h.queued, h.jobs, h.running⟩
  alertPosted h _ := ⟨h.queued, h.jobs, h.running⟩
  stopped {d} h := by
    rw [stop_eq]
    refine ⟨?_, by simp, h.running⟩
    dsimp only
    split_ifs
    · exact h.queued
    · simp

theorem boot (setup : Setup) : JobsKept Q K (boot setup) := by
  refine ⟨?_, ?_, ?_⟩ <;> simp [Daemon.boot]

end JobsKept

/-- Every job, queued or running, does what is known of it. -/
abbrev Behaved : Daemon → Prop :=
  JobsKept (fun command => command.message.type ≠ .cmdRestartAdapter) Job.Follows

namespace Behaved

theorem jobRules : JobRules (fun _ label => ordinary label = true)
    (fun command => command.message.type ≠ .cmdRestartAdapter) Job.Follows where
  suspend := Job.sound_suspend
  resume := Job.sound_resume
  reconnect := Job.sound_reconnect
  parked hC := by simpa [ordinary] using hC
  live hC hfind := Job.sound_live hfind (by simpa [ordinary] using hC)
  replay hcommand hfind := Job.sound_replay hfind hcommand
  called {d job c next outcome} hC h := by
    refine h.answered ?_
    cases outcome with
    | ok value => exact id
    | error e => exact absurd hC (by simp [ordinary])
  ticked time h := h.answered id
  slept h := h.answered id

theorem roundStable : RoundStable Behaved := JobsKept.roundStable jobRules

theorem reconnectStable : ReconnectStable Behaved := JobsKept.reconnectStable jobRules

theorem stepStable : StepStable (fun _ label => ordinary label = true) Behaved :=
  JobsKept.stepStable jobRules

theorem boot (setup : Setup) : Behaved (boot setup) := JobsKept.boot setup

end Behaved

end Daemon

end CecControl
