/-
# Recovery and healthy connections

`reconnectAsync` turns an attempt down when the adapter is connected. It looks when it submits
the attempt; the attempt reopens the adapter when its turn comes, and does not look again. In
between come the jobs ahead of it, and an operator's restart among them leaves the adapter
connected, so that the attempt tears down what the restart has just set up.

Nothing else sets the flag. As long as an attempt is only submitted when no job ahead of it has
still to reopen the adapter, no attempt ever finds the adapter connected.
-/

import CecControl.Daemon.Attempts
import CecControl.Daemon.ConnectionLoss

namespace CecControl

open Lib WorkerM

/-! ## Jobs that reopen the adapter -/

namespace Job

/-- The job of a reconnect attempt. -/
def isAttempt : Job → Bool
  | .reconnect _ => true
  | _ => false

/-- The job calls `reopenConnection`: an attempt, a resume, or a restart. -/
def reopens : Job → Bool
  | .suspend _ => false
  | .resume _ | .reconnect _ => true
  | .live command _ | .replay command _ => command.message.type == .cmdRestartAdapter

/-- The next call of the program is `reopenConnection`. -/
def reopensNext : JobProgram → Bool
  | .call (.adapter .reopenConnection) _ => true
  | _ => false

/-- Operations other than a reopen. -/
def NeverReopens (op : Op) : Prop := op ≠ .adapter .reopenConnection

theorem reopensNext_of_calls {rest : JobProgram} (h : rest.Calls NeverReopens) :
    reopensNext rest = false := by
  unfold reopensNext
  split
  · exact absurd rfl h.1
  · rfl

/-- The program reopens the adapter as its first call if at all. -/
def ReopensFirst : JobProgram → Prop
  | .ret _ => True
  | .call _ next => ∀ answer, (next answer).Calls NeverReopens

theorem reopensFirst_of_calls {rest : JobProgram} (h : rest.Calls NeverReopens) :
    ReopensFirst rest := by
  cases rest with
  | ret result => trivial
  | call op next => exact h.2

/-- What is known of the rest of a job's program: a reopen still to come is its next call, and
comes only in jobs that reopen. -/
def ReopensAsKnown (job : Job) (rest : JobProgram) : Prop :=
  ReopensFirst rest ∧ (job.reopens = false → rest.Calls NeverReopens)

theorem allowed_neverReopens : Ops.Allowed NeverReopens where
  now := by simp [NeverReopens]
  sleep := by simp [NeverReopens]
  isConnected := by simp [NeverReopens]

/-- A command other than a restart. -/
theorem uses_neverReopens {message : Message} {spec : DispatchSpec}
    (hfind : findDispatchByType message.type = some spec)
    (hrestart : message.type ≠ .cmdRestartAdapter) :
    Uses NeverReopens (executeOnAdapter message spec) := by
  apply uses_executeOnAdapter allowed_neverReopens
  intro handler c hspec hmakes
  refine (hmakes.leavesConnection ?_).1
  rintro rfl
  exact hrestart (AdapterHandler.serves_of_find hfind hspec).symm

/-- A restart calls `reopenConnection` and nothing else. -/
theorem reopensFirst_restart {message : Message} {spec : DispatchSpec}
    (hfind : findDispatchByType message.type = some spec)
    (hrestart : message.type = .cmdRestartAdapter) {f : Message → Option Post}
    (t : CommandThrottler) :
    ReopensFirst ((do return f (← executeOnAdapter message spec) :
      WorkerM (Option Post)).program t) := by
  rw [hrestart] at hfind
  cases hfind
  rintro ((_ | _) | (_ | _)) <;> trivial

theorem reopensAsKnown_command {message : Message} {spec : DispatchSpec}
    (hfind : findDispatchByType message.type = some spec) {f : Message → Option Post}
    (t : CommandThrottler) :
    let rest := (do return f (← executeOnAdapter message spec) :
      WorkerM (Option Post)).program t
    ReopensFirst rest ∧ ((message.type == .cmdRestartAdapter) = false → rest.Calls NeverReopens) := by
  intro rest
  by_cases hrestart : message.type = .cmdRestartAdapter
  · exact ⟨reopensFirst_restart hfind hrestart t, fun hother => absurd hrestart (by simpa using hother)⟩
  · have hcalls : rest.Calls NeverReopens :=
      (uses_neverReopens hfind hrestart).bind (fun _ => uses_pure _) t
    exact ⟨reopensFirst_of_calls hcalls, fun _ => hcalls⟩

end Job

namespace Daemon

variable {d d' : Daemon}

/-! ## Attempts in the queue -/

/-- No attempt in the queue is behind a job that has still to reopen the adapter, and the adapter
is not connected while one is queued. `ahead` says whether there is such a job before the queue. -/
def Alone (ahead connected : Bool) : List Job → Prop
  | [] => True
  | job :: jobs =>
      (job.isAttempt = true → ahead = false ∧ connected = false) ∧
        Alone (ahead || job.reopens) connected jobs

theorem Alone.mono {ahead ahead' connected connected' : Bool} (hahead : ahead' = true → ahead = true)
    (hconnected : connected' = true → connected = true) {jobs : List Job}
    (h : Alone ahead connected jobs) : Alone ahead' connected' jobs := by
  induction jobs generalizing ahead ahead' with
  | nil => trivial
  | cons job jobs ih =>
      refine ⟨fun hattempt => ?_, ih ?_ h.2⟩
      · obtain ⟨hnone, hdown⟩ := h.1 hattempt
        simp_all
      · simp only [Bool.or_eq_true]
        exact Or.imp_left hahead

/-- Behind a job that reopens there is no attempt, so nothing else matters. -/
theorem Alone.of_ahead {ahead connected connected' : Bool} {jobs : List Job}
    (h : Alone true connected jobs) : Alone ahead connected' jobs := by
  induction jobs generalizing ahead with
  | nil => trivial
  | cons job jobs ih => exact ⟨fun hattempt => absurd (h.1 hattempt).1 (by simp), ih h.2⟩

theorem Alone.append {ahead connected : Bool} {jobs more : List Job}
    (h : Alone ahead connected jobs)
    (hmore : Alone (ahead || jobs.any Job.reopens) connected more) :
    Alone ahead connected (jobs ++ more) := by
  induction jobs generalizing ahead with
  | nil => simpa using hmore
  | cons job jobs ih =>
      refine ⟨h.1, ih h.2 ?_⟩
      simpa [Bool.or_assoc] using hmore

theorem alone_of_others {ahead connected : Bool} {jobs : List Job}
    (h : ∀ job ∈ jobs, job.isAttempt = false) : Alone ahead connected jobs := by
  induction jobs generalizing ahead with
  | nil => trivial
  | cons job jobs ih =>
      refine ⟨fun hattempt => ?_, ih fun other hother => h other (List.mem_cons_of_mem job hother)⟩
      simp [h job List.mem_cons_self] at hattempt

/-- The running job has still to open the adapter. -/
def reopening (running : Option Running) : Bool :=
  running.any fun r => Job.reopensNext r.rest && r.stage != .opened

/-- A job that has still to open the adapter is running or queued. -/
def reopenAhead (d : Daemon) : Bool := reopening d.running || d.jobs.any Job.reopens

/-- Attempts are handed to the worker only when no job has still to open the adapter. -/
def Unhurried (d : Daemon) (label : Label) : Prop :=
  d.handsOver label = true → d.reopenAhead = false

instance (d : Daemon) (label : Label) : Decidable (Unhurried d label) :=
  inferInstanceAs (Decidable (_ → _))

/-- The step is a reconnect attempt calling `reopenConnection` while the adapter is connected. -/
def tearsDownHealthy (d : Daemon) (label : Label) : Bool :=
  match label, d.running with
  | .workerReopen, some r =>
      r.job.isAttempt && Job.reopensNext r.rest && r.stage == .outside && d.connected
  | _, _ => false

/-- The worker's side of the daemon. -/
def atWork (d : Daemon) : List Job × Option Running × Bool := (d.jobs, d.running, d.connected)

theorem isAttempt_of_replay {commands : List Command} {job : Job}
    (h : job ∈ replayJobs commands) : job.isAttempt = false := by
  simp only [replayJobs, List.mem_filterMap, Option.bind_eq_some_iff] at h
  obtain ⟨command, _, spec, _, hspec⟩ := h
  split_ifs at hspec
  rw [← Option.some.inj hspec]
  rfl

theorem connected_of_connectedAfter {c : AdapterCall} {outcome : Outcome}
    (h : d.connectedAfter c outcome = true) : d.connected = true := by
  unfold connectedAfter at h
  split at h <;> first | exact h | cases h

theorem executeWithin_atWork {depth : ℕ} {out : AdapterReconnect.Output}
    (hquiet : out.effect ≠ .startAttempt) : (executeWithin depth d out).atWork = d.atWork :=
  executeWithin_of_quiet (P := fun d' => d'.atWork = d.atWork) (fun _ _ h => h) (fun h => h)
    (fun h => h) hquiet rfl

/-- An attempt becomes the last job where the gates are open, and is answered otherwise. -/
theorem reconnectAsync_atWork (d : Daemon) :
    ((∃ ok, d.reconnectAsync.2 = some ok) ∧ d.reconnectAsync.1.atWork = d.atWork) ∨
      d.reconnectAsync.2 = none ∧ d.lifecycleShutdown = false ∧ d.suspended = false ∧
        d.connected = false ∧
        d.reconnectAsync.1.atWork =
          (if d.stopRequested then d.jobs else d.jobs ++ [.reconnect d.tickets], d.running,
            d.connected) := by
  obtain ⟨-, ok, more, -, heq⟩ | ⟨hshut, hsuspended, hconnected, heq⟩ := d.reconnectAsync_cases
  · rw [heq]
    exact Or.inl ⟨⟨ok, rfl⟩, rfl⟩
  · rw [heq]
    exact Or.inr ⟨rfl, hshut, hsuspended, hconnected, rfl⟩

/-- An effect that starts an attempt. -/
theorem execute_startAttempt_atWork {out : AdapterReconnect.Output}
    (heffect : out.effect = .startAttempt) :
    (d.execute out).atWork = d.atWork ∨
      d.lifecycleShutdown = false ∧ d.suspended = false ∧ d.connected = false ∧
        (d.execute out).atWork =
          (if d.stopRequested then d.jobs else d.jobs ++ [.reconnect d.tickets], d.running,
            d.connected) := by
  have hresult (d₁ : Daemon) (ok : Bool) :
      let event := if ok then AdapterReconnect.Event.attemptSucceeded else .attemptFailed
      (executeWithin 2 (d₁.reconnectEvent event).1 (d₁.reconnectEvent event).2).atWork =
        d₁.atWork := by
    apply executeWithin_atWork
    apply AdapterReconnect.onEvent_effect_ne_startAttempt <;> cases ok <;> simp
  unfold execute executeWithin
  rw [heffect]
  dsimp only
  have hasync := reconnectAsync_atWork { d with reconnectRetryTimer := d.reconnectRetryTimer.disarm }
  generalize reconnectAsync { d with reconnectRetryTimer := d.reconnectRetryTimer.disarm } =
    answered at hasync ⊢
  obtain ⟨d₁, answer⟩ := answered
  dsimp only at hasync
  rcases hasync with ⟨⟨ok, rfl⟩, hwork⟩ | ⟨rfl, hopen⟩
  · exact Or.inl ((hresult d₁ ok).trans hwork)
  · exact Or.inr hopen

/-! ## The invariant -/

/-- An attempt waits alone: queued, or taken and about to reopen, it finds the adapter not
connected. -/
structure Patient (d : Daemon) : Prop where
  kept : JobsKept (fun _ => True) Job.ReopensAsKnown d
  staged : ∀ r, d.running = some r → r.stage ≠ .outside → Job.reopensNext r.rest = true
  queue : Alone (reopening d.running) d.connected d.jobs
  taken : ∀ r, d.running = some r → r.job.isAttempt = true → r.stage = .outside →
    Job.reopensNext r.rest = true → d.connected = false

namespace Patient

/-- What is known holds of every job from the start, and to its end. -/
theorem jobRules : JobRules Unhurried (fun _ => True) Job.ReopensAsKnown where
  suspend ticket t := by
    have hcalls : Uses Job.NeverReopens (Job.suspend ticket).body := by
      have hclosed : Uses Job.NeverReopens (do
          let _ ← adapter .closeConnection
          return some (Post.suspendDone ticket)) :=
        (uses_adapter (by simp [Job.NeverReopens])).bind fun _ => uses_pure _
      apply (uses_adapter (by simp [Job.NeverReopens])).bind
      intro connected
      apply Uses.ite _ hclosed
      apply Uses.bind _ fun _ => hclosed
      apply Uses.catchStd _ (uses_pure _)
      exact (uses_adapter (by simp [Job.NeverReopens])).bind fun _ => uses_pure _
    exact ⟨Job.reopensFirst_of_calls (hcalls t), fun _ => hcalls t⟩
  resume ticket t := by
    have hreport : Uses Job.NeverReopens (do
        return some (Post.resumeDone ticket (← adapter .isConnected))) :=
      (uses_adapter (by simp [Job.NeverReopens])).bind fun _ => uses_pure _
    have hwake (reconnected : Bool) : Uses Job.NeverReopens (do
        if reconnected then
          catchStd (do let _ ← adapter (.powerOnDevices cecDeviceBroadcast)) (pure ())
        return some (Post.resumeDone ticket (← adapter .isConnected))) := by
      apply Uses.ite _ hreport
      apply Uses.bind _ fun _ => hreport
      apply Uses.catchStd _ (uses_pure _)
      exact (uses_adapter (by simp [Job.NeverReopens])).bind fun _ => uses_pure _
    refine ⟨?_, fun h => absurd h (by simp [Job.reopens])⟩
    rintro (e | reconnected)
    · trivial
    · exact hwake reconnected t
  reconnect ticket t := by
    refine ⟨?_, fun h => absurd h (by simp [Job.reopens])⟩
    rintro (_ | _) <;> trivial
  parked _ := trivial
  live _ hfind t := Job.reopensAsKnown_command hfind t
  replay _ hfind t := Job.reopensAsKnown_command hfind t
  called _ h := ⟨Job.reopensFirst_of_calls (h.1 _), fun _ => h.1 _⟩
  ticked time h := ⟨Job.reopensFirst_of_calls (h.1 time), fun _ => h.1 time⟩
  slept h := ⟨Job.reopensFirst_of_calls (h.1 ()), fun _ => h.1 ()⟩

/-- The main thread submits jobs, an attempt only if no job has still to open the adapter. -/
theorem submitted (h : Patient d) (hkept : JobsKept (fun _ => True) Job.ReopensAsKnown d')
    (more : List Job)
    (hwork : d'.atWork =
      (if d.stopRequested then d.jobs else d.jobs ++ more, d.running, d.connected))
    (hmore : Alone d.reopenAhead d.connected more) : Patient d' := by
  simp only [atWork, Prod.mk.injEq] at hwork
  obtain ⟨hjobs, hrunning, hconnected⟩ := hwork
  refine ⟨hkept, hrunning ▸ h.staged, ?_, hrunning ▸ hconnected ▸ h.taken⟩
  rw [hrunning, hconnected, hjobs]
  split_ifs
  · exact h.queue
  · exact h.queue.append hmore

/-- It leaves the worker's side alone. -/
theorem of_atWork (h : Patient d) (hkept : JobsKept (fun _ => True) Job.ReopensAsKnown d')
    (hwork : d'.atWork = d.atWork) : Patient d' :=
  h.submitted hkept [] (by simpa [atWork] using hwork) trivial

/-- The worker gets past an operation, and does not connect the adapter. -/
theorem worked (h : Patient d) (hkept : JobsKept (fun _ => True) Job.ReopensAsKnown d')
    (hjobs : d'.jobs = d.jobs)
    (hrunning : ∀ r, d'.running = some r → r.stage = .outside ∧ Job.reopensNext r.rest = false)
    (hconnected : d'.connected = true → d.connected = true) : Patient d' := by
  refine ⟨hkept, fun r hr hstage => absurd (hrunning r hr).1 hstage, ?_, fun r hr _ _ hnext => ?_⟩
  · rw [hjobs]
    apply h.queue.mono _ hconnected
    cases hr : d'.running with
    | none => simp [reopening]
    | some r => simp [reopening, (hrunning r hr).2]
  · rw [(hrunning r hr).2] at hnext
    cases hnext

/-- An operation other than a reopen is carried out outside of one. -/
theorem outside (h : Patient d) {r : Running} (hrunning : d.running = some r)
    (hnext : Job.reopensNext r.rest = false) : r.stage = .outside := by
  by_contra hstage
  rw [h.staged r hrunning hstage] at hnext
  cases hnext

/-- Past an answer there is no reopen. -/
theorem answered (h : Patient d) {r : Running} {op : Op} {next : op.Ans → JobProgram}
    (hrunning : d.running = some r) (hrest : r.rest = .call op next) (answer : op.Ans) :
    Job.reopensNext (next answer) = false := by
  have hknown := (h.kept.running r hrunning).1
  rw [hrest] at hknown
  exact Job.reopensNext_of_calls (hknown answer)

theorem roundStable : RoundStable Patient where
  suspendNow h hidle hpending hnow :=
    h.of_atWork ((JobsKept.roundStable jobRules).suspendNow h.kept hidle hpending hnow) rfl
  suspendLater {d source rest} h hidle hpending hlater :=
    h.submitted ((JobsKept.roundStable jobRules).suspendLater h.kept hidle hpending hlater)
      [.suspend d.tickets] rfl (alone_of_others (by simp [Job.isAttempt]))
  resumeNow h hidle hpending hnow :=
    h.of_atWork ((JobsKept.roundStable jobRules).resumeNow h.kept hidle hpending hnow) rfl
  resumeLater {d source rest} h hidle hpending hlater :=
    h.submitted ((JobsKept.roundStable jobRules).resumeLater h.kept hidle hpending hlater)
      [.resume d.tickets] rfl (alone_of_others (by simp [Job.isAttempt]))

theorem seedReconnect (h : Patient d) : Patient d.seedReconnect := by
  apply h.of_atWork ((JobsKept.reconnectStable jobRules).seedReconnect h.kept)
  apply executeWithin_atWork
  unfold AdapterReconnect.seedCycle
  split_ifs <;> simp

theorem settle (h : Patient d) (rounds : ℕ) : Patient (settle rounds d) :=
  roundStable.settle (fun h => h.seedReconnect) rounds h

/-- An event of the reconnect machine. -/
theorem onReconnectEvent (h : Patient d) {event : AdapterReconnect.Event}
    (hclear : (d.adapterReconnect.onEvent event).2.effect = .startAttempt →
      d.lifecycleShutdown = false → d.suspended = false → d.connected = false →
      d.reopenAhead = false) : Patient (d.onReconnectEvent event) := by
  have hkept := (JobsKept.reconnectStable jobRules).onReconnectEvent h.kept event
  by_cases heffect : (d.adapterReconnect.onEvent event).2.effect = .startAttempt
  · rcases execute_startAttempt_atWork (d := (d.reconnectEvent event).1) heffect with
      hwork | ⟨hopen, hawake, hdown, hwork⟩
    · exact h.of_atWork hkept hwork
    · apply h.submitted hkept [.reconnect d.tickets] hwork
      rw [hclear heffect hopen hawake hdown]
      exact ⟨fun _ => ⟨rfl, hdown⟩, trivial⟩
  · exact h.of_atWork hkept (executeWithin_atWork heffect)

theorem stepStable : StepStable Unhurried Patient where
  settle rounds h := h.settle rounds
  received request h := h.of_atWork ((JobsKept.stepStable jobRules).received request h.kept) rfl
  safetyFired h := h.of_atWork ((JobsKept.stepStable jobRules).safetyFired h.kept) rfl
  answered response hwire h :=
    h.of_atWork ((JobsKept.stepStable jobRules).answered response hwire h.kept) rfl
  standby enabled h := h.of_atWork ((JobsKept.stepStable jobRules).standby enabled h.kept) rfl
  parked hC h hopen hsuspended hfind hqueue :=
    h.of_atWork ((JobsKept.stepStable jobRules).parked hC h.kept hopen hsuspended hfind hqueue) rfl
  live {d message spec} hC h hopen hsuspended hfind hcall :=
    h.submitted ((JobsKept.stepStable jobRules).live hC h.kept hopen hsuspended hfind hcall)
      [.live ⟨d.requests, message⟩ spec] rfl (alone_of_others (by simp [Job.isAttempt]))
  posted kind h := h.of_atWork ((JobsKept.stepStable jobRules).posted kind h.kept) rfl
  powerDrained h hposts :=
    h.of_atWork ((JobsKept.stepStable jobRules).powerDrained h.kept hposts) rfl
  replyDrained hC h hposts :=
    h.of_atWork ((JobsKept.stepStable jobRules).replyDrained hC h.kept hposts) rfl
  suspendDrained h hposts := by
    apply h.of_atWork ((JobsKept.stepStable jobRules).suspendDrained h.kept hposts)
    unfold suspendReported
    split_ifs <;> rfl
  resumeDrained {d ticket adapterValid posts} _ h _ := by
    apply resumeDrained_of_reported (P := Patient) (fun rounds h => h.settle rounds)
      fun h => h.seedReconnect
    apply h.submitted (h.kept.resumeReported_resumedWith jobRules _ _ _)
      (replayJobs (if adapterValid then d.queued else []))
    · unfold resumeReported
      split <;> rfl
    · exact alone_of_others fun job hjob => isAttempt_of_replay hjob
  reconnectDrained {d ticket ok posts} hC h hposts := by
    apply h.of_atWork ((JobsKept.stepStable jobRules).reconnectDrained hC h.kept hposts)
    apply executeWithin_atWork
    apply AdapterReconnect.onEvent_effect_ne_startAttempt <;> cases ok <;> simp
  lostDrained {d posts} hC h hposts := by
    have hdrained : Patient { d with posts := posts } :=
      h.of_atWork ⟨h.kept.queued, h.kept.jobs, h.kept.running⟩ rfl
    apply hdrained.onReconnectEvent
    intro heffect hopen hawake hdown
    apply hC
    simp_all [handsOver, emitsStartAttempt]
  retryTimer {d} hC h := by
    have hread : Patient { d with reconnectRetryTimer := d.reconnectRetryTimer.consume } :=
      h.of_atWork ⟨h.kept.queued, h.kept.jobs, h.kept.running⟩ rfl
    apply hread.onReconnectEvent
    intro heffect hopen hawake hdown
    apply hC
    simp_all [handsOver, emitsStartAttempt]
  safetyExpired h := h.of_atWork ((JobsKept.stepStable jobRules).safetyExpired h.kept) rfl
  retryExpired htimer h :=
    h.of_atWork ((JobsKept.stepStable jobRules).retryExpired htimer h.kept) rfl
  taken {d job jobs} h hrunning hjobs hstop := by
    have hkept := (JobsKept.stepStable jobRules).taken h.kept hrunning hjobs hstop
    have hqueue := h.queue
    rw [hrunning, hjobs] at hqueue
    refine ⟨hkept, ?_, ?_, ?_⟩
    · rintro r ⟨⟩ hstage
      exact absurd rfl hstage
    · -- a job taken has still to reopen only if it did while it was queued
      refine hqueue.2.mono (fun hnext => ?_) id
      cases hreopens : job.reopens with
      | true => exact Bool.or_true _
      | false =>
          have hcalls := (h.kept.jobs job (by simp [hjobs]) d.throttler).2 hreopens
          simp [takeJob, reopening, Job.reopensNext_of_calls hcalls] at hnext
    · rintro r ⟨⟩ hattempt _ _
      exact (hqueue.1 hattempt).2
  reopening {d r next} h hrunning hrest hstage := by
    have hnext : Job.reopensNext r.rest = true := by rw [hrest]; rfl
    refine ⟨(JobsKept.stepStable jobRules).reopening h.kept hrunning hrest hstage, ?_, ?_, ?_⟩
    · rintro _ ⟨⟩ _
      exact hnext
    · refine h.queue.mono (fun _ => ?_) (by simp)
      simp [hrunning, Daemon.reopening, hnext, hstage]
    · rintro _ ⟨⟩ _ hoff
      cases hoff
  opened {d r} h hrunning hstage := by
    have hnext : Job.reopensNext r.rest = true := h.staged r hrunning (by simp [hstage])
    refine ⟨(JobsKept.stepStable jobRules).opened h.kept hrunning hstage, ?_, ?_, ?_⟩
    · rintro _ ⟨⟩ _
      exact hnext
    · have hqueue := h.queue
      simp only [hrunning, Daemon.reopening, Option.any_some, hnext, hstage] at hqueue
      exact hqueue.of_ahead
    · rintro _ ⟨⟩ _ hoff
      cases hoff
  called {d r c next outcome} hC h hrunning hrest hpossible := by
    apply h.worked ((JobsKept.stepStable jobRules).called hC h.kept hrunning hrest hpossible) rfl
    · rintro _ ⟨⟩
      exact ⟨rfl, h.answered hrunning hrest outcome⟩
    · exact connected_of_connectedAfter
  ticked {d r next} time h hrunning hrest := by
    have hstage : r.stage = .outside := h.outside hrunning (by rw [hrest]; rfl)
    apply h.worked ((JobsKept.stepStable jobRules).ticked time h.kept hrunning hrest) rfl _ id
    rintro _ ⟨⟩
    exact ⟨hstage, h.answered hrunning hrest time⟩
  slept {d r ms next} h hrunning hrest := by
    have hstage : r.stage = .outside := h.outside hrunning (by rw [hrest]; rfl)
    apply h.worked ((JobsKept.stepStable jobRules).slept h.kept hrunning hrest) rfl _ id
    rintro _ ⟨⟩
    exact ⟨hstage, h.answered hrunning hrest ()⟩
  finished {d r result throttler} hC h hrunning hrest := by
    have hkept := (JobsKept.stepStable jobRules).finished hC h.kept hrunning hrest
    have hwork : (d.finishJob r.job result throttler).atWork = (d.jobs, none, d.connected) := by
      rcases result with _ | (_ | p) <;> rfl
    simp only [atWork, Prod.mk.injEq] at hwork
    obtain ⟨hjobs, hidle, hconnected⟩ := hwork
    exact h.worked hkept hjobs (by simp [hidle]) (by simp [hconnected])
  exited {d} h hrunning hstop :=
    h.worked ((JobsKept.stepStable jobRules).exited h.kept hrunning hstop) rfl (by simp [hrunning])
      (by simp)
  alerted {d} h :=
    ⟨(JobsKept.stepStable jobRules).alerted h.kept, h.staged, h.queue.mono id (by simp),
      fun _ _ _ _ _ => rfl⟩
  alertPosted h halerting :=
    h.of_atWork ((JobsKept.stepStable jobRules).alertPosted h.kept halerting) rfl
  stopped {d} h := by
    have hwork : d.stop.atWork = ([], d.running, d.connected) := by
      rw [stop_eq]
      rfl
    simp only [atWork, Prod.mk.injEq] at hwork
    obtain ⟨hjobs, hrunning, hconnected⟩ := hwork
    refine ⟨(JobsKept.stepStable jobRules).stopped h.kept, hrunning ▸ h.staged, ?_,
      hrunning ▸ hconnected ▸ h.taken⟩
    rw [hjobs]
    trivial

theorem boot (setup : Setup) : Patient (boot setup) :=
  ⟨JobsKept.boot setup, by simp [Daemon.boot], trivial, by simp [Daemon.boot]⟩

theorem not_tearsDownHealthy (h : Patient d) (label : Label) :
    d.tearsDownHealthy label = false := by
  unfold tearsDownHealthy
  split
  · next r hrunning =>
      by_contra htears
      simp only [Bool.not_eq_false, Bool.and_eq_true, beq_iff_eq] at htears
      obtain ⟨⟨⟨hattempt, hnext⟩, hstage⟩, hup⟩ := htears
      rw [h.taken r hrunning hattempt hstage hnext] at hup
      cases hup
  · rfl

end Patient

/-- **Recovery leaves healthy connections alone**, in runs in which attempts are only handed to
the worker when no job has still to open the adapter. -/
theorem recovery_spares_healthy {setup : Setup} {labels : List Label}
    (hmeets : machine.Meets Unhurried (boot setup) labels) :
    machine.Meets (fun d label => d.tearsDownHealthy label = false) (boot setup) labels :=
  machine.meets_of_invariant (I := Patient)
    (fun h hC hstep => Patient.stepStable.step h hC hstep)
    (fun h _ => h.not_tearsDownHealthy _) (Patient.boot setup) hmeets

/-- A connection is lost, the retry falls due, and the attempt brings the connection back. -/
def recovered : List Label :=
  [.alertStore, .alertPost, .drain, .retryExpire, .retryTimer, .workerTake, .workerReopen,
    .workerOpened, .workerCall (.ok true), .workerFinish, .drain]

theorem recovery_spares_healthy_recovered :
    machine.Meets (fun d label => d.tearsDownHealthy label = false) (boot {}) recovered :=
  recovery_spares_healthy (by decide)

/-- A restart is reopening the adapter when the retry falls due: the attempt is queued behind it
and has its turn when the restart is done. -/
def restarted : List Label :=
  [.alertStore, .alertPost, .drain, .wire ⟨.cmdRestartAdapter, 0, []⟩, .workerTake, .workerReopen,
    .retryExpire, .retryTimer, .workerOpened, .workerCall (.ok true), .workerFinish, .workerTake,
    .workerReopen]

/-- The attempt tears down the connection that the restart has set up. -/
theorem recovery_tears_down_restarted :
    (machine.run (boot {}) restarted).isSome = true ∧
      ¬ machine.Meets (fun d label => d.tearsDownHealthy label = false) (boot {}) restarted := by
  decide

end Daemon

end CecControl
