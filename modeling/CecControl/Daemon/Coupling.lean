/-
# How the worker's queue and the power phase hang together

A completion travels from the job queue through the worker to the main thread's
queue of closures. Read back to front these three form one FIFO of completions
still to come, `outstanding`. Around it the two gates of the lifecycle close: a
suspend or resume job is always the last one outstanding, it belongs to the phase
the sequencer is in, and while one is outstanding the adapter is suspended, so
that nothing else can be submitted behind it.
-/

import CecControl.Daemon.StepRule

namespace CecControl

open Lib PowerLifecycle

/-- The completion a job owes, or a posted closure carries. -/
inductive Token
  | suspend (ticket : ℕ)
  | resume (ticket : ℕ)
  | reconnect (ticket : ℕ)
  | reply (id : ℕ)
  | replay (id : ℕ)
  deriving DecidableEq, Repr

/-- Suspends and resumes. -/
def Token.isPower : Token → Bool
  | .suspend _ | .resume _ => true
  | _ => false

def Job.token : Job → Token
  | .suspend ticket => .suspend ticket
  | .resume ticket => .resume ticket
  | .reconnect ticket => .reconnect ticket
  | .live command _ => .reply command.id
  | .replay command _ => .replay command.id

def Post.token : Post → Option Token
  | .suspendDone ticket => some (.suspend ticket)
  | .resumeDone ticket _ => some (.resume ticket)
  | .reconnectDone ticket _ => some (.reconnect ticket)
  | .reply id _ => some (.reply id)
  | .connectionLost => none
  | .power _ => none

/-- The closure a job posts carries the job's own token; only a replay posts
nothing. -/
theorem Job.Completes.token {job : Job} {result : Option Post} (h : job.Completes result) :
    (∃ p, result = some p ∧ p.token = some job.token) ∨
      result = none ∧ ∃ command spec, job = .replay command spec := by
  cases job with
  | suspend ticket => exact Or.inl ⟨_, h, rfl⟩
  | resume ticket => obtain ⟨_, h⟩ := h; exact Or.inl ⟨_, h, rfl⟩
  | reconnect ticket => obtain ⟨_, h⟩ := h; exact Or.inl ⟨_, h, rfl⟩
  | live command spec => obtain ⟨_, h⟩ := h; exact Or.inl ⟨_, h, rfl⟩
  | replay command spec => exact Or.inr ⟨h, command, spec, rfl⟩

namespace Daemon

/-- Completions still to come, oldest first: posted, running, queued. -/
def outstanding (d : Daemon) : List Token :=
  d.posts.filterMap Post.token ++
    (d.running.toList.map (fun r => r.job.token) ++ d.jobs.map Job.token)

/-- The jobs replayed for drained commands. -/
def replayJobs (commands : List Command) : List Job :=
  commands.filterMap fun command =>
    (findDispatchByType command.message.type).bind fun spec =>
      if spec.dispatch = .adapterCall then some (.replay command spec) else none

theorem replay_eq (d : Daemon) (commands : List Command) :
    d.replay commands =
      { d with jobs := if d.stopRequested then d.jobs else d.jobs ++ replayJobs commands } := by
  induction commands generalizing d with
  | nil => simp [replay, replayJobs]
  | cons command commands ih =>
      unfold replay
      cases hfind : findDispatchByType command.message.type with
      | none => simp [ih, replayJobs, hfind]
      | some spec =>
          by_cases hcall : spec.dispatch = .adapterCall
          · cases hstop : d.stopRequested <;>
              simp [ih, replayJobs, hfind, hcall, hstop]
          · simp [ih, replayJobs, hfind, hcall]

/-- A resume has reported back, up to the sequencer: the queue is drained, the
flag lowered, and the drained commands submitted if the adapter is back. -/
def resumedWith (d : Daemon) (ticket : ℕ) (adapterValid : Bool) (posts : List Post) : Daemon :=
  { d with
    posts := posts
    queued := []
    suspended := false
    jobs :=
      if d.stopRequested then d.jobs
      else d.jobs ++ replayJobs (if adapterValid then d.queued else [])
    log := d.log ++ [.resumed adapterValid, .invoked ticket] }

theorem runPost_resumeDone (d : Daemon) (ticket : ℕ) (adapterValid : Bool) (posts : List Post) :
    runPost { d with posts := posts } (.resumeDone ticket adapterValid) =
      if adapterValid then
        settle d.powerLifecycle.pending.length
          (d.resumedWith ticket adapterValid posts).resumeReported
      else
        (settle d.powerLifecycle.pending.length
          (d.resumedWith ticket adapterValid posts).resumeReported).seedReconnect := by
  have hresumed : ((onResumeWorkerComplete { d with posts := posts } adapterValid).1.emit
      (.invoked ticket)).replay
        (onResumeWorkerComplete { d with posts := posts } adapterValid).2 =
      d.resumedWith ticket adapterValid posts := by
    rw [replay_eq]
    cases adapterValid <;> simp [onResumeWorkerComplete, resumedWith]
  simp only [runPost]
  rw [hresumed, onResumeCompleted_eq_settle]
  rfl

/-- A drained resume preserves what its report, `settle` and seeding preserve. -/
theorem resumeDrained_of_reported {P : Daemon → Prop}
    (hsettle : ∀ {d} (rounds : ℕ), P d → P (settle rounds d))
    (hseed : ∀ {d}, P d → P (seedReconnect d)) {d : Daemon} {ticket : ℕ} {adapterValid : Bool}
    {posts : List Post} (hreported : P (d.resumedWith ticket adapterValid posts).resumeReported) :
    P (runPost { d with posts := posts } (.resumeDone ticket adapterValid)) := by
  rw [runPost_resumeDone]
  split_ifs
  · exact hsettle _ hreported
  · exact hseed (hsettle _ hreported)

/-! ## The log only grows -/

theorem mem_log_roundStable (e : Effect) : RoundStable fun d => e ∈ d.log where
  suspendNow h _ _ _ := List.mem_append_left _ h
  suspendLater h _ _ _ := List.mem_append_left _ h
  resumeNow h _ _ _ := List.mem_append_left _ h
  resumeLater h _ _ _ := List.mem_append_left _ h

theorem mem_log_reconnectStable (e : Effect) : ReconnectStable fun d => e ∈ d.log where
  quiet _ _ _ h := h
  attempt {d} h := by
    unfold reconnectAsync
    dsimp only [issue, emit, submit]
    split_ifs <;> simp [h]
  abandon h := List.mem_append_left _ h

/-- What has happened stays in the log. -/
theorem mem_log_stepStable {C : Daemon → Label → Prop} (e : Effect) :
    StepStable C fun d => e ∈ d.log where
  settle rounds h :=
    (mem_log_roundStable e).settle (mem_log_reconnectStable e).seedReconnect rounds h
  received _ h := List.mem_append_left _ h
  safetyFired h := List.mem_append_left _ h
  answered _ _ h := List.mem_append_left _ h
  standby _ h := h
  parked _ h _ _ _ _ := List.mem_append_left _ h
  live _ h _ _ _ _ := List.mem_append_left _ h
  posted _ h := h
  powerDrained h _ := h
  replyDrained _ h _ := List.mem_append_left _ h
  suspendDrained h _ := by
    unfold suspendReported
    split_ifs <;> simp [finishSuspend, h]
  resumeDrained _ h _ := by
    refine resumeDrained_of_reported (P := fun d => e ∈ d.log)
      (fun rounds h =>
        (mem_log_roundStable e).settle (mem_log_reconnectStable e).seedReconnect rounds h)
      (mem_log_reconnectStable e).seedReconnect ?_
    unfold resumeReported
    split_ifs <;> simp [finishResume, resumedWith, h]
  reconnectDrained _ h _ :=
    (mem_log_reconnectStable e).onReconnectEvent (List.mem_append_left _ h) _
  lostDrained {d posts} _ h _ :=
    (mem_log_reconnectStable e).onReconnectEvent (d := { d with posts := posts }) h _
  retryTimer {d} _ h :=
    (mem_log_reconnectStable e).onReconnectEvent
      (d := { d with reconnectRetryTimer := d.reconnectRetryTimer.consume }) h _
  safetyExpired h := h
  retryExpired _ h := h
  taken h _ _ _ := List.mem_append_left _ h
  reopening h _ _ _ := h
  opened h _ _ := h
  called _ h _ _ _ := h
  ticked _ h _ _ := h
  slept h _ _ := h
  finished {d r result throttler} _ h _ _ := by
    rcases result with _ | (_ | p)
    · exact List.mem_append_left _ h
    · exact h
    · exact h
  exited h _ _ := h
  alerted h := h
  alertPosted h _ := h
  stopped {d} h := by
    rw [stop_eq]
    exact List.mem_append_left _ h

/-- The coupling between completions, phase and gates. -/
structure Coupled (d : Daemon) : Prop where
  /-- The running job ends with its own closure or with an exception. -/
  completes : ∀ r, d.running = some r →
    r.rest.Ends fun result => ∀ p, result.1 = .ok p → r.job.Completes p
  /-- The three shutdown gates close together, and drop what is queued. -/
  gates : d.stopRequested = d.lifecycleShutdown ∧ d.dispatcherShutdown = d.lifecycleShutdown ∧
    (d.stopRequested = true → d.jobs = [])
  /-- A suspend or resume is the last completion outstanding. -/
  last : d.lifecycleShutdown = false →
    d.outstanding.Pairwise fun earlier _ => earlier.isPower = false
  /-- It belongs to the phase. -/
  suspending : d.lifecycleShutdown = false → ∀ ticket, .suspend ticket ∈ d.outstanding →
    d.powerLifecycle.phase = .suspending
  resuming : d.lifecycleShutdown = false → ∀ ticket, .resume ticket ∈ d.outstanding →
    d.powerLifecycle.phase = .resuming
  /-- While a power request is in flight the adapter is suspended. -/
  busy : d.lifecycleShutdown = false → d.powerLifecycle.phase ≠ .idle → d.suspended = true

namespace Coupled

variable {d : Daemon}

/-- With nothing in flight, no suspend or resume is outstanding. -/
theorem not_isPower_of_idle (h : Coupled d) (hopen : d.lifecycleShutdown = false)
    (hidle : d.powerLifecycle.phase = .idle) :
    ∀ token ∈ d.outstanding, token.isPower = false := by
  intro token htoken
  cases token with
  | suspend ticket => exact absurd (h.suspending hopen ticket htoken) (by simp [hidle])
  | resume ticket => exact absurd (h.resuming hopen ticket htoken) (by simp [hidle])
  | _ => rfl

theorem idle_of_not_suspended (h : Coupled d) (hopen : d.lifecycleShutdown = false)
    (hsuspended : d.suspended = false) : d.powerLifecycle.phase = .idle := by
  by_contra hbusy
  simp [h.busy hopen hbusy] at hsuspended

/-- A drained suspend or resume was the only completion outstanding. -/
theorem outstanding_nil_of_power (h : Coupled d) (hopen : d.lifecycleShutdown = false)
    {p : Post} {token : Token} {posts : List Post} (hposts : d.posts = p :: posts)
    (htoken : p.token = some token) (hpower : token.isPower = true) :
    outstanding { d with posts := posts } = [] := by
  have hlast := h.last hopen
  have hcons : d.outstanding = token :: outstanding { d with posts := posts } := by
    simp [outstanding, hposts, htoken]
  rw [hcons, List.pairwise_cons] at hlast
  refine List.eq_nil_iff_forall_not_mem.mpr fun later hlater => ?_
  simpa [hpower] using hlast.1 later hlater

/-- Submitting ordinary work while not suspended keeps the coupling. -/
theorem submit (h : Coupled d) (jobs : List Job) (hsuspended : d.suspended = false)
    (hjobs : ∀ job ∈ jobs, job.token.isPower = false) :
    Coupled { d with jobs := if d.stopRequested then d.jobs else d.jobs ++ jobs } := by
  have hgates := h.gates
  by_cases hstop : d.stopRequested = true
  · rw [if_pos hstop]
    exact h
  rw [if_neg hstop]
  have hopen : d.lifecycleShutdown = false := by simpa [hgates.1] using hstop
  have hold := h.not_isPower_of_idle hopen (h.idle_of_not_suspended hopen hsuspended)
  have hnew : ∀ token ∈ outstanding { d with jobs := d.jobs ++ jobs },
      token.isPower = false := by
    intro token htoken
    have hsplit : token ∈ d.outstanding ∨ ∃ job ∈ jobs, job.token = token := by
      simpa [outstanding, or_assoc] using htoken
    rcases hsplit with hmem | ⟨job, hjob, rfl⟩
    · exact hold token hmem
    · exact hjobs job hjob
  refine ⟨h.completes, ⟨hgates.1, hgates.2.1, fun hstop' => absurd hstop' hstop⟩, fun _ => ?_,
    fun _ => ?_, fun _ => ?_, h.busy⟩
  · exact List.pairwise_of_forall_mem_list fun earlier hearlier _ _ => hnew earlier hearlier
  · intro ticket hmem
    exact absurd (hnew _ hmem) (by simp [Token.isPower])
  · intro ticket hmem
    exact absurd (hnew _ hmem) (by simp [Token.isPower])

/-- The coupling survives losing completions. -/
theorem sublist (h : Coupled d) {d' : Daemon} (hsub : d'.outstanding.Sublist d.outstanding)
    (hcompletes : ∀ r, d'.running = some r →
      r.rest.Ends fun result => ∀ p, result.1 = .ok p → r.job.Completes p)
    (hgates : d'.stopRequested = d'.lifecycleShutdown ∧
      d'.dispatcherShutdown = d'.lifecycleShutdown ∧ (d'.stopRequested = true → d'.jobs = []))
    (hshut : d'.lifecycleShutdown = d.lifecycleShutdown)
    (hphase : d'.powerLifecycle.phase = d.powerLifecycle.phase)
    (hsuspended : d'.suspended = d.suspended) : Coupled d' where
  completes := hcompletes
  gates := hgates
  last hopen := (h.last (hshut ▸ hopen)).sublist hsub
  suspending hopen ticket hmem := by
    rw [hphase]
    exact h.suspending (hshut ▸ hopen) ticket (hsub.subset hmem)
  resuming hopen ticket hmem := by
    rw [hphase]
    exact h.resuming (hshut ▸ hopen) ticket (hsub.subset hmem)
  busy hopen hbusy := by
    rw [hsuspended]
    exact h.busy (hshut ▸ hopen) (hphase ▸ hbusy)

/-- A power request handed to the worker becomes the last completion. -/
theorem powerSubmitted (h : Coupled d) {d' : Daemon} (token : Token)
    (hidle : d.powerLifecycle.phase = .idle) (hopen : d.lifecycleShutdown = false)
    (hout : d'.outstanding = d.outstanding ++ [token])
    (hphase : (∃ ticket, token = .suspend ticket) ∧ d'.powerLifecycle.phase = .suspending ∨
      (∃ ticket, token = .resume ticket) ∧ d'.powerLifecycle.phase = .resuming)
    (hsuspended : d'.suspended = true) (hrunning : d'.running = d.running)
    (hgates : d'.stopRequested = d'.lifecycleShutdown ∧
      d'.dispatcherShutdown = d'.lifecycleShutdown ∧
      (d'.stopRequested = true → d'.jobs = [])) : Coupled d' := by
  have hold := h.not_isPower_of_idle hopen hidle
  refine ⟨fun r hr => h.completes r (hrunning ▸ hr), hgates, fun _ => ?_, fun _ ticket hmem => ?_,
    fun _ ticket hmem => ?_, fun _ _ => hsuspended⟩
  · rw [hout, List.pairwise_append]
    refine ⟨h.last hopen, by simp, fun earlier hearlier _ _ => hold earlier hearlier⟩
  · rw [hout, List.mem_append] at hmem
    rcases hmem with hmem | hmem
    · exact absurd (hold _ hmem) (by simp [Token.isPower])
    · rcases hphase with ⟨_, hphase⟩ | ⟨⟨ticket', rfl⟩, _⟩
      · exact hphase
      · simp at hmem
  · rw [hout, List.mem_append] at hmem
    rcases hmem with hmem | hmem
    · exact absurd (hold _ hmem) (by simp [Token.isPower])
    · rcases hphase with ⟨⟨ticket', rfl⟩, _⟩ | ⟨_, hphase⟩
      · simp at hmem
      · exact hphase

theorem roundStable : RoundStable Coupled where
  suspendNow {d source rest} h hidle hpending hnow :=
    h.sublist (List.Sublist.refl _) h.completes h.gates rfl hidle.symm rfl
  suspendLater {d source rest} h hidle hpending hlater := by
    simp only [suspendsNow, Bool.or_eq_false_iff] at hlater
    have hstop : d.stopRequested = false := h.gates.1.trans hlater.1
    refine h.powerSubmitted (.suspend d.tickets) hidle hlater.1 ?_
      (Or.inl ⟨⟨_, rfl⟩, rfl⟩) rfl rfl ?_
    · simp [outstanding, Daemon.suspendLater, hstop, Job.token]
    · simp [Daemon.suspendLater, h.gates.1, h.gates.2.1, hlater.1]
  resumeNow {d source rest} h hidle hpending hnow :=
    h.sublist (List.Sublist.refl _) h.completes h.gates rfl hidle.symm rfl
  resumeLater {d source rest} h hidle hpending hlater := by
    simp only [resumesNow, Bool.or_eq_false_iff, Bool.not_eq_false'] at hlater
    have hstop : d.stopRequested = false := h.gates.1.trans hlater.1
    refine h.powerSubmitted (.resume d.tickets) hidle hlater.1 ?_
      (Or.inr ⟨⟨_, rfl⟩, rfl⟩) hlater.2 rfl ?_
    · simp [outstanding, Daemon.resumeLater, hstop, Job.token]
    · simp [Daemon.resumeLater, h.gates.1, h.gates.2.1, hlater.1]

theorem reconnectStable : ReconnectStable Coupled where
  quiet {d} reconnect timer arms h :=
    ⟨h.completes, h.gates, h.last, h.suspending, h.resuming, h.busy⟩
  attempt {d} h := by
    have hkeep {tickets : ℕ} {log : List Effect} :
        Coupled { d with tickets := tickets, log := log } :=
      ⟨h.completes, h.gates, h.last, h.suspending, h.resuming, h.busy⟩
    obtain ⟨-, ok, more, -, heq⟩ | ⟨-, hsuspended, -, heq⟩ := d.reconnectAsync_cases
    · rw [heq]
      exact hkeep
    · rw [heq]
      exact hkeep.submit _ (by simpa using hsuspended) (by simp [Token.isPower, Job.token])
  abandon {d} h := ⟨h.completes, h.gates, h.last, h.suspending, h.resuming, h.busy⟩

theorem settle (h : Coupled d) (rounds : ℕ) : Coupled (settle rounds d) :=
  roundStable.settle reconnectStable.seedReconnect rounds h

/-- Only the log and bookkeeping the coupling does not read has changed. -/
theorem received (h : Coupled d) (request : Pending) : Coupled (d.received request) := by
  have hphase : (d.received request).powerLifecycle.phase = d.powerLifecycle.phase := by
    unfold Daemon.received
    dsimp only
    split_ifs <;> rfl
  exact h.sublist (List.Sublist.refl _) h.completes h.gates rfl hphase rfl

theorem safetyFired (h : Coupled d) : Coupled d.safetyFired := by
  have hphase : d.safetyFired.powerLifecycle.phase = d.powerLifecycle.phase := by
    unfold Daemon.safetyFired PowerLifecycle.onSafetyTimerFired
    dsimp only
    split_ifs <;> rfl
  exact h.sublist (List.Sublist.refl _) h.completes h.gates rfl hphase rfl

/-- With nothing outstanding and the phase idle there is nothing to couple. -/
theorem of_outstanding_nil {d' : Daemon} (hidle : d'.powerLifecycle.phase = .idle)
    (hnil : d'.lifecycleShutdown = false → ∀ token ∈ d'.outstanding, token.isPower = false)
    (hcompletes : ∀ r, d'.running = some r →
      r.rest.Ends fun result => ∀ p, result.1 = .ok p → r.job.Completes p)
    (hgates : d'.stopRequested = d'.lifecycleShutdown ∧
      d'.dispatcherShutdown = d'.lifecycleShutdown ∧
      (d'.stopRequested = true → d'.jobs = [])) : Coupled d' where
  completes := hcompletes
  gates := hgates
  last hopen := List.pairwise_of_forall_mem_list fun earlier hearlier _ _ =>
    hnil hopen earlier hearlier
  suspending hopen ticket hmem := absurd (hnil hopen _ hmem) (by simp [Token.isPower])
  resuming hopen ticket hmem := absurd (hnil hopen _ hmem) (by simp [Token.isPower])
  busy _ hbusy := absurd hidle hbusy

/-- Everything outstanding after a drained power completion is what it replayed. -/
theorem replayJobs_not_isPower (commands : List Command) :
    ∀ job ∈ replayJobs commands, job.token.isPower = false := by
  intro job hjob
  simp only [replayJobs, List.mem_filterMap, Option.bind_eq_some_iff] at hjob
  obtain ⟨command, _, spec, _, hspec⟩ := hjob
  split_ifs at hspec
  rw [← Option.some.inj hspec]
  rfl

theorem suspendDrained (h : Coupled d) {ticket : ℕ} {posts : List Post}
    (hposts : d.posts = .suspendDone ticket :: posts) :
    Coupled (suspendReported { d with posts := posts, log := d.log ++ [.invoked ticket] }) := by
  by_cases hphase : d.powerLifecycle.phase = .suspending
  · rw [suspendReported, if_pos hphase]
    refine of_outstanding_nil rfl (fun hopen => ?_) h.completes h.gates
    have hnil := h.outstanding_nil_of_power hopen hposts rfl rfl
    intro token htoken
    exact absurd (hnil ▸ htoken : token ∈ []) (by simp)
  · rw [suspendReported, if_neg hphase]
    refine h.sublist ?_ h.completes h.gates rfl rfl rfl
    simp [outstanding, hposts, Post.token]

theorem resumeReported_resumedWith (h : Coupled d) {ticket : ℕ} {adapterValid : Bool}
    {posts : List Post} (hposts : d.posts = .resumeDone ticket adapterValid :: posts) :
    Coupled (d.resumedWith ticket adapterValid posts).resumeReported := by
  have hout : d.lifecycleShutdown = false →
      ∀ token ∈ (d.resumedWith ticket adapterValid posts).outstanding,
        token.isPower = false := by
    intro hopen token htoken
    have hnil := h.outstanding_nil_of_power hopen hposts rfl rfl
    have hstop : d.stopRequested = false := h.gates.1.trans hopen
    simp only [outstanding, List.append_eq_nil_iff] at hnil
    simp only [outstanding, resumedWith, hstop, Bool.false_eq_true, if_false, List.map_append,
      hnil, List.nil_append, List.mem_map] at htoken
    obtain ⟨job, hjob, rfl⟩ := htoken
    exact replayJobs_not_isPower _ job hjob
  have hgates : (d.resumedWith ticket adapterValid posts).stopRequested = true →
      (d.resumedWith ticket adapterValid posts).jobs = [] := by
    intro hstop
    rw [show (d.resumedWith ticket adapterValid posts).jobs = d.jobs from if_pos hstop]
    exact h.gates.2.2 hstop
  by_cases hphase : (d.resumedWith ticket adapterValid posts).powerLifecycle.phase = .resuming
  · rw [resumeReported, if_pos hphase]
    exact of_outstanding_nil rfl hout h.completes ⟨h.gates.1, h.gates.2.1, hgates⟩
  · -- a resume that is not in flight can only report after shutdown
    have hshut : d.lifecycleShutdown = true := by
      by_contra hopen
      exact hphase (h.resuming (by simpa using hopen) ticket
        (by simp [outstanding, hposts, Post.token]))
    rw [resumeReported, if_neg hphase]
    have hclosed {P : Prop} : (d.resumedWith ticket adapterValid posts).lifecycleShutdown = false →
        P := fun hopen => absurd (hshut.symm.trans hopen) (by simp)
    exact ⟨h.completes, ⟨h.gates.1, h.gates.2.1, hgates⟩, hclosed, hclosed, hclosed, hclosed⟩

/-- Draining a closure that carries no power completion drops it. -/
theorem drained (h : Coupled d) {p : Post} {posts : List Post} (hposts : d.posts = p :: posts)
    {log : List Effect} : Coupled { d with posts := posts, log := log } := by
  refine h.sublist ?_ h.completes h.gates rfl rfl rfl
  cases htoken : p.token <;> simp [outstanding, hposts, htoken]

theorem finishJob_outstanding (h : Coupled d) {r : Running} {result : Except Exn (Option Post)}
    {throttler : CommandThrottler} (hrunning : d.running = some r)
    (hrest : r.rest = .ret (result, throttler)) :
    ((d.finishJob r.job result throttler).outstanding = d.outstanding ∧
        (∃ p, result = .ok (some p) ∧ r.job.Completes (some p))) ∨
      ((d.finishJob r.job result throttler).outstanding.Sublist d.outstanding ∧
        ((∃ e, result = .error e) ∨
          result = .ok none ∧ ∃ command spec, r.job = .replay command spec)) := by
  have hends := h.completes r hrunning
  rw [hrest] at hends
  cases result with
  | error e =>
      refine Or.inr ⟨?_, Or.inl ⟨e, rfl⟩⟩
      simp [outstanding, finishJob, hrunning]
  | ok closure =>
      have hcompletes : r.job.Completes closure := hends closure rfl
      rcases hcompletes.token with ⟨p, rfl, htoken⟩ | ⟨rfl, hreplay⟩
      · refine Or.inl ⟨?_, p, rfl, hcompletes⟩
        simp [outstanding, finishJob, hrunning, htoken]
      · refine Or.inr ⟨?_, Or.inr ⟨rfl, hreplay⟩⟩
        simp [outstanding, finishJob, hrunning]

/-- The coupling is an invariant of the daemon. -/
theorem stepStable {C : Daemon → Label → Prop} : StepStable C Coupled where
  settle rounds h := h.settle rounds
  received request h := h.received request
  safetyFired h := h.safetyFired
  answered response _ h := ⟨h.completes, h.gates, h.last, h.suspending, h.resuming, h.busy⟩
  standby enabled h := ⟨h.completes, h.gates, h.last, h.suspending, h.resuming, h.busy⟩
  parked _ h _ _ _ _ := ⟨h.completes, h.gates, h.last, h.suspending, h.resuming, h.busy⟩
  live {d message spec} _ h _ hsuspended _ _ := by
    have hsubmit := h.submit [.live ⟨d.requests, message⟩ spec] hsuspended
      (by simp [Token.isPower, Job.token])
    exact ⟨hsubmit.completes, hsubmit.gates, hsubmit.last, hsubmit.suspending, hsubmit.resuming,
      hsubmit.busy⟩
  posted kind h := by
    refine h.sublist ?_ h.completes h.gates rfl rfl rfl
    simp [outstanding, Post.token]
  powerDrained h hposts := h.drained hposts
  replyDrained _ h hposts := h.drained hposts
  suspendDrained h hposts := h.suspendDrained hposts
  resumeDrained _ h hposts :=
    resumeDrained_of_reported (P := Coupled) (fun rounds h => h.settle rounds)
      reconnectStable.seedReconnect (h.resumeReported_resumedWith hposts)
  reconnectDrained _ h hposts := reconnectStable.onReconnectEvent (h.drained hposts) _
  lostDrained _ h hposts := reconnectStable.onReconnectEvent (h.drained hposts) _
  retryTimer {d} _ h :=
    reconnectStable.onReconnectEvent (reconnectStable.quiet (d := d) _ _ d.arms h) _
  safetyExpired h := ⟨h.completes, h.gates, h.last, h.suspending, h.resuming, h.busy⟩
  retryExpired _ h := ⟨h.completes, h.gates, h.last, h.suspending, h.resuming, h.busy⟩
  taken {d job jobs} h hrunning hjobs hstop := by
    refine h.sublist ?_ ?_ ⟨h.gates.1, h.gates.2.1, ?_⟩ rfl rfl rfl
    · simp [outstanding, takeJob, hrunning, hjobs]
    · rintro r ⟨⟩
      exact job.returns_body d.throttler
    · intro hstop'
      exact absurd (hstop.symm.trans hstop') (by simp)
  reopening {d r next} h hrunning hrest hstage := by
    refine h.sublist ?_ ?_ h.gates rfl rfl rfl
    · simp [outstanding, hrunning]
    · rintro _ ⟨⟩
      exact h.completes r hrunning
  opened {d r} h hrunning hstage := by
    refine h.sublist ?_ ?_ h.gates rfl rfl rfl
    · simp [outstanding, hrunning]
    · rintro _ ⟨⟩
      exact h.completes r hrunning
  called {d r c next outcome} _ h hrunning hrest _ := by
    refine h.sublist ?_ ?_ h.gates rfl rfl rfl
    · simp [outstanding, hrunning]
    · rintro _ ⟨⟩
      have hends := h.completes r hrunning
      rw [hrest] at hends
      exact hends outcome
  ticked {d r next} time h hrunning hrest := by
    refine h.sublist ?_ ?_ h.gates rfl rfl rfl
    · simp [outstanding, hrunning]
    · rintro _ ⟨⟩
      have hends := h.completes r hrunning
      rw [hrest] at hends
      exact hends time
  slept {d r ms next} h hrunning hrest := by
    refine h.sublist ?_ ?_ h.gates rfl rfl rfl
    · simp [outstanding, hrunning]
    · rintro _ ⟨⟩
      have hends := h.completes r hrunning
      rw [hrest] at hends
      exact hends ()
  finished {d r result throttler} _ h hrunning hrest := by
    have hsub : (d.finishJob r.job result throttler).outstanding.Sublist d.outstanding := by
      rcases h.finishJob_outstanding hrunning hrest with ⟨heq, _⟩ | ⟨hsub, _⟩
      · exact heq ▸ List.Sublist.refl _
      · exact hsub
    unfold finishJob at hsub ⊢
    rcases result with _ | (_ | p)
    · exact h.sublist hsub (by simp) h.gates rfl rfl rfl
    · exact h.sublist hsub (by simp) h.gates rfl rfl rfl
    · exact h.sublist hsub (by simp) h.gates rfl rfl rfl
  exited h _ _ := ⟨h.completes, h.gates, h.last, h.suspending, h.resuming, h.busy⟩
  alerted h := ⟨h.completes, h.gates, h.last, h.suspending, h.resuming, h.busy⟩
  alertPosted h _ := by
    refine h.sublist ?_ h.completes h.gates rfl rfl rfl
    simp [outstanding, Post.token]
  stopped {d} h := by
    have hshut : d.stop.lifecycleShutdown = true := by rw [stop_eq]
    have hgate : d.stop.dispatcherShutdown = true := by rw [stop_eq]
    have hclosed {P : Prop} : d.stop.lifecycleShutdown = false → P :=
      fun hopen => absurd (hshut.symm.trans hopen) (by simp)
    refine ⟨fun r hr => h.completes r ?_, ⟨hshut.symm, hgate.trans hshut.symm, fun _ => rfl⟩,
      hclosed, hclosed, hclosed, hclosed⟩
    rw [← hr, stop_eq]

/-- The same, with no condition to meet. -/
theorem stable : StepStable (fun _ _ => True) Coupled := stepStable

theorem boot (setup : Setup) : Coupled (boot setup) where
  completes := by simp [Daemon.boot]
  gates := by simp [Daemon.boot]
  last := by simp [Daemon.boot, outstanding]
  suspending := by simp [Daemon.boot, outstanding]
  resuming := by simp [Daemon.boot, outstanding]
  busy := by simp [Daemon.boot]

end Coupled

end Daemon

end CecControl
