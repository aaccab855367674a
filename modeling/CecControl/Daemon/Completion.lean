/-
# Every call completes, or its job has escaped

The lifecycle's asynchronous calls each hand over a callback, the dispatcher a
reply sink. What has been handed over is closed by running it, or lost with a job
that ended in an exception, or still outstanding; and it is so exactly once. The
two machines wait only for what is outstanding or lost. Once everything has been
worked off, nothing is left to wait for unless a job has escaped, and the jobs
that escape are known.
-/

import CecControl.Daemon.Escapes
import CecControl.Daemon.WorkingOff
import CecControl.Lib.Tally

namespace CecControl

open Lib WorkerM PowerLifecycle

/-- A completion callback or a reply sink. -/
inductive Obligation
  | callback (ticket : ℕ)
  | reply (id : ℕ)
  deriving DecidableEq, Repr

def Token.obligation : Token → Option Obligation
  | .suspend ticket | .resume ticket | .reconnect ticket => some (.callback ticket)
  | .reply id => some (.reply id)
  | .replay _ => none

/-- The callback was run, or the reply made. -/
def Effect.discharged : Effect → Option Obligation
  | .invoked ticket => some (.callback ticket)
  | .replied id _ => some (.reply id)
  | _ => none

def Job.obligation (job : Job) : Option Obligation := job.token.obligation

def Running.obligation (r : Running) : Option Obligation := r.job.obligation

def Post.obligation (p : Post) : Option Obligation := p.token.bind Token.obligation

/-- The job that was to do so escaped. -/
def Effect.lost : Effect → Option Obligation
  | .escaped job => job.obligation
  | _ => none

def Effect.escapedToken : Effect → Option Token
  | .escaped job => some job.token
  | _ => none

namespace Daemon

/-! ## The ledger -/

/-- How often a callback was run, or a reply made. -/
def dischargedCount (d : Daemon) : Obligation → ℕ := tally Effect.discharged d.log

/-- How often it was lost with its job. -/
def lostCount (d : Daemon) : Obligation → ℕ := tally Effect.lost d.log

/-- How often it is still to come: posted, running or queued. -/
def outstandingCount (d : Daemon) (o : Obligation) : ℕ :=
  tally Post.obligation d.posts o + tally Running.obligation d.running.toList o +
    tally Job.obligation d.jobs o

/-- One for every callback and sink handed over so far. -/
def issuedCount (tickets requests : ℕ) : Obligation → ℕ
  | .callback ticket => if ticket < tickets then 1 else 0
  | .reply id => if id < requests then 1 else 0

theorem issuedCount_ticket (tickets requests : ℕ) (o : Obligation) :
    issuedCount (tickets + 1) requests o =
      issuedCount tickets requests o + share (some (.callback tickets)) o := by
  cases o with
  | callback ticket =>
      simp only [issuedCount, share, Option.some.injEq, Obligation.callback.injEq]
      split_ifs <;> omega
  | reply id => simp [issuedCount, share]

theorem issuedCount_request (tickets requests : ℕ) (o : Obligation) :
    issuedCount tickets (requests + 1) o =
      issuedCount tickets requests o + share (some (.reply requests)) o := by
  cases o with
  | callback ticket => simp [issuedCount, share]
  | reply id =>
      simp only [issuedCount, share, Option.some.injEq, Obligation.reply.injEq]
      split_ifs <;> omega

/-- Whatever was handed over is in the ledger at most once; short of a stop, which
drops queued jobs, exactly once. -/
structure Balanced (d : Daemon) : Prop where
  atMost : ∀ o, d.dischargedCount o + d.lostCount o + d.outstandingCount o ≤
    issuedCount d.tickets d.requests o
  exactly : d.stopRequested = false → ∀ o,
    d.dischargedCount o + d.lostCount o + d.outstandingCount o =
      issuedCount d.tickets d.requests o

namespace Balanced

variable {d : Daemon}

/-- What a step that may submit a job must do to keep the ledger balanced: after a
stop the job is turned away. -/
theorem submitted (h : Balanced d) {d' : Daemon} (more : List Effect)
    (hlog : d'.log = d.log ++ more) (hstop : d'.stopRequested = d.stopRequested)
    (hcount : d.stopRequested = false → ∀ o,
      tally Effect.discharged more o + tally Effect.lost more o + d'.outstandingCount o +
          issuedCount d.tickets d.requests o =
        d.outstandingCount o + issuedCount d'.tickets d'.requests o)
    (hturned : d.stopRequested = true → ∀ o,
      tally Effect.discharged more o + tally Effect.lost more o + d'.outstandingCount o +
          issuedCount d.tickets d.requests o ≤
        d.outstandingCount o + issuedCount d'.tickets d'.requests o) : Balanced d' := by
  have hsum (o : Obligation) : d'.dischargedCount o + d'.lostCount o =
      d.dischargedCount o + d.lostCount o +
        (tally Effect.discharged more o + tally Effect.lost more o) := by
    simp only [dischargedCount, lostCount, hlog, tally_append]
    omega
  constructor
  · intro o
    have hbefore := h.atMost o
    have := hsum o
    cases hflag : d.stopRequested with
    | false =>
        have := hcount hflag o
        omega
    | true =>
        have := hturned hflag o
        omega
  · intro hrunning o
    have hbefore := h.exactly (hstop ▸ hrunning) o
    have := hcount (hstop ▸ hrunning) o
    have := hsum o
    omega

/-- What any other step must do. -/
theorem keep (h : Balanced d) {d' : Daemon} (more : List Effect)
    (hlog : d'.log = d.log ++ more) (hstop : d'.stopRequested = d.stopRequested)
    (hcount : ∀ o,
      tally Effect.discharged more o + tally Effect.lost more o + d'.outstandingCount o +
          issuedCount d.tickets d.requests o =
        d.outstandingCount o + issuedCount d'.tickets d'.requests o) : Balanced d' :=
  h.submitted more hlog hstop (fun _ => hcount) fun _ o => Nat.le_of_eq (hcount o)

theorem tally_discharged_lockLog (source : Source) (op : Lock) (o : Obligation) :
    tally Effect.discharged (lockLog source op) o = 0 := by
  cases source <;> simp [lockLog, Effect.discharged]

theorem tally_lost_lockLog (source : Source) (op : Lock) (o : Obligation) :
    tally Effect.lost (lockLog source op) o = 0 := by
  cases source <;> simp [lockLog, Effect.lost]

attribute [local simp] tally_discharged_lockLog tally_lost_lockLog Effect.discharged Effect.lost
  outstandingCount Job.obligation Post.obligation Running.obligation Token.obligation Job.token
  Post.token

theorem roundStable : RoundStable Balanced where
  suspendNow {d source rest} h _ _ _ := by
    refine h.keep _ rfl rfl fun o => ?_
    simp [suspendNow, issuedCount_ticket]
    omega
  suspendLater {d source rest} h _ _ _ := by
    refine h.submitted _ rfl rfl (fun hstop o => ?_) fun hstop o => ?_
    · simp [suspendLater, issuedCount_ticket, hstop]
      omega
    · simp [suspendLater, issuedCount_ticket, hstop]
  resumeNow {d source rest} h _ _ _ := by
    refine h.keep _ rfl rfl fun o => ?_
    simp [resumeNow, issuedCount_ticket]
    omega
  resumeLater {d source rest} h _ _ _ := by
    refine h.submitted _ rfl rfl (fun hstop o => ?_) fun hstop o => ?_
    · simp [resumeLater, issuedCount_ticket, hstop]
      omega
    · simp [resumeLater, issuedCount_ticket, hstop]

theorem reconnectStable : ReconnectStable Balanced where
  quiet {d} reconnect timer arms h := by
    refine h.keep [] (List.append_nil _).symm rfl fun o => ?_
    simp
  attempt {d} h := by
    obtain ⟨-, ok, more, hmore, heq⟩ | ⟨-, -, -, heq⟩ := d.reconnectAsync_cases
    · rw [heq]
      refine h.keep more rfl rfl fun o => ?_
      rcases hmore with rfl | rfl
      · simp [issuedCount_ticket]
        omega
      · simp [issuedCount_ticket]
        omega
    · rw [heq]
      refine h.submitted [.issued d.tickets] (by simp) rfl (fun hstop o => ?_) fun hstop o => ?_
      · simp [issuedCount_ticket, hstop]
        omega
      · simp [issuedCount_ticket, hstop]
  abandon {d} h := by
    refine h.keep [.abandoned d.suspended d.lifecycleShutdown] rfl rfl fun o => ?_
    simp [onAdapterUnrecoverable]

end Balanced

/-! ## What the machines wait for -/

/-- Completions still to come, and those that were lost with their job. -/
def awaited (d : Daemon) : List Token := d.outstanding ++ d.log.filterMap Effect.escapedToken

/-- The power lifecycle waits for a completion of its phase. -/
structure PowerWaits (d : Daemon) : Prop where
  suspending : d.stopRequested = false → d.powerLifecycle.phase = .suspending →
    ∃ ticket, .suspend ticket ∈ d.awaited
  resuming : d.stopRequested = false → d.powerLifecycle.phase = .resuming →
    ∃ ticket, .resume ticket ∈ d.awaited

/-- The reconnect machine waits for the result of an attempt. -/
def AttemptWaits (d : Daemon) : Prop :=
  d.stopRequested = false → d.adapterReconnect.state = .attempting →
    ∃ ticket, .reconnect ticket ∈ d.awaited

section Waits

variable {d d' : Daemon}

theorem awaited_mono {token : Token} (hmem : token ∈ d.awaited)
    (hout : ∀ token ∈ d.outstanding, token ∈ d'.outstanding)
    (hlog : ∃ more, d'.log = d.log ++ more) : token ∈ d'.awaited := by
  obtain ⟨more, hmore⟩ := hlog
  simp only [awaited, hmore, List.filterMap_append, List.mem_append] at hmem ⊢
  rcases hmem with hmem | hmem
  · exact Or.inl (hout token hmem)
  · exact Or.inr (Or.inl hmem)

theorem PowerWaits.mono (h : PowerWaits d) (hstop : d'.stopRequested = d.stopRequested)
    (hphase : d'.powerLifecycle.phase = d.powerLifecycle.phase)
    (hsub : ∀ token, token.isPower = true → token ∈ d.awaited → token ∈ d'.awaited) :
    PowerWaits d' where
  suspending hrunning hsuspending := by
    obtain ⟨ticket, hmem⟩ := h.suspending (hstop ▸ hrunning) (hphase ▸ hsuspending)
    exact ⟨ticket, hsub _ rfl hmem⟩
  resuming hrunning hresuming := by
    obtain ⟨ticket, hmem⟩ := h.resuming (hstop ▸ hrunning) (hphase ▸ hresuming)
    exact ⟨ticket, hsub _ rfl hmem⟩

theorem AttemptWaits.mono (h : AttemptWaits d) (hstop : d'.stopRequested = d.stopRequested)
    (hstate : d'.adapterReconnect.state = .attempting → d.adapterReconnect.state = .attempting)
    (hsub : ∀ ticket, .reconnect ticket ∈ d.awaited → .reconnect ticket ∈ d'.awaited) :
    AttemptWaits d' := by
  intro hrunning hattempting
  obtain ⟨ticket, hmem⟩ := h (hstop ▸ hrunning) (hstate hattempting)
  exact ⟨ticket, hsub ticket hmem⟩

theorem powerWaits_of_idle (hphase : d.powerLifecycle.phase = .idle) : PowerWaits d :=
  ⟨fun _ h => absurd (hphase.symm.trans h) (by simp),
    fun _ h => absurd (hphase.symm.trans h) (by simp)⟩

/-- Submitting only adds to what is outstanding. -/
theorem outstanding_submit (jobs : List Job) :
    ∀ token ∈ d.outstanding, token ∈
      outstanding { d with jobs := if d.stopRequested then d.jobs else d.jobs ++ jobs } := by
  intro token htoken
  cases hstop : d.stopRequested with
  | true => simpa [outstanding] using htoken
  | false =>
      simp only [outstanding, List.mem_append, Bool.false_eq_true, if_false, List.map_append]
        at htoken ⊢
      tauto

theorem PowerWaits.roundStable : RoundStable PowerWaits where
  suspendNow _ _ _ _ := powerWaits_of_idle rfl
  suspendLater {d source rest} h _ _ _ := by
    refine ⟨fun hrunning _ => ⟨d.tickets, ?_⟩, fun _ hphase => absurd hphase (by simp [suspendLater])⟩
    have hstop : d.stopRequested = false := hrunning
    simp [awaited, outstanding, suspendLater, hstop, Job.token]
  resumeNow _ _ _ _ := powerWaits_of_idle rfl
  resumeLater {d source rest} h _ _ _ := by
    refine ⟨fun _ hphase => absurd hphase (by simp [resumeLater]), fun hrunning _ => ⟨d.tickets, ?_⟩⟩
    have hstop : d.stopRequested = false := hrunning
    simp [awaited, outstanding, resumeLater, hstop, Job.token]

theorem awaited_reconnectAsync {token : Token} (hmem : token ∈ d.awaited) :
    token ∈ d.reconnectAsync.1.awaited := by
  obtain ⟨-, ok, more, -, heq⟩ | ⟨-, -, -, heq⟩ := d.reconnectAsync_cases
  · rw [heq]
    exact awaited_mono hmem (fun _ => id) ⟨more, rfl⟩
  · rw [heq]
    exact awaited_mono hmem (outstanding_submit [.reconnect d.tickets])
      ⟨[.issued d.tickets], rfl⟩

theorem reconnectAsync_stopRequested (d : Daemon) :
    d.reconnectAsync.1.stopRequested = d.stopRequested := by
  obtain ⟨-, ok, more, -, heq⟩ | ⟨-, -, -, heq⟩ := d.reconnectAsync_cases
  · rw [heq]
  · rw [heq]
    rfl

theorem reconnectAsync_powerLifecycle (d : Daemon) :
    d.reconnectAsync.1.powerLifecycle = d.powerLifecycle := by
  obtain ⟨-, ok, more, -, heq⟩ | ⟨-, -, -, heq⟩ := d.reconnectAsync_cases
  · rw [heq]
  · rw [heq]
    rfl

/-- An attempt that is not over within the call is with the worker. -/
theorem reconnect_mem_of_pending (hpending : d.reconnectAsync.2 = none)
    (hstop : d.stopRequested = false) : .reconnect d.tickets ∈ d.reconnectAsync.1.awaited := by
  obtain ⟨-, ok, more, -, heq⟩ | ⟨-, -, -, heq⟩ := d.reconnectAsync_cases
  · rw [heq] at hpending
    cases hpending
  · rw [heq]
    simp [hstop, issue, awaited, outstanding, Job.token]

theorem PowerWaits.reconnectStable : ReconnectStable PowerWaits where
  quiet _ _ _ h := ⟨h.suspending, h.resuming⟩
  attempt {d} h := h.mono (reconnectAsync_stopRequested d) (by rw [reconnectAsync_powerLifecycle])
    fun _ _ => awaited_reconnectAsync
  abandon h := h.mono rfl rfl fun _ _ hmem => awaited_mono hmem (fun _ => id) ⟨_, rfl⟩

/-! Effects that start no attempt. -/

theorem AttemptWaits.quietEvent (h : AttemptWaits d) {event : AdapterReconnect.Event}
    (hlost : event ≠ .connectionLost) (htimer : event ≠ .retryTimerFired) :
    AttemptWaits (d.reconnectEvent event).1 := by
  refine h.mono rfl (fun hstate => ?_) fun _ => id
  rcases AdapterReconnect.attempting_of_onEvent hstate with hbefore | hstarts
  · exact hbefore
  · exact absurd hstarts (AdapterReconnect.onEvent_effect_ne_startAttempt _ hlost htimer)

theorem AttemptWaits.executeWithin_quiet {depth : ℕ} {out : AdapterReconnect.Output}
    (h : AttemptWaits d) (hquiet : out.effect ≠ .startAttempt) :
    AttemptWaits (executeWithin depth d out) :=
  executeWithin_of_quiet (fun _ _ h => h.mono rfl id fun _ => id)
    (fun h => h.quietEvent (by simp) (by simp))
    (fun h => h.mono rfl id fun _ hmem => awaited_mono hmem (fun _ => id) ⟨_, rfl⟩) hquiet h

/-- An attempt that is started is handed to the worker, or over within the call. -/
theorem attemptWaits_executeWithin {depth : ℕ} {out : AdapterReconnect.Output}
    (h : AttemptWaits d ∨ out.effect = .startAttempt) :
    AttemptWaits (executeWithin (depth + 1) d out) := by
  by_cases hstarts : out.effect = .startAttempt
  · unfold executeWithin
    rw [hstarts]
    dsimp only
    split
    · next d' heq =>
        intro hrunning _
        have hstop := reconnectAsync_stopRequested
          { d with reconnectRetryTimer := d.reconnectRetryTimer.disarm }
        have hmem := reconnect_mem_of_pending
          (d := { d with reconnectRetryTimer := d.reconnectRetryTimer.disarm }) (by rw [heq])
        rw [heq] at hstop hmem
        exact ⟨d.tickets, hmem (hstop ▸ hrunning)⟩
    · next d' ok heq =>
        refine AttemptWaits.executeWithin_quiet (fun _ hstate => ?_) ?_
        · exact absurd hstate (AdapterReconnect.onEvent_result_state _ ok)
        · refine AdapterReconnect.onEvent_effect_ne_startAttempt _ ?_ ?_ <;> cases ok <;> simp
  · exact (h.resolve_right hstarts).executeWithin_quiet hstarts

theorem AttemptWaits.onReconnectEvent (h : AttemptWaits d) (event : AdapterReconnect.Event) :
    AttemptWaits (d.onReconnectEvent event) := by
  refine attemptWaits_executeWithin ?_
  by_cases hstarts : (d.reconnectEvent event).2.effect = .startAttempt
  · exact Or.inr hstarts
  · refine Or.inl (h.mono rfl (fun hstate => ?_) fun _ => id)
    exact (AdapterReconnect.attempting_of_onEvent hstate).resolve_right hstarts

/-- The result of an attempt is no longer waited for once it has arrived. -/
theorem attemptWaits_onReconnectResult (d : Daemon) (ok : Bool) :
    AttemptWaits (d.onReconnectResult ok) := by
  refine AttemptWaits.executeWithin_quiet (fun _ hstate => ?_) ?_
  · exact absurd hstate (AdapterReconnect.onEvent_result_state _ ok)
  · refine AdapterReconnect.onEvent_effect_ne_startAttempt _ ?_ ?_ <;> cases ok <;> simp

theorem AttemptWaits.seedReconnect (h : AttemptWaits d) : AttemptWaits d.seedReconnect := by
  refine attemptWaits_executeWithin (Or.inl (h.mono rfl (fun hstate => ?_) fun _ => id))
  simp only [AdapterReconnect.seedCycle] at hstate
  split_ifs at hstate
  exact hstate

theorem AttemptWaits.roundStable : RoundStable AttemptWaits where
  suspendNow _ _ _ _ _ hstate := by simp [suspendNow] at hstate
  suspendLater _ _ _ _ _ hstate := by simp [suspendLater] at hstate
  resumeNow _ _ _ _ _ hstate := by simp [resumeNow] at hstate
  resumeLater _ _ _ _ _ hstate := by simp [resumeLater] at hstate

/-- Draining a closure closes its own completion only. -/
theorem awaited_drained {p : Post} {posts : List Post} (hposts : d.posts = p :: posts)
    (more : List Effect) {token : Token} (htoken : p.token ≠ some token)
    (hmem : token ∈ d.awaited) :
    token ∈ awaited { d with posts := posts, log := d.log ++ more } := by
  simp only [awaited, outstanding, hposts, List.filterMap_append, List.mem_append,
    List.mem_filterMap, List.mem_cons] at hmem ⊢
  rcases hmem with (⟨q, rfl | hq, hqtoken⟩ | hmem) | hmem
  · exact absurd hqtoken htoken
  · exact Or.inl (Or.inl ⟨q, hq, hqtoken⟩)
  · exact Or.inl (Or.inr hmem)
  · exact Or.inr (Or.inl hmem)

theorem awaited_resumedWith {ticket : ℕ} {adapterValid : Bool} {posts : List Post}
    (hposts : d.posts = .resumeDone ticket adapterValid :: posts) {token : Token}
    (htoken : token ≠ .resume ticket) (hmem : token ∈ d.awaited) :
    token ∈ (d.resumedWith ticket adapterValid posts).awaited := by
  have hdrained := awaited_drained hposts [.resumed adapterValid, .invoked ticket]
    (by simpa [Post.token] using Ne.symm htoken) hmem
  exact awaited_mono hdrained (outstanding_submit _) ⟨[], by simp [resumedWith]⟩

/-- The end of a job posts its completion or loses it. -/
theorem awaited_finishJob (hcoupled : Coupled d) {r : Running} {result : Except Exn (Option Post)}
    {throttler : CommandThrottler} (hrunning : d.running = some r)
    (hrest : r.rest = .ret (result, throttler)) {token : Token} (htoken : ∀ id, token ≠ .replay id)
    (hmem : token ∈ d.awaited) : token ∈ (d.finishJob r.job result throttler).awaited := by
  have hends := hcoupled.completes r hrunning
  rw [hrest] at hends
  rcases result with e | closure
  · simp only [awaited, outstanding, hrunning, finishJob, emit, List.filterMap_append,
      List.mem_append] at hmem ⊢
    simp only [Option.toList_some, List.map_cons, List.map_nil, List.mem_singleton] at hmem
    rcases hmem with (hmem | rfl | hmem) | hmem
    · exact Or.inl (Or.inl hmem)
    · exact Or.inr (Or.inr (by simp [Effect.escapedToken]))
    · exact Or.inl (Or.inr (Or.inr hmem))
    · exact Or.inr (Or.inl hmem)
  · have hcompletes : r.job.Completes closure := hends closure rfl
    rcases hcompletes.token with ⟨p, rfl, hp⟩ | ⟨rfl, command, spec, hjob⟩
    · refine awaited_mono hmem (fun other hother => ?_) ⟨[], by simp [finishJob]⟩
      simpa [outstanding, finishJob, hrunning, hp] using hother
    · simp only [awaited, outstanding, hrunning, finishJob, List.mem_append] at hmem ⊢
      simp only [Option.toList_some, List.map_cons, List.map_nil, List.mem_singleton] at hmem
      rcases hmem with (hmem | rfl | hmem) | hmem
      · exact Or.inl (Or.inl hmem)
      · exact absurd (by rw [hjob]; rfl) (htoken command.id)
      · exact Or.inl (Or.inr (Or.inr hmem))
      · exact Or.inr hmem

end Waits

/-! ## The invariant -/

structure Accounted (d : Daemon) : Prop where
  coupled : Coupled d
  balanced : Balanced d
  power : PowerWaits d
  attempt : AttemptWaits d

namespace Accounted

variable {d : Daemon}

attribute [local simp] Balanced.tally_discharged_lockLog Balanced.tally_lost_lockLog
  Effect.discharged Effect.lost outstandingCount Job.obligation Post.obligation
  Running.obligation Token.obligation Job.token Post.token

theorem settle (h : Accounted d) (rounds : ℕ) : Accounted (settle rounds d) where
  coupled := h.coupled.settle rounds
  balanced := Balanced.roundStable.settle Balanced.reconnectStable.seedReconnect rounds h.balanced
  power := PowerWaits.roundStable.settle PowerWaits.reconnectStable.seedReconnect rounds h.power
  attempt := AttemptWaits.roundStable.settle AttemptWaits.seedReconnect rounds h.attempt

theorem seedReconnect (h : Accounted d) : Accounted d.seedReconnect where
  coupled := Coupled.reconnectStable.seedReconnect h.coupled
  balanced := Balanced.reconnectStable.seedReconnect h.balanced
  power := PowerWaits.reconnectStable.seedReconnect h.power
  attempt := h.attempt.seedReconnect

/-- Nothing has been taken off what is outstanding. -/
theorem keep (h : Accounted d) {d' : Daemon} (hcoupled : Coupled d') (hbalanced : Balanced d')
    (hstop : d'.stopRequested = d.stopRequested)
    (hphase : d'.powerLifecycle.phase = d.powerLifecycle.phase)
    (hstate : d'.adapterReconnect.state = d.adapterReconnect.state)
    (hout : ∀ token ∈ d.outstanding, token ∈ d'.outstanding)
    (hlog : ∃ more, d'.log = d.log ++ more) : Accounted d' where
  coupled := hcoupled
  balanced := hbalanced
  power := h.power.mono hstop hphase fun _ _ hmem => awaited_mono hmem hout hlog
  attempt := h.attempt.mono hstop (fun hattempting => hstate ▸ hattempting)
    fun _ hmem => awaited_mono hmem hout hlog

/-- A closure that carries no power completion and no result is drained. -/
theorem drained (h : Accounted d) {p : Post} {posts : List Post} (hposts : d.posts = p :: posts)
    (more : List Effect)
    (hpower : ∀ token, p.token = some token → token.isPower = false)
    (hresult : ∀ ticket, p.token ≠ some (.reconnect ticket))
    (hbalanced : Balanced { d with posts := posts, log := d.log ++ more }) :
    Accounted { d with posts := posts, log := d.log ++ more } where
  coupled := h.coupled.drained hposts
  balanced := hbalanced
  power := h.power.mono rfl rfl fun token htoken => awaited_drained hposts more fun heq =>
    absurd htoken (by simp [hpower token heq])
  attempt := h.attempt.mono rfl id fun ticket => awaited_drained hposts more (hresult ticket)

/-- The suspend in flight reports back. -/
theorem suspendDrained (h : Accounted d) {ticket : ℕ} {posts : List Post}
    (hposts : d.posts = .suspendDone ticket :: posts) :
    Accounted (suspendReported { d with posts := posts, log := d.log ++ [.invoked ticket] }) := by
  have hcoupled := h.coupled.suspendDrained hposts
  unfold suspendReported at hcoupled ⊢
  split_ifs at hcoupled ⊢ with hphase
  · refine ⟨hcoupled, ?_, powerWaits_of_idle rfl, ?_⟩
    · refine h.balanced.keep (.invoked ticket :: .finished _ :: _) (List.append_assoc _ _ _) rfl
        fun o => ?_
      cases d.powerLifecycle.safetyFiredFirst <;> simp [finishSuspend, hposts] <;> omega
    · refine h.attempt.mono rfl id fun other hmem => ?_
      exact awaited_mono (awaited_drained hposts [.invoked ticket] (by simp) hmem) (fun _ => id)
        ⟨_, rfl⟩
  · refine ⟨hcoupled, ?_, ⟨fun _ hsuspending => absurd hsuspending hphase, ?_⟩, ?_⟩
    · refine h.balanced.keep [.invoked ticket] rfl rfl fun o => ?_
      simp [hposts]
      omega
    · intro hrunning hresuming
      obtain ⟨other, hmem⟩ := h.power.resuming hrunning hresuming
      exact ⟨other, awaited_drained hposts _ (by simp) hmem⟩
    · exact h.attempt.mono rfl id fun other => awaited_drained hposts _ (by simp)

/-- Replayed commands have been answered. -/
theorem tally_replayJobs (commands : List Command) (o : Obligation) :
    tally Job.obligation (replayJobs commands) o = 0 := by
  refine Nat.eq_zero_of_not_pos fun hpos => ?_
  obtain ⟨job, hjob, hobligation⟩ := tally_pos_iff.mp hpos
  simp only [replayJobs, List.mem_filterMap, Option.bind_eq_some_iff] at hjob
  obtain ⟨command, _, spec, _, hspec⟩ := hjob
  split_ifs at hspec
  simp [← Option.some.inj hspec] at hobligation

/-- The resume in flight reports back. -/
theorem resumeReported_resumedWith (h : Accounted d) {ticket : ℕ} {adapterValid : Bool}
    {posts : List Post} (hposts : d.posts = .resumeDone ticket adapterValid :: posts) :
    Accounted (d.resumedWith ticket adapterValid posts).resumeReported := by
  have hcoupled := h.coupled.resumeReported_resumedWith hposts
  have hbalanced : Balanced (d.resumedWith ticket adapterValid posts) := by
    refine h.balanced.keep [.resumed adapterValid, .invoked ticket] rfl rfl fun o => ?_
    have hjobs : tally Job.obligation (d.resumedWith ticket adapterValid posts).jobs o =
        tally Job.obligation d.jobs o := by
      unfold resumedWith
      dsimp only
      split_ifs <;> simp [tally_append, tally_replayJobs]
    simp only [outstandingCount, hjobs]
    simp [resumedWith, hposts]
    omega
  have hattempt : AttemptWaits (d.resumedWith ticket adapterValid posts) :=
    h.attempt.mono rfl id fun other => awaited_resumedWith hposts (by simp)
  unfold resumeReported at hcoupled ⊢
  split_ifs at hcoupled ⊢ with hphase
  · refine ⟨hcoupled, ?_, powerWaits_of_idle rfl,
      hattempt.mono rfl id fun _ hmem => awaited_mono hmem (fun _ => id) ⟨_, rfl⟩⟩
    refine hbalanced.keep (.finished _ :: _) rfl rfl fun o => ?_
    simp [finishResume]
  · refine ⟨hcoupled, hbalanced, ⟨?_, fun _ hresuming => absurd hresuming hphase⟩, hattempt⟩
    intro hrunning hsuspending
    obtain ⟨other, hmem⟩ := h.power.suspending hrunning hsuspending
    exact ⟨other, awaited_resumedWith hposts (by simp) hmem⟩

/-- A job ends. -/
theorem finished (h : Accounted d) {r : Running} {result : Except Exn (Option Post)}
    {throttler : CommandThrottler} (hrunning : d.running = some r)
    (hrest : r.rest = .ret (result, throttler)) :
    Accounted (d.finishJob r.job result throttler) := by
  have hcoupled := Coupled.stable.finished trivial h.coupled hrunning
    hrest
  have hstop : (d.finishJob r.job result throttler).stopRequested = d.stopRequested := by
    rcases result with e | (_ | p) <;> rfl
  have hphase : (d.finishJob r.job result throttler).powerLifecycle = d.powerLifecycle := by
    rcases result with e | (_ | p) <;> rfl
  have hstate : (d.finishJob r.job result throttler).adapterReconnect = d.adapterReconnect := by
    rcases result with e | (_ | p) <;> rfl
  refine ⟨hcoupled, ?_, ?_, ?_⟩
  · have hends := h.coupled.completes r hrunning
    rw [hrest] at hends
    rcases result with e | closure
    · refine h.balanced.keep [.escaped r.job] rfl rfl fun o => ?_
      simp [finishJob, hrunning]
      omega
    · have hcompletes : r.job.Completes closure := hends closure rfl
      rcases hcompletes.token with ⟨p, rfl, hp⟩ | ⟨rfl, command, spec, hjob⟩
      · have hsame : Post.obligation p = Running.obligation r := by
          rw [Post.obligation, hp]
          rfl
        refine h.balanced.keep [] (by simp [finishJob]) rfl fun o => ?_
        simp only [finishJob, Daemon.post, outstandingCount, hrunning, Option.toList_some,
          Option.toList_none, tally_append, tally_cons, tally_nil, hsame]
        omega
      · refine h.balanced.keep [] (by simp [finishJob]) rfl fun o => ?_
        simp [finishJob, hrunning, hjob]
  · refine h.power.mono hstop (by rw [hphase]) fun token htoken => ?_
    refine awaited_finishJob h.coupled hrunning hrest ?_
    rintro id rfl
    simp [Token.isPower] at htoken
  · refine h.attempt.mono hstop (by rw [hstate]; exact id) fun ticket => ?_
    exact awaited_finishJob h.coupled hrunning hrest (by simp)

theorem stepStable : StepStable (fun _ _ => True) Accounted where
  settle rounds h := h.settle rounds
  received {d} request h := by
    have hphase : (d.received request).powerLifecycle.phase = d.powerLifecycle.phase := by
      unfold Daemon.received
      dsimp only
      split_ifs <;> rfl
    refine h.keep (h.coupled.received request) ?_ rfl hphase rfl (fun _ => id) ⟨_, rfl⟩
    exact h.balanced.keep [.requested request] rfl rfl fun o => by simp [Daemon.received]
  safetyFired {d} h := by
    have hphase : d.safetyFired.powerLifecycle.phase = d.powerLifecycle.phase := by
      unfold Daemon.safetyFired PowerLifecycle.onSafetyTimerFired
      dsimp only
      split_ifs <;> rfl
    refine h.keep h.coupled.safetyFired ?_ rfl hphase rfl (fun _ => id) ⟨_, rfl⟩
    refine h.balanced.keep _ rfl rfl fun o => ?_
    split_ifs <;> simp [Daemon.safetyFired]
  answered {d} response hC h := by
    refine h.keep (Coupled.stable.answered response hC h.coupled) ?_ rfl
      rfl rfl (fun _ => id) ⟨_, rfl⟩
    refine h.balanced.keep _ rfl rfl fun o => ?_
    simp [answer, issuedCount_request]
    omega
  standby enabled h :=
    h.keep (Coupled.stable.standby enabled h.coupled) ⟨h.balanced.atMost, h.balanced.exactly⟩ rfl
      rfl rfl (fun _ => id) ⟨[], (List.append_nil _).symm⟩
  parked {d message spec} _ h hopen hsuspended hfind hqueue := by
    refine h.keep (Coupled.stable.parked trivial h.coupled hopen hsuspended hfind hqueue) ?_ rfl
      rfl rfl (fun _ => id) ⟨_, rfl⟩
    refine h.balanced.keep _ rfl rfl fun o => ?_
    simp [issuedCount_request]
    omega
  live {d message spec} _ h hopen hsuspended hfind hcall := by
    refine h.keep (Coupled.stable.live trivial h.coupled hopen hsuspended hfind hcall) ?_ rfl
      rfl rfl (outstanding_submit [.live ⟨d.requests, message⟩ spec]) ⟨_, rfl⟩
    refine h.balanced.submitted _ rfl rfl (fun hstop o => ?_) fun hstop o => ?_
    · simp [issuedCount_request, hstop]
      omega
    · simp [issuedCount_request, hstop]
  posted {d} kind h := by
    refine h.keep (Coupled.stable.posted kind h.coupled) ?_ rfl rfl
      rfl (fun token htoken => ?_) ⟨[], (List.append_nil _).symm⟩
    · exact h.balanced.keep [] (List.append_nil _).symm rfl fun o => by simp
    · simpa [outstanding] using htoken
  powerDrained {d kind posts} h hposts := by
    have hdrained := h.drained hposts [] (by simp) (by simp)
      (h.balanced.keep [] rfl rfl fun o => by simp [hposts])
    simpa using hdrained
  replyDrained {d id response posts} _ h hposts := by
    refine h.drained hposts [.replied id response] (by simp [Token.isPower]) (by simp) ?_
    refine h.balanced.keep _ rfl rfl fun o => ?_
    simp [hposts]
    omega
  suspendDrained h hposts := h.suspendDrained hposts
  resumeDrained _ h hposts :=
    resumeDrained_of_reported (P := Accounted) (fun rounds h => h.settle rounds)
      (fun h => h.seedReconnect) (h.resumeReported_resumedWith hposts)
  reconnectDrained {d ticket ok posts} _ h hposts := by
    have hbalanced : Balanced { d with posts := posts, log := d.log ++ [.invoked ticket] } := by
      refine h.balanced.keep _ rfl rfl fun o => ?_
      simp [hposts]
      omega
    have hpower : PowerWaits { d with posts := posts, log := d.log ++ [.invoked ticket] } :=
      h.power.mono rfl rfl fun token htoken => awaited_drained hposts _ (by
        rintro ⟨⟩
        simp [Token.isPower] at htoken)
    exact ⟨Coupled.stable.reconnectDrained trivial h.coupled hposts,
      Balanced.reconnectStable.onReconnectEvent hbalanced _,
      PowerWaits.reconnectStable.onReconnectEvent hpower _, attemptWaits_onReconnectResult _ ok⟩
  lostDrained {d posts} _ h hposts := by
    have hdrained : Accounted { d with posts := posts } := by
      simpa using h.drained hposts [] (by simp) (by simp)
        (h.balanced.keep [] rfl rfl fun o => by simp [hposts])
    exact ⟨Coupled.stable.lostDrained trivial h.coupled hposts,
      Balanced.reconnectStable.onReconnectEvent hdrained.balanced _,
      PowerWaits.reconnectStable.onReconnectEvent hdrained.power _,
      hdrained.attempt.onReconnectEvent _⟩
  retryTimer {d} _ h := by
    have hconsumed : Accounted
        { d with reconnectRetryTimer := d.reconnectRetryTimer.consume } :=
      h.keep (Coupled.reconnectStable.quiet (d := d) _ _ d.arms h.coupled)
        ⟨h.balanced.atMost, h.balanced.exactly⟩ rfl rfl rfl (fun _ => id) ⟨[], (List.append_nil _).symm⟩
    exact ⟨Coupled.stable.retryTimer trivial h.coupled,
      Balanced.reconnectStable.onReconnectEvent hconsumed.balanced _,
      PowerWaits.reconnectStable.onReconnectEvent hconsumed.power _,
      hconsumed.attempt.onReconnectEvent _⟩
  safetyExpired h :=
    h.keep (Coupled.stable.safetyExpired h.coupled) ⟨h.balanced.atMost, h.balanced.exactly⟩ rfl
      rfl rfl (fun _ => id) ⟨[], (List.append_nil _).symm⟩
  retryExpired htimer h :=
    h.keep (Coupled.stable.retryExpired htimer h.coupled) ⟨h.balanced.atMost, h.balanced.exactly⟩
      rfl rfl rfl (fun _ => id) ⟨[], (List.append_nil _).symm⟩
  taken {d job jobs} h hrunning hjobs hstop := by
    refine h.keep (Coupled.stable.taken h.coupled hrunning hjobs
      hstop) ?_ rfl rfl rfl (fun token htoken => ?_) ⟨_, rfl⟩
    · refine h.balanced.keep _ rfl rfl fun o => ?_
      cases job <;> simp [takeJob, Job.command?, hrunning, hjobs] <;> omega
    · simpa [outstanding, takeJob, hrunning, hjobs] using htoken
  reopening {d r next} h hrunning hrest hstage := by
    refine h.keep (Coupled.stable.reopening h.coupled hrunning hrest
      hstage) ?_ rfl rfl rfl (fun token htoken => ?_) ⟨[], (List.append_nil _).symm⟩
    · exact h.balanced.keep [] (List.append_nil _).symm rfl fun o => by simp [hrunning]
    · simpa [outstanding, hrunning] using htoken
  opened {d r} h hrunning hstage := by
    refine h.keep (Coupled.stable.opened h.coupled hrunning hstage)
      ?_ rfl rfl rfl (fun token htoken => ?_) ⟨[], (List.append_nil _).symm⟩
    · exact h.balanced.keep [] (List.append_nil _).symm rfl fun o => by simp [hrunning]
    · simpa [outstanding, hrunning] using htoken
  called {d r c next outcome} _ h hrunning hrest hpossible := by
    refine h.keep (Coupled.stable.called trivial h.coupled hrunning hrest hpossible)
      ?_ rfl rfl rfl (fun token htoken => ?_) ⟨[], (List.append_nil _).symm⟩
    · exact h.balanced.keep [] (List.append_nil _).symm rfl fun o => by simp [hrunning]
    · simpa [outstanding, hrunning] using htoken
  ticked {d r next} time h hrunning hrest := by
    refine h.keep (Coupled.stable.ticked time h.coupled hrunning
      hrest) ?_ rfl rfl rfl (fun token htoken => ?_) ⟨[], (List.append_nil _).symm⟩
    · exact h.balanced.keep [] (List.append_nil _).symm rfl fun o => by simp [hrunning]
    · simpa [outstanding, hrunning] using htoken
  slept {d r ms next} h hrunning hrest := by
    refine h.keep (Coupled.stable.slept h.coupled hrunning hrest)
      ?_ rfl rfl rfl (fun token htoken => ?_) ⟨[], (List.append_nil _).symm⟩
    · exact h.balanced.keep [] (List.append_nil _).symm rfl fun o => by simp [hrunning]
    · simpa [outstanding, hrunning] using htoken
  finished _ h hrunning hrest := h.finished hrunning hrest
  exited h hrunning hstop :=
    h.keep (Coupled.stable.exited h.coupled hrunning hstop) ⟨h.balanced.atMost, h.balanced.exactly⟩
      rfl rfl rfl (fun _ => id) ⟨[], (List.append_nil _).symm⟩
  alerted h :=
    h.keep (Coupled.stable.alerted h.coupled) ⟨h.balanced.atMost, h.balanced.exactly⟩ rfl rfl rfl
      (fun _ => id) ⟨[], (List.append_nil _).symm⟩
  alertPosted {d alerting} h halerting := by
    refine h.keep (Coupled.stable.alertPosted h.coupled halerting) ?_
      rfl rfl rfl (fun token htoken => ?_) ⟨[], (List.append_nil _).symm⟩
    · exact h.balanced.keep [] (List.append_nil _).symm rfl fun o => by simp
    · simpa [outstanding] using htoken
  stopped {d} h := by
    have hclosed {P : Prop} : d.stop.stopRequested = false → P :=
      fun hrunning => absurd hrunning (by simp [stop])
    refine ⟨Coupled.stable.stopped h.coupled, ⟨fun o => ?_, hclosed⟩, ⟨hclosed, hclosed⟩, hclosed⟩
    have hbefore := h.balanced.atMost o
    rw [stop_eq]
    split_ifs <;>
      simp only [dischargedCount, lostCount, outstandingCount, tally_append, tally_cons,
        tally_nil, share_none, Effect.discharged, Effect.lost] at hbefore ⊢ <;>
      omega

theorem boot (setup : Setup) : Accounted (boot setup) where
  coupled := Coupled.boot setup
  balanced := by
    constructor
    · simp [Daemon.boot, dischargedCount, lostCount]
    · rintro - o
      cases o <;> simp [Daemon.boot, dischargedCount, lostCount, issuedCount]
  power := powerWaits_of_idle rfl
  attempt _ hstate := by simp [Daemon.boot] at hstate

end Accounted

/-- Every callback and every sink handed over has been run exactly once, and
neither machine is left waiting. -/
structure Completed (d : Daemon) : Prop where
  callbacks : ∀ ticket < d.tickets, d.dischargedCount (.callback ticket) = 1
  replies : ∀ id < d.requests, d.dischargedCount (.reply id) = 1
  power : d.powerLifecycle.phase = .idle
  reconnect : d.adapterReconnect.state ≠ .attempting

/-- With everything worked off, what has not been run has been lost. -/
theorem completed_of_not_orphaned {d : Daemon} (h : Accounted d) (hstop : d.stopRequested = false)
    (hjobs : d.jobs = []) (hrunning : d.running = none) (hposts : d.posts = [])
    (hfree : ¬ Orphaned d.running d.log) : Completed d := by
  have hawaited : ∀ token ∈ d.awaited, ∃ id, token = .replay id := by
    intro token hmem
    simp only [awaited, outstanding, hjobs, hrunning, hposts, List.filterMap_nil, List.map_nil,
      Option.toList_none, List.append_nil, List.nil_append, List.mem_filterMap] at hmem
    obtain ⟨e, he, htoken⟩ := hmem
    cases e with
    | escaped job =>
        obtain rfl := Option.some.inj htoken
        cases job with
        | replay command spec => exact ⟨command.id, rfl⟩
        | _ => exact absurd (Or.inr ⟨_, he, rfl⟩) hfree
    | _ => simp [Effect.escapedToken] at htoken
  have hlost (o : Obligation) : d.lostCount o = 0 := by
    refine Nat.eq_zero_of_not_pos fun hpos => ?_
    obtain ⟨e, he, hobligation⟩ := tally_pos_iff.mp hpos
    cases e with
    | escaped job =>
        cases job with
        | replay command spec => cases hobligation
        | _ => exact absurd (Or.inr ⟨_, he, rfl⟩) hfree
    | _ => cases hobligation
  have hbalanced (o : Obligation) : d.dischargedCount o = issuedCount d.tickets d.requests o := by
    have hcount := h.balanced.exactly hstop o
    rw [hlost] at hcount
    simpa [outstandingCount, hjobs, hrunning, hposts] using hcount
  refine ⟨fun ticket hticket => ?_, fun id hid => ?_, ?_, fun hattempting => ?_⟩
  · rw [hbalanced, issuedCount, if_pos hticket]
  · rw [hbalanced, issuedCount, if_pos hid]
  · cases hphase : d.powerLifecycle.phase with
    | idle => rfl
    | suspending =>
        obtain ⟨ticket, hmem⟩ := h.power.suspending hstop hphase
        obtain ⟨id, hid⟩ := hawaited _ hmem
        cases hid
    | resuming =>
        obtain ⟨ticket, hmem⟩ := h.power.resuming hstop hphase
        obtain ⟨id, hid⟩ := hawaited _ hmem
        cases hid
  · obtain ⟨ticket, hmem⟩ := h.attempt hstop hattempting
    obtain ⟨id, hid⟩ := hawaited _ hmem
    cases hid

/-- What has been lost has not been run. -/
theorem not_orphaned_of_completed {d : Daemon} (h : Accounted d) (hstop : d.stopRequested = false)
    (hrunning : d.running = none) (hcompleted : Completed d) : ¬ Orphaned d.running d.log := by
  rintro (⟨r, hr, _⟩ | ⟨job, hmem, hjob⟩)
  · simp [hrunning] at hr
  · obtain ⟨o, ho⟩ : ∃ o, job.obligation = some o := by
      cases job with
      | replay command spec => simp [Job.isReplay] at hjob
      | _ => exact ⟨_, rfl⟩
    have hlost : 0 < d.lostCount o := tally_pos_iff.mpr ⟨_, hmem, ho⟩
    have hcount := h.balanced.exactly hstop o
    cases o with
    | callback ticket =>
        by_cases hissued : ticket < d.tickets
        · have hone := hcompleted.callbacks ticket hissued
          simp only [issuedCount, if_pos hissued] at hcount
          omega
        · simp only [issuedCount, if_neg hissued] at hcount
          omega
    | reply id =>
        by_cases hissued : id < d.requests
        · have hone := hcompleted.replies id hissued
          simp only [issuedCount, if_pos hissued] at hcount
          omega
        · simp only [issuedCount, if_neg hissued] at hcount
          omega

/-- **Completion.** As long as the worker has not been told to stop, the worker and
the main thread can work off everything there is. Once they have, every callback
and sink handed over has been run exactly once and neither machine is stuck, if
and only if no adapter call has thrown what its job does not guard against. -/
theorem completed_iff_guarded {setup : Setup} {labels : List Label} {d : Daemon}
    (hrun : machine.run (boot setup) labels = some d) (hstop : d.stopRequested = false) :
    (∃ more d', (∀ label ∈ more, Label.works label = true) ∧ machine.run d more = some d' ∧
        d'.workedOff = true) ∧
      (d.workedOff = true → (Completed d ↔
        machine.Meets (fun d label => d.guarded label = true) (boot setup) labels)) := by
  have h : Accounted d := Accounted.stepStable.always (Accounted.boot setup) hrun
  refine ⟨exists_workedOff h.coupled hstop, fun hdone => ?_⟩
  simp only [workedOff, Bool.and_eq_true, List.isEmpty_iff, Option.isNone_iff_eq_none] at hdone
  obtain ⟨⟨hjobs, hrunning⟩, hposts⟩ := hdone
  rw [← not_orphaned_iff_guarded hrun]
  exact ⟨not_orphaned_of_completed h hstop hrunning,
    completed_of_not_orphaned h hstop hjobs hrunning hposts⟩

/-- A suspend whose broadcast throws what the job guards against. -/
def guardedBroadcast : List Label :=
  [.wire ⟨.cmdSuspend, 0, []⟩, .workerTake, .workerCall (.ok true), .workerCall (.error .std),
    .workerCall (.ok true), .workerFinish, .drain]

theorem completed_iff_guarded_broadcast :
    ∃ d, machine.run (boot {}) guardedBroadcast = some d ∧ Completed d := by
  have hvalues : (machine.run (boot {}) guardedBroadcast).map
      (fun d => (d.stopRequested, d.workedOff)) = some (false, true) := by decide
  obtain ⟨d, hd, hfields⟩ := Option.map_eq_some_iff.mp hvalues
  simp only [Prod.mk.injEq] at hfields
  exact ⟨d, hd, ((completed_iff_guarded hd hfields.1).2 hfields.2).mpr (by decide)⟩

/-- A reconnect attempt whose `reopenConnection` throws. -/
def throwingReopen : List Label :=
  [.alertStore, .alertPost, .drain, .retryExpire, .retryTimer, .workerTake, .workerReopen,
    .workerCall (.error .std), .workerFinish]

/-- The attempt is never reported, and the reconnect machine waits for it for good. -/
theorem attempt_never_completed :
    ¬ ∀ labels d, machine.run (boot {}) labels = some d → d.stopRequested = false →
      d.workedOff = true → Completed d := by
  intro hclaim
  have hvalues : (machine.run (boot {}) throwingReopen).map
      (fun d => (d.stopRequested, d.workedOff, d.adapterReconnect.state)) =
        some (false, true, .attempting) := by decide
  obtain ⟨d, hd, hfields⟩ := Option.map_eq_some_iff.mp hvalues
  simp only [Prod.mk.injEq] at hfields
  obtain ⟨hstop, hdone, hstate⟩ := hfields
  exact (hclaim throwingReopen d hd hstop hdone).reconnect hstate

end Daemon

end CecControl
