/-
# When a lost connection is forgotten

An alert clears the connected flag and then posts; the reconnect machine absorbs
the post while an attempt is in flight, on the understanding that the attempt's
own result will tell. The understanding fails in two ways. The alert can fall
between the attempt's success and the posting of its result: the post is then
ahead of the result and absorbed, and the result sends the machine to rest over a
dead connection. And a resume of a daemon that is not suspended takes the machine
out of an attempt whose job is still on its way, so that the next attempt can be
ended by the result of the previous one, and its own be absorbed.

Without these two the invariant below holds: whenever the machine is at rest, the
connection is up or its loss is still on its way to the machine.
-/

import CecControl.Daemon.JobPrograms
import CecControl.Daemon.RefusedAttempts

namespace CecControl

open Lib PowerLifecycle

def Token.isReconnect : Token → Bool
  | .reconnect _ => true
  | _ => false

namespace Daemon

/-- Reconnect attempts handed to the worker whose result has not been drained. -/
def attempts (d : Daemon) : List Token := d.outstanding.filter Token.isReconnect

/-- The step starts a reconnect attempt. -/
def startsAttempt (d : Daemon) (label : Label) : Bool :=
  !d.suspended && !d.lifecycleShutdown && d.adapterReconnect.state == .waitingForRetry &&
    match label with
    | .retryTimer => true
    | .drain => d.posts.head? == some .connectionLost
    | _ => false

/-- The step posts the success of the attempt in flight. -/
def postsSuccess (d : Daemon) (label : Label) : Bool :=
  d.adapterReconnect.state == .attempting &&
    match label, d.running with
    | .workerFinish, some r =>
        match r.rest with
        | .ret (.ok (some (.reconnectDone _ true)), _) => true
        | _ => false
    | _, _ => false

/-- An attempt is started only when the job of the previous one has reported, and
a success is posted only with the connection still up, or with the alert that
took it down yet to post. -/
def Orderly (d : Daemon) (label : Label) : Prop :=
  (d.startsAttempt label = true → d.attempts = []) ∧
    (d.postsSuccess label = true → d.connected = true ∨ 0 < d.alerting)

instance (d : Daemon) (label : Label) : Decidable (Orderly d label) :=
  inferInstanceAs (Decidable (_ ∧ _))

/-! ## Losses on their way -/

/-- The connection is up, or the alert that took it down has yet to post. -/
def Up (d : Daemon) : Prop := d.connected = true ∨ 0 < d.alerting

/-- The connection is up, or its loss is still to be handled. -/
def Noticed (up : Prop) (posts : List Post) : Prop := up ∨ .connectionLost ∈ posts

/-- Behind every posted success of an attempt the connection is up, or its loss is
still to be handled. -/
def Heralded (up : Prop) : List Post → Prop
  | [] => True
  | p :: posts => (∀ ticket, p = .reconnectDone ticket true → Noticed up posts) ∧ Heralded up posts

theorem Noticed.append {up : Prop} {posts : List Post} (h : Noticed up posts)
    (more : List Post) : Noticed up (posts ++ more) :=
  h.imp_right fun hmem => List.mem_append_left _ hmem

/-- A loss is not removed by draining something else. -/
theorem Noticed.tail {up : Prop} {p : Post} {posts : List Post} (h : Noticed up (p :: posts))
    (hp : p ≠ .connectionLost) : Noticed up posts := by
  rcases h with hup | hmem
  · exact Or.inl hup
  · exact Or.inr ((List.mem_cons.mp hmem).resolve_left (Ne.symm hp))

theorem Heralded.append {up : Prop} {posts : List Post} (h : Heralded up posts) {p : Post}
    (hp : ∀ ticket, p = .reconnectDone ticket true → up) : Heralded up (posts ++ [p]) := by
  induction posts with
  | nil => exact ⟨fun ticket hticket => Or.inl (hp ticket hticket), trivial⟩
  | cons q posts ih => exact ⟨fun ticket hq => (h.1 ticket hq).append _, ih h.2⟩

/-- A posted loss is behind everything posted so far. -/
theorem heralded_lost (up : Prop) (posts : List Post) :
    Heralded up (posts ++ [.connectionLost]) := by
  induction posts with
  | nil => exact ⟨fun _ h => (by cases h), trivial⟩
  | cons q posts ih => exact ⟨fun _ _ => Or.inr (by simp), ih⟩

theorem Heralded.mono {up up' : Prop} (hup : up → up') {posts : List Post}
    (h : Heralded up posts) : Heralded up' posts := by
  induction posts with
  | nil => trivial
  | cons q posts ih => exact ⟨fun ticket hq => (h.1 ticket hq).imp_left hup, ih h.2⟩

theorem heralded_of_no_result {up : Prop} {posts : List Post}
    (h : ∀ ticket, .reconnectDone ticket true ∉ posts) : Heralded up posts := by
  induction posts with
  | nil => trivial
  | cons q posts ih =>
      refine ⟨?_, ih fun ticket hmem => h ticket (List.mem_cons_of_mem _ hmem)⟩
      rintro ticket rfl
      exact absurd List.mem_cons_self (h ticket)

/-! ## The invariant -/

/-- A resume has read the connection as up, and its report has not been drained. -/
def ReportsValid (d : Daemon) : Prop :=
  (∃ ticket, .resumeDone ticket true ∈ d.posts) ∨
    ∃ r, d.running = some r ∧ Job.ReportsValid r.rest

/-- Losses are remembered. With `owed`, a reconnect cycle is about to be seeded
and the machine may be at rest meanwhile. -/
structure Remembered (owed : Prop) (d : Daemon) : Prop where
  coupled : Coupled d
  steady : Steady d
  behaved : Behaved d
  single : d.attempts.length ≤ 1
  scheduled : d.adapterReconnect.state = .waitingForRetry → d.reconnectRetryTimer ≠ .disarmed
  attempting : d.lifecycleShutdown = false → d.adapterReconnect.state = .attempting →
    d.attempts ≠ [] ∧ Heralded d.Up d.posts
  atRest : ¬ owed → d.lifecycleShutdown = false → d.suspended = false →
    d.unrecoverable = false → d.adapterReconnect.state = .idle →
    d.attempts = [] ∧ Noticed d.Up d.posts
  resumed : d.lifecycleShutdown = false → d.unrecoverable = false →
    d.adapterReconnect.state = .idle → d.ReportsValid → Noticed d.Up d.posts

variable {owed : Prop} {d : Daemon}

/-- Whoever reports a valid adapter is a resume. -/
theorem resume_of_reportsValid (h : Coupled d) {r : Running} (hrunning : d.running = some r)
    (hvalid : Job.ReportsValid r.rest) : ∃ ticket, r.job = .resume ticket := by
  obtain ⟨ticket, throttler, hrest⟩ := hvalid
  have hends := h.completes r hrunning
  rw [hrest] at hends
  have hcompletes := hends _ rfl
  cases hjob : r.job with
  | resume ticket => exact ⟨ticket, rfl⟩
  | _ => simp [hjob, Job.Completes] at hcompletes

theorem resume_mem_of_reportsValid (h : Coupled d) (hvalid : d.ReportsValid) :
    ∃ ticket, .resume ticket ∈ d.outstanding := by
  rcases hvalid with ⟨ticket, hmem⟩ | ⟨r, hrunning, hvalid⟩
  · refine ⟨ticket, List.mem_append_left _ ?_⟩
    exact List.mem_filterMap.mpr ⟨_, hmem, rfl⟩
  · obtain ⟨ticket, hjob⟩ := resume_of_reportsValid h hrunning hvalid
    exact ⟨ticket, by simp [outstanding, hrunning, hjob, Job.token]⟩

theorem not_reportsValid_of_idle (h : Coupled d) (hopen : d.lifecycleShutdown = false)
    (hidle : d.powerLifecycle.phase = .idle) : ¬ d.ReportsValid := by
  intro hvalid
  obtain ⟨ticket, hmem⟩ := resume_mem_of_reportsValid h hvalid
  simpa [Token.isPower] using h.not_isPower_of_idle hopen hidle _ hmem

/-- Nothing runs behind the report of a resume. -/
theorem not_running_of_resumeDone (h : Coupled d) (hopen : d.lifecycleShutdown = false)
    {ticket : ℕ} {adapterValid : Bool} (hmem : .resumeDone ticket adapterValid ∈ d.posts)
    {r : Running} : d.running ≠ some r := by
  intro hrunning
  have hlast := (List.pairwise_append.mp (h.last hopen)).2.2
  have hresume : .resume ticket ∈ d.posts.filterMap Post.token :=
    List.mem_filterMap.mpr ⟨_, hmem, rfl⟩
  simpa [Token.isPower] using hlast _ hresume r.job.token (by simp [hrunning])

/-- A job that runs while the daemon is not suspended is a reconnect attempt or a
command. -/
theorem command_of_not_reconnect (h : Coupled d) (hopen : d.lifecycleShutdown = false)
    (hsuspended : d.suspended = false) {r : Running} (hrunning : d.running = some r)
    (hattempt : r.job.token.isReconnect = false) : r.job.command?.isSome = true := by
  have hmem : r.job.token ∈ d.outstanding := by simp [outstanding, hrunning]
  have hpower := h.not_isPower_of_idle hopen (h.idle_of_not_suspended hopen hsuspended) _ hmem
  cases hjob : r.job with
  | live command spec => rfl
  | replay command spec => rfl
  | _ => simp [hjob, Job.token, Token.isPower, Token.isReconnect] at hpower hattempt

theorem attempts_of_running {r : Running} (hrunning : d.running = some r)
    (hattempt : r.job.token.isReconnect = true) : r.job.token ∈ d.attempts :=
  List.mem_filter.mpr ⟨by simp [outstanding, hrunning], hattempt⟩

theorem attempts_of_posted {ticket : ℕ} {ok : Bool} (hmem : .reconnectDone ticket ok ∈ d.posts) :
    .reconnect ticket ∈ d.attempts :=
  List.mem_filter.mpr
    ⟨List.mem_append_left _ (List.mem_filterMap.mpr ⟨_, hmem, rfl⟩), rfl⟩

namespace Remembered

theorem not_suspended_of_attempting (h : Remembered owed d) (hopen : d.lifecycleShutdown = false)
    (hstate : d.adapterReconnect.state = .attempting) : d.suspended = false := by
  by_contra hsuspended
  exact h.steady.settled (by simpa using hsuspended) hopen hstate

/-- With the result of the attempt posted, what runs is a command. -/
theorem command_of_posted (h : Remembered owed d) (hopen : d.lifecycleShutdown = false)
    (hstate : d.adapterReconnect.state = .attempting) {ticket : ℕ} {ok : Bool}
    (hmem : .reconnectDone ticket ok ∈ d.posts) {r : Running} (hrunning : d.running = some r) :
    r.job.command?.isSome = true := by
  refine command_of_not_reconnect h.coupled hopen (h.not_suspended_of_attempting hopen hstate)
    hrunning ?_
  by_contra hattempt
  have hsingle := h.single
  have hposted : .reconnect ticket ∈ (d.posts.filterMap Post.token).filter Token.isReconnect :=
    List.mem_filter.mpr ⟨List.mem_filterMap.mpr ⟨_, hmem, rfl⟩, rfl⟩
  have hrun : 0 < ((d.running.toList.map fun r => r.job.token).filter Token.isReconnect).length :=
    List.length_pos_of_mem (List.mem_filter.mpr ⟨by simp [hrunning]; rfl, by simpa using hattempt⟩)
  have hpost := List.length_pos_of_mem hposted
  simp only [attempts, outstanding, List.filter_append, List.length_append] at hsingle
  omega

/-- A step of the running job that does not end it. A command leaves the flag
alone, and a valid adapter is reported only with the flag set. -/
theorem worked (h : Remembered False d) {r r' : Running} {connected : Bool}
    (hrunning : d.running = some r) (hjob : r'.job = r.job)
    (hcoupled : Coupled { d with running := some r', connected := connected })
    (hbehaved : Behaved { d with running := some r', connected := connected })
    (hcommand : r.job.command?.isSome = true → d.connected = true → connected = true)
    (hvalid : Job.ReportsValid r'.rest → connected = true) :
    Remembered False { d with running := some r', connected := connected } := by
  have hattempts : attempts { d with running := some r', connected := connected } = d.attempts := by
    simp [attempts, outstanding, hrunning, hjob]
  have hup (hsome : r.job.command?.isSome = true) :
      d.Up → Up { d with running := some r', connected := connected } :=
    Or.imp_left (hcommand hsome)
  refine ⟨hcoupled, h.steady.keep rfl rfl rfl rfl, hbehaved, hattempts ▸ h.single, h.scheduled,
    fun hopen hstate => ⟨hattempts ▸ (h.attempting hopen hstate).1, ?_⟩,
    fun howed hopen hsuspended hrecoverable hstate => ?_,
    fun hopen hrecoverable hstate hreports => ?_⟩
  · by_cases hposted : ∃ ticket, .reconnectDone ticket true ∈ d.posts
    · obtain ⟨ticket, hmem⟩ := hposted
      exact (h.attempting hopen hstate).2.mono
        (hup (h.command_of_posted hopen hstate hmem hrunning))
    · exact heralded_of_no_result fun ticket hmem => hposted ⟨ticket, hmem⟩
  · obtain ⟨hnone, hnoticed⟩ := h.atRest howed hopen hsuspended hrecoverable hstate
    refine ⟨hattempts.trans hnone, hnoticed.imp_left (hup ?_)⟩
    refine command_of_not_reconnect h.coupled hopen hsuspended hrunning ?_
    by_contra hattempt
    simpa [hnone] using attempts_of_running hrunning (by simpa using hattempt)
  · rcases hreports with ⟨ticket, hmem⟩ | ⟨_, ⟨⟩, hreports⟩
    · exact absurd hrunning (not_running_of_resumeDone h.coupled hopen hmem)
    · exact Or.inl (Or.inl (hvalid hreports))

/-! ## Working off the queue -/

theorem mono {owed' : Prop} (h : Remembered owed d) (himp : owed → owed') : Remembered owed' d :=
  ⟨h.coupled, h.steady, h.behaved, h.single, h.scheduled, h.attempting,
    fun howed => h.atRest fun hold => howed (himp hold), h.resumed⟩

/-- After a power transition the machine is at rest. Losses matter again only once
the daemon is neither suspended nor owed a cycle. -/
theorem of_interrupted {d' : Daemon} (hcoupled : Coupled d') (hsteady : Steady d')
    (hbehaved : Behaved d') (hsingle : d'.attempts.length ≤ 1)
    (hidle : d'.adapterReconnect.state = .idle)
    (hvalid : d'.lifecycleShutdown = false → ¬ d'.ReportsValid)
    (hexcused : owed ∨ d'.lifecycleShutdown = true ∨ d'.suspended = true) :
    Remembered owed d' where
  coupled := hcoupled
  steady := hsteady
  behaved := hbehaved
  single := hsingle
  scheduled hstate := absurd (hidle.symm.trans hstate) (by simp)
  attempting _ hstate := absurd (hidle.symm.trans hstate) (by simp)
  atRest howed hopen hsuspended _ _ := by
    rcases hexcused with hexcused | hexcused | hexcused
    · exact absurd hexcused howed
    · simp [hopen] at hexcused
    · simp [hsuspended] at hexcused
  resumed hopen _ _ hreports := absurd hreports (hvalid hopen)

theorem suspendNow (h : Remembered owed d) {source : Source} {rest : List Pending}
    (hphase : d.powerLifecycle.phase = .idle)
    (hpending : d.powerLifecycle.pending = ⟨.suspend, source⟩ :: rest)
    (hnow : d.suspendsNow = true) : Remembered owed (d.suspendNow source rest) := by
  refine of_interrupted (Coupled.roundStable.suspendNow h.coupled hphase hpending hnow)
    (h.steady.of_not_attempting rfl (by simp [Daemon.suspendNow]) (by simp [Daemon.suspendNow]))
    (Behaved.roundStable.suspendNow h.behaved hphase hpending hnow) h.single
    (by simp [Daemon.suspendNow]) (not_reportsValid_of_idle (d := d) h.coupled · hphase)
    (Or.inr (by simpa [suspendsNow, Daemon.suspendNow] using hnow))

theorem suspendLater (h : Remembered owed d) {source : Source} {rest : List Pending}
    (hphase : d.powerLifecycle.phase = .idle)
    (hpending : d.powerLifecycle.pending = ⟨.suspend, source⟩ :: rest)
    (hlater : d.suspendsNow = false) : Remembered owed (d.suspendLater source rest) := by
  have hattempts : (d.suspendLater source rest).attempts = d.attempts := by
    cases hstop : d.stopRequested <;>
      simp [attempts, outstanding, Daemon.suspendLater, hstop, Job.token, Token.isReconnect]
  exact of_interrupted (Coupled.roundStable.suspendLater h.coupled hphase hpending hlater)
    (h.steady.of_not_attempting rfl (by simp [Daemon.suspendLater]) (by simp [Daemon.suspendLater]))
    (Behaved.roundStable.suspendLater h.behaved hphase hpending hlater) (hattempts ▸ h.single)
    (by simp [Daemon.suspendLater]) (not_reportsValid_of_idle (d := d) h.coupled · hphase)
    (Or.inr (Or.inr rfl))

/-- A resume turned down leaves a cycle owed. -/
theorem resumeNow (h : Remembered owed d) {source : Source} {rest : List Pending}
    (hphase : d.powerLifecycle.phase = .idle)
    (hpending : d.powerLifecycle.pending = ⟨.resume, source⟩ :: rest)
    (hnow : d.resumesNow = true) : Remembered True (d.resumeNow source rest) :=
  of_interrupted (Coupled.roundStable.resumeNow h.coupled hphase hpending hnow)
    (h.steady.of_not_attempting rfl (by simp [Daemon.resumeNow]) (by simp [Daemon.resumeNow]))
    (Behaved.roundStable.resumeNow h.behaved hphase hpending hnow) h.single
    (by simp [Daemon.resumeNow]) (not_reportsValid_of_idle (d := d) h.coupled · hphase)
    (Or.inl trivial)

theorem resumeLater (h : Remembered owed d) {source : Source} {rest : List Pending}
    (hphase : d.powerLifecycle.phase = .idle)
    (hpending : d.powerLifecycle.pending = ⟨.resume, source⟩ :: rest)
    (hlater : d.resumesNow = false) : Remembered owed (d.resumeLater source rest) := by
  have hattempts : (d.resumeLater source rest).attempts = d.attempts := by
    cases hstop : d.stopRequested <;>
      simp [attempts, outstanding, Daemon.resumeLater, hstop, Job.token, Token.isReconnect]
  have hsuspended : d.suspended = true := by
    simp only [resumesNow, Bool.or_eq_false_iff, Bool.not_eq_false'] at hlater
    exact hlater.2
  exact of_interrupted (Coupled.roundStable.resumeLater h.coupled hphase hpending hlater)
    (h.steady.of_not_attempting rfl (by simp [Daemon.resumeLater]) (by simp [Daemon.resumeLater]))
    (Behaved.roundStable.resumeLater h.behaved hphase hpending hlater) (hattempts ▸ h.single)
    (by simp [Daemon.resumeLater]) (not_reportsValid_of_idle (d := d) h.coupled · hphase)
    (Or.inr (Or.inr hsuspended))

/-- With a retry scheduled nothing else is asked. -/
theorem of_scheduled {d' : Daemon} (hcoupled : Coupled d') (hsteady : Steady d')
    (hbehaved : Behaved d') (hsingle : d'.attempts.length ≤ 1)
    (hwaiting : d'.adapterReconnect.state = .waitingForRetry)
    (htimer : d'.reconnectRetryTimer ≠ .disarmed) : Remembered owed d' where
  coupled := hcoupled
  steady := hsteady
  behaved := hbehaved
  single := hsingle
  scheduled _ := htimer
  attempting _ hstate := absurd (hwaiting.symm.trans hstate) (by simp)
  atRest _ _ _ _ hstate := absurd (hwaiting.symm.trans hstate) (by simp)
  resumed _ _ hstate := absurd (hwaiting.symm.trans hstate) (by simp)

/-- Seeding pays what is owed. -/
theorem seedReconnect (h : Remembered owed d) : Remembered False d.seedReconnect := by
  have hcoupled := Coupled.reconnectStable.seedReconnect h.coupled
  have hbehaved := Behaved.reconnectStable.seedReconnect h.behaved
  by_cases hstate : d.adapterReconnect.state = .idle
  · rw [seedReconnect_of_idle hstate (h.steady.arms _)] at hcoupled hbehaved ⊢
    exact of_scheduled hcoupled (h.steady.of_not_attempting rfl rfl (by simp)) hbehaved h.single rfl
      (by simp)
  · rw [seedReconnect_of_not_idle hstate]
    exact ⟨h.coupled, h.steady, h.behaved, h.single, h.scheduled, h.attempting,
      fun _ _ _ _ hidle => absurd hidle hstate, h.resumed⟩

theorem settle (h : Remembered owed d) (rounds : ℕ) : Remembered owed (settle rounds d) := by
  induction rounds generalizing owed d with
  | zero => exact h
  | succ rounds ih =>
      rcases settle_succ_cases rounds d with
        ⟨hphase, source, rest, hpending, ⟨hnow, heq⟩ | ⟨hlater, heq⟩⟩ |
        ⟨hphase, source, rest, hpending, ⟨hnow, heq⟩ | ⟨hlater, heq⟩⟩ | ⟨_, heq⟩
      · rw [heq]
        exact ih (h.suspendNow hphase hpending hnow)
      · rw [heq]
        exact h.suspendLater hphase hpending hlater
      · -- the debt this resume leaves is paid by the seeding that follows it
        rw [heq]
        exact (ih (h.resumeNow hphase hpending hnow)).seedReconnect.mono False.elim
      · rw [heq]
        exact h.resumeLater hphase hpending hlater
      · rw [heq]
        exact h

/-! ## Reconnect events -/

theorem retryOrAbandon_attempts (d : Daemon) : d.retryOrAbandon.attempts = d.attempts := by
  unfold retryOrAbandon
  split <;> rfl

/-- A failed attempt schedules a retry, or gives up. -/
theorem of_retryOrAbandon (hcoupled : Coupled d.retryOrAbandon)
    (hsteady : Steady d.retryOrAbandon) (hbehaved : Behaved d.retryOrAbandon)
    (hsingle : d.attempts.length ≤ 1) : Remembered owed d.retryOrAbandon := by
  rw [← retryOrAbandon_attempts d] at hsingle
  unfold retryOrAbandon at *
  split
  · next attempt schedule heq =>
      rw [heq] at hcoupled hsteady hbehaved hsingle
      exact of_scheduled hcoupled hsteady hbehaved hsingle rfl (by simp)
  · next schedule heq =>
      rw [heq] at hcoupled hsteady hbehaved hsingle
      refine ⟨hcoupled, hsteady, hbehaved, hsingle, ?_, ?_, ?_, ?_⟩ <;>
        simp [onAdapterUnrecoverable]

/-- An attempt started with none outstanding. -/
theorem of_attempted (hcoupled : Coupled d.attempted) (hsteady : Steady d.attempted)
    (hbehaved : Behaved d.attempted) (hgate : d.stopRequested = d.lifecycleShutdown)
    (hstate : d.adapterReconnect.state = .attempting) (hsingle : d.attempts.length ≤ 1)
    (hnone : d.suspended = false → d.lifecycleShutdown = false → d.attempts = []) :
    Remembered owed d.attempted := by
  unfold attempted at *
  by_cases hshut : d.lifecycleShutdown = true
  · rw [if_pos hshut] at *
    exact of_retryOrAbandon hcoupled hsteady hbehaved hsingle
  rw [if_neg hshut] at *
  by_cases hsuspended : d.suspended = true
  · rw [if_pos hsuspended] at *
    exact of_retryOrAbandon hcoupled hsteady hbehaved hsingle
  rw [if_neg hsuspended] at *
  have hempty := hnone (by simpa using hsuspended) (by simpa using hshut)
  by_cases hconnected : d.connected = true
  · rw [if_pos hconnected] at *
    have hnoticed : Noticed d.Up d.posts := Or.inl (Or.inl hconnected)
    exact ⟨hcoupled, hsteady, hbehaved, hsingle, by simp, by simp,
      fun _ _ _ _ _ => ⟨hempty, hnoticed⟩, fun _ _ _ _ => hnoticed⟩
  · rw [if_neg hconnected] at *
    have hstop : d.stopRequested = false := by simpa [hgate] using hshut
    have hattempts : attempts { d with
        reconnectRetryTimer := .disarmed
        tickets := d.tickets + 1
        jobs := if d.stopRequested then d.jobs else d.jobs ++ [.reconnect d.tickets]
        log := d.log ++ [.issued d.tickets] } = d.attempts ++ [.reconnect d.tickets] := by
      simp [attempts, outstanding, hstop, Job.token, Token.isReconnect]
    have hheralded : Heralded d.Up d.posts := by
      refine heralded_of_no_result fun ticket hmem => ?_
      simpa [hempty] using attempts_of_posted hmem
    refine ⟨hcoupled, hsteady, hbehaved, by simp [hattempts, hempty],
      fun hwaiting => absurd (hstate.symm.trans hwaiting) (by simp),
      fun _ _ => ⟨by simp [hattempts], hheralded⟩,
      fun _ _ _ _ hidle => absurd (hstate.symm.trans hidle) (by simp),
      fun _ _ hidle => absurd (hstate.symm.trans hidle) (by simp)⟩

/-! ## Drained closures -/

theorem attempts_drained {p : Post} {posts : List Post} (hposts : d.posts = p :: posts)
    (log : List Effect) :
    d.attempts =
      p.token.toList.filter Token.isReconnect ++ attempts { d with posts := posts, log := log } := by
  cases htoken : p.token <;>
    simp [attempts, outstanding, hposts, htoken, List.filter_cons]
  split_ifs <;> simp

/-- Draining neither a loss nor the result of an attempt. -/
theorem drained (h : Remembered owed d) {p : Post} {posts : List Post}
    (hposts : d.posts = p :: posts) (hlost : p ≠ .connectionLost)
    (hresult : p.token.toList.filter Token.isReconnect = []) {log : List Effect} :
    Remembered owed { d with posts := posts, log := log } := by
  have hattempts := attempts_drained hposts log
  rw [hresult, List.nil_append] at hattempts
  refine ⟨h.coupled.drained hposts, h.steady.keep rfl rfl rfl rfl,
    ⟨h.behaved.queued, h.behaved.jobs, h.behaved.running⟩, hattempts ▸ h.single, h.scheduled,
    fun hopen hstate => ?_, fun howed hopen hsuspended hrecoverable hstate => ?_,
    fun hopen hrecoverable hstate hreports => ?_⟩
  · have hattempting := h.attempting hopen hstate
    rw [hposts] at hattempting
    exact ⟨hattempts ▸ hattempting.1, hattempting.2.2⟩
  · have hrest := h.atRest howed hopen hsuspended hrecoverable hstate
    rw [hposts] at hrest
    exact ⟨hattempts ▸ hrest.1, hrest.2.tail hlost⟩
  · have hnoticed := h.resumed hopen hrecoverable hstate
      (hreports.imp_left fun ⟨ticket, hmem⟩ =>
        ⟨ticket, by rw [hposts]; exact List.mem_cons_of_mem _ hmem⟩)
    rw [hposts] at hnoticed
    exact hnoticed.tail hlost

/-- The result of the attempt. -/
theorem reconnectDrained (h : Remembered False d) {ticket : ℕ} {ok : Bool} {posts : List Post}
    (hposts : d.posts = .reconnectDone ticket ok :: posts) :
    Remembered False
      (onReconnectResult { d with posts := posts, log := d.log ++ [.invoked ticket] } ok) := by
  have hattempts : d.attempts = .reconnect ticket ::
      attempts { d with posts := posts, log := d.log ++ [.invoked ticket] } :=
    attempts_drained hposts _
  have hnone : attempts { d with posts := posts, log := d.log ++ [.invoked ticket] } = [] := by
    have hsingle := h.single
    rw [hattempts] at hsingle
    simpa using hsingle
  have hsingle : (attempts
      { d with posts := posts, log := d.log ++ [.invoked ticket] }).length ≤ 1 := by
    simp [hnone]
  have hcoupled := Coupled.stable.reconnectDrained trivial h.coupled
    hposts
  have hsteady := Steady.stepStable (C := fun _ _ => True) |>.reconnectDrained trivial h.steady
    hposts
  have hbehaved := Behaved.reconnectStable.onReconnectEvent
    (d := { d with posts := posts, log := d.log ++ [.invoked ticket] })
    ⟨h.behaved.queued, h.behaved.jobs, h.behaved.running⟩
    (if ok then .attemptSucceeded else .attemptFailed)
  change Behaved (onReconnectResult _ ok) at hbehaved
  by_cases hstate : d.adapterReconnect.state = .attempting
  · rw [onReconnectResult_of_attempting (by exact hstate) (by exact h.steady.arms _)] at *
    cases ok with
    | false => exact of_retryOrAbandon hcoupled hsteady hbehaved hsingle
    | true =>
        have hnoticed (hopen : d.lifecycleShutdown = false) : Noticed d.Up posts := by
          have hheralded := (h.attempting hopen hstate).2
          rw [hposts] at hheralded
          exact hheralded.1 ticket rfl
        exact ⟨hcoupled, hsteady, hbehaved, hsingle, by simp, by simp,
          fun _ hopen _ _ _ => ⟨hnone, hnoticed hopen⟩, fun hopen _ _ _ => hnoticed hopen⟩
  · -- a result nobody waits for: the machine was taken out of the attempt
    rw [onReconnectResult_of_not_attempting (by exact hstate)] at *
    refine ⟨hcoupled, hsteady, hbehaved, hsingle, h.scheduled,
      fun _ hattempting => absurd hattempting hstate,
      fun howed hopen hsuspended hrecoverable hidle => ?_,
      fun hopen hrecoverable hidle hreports => ?_⟩
    · have hrest := (h.atRest howed hopen hsuspended hrecoverable hidle).1
      simp [hattempts] at hrest
    · have hnoticed := h.resumed hopen hrecoverable hidle
        (hreports.imp_left fun ⟨ticket, hmem⟩ =>
          ⟨ticket, by rw [hposts]; exact List.mem_cons_of_mem _ hmem⟩)
      rw [hposts] at hnoticed
      exact hnoticed.tail (by simp)

/-- The loss itself. -/
theorem lostDrained (h : Remembered False d) {posts : List Post}
    (hposts : d.posts = .connectionLost :: posts) (horderly : Orderly d .drain) :
    Remembered False (onConnectionLost { d with posts := posts }) := by
  have hattempts : d.attempts = attempts { d with posts := posts } := attempts_drained hposts d.log
  have hcoupled := Coupled.stable.lostDrained trivial h.coupled hposts
  have hsteady := Steady.stepStable (C := fun _ _ => True) |>.lostDrained trivial h.steady hposts
  have hbehaved := Behaved.reconnectStable.onReconnectEvent (d := { d with posts := posts })
    ⟨h.behaved.queued, h.behaved.jobs, h.behaved.running⟩ .connectionLost
  change Behaved (onConnectionLost _) at hbehaved
  cases hstate : d.adapterReconnect.state with
  | idle =>
      rw [onConnectionLost_of_idle (by exact hstate) (by exact h.steady.delay)
        (by exact h.steady.arms _)] at *
      exact of_scheduled hcoupled hsteady hbehaved (hattempts ▸ h.single) rfl (by simp)
  | attempting =>
      rw [onConnectionLost_of_attempting (by exact hstate)] at *
      refine ⟨hcoupled, hsteady, hbehaved, hattempts ▸ h.single, h.scheduled,
        fun hopen _ => ?_, fun _ _ _ _ hidle => absurd (hstate.symm.trans hidle) (by simp),
        fun _ _ hidle => absurd (hstate.symm.trans hidle) (by simp)⟩
      have hattempting := h.attempting hopen hstate
      rw [hposts] at hattempting
      exact ⟨hattempts ▸ hattempting.1, hattempting.2.2⟩
  | waitingForRetry =>
      rw [onConnectionLost_of_waiting (by exact hstate) (by exact h.steady.arms _)] at *
      refine of_attempted hcoupled hsteady hbehaved h.coupled.gates.1 rfl (hattempts ▸ h.single) ?_
      intro hsuspended hopen
      exact hattempts ▸ horderly.1
        (by simpa [startsAttempt, hstate, hposts] using And.intro hsuspended hopen)

theorem retryTimer (h : Remembered False d) (horderly : Orderly d .retryTimer) :
    Remembered False d.onReconnectRetryTimerFired := by
  have hcoupled := Coupled.stable.retryTimer trivial h.coupled
  have hsteady := Steady.stepStable (C := fun _ _ => True) |>.retryTimer trivial h.steady
  have hbehaved := Behaved.reconnectStable.onReconnectEvent
    (Behaved.reconnectStable.quiet (d := d) d.adapterReconnect d.reconnectRetryTimer.consume d.arms
      h.behaved) .retryTimerFired
  change Behaved (onReconnectRetryTimerFired _) at hbehaved
  by_cases hstate : d.adapterReconnect.state = .waitingForRetry
  · rw [onReconnectRetryTimerFired_of_waiting hstate (h.steady.arms _)] at *
    exact of_attempted hcoupled hsteady hbehaved h.coupled.gates.1 rfl h.single
      fun hsuspended hopen => horderly.1
        (by simpa [startsAttempt, hstate] using And.intro hsuspended hopen)
  · rw [onReconnectRetryTimerFired_of_not_waiting hstate] at *
    exact ⟨hcoupled, hsteady, hbehaved, h.single, fun hwaiting => absurd hwaiting hstate,
      h.attempting, h.atRest, h.resumed⟩

theorem filter_replayJobs (commands : List Command) :
    ((replayJobs commands).map Job.token).filter Token.isReconnect = [] := by
  refine List.filter_eq_nil_iff.mpr fun token htoken => ?_
  obtain ⟨job, hjob, rfl⟩ := List.mem_map.mp htoken
  simp only [replayJobs, List.mem_filterMap, Option.bind_eq_some_iff] at hjob
  obtain ⟨command, _, spec, _, hspec⟩ := hjob
  split_ifs at hspec
  simp [← Option.some.inj hspec, Job.token, Token.isReconnect]

theorem attempts_resumedWith (d : Daemon) {ticket : ℕ} {adapterValid : Bool} {posts : List Post} :
    (d.resumedWith ticket adapterValid posts).attempts = attempts { d with posts := posts } := by
  cases hstop : d.stopRequested <;>
    simp [attempts, outstanding, resumedWith, hstop, filter_replayJobs]

/-- The resume in flight reports back. Nothing is outstanding any more but what it
replays; if it read the connection as up, a loss since then is on its way, and
otherwise a cycle is owed. -/
theorem resumeReported_resumedWith (h : Remembered False d) {ticket : ℕ} {adapterValid : Bool}
    {posts : List Post} (hposts : d.posts = .resumeDone ticket adapterValid :: posts) :
    Remembered (adapterValid = false) (d.resumedWith ticket adapterValid posts).resumeReported := by
  have hcoupled := h.coupled.resumeReported_resumedWith hposts
  have hbehaved := h.behaved.resumeReported_resumedWith Behaved.jobRules ticket adapterValid posts
  have hspared : Spared False d := ⟨h.steady, False.elim⟩
  have hsteady := (hspared.resumeReported_resumedWith ticket adapterValid posts).steady
  have hattempts : (d.resumedWith ticket adapterValid posts).attempts = d.attempts :=
    (attempts_resumedWith d).trans (attempts_drained hposts d.log).symm
  have hphase (hopen : d.lifecycleShutdown = false) : d.powerLifecycle.phase = .resuming :=
    h.coupled.resuming hopen ticket (by simp [outstanding, hposts, Post.token])
  have hempty (hopen : d.lifecycleShutdown = false) : d.attempts = [] := by
    rw [attempts_drained hposts d.log]
    simp [attempts, h.coupled.outstanding_nil_of_power hopen hposts rfl rfl, Post.token,
      Token.isReconnect]
  have hvalid (hopen : d.lifecycleShutdown = false) :
      ¬ (d.resumedWith ticket adapterValid posts).resumeReported.ReportsValid := by
    refine not_reportsValid_of_idle hcoupled ?_ ?_
    · unfold resumeReported
      split_ifs <;> exact hopen
    · simp [resumeReported, resumedWith, hphase hopen, finishResume]
  -- the sequencer's report changes nothing the invariant reads
  obtain ⟨lifecycle, log, heq⟩ : ∃ lifecycle log,
      (d.resumedWith ticket adapterValid posts).resumeReported =
        { d.resumedWith ticket adapterValid posts with
          powerLifecycle := lifecycle, log := log } := by
    unfold resumeReported
    split_ifs <;> exact ⟨_, _, rfl⟩
  rw [heq] at hcoupled hsteady hbehaved hvalid ⊢
  refine ⟨hcoupled, hsteady, hbehaved, hattempts ▸ h.single, h.scheduled,
    fun hopen hstate => ?_, fun howed hopen _ hrecoverable hidle => ?_,
    fun hopen _ _ hreports => absurd hreports (hvalid hopen)⟩
  · exact absurd hstate (h.steady.settled
      (h.coupled.busy hopen (by rw [hphase hopen]; decide)) hopen)
  · obtain rfl : adapterValid = true := by simpa using howed
    have hnoticed := h.resumed hopen hrecoverable hidle
      (Or.inl ⟨ticket, by simp [hposts]⟩)
    rw [hposts] at hnoticed
    exact ⟨hattempts.trans (hempty hopen), hnoticed.tail (by simp)⟩

/-! ## The end of a job -/

/-- A job other than an attempt ends without posting. -/
theorem ended (h : Remembered False d) {r : Running} (hrunning : d.running = some r)
    (hattempt : r.job.token.isReconnect = false) {throttler : CommandThrottler} {log : List Effect}
    (hcoupled : Coupled { d with running := none, throttler := throttler, log := log }) :
    Remembered False { d with running := none, throttler := throttler, log := log } := by
  have hattempts : attempts { d with running := none, throttler := throttler, log := log } =
      d.attempts := by
    simp [attempts, outstanding, hrunning, hattempt]
  have hreports : ReportsValid { d with running := none, throttler := throttler, log := log } →
      d.ReportsValid := by
    rintro (hposted | ⟨_, ⟨⟩, _⟩)
    exact Or.inl hposted
  exact ⟨hcoupled, h.steady.keep rfl rfl rfl rfl,
    ⟨h.behaved.queued, h.behaved.jobs, by simp⟩, hattempts ▸ h.single, h.scheduled,
    hattempts ▸ h.attempting, hattempts ▸ h.atRest,
    fun hopen hrecoverable hstate hvalid =>
      h.resumed hopen hrecoverable hstate (hreports hvalid)⟩

/-- A job ends and posts its closure. -/
theorem reported (h : Remembered False d) {r : Running} (hrunning : d.running = some r) {p : Post}
    {throttler : CommandThrottler} (hrest : r.rest = .ret (.ok (some p), throttler))
    (horderly : Orderly d .workerFinish)
    (hcoupled : Coupled { d with running := none, throttler := throttler, posts := d.posts ++ [p] })
    (htoken : p.token = some r.job.token) :
    Remembered False
      { d with running := none, throttler := throttler, posts := d.posts ++ [p] } := by
  have hattempts : attempts { d with
      running := none, throttler := throttler, posts := d.posts ++ [p] } = d.attempts := by
    simp [attempts, outstanding, hrunning, htoken]
  have hreports : ReportsValid { d with
      running := none, throttler := throttler, posts := d.posts ++ [p] } → d.ReportsValid := by
    rintro (⟨ticket, hmem⟩ | ⟨_, ⟨⟩, _⟩)
    rcases List.mem_append.mp hmem with hold | hnew
    · exact Or.inl ⟨ticket, hold⟩
    · refine Or.inr ⟨r, hrunning, ticket, throttler, ?_⟩
      rw [hrest, List.mem_singleton.mp hnew]
  refine ⟨hcoupled, h.steady.keep rfl rfl rfl rfl,
    ⟨h.behaved.queued, h.behaved.jobs, by simp⟩, hattempts ▸ h.single, h.scheduled,
    fun hopen hstate => ⟨hattempts ▸ (h.attempting hopen hstate).1, ?_⟩,
    fun howed hopen hsuspended hrecoverable hstate => ?_,
    fun hopen hrecoverable hstate hvalid =>
      (h.resumed hopen hrecoverable hstate (hreports hvalid)).append _⟩
  · refine (h.attempting hopen hstate).2.append ?_
    rintro ticket rfl
    have hstate' : d.adapterReconnect.state = .attempting := hstate
    exact horderly.2 (by simp [postsSuccess, hstate', hrunning, hrest])
  · have hatRest := h.atRest howed hopen hsuspended hrecoverable hstate
    exact ⟨hattempts.trans hatRest.1, hatRest.2.append _⟩

theorem finished (h : Remembered False d) {r : Running} {result : Except Exn (Option Post)}
    {throttler : CommandThrottler} (hrunning : d.running = some r)
    (hrest : r.rest = .ret (result, throttler)) (horderly : Orderly d .workerFinish) :
    Remembered False (d.finishJob r.job result throttler) := by
  have hcoupled := Coupled.stable.finished trivial h.coupled hrunning
    hrest
  have hends := h.coupled.completes r hrunning
  rw [hrest] at hends
  rcases result with e | (_ | p)
  · -- an attempt does not end so: none of its calls has thrown
    refine h.ended hrunning ?_ hcoupled
    have hfollows := h.behaved.running r hrunning
    rw [hrest] at hfollows
    cases hjob : r.job with
    | reconnect ticket =>
        rw [hjob] at hfollows
        obtain ⟨p, hp⟩ := hfollows
        cases hp
    | _ => rfl
  · refine h.ended hrunning ?_ hcoupled
    have hcompletes := hends _ rfl
    cases hjob : r.job with
    | replay command spec => rfl
    | _ => simp [hjob, Job.Completes] at hcompletes
  · have hcompletes := hends _ rfl
    rcases hcompletes.token with ⟨q, hq, htoken⟩ | ⟨hnone, _⟩
    · obtain rfl := Option.some.inj hq
      exact h.reported hrunning hrest horderly hcoupled htoken
    · simp at hnone

theorem stepStable :
    StepStable (fun d label => ordinary label = true ∧ Orderly d label) (Remembered False) where
  settle rounds h := h.settle rounds
  received request h :=
    ⟨h.coupled.received request, h.steady.keep rfl rfl rfl rfl,
      ⟨h.behaved.queued, h.behaved.jobs, h.behaved.running⟩,
      h.single, h.scheduled, h.attempting, h.atRest, h.resumed⟩
  safetyFired h :=
    ⟨h.coupled.safetyFired, h.steady.keep rfl rfl rfl rfl,
      ⟨h.behaved.queued, h.behaved.jobs, h.behaved.running⟩,
      h.single, h.scheduled, h.attempting, h.atRest, h.resumed⟩
  answered response hC h :=
    ⟨Coupled.stable.answered response (hC.imp fun _ => Exists.imp fun _ _ => trivial) h.coupled,
      h.steady.keep rfl rfl rfl rfl, ⟨h.behaved.queued, h.behaved.jobs, h.behaved.running⟩,
      h.single, h.scheduled, h.attempting, h.atRest, h.resumed⟩
  standby enabled h :=
    ⟨Coupled.stable.standby enabled h.coupled,
      h.steady.keep rfl rfl rfl rfl, ⟨h.behaved.queued, h.behaved.jobs, h.behaved.running⟩,
      h.single, h.scheduled, h.attempting, h.atRest, h.resumed⟩
  parked hC h hopen hsuspended hfind hqueue :=
    ⟨Coupled.stable.parked trivial h.coupled hopen hsuspended hfind hqueue,
      h.steady.keep rfl rfl rfl rfl,
      Behaved.stepStable.parked hC.1 h.behaved hopen hsuspended hfind hqueue,
      h.single, h.scheduled, h.attempting, h.atRest, h.resumed⟩
  live {d message spec} hC h hopen hsuspended hfind hcall := by
    have hattempts : attempts { d with
        jobs := if d.stopRequested then d.jobs else d.jobs ++ [.live ⟨d.requests, message⟩ spec]
        requests := d.requests + 1
        log := d.log ++ [.accepted ⟨d.requests, message⟩ false] } = d.attempts := by
      cases d.stopRequested <;> simp [attempts, outstanding, Job.token, Token.isReconnect]
    exact ⟨Coupled.stable.live trivial h.coupled hopen hsuspended hfind hcall,
      h.steady.keep rfl rfl rfl rfl,
      Behaved.stepStable.live hC.1 h.behaved hopen hsuspended hfind hcall,
      hattempts ▸ h.single, h.scheduled, hattempts ▸ h.attempting, hattempts ▸ h.atRest, h.resumed⟩
  posted {d} kind h := by
    have hattempts : (d.post (.power kind)).attempts = d.attempts := by
      simp [attempts, outstanding, Post.token]
    refine ⟨Coupled.stable.posted kind h.coupled,
      h.steady.keep rfl rfl rfl rfl, ⟨h.behaved.queued, h.behaved.jobs, h.behaved.running⟩,
      hattempts ▸ h.single, h.scheduled,
      fun hopen hstate => ⟨hattempts ▸ (h.attempting hopen hstate).1,
        (h.attempting hopen hstate).2.append (by simp)⟩,
      fun howed hopen hsuspended hrecoverable hstate => ?_,
      fun hopen hrecoverable hstate hreports => ?_⟩
    · have hatRest := h.atRest howed hopen hsuspended hrecoverable hstate
      exact ⟨hattempts.trans hatRest.1, hatRest.2.append _⟩
    · refine (h.resumed hopen hrecoverable hstate (hreports.imp_left ?_)).append _
      rintro ⟨ticket, hmem⟩
      exact ⟨ticket, by simpa using hmem⟩
  powerDrained h hposts := h.drained hposts (by simp) rfl
  replyDrained _ h hposts := h.drained hposts (by simp) rfl
  suspendDrained {d ticket posts} h hposts := by
    have hcoupled := h.coupled.suspendDrained hposts
    have hdrained : Remembered _ { d with posts := posts, log := d.log ++ [.invoked ticket] } :=
      h.drained hposts (by simp) rfl
    unfold suspendReported at hcoupled ⊢
    split_ifs at hcoupled ⊢
    · exact ⟨hcoupled, h.steady.keep rfl rfl rfl rfl,
        ⟨h.behaved.queued, h.behaved.jobs, h.behaved.running⟩, hdrained.single, hdrained.scheduled,
        hdrained.attempting, hdrained.atRest, hdrained.resumed⟩
    · exact hdrained
  resumeDrained {d ticket adapterValid posts} _ h hposts := by
    have hreported := h.resumeReported_resumedWith hposts
    rw [runPost_resumeDone]
    cases adapterValid with
    | true => exact (hreported.settle _).mono (by simp)
    | false => exact (hreported.settle _).seedReconnect
  reconnectDrained _ h hposts := h.reconnectDrained hposts
  lostDrained hC h hposts := h.lostDrained hposts hC.2
  retryTimer hC h := h.retryTimer hC.2
  safetyExpired h :=
    ⟨Coupled.stable.safetyExpired h.coupled,
      h.steady.keep rfl rfl rfl rfl, ⟨h.behaved.queued, h.behaved.jobs, h.behaved.running⟩,
      h.single, h.scheduled, h.attempting, h.atRest, h.resumed⟩
  retryExpired htimer h :=
    ⟨Coupled.stable.retryExpired htimer h.coupled,
      h.steady.keep rfl rfl rfl rfl, ⟨h.behaved.queued, h.behaved.jobs, h.behaved.running⟩,
      h.single, by simp, h.attempting, h.atRest, h.resumed⟩
  taken {d job jobs} h hrunning hjobs hstop := by
    have hcoupled := Coupled.stable.taken h.coupled hrunning hjobs
      hstop
    have hattempts : (d.takeJob job jobs).attempts = d.attempts := by
      simp [attempts, outstanding, takeJob, hrunning, hjobs]
    refine ⟨hcoupled, h.steady.keep rfl rfl rfl rfl,
      Behaved.stepStable.taken h.behaved hrunning hjobs hstop, hattempts ▸ h.single, h.scheduled,
      hattempts ▸ h.attempting, hattempts ▸ h.atRest,
      fun hopen hrecoverable hstate hreports => ?_⟩
    rcases hreports with hposted | ⟨_, ⟨⟩, hreports⟩
    · exact h.resumed hopen hrecoverable hstate (Or.inl hposted)
    · -- no job reports before it has called anything
      obtain ⟨ticket, rfl⟩ := resume_of_reportsValid hcoupled rfl hreports
      exact absurd hreports (Job.careful_resumeBody ticket _).1
  reopening {d r next} h hrunning hrest hstage := by
    refine h.worked hrunning rfl
      (Coupled.stable.reopening h.coupled hrunning hrest hstage)
      (Behaved.stepStable.reopening h.behaved hrunning hrest hstage) ?_ ?_
    · intro hcommand
      have hfollows := h.behaved.running r hrunning
      rw [hrest] at hfollows
      exact absurd rfl (hfollows.leavesConnection hcommand).1
    · rintro ⟨_, _, hret⟩
      simp [hrest] at hret
  opened {d r} h hrunning hstage :=
    h.worked hrunning rfl
      (Coupled.stable.opened h.coupled hrunning hstage)
      (Behaved.stepStable.opened h.behaved hrunning hstage) (fun _ _ => rfl) fun _ => rfl
  called {d r c next outcome} hC h hrunning hrest hpossible := by
    have hcoupled := Coupled.stable.called trivial h.coupled hrunning hrest hpossible
    have hfollows := h.behaved.running r hrunning
    rw [hrest] at hfollows
    refine h.worked hrunning rfl hcoupled
      (Behaved.stepStable.called hC.1 h.behaved hrunning hrest hpossible) ?_ ?_
    · intro hcommand hconnected
      have hleaves := hfollows.leavesConnection hcommand
      cases c <;> simp_all [connectedAfter, Ops.LeavesConnection]
    · intro hreports
      obtain ⟨ticket, hjob⟩ := resume_of_reportsValid hcoupled rfl hreports
      rw [show r.job = .resume ticket from hjob] at hfollows
      obtain ⟨rfl, rfl⟩ := ((hfollows outcome).1 hreports).eq
      have hconnected : d.connected = true := by
        simpa [possibleOutcome] using hpossible
      exact hconnected
  ticked {d r next} time h hrunning hrest := by
    have hcoupled := Coupled.stable.ticked time h.coupled hrunning
      hrest
    refine h.worked hrunning rfl hcoupled
      (Behaved.stepStable.ticked time h.behaved hrunning hrest) (fun _ => id) fun hreports => ?_
    obtain ⟨ticket, hjob⟩ := resume_of_reportsValid hcoupled rfl hreports
    have hfollows := h.behaved.running r hrunning
    rw [hrest, show r.job = .resume ticket from hjob] at hfollows
    exact ((hfollows time).1 hreports).elim
  slept {d r ms next} h hrunning hrest := by
    have hcoupled := Coupled.stable.slept h.coupled hrunning hrest
    refine h.worked hrunning rfl hcoupled
      (Behaved.stepStable.slept h.behaved hrunning hrest) (fun _ => id) fun hreports => ?_
    obtain ⟨ticket, hjob⟩ := resume_of_reportsValid hcoupled rfl hreports
    have hfollows := h.behaved.running r hrunning
    rw [hrest, show r.job = .resume ticket from hjob] at hfollows
    exact ((hfollows ()).1 hreports).elim
  finished hC h hrunning hrest := h.finished hrunning hrest hC.2
  exited {d} h hrunning hstop := by
    have hclosed {P : Prop} : d.lifecycleShutdown = false → P := fun hopen =>
      absurd (h.coupled.gates.1.symm.trans hstop) (by simp [hopen])
    exact ⟨Coupled.stable.exited h.coupled hrunning hstop,
      h.steady.keep rfl rfl rfl rfl, ⟨h.behaved.queued, h.behaved.jobs, h.behaved.running⟩,
      h.single, h.scheduled, hclosed, fun _ => hclosed, hclosed⟩
  alerted {d} h := by
    have hup : Up { d with connected := false, alerting := d.alerting + 1 } :=
      Or.inr (Nat.succ_pos _)
    exact ⟨Coupled.stable.alerted h.coupled,
      h.steady.keep rfl rfl rfl rfl, ⟨h.behaved.queued, h.behaved.jobs, h.behaved.running⟩,
      h.single, h.scheduled,
      fun hopen hstate => ⟨(h.attempting hopen hstate).1,
        (h.attempting hopen hstate).2.mono fun _ => hup⟩,
      fun howed hopen hsuspended hrecoverable hstate =>
        ⟨(h.atRest howed hopen hsuspended hrecoverable hstate).1, Or.inl hup⟩,
      fun _ _ _ _ => Or.inl hup⟩
  alertPosted {d alerting} h halerting := by
    have hattempts : attempts { d with
        alerting := alerting, posts := d.posts ++ [.connectionLost] } = d.attempts := by
      simp [attempts, outstanding, Post.token]
    have hnoticed {up : Prop} : Noticed up (d.posts ++ [.connectionLost]) := Or.inr (by simp)
    exact ⟨Coupled.stable.alertPosted h.coupled halerting,
      h.steady.keep rfl rfl rfl rfl, ⟨h.behaved.queued, h.behaved.jobs, h.behaved.running⟩,
      hattempts ▸ h.single, h.scheduled,
      fun hopen hstate => ⟨hattempts ▸ (h.attempting hopen hstate).1, heralded_lost _ _⟩,
      fun howed hopen hsuspended hrecoverable hstate =>
        ⟨hattempts ▸ (h.atRest howed hopen hsuspended hrecoverable hstate).1, hnoticed⟩,
      fun _ _ _ _ => hnoticed⟩
  stopped {d} h := by
    have hcoupled := Coupled.stable.stopped h.coupled
    have hsteady := Steady.stepStable (C := fun _ _ => True) |>.stopped h.steady
    have hbehaved := Behaved.stepStable.stopped h.behaved
    have hshut : d.stop.lifecycleShutdown = true := by rw [stop_eq]
    have hclosed {P : Prop} : d.stop.lifecycleShutdown = false → P :=
      fun hopen => absurd (hshut.symm.trans hopen) (by simp)
    have hsub : d.stop.attempts.length ≤ d.attempts.length := by
      refine List.Sublist.length_le (List.Sublist.filter _ ?_)
      rw [stop_eq]
      simp [outstanding]
    refine ⟨hcoupled, hsteady, hbehaved, Nat.le_trans hsub h.single, ?_, hclosed,
      fun _ => hclosed, hclosed⟩
    rw [stop_eq]
    exact h.scheduled

theorem boot {setup : Setup} (harms : ∀ n, setup.armOk n = true) :
    Remembered False (boot setup) where
  coupled := Coupled.boot setup
  steady := (Spared.boot False harms).steady
  behaved := Behaved.boot setup
  single := by simp [attempts, outstanding, Daemon.boot]
  scheduled := by simp [Daemon.boot]
  attempting := by simp [Daemon.boot]
  atRest _ _ _ _ _ := ⟨by simp [attempts, outstanding, Daemon.boot], Or.inl (Or.inl rfl)⟩
  resumed _ _ _ _ := Or.inl (Or.inl rfl)

end Remembered

/-- Nothing is queued, running, posted or about to be posted. -/
def quiescent (d : Daemon) : Bool :=
  d.jobs.isEmpty && d.running.isNone && d.posts.isEmpty && d.alerting == 0

/-- **Losses are remembered.** Take a run without restarts, without exceptions and
with timers that can be armed, in which no attempt is started before the previous
one has reported and no success is posted over a connection whose loss has been
posted already. Whenever nothing is under way in it, the daemon is neither
suspended nor shut down and has not given up, a connection that is down has a
retry scheduled. -/
theorem retry_scheduled_of_orderly {setup : Setup} {labels : List Label} {d : Daemon}
    (harms : ∀ n, setup.armOk n = true) (hordinary : ∀ label ∈ labels, ordinary label = true)
    (horderly : machine.Meets Orderly (boot setup) labels)
    (hrun : machine.run (boot setup) labels = some d) (hquiet : d.quiescent = true)
    (hsuspended : d.suspended = false) (hopen : d.lifecycleShutdown = false)
    (hrecoverable : d.unrecoverable = false) (hdown : d.connected = false) :
    d.adapterReconnect.state = .waitingForRetry ∧ d.reconnectRetryTimer ≠ .disarmed := by
  have h : Remembered False d := Remembered.stepStable.run (Remembered.boot harms)
    (machine.meets_and_of_forall hordinary horderly) hrun
  simp only [quiescent, Bool.and_eq_true, List.isEmpty_iff, Option.isNone_iff_eq_none,
    beq_iff_eq] at hquiet
  obtain ⟨⟨⟨hjobs, hrunning⟩, hposts⟩, halerting⟩ := hquiet
  cases hstate : d.adapterReconnect.state with
  | waitingForRetry => exact ⟨rfl, h.scheduled hstate⟩
  | attempting =>
      have hattempts := (h.attempting hopen hstate).1
      simp [attempts, outstanding, hjobs, hrunning, hposts] at hattempts
  | idle =>
      have hnoticed := (h.atRest id hopen hsuspended hrecoverable hstate).2
      simp [Noticed, Up, hdown, halerting, hposts] at hnoticed

/-- A loss, an attempt that reopens the adapter, and a second loss after its
result. -/
def lossAfterResult : List Label :=
  [.alertStore, .alertPost, .drain, .retryExpire, .retryTimer, .workerTake, .workerReopen,
    .workerOpened, .workerCall (.ok true), .workerFinish, .alertStore, .alertPost, .drain, .drain]

theorem retry_scheduled_of_orderly_lossAfterResult :
    ∃ d, machine.run (boot {}) lossAfterResult = some d ∧ d.connected = false ∧
      d.adapterReconnect.state = .waitingForRetry ∧ d.reconnectRetryTimer ≠ .disarmed := by
  have hvalues : (machine.run (boot {}) lossAfterResult).map (fun d =>
      (d.quiescent, d.suspended, d.lifecycleShutdown, d.unrecoverable, d.connected)) =
      some (true, false, false, false, false) := by decide
  obtain ⟨d, hd, hfields⟩ := Option.map_eq_some_iff.mp hvalues
  simp only [Prod.mk.injEq] at hfields
  obtain ⟨hquiet, hsuspended, hopen, hrecoverable, hdown⟩ := hfields
  exact ⟨d, hd, hdown, retry_scheduled_of_orderly (fun _ => rfl) (by decide) (by decide) hd hquiet
    hsuspended hopen hrecoverable hdown⟩

/-- The same with the second loss before the result is posted. -/
def lossBeforeResult : List Label :=
  [.alertStore, .alertPost, .drain, .retryExpire, .retryTimer, .workerTake, .workerReopen,
    .workerOpened, .workerCall (.ok true), .alertStore, .alertPost, .workerFinish, .drain, .drain]

/-- The reconnect machine rests over a dead connection and nothing is under way. -/
def forgotten (d : Daemon) : Bool :=
  d.quiescent && !d.suspended && !d.lifecycleShutdown && !d.unrecoverable && !d.connected &&
    d.adapterReconnect.state == .idle

theorem loss_forgotten :
    ¬ ∀ labels d, (∀ label ∈ labels, ordinary label = true) →
      machine.run (boot {}) labels = some d → d.forgotten = false := by
  intro hclaim
  have hrun : (machine.run (boot {}) lossBeforeResult).map forgotten = some true := by decide
  obtain ⟨d, hd, hforgotten⟩ := Option.map_eq_some_iff.mp hrun
  simpa [hforgotten] using hclaim lossBeforeResult d (by decide) hd

/-- A resume request while an attempt runs: the next attempt is ended by the first
one's success, and its own failure is absorbed. -/
def overlappingAttempts : List Label :=
  [.alertStore, .alertPost, .drain, .retryExpire, .retryTimer, .workerTake, .workerReopen,
    .wire ⟨.cmdResume, 0, []⟩, .retryExpire, .retryTimer, .workerOpened, .workerCall (.ok true),
    .workerFinish, .drain, .workerTake, .workerReopen, .workerCall (.ok false), .workerFinish,
    .drain]

example : (machine.run (boot {}) overlappingAttempts).map forgotten = some true := by decide

end Daemon

end CecControl
