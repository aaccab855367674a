/-
# The adapter while the system is suspended

A suspend reports back when its job has closed the adapter, and from then on there is nothing in
the worker's queue that could open it again: until a resume is started the adapter stays closed.
The inhibitor is let go in the handlers that work off the power requests, and, unless it is the
safety timer that lets it go, only in such a state.
-/

import CecControl.Daemon.HealthyConnections

namespace CecControl

open Lib PowerLifecycle

namespace Job

/-- Every way to a normal end leads through `closeConnection`. -/
def ClosesFirst : JobProgram → Prop
  | .ret (.ok _, _) => False
  | .ret (.error _, _) => True
  | .call op next => op = .adapter .closeConnection ∨ ∀ answer, ClosesFirst (next answer)

/-- A call of another kind has closed nothing. -/
theorem ClosesFirst.later {op : Op} {next : op.Ans → JobProgram} (h : ClosesFirst (.call op next))
    (hop : op ≠ .adapter .closeConnection) (answer : op.Ans) : ClosesFirst (next answer) :=
  h.resolve_left hop answer

theorem closesFirst_bind {α : Type} {m : WorkerM α} {f : α → WorkerM (Option Post)}
    (hf : ∀ value t, ClosesFirst ((f value).program t)) (t : CommandThrottler) :
    ClosesFirst ((m >>= f).program t) := by
  rw [WorkerM.program_bind]
  generalize m.program t = p
  induction p with
  | ret result =>
      obtain ⟨outcome, t'⟩ := result
      cases outcome with
      | ok value => exact hf value t'
      | error e => trivial
  | call op next ih => exact Or.inr ih

theorem closesFirst_suspendBody (ticket : ℕ) (t : CommandThrottler) :
    ClosesFirst ((suspendBody ticket).program t) := by
  have hclose (t : CommandThrottler) : ClosesFirst ((do
      let _ ← WorkerM.adapter .closeConnection
      return some (.suspendDone ticket) : WorkerM (Option Post)).program t) := Or.inl rfl
  refine closesFirst_bind (fun connected t => ?_) t
  split
  · exact closesFirst_bind (fun _ => hclose) t
  · exact hclose t

/-- What is left of a suspend does not open the adapter. -/
def LeavesClosed (job : Job) (rest : JobProgram) : Prop :=
  ∀ ticket, job = .suspend ticket → rest.Calls NeverReopens

theorem calls_suspendBody (ticket : ℕ) (t : CommandThrottler) :
    ((suspendBody ticket).program t).Calls NeverReopens := by
  have hcall {c : AdapterCall} (hc : c ≠ .reopenConnection) :
      WorkerM.Uses NeverReopens (WorkerM.adapter c) :=
    WorkerM.uses_adapter (by simpa [NeverReopens] using hc)
  have hclose : WorkerM.Uses NeverReopens (do
      let _ ← WorkerM.adapter .closeConnection
      return some (.suspendDone ticket) : WorkerM (Option Post)) :=
    (hcall (by simp)).bind fun _ => WorkerM.uses_pure _
  refine WorkerM.Uses.bind (hcall (by simp)) (fun connected => ?_) t
  refine WorkerM.Uses.ite (WorkerM.Uses.bind ?_ fun _ => hclose) hclose
  exact ((hcall (by simp)).bind fun _ => WorkerM.uses_pure _).catchStd (WorkerM.uses_pure _)

end Job

namespace Daemon

variable {d : Daemon}

theorem jobRules_leavesClosed :
    JobRules (fun _ _ => True) (fun _ => True) Job.LeavesClosed where
  suspend ticket t _ _ := Job.calls_suspendBody ticket t
  resume _ _ _ h := by cases h
  reconnect _ _ _ h := by cases h
  parked _ := trivial
  live _ _ _ _ h := by cases h
  replay _ _ _ _ h := by cases h
  called _ h ticket hjob := (h ticket hjob).2 _
  ticked time h ticket hjob := (h ticket hjob).2 time
  slept h ticket hjob := (h ticket hjob).2 ()

/-- The adapter is closed, and nothing is about to open it. -/
structure Down (d : Daemon) : Prop where
  connected : d.connected = false
  running : d.running = none
  jobs : d.jobs = []

/-- A resume that has reported only adds to what is left to do. -/
theorem Down.of_resumeReported {ticket : ℕ} {adapterValid : Bool} {posts : List Post}
    (h : Down (d.resumedWith ticket adapterValid posts).resumeReported) : Down d := by
  have hresumed : Down (d.resumedWith ticket adapterValid posts) := by
    unfold resumeReported at h
    split_ifs at h
    · exact ⟨h.connected, h.running, h.jobs⟩
    · exact h
  refine ⟨hresumed.connected, hresumed.running, ?_⟩
  have hnil := hresumed.jobs
  by_cases hstop : d.stopRequested = true
  · simpa only [resumedWith, if_pos hstop] using hnil
  · simp only [resumedWith, if_neg hstop] at hnil
    exact (List.append_eq_nil_iff.mp hnil).1

structure Asleep (d : Daemon) : Prop where
  coupled : Coupled d
  kept : JobsKept (fun _ => True) Job.LeavesClosed d
  /-- The suspend that runs has closed the adapter, or will. -/
  closing : ∀ r ticket, d.running = some r → r.job = .suspend ticket →
    r.stage = .outside ∧ (d.connected = false ∨ Job.ClosesFirst r.rest)
  reported : d.lifecycleShutdown = false → ∀ ticket, .suspendDone ticket ∈ d.posts →
    d.connected = false
  rested : d.lifecycleShutdown = false → d.powerLifecycle.phase = .idle → d.suspended = true →
    Down d

namespace Asleep

/-- Behind a suspend that has reported nothing is left to do. -/
theorem down_of_posted (h : Asleep d) (hopen : d.lifecycleShutdown = false) {ticket : ℕ}
    (hmem : .suspendDone ticket ∈ d.posts) : Down d := by
  have hlast := h.coupled.last hopen
  rw [outstanding, List.pairwise_append] at hlast
  have htoken : Token.suspend ticket ∈ d.posts.filterMap Post.token :=
    List.mem_filterMap.mpr ⟨_, hmem, rfl⟩
  have hnone : ∀ token, token ∉ d.running.toList.map (fun r => r.job.token) ++ d.jobs.map Job.token :=
    fun token hlater => by simpa [Token.isPower] using hlast.2.2 _ htoken token hlater
  have hnil := List.eq_nil_iff_forall_not_mem.mpr hnone
  rw [List.append_eq_nil_iff, List.map_eq_nil_iff, List.map_eq_nil_iff, Option.toList_eq_nil_iff]
    at hnil
  exact ⟨h.reported hopen ticket hmem, hnil.1, hnil.2⟩

/-- The worker has not moved, and no suspend has reported. -/
theorem keep (h : Asleep d) {d' : Daemon} (hcoupled : Coupled d')
    (hkept : JobsKept (fun _ => True) Job.LeavesClosed d') (hrunning : d'.running = d.running)
    (hconnected : d'.connected = d.connected)
    (hshut : d'.lifecycleShutdown = d.lifecycleShutdown)
    (hposts : ∀ ticket, .suspendDone ticket ∈ d'.posts → .suspendDone ticket ∈ d.posts)
    (hrested : d.lifecycleShutdown = false → d'.powerLifecycle.phase = .idle →
      d'.suspended = true → Down d') : Asleep d' where
  coupled := hcoupled
  kept := hkept
  closing r ticket hr hjob := by
    rw [hconnected]
    exact h.closing r ticket (hrunning ▸ hr) hjob
  reported hopen ticket hmem := by
    rw [hconnected]
    exact h.reported (hshut ▸ hopen) ticket (hposts ticket hmem)
  rested hopen := hrested (hshut ▸ hopen)

/-- So has the gate: the same rest. -/
theorem same (h : Asleep d) {d' : Daemon} (hcoupled : Coupled d')
    (hkept : JobsKept (fun _ => True) Job.LeavesClosed d') (hrunning : d'.running = d.running)
    (hconnected : d'.connected = d.connected)
    (hshut : d'.lifecycleShutdown = d.lifecycleShutdown)
    (hposts : ∀ ticket, .suspendDone ticket ∈ d'.posts → .suspendDone ticket ∈ d.posts)
    (hphase : d'.powerLifecycle.phase = d.powerLifecycle.phase)
    (hsuspended : d'.suspended = d.suspended) (hjobs : d.jobs = [] → d'.jobs = []) : Asleep d' :=
  h.keep hcoupled hkept hrunning hconnected hshut hposts fun hopen hidle hup => by
    obtain ⟨hclosed, hnone, hnil⟩ := h.rested hopen (hphase ▸ hidle) (hsuspended ▸ hup)
    exact ⟨hconnected.trans hclosed, hrunning.trans hnone, hjobs hnil⟩

theorem roundStable : RoundStable Asleep where
  suspendNow {d source rest} h hidle hpending hnow :=
    h.same (Coupled.roundStable.suspendNow h.coupled hidle hpending hnow)
      ((JobsKept.roundStable jobRules_leavesClosed).suspendNow h.kept hidle hpending hnow) rfl rfl rfl
      (fun _ => id) hidle.symm rfl id
  suspendLater {d source rest} h hidle hpending hlater :=
    h.keep (Coupled.roundStable.suspendLater h.coupled hidle hpending hlater)
      ((JobsKept.roundStable jobRules_leavesClosed).suspendLater h.kept hidle hpending hlater)
      rfl rfl rfl (fun _ => id) (fun _ hphase => by cases hphase)
  resumeNow {d source rest} h hidle hpending hnow :=
    h.same (Coupled.roundStable.resumeNow h.coupled hidle hpending hnow)
      ((JobsKept.roundStable jobRules_leavesClosed).resumeNow h.kept hidle hpending hnow) rfl rfl rfl
      (fun _ => id) hidle.symm rfl id
  resumeLater {d source rest} h hidle hpending hlater :=
    h.keep (Coupled.roundStable.resumeLater h.coupled hidle hpending hlater)
      ((JobsKept.roundStable jobRules_leavesClosed).resumeLater h.kept hidle hpending hlater)
      rfl rfl rfl (fun _ => id) (fun _ hphase => by cases hphase)

/-- While the adapter is suspended an attempt is turned down. -/
theorem reconnectStable : ReconnectStable Asleep where
  quiet {d} reconnect timer arms h :=
    h.same (Coupled.reconnectStable.quiet (d := d) _ _ _ h.coupled)
      ((JobsKept.reconnectStable jobRules_leavesClosed).quiet (d := d) _ _ _ h.kept) rfl rfl rfl
      (fun _ => id) rfl rfl id
  attempt {d} h := by
    have hcoupled := Coupled.reconnectStable.attempt h.coupled
    have hkept := (JobsKept.reconnectStable jobRules_leavesClosed).attempt h.kept
    obtain ⟨-, ok, more, -, heq⟩ | ⟨-, hsuspended, -, heq⟩ := d.reconnectAsync_cases <;>
      rw [heq] at hcoupled hkept ⊢
    · exact h.same hcoupled hkept rfl rfl rfl (fun _ => id) rfl rfl id
    · refine h.keep hcoupled hkept rfl rfl rfl (fun _ => id) fun _ _ hup => ?_
      exact absurd (hsuspended.symm.trans hup) (by simp)
  abandon h :=
    h.same (Coupled.reconnectStable.abandon h.coupled)
      ((JobsKept.reconnectStable jobRules_leavesClosed).abandon h.kept) rfl rfl rfl (fun _ => id)
      rfl rfl id

theorem settle (h : Asleep d) (rounds : ℕ) : Asleep (settle rounds d) :=
  roundStable.settle reconnectStable.seedReconnect rounds h

theorem received (h : Asleep d) (request : Pending) : Asleep (d.received request) := by
  refine h.same (h.coupled.received request) ⟨h.kept.queued, h.kept.jobs, h.kept.running⟩ rfl rfl rfl
    (fun _ => id) ?_ rfl id
  unfold Daemon.received
  dsimp only
  split_ifs <;> rfl

theorem safetyFired (h : Asleep d) : Asleep d.safetyFired := by
  refine h.same h.coupled.safetyFired ⟨h.kept.queued, h.kept.jobs, h.kept.running⟩ rfl rfl rfl
    (fun _ => id) ?_ rfl id
  unfold Daemon.safetyFired PowerLifecycle.onSafetyTimerFired
  dsimp only
  split_ifs <;> rfl

/-- A suspend that has reported back is at rest. -/
theorem suspendReported (h : Asleep d) {ticket : ℕ} {posts : List Post}
    (hposts : d.posts = .suspendDone ticket :: posts) :
    Asleep (Daemon.suspendReported { d with posts := posts, log := d.log ++ [.invoked ticket] }) := by
  have hcoupled := h.coupled.suspendDrained hposts
  have htail (other : ℕ) (hmem : .suspendDone other ∈ posts) : .suspendDone other ∈ d.posts :=
    hposts ▸ List.mem_cons_of_mem _ hmem
  unfold Daemon.suspendReported at hcoupled ⊢
  split_ifs at hcoupled ⊢
  · refine h.keep hcoupled ⟨h.kept.queued, h.kept.jobs, h.kept.running⟩ rfl rfl rfl htail
      fun hopen _ _ => ?_
    obtain ⟨hclosed, hnone, hnil⟩ := h.down_of_posted hopen (hposts ▸ List.mem_cons_self)
    exact ⟨hclosed, hnone, hnil⟩
  · exact h.same hcoupled ⟨h.kept.queued, h.kept.jobs, h.kept.running⟩ rfl rfl rfl htail rfl rfl id

theorem resumeReported_resumedWith (h : Asleep d) {ticket : ℕ} {adapterValid : Bool}
    {posts : List Post} (hposts : d.posts = .resumeDone ticket adapterValid :: posts) :
    Asleep (d.resumedWith ticket adapterValid posts).resumeReported := by
  have hcoupled := h.coupled.resumeReported_resumedWith hposts
  have hkept := h.kept.resumeReported_resumedWith jobRules_leavesClosed ticket adapterValid posts
  have hflag : (d.resumedWith ticket adapterValid posts).resumeReported.suspended = false := by
    unfold resumeReported
    split_ifs <;> rfl
  refine h.keep hcoupled hkept ?_ ?_ ?_ (fun other hmem => ?_) fun _ _ hup => ?_
  · unfold resumeReported
    split_ifs <;> rfl
  · unfold resumeReported
    split_ifs <;> rfl
  · unfold resumeReported
    split_ifs <;> rfl
  · rw [hposts]
    refine List.mem_cons_of_mem _ ?_
    unfold resumeReported at hmem
    split_ifs at hmem <;> exact hmem
  · exact absurd (hflag.symm.trans hup) (by simp)

/-- Draining a closure that is no suspend's. -/
theorem drained (h : Asleep d) {p : Post} {posts : List Post} (hposts : d.posts = p :: posts)
    (log : List Effect) : Asleep { d with posts := posts, log := log } := by
  refine h.same (h.coupled.drained hposts) ⟨h.kept.queued, h.kept.jobs, h.kept.running⟩ rfl rfl rfl
    (fun ticket hmem => ?_) rfl rfl id
  exact hposts ▸ List.mem_cons_of_mem _ hmem

/-- The worker goes on with its job. -/
theorem worked (h : Asleep d) {r r' : Running} {connected : Bool} (hrunning : d.running = some r)
    (hcoupled : Coupled { d with running := some r', connected := connected })
    (hkept : JobsKept (fun _ => True) Job.LeavesClosed
      { d with running := some r', connected := connected })
    (hconnected : d.connected = false → connected = false)
    (hclosing : ∀ ticket, r'.job = .suspend ticket →
      r'.stage = .outside ∧ (connected = false ∨ Job.ClosesFirst r'.rest)) :
    Asleep { d with running := some r', connected := connected } where
  coupled := hcoupled
  kept := hkept
  closing other ticket hother hjob := by
    obtain rfl := Option.some.inj hother
    exact hclosing ticket hjob
  reported hopen ticket hmem := hconnected (h.reported hopen ticket hmem)
  rested hopen hidle hup := by
    have hnone := (h.rested hopen hidle hup).running
    simp [hrunning] at hnone

theorem stepStable : StepStable (fun _ _ => True) Asleep where
  settle rounds h := h.settle rounds
  received request h := h.received request
  safetyFired h := h.safetyFired
  answered response hC h :=
    h.same (Coupled.stable.answered response hC h.coupled)
      ((JobsKept.stepStable jobRules_leavesClosed).answered response hC h.kept) rfl rfl rfl
      (fun _ => id) rfl rfl id
  standby enabled h :=
    h.same (Coupled.stable.standby enabled h.coupled)
      ((JobsKept.stepStable jobRules_leavesClosed).standby enabled h.kept) rfl rfl rfl
      (fun _ => id) rfl rfl id
  parked hC h hshut hsuspended hfind hqueue :=
    h.same (Coupled.stable.parked hC h.coupled hshut hsuspended hfind hqueue)
      ((JobsKept.stepStable jobRules_leavesClosed).parked hC h.kept hshut hsuspended hfind hqueue)
      rfl rfl rfl (fun _ => id) rfl rfl id
  live hC h hshut hsuspended hfind hcall :=
    h.keep (Coupled.stable.live hC h.coupled hshut hsuspended hfind hcall)
      ((JobsKept.stepStable jobRules_leavesClosed).live hC h.kept hshut hsuspended hfind hcall)
      rfl rfl rfl (fun _ => id) fun _ _ hup => absurd (hsuspended.symm.trans hup) (by simp)
  posted kind h := by
    refine h.same (Coupled.stable.posted kind h.coupled)
      ((JobsKept.stepStable jobRules_leavesClosed).posted kind h.kept) rfl rfl rfl
      (fun ticket hmem => ?_) rfl rfl id
    simpa using hmem
  powerDrained {d kind posts} h hposts := h.drained hposts d.log
  replyDrained _ h hposts := h.drained hposts _
  suspendDrained h hposts := h.suspendReported hposts
  resumeDrained _ h hposts :=
    resumeDrained_of_reported (P := Asleep) (fun rounds h => h.settle rounds)
      reconnectStable.seedReconnect (h.resumeReported_resumedWith hposts)
  reconnectDrained _ h hposts := reconnectStable.onReconnectEvent (h.drained hposts _) _
  lostDrained {d posts} _ h hposts := reconnectStable.onReconnectEvent (h.drained hposts d.log) _
  retryTimer {d} _ h :=
    reconnectStable.onReconnectEvent (reconnectStable.quiet (d := d) _ _ d.arms h) _
  safetyExpired h :=
    h.same (Coupled.stable.safetyExpired h.coupled)
      ((JobsKept.stepStable jobRules_leavesClosed).safetyExpired h.kept) rfl rfl rfl
      (fun _ => id) rfl rfl id
  retryExpired htimer h :=
    h.same (Coupled.stable.retryExpired htimer h.coupled)
      ((JobsKept.stepStable jobRules_leavesClosed).retryExpired htimer h.kept) rfl rfl rfl
      (fun _ => id) rfl rfl id
  taken {d job jobs} h hrunning hjobs hstop := by
    refine ⟨Coupled.stable.taken h.coupled hrunning hjobs hstop,
      (JobsKept.stepStable jobRules_leavesClosed).taken h.kept hrunning hjobs hstop, ?_,
      h.reported, fun hopen hidle hup => ?_⟩
    · intro r ticket hr hjob
      obtain rfl := Option.some.inj hr
      obtain rfl : job = .suspend ticket := hjob
      exact ⟨rfl, .inr (Job.closesFirst_suspendBody ticket d.throttler)⟩
    · have hnil := (h.rested hopen hidle hup).jobs
      simp [hjobs] at hnil
  reopening {d r next} h hrunning hrest hstage := by
    refine h.worked hrunning (Coupled.stable.reopening h.coupled hrunning hrest hstage)
      ((JobsKept.stepStable jobRules_leavesClosed).reopening h.kept hrunning hrest hstage)
      (fun _ => rfl) fun ticket hjob => ?_
    have hcalls := h.kept.running r hrunning ticket hjob
    rw [hrest] at hcalls
    exact absurd rfl hcalls.1
  opened {d r} h hrunning hstage := by
    have hcoupled := Coupled.stable.opened h.coupled hrunning hstage
    have hnot : ∀ ticket, r.job ≠ .suspend ticket := fun ticket hjob => by
      simpa [hstage] using (h.closing r ticket hrunning hjob).1
    refine ⟨hcoupled, (JobsKept.stepStable jobRules_leavesClosed).opened h.kept hrunning hstage,
      ?_, ?_, ?_⟩
    · intro other ticket hother hjob
      obtain rfl := Option.some.inj hother
      exact absurd hjob (hnot ticket)
    · intro hopen ticket hmem
      have hnone := (h.down_of_posted hopen hmem).running
      simp [hrunning] at hnone
    · intro hopen hidle hup
      have hnone := (h.rested hopen hidle hup).running
      simp [hrunning] at hnone
  called {d r c next outcome} hC h hrunning hrest hpossible := by
    refine h.worked hrunning (Coupled.stable.called hC h.coupled hrunning hrest hpossible)
      ((JobsKept.stepStable jobRules_leavesClosed).called hC h.kept hrunning hrest hpossible)
      (fun hclosed => ?_) fun ticket hjob => ⟨rfl, ?_⟩
    · unfold connectedAfter
      split <;> first | rfl | exact hclosed
    · rcases (h.closing r ticket hrunning hjob).2 with hclosed | hcloses
      · left
        unfold connectedAfter
        split <;> first | rfl | exact hclosed
      · rw [hrest] at hcloses
        rcases hcloses with hclose | hlater
        · left
          cases hclose
          rfl
        · exact .inr (hlater outcome)
  ticked {d r next} time h hrunning hrest := by
    refine h.worked hrunning (Coupled.stable.ticked time h.coupled hrunning hrest)
      ((JobsKept.stepStable jobRules_leavesClosed).ticked time h.kept hrunning hrest) id
      fun ticket hjob => ?_
    obtain ⟨houtside, hclosing⟩ := h.closing r ticket hrunning hjob
    rw [hrest] at hclosing
    exact ⟨houtside, hclosing.imp_right fun hcloses => hcloses.later (by simp) time⟩
  slept {d r ms next} h hrunning hrest := by
    refine h.worked hrunning (Coupled.stable.slept h.coupled hrunning hrest)
      ((JobsKept.stepStable jobRules_leavesClosed).slept h.kept hrunning hrest) id
      fun ticket hjob => ?_
    obtain ⟨houtside, hclosing⟩ := h.closing r ticket hrunning hjob
    rw [hrest] at hclosing
    exact ⟨houtside, hclosing.imp_right fun hcloses => hcloses.later (by simp) ()⟩
  finished {d r result throttler} hC h hrunning hrest := by
    have hcoupled := Coupled.stable.finished hC h.coupled hrunning hrest
    have hkept := (JobsKept.stepStable jobRules_leavesClosed).finished hC h.kept hrunning hrest
    have hbusy : ¬ Down d := fun hdown => by simpa [hrunning] using hdown.running
    have hreturned {p : Post} (hok : result = .ok (some p)) (ticket : ℕ)
        (hposted : p = .suspendDone ticket) : d.connected = false := by
      have hends := h.coupled.completes r hrunning
      rw [hrest, hok, hposted] at hends
      have hcompletes : r.job.Completes (some (.suspendDone ticket)) := hends _ rfl
      obtain ⟨other, hjob⟩ : ∃ other, r.job = .suspend other := by
        cases hjob : r.job <;> simp_all [Job.Completes]
      refine (h.closing r other hrunning hjob).2.resolve_right fun hcloses => ?_
      rw [hrest, hok] at hcloses
      exact hcloses
    rcases result with e | (_ | p)
    · exact ⟨hcoupled, hkept, fun r ticket hr => (by cases hr), h.reported,
        fun hopen hidle hup => absurd (h.rested hopen hidle hup) hbusy⟩
    · exact ⟨hcoupled, hkept, fun r ticket hr => (by cases hr), h.reported,
        fun hopen hidle hup => absurd (h.rested hopen hidle hup) hbusy⟩
    · refine ⟨hcoupled, hkept, fun r ticket hr => (by cases hr), fun hopen ticket hmem => ?_,
        fun hopen hidle hup => absurd (h.rested hopen hidle hup) hbusy⟩
      rcases List.mem_append.mp hmem with hold | hnew
      · exact h.reported hopen ticket hold
      · exact hreturned rfl ticket (List.mem_singleton.mp hnew).symm
  exited {d} h hrunning hstop :=
    ⟨Coupled.stable.exited h.coupled hrunning hstop,
      (JobsKept.stepStable jobRules_leavesClosed).exited h.kept hrunning hstop,
      fun r ticket hr => absurd (hrunning.symm.trans hr) (by simp), fun _ _ _ => rfl,
      fun hopen hidle hup => ⟨rfl, hrunning, (h.rested hopen hidle hup).jobs⟩⟩
  alerted h :=
    ⟨Coupled.stable.alerted h.coupled, (JobsKept.stepStable jobRules_leavesClosed).alerted h.kept,
      fun r ticket hr hjob => ⟨(h.closing r ticket hr hjob).1, .inl rfl⟩, fun _ _ _ => rfl,
      fun hopen hidle hup =>
        ⟨rfl, (h.rested hopen hidle hup).running, (h.rested hopen hidle hup).jobs⟩⟩
  alertPosted h halerting := by
    refine h.same (Coupled.stable.alertPosted h.coupled halerting)
      ((JobsKept.stepStable jobRules_leavesClosed).alertPosted h.kept halerting) rfl rfl rfl
      (fun ticket hmem => ?_) rfl rfl id
    simpa using hmem
  stopped {d} h := by
    have hcoupled := Coupled.stable.stopped h.coupled
    have hkept := (JobsKept.stepStable jobRules_leavesClosed).stopped h.kept
    rw [stop_eq] at hcoupled hkept ⊢
    exact ⟨hcoupled, hkept, h.closing, fun hopen => (by cases hopen), fun hopen => (by cases hopen)⟩

theorem step (h : Asleep d) {d' : Daemon} {label : Label} (hstep : d.step label = some d') :
    Asleep d' :=
  stepStable.step h trivial hstep

theorem boot (setup : Setup) : Asleep (boot setup) where
  coupled := Coupled.boot setup
  kept := JobsKept.boot setup
  closing := by simp [Daemon.boot]
  reported := by simp [Daemon.boot]
  rested := by simp [Daemon.boot]

end Asleep

/-! ## Letting go of the inhibitor -/

/-- The log has grown, by nothing of this kind unless `allowed`. -/
def Grown (allowed : Prop) (d d' : Daemon) : Prop :=
  ∃ more, d'.log = d.log ++ more ∧ (.lock .release ∈ more → allowed)

namespace Grown

variable {allowed : Prop} {d d' d'' : Daemon}

theorem refl (d : Daemon) : Grown allowed d d := ⟨[], by simp, by simp⟩

theorem mono {allowed' : Prop} (h : Grown allowed d d') (himp : allowed → allowed') :
    Grown allowed' d d' := by
  obtain ⟨more, hlog, hmore⟩ := h
  exact ⟨more, hlog, fun hmem => himp (hmore hmem)⟩

theorem trans (h : Grown allowed d d') (h' : Grown allowed d' d'') : Grown allowed d d'' := by
  obtain ⟨more, hlog, hmore⟩ := h
  obtain ⟨more', hlog', hmore'⟩ := h'
  refine ⟨more ++ more', by rw [hlog', hlog, List.append_assoc], fun hmem => ?_⟩
  exact (List.mem_append.mp hmem).elim hmore hmore'

/-- Effects of another kind. -/
theorem append {more : List Effect} (hlog : d'.log = d.log ++ more)
    (hother : .lock .release ∉ more) : Grown allowed d d' := ⟨more, hlog, fun hmem => absurd hmem hother⟩

theorem of_eq (hlog : d'.log = d.log) : Grown allowed d d' := ⟨[], by simp [hlog], by simp⟩

end Grown

theorem reconnectStable_grown (before : Daemon) : ReconnectStable (Grown False before) where
  quiet _ _ _ h := h
  attempt {d} h := by
    refine h.trans ?_
    obtain ⟨-, ok, more, hmore, heq⟩ | ⟨-, -, -, heq⟩ := d.reconnectAsync_cases
    · rw [heq]
      refine .append rfl ?_
      rcases hmore with rfl | rfl <;> simp
    · rw [heq]
      exact .append rfl (by simp)
  abandon h := h.trans (.append rfl (by simp))

/-- Working off the queue lets go of the inhibitor only over an adapter that is closed already. -/
theorem grown_settle (h : Asleep d) (hopen : d.lifecycleShutdown = false) (rounds : ℕ) :
    Grown (Down d) d (settle rounds d) := by
  induction rounds generalizing d with
  | zero => exact .refl d
  | succ rounds ih =>
      rcases settle_succ_cases rounds d with
        ⟨hidle, source, rest, hpending, ⟨hnow, heq⟩ | ⟨hlater, heq⟩⟩ |
        ⟨hidle, source, rest, hpending, ⟨hnow, heq⟩ | ⟨hlater, heq⟩⟩ | ⟨-, heq⟩
      · have hdown : Down d := h.rested hopen hidle (by simpa [suspendsNow, hopen] using hnow)
        have hstep : Grown (Down d) d (d.suspendNow source rest) := ⟨_, rfl, fun _ => hdown⟩
        rw [heq]
        exact hstep.trans ((ih (Asleep.roundStable.suspendNow h hidle hpending hnow) hopen).mono
          fun _ => hdown)
      · rw [heq]
        exact .append rfl (by simp)
      · have hstep : Grown (Down d) d (d.resumeNow source rest) :=
          .append rfl (by unfold lockLog; split_ifs <;> simp)
        have hrest : Grown (Down d) (d.resumeNow source rest)
            (settle rounds (d.resumeNow source rest)) :=
          (ih (Asleep.roundStable.resumeNow h hidle hpending hnow) hopen).mono
            fun hdown => ⟨hdown.connected, hdown.running, hdown.jobs⟩
        have hseed := (reconnectStable_grown _).seedReconnect
          (Grown.refl (settle rounds (d.resumeNow source rest)))
        rw [heq]
        exact (hstep.trans hrest).trans (hseed.mono False.elim)
      · rw [heq]
        exact .append rfl (by simp)
      · rw [heq]
        exact .refl d

theorem grown_onRequested (h : Asleep d) (hopen : d.lifecycleShutdown = false)
    (request : Pending) : Grown (Down d) d (d.onRequested request) := by
  have hreceived : Grown (Down d) d (d.received request) := .append rfl (by simp)
  rw [onRequested_eq_settle]
  refine hreceived.trans ((grown_settle (h.received request) hopen _).mono fun hdown => ?_)
  exact ⟨hdown.connected, hdown.running, hdown.jobs⟩

theorem grown_dispatch {allowed : Prop} (d : Daemon) (command : Command) :
    Grown allowed d (d.dispatch command).1 := by
  unfold dispatch
  by_cases hshut : d.dispatcherShutdown = true
  · rw [if_pos hshut]
    exact .refl d
  rw [if_neg hshut]
  cases hfind : findDispatchByType command.message.type with
  | none => exact .refl d
  | some spec =>
      dsimp only
      by_cases hintercepted : spec.dispatch = .supervisorIntercepted
      · rw [if_pos hintercepted]
        exact .refl d
      rw [if_neg hintercepted]
      by_cases hsuspended : d.suspended = true
      · rw [if_pos hsuspended]
        unfold handleSuspendedInline
        split_ifs
        · exact .append rfl (by simp)
        · exact .refl d
      · rw [if_neg hsuspended]
        cases spec.dispatch with
        | stateOnly =>
            refine .of_eq ?_
            dsimp only [applyStandby]
            cases command.message.data <;> rfl
        | adapterCall => exact .append rfl (by simp)
        | supervisorIntercepted => exact .refl d

theorem grown_receive (h : Asleep d) (hopen : d.lifecycleShutdown = false)
    (message : Message) : Grown (Down d) d (d.receive message) := by
  have hhandled : Grown (Down d) d (d.handleCommand ⟨d.requests, message⟩).1 := by
    unfold handleCommand
    split
    · split_ifs
      · split
        · exact grown_onRequested h hopen _
        · exact grown_onRequested h hopen _
        · exact .refl d
      · exact grown_dispatch d _
    · exact grown_dispatch d _
  unfold receive
  split
  · next d' response heq =>
      rw [heq] at hhandled
      exact hhandled.trans (.append rfl (by simp))
  · next d' heq =>
      rw [heq] at hhandled
      exact hhandled.trans (.of_eq rfl)

theorem grown_drained (h : Asleep d) (hopen : d.lifecycleShutdown = false) {p : Post}
    {posts : List Post} (hposts : d.posts = p :: posts) :
    Grown (Down d) d (runPost { d with posts := posts } p) := by
  cases p with
  | suspendDone ticket =>
      have hdown : Down d := h.down_of_posted hopen (hposts ▸ List.mem_cons_self)
      have hreported := h.suspendReported hposts
      change Grown _ d (onSuspendCompleted _)
      rw [onSuspendCompleted_eq_settle]
      refine .trans ?_ ((grown_settle hreported ?_ _).mono fun _ => hdown)
      · unfold suspendReported
        split_ifs
        · exact ⟨_, List.append_assoc _ _ _, fun _ => hdown⟩
        · exact .append rfl (by simp)
      · unfold suspendReported
        split_ifs <;> exact hopen
  | resumeDone ticket adapterValid =>
      have hreported := h.resumeReported_resumedWith hposts
      have hsettled : Grown (Down d) d (settle d.powerLifecycle.pending.length
          (d.resumedWith ticket adapterValid posts).resumeReported) := by
        refine .trans ?_ ((grown_settle hreported ?_ _).mono fun hdown => ?_)
        · unfold resumeReported
          split_ifs
          · refine .append (List.append_assoc _ _ _) ?_
            unfold lockLog
            split_ifs <;> simp
          · exact .append rfl (by simp)
        · unfold resumeReported
          split_ifs <;> exact hopen
        · exact hdown.of_resumeReported
      rw [runPost_resumeDone]
      split_ifs
      · exact hsettled
      · exact hsettled.trans (((reconnectStable_grown _).seedReconnect (.refl _)).mono False.elim)
  | reconnectDone ticket ok =>
      have hdrained : Grown False d { d with posts := posts, log := d.log ++ [.invoked ticket] } :=
        .append rfl (by simp)
      exact ((reconnectStable_grown d).onReconnectEvent hdrained _).mono False.elim
  | reply id response => exact .append rfl (by simp)
  | connectionLost =>
      have hdrained : Grown False d { d with posts := posts } := .of_eq rfl
      exact ((reconnectStable_grown d).onReconnectEvent hdrained _).mono False.elim
  | power kind =>
      have hdrained := h.drained hposts d.log
      have hgrown (request : Pending) :
          Grown (Down d) d ({ d with posts := posts }.onRequested request) :=
        .trans (.of_eq rfl) ((grown_onRequested hdrained hopen request).mono fun hdown =>
          ⟨hdown.connected, hdown.running, hdown.jobs⟩)
      cases kind with
      | suspend => exact hgrown _
      | resume => exact hgrown _

theorem grown_of_works {allowed : Prop} {d' : Daemon} {r : Running} {label : Label}
    (hworks : Works d r label d') : Grown allowed d d' := by
  cases hworks with
  | @finished result throttler hrest =>
      rcases result with e | (_ | p)
      · exact .append rfl (by simp)
      · exact .of_eq rfl
      · exact .of_eq rfl
  | _ => exact .of_eq rfl

/-- Before the shutdown the inhibitor is let go over a closed adapter, unless the safety timer
fires. -/
theorem grown_of_step (h : Asleep d) (hopen : d.lifecycleShutdown = false) {d' : Daemon}
    {label : Label} (hlabel : label ≠ .safetyTimer) (hstep : step d label = some d') :
    Grown (Down d) d d' := by
  cases moves_of_step hstep with
  | wire message => exact grown_receive h hopen message
  | drain hposts => exact grown_drained h hopen hposts
  | safetyTimer => exact absurd rfl hlabel
  | retryTimer =>
      have hconsumed : Grown False d
          { d with reconnectRetryTimer := d.reconnectRetryTimer.consume } := .of_eq rfl
      exact ((reconnectStable_grown d).onReconnectEvent hconsumed _).mono False.elim
  | workerTake hrunning hjobs hstop => exact .append rfl (by simp)
  | stop =>
      rw [stop_eq]
      refine .append rfl ?_
      split_ifs <;> simp
  | working hrunning hworks => exact grown_of_works hworks
  | _ => exact .of_eq rfl

end Daemon

end CecControl
