/-
# Exceptions that end a job

A job posts its completion at its very end, so an exception that no handler on
the way catches takes the completion with it: the worker's loop logs it and goes
on to the next job. Which exceptions these are can be read off the job. The
suspend and resume jobs guard one broadcast each, and against `std::exception`
only; the reconnect job guards nothing; a command guards everything against
`std::exception`.

A rule for properties of the running job and the log comes first, since nothing
else in the daemon matters here.
-/

import CecControl.Daemon.JobPrograms

namespace CecControl

open Lib WorkerM PowerLifecycle

namespace Daemon

/-- A property of the running job and the log that survives everything the worker
does, and everything that is logged without an escape. -/
structure WorkerStable (C : Daemon → Label → Prop) (Q : Option Running → List Effect → Prop) :
    Prop where
  logged : ∀ {running log} (more : List Effect), (∀ job, .escaped job ∉ more) → Q running log →
    Q running (log ++ more)
  taken : ∀ {log} (job : Job) (t : CommandThrottler), Q none log →
    Q (some ⟨job, job.body.program t, .outside⟩) log
  staged : ∀ {r : Running} {log} (stage : ReopenStage), Q (some r) log →
    Q (some { r with stage := stage }) log
  called : ∀ {d : Daemon} {r : Running} {c next outcome}, C d (.workerCall outcome) →
    d.running = some r → r.rest = .call (.adapter c) next → Q (some r) d.log →
    Q (some { r with rest := next outcome, stage := .outside }) d.log
  answered : ∀ {r : Running} {log} (op : Op) {next} (answer : op.Ans),
    ¬ Throws (fun _ _ => True) op answer → r.rest = .call op next → Q (some r) log →
    Q (some { r with rest := next answer }) log
  finished : ∀ {r : Running} {log result throttler}, r.rest = .ret (result, throttler) →
    Q (some r) log →
    Q none (log ++ match result with
      | .error _ => [.escaped r.job]
      | .ok _ => [])

namespace WorkerStable

variable {C : Daemon → Label → Prop} {Q : Option Running → List Effect → Prop}

theorem escaped_not_mem_lockLog (source : Source) (op : Lock) (job : Job) :
    .escaped job ∉ lockLog source op := by
  unfold lockLog
  split_ifs <;> simp

theorem roundStable (h : WorkerStable C Q) : RoundStable fun d => Q d.running d.log where
  suspendNow hd _ _ _ := h.logged _ (by simp [escaped_not_mem_lockLog]) hd
  suspendLater hd _ _ _ := h.logged _ (by simp) hd
  resumeNow hd _ _ _ := h.logged _ (by simp [escaped_not_mem_lockLog]) hd
  resumeLater hd _ _ _ := h.logged _ (by simp) hd

theorem reconnectStable (h : WorkerStable C Q) :
    ReconnectStable fun d => Q d.running d.log where
  quiet _ _ _ hd := hd
  attempt {d} hd := by
    unfold reconnectAsync
    dsimp only [issue, emit]
    split_ifs
    · exact h.logged _ (by simp) (h.logged _ (by simp) hd)
    · exact h.logged _ (by simp) (h.logged _ (by simp) (h.logged _ (by simp) hd))
    · exact h.logged _ (by simp) (h.logged _ (by simp) hd)
    · exact h.logged _ (by simp) hd
  abandon hd := h.logged _ (by simp) hd

theorem settle (h : WorkerStable C Q) (rounds : ℕ) {d : Daemon} (hd : Q d.running d.log) :
    Q (Daemon.settle rounds d).running (Daemon.settle rounds d).log :=
  h.roundStable.settle h.reconnectStable.seedReconnect rounds hd

/-- Such a property is an invariant of the daemon. -/
theorem stepStable (h : WorkerStable C Q) : StepStable C fun d => Q d.running d.log where
  settle rounds hd := h.settle rounds hd
  received _ hd := h.logged _ (by simp) hd
  safetyFired hd := by
    refine h.logged _ (fun job => ?_) hd
    split_ifs <;> simp [escaped_not_mem_lockLog]
  answered _ _ hd := h.logged _ (by simp) hd
  standby _ hd := hd
  parked _ hd _ _ _ _ := h.logged _ (by simp) hd
  live _ hd _ _ _ _ := h.logged _ (by simp) hd
  posted _ hd := hd
  powerDrained hd _ := hd
  replyDrained _ hd _ := h.logged _ (by simp) hd
  suspendDrained {d ticket posts} hd _ := by
    have hinvoked := h.logged [.invoked ticket] (by simp) hd
    unfold suspendReported
    split_ifs
    · refine h.logged _ (fun job => ?_) hinvoked
      split_ifs <;> simp [escaped_not_mem_lockLog]
    · exact hinvoked
  resumeDrained {d ticket adapterValid posts} _ hd _ := by
    refine resumeDrained_of_reported (P := fun d => Q d.running d.log) (fun rounds => h.settle rounds)
      h.reconnectStable.seedReconnect ?_
    have hresumed := h.logged [.resumed adapterValid, .invoked ticket] (by simp) hd
    unfold resumeReported
    split_ifs
    · exact h.logged _ (by simp [escaped_not_mem_lockLog]) hresumed
    · exact hresumed
  reconnectDrained {d ticket ok posts} _ hd _ :=
    h.reconnectStable.onReconnectEvent
      (d := { d with posts := posts, log := d.log ++ [.invoked ticket] })
      (h.logged _ (by simp) hd) _
  lostDrained {d posts} _ hd _ :=
    h.reconnectStable.onReconnectEvent (d := { d with posts := posts }) hd _
  retryTimer {d} _ hd :=
    h.reconnectStable.onReconnectEvent
      (d := { d with reconnectRetryTimer := d.reconnectRetryTimer.consume }) hd _
  safetyExpired hd := hd
  retryExpired _ hd := hd
  taken {d job jobs} hd hrunning _ _ := by
    rw [hrunning] at hd
    refine h.logged _ ?_ (h.taken job d.throttler hd)
    cases job <;> simp [Job.command?]
  reopening hd hrunning _ _ := by
    rw [hrunning] at hd
    exact h.staged _ hd
  opened hd hrunning _ := by
    rw [hrunning] at hd
    exact h.staged _ hd
  called {d r c next outcome} hC hd hrunning hrest _ := by
    rw [hrunning] at hd
    exact h.called (d := d) hC hrunning hrest hd
  ticked time hd hrunning hrest := by
    rw [hrunning] at hd
    exact h.answered .now time id hrest hd
  slept hd hrunning hrest := by
    rw [hrunning] at hd
    exact h.answered (.sleep _) () id hrest hd
  finished {d r result throttler} _ hd hrunning hrest := by
    rw [hrunning] at hd
    have hfinished := h.finished hrest hd
    rcases result with _ | (_ | p)
    · exact hfinished
    · simpa [finishJob] using hfinished
    · simpa [finishJob] using hfinished
  exited hd _ _ := hd
  alerted hd := hd
  alertPosted hd _ := hd
  stopped {d} hd := by
    rw [stop_eq]
    split_ifs
    · exact h.logged [] (by simp) hd
    · exact h.logged _ (by simp) hd

end WorkerStable

end Daemon

/-! ## Jobs and their handlers -/

namespace Job

/-- Nobody waits for a replayed command: it was answered when it was parked. -/
def isReplay : Job → Bool
  | .replay _ _ => true
  | _ => false

/-- The exceptions that end a job somebody waits for. -/
def unguarded : Job → AdapterCall → Exn → Bool
  | .suspend _, .standbyDevices _, .std => false
  | .resume _, .powerOnDevices _, .std => false
  | .live _ _, _, .std => false
  | .replay _ _, _, _ => false
  | _, _, _ => true

/-- A guarded broadcast, whose answer is ignored. -/
private theorem exposed_broadcast {Bad : AdapterCall → Exn → Prop} {c : AdapterCall}
    (hbad : ∀ e, Bad c e ↔ e = .other) :
    Exposed Bad (catchStd (do let _ ← adapter c) (pure ())) := by
  refine Transparent.catchStd ((transparent_adapter c).bind fun _ => exposed_pure _) ?_ ()
  refine (uses_adapter ?_).bind fun _ => uses_pure _
  rintro _ ⟨⟩
  exact hbad

theorem exposed_suspendBody (ticket : ℕ) :
    Exposed (fun c e => (suspend ticket).unguarded c e = true) (suspendBody ticket) := by
  have hclose : Exposed (fun c e => (suspend ticket).unguarded c e = true) (do
      let _ ← adapter .closeConnection
      return some (Post.suspendDone ticket)) :=
    (exposed_adapter fun _ => rfl).bind fun _ => exposed_pure _
  refine (exposed_adapter fun _ => rfl).bind fun connected => ?_
  dsimp only
  split
  · refine (exposed_broadcast fun e => ?_).bind fun _ => hclose
    cases e <;> simp [unguarded]
  · exact hclose

theorem exposed_resumeBody (ticket : ℕ) :
    Exposed (fun c e => (resume ticket).unguarded c e = true) (resumeBody ticket) := by
  have hread : Exposed (fun c e => (resume ticket).unguarded c e = true) (do
      return some (Post.resumeDone ticket (← adapter .isConnected))) :=
    (exposed_adapter fun _ => rfl).bind fun _ => exposed_pure _
  refine (exposed_adapter fun _ => rfl).bind fun reconnected => ?_
  dsimp only
  split
  · refine (exposed_broadcast fun e => ?_).bind fun _ => hread
    cases e <;> simp [unguarded]
  · exact hread

theorem exposed_executeOnAdapter (message : Message) (spec : DispatchSpec) :
    Exposed (fun _ e => e = .other) (executeOnAdapter message spec) := by
  have hgated {rest : WorkerM Message} (hrest : Transparent rest) :
      Transparent (do
        if spec.requiresAdapterConnection then
          if !(← adapter .isConnected) then return Daemon.respError
        rest) := by
    apply Exposed.ite _ hrest
    exact (transparent_adapter _).bind fun _ => (exposed_pure _).ite hrest
  refine Transparent.catchStd ?_ (fun t => ?_) _
  · cases spec.adapterHandler with
    | none => exact hgated (exposed_pure _)
    | some handler =>
        exact hgated ((AdapterHandler.transparent_run _ message).bind fun _ =>
          (exposed_pure _).ite (exposed_pure _))
  · exact Program.calls_of_forall (by simp) _

/-- **Handlers.** A job somebody waits for is ended by the exceptions it does not
guard against, and by no others. -/
theorem exposed_body {job : Job} (h : job.isReplay = false) :
    Exposed (fun c e => job.unguarded c e = true) job.body := by
  cases job with
  | suspend ticket => exact exposed_suspendBody ticket
  | resume ticket => exact exposed_resumeBody ticket
  | reconnect ticket => exact (exposed_adapter fun _ => rfl).bind fun _ => exposed_pure _
  | live command spec =>
      have hbad : (fun (c : AdapterCall) e => (live command spec).unguarded c e = true) =
          fun _ e => e = .other := by
        funext c e
        cases e <;> simp [unguarded]
      rw [hbad]
      exact (exposed_executeOnAdapter _ _).bind fun _ => exposed_pure _
  | replay command spec => simp [isReplay] at h

end Job

/-! ## Escapes along a run -/

namespace Daemon

/-- No adapter call throws what its job does not guard against. -/
def guarded (d : Daemon) : Label → Bool
  | .workerCall (.error e) =>
      match d.running with
      | some r =>
          match r.rest with
          | .call (.adapter c) _ => !r.job.unguarded c e
          | _ => true
      | none => true
  | _ => true

/-- The program has ended in an exception. -/
def Doomed (rest : JobProgram) : Prop := ∃ e throttler, rest = .ret (.error e, throttler)

/-- Somebody waits for a completion that an exception has taken along. -/
def Orphaned (running : Option Running) (log : List Effect) : Prop :=
  (∃ r, running = some r ∧ r.job.isReplay = false ∧ Doomed r.rest) ∨
    ∃ job, .escaped job ∈ log ∧ job.isReplay = false

theorem orphaned_workerStable : WorkerStable (fun _ _ => True) Orphaned where
  logged more _ h := h.imp_right fun ⟨job, hmem, hjob⟩ => ⟨job, List.mem_append_left _ hmem, hjob⟩
  taken _ _ h := by
    rcases h with ⟨_, ⟨⟩, _⟩ | hescaped
    exact Or.inr hescaped
  staged _ h := by
    rcases h with ⟨_, ⟨⟩, hjob, hdoomed⟩ | hescaped
    · exact Or.inl ⟨_, rfl, hjob, hdoomed⟩
    · exact Or.inr hescaped
  called _ _ hrest h := by
    rcases h with ⟨_, ⟨⟩, _, _, _, hdoomed⟩ | hescaped
    · simp [hrest] at hdoomed
    · exact Or.inr hescaped
  answered {r log} op {next} answer _ hrest h := by
    rcases h with ⟨_, ⟨⟩, _, _, _, hdoomed⟩ | hescaped
    · simp [hrest] at hdoomed
    · exact Or.inr hescaped
  finished {r log result throttler} hrest h := by
    refine Or.inr ?_
    rcases h with ⟨_, ⟨⟩, hjob, e, t, hdoomed⟩ | ⟨job, hmem, hjob⟩
    · rw [hrest, Program.ret.injEq, Prod.mk.injEq] at hdoomed
      rw [hdoomed.1]
      exact ⟨r.job, by simp, hjob⟩
    · exact ⟨job, List.mem_append_left _ hmem, hjob⟩

/-- Jobs somebody waits for do what their handlers let them, and as long as the
run is watched none of them is lost. -/
structure Kept (watched : Prop) (running : Option Running) (log : List Effect) : Prop where
  exposes : ∀ r, running = some r → r.job.isReplay = false →
    r.rest.Settles (Throws fun c e => r.job.unguarded c e = true) Propagates Job.EndsWell ∨
      ¬ watched ∧ Doomed r.rest
  unescaped : watched → ∀ job, .escaped job ∈ log → job.isReplay = true

/-- What an adapter call of a job somebody waits for leaves of the job. -/
theorem settles_called {job : Job} {c : AdapterCall} {next : Outcome → JobProgram}
    (h : (Program.call (.adapter c) next : JobProgram).Settles
      (Throws fun c e => job.unguarded c e = true) Propagates Job.EndsWell) (outcome : Outcome) :
    (∃ e, outcome = .error e ∧ job.unguarded c e = true ∧ Doomed (next outcome)) ∨
      (next outcome).Settles (Throws fun c e => job.unguarded c e = true) Propagates
        Job.EndsWell := by
  cases outcome with
  | ok value => exact Or.inr ((h (.ok value)).2 id)
  | error e =>
      by_cases hbad : job.unguarded c e = true
      · obtain ⟨⟨result, t⟩, hnext, hresult⟩ := (h (.error e)).1 hbad
        obtain rfl : result = .error e := hresult
        exact Or.inl ⟨e, rfl, hbad, e, t, hnext⟩
      · exact Or.inr ((h (.error e)).2 hbad)

theorem Kept.workerStable (watched : Prop) :
    WorkerStable (fun d label => watched → d.guarded label = true) (Kept watched) where
  logged more hmore h := by
    refine ⟨h.exposes, fun hwatched job hmem => ?_⟩
    rcases List.mem_append.mp hmem with hold | hnew
    · exact h.unescaped hwatched job hold
    · exact absurd hnew (hmore job)
  taken job t h := by
    refine ⟨?_, h.unescaped⟩
    rintro _ ⟨⟩ hjob
    exact Or.inl (Job.exposed_body hjob t)
  staged {r log} stage h := by
    refine ⟨?_, h.unescaped⟩
    rintro _ ⟨⟩ hjob
    exact h.exposes r rfl hjob
  called {d r c next outcome} hC hrunning hrest h := by
    refine ⟨?_, h.unescaped⟩
    rintro _ ⟨⟩ hjob
    rcases h.exposes r rfl hjob with hsettles | ⟨_, _, _, hdoomed⟩
    · rw [hrest] at hsettles
      rcases settles_called hsettles outcome with ⟨e, rfl, hbad, hdoomed⟩ | hrest'
      · refine Or.inr ⟨fun hwatched => ?_, hdoomed⟩
        simpa [guarded, hrunning, hrest, hbad] using hC hwatched
      · exact Or.inl hrest'
    · simp [hrest] at hdoomed
  answered {r log} op {next} answer hquiet hrest h := by
    refine ⟨?_, h.unescaped⟩
    rintro _ ⟨⟩ hjob
    rcases h.exposes r rfl hjob with hsettles | ⟨_, _, _, hdoomed⟩
    · rw [hrest] at hsettles
      refine Or.inl ((hsettles answer).2 fun hthrows => hquiet ?_)
      exact hthrows.mono fun _ _ _ => trivial
    · simp [hrest] at hdoomed
  finished {r log result throttler} hrest h := by
    refine ⟨by simp, fun hwatched job hmem => ?_⟩
    rcases List.mem_append.mp hmem with hold | hnew
    · exact h.unescaped hwatched job hold
    · cases result with
      | ok p => simp at hnew
      | error e =>
          obtain rfl : job = r.job := by simpa using hnew
          by_contra hjob
          rcases h.exposes r rfl (by simpa using hjob) with hsettles | ⟨hunwatched, _⟩
          · rw [hrest] at hsettles
            obtain ⟨p, hp⟩ := hsettles
            cases hp
          · exact hunwatched hwatched

/-- An unguarded exception orphans its job. -/
theorem orphaned_of_unguarded {d next : Daemon} {label : Label}
    (h : Kept False d.running d.log) (hbad : ¬ d.guarded label = true)
    (hstep : machine.step d label = some next) : Orphaned next.running next.log := by
  obtain ⟨e, r, c, k, rfl, hrunning, hrest, hunguarded⟩ :
      ∃ e r c k, label = .workerCall (.error e) ∧ d.running = some r ∧
        r.rest = .call (.adapter c) k ∧ r.job.unguarded c e = true := by
    unfold guarded at hbad
    split at hbad
    · split at hbad
      · next r hrunning =>
          split at hbad
          · next c k hrest => exact ⟨_, r, c, k, rfl, hrunning, hrest, by simpa using hbad⟩
          · simp at hbad
      · simp at hbad
    · simp at hbad
  have hjob : r.job.isReplay = false := by
    cases hj : r.job <;> simp_all [Job.unguarded, Job.isReplay]
  simp only [machine, step, hrunning, workerStep, hrest] at hstep
  split_ifs at hstep
  rw [← Option.some.inj hstep]
  rcases h.exposes r hrunning hjob with hsettles | ⟨_, _, _, hdoomed⟩
  · rw [hrest] at hsettles
    obtain ⟨⟨result, t⟩, hnext, hresult⟩ := (hsettles (.error e)).1 hunguarded
    obtain rfl : result = .error e := hresult
    exact Or.inl ⟨_, rfl, hjob, e, t, hnext⟩
  · simp [hrest] at hdoomed

/-- **Escapes.** A run loses the completion of a job somebody waits for if and only
if an adapter call in it throws what its job does not guard against. -/
theorem not_orphaned_iff_guarded {setup : Setup} {labels : List Label} {d : Daemon}
    (hrun : machine.run (boot setup) labels = some d) :
    ¬ Orphaned d.running d.log ↔
      machine.Meets (fun d label => d.guarded label = true) (boot setup) labels := by
  have hboot (watched : Prop) : Kept watched (boot setup).running (boot setup).log := by
    refine ⟨?_, ?_⟩ <;> simp [boot]
  constructor
  · intro hfree
    refine machine.meets_of_unmarked (I := fun d => Kept False d.running d.log)
      (fun d => Orphaned d.running d.log) ?_ ?_ orphaned_of_unguarded (hboot False) hrun hfree
    · intro d label next hkept hstep
      exact (Kept.workerStable False).stepStable.step hkept False.elim hstep
    · intro d label next horphaned hstep
      exact orphaned_workerStable.stepStable.step horphaned trivial hstep
  · intro hmeets horphaned
    have hkept := (Kept.workerStable True).stepStable.run (hboot True)
      (machine.meets_mono (fun _ _ hC _ => hC) hmeets) hrun
    rcases horphaned with ⟨r, hrunning, hjob, hdoomed⟩ | ⟨job, hmem, hjob⟩
    · rcases hkept.exposes r hrunning hjob with hsettles | ⟨hunwatched, _⟩
      · obtain ⟨e, t, hrest⟩ := hdoomed
        rw [hrest] at hsettles
        obtain ⟨p, hp⟩ := hsettles
        cases hp
      · exact hunwatched trivial
    · simp [hkept.unescaped trivial job hmem] at hjob

end Daemon

end CecControl
