/-
# One rule for every step of the daemon

Most properties of the daemon are invariants, and most steps have nothing to do
with any given one. `StepStable` lists, in the terms in which invariants are
stated, everything a step can do: a request received and then the queue worked
off, a command accepted, a completion drained, a job taken, an adapter call
answered. A property stable under that list is preserved by every step, and so
along every run.

The rule is conditioned: it may assume of each step what `C` says of the state
before it and its label.
-/

import CecControl.Daemon.System

namespace CecControl.Daemon

open Lib PowerLifecycle

/-! ## What a step is -/

/-- What a step of the worker's program `r` is. -/
inductive Works (d : Daemon) (r : Running) : Label → Daemon → Prop
  | reopening {next} (hrest : r.rest = .call (.adapter .reopenConnection) next)
      (hstage : r.stage = .outside) :
      Works d r .workerReopen { d with running := some { r with stage := .closed }, connected := false }
  | opened (hstage : r.stage = .closed) :
      Works d r .workerOpened { d with running := some { r with stage := .opened }, connected := true }
  | called {c next outcome} (hrest : r.rest = .call (.adapter c) next)
      (hpossible : d.possibleOutcome r.stage c outcome = true) :
      Works d r (.workerCall outcome)
        { d with running := some { r with rest := next outcome, stage := .outside }
                 connected := d.connectedAfter c outcome }
  | ticked {next} (time : ℕ) (hrest : r.rest = .call .now next) :
      Works d r (.workerClock time) { d with running := some { r with rest := next time } }
  | slept {ms next} (hrest : r.rest = .call (.sleep ms) next) :
      Works d r .workerSleep { d with running := some { r with rest := next () } }
  | finished {result throttler} (hrest : r.rest = .ret (result, throttler)) :
      Works d r .workerFinish (d.finishJob r.job result throttler)

/-- What a step of the daemon is. -/
inductive Moves (d : Daemon) : Label → Daemon → Prop
  | wire (message : Message) : Moves d (.wire message) (d.receive message)
  | dbusSignal (kind : EventKind) : Moves d (.dbusSignal kind) (d.post (.power kind))
  | drain {p posts} (hposts : d.posts = p :: posts) :
      Moves d .drain (runPost { d with posts := posts } p)
  | safetyTimer : Moves d .safetyTimer d.onSafetyTimerFired
  | retryTimer : Moves d .retryTimer d.onReconnectRetryTimerFired
  | safetyExpire {ms} (htimer : d.suspendSafetyTimer = .armed ms) :
      Moves d .safetyExpire { d with suspendSafetyTimer := .expired }
  | retryExpire {ms} (htimer : d.reconnectRetryTimer = .armed ms) :
      Moves d .retryExpire { d with reconnectRetryTimer := .expired }
  | workerTake {job jobs} (hrunning : d.running = none) (hjobs : d.jobs = job :: jobs)
      (hstop : d.stopRequested = false) : Moves d .workerTake (d.takeJob job jobs)
  | workerExit (hrunning : d.running = none) (hstop : d.stopRequested = true) :
      Moves d .workerExit { d with connected := false }
  | alertStore : Moves d .alertStore { d with connected := false, alerting := d.alerting + 1 }
  | alertPost {alerting} (halerting : d.alerting = alerting + 1) :
      Moves d .alertPost (Daemon.post { d with alerting := alerting } .connectionLost)
  | stop : Moves d .stop d.stop
  | working {r label d'} (hrunning : d.running = some r) (hworks : Works d r label d') :
      Moves d label d'

theorem works_of_workerStep {d d' : Daemon} {r : Running} {label : Label}
    (hstep : d.workerStep r label = some d') : Works d r label d' := by
  unfold workerStep at hstep
  split at hstep
  · split at hstep
    · next hrest hstage => exact Option.some.inj hstep ▸ .reopening hrest hstage
    · cases hstep
  · split at hstep
    · next hstage => exact Option.some.inj hstep ▸ .opened hstage
    · cases hstep
  · split at hstep
    · next hrest =>
        split_ifs at hstep with hpossible
        exact Option.some.inj hstep ▸ .called hrest hpossible
    · cases hstep
  · split at hstep
    · next hrest => exact Option.some.inj hstep ▸ .ticked _ hrest
    · cases hstep
  · split at hstep
    · next hrest => exact Option.some.inj hstep ▸ .slept hrest
    · cases hstep
  · split at hstep
    · next hrest => exact Option.some.inj hstep ▸ .finished hrest
    · cases hstep
  · cases hstep

/-- **Inversion.** Every step, with what it needs and what it does. -/
theorem moves_of_step {d d' : Daemon} {label : Label} (hstep : step d label = some d') :
    Moves d label d' := by
  have hworking (heq : step d label = d.running.bind fun r => d.workerStep r label) :
      Moves d label d' := by
    rw [heq] at hstep
    obtain ⟨r, hrunning, hworked⟩ := Option.bind_eq_some_iff.mp hstep
    exact .working hrunning (works_of_workerStep hworked)
  cases label with
  | wire message => exact Option.some.inj hstep ▸ .wire message
  | dbusSignal kind => exact Option.some.inj hstep ▸ .dbusSignal kind
  | drain =>
      cases hposts : d.posts with
      | nil => simp [step, hposts] at hstep
      | cons p posts =>
          simp only [step, hposts, Option.some.injEq] at hstep
          exact hstep ▸ .drain hposts
  | safetyTimer => exact Option.some.inj hstep ▸ .safetyTimer
  | retryTimer => exact Option.some.inj hstep ▸ .retryTimer
  | safetyExpire =>
      cases htimer : d.suspendSafetyTimer with
      | armed ms =>
          simp only [step, htimer, Option.some.injEq] at hstep
          exact hstep ▸ .safetyExpire htimer
      | _ => simp [step, htimer] at hstep
  | retryExpire =>
      cases htimer : d.reconnectRetryTimer with
      | armed ms =>
          simp only [step, htimer, Option.some.injEq] at hstep
          exact hstep ▸ .retryExpire htimer
      | _ => simp [step, htimer] at hstep
  | workerTake =>
      dsimp only [step] at hstep
      split at hstep
      · next hrunning hjobs =>
          split_ifs at hstep with hstop
          exact Option.some.inj hstep ▸ .workerTake hrunning hjobs (by simpa using hstop)
      · cases hstep
  | workerExit =>
      dsimp only [step] at hstep
      split at hstep
      · next hrunning =>
          split_ifs at hstep with hstop
          exact Option.some.inj hstep ▸ .workerExit hrunning hstop
      · cases hstep
  | alertStore => exact Option.some.inj hstep ▸ .alertStore
  | alertPost =>
      cases halerting : d.alerting with
      | zero => simp [step, halerting] at hstep
      | succ alerting =>
          simp only [step, halerting, Option.some.injEq] at hstep
          exact hstep ▸ .alertPost halerting
  | stop => exact Option.some.inj hstep ▸ .stop
  | workerReopen | workerOpened | workerCall _ | workerClock _ | workerSleep | workerFinish =>
      exact hworking (by cases hrunning : d.running <;> simp [step, hrunning])

/-! ## What becomes of a message -/

/-- The power request that the step hands to the supervisor. -/
def request? (d : Daemon) : Label → Option Pending
  | .wire message =>
      match message.type with
      | .cmdSuspend => some ⟨.suspend, .wire⟩
      | .cmdResume => some ⟨.resume, .wire⟩
      | _ => none
  | .drain =>
      match d.posts with
      | .power kind :: _ => some ⟨kind, .dbus⟩
      | _ => none
  | _ => none

theorem runPost_power (d : Daemon) (kind : EventKind) :
    d.runPost (.power kind) = d.onRequested ⟨kind, .dbus⟩ := by
  cases kind <;> rfl

/-- What the dispatcher makes of a message. -/
inductive Dispatches (d : Daemon) (message : Message) : Daemon → Prop
  | answered (response : Message) : Dispatches d message (d.answer response)
  | standby (enabled : Bool) (response : Message) :
      Dispatches d message (answer { d with standbyEnabled := enabled } response)
  | parked {spec} (hopen : d.dispatcherShutdown = false) (hsuspended : d.suspended = true)
      (hfind : findDispatchByType message.type = some spec)
      (hqueue : spec.queueableWhileSuspended = true) :
      Dispatches d message
        { d with queued := d.queued ++ [⟨d.requests, message⟩]
                 requests := d.requests + 1
                 log := d.log ++ [.accepted ⟨d.requests, message⟩ true,
                   .replied d.requests respSuccess] }
  | live {spec} (hopen : d.dispatcherShutdown = false) (hsuspended : d.suspended = false)
      (hfind : findDispatchByType message.type = some spec) (hcall : spec.dispatch = .adapterCall) :
      Dispatches d message
        { d with jobs := if d.stopRequested then d.jobs
                   else d.jobs ++ [.live ⟨d.requests, message⟩ spec]
                 requests := d.requests + 1
                 log := d.log ++ [.accepted ⟨d.requests, message⟩ false] }

/-- What becomes of a message: a power request goes to the supervisor, anything else to the
dispatcher. -/
inductive Receives (d : Daemon) (message : Message) (d' : Daemon) : Prop
  | requested {request} (hrequest : d.request? (.wire message) = some request)
      (heq : d' = (d.onRequested request).answer respSuccess)
  | dispatched (hrequest : d.request? (.wire message) = none)
      (hdispatches : Dispatches d message d')

/-- What a request is handed back with. -/
private def respond : Daemon × Option Message → Daemon
  | (d, some response) => d.answer response
  | (d, none) => { d with requests := d.requests + 1 }

private theorem dispatches_inline {d : Daemon} {message : Message} {spec : DispatchSpec}
    (hopen : d.dispatcherShutdown = false) (hsuspended : d.suspended = true)
    (hfind : findDispatchByType message.type = some spec) :
    Dispatches d message ((d.handleSuspendedInline ⟨d.requests, message⟩ spec).1.answer
      (d.handleSuspendedInline ⟨d.requests, message⟩ spec).2) := by
  unfold handleSuspendedInline
  by_cases hqueue : (d.queueCommandsDuringSuspend && spec.queueableWhileSuspended) = true
  · have hparked := Dispatches.parked hopen hsuspended hfind (Bool.and_eq_true_iff.mp hqueue).2
    rw [if_pos hqueue]
    simpa [answer, hsuspended] using hparked
  · rw [if_neg hqueue]
    exact .answered _

private theorem dispatches_standby (d : Daemon) (message : Message) :
    Dispatches d message ((d.applyStandby message).1.answer (d.applyStandby message).2) := by
  unfold applyStandby
  split
  · exact .answered _
  · exact .standby _ _

private theorem dispatches_respond (d : Daemon) (message : Message) :
    Dispatches d message (respond (d.dispatch ⟨d.requests, message⟩)) := by
  unfold Daemon.dispatch
  cases hshut : d.dispatcherShutdown with
  | true => exact .answered _
  | false =>
      rw [if_neg (by simp)]
      cases hfind : findDispatchByType message.type with
      | none => exact .answered _
      | some spec =>
          dsimp only
          by_cases hintercepted : spec.dispatch = .supervisorIntercepted
          · rw [if_pos hintercepted]
            exact .answered _
          rw [if_neg hintercepted]
          cases hsuspended : d.suspended with
          | true =>
              rw [if_pos rfl]
              exact dispatches_inline hshut hsuspended hfind
          | false =>
              rw [if_neg (by simp)]
              cases hclass : spec.dispatch with
              | stateOnly => exact dispatches_standby d message
              | adapterCall => exact .live hshut hsuspended hfind hclass
              | supervisorIntercepted => exact absurd hclass hintercepted

/-- A message that the table does not intercept is no power request. -/
private theorem request?_of_not_intercepted {d : Daemon} {message : Message}
    (h : ∀ spec, findDispatchByType message.type = some spec →
      spec.dispatch ≠ .supervisorIntercepted) : d.request? (.wire message) = none := by
  cases htype : message.type with
  | cmdSuspend => exact absurd rfl (h ⟨.cmdSuspend, .supervisorIntercepted, false, false, none⟩
      (by rw [htype]; rfl))
  | cmdResume => exact absurd rfl (h ⟨.cmdResume, .supervisorIntercepted, false, false, none⟩
      (by rw [htype]; rfl))
  | _ => simp only [request?, htype]

/-- **Inversion** for the wire entry point. -/
theorem receives (d : Daemon) (message : Message) : Receives d message (d.receive message) := by
  change Receives d message (respond (d.handleCommand ⟨d.requests, message⟩))
  unfold handleCommand
  dsimp only
  cases hfind : findDispatchByType message.type with
  | none =>
      exact .dispatched (request?_of_not_intercepted fun spec h => by simp [hfind] at h)
        (dispatches_respond d message)
  | some spec =>
      dsimp only
      by_cases hintercepted : spec.dispatch = .supervisorIntercepted
      · rw [if_pos hintercepted]
        cases htype : message.type with
        | cmdSuspend => exact .requested (by simp only [request?, htype]) rfl
        | cmdResume => exact .requested (by simp only [request?, htype]) rfl
        | _ => exact .dispatched (by simp only [request?, htype]) (.answered _)
      · rw [if_neg hintercepted]
        refine .dispatched (request?_of_not_intercepted fun spec' h => ?_)
          (dispatches_respond d message)
        obtain rfl := Option.some.inj (hfind.symm.trans h)
        exact hintercepted

/-! ## The rule -/

/-- A property that everything a step can do preserves. -/
structure StepStable (C : Daemon → Label → Prop) (P : Daemon → Prop) : Prop where
  settle : ∀ {d} (rounds : ℕ), P d → P (settle rounds d)
  received : ∀ {d} (request : Pending), P d → P (d.received request)
  safetyFired : ∀ {d}, P d → P d.safetyFired
  -- the dispatcher
  answered : ∀ {d} (response : Message), (∃ before message, C before (.wire message)) → P d →
    P (d.answer response)
  standby : ∀ {d : Daemon} (enabled : Bool), P d → P { d with standbyEnabled := enabled }
  parked : ∀ {d : Daemon} {message : Message} {spec : DispatchSpec}, C d (.wire message) → P d →
    d.dispatcherShutdown = false → d.suspended = true →
    findDispatchByType message.type = some spec → spec.queueableWhileSuspended = true →
    P { d with queued := d.queued ++ [⟨d.requests, message⟩],
               requests := d.requests + 1,
               log := d.log ++ [.accepted ⟨d.requests, message⟩ true,
                 .replied d.requests respSuccess] }
  live : ∀ {d : Daemon} {message : Message} {spec : DispatchSpec}, C d (.wire message) → P d →
    d.dispatcherShutdown = false → d.suspended = false →
    findDispatchByType message.type = some spec → spec.dispatch = .adapterCall →
    P { d with jobs := if d.stopRequested then d.jobs
                 else d.jobs ++ [.live ⟨d.requests, message⟩ spec],
               requests := d.requests + 1,
               log := d.log ++ [.accepted ⟨d.requests, message⟩ false] }
  -- posted closures
  posted : ∀ {d : Daemon} (kind : EventKind), P d → P (d.post (.power kind))
  powerDrained : ∀ {d : Daemon} {kind posts}, P d → d.posts = .power kind :: posts →
    P { d with posts := posts }
  replyDrained : ∀ {d : Daemon} {id response posts}, C d .drain → P d →
    d.posts = .reply id response :: posts →
    P { d with posts := posts, log := d.log ++ [.replied id response] }
  suspendDrained : ∀ {d : Daemon} {ticket posts}, P d → d.posts = .suspendDone ticket :: posts →
    P (suspendReported { d with posts := posts, log := d.log ++ [.invoked ticket] })
  resumeDrained : ∀ {d : Daemon} {ticket adapterValid posts}, C d .drain → P d →
    d.posts = .resumeDone ticket adapterValid :: posts →
    P (runPost { d with posts := posts } (.resumeDone ticket adapterValid))
  reconnectDrained : ∀ {d : Daemon} {ticket ok posts}, C d .drain → P d →
    d.posts = .reconnectDone ticket ok :: posts →
    P (onReconnectResult { d with posts := posts, log := d.log ++ [.invoked ticket] } ok)
  lostDrained : ∀ {d : Daemon} {posts}, C d .drain → P d → d.posts = .connectionLost :: posts →
    P (onConnectionLost { d with posts := posts })
  -- timers
  retryTimer : ∀ {d}, C d .retryTimer → P d → P d.onReconnectRetryTimerFired
  safetyExpired : ∀ {d : Daemon}, P d → P { d with suspendSafetyTimer := .expired }
  retryExpired : ∀ {d : Daemon} {ms}, d.reconnectRetryTimer = .armed ms → P d →
    P { d with reconnectRetryTimer := .expired }
  -- the worker
  taken : ∀ {d : Daemon} {job jobs}, P d → d.running = none → d.jobs = job :: jobs →
    d.stopRequested = false → P (d.takeJob job jobs)
  reopening : ∀ {d : Daemon} {r next}, P d → d.running = some r →
    r.rest = .call (.adapter .reopenConnection) next → r.stage = .outside →
    P { d with running := some { r with stage := .closed }, connected := false }
  opened : ∀ {d : Daemon} {r}, P d → d.running = some r → r.stage = .closed →
    P { d with running := some { r with stage := .opened }, connected := true }
  called : ∀ {d : Daemon} {r c next outcome}, C d (.workerCall outcome) → P d →
    d.running = some r → r.rest = .call (.adapter c) next →
    d.possibleOutcome r.stage c outcome = true →
    P { d with running := some { r with rest := next outcome, stage := .outside },
               connected := d.connectedAfter c outcome }
  ticked : ∀ {d : Daemon} {r next} (time : ℕ), P d → d.running = some r →
    r.rest = .call .now next → P { d with running := some { r with rest := next time } }
  slept : ∀ {d : Daemon} {r ms next}, P d → d.running = some r →
    r.rest = .call (.sleep ms) next → P { d with running := some { r with rest := next () } }
  finished : ∀ {d : Daemon} {r result throttler}, C d .workerFinish → P d →
    d.running = some r → r.rest = .ret (result, throttler) →
    P (d.finishJob r.job result throttler)
  exited : ∀ {d : Daemon}, P d → d.running = none → d.stopRequested = true →
    P { d with connected := false }
  -- libcec's alert thread, and shutdown
  alerted : ∀ {d : Daemon}, P d → P { d with connected := false, alerting := d.alerting + 1 }
  alertPosted : ∀ {d : Daemon} {alerting}, P d → d.alerting = alerting + 1 →
    P { d with alerting := alerting, posts := d.posts ++ [.connectionLost] }
  stopped : ∀ {d}, P d → P d.stop

namespace StepStable

variable {C : Daemon → Label → Prop} {P : Daemon → Prop}

/-- A rule that assumes less of each step still applies. -/
theorem of_condition {C' : Daemon → Label → Prop} (hC : ∀ d label, C' d label → C d label)
    (h : StepStable C P) : StepStable C' P :=
  { h with
    answered := fun response ⟨before, message, hmeets⟩ =>
      h.answered response ⟨before, message, hC _ _ hmeets⟩
    parked := fun hmeets => h.parked (hC _ _ hmeets)
    live := fun hmeets => h.live (hC _ _ hmeets)
    replyDrained := fun hmeets => h.replyDrained (hC _ _ hmeets)
    resumeDrained := fun hmeets => h.resumeDrained (hC _ _ hmeets)
    reconnectDrained := fun hmeets => h.reconnectDrained (hC _ _ hmeets)
    lostDrained := fun hmeets => h.lostDrained (hC _ _ hmeets)
    retryTimer := fun hmeets => h.retryTimer (hC _ _ hmeets)
    called := fun hmeets => h.called (hC _ _ hmeets)
    finished := fun hmeets => h.finished (hC _ _ hmeets) }

theorem onRequested (h : StepStable C P) {d : Daemon} (hd : P d) (request : Pending) :
    P (d.onRequested request) := by
  rw [onRequested_eq_settle]
  exact h.settle _ (h.received request hd)

theorem dispatches (h : StepStable C P) {d d' : Daemon} {message : Message}
    (hC : C d (.wire message)) (hd : P d) (hdispatches : Dispatches d message d') : P d' := by
  cases hdispatches with
  | answered response => exact h.answered _ ⟨_, _, hC⟩ hd
  | standby enabled response => exact h.answered _ ⟨_, _, hC⟩ (h.standby _ hd)
  | parked hopen hsuspended hfind hqueue => exact h.parked hC hd hopen hsuspended hfind hqueue
  | live hopen hsuspended hfind hcall => exact h.live hC hd hopen hsuspended hfind hcall

theorem receive (h : StepStable C P) {d : Daemon} {message : Message}
    (hC : C d (.wire message)) (hd : P d) : P (d.receive message) := by
  cases d.receives message with
  | requested _ heq => exact heq ▸ h.answered _ ⟨_, _, hC⟩ (h.onRequested hd _)
  | dispatched _ hdispatches => exact h.dispatches hC hd hdispatches

theorem drained (h : StepStable C P) {d : Daemon} {p : Post} {posts : List Post}
    (hC : C d .drain) (hd : P d) (hposts : d.posts = p :: posts) :
    P (runPost { d with posts := posts } p) := by
  cases p with
  | suspendDone ticket =>
      change P (onSuspendCompleted _)
      rw [onSuspendCompleted_eq_settle]
      exact h.settle _ (h.suspendDrained (d := d) hd hposts)
  | resumeDone ticket adapterValid => exact h.resumeDrained hC hd hposts
  | reconnectDone ticket ok => exact h.reconnectDrained (d := d) hC hd hposts
  | reply id response => exact h.replyDrained (d := d) hC hd hposts
  | connectionLost => exact h.lostDrained hC hd hposts
  | power kind =>
      rw [runPost_power]
      exact h.onRequested (h.powerDrained (d := d) hd hposts) _

theorem works (h : StepStable C P) {d d' : Daemon} {r : Running} {label : Label}
    (hC : C d label) (hd : P d) (hrunning : d.running = some r) (hworks : Works d r label d') :
    P d' := by
  cases hworks with
  | reopening hrest hstage => exact h.reopening hd hrunning hrest hstage
  | opened hstage => exact h.opened hd hrunning hstage
  | called hrest hpossible => exact h.called hC hd hrunning hrest hpossible
  | ticked time hrest => exact h.ticked time hd hrunning hrest
  | slept hrest => exact h.slept hd hrunning hrest
  | finished hrest => exact h.finished hC hd hrunning hrest

/-- **Step rule.** A stable property is preserved by every step that meets the
condition. -/
theorem step (h : StepStable C P) {d d' : Daemon} {label : Label} (hd : P d) (hC : C d label)
    (hstep : machine.step d label = some d') : P d' := by
  cases moves_of_step hstep with
  | wire message => exact h.receive hC hd
  | dbusSignal kind => exact h.posted kind hd
  | drain hposts => exact h.drained hC hd hposts
  | safetyTimer =>
      rw [onSafetyTimerFired_eq_settle]
      exact h.settle _ (h.safetyFired hd)
  | retryTimer => exact h.retryTimer hC hd
  | safetyExpire htimer => exact h.safetyExpired hd
  | retryExpire htimer => exact h.retryExpired htimer hd
  | workerTake hrunning hjobs hstop => exact h.taken hd hrunning hjobs hstop
  | workerExit hrunning hstop => exact h.exited hd hrunning hstop
  | alertStore => exact h.alerted hd
  | alertPost halerting => exact h.alertPosted (d := d) hd halerting
  | stop => exact h.stopped hd
  | working hrunning hworks => exact h.works hC hd hrunning hworks

/-- **Run rule.** A stable property that holds at boot holds after every run whose
steps meet the condition. -/
theorem run (h : StepStable C P) {setup : Setup} {labels : List Label} {d : Daemon}
    (hboot : P (boot setup)) (hmeets : machine.Meets C (boot setup) labels)
    (hrun : machine.run (boot setup) labels = some d) : P d :=
  machine.invariant_of_meets (fun hP hC hstep => h.step hP hC hstep) hboot hmeets hrun

/-- The run rule without a condition. -/
theorem always (h : StepStable (fun _ _ => True) P) {setup : Setup} {labels : List Label}
    {d : Daemon} (hboot : P (boot setup)) (hrun : machine.run (boot setup) labels = some d) :
    P d :=
  machine.invariant_of_step (fun hP hstep => h.step hP trivial hstep) hboot hrun

end StepStable

end CecControl.Daemon
