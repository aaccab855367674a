/-
# The event loop's batches

The loop asks the kernel which descriptors are ready and then runs their handlers
one after another. What the kernel said was true when it was asked: a timer that
was readable then may have been set again by a handler that ran before its own,
and a closure posted meanwhile is not among those the batch's drain has swapped
out of the queue. The machine here adds that to the daemon: a batch is collected,
its handlers run, and the worker and libcec's threads move at any time.

The daemon is followed together with what the supervisor records about its timers:
which suspend cycle the safety timer was last set by, and whether a retry has been
scheduled since the retry timer was reported.
-/

import CecControl.Daemon.SupervisorRefinement
import CecControl.Daemon.Coupling

namespace CecControl

open Lib PowerLifecycle

namespace Daemon

/-! ## A step as a call of the supervisor -/

/-- A step that enters the supervisor: what it does first, the function it calls, and what
it does when that is back. -/
structure Call where
  before : Daemon
  entry : PowerSupervisor.Entry
  after : Daemon → Daemon := id

/-- The call a closure makes. -/
def postCall (d : Daemon) : Post → Option Call
  | .suspendDone ticket => some { before := d.emit (.invoked ticket), entry := .suspendCompleted }
  | .resumeDone ticket adapterValid =>
      some {
        before := ((d.onResumeWorkerComplete adapterValid).1.emit (.invoked ticket)).replay
          (d.onResumeWorkerComplete adapterValid).2
        entry := .resumeCompleted adapterValid }
  | .reconnectDone ticket ok =>
      some { before := d.emit (.invoked ticket), entry := .reconnectResult ok }
  | .reply _ _ => none
  | .connectionLost => some { before := d, entry := .connectionLost }
  | .power .suspend => some { before := d, entry := .suspendRequested .dbus }
  | .power .resume => some { before := d, entry := .resumeRequested .dbus }

/-- The call a label makes, if it makes one. -/
def call? (d : Daemon) : Label → Option Call
  | .wire message =>
      match message.type with
      | .cmdSuspend =>
          some { before := d, entry := .suspendRequested .wire, after := (answer · respSuccess) }
      | .cmdResume =>
          some { before := d, entry := .resumeRequested .wire, after := (answer · respSuccess) }
      | _ => none
  | .drain =>
      match d.posts with
      | p :: posts => postCall { d with posts := posts } p
      | [] => none
  | .safetyTimer => some { before := d, entry := .safetyTimerFired }
  | .retryTimer => some { before := d, entry := .reconnectRetryTimerFired }
  | _ => none

/-- What a call leaves to the supervisor, and what it does around it. -/
structure Call.Bare (c : Call) (d : Daemon) : Prop where
  powerLifecycle : c.before.powerLifecycle = d.powerLifecycle
  adapterReconnect : c.before.adapterReconnect = d.adapterReconnect
  suspendSafetyTimer : c.before.suspendSafetyTimer = d.suspendSafetyTimer
  reconnectRetryTimer : c.before.reconnectRetryTimer = d.reconnectRetryTimer
  after : c.after = id ∨ c.after = (answer · respSuccess)

theorem bare_of_postCall {d : Daemon} {p : Post} {c : Call} (h : d.postCall p = some c) :
    c.Bare d := by
  cases p with
  | resumeDone ticket adapterValid =>
      obtain rfl := Option.some.inj h
      simp only [replay_eq]
      cases adapterValid <;> exact ⟨rfl, rfl, rfl, rfl, Or.inl rfl⟩
  | power kind => cases kind <;> exact Option.some.inj h ▸ ⟨rfl, rfl, rfl, rfl, Or.inl rfl⟩
  | reply id response => cases h
  | _ => exact Option.some.inj h ▸ ⟨rfl, rfl, rfl, rfl, Or.inl rfl⟩

theorem runPost_of_postCall {d : Daemon} {p : Post} {c : Call} (h : d.postCall p = some c) :
    d.runPost p = c.after (c.before.onEntry c.entry) := by
  cases p with
  | power kind => cases kind <;> exact Option.some.inj h ▸ rfl
  | reply id response => cases h
  | _ => exact Option.some.inj h ▸ rfl

theorem bare_of_call {d : Daemon} {label : Label} {c : Call} (h : d.call? label = some c) :
    c.Bare d := by
  cases label with
  | wire message =>
      unfold call? at h
      cases htype : message.type <;> simp only [htype] at h <;>
        first
        | exact Option.some.inj h ▸ ⟨rfl, rfl, rfl, rfl, Or.inr rfl⟩
        | cases h
  | drain =>
      unfold call? at h
      cases hposts : d.posts with
      | nil => simp [hposts] at h
      | cons p posts =>
          simp only [hposts] at h
          have hbare := bare_of_postCall h
          exact ⟨hbare.powerLifecycle, hbare.adapterReconnect, hbare.suspendSafetyTimer,
            hbare.reconnectRetryTimer, hbare.after⟩
  | safetyTimer => exact Option.some.inj h ▸ ⟨rfl, rfl, rfl, rfl, Or.inl rfl⟩
  | retryTimer => exact Option.some.inj h ▸ ⟨rfl, rfl, rfl, rfl, Or.inl rfl⟩
  | _ => cases h

theorem step_of_call {d : Daemon} {label : Label} {c : Call} (h : d.call? label = some c) :
    step d label = some (c.after (c.before.onEntry c.entry)) := by
  cases label with
  | wire message =>
      unfold call? at h
      cases htype : message.type <;> simp only [htype] at h <;>
        first
        | cases h
          simp [step, receive, handleCommand, htype, findDispatchByType, kDispatchTable, onEntry]
        | cases h
  | drain =>
      unfold call? at h
      cases hposts : d.posts with
      | nil => simp [hposts] at h
      | cons p posts =>
          simp only [hposts] at h
          simp only [step, hposts, runPost_of_postCall h]
  | safetyTimer => exact Option.some.inj h ▸ rfl
  | retryTimer => exact Option.some.inj h ▸ rfl
  | _ => cases h

/-! ## What happens outside the supervisor -/

/-- The fields a step without a call leaves alone, timers apart. -/
def front (d : Daemon) : PowerLifecycle × AdapterReconnect × TimerSource × TimerSource × List Post :=
  (d.powerLifecycle, d.adapterReconnect, d.suspendSafetyTimer, d.reconnectRetryTimer, d.posts)

theorem dispatch_front (d : Daemon) (command : Command) :
    (d.dispatch command).1.front = d.front := by
  unfold dispatch
  cases d.dispatcherShutdown with
  | true => rfl
  | false =>
      rw [if_neg (by simp)]
      cases findDispatchByType command.message.type with
      | none => rfl
      | some spec =>
          dsimp only
          by_cases hintercepted : spec.dispatch = .supervisorIntercepted
          · rw [if_pos hintercepted]
          rw [if_neg hintercepted]
          cases hsuspended : d.suspended with
          | true =>
              simp only [if_true, handleSuspendedInline]
              split_ifs
              · simp [front, enqueue, emit]
              · rfl
          | false =>
              rw [if_neg (by simp)]
              cases hclass : spec.dispatch with
              | supervisorIntercepted => exact absurd hclass hintercepted
              | adapterCall => rfl
              | stateOnly =>
                  simp only [applyStandby]
                  cases command.message.data <;> rfl

theorem receive_front {d : Daemon} {message : Message} (h : d.call? (.wire message) = none) :
    (d.receive message).front = d.front := by
  have hhandled : (d.handleCommand ⟨d.requests, message⟩).1.front = d.front := by
    unfold handleCommand
    dsimp only
    cases findDispatchByType message.type with
    | none => exact dispatch_front d _
    | some spec =>
        dsimp only
        split_ifs
        · simp only [call?] at h
          cases htype : message.type <;> first | rfl | (rw [htype] at h; cases h)
        · exact dispatch_front d _
  unfold receive
  generalize d.handleCommand ⟨d.requests, message⟩ = handled at hhandled
  obtain ⟨d', _ | response⟩ := handled
  · exact hhandled
  · exact hhandled

/-- A timer was left alone or has expired. -/
def Passed (timer timer' : TimerSource) : Prop := timer' = timer ∨ timer.expire = some timer'

/-- Draining takes the oldest closure; everybody else can only post more. -/
def Queues (label : Label) (posts posts' : List Post) : Prop :=
  label = .drain ∧ (∃ p, posts = p :: posts') ∨ label ≠ .drain ∧ posts <+: posts'

/-- A step that does not enter the supervisor. -/
structure Aside (d : Daemon) (label : Label) (d' : Daemon) : Prop where
  powerLifecycle : d'.powerLifecycle = d.powerLifecycle
  adapterReconnect : d'.adapterReconnect = d.adapterReconnect
  suspendSafetyTimer : Passed d.suspendSafetyTimer d'.suspendSafetyTimer
  reconnectRetryTimer : Passed d.reconnectRetryTimer d'.reconnectRetryTimer
  posts : Queues label d.posts d'.posts

theorem aside_of_front {d d' : Daemon} {label : Label} (hlabel : label ≠ .drain)
    (h : d'.front = d.front) : Aside d label d' := by
  simp only [front, Prod.mk.injEq] at h
  exact ⟨h.1, h.2.1, Or.inl h.2.2.1, Or.inl h.2.2.2.1,
    Or.inr ⟨hlabel, h.2.2.2.2 ▸ List.prefix_refl _⟩⟩

theorem aside_of_works {d d' : Daemon} {r : Running} {label : Label} (hworks : Works d r label d') :
    Aside d label d' := by
  cases hworks with
  | @finished result throttler hrest =>
      rcases result with _ | (_ | p)
      · exact aside_of_front (by simp) rfl
      · exact aside_of_front (by simp) rfl
      · exact ⟨rfl, rfl, Or.inl rfl, Or.inl rfl, Or.inr ⟨by simp, List.prefix_append _ _⟩⟩
  | _ => exact aside_of_front (by simp) rfl

theorem aside_of_no_call {d d' : Daemon} {label : Label} (hcall : d.call? label = none)
    (hstep : step d label = some d') : Aside d label d' := by
  cases moves_of_step hstep with
  | wire message => exact aside_of_front (by simp) (receive_front hcall)
  | dbusSignal kind =>
      exact ⟨rfl, rfl, Or.inl rfl, Or.inl rfl, Or.inr ⟨by simp, List.prefix_append _ _⟩⟩
  | @drain p posts hposts =>
      simp only [call?, hposts] at hcall
      cases p with
      | reply id response => exact ⟨rfl, rfl, Or.inl rfl, Or.inl rfl, Or.inl ⟨rfl, _, hposts⟩⟩
      | power kind => cases kind <;> cases hcall
      | _ => cases hcall
  | safetyTimer => cases hcall
  | retryTimer => cases hcall
  | safetyExpire htimer =>
      exact ⟨rfl, rfl, Or.inr (by rw [htimer]; rfl), Or.inl rfl,
        Or.inr ⟨by simp, List.prefix_refl _⟩⟩
  | retryExpire htimer =>
      exact ⟨rfl, rfl, Or.inl rfl, Or.inr (by rw [htimer]; rfl),
        Or.inr ⟨by simp, List.prefix_refl _⟩⟩
  | workerTake hrunning hjobs hstop => exact aside_of_front (by simp) rfl
  | workerExit hrunning hstop => exact aside_of_front (by simp) rfl
  | alertStore => exact aside_of_front (by simp) rfl
  | alertPost halerting =>
      exact ⟨rfl, rfl, Or.inl rfl, Or.inl rfl, Or.inr ⟨by simp, List.prefix_append _ _⟩⟩
  | stop =>
      apply aside_of_front (by simp)
      rw [stop_eq]
      rfl
  | working hrunning hworks => exact aside_of_works hworks

theorem posts_roundStable (posts : List Post) : RoundStable fun d => d.posts = posts where
  suspendNow h _ _ _ := h
  suspendLater h _ _ _ := h
  resumeNow h _ _ _ := h
  resumeLater h _ _ _ := h

theorem posts_reconnectStable (posts : List Post) : ReconnectStable fun d => d.posts = posts where
  quiet _ _ _ h := h
  attempt {d} h := by
    unfold reconnectAsync
    dsimp only [issue, emit]
    split_ifs <;> exact h
  abandon h := h

/-- The supervisor posts nothing. -/
theorem onEntry_posts (d : Daemon) (entry : PowerSupervisor.Entry) :
    (d.onEntry entry).posts = d.posts := by
  have hreconnect := posts_reconnectStable d.posts
  have hsettle {d' : Daemon} (rounds : ℕ) (h : d'.posts = d.posts) :
      (settle rounds d').posts = d.posts :=
    (posts_roundStable d.posts).settle hreconnect.seedReconnect rounds h
  cases entry with
  | suspendRequested source =>
      simp only [onEntry, onSuspendRequested, onRequested_eq_settle]
      exact hsettle _ rfl
  | resumeRequested source =>
      simp only [onEntry, onResumeRequested, onRequested_eq_settle]
      exact hsettle _ rfl
  | suspendCompleted =>
      simp only [onEntry, onSuspendCompleted_eq_settle]
      apply hsettle
      unfold suspendReported
      split_ifs <;> rfl
  | resumeCompleted adapterValid =>
      have hreported : d.resumeReported.posts = d.posts := by
        unfold resumeReported
        split_ifs <;> rfl
      simp only [onEntry, onResumeCompleted_eq_settle]
      split_ifs
      · exact hsettle _ hreported
      · exact hreconnect.seedReconnect (hsettle _ hreported)
  | safetyTimerFired =>
      simp only [onEntry, onSafetyTimerFired_eq_settle]
      exact hsettle _ rfl
  | connectionLost => exact hreconnect.onReconnectEvent (d := d) rfl _
  | reconnectResult ok => exact hreconnect.onReconnectEvent (d := d) rfl _
  | reconnectRetryTimerFired =>
      exact hreconnect.onReconnectEvent
        (d := { d with reconnectRetryTimer := d.reconnectRetryTimer.consume }) rfl _

theorem queues_of_call {d : Daemon} {label : Label} {c : Call} (h : d.call? label = some c) :
    Queues label d.posts c.before.posts := by
  cases label with
  | wire message =>
      unfold call? at h
      cases htype : message.type <;> simp only [htype] at h <;>
        first
        | exact Option.some.inj h ▸ Or.inr ⟨by simp, List.prefix_refl _⟩
        | cases h
  | drain =>
      unfold call? at h
      cases hposts : d.posts with
      | nil => simp [hposts] at h
      | cons p posts =>
          simp only [hposts] at h
          refine Or.inl ⟨rfl, p, ?_⟩
          cases p with
          | resumeDone ticket adapterValid =>
              obtain rfl := Option.some.inj h
              simp only [replay_eq]
              cases adapterValid <;> rfl
          | power kind => cases kind <;> exact Option.some.inj h ▸ rfl
          | reply id response => cases h
          | _ => exact Option.some.inj h ▸ rfl
  | safetyTimer => exact Option.some.inj h ▸ Or.inr ⟨by simp, List.prefix_refl _⟩
  | retryTimer => exact Option.some.inj h ▸ Or.inr ⟨by simp, List.prefix_refl _⟩
  | _ => cases h

/-- The queue of closures under every step. -/
theorem queues_of_step {d d' : Daemon} {label : Label} (hstep : machine.step d label = some d') :
    Queues label d.posts d'.posts := by
  change step d label = some d' at hstep
  cases hcall : d.call? label with
  | none => exact (aside_of_no_call hcall hstep).posts
  | some c =>
      obtain rfl := Option.some.inj ((step_of_call hcall).symm.trans hstep)
      have hafter : (c.after (c.before.onEntry c.entry)).posts = c.before.posts := by
        rcases (bare_of_call hcall).after with hafter | hafter <;> rw [hafter] <;>
          exact onEntry_posts c.before c.entry
      rw [hafter]
      exact queues_of_call hcall

/-! ## The daemon with its supervisor set apart -/

/-- The supervisor after a step that did not enter it. -/
def aside (s : PowerSupervisor Daemon) (d : Daemon) : PowerSupervisor Daemon :=
  { s with
    env := d
    suspendSafetyTimer := d.suspendSafetyTimer
    reconnectRetryTimer := d.reconnectRetryTimer }

/-- A step of the daemon, followed with what the supervisor records. -/
def supervisedStep (s : PowerSupervisor Daemon) (label : Label) : Option (PowerSupervisor Daemon) :=
  match (supervise s).call? label with
  | some c =>
      (PowerSupervisor.enter ports s.depthBound { s with env := c.before } c.entry).map fun s =>
        { s with env := c.after s.env }
  | none => (step (supervise s) label).map (aside s)

theorem supervisedStep_cases {s s' : PowerSupervisor Daemon} {label : Label}
    (h : supervisedStep s label = some s') :
    (∃ c entered, (supervise s).call? label = some c ∧
        PowerSupervisor.enter ports s.depthBound { s with env := c.before } c.entry = some entered ∧
        s' = { entered with env := c.after entered.env }) ∨
      (supervise s).call? label = none ∧
        ∃ d, step (supervise s) label = some d ∧ Aside (supervise s) label d ∧ s' = aside s d := by
  unfold supervisedStep at h
  cases hcall : (supervise s).call? label with
  | some c =>
      rw [hcall] at h
      obtain ⟨entered, henter, rfl⟩ := Option.map_eq_some_iff.mp h
      exact Or.inl ⟨c, entered, rfl, henter, rfl⟩
  | none =>
      rw [hcall] at h
      obtain ⟨d, hstep, rfl⟩ := Option.map_eq_some_iff.mp h
      exact Or.inr ⟨rfl, d, hstep, aside_of_no_call hcall hstep, rfl⟩

/-- A step of the daemon it is. -/
theorem supervisedStep_refines {s s' : PowerSupervisor Daemon} {label : Label}
    (h : supervisedStep s label = some s') :
    machine.step (supervise s) label = some (supervise s') := by
  rcases supervisedStep_cases h with ⟨c, entered, hcall, henter, rfl⟩ | ⟨_, d, hstep, haside, rfl⟩
  · have hbare := bare_of_call hcall
    have hbefore : supervise { s with env := c.before } = c.before := by
      simp only [supervise, superpose]
      rw [← show c.before.powerLifecycle = s.powerLifecycle from hbare.powerLifecycle,
        ← show c.before.adapterReconnect = s.adapterReconnect from hbare.adapterReconnect,
        ← show c.before.suspendSafetyTimer = s.suspendSafetyTimer from hbare.suspendSafetyTimer,
        ← show c.before.reconnectRetryTimer = s.reconnectRetryTimer from hbare.reconnectRetryTimer]
    have hentered := enter_refines (Nat.le_refl _) henter
    rw [hbefore] at hentered
    refine (step_of_call hcall).trans ?_
    rw [hentered]
    rcases hbare.after with hafter | hafter <;> rw [hafter] <;> rfl
  · refine hstep.trans ?_
    simp only [supervise, superpose, aside]
    rw [← show d.powerLifecycle = s.powerLifecycle from haside.powerLifecycle,
      ← show d.adapterReconnect = s.adapterReconnect from haside.adapterReconnect]

end Daemon

/-! ## Batches -/

/-- The daemon, and the batch its event loop is working through. -/
structure Batches where
  supervisor : PowerSupervisor Daemon
  dispatching : Bool := false
  /-- The safety timer was reported and its handler has not run: the suspend cycle whose
  setting of the timer had expired. -/
  safetyReported : Option ℕ := none
  /-- The retry timer was reported and its handler has not run. -/
  retryReported : Bool := false
  /-- Closures the batch's drain has still to run, once it has swapped the queue. -/
  swapped : Option ℕ := none

namespace Batches

open Daemon

/-- What moves: the loop, or a part of the daemon. -/
inductive Label
  /-- `epoll_wait` returns, with or without each of the timers that are readable. -/
  | collect (safety retry : Bool)
  /-- `MainThreadWork::drain` takes the queue. -/
  | swap
  | finish
  | daemon (label : Daemon.Label)

/-- Whether the batch lets a part of the daemon move: handlers run inside a batch, a timer's
only if the timer was reported, and the drain only what it has swapped out. -/
def letThrough (b : Batches) : Daemon.Label → Option Batches
  | .wire _ => if b.dispatching then some b else none
  | .dbusSignal _ => if b.dispatching then some b else none
  | .drain =>
      match b.swapped with
      | some (left + 1) => some { b with swapped := some left }
      | _ => none
  | .safetyTimer => b.safetyReported.map fun _ => { b with safetyReported := none }
  | .retryTimer => if b.retryReported then some { b with retryReported := false } else none
  | _ => some b

def step (b : Batches) : Label → Option Batches
  | .collect safety retry =>
      if b.dispatching then none
      else
        let retry := retry && decide (b.supervisor.reconnectRetryTimer = .expired)
        some {
          supervisor := { b.supervisor with undisturbed := retry }
          dispatching := true
          safetyReported :=
            if safety ∧ b.supervisor.suspendSafetyTimer = .expired then some b.supervisor.armedBy
            else none
          retryReported := retry }
  | .swap =>
      if b.dispatching ∧ b.swapped = none then
        some { b with swapped := some b.supervisor.env.posts.length }
      else none
  | .finish =>
      if b.dispatching ∧ b.swapped.getD 0 = 0 then some { supervisor := b.supervisor } else none
  | .daemon label =>
      (b.letThrough label).bind fun b =>
        (supervisedStep b.supervisor label).map fun s => { b with supervisor := s }

def machine : Machine Batches Label where
  step := step

/-- The loop before its first batch. -/
def start (setup : Setup) : Batches where
  supervisor := { adapterReconnect := (boot setup).adapterReconnect, env := boot setup }

end Batches

end CecControl
