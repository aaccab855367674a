/-
# What becomes of a reconnect attempt

An attempt that the reconnect machine starts is answered on the spot or handed to the
worker as a job; the job ends, its result is posted, and the result is drained. On the way
the machine may stop waiting for it: a suspend or resume request takes it out of the
attempt. Each of these is an event here, read off the state and the label of a step, and
`Turn` says what a step with that event does to the attempts under way: which have a job,
which have a posted result, and whether the machine waits for one.

The machine waits only at rest and awake, so that a supervisor entry that is no request finds
nothing to do while it waits.
-/

import CecControl.Daemon.Coupling
import CecControl.Daemon.ReconnectEffects

namespace CecControl

open Lib PowerLifecycle

/-- The reconnect attempt that a job makes. -/
def Job.attempt? : Job → Option ℕ
  | .reconnect ticket => some ticket
  | _ => none

/-- The reconnect attempt that a closure brings the result of. -/
def Post.attempt? : Post → Option ℕ
  | .reconnectDone ticket _ => some ticket
  | _ => none

namespace Daemon

variable {d d' : Daemon}

/-! ## Attempts -/

/-- The attempts whose job is running or queued. -/
def reopens (d : Daemon) : List ℕ :=
  (d.running.toList.map Running.job ++ d.jobs).filterMap Job.attempt?

/-- The attempts whose result has been posted. -/
def results (d : Daemon) : List ℕ := d.posts.filterMap Post.attempt?

/-- The attempts under way, in the order in which their results are drained. -/
def underWay (d : Daemon) : List ℕ := d.results ++ d.reopens

/-- The step makes the reconnect machine start an attempt. -/
def emitsStartAttempt (d : Daemon) : Label → Bool
  | .retryTimer => (d.adapterReconnect.onEvent .retryTimerFired).2.effect == .startAttempt
  | .drain =>
      d.posts.head? == some .connectionLost &&
        (d.adapterReconnect.onEvent .connectionLost).2.effect == .startAttempt
  | _ => false

/-- It does, and the lifecycle makes a job of the attempt. -/
def handsOver (d : Daemon) (label : Label) : Bool :=
  d.emitsStartAttempt label && !d.lifecycleShutdown && !d.suspended && !d.connected

/-- What happens to attempts. -/
inductive AttemptEvent
  /-- An attempt is handed to the worker. -/
  | handedOver
  /-- An attempt is answered within the call that starts it. -/
  | answered
  /-- A suspend or resume request is handled. -/
  | requested (kind : EventKind)
  /-- The job of an attempt ends, with its result or with an exception. -/
  | ended (ticket : ℕ)
  /-- The result of an attempt is drained. -/
  | drained (ticket : ℕ)
  | stopped
  | other
  deriving DecidableEq, Repr

/-- An attempt gets on by the end of its job and by the draining of its result. -/
def attemptPassed (d : Daemon) (label : Label) : AttemptEvent :=
  match label, d.posts, d.running.map Running.job with
  | .drain, .reconnectDone ticket _ :: _, _ => .drained ticket
  | .workerFinish, _, some (.reconnect ticket) => .ended ticket
  | .stop, _, _ => .stopped
  | _, _, _ => .other

/-- What the step is to the attempts. -/
def attemptEvent (d : Daemon) (label : Label) : AttemptEvent :=
  if d.handsOver label then .handedOver
  else if d.emitsStartAttempt label then .answered
  else
    match d.request? label with
    | some request => .requested request.kind
    | none => d.attemptPassed label

/-- Nothing is handed over, ends or is drained. -/
structure Unmoved (d d' : Daemon) : Prop where
  reopens : d'.reopens = d.reopens
  results : d'.results = d.results
  tickets : d.tickets ≤ d'.tickets
  shutdown : d'.lifecycleShutdown = d.lifecycleShutdown

namespace Unmoved

theorem refl (d : Daemon) : Unmoved d d := ⟨rfl, rfl, Nat.le_refl _, rfl⟩

theorem trans {d₁ d₂ d₃ : Daemon} (h : Unmoved d₁ d₂) (h' : Unmoved d₂ d₃) : Unmoved d₁ d₃ where
  reopens := h'.reopens.trans h.reopens
  results := h'.results.trans h.results
  tickets := Nat.le_trans h.tickets h'.tickets
  shutdown := h'.shutdown.trans h.shutdown

/-- What follows `d` keeps, through rounds of the supervisor. -/
theorem roundStable (d : Daemon) : RoundStable (Unmoved d) where
  suspendNow h _ _ _ := h.trans ⟨rfl, rfl, Nat.le_succ _, rfl⟩
  suspendLater {d₁ source rest} h _ _ _ := by
    refine h.trans ⟨?_, rfl, Nat.le_succ _, rfl⟩
    cases hstop : d₁.stopRequested <;>
      simp [Daemon.reopens, suspendLater, hstop, Job.attempt?]
  resumeNow h _ _ _ := h.trans ⟨rfl, rfl, Nat.le_succ _, rfl⟩
  resumeLater {d₁ source rest} h _ _ _ := by
    refine h.trans ⟨?_, rfl, Nat.le_succ _, rfl⟩
    cases hstop : d₁.stopRequested <;>
      simp [Daemon.reopens, resumeLater, hstop, Job.attempt?]

end Unmoved

/-- Moreover, neither the sequencer nor the suspended flag has moved. -/
structure Untouched (d d' : Daemon) : Prop extends Unmoved d d' where
  suspended : d'.suspended = d.suspended
  powerLifecycle : d'.powerLifecycle = d.powerLifecycle

namespace Untouched

theorem refl (d : Daemon) : Untouched d d := ⟨.refl d, rfl, rfl⟩

theorem trans {d₁ d₂ d₃ : Daemon} (h : Untouched d₁ d₂) (h' : Untouched d₂ d₃) :
    Untouched d₁ d₃ :=
  ⟨h.toUnmoved.trans h'.toUnmoved, h'.suspended.trans h.suspended,
    h'.powerLifecycle.trans h.powerLifecycle⟩

/-- An effect that starts no attempt. -/
theorem executeWithin {depth : ℕ} {out : AdapterReconnect.Output}
    (hquiet : out.effect ≠ .startAttempt) : Untouched d (executeWithin depth d out) :=
  executeWithin_of_quiet (P := Untouched d)
    (fun _ _ h => h.trans ⟨⟨rfl, rfl, Nat.le_refl _, rfl⟩, rfl, rfl⟩)
    (fun h => h.trans ⟨⟨rfl, rfl, Nat.le_refl _, rfl⟩, rfl, rfl⟩)
    (fun h => h.trans ⟨⟨rfl, rfl, Nat.le_refl _, rfl⟩, rfl, rfl⟩) hquiet (refl d)

theorem seedReconnect (d : Daemon) : Untouched d d.seedReconnect := by
  have hseeded : Untouched d { d with
      adapterReconnect := (d.adapterReconnect.seedCycle kPostResumeRetryDelay).1 } :=
    ⟨⟨rfl, rfl, Nat.le_refl _, rfl⟩, rfl, rfl⟩
  apply hseeded.trans (executeWithin _)
  unfold AdapterReconnect.seedCycle
  split_ifs <;> simp

end Untouched

theorem Unmoved.settle (rounds : ℕ) (d : Daemon) : Unmoved d (settle rounds d) :=
  (Unmoved.roundStable d).settle (fun h => h.trans (Untouched.seedReconnect _).toUnmoved) rounds (.refl d)

/-! ## Working off the queue takes the machine out of an attempt -/

/-- The machine waits for the result of an attempt. -/
def Attempting (d : Daemon) : Prop := d.adapterReconnect.state = .attempting

/-- Only an attempt leaves the machine attempting. -/
theorem executeWithin_not_attempting {depth : ℕ} {out : AdapterReconnect.Output}
    (hquiet : out.effect ≠ .startAttempt) (hstate : ¬ d.Attempting) :
    ¬ (executeWithin depth d out).Attempting := by
  apply executeWithin_of_quiet (P := fun d => ¬ d.Attempting) (fun _ _ h => h) _ (fun h => h)
    hquiet hstate
  intro d h
  change ¬ (d.adapterReconnect.onEvent .timerArmFailed).1.state = .attempting
  cases hs : d.adapterReconnect.state with
  | attempting => exact absurd hs h
  | _ => simp [AdapterReconnect.onEvent, hs]

theorem seedReconnect_not_attempting (hstate : ¬ d.Attempting) : ¬ d.seedReconnect.Attempting := by
  by_cases hidle : d.adapterReconnect.state = .idle
  · apply executeWithin_not_attempting
    · simp [AdapterReconnect.seedCycle, hidle]
    · simp [Attempting, AdapterReconnect.seedCycle, hidle]
  · rwa [seedReconnect_of_not_idle hidle]

theorem not_attempting_roundStable : RoundStable fun d => ¬ d.Attempting where
  suspendNow _ _ _ _ := by simp [Attempting, suspendNow]
  suspendLater _ _ _ _ := by simp [Attempting, suspendLater]
  resumeNow _ _ _ _ := by simp [Attempting, resumeNow]
  resumeLater _ _ _ _ := by simp [Attempting, resumeLater]

/-- With a request to work off the machine is taken out of its attempt. -/
theorem settle_not_attempting (rounds : ℕ)
    (hwork : d.Attempting → d.powerLifecycle.phase = .idle ∧ d.powerLifecycle.pending ≠ []) :
    ¬ (settle (rounds + 1) d).Attempting := by
  have hkeep {d : Daemon} (h : ¬ d.Attempting) : ¬ (settle rounds d).Attempting :=
    not_attempting_roundStable.settle seedReconnect_not_attempting rounds h
  rcases settle_succ_cases rounds d with
    ⟨_, source, rest, _, ⟨_, heq⟩ | ⟨_, heq⟩⟩ | ⟨_, source, rest, _, ⟨_, heq⟩ | ⟨_, heq⟩⟩ |
    ⟨hrest, heq⟩ <;> rw [heq]
  · exact hkeep (by simp [Attempting, suspendNow])
  · simp [Attempting, suspendLater]
  · exact seedReconnect_not_attempting (hkeep (by simp [Attempting, resumeNow]))
  · simp [Attempting, resumeLater]
  · exact fun hattempting => hrest.elim (absurd (hwork hattempting).1) (hwork hattempting).2

/-- With none, nothing happens. -/
theorem settle_of_rested (rounds : ℕ)
    (hrest : d.powerLifecycle.phase ≠ .idle ∨ d.powerLifecycle.pending = []) :
    settle rounds d = d := by
  cases rounds with
  | zero => rfl
  | succ rounds =>
      rcases settle_succ_cases rounds d with
        ⟨hidle, _, _, hpending, _⟩ | ⟨hidle, _, _, hpending, _⟩ | ⟨_, heq⟩
      · exact absurd hrest (by simp [hidle, hpending])
      · exact absurd hrest (by simp [hidle, hpending])
      · exact heq

/-- As many rounds as there are requests empty the queue, unless one is in flight. -/
theorem settle_drains (rounds : ℕ) (hrounds : d.powerLifecycle.pending.length ≤ rounds)
    (hidle : (settle rounds d).powerLifecycle.phase = .idle) :
    (settle rounds d).powerLifecycle.pending = [] := by
  induction rounds generalizing d with
  | zero => exact List.length_eq_zero_iff.mp (Nat.le_zero.mp hrounds)
  | succ rounds ih =>
      rcases settle_succ_cases rounds d with
        ⟨_, source, rest, hpending, ⟨_, heq⟩ | ⟨_, heq⟩⟩ |
        ⟨_, source, rest, hpending, ⟨_, heq⟩ | ⟨_, heq⟩⟩ | ⟨hrest, heq⟩ <;>
        rw [heq] at hidle ⊢
      · have hrest : rest.length ≤ rounds := by simpa [hpending] using hrounds
        exact ih hrest hidle
      · simp [suspendLater] at hidle
      · have hrest : rest.length ≤ rounds := by simpa [hpending] using hrounds
        rw [(Untouched.seedReconnect _).powerLifecycle] at hidle ⊢
        exact ih hrest hidle
      · simp [resumeLater] at hidle
      · exact hrest.resolve_left (not_not.mpr hidle)

/-- Once the flag is up, the rounds leave it up. -/
theorem suspended_roundStable : RoundStable fun d => d.suspended = true where
  suspendNow h _ _ _ := h
  suspendLater _ _ _ _ := rfl
  resumeNow h _ _ _ := h
  resumeLater h _ _ _ := h

theorem settle_suspended (rounds : ℕ) (h : d.suspended = true) :
    (settle rounds d).suspended = true :=
  suspended_roundStable.settle (fun h => (Untouched.seedReconnect _).suspended.trans h) rounds h

/-! ## What a step does to the attempts -/

/-- Requests wait only behind another one, and the machine waits for a result only at rest
and awake. -/
structure Gated (d : Daemon) : Prop where
  coupled : Coupled d
  drained : d.powerLifecycle.phase = .idle → d.powerLifecycle.pending = []
  resting : d.Attempting → d.powerLifecycle.phase = .idle
  awake : d.Attempting → d.lifecycleShutdown = false → d.suspended = false

/-- What a step does to the attempts, by what happens in it. -/
inductive Turn (d : Daemon) : AttemptEvent → Daemon → Prop
  | handedOver {d' : Daemon} (hopen : d'.lifecycleShutdown = false) (hawake : d'.suspended = false)
      (hshut : d.lifecycleShutdown = false) (hsuspended : d.suspended = false)
      (hbefore : ¬ d.Attempting) (hafter : d'.Attempting)
      (hreopens : d'.reopens = d.reopens ++ [d.tickets]) (hresults : d'.results = d.results)
      (htickets : d.tickets < d'.tickets) : Turn d .handedOver d'
  | answered {d' : Daemon} (hkept : Unmoved d d') (hsuspended : d'.suspended = d.suspended)
      (hbefore : ¬ d.Attempting) (hafter : ¬ d'.Attempting) : Turn d .answered d'
  | requested {d' : Daemon} {kind} (hkept : Unmoved d d') (hafter : ¬ d'.Attempting)
      (hsuspended : d.suspended = true → d'.suspended = true)
      (hfenced : kind = .suspend → d.Attempting → d.lifecycleShutdown = false →
        d'.suspended = true) : Turn d (.requested kind) d'
  | ended {d' : Daemon} {ticket} (hreopens : d.reopens = ticket :: d'.reopens)
      (hresults : d'.results = d.results ∨ d'.results = d.results ++ [ticket])
      (hafter : d'.Attempting ↔ d.Attempting) (htickets : d'.tickets = d.tickets)
      (hshut : d'.lifecycleShutdown = d.lifecycleShutdown) (hsuspended : d'.suspended = d.suspended) :
      Turn d (.ended ticket) d'
  | drained {d' : Daemon} {ticket} (hresults : d.results = ticket :: d'.results)
      (hreopens : d'.reopens = d.reopens) (hafter : ¬ d'.Attempting)
      (htickets : d.tickets ≤ d'.tickets) (hshut : d'.lifecycleShutdown = d.lifecycleShutdown)
      (hsuspended : d'.suspended = d.suspended) : Turn d (.drained ticket) d'
  | stopped {d' : Daemon} (hreopens : d'.reopens.Sublist d.reopens) (hresults : d'.results = d.results)
      (hafter : d'.Attempting ↔ d.Attempting) (htickets : d'.tickets = d.tickets)
      (hshut : d'.lifecycleShutdown = true) : Turn d .stopped d'
  | other {d' : Daemon} (hkept : Unmoved d d') (hafter : d'.Attempting ↔ d.Attempting)
      (hawakened : d'.lifecycleShutdown = false → d'.suspended = false →
        d.suspended = false ∨ d'.reopens = [] ∧ d'.results = []) : Turn d .other d'

/-- Where the sequencer is not involved. -/
theorem Gated.untouched (h : Gated d) (hcoupled : Coupled d') (huntouched : Untouched d d')
    (hstate : d'.Attempting → d.Attempting) : Gated d' where
  coupled := hcoupled
  drained := huntouched.powerLifecycle ▸ h.drained
  resting hattempting := huntouched.powerLifecycle ▸ h.resting (hstate hattempting)
  awake hattempting hopen :=
    huntouched.suspended.trans (h.awake (hstate hattempting) (huntouched.shutdown ▸ hopen))

theorem Turn.untouched (huntouched : Untouched d d') (hstate : d'.Attempting ↔ d.Attempting) :
    Turn d .other d' :=
  .other huntouched.toUnmoved hstate fun _ hawake => Or.inl (huntouched.suspended ▸ hawake)

theorem attemptEvent_of_quiet {label : Label} (hquiet : d.emitsStartAttempt label = false)
    (hrequest : d.request? label = none) : d.attemptEvent label = d.attemptPassed label := by
  simp [attemptEvent, handsOver, hquiet, hrequest]

theorem attemptEvent_of_request {label : Label} {request : Pending}
    (hrequest : d.request? label = some request) :
    d.attemptEvent label = .requested request.kind := by
  have hquiet : d.emitsStartAttempt label = false := by
    cases label with
    | drain =>
        simp only [request?] at hrequest
        split at hrequest
        · next hposts => simp [emitsStartAttempt, hposts]
        · cases hrequest
    | retryTimer => cases hrequest
    | _ => rfl
  simp [attemptEvent, handsOver, hquiet, hrequest]

/-- A request is handled: whatever was waited for is so no longer. -/
theorem turn_requested (h : Gated d) {d₁ : Daemon} (hkept : Unmoved d d₁)
    (hlifecycle : d₁.powerLifecycle = d.powerLifecycle)
    (hreconnect : d₁.adapterReconnect = d.adapterReconnect)
    (hsuspended : d₁.suspended = d.suspended) (request : Pending)
    (hcoupled : Coupled (d₁.onRequested request)) :
    Gated (d₁.onRequested request) ∧ Turn d (.requested request.kind) (d₁.onRequested request) := by
  have hreceived : Unmoved d₁ (d₁.received request) := ⟨rfl, rfl, Nat.le_refl _, rfl⟩
  have hstate : (d₁.received request).Attempting ↔ d.Attempting := by
    rw [Attempting, Attempting, ← hreconnect]
    rfl
  -- whoever waits for a result is at rest, so that the request is worked off at once
  have hwork (hattempting : d.Attempting) :
      (d₁.received request).powerLifecycle = { d.powerLifecycle with pending := [request] } := by
    have hidle := h.resting hattempting
    have hnone := h.drained hidle
    simp [Daemon.received, hlifecycle, unfinished, active, hidle, hnone]
  rw [onRequested_eq_settle] at hcoupled ⊢
  have hafter : ¬ (settle (d₁.received request).powerLifecycle.pending.length
      (d₁.received request)).Attempting := by
    by_cases hattempting : d.Attempting
    · rw [hwork hattempting]
      exact settle_not_attempting 0 fun _ => by
        rw [hwork hattempting]
        exact ⟨h.resting hattempting, by simp⟩
    · exact not_attempting_roundStable.settle seedReconnect_not_attempting _
        (hstate.not.mpr hattempting)
  refine ⟨⟨hcoupled, settle_drains _ (Nat.le_refl _), fun h => absurd h hafter,
    fun h => absurd h hafter⟩, .requested (hkept.trans (hreceived.trans (Unmoved.settle _ _))) hafter
      (fun hraised => settle_suspended _ (hsuspended.trans hraised)) fun hkind hattempting hopen => ?_⟩
  have hnow : (d₁.received request).suspendsNow = false := by
    have hshut : d₁.lifecycleShutdown = false := hkept.shutdown.trans hopen
    have hawake : d₁.suspended = false := hsuspended.trans (h.awake hattempting hopen)
    simp [suspendsNow, Daemon.received, hshut, hawake]
  obtain ⟨kind, source⟩ := request
  obtain rfl : kind = .suspend := hkind
  have hidle := h.resting hattempting
  rw [hwork hattempting, List.length_singleton]
  simp [settle, hwork hattempting, hidle, hnow, suspendLater]

/-- An effect that starts an attempt either makes a job of it or has it answered within the
call. -/
theorem execute_startAttempt_cases {out : AdapterReconnect.Output}
    (heffect : out.effect = .startAttempt) :
    (d.lifecycleShutdown = false ∧ d.suspended = false ∧ d.connected = false ∧
        d.execute out =
          ({ d with reconnectRetryTimer := d.reconnectRetryTimer.disarm }.issue).submit
            (.reconnect d.tickets)) ∨
      ((d.lifecycleShutdown = true ∨ d.suspended = true ∨ d.connected = true) ∧
        Untouched d (d.execute out) ∧ ¬ (d.execute out).Attempting) := by
  unfold execute executeWithin
  rw [heffect]
  dsimp only
  obtain ⟨hflags, ok, more, -, heq⟩ | ⟨hshut, hsuspended, hconnected, heq⟩ :=
    reconnectAsync_cases { d with reconnectRetryTimer := d.reconnectRetryTimer.disarm } <;>
    rw [heq]
  · refine Or.inr ⟨hflags, ?_, ?_⟩
    · have hanswered : Untouched d (reconnectEvent
          { d with reconnectRetryTimer := d.reconnectRetryTimer.disarm
                   tickets := d.tickets + 1, log := d.log ++ more }
          (if ok then .attemptSucceeded else .attemptFailed)).1 :=
        ⟨⟨rfl, rfl, Nat.le_succ _, rfl⟩, rfl, rfl⟩
      apply hanswered.trans (Untouched.executeWithin _)
      apply AdapterReconnect.onEvent_effect_ne_startAttempt <;> cases ok <;> simp
    · apply executeWithin_not_attempting
      · apply AdapterReconnect.onEvent_effect_ne_startAttempt <;> cases ok <;> simp
      · exact d.adapterReconnect.onEvent_result_state ok
  · exact Or.inl ⟨hshut, hsuspended, hconnected, rfl⟩

/-- What starts an attempt comes from a machine not attempting, and sets it to attempting. -/
theorem attempting_of_startAttempt {r : AdapterReconnect} {event : AdapterReconnect.Event}
    (heffect : (r.onEvent event).2.effect = .startAttempt) :
    r.state ≠ .attempting ∧ (r.onEvent event).1.state = .attempting := by
  cases hstate : r.state with
  | idle =>
      simp only [AdapterReconnect.onEvent, hstate] at heffect ⊢
      split_ifs at heffect ⊢
      simp_all
  | attempting =>
      cases event with
      | attemptFailed =>
          rcases AdapterReconnect.onEvent_attemptFailed_of_attempting hstate with
            ⟨_, _, h⟩ | ⟨_, h⟩ <;> simp [h] at heffect
      | _ => simp [AdapterReconnect.onEvent, hstate] at heffect
  | waitingForRetry => cases event <;> simp_all [AdapterReconnect.onEvent]

/-- The machine, set to attempting, starts an attempt. -/
theorem turn_started (h : Gated d) {e : Daemon} (huntouched : Untouched d e)
    (hrest : e.connected = d.connected ∧ e.tickets = d.tickets ∧
      e.stopRequested = d.stopRequested) (hbefore : ¬ d.Attempting) (hattempting : e.Attempting)
    {out : AdapterReconnect.Output} (heffect : out.effect = .startAttempt) {label : Label}
    (hemits : d.emitsStartAttempt label = true) (hcoupled : Coupled (e.execute out)) :
    Gated (e.execute out) ∧ Turn d (d.attemptEvent label) (e.execute out) := by
  obtain ⟨hconnected, htickets, hstop⟩ := hrest
  rcases execute_startAttempt_cases (d := e) heffect with
    ⟨hshut, hsuspended, hdown, heq⟩ | ⟨hflags, hanswered, hdone⟩
  · rw [heq] at hcoupled ⊢
    have hopen : d.lifecycleShutdown = false := huntouched.shutdown.symm.trans hshut
    have hawake : d.suspended = false := huntouched.suspended.symm.trans hsuspended
    have hhands : d.handsOver label = true := by
      simp [handsOver, hemits, hopen, hawake, ← hconnected, hdown]
    have hrunning : e.stopRequested = false := by
      rw [hstop, h.coupled.gates.1]
      exact hopen
    have hidle : e.powerLifecycle.phase = .idle := by
      rw [huntouched.powerLifecycle]
      exact h.coupled.idle_of_not_suspended hopen hawake
    rw [attemptEvent, if_pos hhands]
    refine ⟨⟨hcoupled, huntouched.powerLifecycle ▸ h.drained, fun _ => hidle,
      fun _ _ => hsuspended⟩, .handedOver hshut hsuspended hopen hawake hbefore hattempting ?_
        huntouched.results (htickets ▸ Nat.lt_succ_self _)⟩
    rw [← huntouched.reopens, ← htickets]
    simp [reopens, hrunning, Job.attempt?]
  · have hhands : d.handsOver label = false := by
      rw [huntouched.shutdown, huntouched.suspended, hconnected] at hflags
      rcases hflags with hflag | hflag | hflag <;> simp [handsOver, hflag]
    rw [attemptEvent, if_neg (by simp [hhands]), if_pos hemits]
    have hafter := huntouched.trans hanswered
    exact ⟨h.untouched hcoupled hafter fun hattempting => absurd hattempting hdone,
      .answered hafter.toUnmoved hafter.suspended hbefore hdone⟩

/-- An event that starts no attempt. -/
theorem onReconnectEvent_quiet {event : AdapterReconnect.Event}
    (hquiet : (d.adapterReconnect.onEvent event).2.effect ≠ .startAttempt)
    (hevent : event = .connectionLost ∨ event = .retryTimerFired) :
    Untouched d (d.onReconnectEvent event) ∧
      ((d.onReconnectEvent event).Attempting ↔ d.Attempting) := by
  have hnoted : Untouched d (d.reconnectEvent event).1 :=
    ⟨⟨rfl, rfl, Nat.le_refl _, rfl⟩, rfl, rfl⟩
  refine ⟨hnoted.trans (Untouched.executeWithin hquiet), ?_⟩
  by_cases hstate : d.adapterReconnect.state = .attempting
  · have hsame : d.onReconnectEvent event = d := by
      rcases hevent with rfl | rfl <;>
        simp [onReconnectEvent, reconnectEvent, AdapterReconnect.onEvent, hstate, execute,
          executeWithin]
    rw [hsame]
  · refine iff_of_false (executeWithin_not_attempting hquiet fun hafter => ?_) hstate
    exact (AdapterReconnect.attempting_of_onEvent hafter).elim hstate hquiet

/-- The two events of the machine that can start an attempt. -/
theorem turn_event (h : Gated d) {d₁ : Daemon} (huntouched : Untouched d d₁)
    (hrest : d₁.connected = d.connected ∧ d₁.tickets = d.tickets ∧
      d₁.stopRequested = d.stopRequested) (hreconnect : d₁.adapterReconnect = d.adapterReconnect)
    {event : AdapterReconnect.Event} (hevent : event = .connectionLost ∨ event = .retryTimerFired)
    {label : Label} (hemits : d.emitsStartAttempt label =
      ((d.adapterReconnect.onEvent event).2.effect == .startAttempt))
    (hother : d.request? label = none ∧ d.attemptPassed label = .other)
    (hcoupled : Coupled (d₁.onReconnectEvent event)) :
    Gated (d₁.onReconnectEvent event) ∧
      Turn d (d.attemptEvent label) (d₁.onReconnectEvent event) := by
  rw [← hreconnect] at hemits
  by_cases heffect : (d₁.adapterReconnect.onEvent event).2.effect = .startAttempt
  · obtain ⟨hbefore, hattempting⟩ := attempting_of_startAttempt heffect
    rw [hreconnect] at hbefore
    exact turn_started h (e := (d₁.reconnectEvent event).1)
      (huntouched.trans ⟨⟨rfl, rfl, Nat.le_refl _, rfl⟩, rfl, rfl⟩) hrest hbefore hattempting heffect
      (by simpa [hemits] using heffect) hcoupled
  · obtain ⟨hkept, hstate⟩ := onReconnectEvent_quiet heffect hevent
    have hsame : d₁.Attempting ↔ d.Attempting := by
      rw [Attempting, hreconnect]
      rfl
    rw [attemptEvent_of_quiet (by simpa [hemits] using heffect) hother.1, hother.2]
    exact ⟨h.untouched hcoupled (huntouched.trans hkept) (hstate.trans hsame).mp,
      .untouched (huntouched.trans hkept) (hstate.trans hsame)⟩

/-- The part of a supervisor entry that a report or the safety timer makes by itself: a
sequencer at rest is left alone. -/
structure Reports (d d' : Daemon) : Prop where
  kept : Unmoved d d'
  reconnect : d'.adapterReconnect = d.adapterReconnect
  pending : d'.powerLifecycle.pending = d.powerLifecycle.pending
  atRest : d.powerLifecycle.phase = .idle → d'.powerLifecycle = d.powerLifecycle

/-- A supervisor entry that is no request: with an attempt waited for it finds nothing to do. -/
theorem turn_settled (h : Gated d) {e : Daemon} (hreports : Reports d e)
    (hawake : d.Attempting → e.lifecycleShutdown = false → e.suspended = false)
    (hawakened : e.lifecycleShutdown = false → e.suspended = false →
      d.suspended = false ∨ e.reopens = [] ∧ e.results = [])
    (hcoupled : Coupled (settle d.powerLifecycle.pending.length e)) :
    Gated (settle d.powerLifecycle.pending.length e) ∧
      Turn d .other (settle d.powerLifecycle.pending.length e) := by
  have hlifecycle (hattempting : d.Attempting) : e.powerLifecycle = d.powerLifecycle :=
    hreports.atRest (h.resting hattempting)
  have hsame (hattempting : d.Attempting) : settle d.powerLifecycle.pending.length e = e := by
    apply settle_of_rested
    rw [hlifecycle hattempting]
    exact Or.inr (h.drained (h.resting hattempting))
  have hstate : (settle d.powerLifecycle.pending.length e).Attempting ↔ d.Attempting := by
    by_cases hattempting : d.Attempting
    · rw [hsame hattempting, Attempting, hreports.reconnect]
      rfl
    · refine iff_of_false (not_attempting_roundStable.settle seedReconnect_not_attempting _ ?_)
        hattempting
      rwa [Attempting, hreports.reconnect]
  have hsettled := Unmoved.settle d.powerLifecycle.pending.length e
  refine ⟨⟨hcoupled, settle_drains _ (by rw [hreports.pending]), fun hattempting => ?_,
    fun hattempting hopen => ?_⟩, .other (hreports.kept.trans hsettled) hstate
      fun hopen hsuspended => ?_⟩
  · have hbefore := hstate.mp hattempting
    rw [hsame hbefore, hlifecycle hbefore]
    exact h.resting hbefore
  · have hbefore := hstate.mp hattempting
    rw [hsame hbefore] at hopen ⊢
    exact hawake hbefore hopen
  · rw [hsettled.reopens, hsettled.results]
    refine hawakened (hsettled.shutdown ▸ hopen) ?_
    by_contra hraised
    simp [settle_suspended _ (by simpa using hraised)] at hsuspended

/-- Seeding a cycle afterwards disturbs no attempt. -/
theorem turn_seeded (h : Gated d' ∧ Turn d .other d') (hcoupled : Coupled d'.seedReconnect) :
    Gated d'.seedReconnect ∧ Turn d .other d'.seedReconnect := by
  obtain ⟨hgated, hturn⟩ := h
  have huntouched := Untouched.seedReconnect d'
  have hstate : d'.seedReconnect.Attempting ↔ d'.Attempting := by
    by_cases hattempting : d'.Attempting
    · rw [seedReconnect_of_not_idle (by rw [hattempting]; decide)]
    · exact iff_of_false (seedReconnect_not_attempting hattempting) hattempting
  refine ⟨hgated.untouched hcoupled huntouched hstate.mp, ?_⟩
  cases hturn with
  | other hkept hafter hawakened =>
      refine .other (hkept.trans huntouched.toUnmoved) (hstate.trans hafter) fun hopen hawake => ?_
      rw [huntouched.reopens, huntouched.results]
      exact hawakened (huntouched.shutdown ▸ hopen) (huntouched.suspended ▸ hawake)

/-- With nothing outstanding no attempt is. -/
theorem attempts_nil_of_outstanding (h : d.outstanding = []) :
    d.reopens = [] ∧ d.results = [] := by
  simp only [outstanding, List.append_eq_nil_iff, List.map_eq_nil_iff, List.filterMap_eq_nil_iff] at h
  obtain ⟨hposts, hrunning, hjobs⟩ := h
  refine ⟨by simp [reopens, hjobs, hrunning], List.filterMap_eq_nil_iff.mpr fun p hp => ?_⟩
  have htoken := hposts p hp
  cases p <;> simp_all [Post.token, Post.attempt?]

/-- The replayed commands are no attempts. -/
theorem replayJobs_attempt? (commands : List Command) :
    (replayJobs commands).filterMap Job.attempt? = [] := by
  refine List.filterMap_eq_nil_iff.mpr fun job hjob => ?_
  simp only [replayJobs, List.mem_filterMap, Option.bind_eq_some_iff] at hjob
  obtain ⟨command, _, spec, _, hspec⟩ := hjob
  split_ifs at hspec
  rw [← Option.some.inj hspec]
  rfl

/-- A suspend that has reported back. -/
theorem Reports.suspendReported {e : Daemon} (hkept : Unmoved d e)
    (hreconnect : e.adapterReconnect = d.adapterReconnect)
    (hlifecycle : e.powerLifecycle = d.powerLifecycle) :
    Reports d e.suspendReported ∧ e.suspendReported.suspended = e.suspended ∧
      e.suspendReported.outstanding = e.outstanding := by
  unfold Daemon.suspendReported
  split_ifs with hphase
  · refine ⟨⟨hkept.trans ⟨rfl, rfl, Nat.le_refl _, rfl⟩, hreconnect, ?_, fun hidle => ?_⟩, rfl, rfl⟩
    · rw [← hlifecycle]
      rfl
    · rw [hlifecycle, hidle] at hphase
      cases hphase
  · exact ⟨⟨hkept, hreconnect, by rw [hlifecycle], fun _ => hlifecycle⟩, rfl, rfl⟩

theorem Reports.resumeReported {e : Daemon} (hkept : Unmoved d e)
    (hreconnect : e.adapterReconnect = d.adapterReconnect)
    (hlifecycle : e.powerLifecycle = d.powerLifecycle) :
    Reports d e.resumeReported ∧ e.resumeReported.suspended = e.suspended := by
  unfold Daemon.resumeReported
  split_ifs with hphase
  · refine ⟨⟨hkept.trans ⟨rfl, rfl, Nat.le_refl _, rfl⟩, hreconnect, ?_, fun hidle => ?_⟩, rfl⟩
    · rw [← hlifecycle]
      rfl
    · rw [hlifecycle, hidle] at hphase
      cases hphase
  · exact ⟨⟨hkept, hreconnect, by rw [hlifecycle], fun _ => hlifecycle⟩, rfl⟩

theorem Reports.safetyFired (d : Daemon) : Reports d d.safetyFired := by
  refine ⟨⟨rfl, rfl, Nat.le_refl _, rfl⟩, rfl, ?_, fun hidle => ?_⟩
  · unfold Daemon.safetyFired PowerLifecycle.onSafetyTimerFired
    dsimp only
    split_ifs <;> rfl
  · simp [Daemon.safetyFired, PowerLifecycle.onSafetyTimerFired, hidle]

theorem turn_suspendDrained (h : Gated d) {ticket : ℕ} {posts : List Post}
    (hposts : d.posts = .suspendDone ticket :: posts)
    (hcoupled : Coupled (runPost { d with posts := posts } (.suspendDone ticket))) :
    Gated (runPost { d with posts := posts } (.suspendDone ticket)) ∧
      Turn d .other (runPost { d with posts := posts } (.suspendDone ticket)) := by
  have hkept : Unmoved d { d with posts := posts, log := d.log ++ [.invoked ticket] } :=
    ⟨rfl, by simp [results, hposts, List.filterMap_cons, Post.attempt?], Nat.le_refl _, rfl⟩
  obtain ⟨hreports, hsuspended, hout⟩ := Reports.suspendReported hkept rfl rfl
  have heq : runPost { d with posts := posts } (.suspendDone ticket) = settle
      d.powerLifecycle.pending.length
      (suspendReported { d with posts := posts, log := d.log ++ [.invoked ticket] }) :=
    onSuspendCompleted_eq_settle _
  rw [heq] at hcoupled ⊢
  refine turn_settled h hreports (fun hattempting hopen => ?_) (fun hopen _ => Or.inr ?_) hcoupled
  · exact hsuspended.trans (h.awake hattempting (hreports.kept.shutdown ▸ hopen))
  · apply attempts_nil_of_outstanding
    rw [hout]
    exact h.coupled.outstanding_nil_of_power (hreports.kept.shutdown ▸ hopen) hposts rfl rfl

theorem turn_resumeDrained (h : Gated d) {ticket : ℕ} {adapterValid : Bool} {posts : List Post}
    (hposts : d.posts = .resumeDone ticket adapterValid :: posts)
    (hsettled : Coupled (settle d.powerLifecycle.pending.length
      (d.resumedWith ticket adapterValid posts).resumeReported))
    (hcoupled : Coupled (runPost { d with posts := posts } (.resumeDone ticket adapterValid))) :
    Gated (runPost { d with posts := posts } (.resumeDone ticket adapterValid)) ∧
      Turn d .other (runPost { d with posts := posts } (.resumeDone ticket adapterValid)) := by
  have hkept : Unmoved d (d.resumedWith ticket adapterValid posts) := by
    refine ⟨?_, by simp [results, resumedWith, hposts, List.filterMap_cons, Post.attempt?], Nat.le_refl _, rfl⟩
    cases hstop : d.stopRequested <;>
      simp [reopens, resumedWith, hstop, replayJobs_attempt?]
  obtain ⟨hreports, hsuspended⟩ := Reports.resumeReported hkept rfl rfl
  have hnone (hopen : (d.resumedWith ticket adapterValid posts).resumeReported.lifecycleShutdown =
      false) : (d.resumedWith ticket adapterValid posts).resumeReported.reopens = [] ∧
        (d.resumedWith ticket adapterValid posts).resumeReported.results = [] := by
    have hnil := h.coupled.outstanding_nil_of_power (hreports.kept.shutdown ▸ hopen) hposts rfl rfl
    obtain ⟨hreopens, hresults⟩ := attempts_nil_of_outstanding hnil
    rw [hreports.kept.reopens, hreports.kept.results]
    refine ⟨hreopens, ?_⟩
    rw [← hresults]
    simp [results, hposts, List.filterMap_cons, Post.attempt?]
  have hturn := turn_settled h hreports (fun _ _ => hsuspended) (fun hopen _ => Or.inr (hnone hopen))
    hsettled
  rw [runPost_resumeDone] at hcoupled ⊢
  split_ifs at hcoupled ⊢
  · exact hturn
  · exact turn_seeded hturn hcoupled

/-- The result of an attempt, whoever it is for. -/
theorem turn_resultDrained (h : Gated d) {ticket : ℕ} {ok : Bool} {posts : List Post}
    (hposts : d.posts = .reconnectDone ticket ok :: posts)
    (hcoupled : Coupled (runPost { d with posts := posts } (.reconnectDone ticket ok))) :
    Gated (runPost { d with posts := posts } (.reconnectDone ticket ok)) ∧
      Turn d (.drained ticket) (runPost { d with posts := posts } (.reconnectDone ticket ok)) := by
  have hquiet : (d.adapterReconnect.onEvent
      (if ok then .attemptSucceeded else .attemptFailed)).2.effect ≠ .startAttempt := by
    apply AdapterReconnect.onEvent_effect_ne_startAttempt <;> cases ok <;> simp
  have hafter : ¬ (runPost { d with posts := posts } (.reconnectDone ticket ok)).Attempting :=
    executeWithin_not_attempting hquiet (d.adapterReconnect.onEvent_result_state ok)
  have huntouched : Untouched { d with posts := posts }
      (runPost { d with posts := posts } (.reconnectDone ticket ok)) := by
    have hnoted : Untouched { d with posts := posts } (reconnectEvent
        { d with posts := posts, log := d.log ++ [.invoked ticket] }
        (if ok then .attemptSucceeded else .attemptFailed)).1 :=
      ⟨⟨rfl, rfl, Nat.le_refl _, rfl⟩, rfl, rfl⟩
    exact hnoted.trans (Untouched.executeWithin hquiet)
  have hdrained : (runPost { d with posts := posts } (.reconnectDone ticket ok)).powerLifecycle =
      d.powerLifecycle := huntouched.powerLifecycle
  refine ⟨⟨hcoupled, by rw [hdrained]; exact h.drained, fun hattempting => absurd hattempting hafter,
    fun hattempting => absurd hattempting hafter⟩, .drained ?_ huntouched.reopens hafter
      huntouched.tickets huntouched.shutdown huntouched.suspended⟩
  rw [huntouched.results]
  simp [results, hposts, Post.attempt?]

theorem turn_drained (h : Gated d) {p : Post} {posts : List Post} (hposts : d.posts = p :: posts)
    (hcoupled : Coupled (runPost { d with posts := posts } p)) :
    Gated (runPost { d with posts := posts } p) ∧
      Turn d (d.attemptEvent .drain) (runPost { d with posts := posts } p) := by
  have hquiet (hp : p ≠ .connectionLost) : d.emitsStartAttempt .drain = false := by
    simp [emitsStartAttempt, hposts, hp]
  have hdrained (hattempt : p.attempt? = none) : Untouched d { d with posts := posts } :=
    ⟨⟨rfl, by simp [results, hposts, hattempt], Nat.le_refl _, rfl⟩, rfl, rfl⟩
  cases p with
  | suspendDone ticket =>
      rw [attemptEvent_of_quiet (hquiet (by simp)) (by simp [request?, hposts])]
      simpa only [attemptPassed, hposts] using turn_suspendDrained h hposts hcoupled
  | resumeDone ticket adapterValid =>
      rw [attemptEvent_of_quiet (hquiet (by simp)) (by simp [request?, hposts])]
      have hsettled := (h.coupled.resumeReported_resumedWith hposts).settle
        d.powerLifecycle.pending.length
      simpa only [attemptPassed, hposts] using turn_resumeDrained h hposts hsettled hcoupled
  | reconnectDone ticket ok =>
      rw [attemptEvent_of_quiet (hquiet (by simp)) (by simp [request?, hposts])]
      simpa only [attemptPassed, hposts] using turn_resultDrained h hposts hcoupled
  | reply id response =>
      rw [attemptEvent_of_quiet (hquiet (by simp)) (by simp [request?, hposts])]
      have huntouched : Untouched d (runPost { d with posts := posts } (.reply id response)) :=
        (hdrained rfl).trans ⟨⟨rfl, rfl, Nat.le_refl _, rfl⟩, rfl, rfl⟩
      simpa only [attemptPassed, hposts] using
        ⟨h.untouched hcoupled huntouched fun hstate => hstate, Turn.untouched huntouched Iff.rfl⟩
  | connectionLost =>
      apply turn_event h (hdrained rfl) ⟨rfl, rfl, rfl⟩ rfl (Or.inl rfl) _ _ hcoupled
      · simp [emitsStartAttempt, hposts]
      · simp [request?, attemptPassed, hposts]
  | power kind =>
      have hrequest : d.request? .drain = some ⟨kind, .dbus⟩ := by simp [request?, hposts]
      rw [attemptEvent_of_request hrequest]
      rw [runPost_power] at hcoupled ⊢
      exact turn_requested h (hdrained rfl).toUnmoved rfl rfl rfl _ hcoupled

/-- What a job posts is a result just if the job is an attempt. -/
theorem attempt?_of_completes {job : Job} {p : Post} (h : job.Completes (some p)) :
    p.attempt? = job.attempt? := by
  cases job with
  | suspend ticket => cases h; rfl
  | resume ticket => obtain ⟨_, h⟩ := h; cases h; rfl
  | reconnect ticket => obtain ⟨_, h⟩ := h; cases h; rfl
  | live command spec => obtain ⟨_, h⟩ := h; cases h; rfl
  | replay command spec => cases h

/-- A job ends. -/
theorem turn_finished (h : Gated d) {r : Running} {result : Except Exn (Option Post)}
    {throttler : CommandThrottler} (hrunning : d.running = some r)
    (hrest : r.rest = .ret (result, throttler))
    (hcoupled : Coupled (d.finishJob r.job result throttler)) :
    Gated (d.finishJob r.job result throttler) ∧
      Turn d (d.attemptEvent .workerFinish) (d.finishJob r.job result throttler) := by
  have hpart : (d.finishJob r.job result throttler).powerLifecycle = d.powerLifecycle ∧
      (d.finishJob r.job result throttler).adapterReconnect = d.adapterReconnect ∧
      (d.finishJob r.job result throttler).lifecycleShutdown = d.lifecycleShutdown ∧
      (d.finishJob r.job result throttler).suspended = d.suspended ∧
      (d.finishJob r.job result throttler).tickets = d.tickets ∧
      (d.finishJob r.job result throttler).reopens = d.jobs.filterMap Job.attempt? := by
    rcases result with _ | (_ | p) <;> exact ⟨rfl, rfl, rfl, rfl, rfl, rfl⟩
  obtain ⟨hlifecycle, hreconnect, hshut, hsuspended, htickets, hreopens⟩ := hpart
  have hstate : (d.finishJob r.job result throttler).Attempting ↔ d.Attempting := by
    rw [Attempting, hreconnect]
    rfl
  have hends := h.coupled.completes r hrunning
  rw [hrest] at hends
  have hresults : (d.finishJob r.job result throttler).results = d.results ∨
      (d.finishJob r.job result throttler).results = d.results ++ r.job.attempt?.toList := by
    rcases result with _ | (_ | p)
    · exact Or.inl rfl
    · exact Or.inl rfl
    · right
      rw [← attempt?_of_completes (hends _ rfl)]
      cases hattempt : p.attempt? <;>
        simp [finishJob, results, List.filterMap_append, hattempt]
  refine ⟨⟨hcoupled, by rw [hlifecycle]; exact h.drained, fun hattempting => ?_,
    fun hattempting hopen => ?_⟩, ?_⟩
  · rw [hlifecycle]
    exact h.resting (hstate.mp hattempting)
  · rw [hsuspended]
    exact h.awake (hstate.mp hattempting) (hshut ▸ hopen)
  have hbefore : d.reopens = r.job.attempt?.toList ++ d.jobs.filterMap Job.attempt? := by
    cases hattempt : r.job.attempt? <;> simp [reopens, hrunning, hattempt]
  rw [attemptEvent_of_quiet rfl rfl]
  rw [← hreopens] at hbefore
  generalize d.finishJob r.job result throttler = d' at *
  cases hjob : r.job with
  | reconnect ticket =>
      rw [hjob] at hbefore hresults
      simp only [attemptPassed, hrunning, Option.map_some, hjob]
      exact .ended hbefore hresults hstate htickets hshut hsuspended
  | _ =>
      rw [hjob] at hbefore hresults
      simp only [attemptPassed, hrunning, Option.map_some, hjob]
      refine .untouched ⟨⟨hbefore.symm, ?_, htickets.ge, hshut⟩, hsuspended, hlifecycle⟩ hstate
      simpa [Job.attempt?] using hresults

/-- **What a step does to the attempts** is what its event says. -/
theorem gated_turn_of_step (h : Gated d) {label : Label} (hstep : machine.step d label = some d') :
    Gated d' ∧ Turn d (d.attemptEvent label) d' := by
  have hcoupled : Coupled d' := Coupled.stable.step h.coupled trivial hstep
  have haside (huntouched : Untouched d d') (hreconnect : d'.adapterReconnect = d.adapterReconnect)
      (hevent : d.attemptEvent label = .other) : Gated d' ∧ Turn d (d.attemptEvent label) d' := by
    have hstate : d'.Attempting ↔ d.Attempting := by rw [Attempting, hreconnect]; rfl
    exact ⟨h.untouched hcoupled huntouched hstate.mp, hevent ▸ .untouched huntouched hstate⟩
  have hplain {connected : Bool} : Untouched d { d with connected := connected } :=
    ⟨⟨rfl, rfl, Nat.le_refl _, rfl⟩, rfl, rfl⟩
  cases moves_of_step hstep with
  | wire message =>
      cases d.receives message with
      | requested hrequest heq =>
          rename_i request
          obtain ⟨hgated, hturn⟩ := turn_requested h (.refl d) rfl rfl rfl request
            (Coupled.stable.onRequested h.coupled request)
          rw [attemptEvent_of_request hrequest]
          rw [heq] at hcoupled ⊢
          generalize d.onRequested request = handled at *
          refine ⟨hgated.untouched hcoupled ⟨⟨rfl, rfl, Nat.le_refl _, rfl⟩, rfl, rfl⟩
            fun hstate => hstate, ?_⟩
          cases hturn with
          | requested hkept hafter hsuspended hfenced =>
              exact .requested (hkept.trans ⟨rfl, rfl, Nat.le_refl _, rfl⟩) hafter hsuspended hfenced
      | dispatched hrequest hdispatches =>
          have hevent : d.attemptEvent (.wire message) = .other :=
            attemptEvent_of_quiet rfl hrequest
          generalize d.receive message = d' at *
          cases hdispatches with
          | answered response => exact haside ⟨⟨rfl, rfl, Nat.le_refl _, rfl⟩, rfl, rfl⟩ rfl hevent
          | standby enabled response =>
              exact haside ⟨⟨rfl, rfl, Nat.le_refl _, rfl⟩, rfl, rfl⟩ rfl hevent
          | parked => exact haside ⟨⟨rfl, rfl, Nat.le_refl _, rfl⟩, rfl, rfl⟩ rfl hevent
          | live =>
              refine haside ⟨⟨?_, rfl, Nat.le_refl _, rfl⟩, rfl, rfl⟩ rfl hevent
              split_ifs <;> simp [reopens, Job.attempt?]
  | dbusSignal kind =>
      refine haside ⟨⟨rfl, ?_, Nat.le_refl _, rfl⟩, rfl, rfl⟩ rfl rfl
      simp [results, Post.attempt?]
  | drain hposts => exact turn_drained h hposts hcoupled
  | safetyTimer =>
      rw [onSafetyTimerFired_eq_settle] at hcoupled ⊢
      exact turn_settled h (Reports.safetyFired d) h.awake (fun _ hawake => Or.inl hawake) hcoupled
  | retryTimer =>
      have hconsumed : Untouched d { d with reconnectRetryTimer := d.reconnectRetryTimer.consume } :=
        ⟨⟨rfl, rfl, Nat.le_refl _, rfl⟩, rfl, rfl⟩
      exact turn_event h hconsumed ⟨rfl, rfl, rfl⟩ rfl (Or.inr rfl) rfl ⟨rfl, rfl⟩ hcoupled
  | safetyExpire => exact haside ⟨⟨rfl, rfl, Nat.le_refl _, rfl⟩, rfl, rfl⟩ rfl rfl
  | retryExpire => exact haside ⟨⟨rfl, rfl, Nat.le_refl _, rfl⟩, rfl, rfl⟩ rfl rfl
  | workerTake hrunning hjobs hstop =>
      refine haside ⟨⟨?_, rfl, Nat.le_refl _, rfl⟩, rfl, rfl⟩ rfl rfl
      simp [reopens, takeJob, hrunning, hjobs]
  | workerExit => exact haside hplain rfl rfl
  | alertStore => exact haside ⟨⟨rfl, rfl, Nat.le_refl _, rfl⟩, rfl, rfl⟩ rfl rfl
  | alertPost halerting =>
      refine haside ⟨⟨rfl, ?_, Nat.le_refl _, rfl⟩, rfl, rfl⟩ rfl rfl
      simp [results, Post.attempt?]
  | stop =>
      have hstopped : d.stop.reopens = (d.running.toList.map Running.job).filterMap Job.attempt? ∧
          d.stop.results = d.results ∧ (d.stop.Attempting ↔ d.Attempting) ∧
          d.stop.tickets = d.tickets ∧ d.stop.lifecycleShutdown = true ∧
          d.stop.powerLifecycle = d.powerLifecycle := by
        rw [stop_eq]
        exact ⟨by simp [reopens], rfl, Iff.rfl, rfl, rfl, rfl⟩
      obtain ⟨hreopens, hresults, hstate, htickets, hshut, hlifecycle⟩ := hstopped
      refine ⟨⟨hcoupled, by rw [hlifecycle]; exact h.drained, fun hattempting => ?_,
        fun _ hopen => ?_⟩, .stopped ?_ hresults hstate htickets hshut⟩
      · rw [hlifecycle]
        exact h.resting (hstate.mp hattempting)
      · rw [hshut] at hopen
        cases hopen
      · rw [hreopens, reopens, List.filterMap_append]
        exact List.sublist_append_left _ _
  | working hrunning hworks =>
      cases hworks with
      | finished hrest => exact turn_finished h hrunning hrest hcoupled
      | _ =>
          refine haside ⟨⟨?_, rfl, Nat.le_refl _, rfl⟩, rfl, rfl⟩ rfl rfl
          simp [reopens, hrunning]

/-- An attempt comes last, and nothing else comes in. -/
theorem Turn.underWay {event : AttemptEvent} (h : Turn d event d') :
    event = .handedOver ∧ d'.underWay = d.underWay ++ [d.tickets] ∧ d.tickets < d'.tickets ∨
      d'.underWay.Sublist d.underWay ∧ d.tickets ≤ d'.tickets := by
  have hsame (hkept : Unmoved d d') : d'.underWay.Sublist d.underWay ∧ d.tickets ≤ d'.tickets := by
    refine ⟨?_, hkept.tickets⟩
    rw [Daemon.underWay, hkept.reopens, hkept.results]
    exact .refl _
  cases h with
  | handedOver hopen hawake hshut hsuspended hbefore hafter hreopens hresults htickets =>
      refine Or.inl ⟨rfl, ?_, htickets⟩
      rw [Daemon.underWay, hreopens, hresults, ← List.append_assoc]
      rfl
  | answered hkept | requested hkept | other hkept => exact Or.inr (hsame hkept)
  | ended hreopens hresults hafter htickets =>
      refine Or.inr ⟨?_, htickets.ge⟩
      rw [Daemon.underWay, Daemon.underWay, hreopens]
      rcases hresults with hresults | hresults <;> rw [hresults]
      · exact (List.sublist_cons_self _ _).append_left _
      · rw [List.append_assoc]
        exact .refl _
  | drained hresults hreopens hafter htickets =>
      refine Or.inr ⟨?_, htickets⟩
      rw [Daemon.underWay, Daemon.underWay, hreopens, hresults]
      exact List.sublist_cons_self _ _
  | stopped hreopens hresults hafter htickets =>
      refine Or.inr ⟨?_, htickets.ge⟩
      rw [Daemon.underWay, Daemon.underWay, hresults]
      exact hreopens.append_left _

theorem Gated.boot (setup : Setup) : Gated (boot setup) where
  coupled := Coupled.boot setup
  drained _ := rfl
  resting _ := rfl
  awake _ _ := rfl

theorem enabled_of_emits {label : Label} (hemits : d.emitsStartAttempt label = true) :
    ∃ d', machine.step d label = some d' := by
  cases label with
  | retryTimer => exact ⟨_, rfl⟩
  | drain =>
      simp only [emitsStartAttempt, Bool.and_eq_true, beq_iff_eq] at hemits
      obtain ⟨posts, hposts⟩ := List.head?_eq_some_iff.mp hemits.1
      exact ⟨runPost { d with posts := posts } .connectionLost, by simp only [machine, step, hposts]⟩
  | _ => simp [emitsStartAttempt] at hemits

end Daemon

end CecControl
