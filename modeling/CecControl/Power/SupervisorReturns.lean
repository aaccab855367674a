/-
# Every entry of the supervisor returns

Whatever the environment answers, a call into the supervisor comes back: each
completion that arrives inside a call has taken a request off the queue, and a
reconnect attempt that fails inside the call can be followed by one failed timer
and one abandonment, no more. When the call is back the queue has been worked off
as far as it can be, and both timers say what the state machines think they say.

Carrying out a reconnect effect is treated first. What it needs to find is
`Primed`; what it leaves alone is `Keeps`.
-/

import CecControl.Power.PowerSupervisor

namespace CecControl

open PowerLifecycle Lib

universe u

namespace PowerSupervisor

variable {E : Type u}

/-! ## What the timers should say -/

/-- The retry timer is set, or has expired unread, just while a retry is waited for. If
it was reported as expired and no other retry scheduled, it still has expired. -/
structure RetryTimed (s : PowerSupervisor E) : Prop where
  timed : s.reconnectRetryTimer ≠ .disarmed ↔ s.adapterReconnect.state = .waitingForRetry
  undisturbed : s.undisturbed = true → s.adapterReconnect.state = .waitingForRetry →
    s.reconnectRetryTimer = .expired

/-- Outside `waitingForRetry` a disarmed timer is as it should be. -/
theorem RetryTimed.rested {s : PowerSupervisor E} (htimer : s.reconnectRetryTimer = .disarmed)
    (hstate : s.adapterReconnect.state ≠ .waitingForRetry) : s.RetryTimed where
  timed := by simp [htimer, hstate]
  undisturbed _ h := absurd h hstate

theorem RetryTimed.disarmed {s : PowerSupervisor E} (h : s.RetryTimed)
    (hstate : s.adapterReconnect.state ≠ .waitingForRetry) : s.reconnectRetryTimer = .disarmed := by
  by_contra hset
  exact hstate (h.timed.mp hset)

/-- The safety timer is set, or has expired unread, just during a suspend whose entry
could set it and in which it has not fired. -/
structure SafetyTimed (s : PowerSupervisor E) : Prop where
  timed : s.suspendSafetyTimer ≠ .disarmed ↔
    s.powerLifecycle.phase = .suspending ∧ s.armedBy = s.entries ∧ s.firedIn ≠ s.entries
  fired : s.powerLifecycle.phase = .suspending →
    (s.powerLifecycle.safetyFiredFirst = true ↔ s.firedIn = s.entries)
  armedBy_le : s.armedBy ≤ s.entries
  firedIn_le : s.firedIn ≤ s.entries

theorem SafetyTimed.disarmed {s : PowerSupervisor E} (h : s.SafetyTimed)
    (hphase : s.powerLifecycle.phase ≠ .suspending) : s.suspendSafetyTimer = .disarmed := by
  by_contra hset
  exact hphase (h.timed.mp hset).1

/-- Between suspends a disarmed timer is as it should be. -/
theorem SafetyTimed.rested {s : PowerSupervisor E} (htimer : s.suspendSafetyTimer = .disarmed)
    (hphase : s.powerLifecycle.phase ≠ .suspending) (harmed : s.armedBy ≤ s.entries)
    (hfired : s.firedIn ≤ s.entries) : s.SafetyTimed where
  timed := by simp [htimer, hphase]
  fired h := absurd h hphase
  armedBy_le := harmed
  firedIn_le := hfired

/-! ## Carrying out a reconnect effect -/

/-- What the reconnect machine has no part in. -/
structure Keeps (s s' : PowerSupervisor E) : Prop where
  powerLifecycle : s'.powerLifecycle = s.powerLifecycle
  suspendSafetyTimer : s'.suspendSafetyTimer = s.suspendSafetyTimer
  works : s'.works = s.works
  entries : s'.entries = s.entries
  armedBy : s'.armedBy = s.armedBy
  firedIn : s'.firedIn = s.firedIn

theorem Keeps.refl (s : PowerSupervisor E) : Keeps s s := ⟨rfl, rfl, rfl, rfl, rfl, rfl⟩

theorem Keeps.trans {s s' s'' : PowerSupervisor E} (h : Keeps s s') (h' : Keeps s' s'') :
    Keeps s s'' :=
  ⟨h'.powerLifecycle.trans h.powerLifecycle, h'.suspendSafetyTimer.trans h.suspendSafetyTimer,
    h'.works.trans h.works, h'.entries.trans h.entries, h'.armedBy.trans h.armedBy,
    h'.firedIn.trans h.firedIn⟩

theorem Keeps.safetyTimed {s s' : PowerSupervisor E} (h : Keeps s s') (hs : s.SafetyTimed) :
    s'.SafetyTimed where
  timed := by rw [h.suspendSafetyTimer, h.powerLifecycle, h.armedBy, h.entries, h.firedIn]; exact hs.timed
  fired := by rw [h.powerLifecycle, h.entries, h.firedIn]; exact hs.fired
  armedBy_le := by rw [h.armedBy, h.entries]; exact hs.armedBy_le
  firedIn_le := by rw [h.firedIn, h.entries]; exact hs.firedIn_le

/-- The state in which an effect of the reconnect machine may be carried out. -/
def Primed (s : PowerSupervisor E) (out : AdapterReconnect.Output) : Prop :=
  match out.effect with
  | .none => s.RetryTimed
  | .startAttempt => s.adapterReconnect.state = .attempting
  | .scheduleRetry =>
      s.adapterReconnect.state = .waitingForRetry ∧ s.reconnectRetryTimer = .disarmed
  | .cancelRetry => s.adapterReconnect.state = .idle
  | .abandonCycle => s.adapterReconnect.state = .idle ∧ s.reconnectRetryTimer = .disarmed

/-- With the timer in step, every event primes its effect. -/
theorem primed_reconnectEvent {s : PowerSupervisor E} (h : s.RetryTimed)
    {event : AdapterReconnect.Event} (hevent : event ≠ .timerArmFailed) :
    (s.reconnectEvent event).1.Primed (s.reconnectEvent event).2 := by
  have habsorbed (hsame : s.adapterReconnect.onEvent event = (s.adapterReconnect, {})) :
      (s.reconnectEvent event).1.Primed (s.reconnectEvent event).2 := by
    simp only [reconnectEvent, hsame, Primed]
    exact ⟨h.timed, h.undisturbed⟩
  cases hstate : s.adapterReconnect.state with
  | idle =>
      have hdisarmed := h.disarmed (by simp [hstate])
      by_cases hlost : event = .connectionLost
      · by_cases hdelay : s.adapterReconnect.connectionLostDelay > 0 <;>
          simp [Primed, reconnectEvent, AdapterReconnect.onEvent, hstate, hlost, hdelay, hdisarmed]
      · apply habsorbed
        simp [AdapterReconnect.onEvent, hstate, hlost]
  | attempting =>
      have hdisarmed := h.disarmed (by simp [hstate])
      have hreset (heq : s.adapterReconnect.onEvent event = (s.adapterReconnect.resetCycle, {})) :
          (s.reconnectEvent event).1.Primed (s.reconnectEvent event).2 := by
        simp only [reconnectEvent, heq, Primed]
        exact RetryTimed.rested hdisarmed (by simp)
      cases event with
      | attemptFailed =>
          rcases AdapterReconnect.onEvent_attemptFailed_of_attempting hstate with
            ⟨_, _, heq⟩ | ⟨_, heq⟩
          · simp [Primed, reconnectEvent, heq, hdisarmed]
          · simp [Primed, reconnectEvent, heq, hdisarmed]
      | timerArmFailed => exact absurd rfl hevent
      | attemptSucceeded => exact hreset (by simp [AdapterReconnect.onEvent, hstate])
      | systemSuspend => exact hreset (by simp [AdapterReconnect.onEvent, hstate])
      | systemResume => exact hreset (by simp [AdapterReconnect.onEvent, hstate])
      | connectionLost => exact habsorbed (by simp [AdapterReconnect.onEvent, hstate])
      | retryTimerFired => exact habsorbed (by simp [AdapterReconnect.onEvent, hstate])
  | waitingForRetry =>
      cases event with
      | timerArmFailed => exact absurd rfl hevent
      | attemptSucceeded => exact habsorbed (by simp [AdapterReconnect.onEvent, hstate])
      | attemptFailed => exact habsorbed (by simp [AdapterReconnect.onEvent, hstate])
      | _ => simp [Primed, reconnectEvent, AdapterReconnect.onEvent, hstate]

theorem primed_seedCycle {s : PowerSupervisor E} (h : s.RetryTimed) :
    Primed { s with adapterReconnect := (s.adapterReconnect.seedCycle kPostResumeRetryDelay).1 }
      (s.adapterReconnect.seedCycle kPostResumeRetryDelay).2 := by
  by_cases hidle : s.adapterReconnect.state = .idle
  · simp [Primed, AdapterReconnect.seedCycle, hidle, h.disarmed (by simp [hidle])]
  · simp only [AdapterReconnect.seedCycle, ne_eq, hidle, not_false_eq_true, if_true]
    exact ⟨h.timed, h.undisturbed⟩

/-- Carrying out an effect returns once `depth` nested calls are allowed, keeps the power
side as it is, and leaves the retry timer in step if the effect was primed. -/
def Carried (ports : Ports E) (depth : ℕ) (s : PowerSupervisor E)
    (out : AdapterReconnect.Output) : Prop :=
  ∃ s', (∀ allowed, depth ≤ allowed → execute ports allowed s out = some s') ∧ Keeps s s' ∧
    (s.Primed out → s'.RetryTimed)

variable {ports : Ports E}

theorem Carried.mono {depth depth' : ℕ} {s : PowerSupervisor E} {out : AdapterReconnect.Output}
    (h : Carried ports depth s out) (hle : depth ≤ depth') : Carried ports depth' s out := by
  obtain ⟨s', hreturns, hkeeps, htimed⟩ := h
  exact ⟨s', fun allowed hallowed => hreturns allowed (Nat.le_trans hle hallowed), hkeeps, htimed⟩

/-- An effect that asks nobody for an answer. -/
theorem carried_of_eq (ports : Ports E) (s s' : PowerSupervisor E) {out : AdapterReconnect.Output}
    (heq : ∀ depth, execute ports (depth + 1) s out = some s') (hkeeps : Keeps s s')
    (htimed : s.Primed out → s'.RetryTimed) : Carried ports 1 s out := by
  refine ⟨s', fun allowed hallowed => ?_, hkeeps, htimed⟩
  obtain ⟨depth, rfl⟩ := Nat.exists_eq_add_of_le' hallowed
  exact heq depth

theorem carried_of_final (ports : Ports E) (s : PowerSupervisor E) (out : AdapterReconnect.Output)
    (hstart : out.effect ≠ .startAttempt) (hschedule : out.effect ≠ .scheduleRetry) :
    Carried ports 1 s out := by
  cases heffect : out.effect with
  | startAttempt => exact absurd heffect hstart
  | scheduleRetry => exact absurd heffect hschedule
  | none =>
      apply carried_of_eq ports s s (fun _ => by simp [execute, heffect]) (.refl s)
      intro hprimed
      simpa [Primed, heffect] using hprimed
  | cancelRetry =>
      apply carried_of_eq ports s { s with reconnectRetryTimer := .disarmed }
        (fun _ => by simp [execute, heffect]) ⟨rfl, rfl, rfl, rfl, rfl, rfl⟩
      intro hprimed
      have hidle : s.adapterReconnect.state = .idle := by simpa [Primed, heffect] using hprimed
      exact RetryTimed.rested rfl (by simp [hidle])
  | abandonCycle =>
      apply carried_of_eq ports s { s with env := ports.onAdapterUnrecoverable s.env }
        (fun _ => by simp [execute, heffect]) ⟨rfl, rfl, rfl, rfl, rfl, rfl⟩
      intro hprimed
      have hidle : s.adapterReconnect.state = .idle ∧ s.reconnectRetryTimer = .disarmed := by
        simpa [Primed, heffect] using hprimed
      exact RetryTimed.rested hidle.2 (by simp [hidle.1])

/-- A retry has been scheduled, or could not be. -/
def scheduled (ports : Ports E) (s : PowerSupervisor E) (delay : ℕ) : PowerSupervisor E :=
  { s with
    env := (ports.armOnce s.env).1
    reconnectRetryTimer := s.reconnectRetryTimer.armOnce delay (ports.armOnce s.env).2
    undisturbed := false }

theorem execute_scheduleRetry (ports : Ports E) (depth : ℕ) (s : PowerSupervisor E)
    {out : AdapterReconnect.Output} (heffect : out.effect = .scheduleRetry) :
    execute ports (depth + 1) s out =
      if (ports.armOnce s.env).2 then some (s.scheduled ports out.delay)
      else execute ports depth ((s.scheduled ports out.delay).reconnectEvent .timerArmFailed).1
        ((s.scheduled ports out.delay).reconnectEvent .timerArmFailed).2 := by
  simp only [execute, heffect]
  rfl

/-- An attempt has been asked for. -/
def asked (ports : Ports E) (s : PowerSupervisor E) : PowerSupervisor E :=
  { s with env := (ports.reconnectAsync s.env).1, reconnectRetryTimer := .disarmed }

/-- The event an attempt ends with. -/
def resultEvent (ok : Bool) : AdapterReconnect.Event :=
  if ok then .attemptSucceeded else .attemptFailed

theorem execute_startAttempt (ports : Ports E) (depth : ℕ) (s : PowerSupervisor E)
    {out : AdapterReconnect.Output} (heffect : out.effect = .startAttempt) :
    execute ports (depth + 1) s out =
      (ports.reconnectAsync s.env).2.elim (some (s.asked ports)) fun ok =>
        execute ports depth ((s.asked ports).reconnectEvent (resultEvent ok)).1
          ((s.asked ports).reconnectEvent (resultEvent ok)).2 := by
  simp only [execute, heffect, TimerSource.disarm_eq, asked]
  generalize ports.reconnectAsync s.env = answer
  obtain ⟨env, _ | ok⟩ := answer
  · rfl
  · rfl

/-- A retry that cannot be scheduled is abandoned. -/
theorem carried_scheduleRetry (s : PowerSupervisor E) {out : AdapterReconnect.Output}
    (heffect : out.effect = .scheduleRetry) : Carried ports 2 s out := by
  have heq (depth : ℕ) := execute_scheduleRetry ports depth s heffect
  have hprimed_iff : s.Primed out ↔
      s.adapterReconnect.state = .waitingForRetry ∧ s.reconnectRetryTimer = .disarmed := by
    simp [Primed, heffect]
  cases hok : (ports.armOnce s.env).2 with
  | true =>
      refine ⟨s.scheduled ports out.delay, fun allowed hallowed => ?_,
        ⟨rfl, rfl, rfl, rfl, rfl, rfl⟩, fun hprimed => ⟨?_, by simp [scheduled]⟩⟩
      · obtain ⟨depth, rfl⟩ := Nat.exists_eq_add_of_le' (Nat.le_of_succ_le hallowed)
        rw [heq, if_pos hok]
      · simp [scheduled, TimerSource.armOnce, hok, (hprimed_iff.mp hprimed).1]
  | false =>
      let told := (s.scheduled ports out.delay).reconnectEvent .timerArmFailed
      have heffect' := s.adapterReconnect.onEvent_timerArmFailed_effect
      obtain ⟨s', hreturns, hkeeps, htimed⟩ := carried_of_final ports told.1 told.2
        (by rcases heffect' with h | h <;> simp [told, reconnectEvent, scheduled, h])
        (by rcases heffect' with h | h <;> simp [told, reconnectEvent, scheduled, h])
      refine ⟨s', fun allowed hallowed => ?_, ?_, fun hprimed => htimed ?_⟩
      · obtain ⟨depth, rfl⟩ := Nat.exists_eq_add_of_le' (Nat.le_of_succ_le hallowed)
        rw [heq, if_neg (by simp [hok])]
        exact hreturns depth (by omega)
      · have hsame : Keeps s told.1 := ⟨rfl, rfl, rfl, rfl, rfl, rfl⟩
        exact hsame.trans hkeeps
      · obtain ⟨hstate, hdisarmed⟩ := hprimed_iff.mp hprimed
        simp [told, Primed, reconnectEvent, scheduled, AdapterReconnect.onEvent, hstate,
          TimerSource.armOnce, hok, hdisarmed]

/-- An attempt may be over before the call returns. -/
theorem carried_startAttempt (s : PowerSupervisor E) {out : AdapterReconnect.Output}
    (heffect : out.effect = .startAttempt) : Carried ports 3 s out := by
  have heq (depth : ℕ) := execute_startAttempt ports depth s heffect
  have hrested (hprimed : s.Primed out) : (s.asked ports).RetryTimed := by
    have hstate : s.adapterReconnect.state = .attempting := by simpa [Primed, heffect] using hprimed
    exact RetryTimed.rested rfl (by simp [asked, hstate])
  cases hanswer : (ports.reconnectAsync s.env).2 with
  | none =>
      refine ⟨s.asked ports, fun allowed hallowed => ?_, ⟨rfl, rfl, rfl, rfl, rfl, rfl⟩, hrested⟩
      obtain ⟨depth, rfl⟩ := Nat.exists_eq_add_of_le' (Nat.le_trans (by decide) hallowed : 1 ≤ _)
      rw [heq, hanswer]
      rfl
  | some ok =>
      let told := (s.asked ports).reconnectEvent (resultEvent ok)
      have hevent : resultEvent ok ≠ .connectionLost ∧ resultEvent ok ≠ .retryTimerFired ∧
          resultEvent ok ≠ .timerArmFailed := by
        cases ok <;> simp [resultEvent]
      have hnever : told.2.effect ≠ .startAttempt :=
        s.adapterReconnect.onEvent_effect_ne_startAttempt hevent.1 hevent.2.1
      have hnext : Carried ports 2 told.1 told.2 := by
        by_cases hschedule : told.2.effect = .scheduleRetry
        · exact carried_scheduleRetry _ hschedule
        · exact (carried_of_final ports _ _ hnever hschedule).mono (by decide)
      obtain ⟨s', hreturns, hkeeps, htimed⟩ := hnext
      refine ⟨s', fun allowed hallowed => ?_, ?_, fun hprimed => htimed ?_⟩
      · obtain ⟨depth, rfl⟩ := Nat.exists_eq_add_of_le' (Nat.le_trans (by decide) hallowed : 1 ≤ _)
        rw [heq, hanswer]
        exact hreturns depth (by omega)
      · have hsame : Keeps s told.1 := ⟨rfl, rfl, rfl, rfl, rfl, rfl⟩
        exact hsame.trans hkeeps
      · exact primed_reconnectEvent (hrested hprimed) hevent.2.2

/-- Nothing nests deeper than an attempt that fails at once, a retry that cannot be
scheduled, and an abandonment. -/
theorem carried (ports : Ports E) (s : PowerSupervisor E) (out : AdapterReconnect.Output) :
    Carried ports 3 s out := by
  by_cases hstart : out.effect = .startAttempt
  · exact carried_startAttempt s hstart
  · by_cases hschedule : out.effect = .scheduleRetry
    · exact (carried_scheduleRetry s hschedule).mono (by decide)
    · exact (carried_of_final ports s out hstart hschedule).mono (by decide)

theorem onReconnectEvent_returns (ports : Ports E) (s : PowerSupervisor E)
    (event : AdapterReconnect.Event) :
    ∃ s', (∀ depth, 3 ≤ depth → s.onReconnectEvent ports depth event = some s') ∧ Keeps s s' ∧
      (s.RetryTimed → event ≠ .timerArmFailed → s'.RetryTimed) := by
  obtain ⟨s', hreturns, hkeeps, htimed⟩ :=
    carried ports (s.reconnectEvent event).1 (s.reconnectEvent event).2
  have hsame : Keeps s (s.reconnectEvent event).1 := ⟨rfl, rfl, rfl, rfl, rfl, rfl⟩
  exact ⟨s', hreturns, hsame.trans hkeeps,
    fun hs hevent => htimed (primed_reconnectEvent hs hevent)⟩

theorem seedReconnect_returns (ports : Ports E) (s : PowerSupervisor E) :
    ∃ s', (∀ depth, 3 ≤ depth → s.seedReconnect ports depth = some s') ∧ Keeps s s' ∧
      (s.RetryTimed → s'.RetryTimed) := by
  obtain ⟨s', hreturns, hkeeps, htimed⟩ := carried ports
    { s with adapterReconnect := (s.adapterReconnect.seedCycle kPostResumeRetryDelay).1 }
    (s.adapterReconnect.seedCycle kPostResumeRetryDelay).2
  refine ⟨s', hreturns, ?_, fun hs => htimed (primed_seedCycle hs)⟩
  have hsame : Keeps s { s with
      adapterReconnect := (s.adapterReconnect.seedCycle kPostResumeRetryDelay).1 } :=
    ⟨rfl, rfl, rfl, rfl, rfl, rfl⟩
  exact hsame.trans hkeeps

/-! ## Entering a suspend or a resume -/

/-- Both timers are in step with their machines. -/
structure Timed (s : PowerSupervisor E) : Prop where
  retry : s.RetryTimed
  safety : s.SafetyTimed

/-- Entering a suspend cancels the retry and sets the safety timer. -/
theorem suspendEntry_returns (ports : Ports E) {s : PowerSupervisor E} {source : Source}
    {rest : List Pending} (hphase : s.powerLifecycle.phase = .idle)
    (hpending : s.powerLifecycle.pending = ⟨.suspend, source⟩ :: rest) :
    ∃ s', (∀ depth, 3 ≤ depth → quietEffects ports depth
        { s with powerLifecycle := s.powerLifecycle.pumpQueue.1 }
        s.powerLifecycle.pumpQueue.2 = some s') ∧
      s'.powerLifecycle.phase = .suspending ∧ s'.powerLifecycle.pending = rest ∧
      s'.works = s.works ∧ (s.Timed → s'.Timed) := by
  have hpump := pumpQueue_suspend hphase hpending
  obtain ⟨told, hreturns, hkeeps, htimed⟩ := onReconnectEvent_returns ports
    { s with powerLifecycle := s.powerLifecycle.pumpQueue.1 } .systemSuspend
  have hentered : told.powerLifecycle = PowerLifecycle.mk .suspending source false rest := by
    rw [hkeeps.powerLifecycle, hpump]
    rfl
  refine ⟨told.armSafety ports kSuspendSafetyDeadline, fun depth hdepth => ?_, ?_, ?_, ?_,
    fun hs => ?_⟩
  · have hnotify := hreturns depth hdepth
    simp only [hpump, makeSuspendEntry] at hnotify
    simp [quietEffects, hpump, makeSuspendEntry, notify, hnotify]
  · cases hok : (ports.armOnce told.env).2 <;>
      simp [armSafety, hok, onSafetyTimerArmFailed, hentered]
  · cases hok : (ports.armOnce told.env).2 <;>
      simp [armSafety, hok, onSafetyTimerArmFailed, hentered]
  · exact hkeeps.works
  · have hdisarmed : told.suspendSafetyTimer = .disarmed := by
      rw [hkeeps.suspendSafetyTimer]
      exact hs.safety.disarmed (by simp [hphase])
    have harmed : told.armedBy ≤ told.entries := by
      rw [hkeeps.armedBy, hkeeps.entries]
      exact hs.safety.armedBy_le
    have hfired : told.firedIn ≤ told.entries := by
      rw [hkeeps.firedIn, hkeeps.entries]
      exact hs.safety.firedIn_le
    have htold := htimed ⟨hs.retry.timed, hs.retry.undisturbed⟩ (by simp)
    refine ⟨⟨htold.timed, htold.undisturbed⟩, ?_⟩
    cases hok : (ports.armOnce told.env).2 with
    | true =>
        constructor <;> simp [armSafety, hok, hentered, TimerSource.armOnce] <;> omega
    | false =>
        constructor <;>
          simp [armSafety, hok, hentered, TimerSource.armOnce, onSafetyTimerArmFailed, hdisarmed] <;>
          omega

/-- Entering a resume cancels the retry. -/
theorem resumeEntry_returns (ports : Ports E) {s : PowerSupervisor E} {source : Source}
    {rest : List Pending} (hphase : s.powerLifecycle.phase = .idle)
    (hpending : s.powerLifecycle.pending = ⟨.resume, source⟩ :: rest) :
    ∃ s', (∀ depth, 3 ≤ depth → quietEffects ports depth
        { s with powerLifecycle := s.powerLifecycle.pumpQueue.1 }
        s.powerLifecycle.pumpQueue.2 = some s') ∧
      s'.powerLifecycle.phase = .resuming ∧ s'.powerLifecycle.pending = rest ∧
      s'.works = s.works ∧ (s.Timed → s'.Timed) := by
  have hpump := pumpQueue_resume hphase hpending
  obtain ⟨told, hreturns, hkeeps, htimed⟩ := onReconnectEvent_returns ports
    { s with powerLifecycle := s.powerLifecycle.pumpQueue.1 } .systemResume
  have hentered : told.powerLifecycle.phase = .resuming ∧ told.powerLifecycle.pending = rest := by
    rw [hkeeps.powerLifecycle, hpump]
    exact ⟨rfl, rfl⟩
  refine ⟨told, fun depth hdepth => ?_, hentered.1, hentered.2, hkeeps.works, fun hs => ?_⟩
  · have hnotify := hreturns depth hdepth
    simp only [hpump, makeResumeEntry] at hnotify
    simp [quietEffects, hpump, makeResumeEntry, notify, hnotify]
  · refine ⟨htimed ⟨hs.retry.timed, hs.retry.undisturbed⟩ (by simp), ?_⟩
    apply SafetyTimed.rested
    · rw [hkeeps.suspendSafetyTimer]
      exact hs.safety.disarmed (by simp [hphase])
    · simp [hentered.1]
    · rw [hkeeps.armedBy, hkeeps.entries]
      exact hs.safety.armedBy_le
    · rw [hkeeps.firedIn, hkeeps.entries]
      exact hs.safety.firedIn_le

/-! ## Applying an output -/

/-- The outputs handed to `applyLifecycle` from outside: they start no work, notify
nobody and set no timer. -/
structure Plain (out : Output) : Prop where
  work : out.work = .none
  reconnectNotify : out.reconnectNotify = .none
  safetyTimer : out.safetyTimer ≠ .arm

/-- What such an output does. -/
def applied (ports : Ports E) (s : PowerSupervisor E) (out : Output) : PowerSupervisor E :=
  { s with
    suspendSafetyTimer := if out.safetyTimer = .disarm then .disarmed else s.suspendSafetyTimer
    env := if out.lock = .none then s.env else ports.lock s.env out.lock }

theorem executeEffects_plain (ports : Ports E) (depth : ℕ)
    (onSuspendCompleted : PowerSupervisor E → Option (PowerSupervisor E))
    (onResumeCompleted : PowerSupervisor E → Bool → Option (PowerSupervisor E))
    (s : PowerSupervisor E) {out : Output} (hplain : Plain out) :
    executeEffects ports depth onSuspendCompleted onResumeCompleted s out =
      some (s.applied ports out) := by
  by_cases hdisarm : out.safetyTimer = .disarm <;> by_cases hlock : out.lock = .none <;>
    simp [executeEffects, quietEffects, notify, applied, hplain.work, hplain.reconnectNotify,
      hplain.safetyTimer, hdisarm, hlock]

theorem applied_inert (ports : Ports E) (s : PowerSupervisor E) : s.applied ports {} = s := by
  simp [applied]

/-- From `s` to `s'` at most `works` works were started, and nothing is left that could
be. -/
structure Applies (works : ℕ) (s s' : PowerSupervisor E) : Prop where
  works_le : s'.works ≤ s.works + works
  idle : s'.powerLifecycle.phase = .idle → s'.powerLifecycle.pending = []
  timed : s.Timed → s'.Timed

/-- The pump of an `applyLifecycle` to which `depth` nested calls are left. -/
def pump (ports : Ports E) (depth : ℕ) (s : PowerSupervisor E) : Option (PowerSupervisor E) :=
  executeEffects ports depth (suspendCompletedWith ports (applyLifecycle ports depth))
    (resumeCompletedWith ports depth (applyLifecycle ports depth))
    { s with powerLifecycle := s.powerLifecycle.pumpQueue.1 } s.powerLifecycle.pumpQueue.2

theorem applyLifecycle_plain (ports : Ports E) (depth : ℕ) (s : PowerSupervisor E) {out : Output}
    (hplain : Plain out) :
    applyLifecycle ports (depth + 1) s out = (s.applied ports out).pump ports depth := by
  simp only [applyLifecycle, executeEffects_plain ports depth _ _ s hplain, Option.bind_some]
  rfl

/-- A pump that finds nothing to do. -/
theorem pump_of_inert (ports : Ports E) (depth : ℕ) {s : PowerSupervisor E}
    (h : s.powerLifecycle.pumpQueue = (s.powerLifecycle, {})) : s.pump ports depth = some s := by
  unfold pump
  rw [h, executeEffects_plain ports depth _ _ _ ⟨rfl, rfl, by simp⟩]
  exact congrArg some (applied_inert ports s)

/-- The completion of the suspend in flight hands on a plain output. -/
theorem suspendCompletedWith_plain (ports : Ports E) {s : PowerSupervisor E}
    (hphase : s.powerLifecycle.phase = .suspending) :
    ∃ s' out, (∀ apply, suspendCompletedWith ports apply s = apply s' out) ∧ Plain out ∧
      s'.powerLifecycle.pending = s.powerLifecycle.pending ∧ s'.works = s.works ∧
      (s.Timed → (s'.applied ports out).Timed) := by
  refine ⟨_, _, fun apply => rfl, ?_, ?_, ?_, fun hs => ⟨?_, ?_⟩⟩
  · rw [onSuspendCompleted_of_suspending hphase]
    exact ⟨rfl, rfl, by simp⟩
  · rw [onSuspendCompleted_of_suspending hphase]
  · simp [noteFinished, active, hphase, note]
  · constructor
    · simpa [applied, noteFinished, active, hphase, note] using hs.retry.timed
    · simpa [applied, noteFinished, active, hphase, note] using hs.retry.undisturbed
  · apply SafetyTimed.rested
    · simp [applied, onSuspendCompleted_of_suspending hphase]
    · simp [applied, onSuspendCompleted_of_suspending hphase]
    · simpa [applied, noteFinished, active, hphase, note] using hs.safety.armedBy_le
    · simpa [applied, noteFinished, active, hphase, note] using hs.safety.firedIn_le

/-- So does the completion of the resume in flight, before the reconnect cycle is seeded. -/
theorem resumeCompletedWith_plain (ports : Ports E) {s : PowerSupervisor E}
    (hphase : s.powerLifecycle.phase = .resuming) (adapterValid : Bool) :
    ∃ s' out, (∀ depth apply, resumeCompletedWith ports depth apply s adapterValid =
        (apply s' out).bind fun s =>
          if adapterValid then some s else s.seedReconnect ports depth) ∧ Plain out ∧
      s'.powerLifecycle.pending = s.powerLifecycle.pending ∧ s'.works = s.works ∧
      (s.Timed → (s'.applied ports out).Timed) := by
  refine ⟨_, _, fun depth apply => rfl, ?_, ?_, ?_, fun hs => ⟨?_, ?_⟩⟩
  · rw [onResumeCompleted_of_resuming hphase]
    exact ⟨rfl, rfl, by simp⟩
  · rw [onResumeCompleted_of_resuming hphase]
  · simp [noteFinished, active, hphase, note]
  · constructor
    · simpa [applied, noteFinished, active, hphase, note] using hs.retry.timed
    · simpa [applied, noteFinished, active, hphase, note] using hs.retry.undisturbed
  · apply SafetyTimed.rested
    · have hdisarmed := hs.safety.disarmed (by simp [hphase])
      simpa [applied, onResumeCompleted_of_resuming hphase, noteFinished, active, hphase, note]
        using hdisarmed
    · simp [applied, onResumeCompleted_of_resuming hphase]
    · simpa [applied, noteFinished, active, hphase, note] using hs.safety.armedBy_le
    · simpa [applied, noteFinished, active, hphase, note] using hs.safety.firedIn_le

/-- The suspend work has been handed over. -/
def suspendSubmitted (ports : Ports E) (s : PowerSupervisor E) : PowerSupervisor E :=
  { s.noteStarted ports with
    env := (ports.suspendAsync (s.noteStarted ports).env).1
    works := (s.noteStarted ports).works + 1 }

/-- The resume work has been handed over. -/
def resumeSubmitted (ports : Ports E) (s : PowerSupervisor E) : PowerSupervisor E :=
  { s.noteStarted ports with
    env := (ports.resumeAsync (s.noteStarted ports).env).1
    works := (s.noteStarted ports).works + 1 }

theorem submitSuspendWork_eq (ports : Ports E)
    (onSuspendCompleted : PowerSupervisor E → Option (PowerSupervisor E)) (s : PowerSupervisor E) :
    submitSuspendWork ports onSuspendCompleted s =
      if (ports.suspendAsync (s.noteStarted ports).env).2 then
        onSuspendCompleted (s.suspendSubmitted ports)
      else some (s.suspendSubmitted ports) := by
  simp only [submitSuspendWork, suspendSubmitted]
  generalize s.noteStarted ports = started
  generalize ports.suspendAsync started.env = answer
  obtain ⟨env, _ | _⟩ := answer
  · rfl
  · rfl

theorem submitResumeWork_eq (ports : Ports E)
    (onResumeCompleted : PowerSupervisor E → Bool → Option (PowerSupervisor E))
    (s : PowerSupervisor E) :
    submitResumeWork ports onResumeCompleted s =
      (ports.resumeAsync (s.noteStarted ports).env).2.elim (some (s.resumeSubmitted ports))
        (onResumeCompleted (s.resumeSubmitted ports)) := by
  simp only [submitResumeWork, resumeSubmitted]
  generalize s.noteStarted ports = started
  generalize ports.resumeAsync started.env = answer
  obtain ⟨env, _ | adapterValid⟩ := answer
  · rfl
  · rfl

/-- Handing over work counts it, and does nothing else. -/
structure Submits (s s' : PowerSupervisor E) : Prop where
  powerLifecycle : s'.powerLifecycle = s.powerLifecycle
  works : s'.works = s.works + 1
  timed : s.Timed → s'.Timed

theorem noteStarted_keeps (ports : Ports E) (s : PowerSupervisor E) :
    Keeps s (s.noteStarted ports) ∧ (s.RetryTimed → (s.noteStarted ports).RetryTimed) := by
  unfold noteStarted
  cases s.powerLifecycle.active with
  | none => exact ⟨.refl s, fun h => h⟩
  | some request =>
      exact ⟨⟨rfl, rfl, rfl, rfl, rfl, rfl⟩, fun h => ⟨h.timed, h.undisturbed⟩⟩

theorem submits_suspendSubmitted (ports : Ports E) (s : PowerSupervisor E) :
    Submits s (s.suspendSubmitted ports) := by
  obtain ⟨hkeeps, hretry⟩ := noteStarted_keeps ports s
  refine ⟨hkeeps.powerLifecycle, congrArg (· + 1) hkeeps.works, fun hs => ?_⟩
  have hsafety := hkeeps.safetyTimed hs.safety
  exact ⟨⟨(hretry hs.retry).timed, (hretry hs.retry).undisturbed⟩, hsafety.timed, hsafety.fired,
    hsafety.armedBy_le, hsafety.firedIn_le⟩

theorem submits_resumeSubmitted (ports : Ports E) (s : PowerSupervisor E) :
    Submits s (s.resumeSubmitted ports) := by
  obtain ⟨hkeeps, hretry⟩ := noteStarted_keeps ports s
  refine ⟨hkeeps.powerLifecycle, congrArg (· + 1) hkeeps.works, fun hs => ?_⟩
  have hsafety := hkeeps.safetyTimed hs.safety
  exact ⟨⟨(hretry hs.retry).timed, (hretry hs.retry).undisturbed⟩, hsafety.timed, hsafety.fired,
    hsafety.armedBy_le, hsafety.firedIn_le⟩

/-- `applyLifecycle` returns for every queue of at most this length. -/
def Returns (ports : Ports E) (queued : ℕ) : Prop :=
  ∀ (s : PowerSupervisor E) (out : Output), s.powerLifecycle.pending.length ≤ queued → Plain out →
    ∃ s', (∀ depth, queued + 4 ≤ depth → applyLifecycle ports depth s out = some s') ∧
      Applies queued (s.applied ports out) s'

theorem pump_suspend_returns {queued : ℕ} (ih : Returns ports queued) {s : PowerSupervisor E}
    {source : Source} {rest : List Pending} (hphase : s.powerLifecycle.phase = .idle)
    (hpending : s.powerLifecycle.pending = ⟨.suspend, source⟩ :: rest)
    (hrest : rest.length ≤ queued) :
    ∃ s', (∀ depth, queued + 4 ≤ depth → s.pump ports depth = some s') ∧
      Applies (queued + 1) s s' := by
  obtain ⟨entered, hreturns, hsuspending, hleft, hworks, htimed⟩ :=
    suspendEntry_returns ports hphase hpending
  have hsubmits := submits_suspendSubmitted ports entered
  have hcount := hsubmits.works
  rw [hworks] at hcount
  have hpump (depth : ℕ) (hdepth : queued + 4 ≤ depth) : s.pump ports depth =
      if (ports.suspendAsync (entered.noteStarted ports).env).2 then
        suspendCompletedWith ports (applyLifecycle ports depth) (entered.suspendSubmitted ports)
      else some (entered.suspendSubmitted ports) := by
    have hwork : s.powerLifecycle.pumpQueue.2.work = .startSuspend := by
      rw [pumpQueue_suspend hphase hpending]
      rfl
    simp only [pump, executeEffects, hreturns depth (by omega), Option.bind_some, hwork,
      submitSuspendWork_eq]
  cases hnow : (ports.suspendAsync (entered.noteStarted ports).env).2 with
  | false =>
      refine ⟨entered.suspendSubmitted ports, fun depth hdepth => ?_, by omega, fun hidle => ?_,
        fun hs => hsubmits.timed (htimed hs)⟩
      · rw [hpump depth hdepth, if_neg (by simp [hnow])]
      · rw [hsubmits.powerLifecycle, hsuspending] at hidle
        cases hidle
  | true =>
      obtain ⟨done, out, heq, hplain, hqueue, hdone, hrested⟩ :=
        suspendCompletedWith_plain ports (s := entered.suspendSubmitted ports)
          (by rw [hsubmits.powerLifecycle, hsuspending])
      obtain ⟨s', happlied, happlies⟩ :=
        ih done out (by rw [hqueue, hsubmits.powerLifecycle, hleft]; exact hrest) hplain
      refine ⟨s', fun depth hdepth => ?_, ?_, happlies.idle,
        fun hs => happlies.timed (hrested (hsubmits.timed (htimed hs)))⟩
      · rw [hpump depth hdepth, if_pos hnow, heq]
        exact happlied depth hdepth
      · have hle := happlies.works_le
        simp only [applied, hdone, hcount] at hle
        omega

theorem pump_resume_returns {queued : ℕ} (ih : Returns ports queued) {s : PowerSupervisor E}
    {source : Source} {rest : List Pending} (hphase : s.powerLifecycle.phase = .idle)
    (hpending : s.powerLifecycle.pending = ⟨.resume, source⟩ :: rest)
    (hrest : rest.length ≤ queued) :
    ∃ s', (∀ depth, queued + 4 ≤ depth → s.pump ports depth = some s') ∧
      Applies (queued + 1) s s' := by
  obtain ⟨entered, hreturns, hresuming, hleft, hworks, htimed⟩ :=
    resumeEntry_returns ports hphase hpending
  have hsubmits := submits_resumeSubmitted ports entered
  have hcount := hsubmits.works
  rw [hworks] at hcount
  have hpump (depth : ℕ) (hdepth : queued + 4 ≤ depth) : s.pump ports depth =
      (ports.resumeAsync (entered.noteStarted ports).env).2.elim
        (some (entered.resumeSubmitted ports))
        (resumeCompletedWith ports depth (applyLifecycle ports depth)
          (entered.resumeSubmitted ports)) := by
    have hwork : s.powerLifecycle.pumpQueue.2.work = .startResume := by
      rw [pumpQueue_resume hphase hpending]
      rfl
    simp only [pump, executeEffects, hreturns depth (by omega), Option.bind_some, hwork,
      submitResumeWork_eq]
  cases hnow : (ports.resumeAsync (entered.noteStarted ports).env).2 with
  | none =>
      refine ⟨entered.resumeSubmitted ports, fun depth hdepth => ?_, by omega, fun hidle => ?_,
        fun hs => hsubmits.timed (htimed hs)⟩
      · rw [hpump depth hdepth, hnow]
        rfl
      · rw [hsubmits.powerLifecycle, hresuming] at hidle
        cases hidle
  | some adapterValid =>
      obtain ⟨done, out, heq, hplain, hqueue, hdone, hrested⟩ :=
        resumeCompletedWith_plain ports (s := entered.resumeSubmitted ports)
          (by rw [hsubmits.powerLifecycle, hresuming]) adapterValid
      obtain ⟨s', happlied, happlies⟩ :=
        ih done out (by rw [hqueue, hsubmits.powerLifecycle, hleft]; exact hrest) hplain
      have hle := happlies.works_le
      simp only [applied, hdone, hcount] at hle
      have hresult (depth : ℕ) (hdepth : queued + 4 ≤ depth) : s.pump ports depth =
          if adapterValid then some s' else s'.seedReconnect ports depth := by
        rw [hpump depth hdepth, hnow]
        exact (heq depth _).trans (by rw [happlied depth hdepth]; rfl)
      cases adapterValid with
      | true =>
          exact ⟨s', hresult, by omega, happlies.idle,
            fun hs => happlies.timed (hrested (hsubmits.timed (htimed hs)))⟩
      | false =>
          obtain ⟨seeded, hseeded, hkeeps, hseedTimed⟩ := seedReconnect_returns ports s'
          refine ⟨seeded, fun depth hdepth => ?_, by rw [hkeeps.works]; omega, ?_, fun hs => ?_⟩
          · exact (hresult depth hdepth).trans (hseeded depth (by omega))
          · rw [hkeeps.powerLifecycle]
            exact happlies.idle
          · have hs' := happlies.timed (hrested (hsubmits.timed (htimed hs)))
            exact ⟨hseedTimed hs'.retry, hkeeps.safetyTimed hs'.safety⟩

theorem pump_returns {queued : ℕ} (ih : Returns ports queued) {s : PowerSupervisor E}
    (hqueued : s.powerLifecycle.pending.length ≤ queued + 1) :
    ∃ s', (∀ depth, queued + 4 ≤ depth → s.pump ports depth = some s') ∧
      Applies (queued + 1) s s' := by
  by_cases hphase : s.powerLifecycle.phase = .idle
  · cases hpending : s.powerLifecycle.pending with
    | nil =>
        refine ⟨s, fun depth _ => pump_of_inert ports depth (pumpQueue_of_nil hpending), by omega,
          fun _ => hpending, fun hs => hs⟩
    | cons next rest =>
        obtain ⟨kind, source⟩ := next
        have hrest : rest.length ≤ queued := by simpa [hpending] using hqueued
        cases kind with
        | suspend => exact pump_suspend_returns ih hphase hpending hrest
        | resume => exact pump_resume_returns ih hphase hpending hrest
  · exact ⟨s, fun depth _ => pump_of_inert ports depth (pumpQueue_of_busy hphase), by omega,
      fun hidle => absurd hidle hphase, fun hs => hs⟩

/-- **The supervisor's recursion ends.** Each nested call has taken a request off the
queue. -/
theorem applyLifecycle_returns (ports : Ports E) (queued : ℕ) : Returns ports queued := by
  induction queued with
  | zero =>
      intro s out hqueued hplain
      have hnil : (s.applied ports out).powerLifecycle.pending = [] :=
        List.length_eq_zero_iff.mp (Nat.le_zero.mp hqueued)
      refine ⟨s.applied ports out, fun depth hdepth => ?_, by omega, fun _ => hnil, fun hs => hs⟩
      obtain ⟨depth, rfl⟩ := Nat.exists_eq_add_of_le' (Nat.le_trans (by decide) hdepth : 1 ≤ depth)
      rw [applyLifecycle_plain ports depth s hplain]
      exact pump_of_inert ports depth (pumpQueue_of_nil hnil)
  | succ queued ih =>
      intro s out hqueued hplain
      obtain ⟨s', hpump, happlies⟩ := pump_returns ih (s := s.applied ports out) hqueued
      refine ⟨s', fun depth hdepth => ?_, happlies⟩
      obtain ⟨depth, rfl⟩ := Nat.exists_eq_add_of_le' (Nat.le_trans (by omega) hdepth : 1 ≤ depth)
      rw [applyLifecycle_plain ports depth s hplain]
      exact hpump depth (by omega)

/-! ## Entries -/

/-- A wake-up of the safety timer that is not spurious, or not during a suspend. -/
def Genuine (s : PowerSupervisor E) (entry : Entry) : Prop :=
  entry = .safetyTimerFired →
    s.suspendSafetyTimer = .expired ∨ s.powerLifecycle.phase ≠ .suspending

/-- What an entry comes to: it starts no more works than there were requests, its own
included, leaves nothing that could be started, and keeps the timers in step. -/
structure Entered (s : PowerSupervisor E) (entry : Entry) (s' : PowerSupervisor E) : Prop where
  works_le : s'.works ≤ s.works + (s.powerLifecycle.pending.length + 1)
  idle : s'.powerLifecycle.phase = .idle → s'.powerLifecycle.pending = []
  timed : s.Genuine entry → s.Timed → s'.Timed

/-- An output is applied after a small change. -/
theorem entered_of_applyLifecycle (ports : Ports E) (s changed : PowerSupervisor E) (out : Output)
    {entry : Entry} (hplain : Plain out) (hworks : changed.works = s.works)
    (hpending : changed.powerLifecycle.pending.length ≤ s.powerLifecycle.pending.length + 1)
    (htimed : s.Genuine entry → s.Timed → (changed.applied ports out).Timed) :
    ∃ s', (∀ depth, s.depthBound ≤ depth → applyLifecycle ports depth changed out = some s') ∧
      Entered s entry s' := by
  obtain ⟨s', hreturns, happlies⟩ := applyLifecycle_returns ports _ changed out hpending hplain
  refine ⟨s', fun depth hdepth => hreturns depth hdepth, ?_, happlies.idle,
    fun hgenuine hs => happlies.timed (htimed hgenuine hs)⟩
  have hle := happlies.works_le
  simpa [applied, hworks] using hle

/-- An event of the reconnect machine starts no works. -/
theorem entered_of_reconnectEvent (ports : Ports E) (s changed : PowerSupervisor E) {entry : Entry}
    (event : AdapterReconnect.Event)
    (hs : s.powerLifecycle.phase = .idle → s.powerLifecycle.pending = [])
    (hkeeps : Keeps s changed)
    (hprimed : s.RetryTimed → (changed.reconnectEvent event).1.Primed
      (changed.reconnectEvent event).2) :
    ∃ s', (∀ depth, s.depthBound ≤ depth →
        changed.onReconnectEvent ports depth event = some s') ∧ Entered s entry s' := by
  obtain ⟨s', hreturns, hkept, htimed⟩ :=
    carried ports (changed.reconnectEvent event).1 (changed.reconnectEvent event).2
  have hfed : Keeps changed (changed.reconnectEvent event).1 := ⟨rfl, rfl, rfl, rfl, rfl, rfl⟩
  have hall := hkeeps.trans (hfed.trans hkept)
  refine ⟨s', fun depth hdepth => ?_, ?_, ?_, fun _ h => ?_⟩
  · apply hreturns
    unfold depthBound at hdepth
    omega
  · rw [hall.works]
    exact Nat.le_add_right _ _
  · rw [hall.powerLifecycle]
    exact hs
  · exact ⟨htimed (hprimed h.retry), hall.safetyTimed h.safety⟩

/-- Reading the timer does no harm to the event that follows. -/
theorem primed_retryTimerFired {s : PowerSupervisor E} (h : s.RetryTimed) :
    let read := reconnectEvent { s with reconnectRetryTimer := s.reconnectRetryTimer.consume }
      .retryTimerFired
    read.1.Primed read.2 := by
  by_cases hstate : s.adapterReconnect.state = .waitingForRetry
  · simp [Primed, reconnectEvent, AdapterReconnect.onEvent, hstate]
  · have hdisarmed : s.reconnectRetryTimer.consume = .disarmed := by
      rw [h.disarmed hstate]
      rfl
    apply primed_reconnectEvent _ (by simp)
    exact RetryTimed.rested hdisarmed hstate

theorem entered_onRequested (ports : Ports E) (s : PowerSupervisor E) (request : Pending)
    {entry : Entry} :
    ∃ s', (∀ depth, s.depthBound ≤ depth → s.onRequested ports depth request = some s') ∧
      Entered s entry s' := by
  have heq := PowerLifecycle.onRequested_eq s.powerLifecycle request.kind request.source
  apply entered_of_applyLifecycle ports s
  · simp only [note, heq]
    exact ⟨rfl, rfl, by simp⟩
  · rfl
  · simp only [note, heq]
    split_ifs <;> simp
  · intro _ hs
    simp only [note, heq, applied_inert]
    refine ⟨⟨hs.retry.timed, hs.retry.undisturbed⟩, ?_⟩
    -- queueing a request changes neither phase nor flag
    have hphase : (if s.powerLifecycle.unfinished.getLast? = some request then s.powerLifecycle
        else { s.powerLifecycle with
          pending := s.powerLifecycle.pending ++ [request] }).phase = s.powerLifecycle.phase := by
      split_ifs <;> rfl
    have hflag : (if s.powerLifecycle.unfinished.getLast? = some request then s.powerLifecycle
        else { s.powerLifecycle with
          pending := s.powerLifecycle.pending ++ [request] }).safetyFiredFirst =
        s.powerLifecycle.safetyFiredFirst := by
      split_ifs <;> rfl
    refine ⟨?_, ?_, hs.safety.armedBy_le, hs.safety.firedIn_le⟩
    · simpa only [hphase] using hs.safety.timed
    · simpa only [hphase, hflag] using hs.safety.fired

theorem entered_suspendCompleted (ports : Ports E) (s : PowerSupervisor E) :
    ∃ s', (∀ depth, s.depthBound ≤ depth →
        suspendCompletedWith ports (applyLifecycle ports depth) s = some s') ∧
      Entered s .suspendCompleted s' := by
  by_cases hphase : s.powerLifecycle.phase = .suspending
  · obtain ⟨done, out, heq, hplain, hqueue, hworks, hrested⟩ :=
      suspendCompletedWith_plain ports hphase
    simp only [heq]
    apply entered_of_applyLifecycle ports s done out hplain hworks
    · rw [hqueue]
      exact Nat.le_succ _
    · exact fun _ => hrested
  · have hsame : s.noteFinished ports .suspend = s := by
      unfold noteFinished active
      cases h : s.powerLifecycle.phase <;> simp_all
    simp only [suspendCompletedWith, onSuspendCompleted_of_not_suspending hphase, hsame]
    apply entered_of_applyLifecycle ports s s {} ⟨rfl, rfl, by simp⟩ rfl (Nat.le_succ _)
    intro _ hs
    rw [applied_inert]
    exact hs

theorem entered_resumeCompleted (ports : Ports E) (s : PowerSupervisor E) (adapterValid : Bool) :
    ∃ s', (∀ depth, s.depthBound ≤ depth →
        resumeCompletedWith ports depth (applyLifecycle ports depth) s adapterValid = some s') ∧
      Entered s (.resumeCompleted adapterValid) s' := by
  have happly : ∃ changed out, (∀ depth apply, resumeCompletedWith ports depth apply s adapterValid =
        (apply changed out).bind fun s =>
          if adapterValid then some s else s.seedReconnect ports depth) ∧ Plain out ∧
      changed.powerLifecycle.pending = s.powerLifecycle.pending ∧ changed.works = s.works ∧
      (s.Timed → (changed.applied ports out).Timed) := by
    by_cases hphase : s.powerLifecycle.phase = .resuming
    · exact resumeCompletedWith_plain ports hphase adapterValid
    · have hsame : s.noteFinished ports .resume = s := by
        unfold noteFinished active
        cases h : s.powerLifecycle.phase <;> simp_all
      refine ⟨s, {}, fun depth apply => ?_, ⟨rfl, rfl, by simp⟩, rfl, rfl, fun hs => ?_⟩
      · simp only [resumeCompletedWith, onResumeCompleted_of_not_resuming hphase, hsame]
      · rw [applied_inert]
        exact hs
  obtain ⟨changed, out, heq, hplain, hqueue, hworks, hrested⟩ := happly
  obtain ⟨s', hreturns, hentered⟩ := (entered_of_applyLifecycle ports s changed out hplain
    hworks (by rw [hqueue]; exact Nat.le_succ _) fun _ => hrested : ∃ s', _ ∧
      Entered s (.resumeCompleted adapterValid) s')
  have hresult (depth : ℕ) (hdepth : s.depthBound ≤ depth) :
      resumeCompletedWith ports depth (applyLifecycle ports depth) s adapterValid =
        if adapterValid then some s' else s'.seedReconnect ports depth := by
    rw [heq, hreturns depth hdepth]
    rfl
  cases adapterValid with
  | true => exact ⟨s', hresult, hentered⟩
  | false =>
      obtain ⟨seeded, hseeded, hkeeps, hseedTimed⟩ := seedReconnect_returns ports s'
      refine ⟨seeded, fun depth hdepth => ?_, ?_, ?_, fun hgenuine hs => ?_⟩
      · refine (hresult depth hdepth).trans (hseeded depth ?_)
        unfold depthBound at hdepth
        omega
      · rw [hkeeps.works]
        exact hentered.works_le
      · rw [hkeeps.powerLifecycle]
        exact hentered.idle
      · have hs' := hentered.timed hgenuine hs
        exact ⟨hseedTimed hs'.retry, hkeeps.safetyTimed hs'.safety⟩

/-- The safety timer fires in the suspend in flight, once. -/
theorem onSafetyTimerFired_cases (p : PowerLifecycle) :
    (p.phase ≠ .suspending ∨ p.safetyFiredFirst = true) ∧ p.onSafetyTimerFired = (p, {}) ∨
      p.phase = .suspending ∧ ∃ out, p.onSafetyTimerFired = ({ p with safetyFiredFirst := true }, out) ∧
        out.safety = .fired ∧ Plain out ∧ out.safetyTimer = .none := by
  unfold PowerLifecycle.onSafetyTimerFired
  by_cases hinert : p.phase ≠ .suspending ∨ p.safetyFiredFirst = true
  · exact Or.inl ⟨hinert, if_pos hinert⟩
  · rw [if_neg hinert]
    rw [not_or, not_not] at hinert
    refine Or.inr ⟨hinert.1, _, rfl, ?_⟩
    split_ifs <;> exact ⟨rfl, ⟨rfl, rfl, by simp⟩, rfl⟩

theorem entered_safetyTimerFired (ports : Ports E) (s : PowerSupervisor E) :
    ∃ s', (∀ depth, s.depthBound ≤ depth → s.onSafetyTimerFired ports depth = some s') ∧
      Entered s .safetyTimerFired s' := by
  unfold onSafetyTimerFired
  rcases onSafetyTimerFired_cases s.powerLifecycle with
    ⟨hinert, heq⟩ | ⟨hsuspending, out, heq, hfired, hplain, htimer⟩
  · simp only [heq, reduceCtorEq, if_false]
    apply entered_of_applyLifecycle ports s
      { s with suspendSafetyTimer := s.suspendSafetyTimer.consume } {} ⟨rfl, rfl, by simp⟩ (by rfl)
      (Nat.le_succ _)
    intro _ hs
    rw [applied_inert]
    -- a wake-up without effect finds the timer read or never set
    have hdisarmed : s.suspendSafetyTimer = .disarmed := by
      by_contra hset
      obtain ⟨hphase, _, hunfired⟩ := hs.safety.timed.mp hset
      rcases hinert with hnot | hflag
      · exact hnot hphase
      · exact hunfired ((hs.safety.fired hphase).mp hflag)
    refine ⟨⟨hs.retry.timed, hs.retry.undisturbed⟩, ?_, hs.safety.fired, hs.safety.armedBy_le,
      hs.safety.firedIn_le⟩
    simpa [hdisarmed, TimerSource.consume] using hs.safety.timed
  · simp only [heq, hfired, if_true]
    apply entered_of_applyLifecycle ports s _ out hplain (by rfl) (by simp)
    intro hgenuine hs
    have hexpired := (hgenuine rfl).resolve_right (not_not.mpr hsuspending)
    refine ⟨⟨hs.retry.timed, hs.retry.undisturbed⟩, ?_, ?_, hs.safety.armedBy_le, Nat.le_refl _⟩
    · simp [applied, hexpired, htimer, TimerSource.consume]
    · simp [applied]

/-- Every entry returns. -/
theorem enter_returns (ports : Ports E) (s : PowerSupervisor E) (entry : Entry)
    (hs : s.powerLifecycle.phase = .idle → s.powerLifecycle.pending = []) :
    ∃ s', (∀ depth, s.depthBound ≤ depth → enter ports depth s entry = some s') ∧
      Entered s entry s' := by
  cases entry with
  | suspendRequested source => exact entered_onRequested ports s ⟨.suspend, source⟩
  | resumeRequested source => exact entered_onRequested ports s ⟨.resume, source⟩
  | suspendCompleted => exact entered_suspendCompleted ports s
  | resumeCompleted adapterValid => exact entered_resumeCompleted ports s adapterValid
  | safetyTimerFired => exact entered_safetyTimerFired ports s
  | connectionLost =>
      apply entered_of_reconnectEvent ports s s .connectionLost hs (.refl s)
      exact fun h => primed_reconnectEvent h (by simp)
  | reconnectResult ok =>
      apply entered_of_reconnectEvent ports s s _ hs (.refl s)
      apply fun h => primed_reconnectEvent h _
      cases ok <;> simp
  | reconnectRetryTimerFired =>
      apply entered_of_reconnectEvent ports s
        { s with reconnectRetryTimer := s.reconnectRetryTimer.consume } .retryTimerFired hs
        ⟨rfl, rfl, rfl, rfl, rfl, rfl⟩
      exact primed_retryTimerFired

/-! ## A suspend in flight -/

/-- The same suspend is in flight, and its timer as it was. -/
structure InFlight (s s' : PowerSupervisor E) : Prop where
  phase : s'.powerLifecycle.phase = .suspending
  entries : s'.entries = s.entries
  suspendSafetyTimer : s'.suspendSafetyTimer = s.suspendSafetyTimer

theorem Keeps.inFlight {s s' : PowerSupervisor E} (h : Keeps s s')
    (hphase : s.powerLifecycle.phase = .suspending) : InFlight s s' where
  phase := by rw [h.powerLifecycle, hphase]
  entries := h.entries
  suspendSafetyTimer := h.suspendSafetyTimer

/-- While a work is in flight nothing is pumped. -/
theorem applyLifecycle_of_busy (ports : Ports E) (depth : ℕ) {s : PowerSupervisor E}
    (hbusy : s.powerLifecycle.phase ≠ .idle) : applyLifecycle ports (depth + 1) s {} = some s := by
  rw [applyLifecycle_plain ports depth s ⟨rfl, rfl, by simp⟩, applied_inert]
  exact pump_of_inert ports depth (pumpQueue_of_busy hbusy)

theorem inFlight_onRequested {s s' : PowerSupervisor E} {request : Pending} {depth : ℕ}
    (hphase : s.powerLifecycle.phase = .suspending)
    (h : s.onRequested ports (depth + 1) request = some s') : InFlight s s' := by
  have hsame : (s.powerLifecycle.onRequested request.kind request.source).1.phase = .suspending := by
    rw [onRequested_eq]
    split_ifs <;> exact hphase
  have hplain : (s.powerLifecycle.onRequested request.kind request.source).2 = {} := by
    rw [onRequested_eq]
  simp only [onRequested, note, hplain] at h
  rw [applyLifecycle_of_busy ports depth (by simp [hsame])] at h
  obtain rfl := Option.some.inj h
  exact ⟨hsame, rfl, rfl⟩

/-- Only its completion ends a suspend, and only its timer's handler reads the timer. -/
theorem inFlight_enter {s s' : PowerSupervisor E} {entry : Entry}
    (hphase : s.powerLifecycle.phase = .suspending) (hcompleted : entry ≠ .suspendCompleted)
    (hfired : entry ≠ .safetyTimerFired) (h : enter ports s.depthBound s entry = some s') :
    InFlight s s' := by
  have hthree : 3 ≤ s.depthBound := by
    unfold depthBound
    omega
  have hevent (event : AdapterReconnect.Event) (changed : PowerSupervisor E)
      (hkeeps : Keeps s changed)
      (h : changed.onReconnectEvent ports s.depthBound event = some s') : InFlight s s' := by
    obtain ⟨next, hreturns, hkept, _⟩ := onReconnectEvent_returns ports changed event
    obtain rfl := Option.some.inj ((hreturns _ hthree).symm.trans h)
    exact (hkeeps.trans hkept).inFlight hphase
  cases entry with
  | suspendRequested source => exact inFlight_onRequested hphase h
  | resumeRequested source => exact inFlight_onRequested hphase h
  | suspendCompleted => exact absurd rfl hcompleted
  | safetyTimerFired => exact absurd rfl hfired
  | connectionLost => exact hevent _ s (.refl s) h
  | reconnectResult ok => exact hevent _ s (.refl s) h
  | reconnectRetryTimerFired =>
      exact hevent _ { s with reconnectRetryTimer := s.reconnectRetryTimer.consume }
        ⟨rfl, rfl, rfl, rfl, rfl, rfl⟩ h
  | resumeCompleted adapterValid =>
      -- a resume reports back only after shutdown, and is absorbed
      have hsame : s.noteFinished ports .resume = s := by
        simp [noteFinished, active, hphase]
      simp only [enter, resumeCompletedWith, hsame,
        onResumeCompleted_of_not_resuming (by simp [hphase] : s.powerLifecycle.phase ≠ .resuming)]
        at h
      rw [show s.depthBound = s.powerLifecycle.pending.length + 4 + 1 from rfl,
        applyLifecycle_of_busy ports _ (by simp [hphase]), Option.bind_some] at h
      cases adapterValid with
      | true => exact Option.some.inj h ▸ (Keeps.refl s).inFlight hphase
      | false =>
          obtain ⟨seeded, hseeded, hkeeps, _⟩ := seedReconnect_returns ports s
          obtain rfl := Option.some.inj ((hseeded _ hthree).symm.trans h)
          exact hkeeps.inFlight hphase

/-! ## Runs -/

/-- What every run keeps: nothing that could be started is left waiting. -/
theorem idle_step {s s' : PowerSupervisor E} {label : Label E}
    (hs : s.powerLifecycle.phase = .idle → s.powerLifecycle.pending = [])
    (hstep : (machine ports).step s label = some s') :
    s'.powerLifecycle.phase = .idle → s'.powerLifecycle.pending = [] := by
  cases label with
  | enter entry env =>
      obtain ⟨next, hreturns, hentered⟩ := enter_returns ports { s with env := env } entry hs
      obtain rfl := Option.some.inj ((hreturns _ (Nat.le_refl _)).symm.trans hstep)
      exact hentered.idle
  | safetyExpire =>
      obtain ⟨timer, _, rfl⟩ := Option.map_eq_some_iff.mp hstep
      exact hs
  | retryExpire =>
      obtain ⟨timer, _, rfl⟩ := Option.map_eq_some_iff.mp hstep
      exact hs

/-- Wake-ups of the safety timer during a suspend are genuine. -/
def WakesGenuinely (s : PowerSupervisor E) : Label E → Prop
  | .enter entry _ => s.Genuine entry
  | _ => True

instance (s : PowerSupervisor E) : ∀ label, Decidable (s.WakesGenuinely label)
  | .enter entry _ => inferInstanceAs (Decidable (entry = .safetyTimerFired →
      s.suspendSafetyTimer = .expired ∨ s.powerLifecycle.phase ≠ .suspending))
  | .safetyExpire => .isTrue trivial
  | .retryExpire => .isTrue trivial

theorem timed_step {s s' : PowerSupervisor E} {label : Label E}
    (hs : s.Timed ∧ (s.powerLifecycle.phase = .idle → s.powerLifecycle.pending = []))
    (hwakes : s.WakesGenuinely label) (hstep : (machine ports).step s label = some s') :
    s'.Timed ∧ (s'.powerLifecycle.phase = .idle → s'.powerLifecycle.pending = []) := by
  refine ⟨?_, idle_step hs.2 hstep⟩
  cases label with
  | enter entry env =>
      obtain ⟨next, hreturns, hentered⟩ := enter_returns ports { s with env := env } entry hs.2
      obtain rfl := Option.some.inj ((hreturns _ (Nat.le_refl _)).symm.trans hstep)
      apply hentered.timed hwakes
      exact ⟨⟨hs.1.retry.timed, hs.1.retry.undisturbed⟩, hs.1.safety.timed, hs.1.safety.fired,
        hs.1.safety.armedBy_le, hs.1.safety.firedIn_le⟩
  | safetyExpire =>
      obtain ⟨timer, hexpire, rfl⟩ := Option.map_eq_some_iff.mp hstep
      refine ⟨⟨hs.1.retry.timed, hs.1.retry.undisturbed⟩, ?_, hs.1.safety.fired,
        hs.1.safety.armedBy_le, hs.1.safety.firedIn_le⟩
      cases htimer : s.suspendSafetyTimer with
      | armed ms =>
          obtain rfl : TimerSource.expired = timer := by simpa [htimer, TimerSource.expire] using hexpire
          simpa [htimer] using hs.1.safety.timed
      | _ => simp [htimer, TimerSource.expire] at hexpire
  | retryExpire =>
      obtain ⟨timer, hexpire, rfl⟩ := Option.map_eq_some_iff.mp hstep
      refine ⟨?_, hs.1.safety.timed, hs.1.safety.fired, hs.1.safety.armedBy_le,
        hs.1.safety.firedIn_le⟩
      cases htimer : s.reconnectRetryTimer with
      | armed ms =>
          obtain rfl : TimerSource.expired = timer := by simpa [htimer, TimerSource.expire] using hexpire
          exact ⟨by simpa [htimer] using hs.1.retry.timed, fun _ _ => rfl⟩
      | _ => simp [htimer, TimerSource.expire] at hexpire

theorem timed_initial (schedule : BackoffSchedule) (connectionLostDelay : ℕ) (env : E) :
    (initial schedule connectionLostDelay env).Timed where
  retry := RetryTimed.rested rfl (by simp [initial])
  safety := SafetyTimed.rested rfl (by simp [initial]) (Nat.le_refl _) (Nat.le_refl _)

/-- **No request is stranded and the recursion ends**: in every state a run can reach, and
whatever the environment answers, an entry returns, for all that deeper nesting would be
allowed; it starts at most one work for each request that was waiting and one more; and
when it is back the queue is empty or a work is in flight. -/
theorem entry_settles {schedule : BackoffSchedule} {connectionLostDelay : ℕ} {env : E}
    {labels : List (Label E)} {s : PowerSupervisor E}
    (hrun : (machine ports).run (initial schedule connectionLostDelay env) labels = some s)
    (entry : Entry) (now : E) :
    ∃ s', (∀ depth, s.powerLifecycle.pending.length + 5 ≤ depth →
        enter ports depth { s with env := now } entry = some s') ∧
      s'.works ≤ s.works + (s.powerLifecycle.pending.length + 1) ∧
      (s'.powerLifecycle.phase = .idle → s'.powerLifecycle.pending = []) := by
  have hidle : s.powerLifecycle.phase = .idle → s.powerLifecycle.pending = [] :=
    (machine ports).invariant_of_step
      (I := fun s => s.powerLifecycle.phase = .idle → s.powerLifecycle.pending = [])
      (fun hs hstep => idle_step hs hstep) (fun _ => rfl) hrun
  obtain ⟨s', hreturns, hentered⟩ := enter_returns ports { s with env := now } entry hidle
  exact ⟨s', hreturns, hentered.works_le, hentered.idle⟩

/-- An environment that follows a script: the next entry says whether an asynchronous
call completes inside, which resumes and attempts do without success. -/
def scripted : Ports (List Bool) where
  armOnce script := (script, true)
  lock script _ := script
  suspendAsync script := (script.tail, script.headD false)
  resumeAsync script := (script.tail, if script.headD false then some false else none)
  reconnectAsync script := (script.tail, if script.headD false then some false else none)
  onAdapterUnrecoverable script := script
  note script _ := script

/-- A suspend in flight, with a resume and another suspend waiting. -/
def twoWaiting : List (Label (List Bool)) :=
  [.enter (.suspendRequested .dbus) [false], .enter (.resumeRequested .dbus) [],
    .enter (.suspendRequested .wire) []]

/-- Both complete inside the completion of the first. -/
theorem entry_settles_twoWaiting :
    ∃ s, (machine scripted).run (initial ⟨[5000], 0⟩ 1500 []) twoWaiting = some s ∧
      s.powerLifecycle.pending.length = 2 ∧
      ∃ s', (∀ depth, 7 ≤ depth →
          enter scripted depth { s with env := [true, true] } .suspendCompleted = some s') ∧
        s'.works ≤ s.works + 3 ∧
        (s'.powerLifecycle.phase = .idle → s'.powerLifecycle.pending = []) := by
  have hwaiting : ((machine scripted).run (initial ⟨[5000], 0⟩ 1500 []) twoWaiting).map
      (fun s => s.powerLifecycle.pending.length) = some 2 := by decide
  obtain ⟨s, hrun, hlength⟩ := Option.map_eq_some_iff.mp hwaiting
  have hsettles := entry_settles hrun .suspendCompleted [true, true]
  rw [hlength] at hsettles
  exact ⟨s, hrun, hlength, hsettles⟩

/-- **Timers and state machines never drift apart.** -/
theorem timers_in_step {schedule : BackoffSchedule} {connectionLostDelay : ℕ} {env : E}
    {labels : List (Label E)} {s : PowerSupervisor E}
    (hwakes : (machine ports).Meets WakesGenuinely (initial schedule connectionLostDelay env) labels)
    (hrun : (machine ports).run (initial schedule connectionLostDelay env) labels = some s) :
    (s.reconnectRetryTimer ≠ .disarmed ↔ s.adapterReconnect.state = .waitingForRetry) ∧
      (s.suspendSafetyTimer ≠ .disarmed ↔
        s.powerLifecycle.phase = .suspending ∧ s.armedBy = s.entries ∧ s.firedIn ≠ s.entries) := by
  have hinv := (machine ports).invariant_of_meets
    (I := fun s => s.Timed ∧ (s.powerLifecycle.phase = .idle → s.powerLifecycle.pending = []))
    (fun hs hC hstep => timed_step hs hC hstep)
    ⟨timed_initial schedule connectionLostDelay env, fun _ => rfl⟩ hwakes hrun
  exact ⟨hinv.1.retry.timed, hinv.1.safety.timed⟩

/-- The safety timer fires during a suspend; the resume that follows leaves the adapter
closed, and a retry is waited for. -/
def firedThenRetry : List (Label (List Bool)) :=
  [.enter (.suspendRequested .dbus) [false], .safetyExpire, .enter .safetyTimerFired [],
    .enter .suspendCompleted [], .enter (.resumeRequested .dbus) [false],
    .enter (.resumeCompleted false) [], .retryExpire]

theorem timers_in_step_firedThenRetry :
    ∃ s, (machine scripted).run (initial ⟨[5000], 0⟩ 1500 []) firedThenRetry = some s ∧
      s.reconnectRetryTimer = .expired ∧ s.firedIn = 1 ∧
      (s.reconnectRetryTimer ≠ .disarmed ↔ s.adapterReconnect.state = .waitingForRetry) ∧
      (s.suspendSafetyTimer ≠ .disarmed ↔
        s.powerLifecycle.phase = .suspending ∧ s.armedBy = s.entries ∧ s.firedIn ≠ s.entries) := by
  have hreached : ((machine scripted).run (initial ⟨[5000], 0⟩ 1500 []) firedThenRetry).map
      (fun s => (s.reconnectRetryTimer, s.firedIn)) = some (.expired, 1) := by decide
  obtain ⟨s, hrun, heq⟩ := Option.map_eq_some_iff.mp hreached
  obtain ⟨htimer, hfired⟩ := Prod.mk.inj heq
  exact ⟨s, hrun, htimer, hfired, timers_in_step (by decide) hrun⟩

end PowerSupervisor

end CecControl
