/-
# Left-over wake-ups

A batch reports a timer that was readable when it was collected. Before the timer's
handler runs, others may have disarmed the timer or set it again, and neither of the
supervisor's handlers looks at the expiration count.

For the safety timer no harm is done. Once the suspend whose timer expired has
reported back, the adapter stays suspended until a resume reports back, and the
closure of that resume cannot be among those the drain has already taken: a suspend
that is started in the rest of the batch completes on the spot, and leaves no cycle
in flight for the handler to find.

For the retry timer there is no such argument. A resume that comes in while nothing
is suspended cancels the retry and seeds another cycle, and the handler then starts
the attempt that should have waited.
-/

import CecControl.Daemon.Batches

namespace CecControl

open Lib PowerLifecycle

namespace Daemon

/-! ## No suspend can be handed over -/

/-- No suspend is in flight, and the lifecycle turns every suspend down; once it has shut
down it stays so. -/
structure Barred (shut : Prop) (d : Daemon) : Prop where
  phase : d.powerLifecycle.phase ≠ .suspending
  suspendsNow : d.suspendsNow = true
  shutdown : shut → d.lifecycleShutdown = true

section Barred

variable {shut : Prop}

theorem barred_roundStable : RoundStable (Barred shut) where
  suspendNow h _ _ _ := ⟨by simp [suspendNow], h.suspendsNow, h.shutdown⟩
  suspendLater h _ _ hlater := absurd h.suspendsNow (by simp [hlater])
  resumeNow h _ _ _ := ⟨by simp [resumeNow], h.suspendsNow, h.shutdown⟩
  resumeLater h _ _ _ := ⟨by simp [resumeLater], h.suspendsNow, h.shutdown⟩

theorem barred_reconnectStable : ReconnectStable (Barred shut) where
  quiet _ _ _ h := ⟨h.phase, h.suspendsNow, h.shutdown⟩
  attempt {d} h := by
    unfold reconnectAsync
    dsimp only [issue, emit]
    split_ifs <;> exact ⟨h.phase, h.suspendsNow, h.shutdown⟩
  abandon h := ⟨h.phase, h.suspendsNow, h.shutdown⟩

theorem barred_settle (rounds : ℕ) {d : Daemon} (h : Barred shut d) :
    Barred shut (settle rounds d) :=
  barred_roundStable.settle barred_reconnectStable.seedReconnect rounds h

/-- The step does not run the closure of a resume, unless after shutdown. -/
def LeavesSuspended (d : Daemon) (label : Label) : Prop :=
  label = .drain → d.lifecycleShutdown = true ∨
    ∀ ticket adapterValid posts, d.posts ≠ .resumeDone ticket adapterValid :: posts

theorem barred_stepStable : StepStable LeavesSuspended (Barred shut) where
  settle rounds h := barred_settle rounds h
  received request h := by
    refine ⟨?_, h.suspendsNow, h.shutdown⟩
    simp only [received]
    split_ifs <;> exact h.phase
  safetyFired {d} h := by
    refine ⟨?_, h.suspendsNow, h.shutdown⟩
    simp only [safetyFired, PowerLifecycle.onSafetyTimerFired]
    split_ifs <;> exact h.phase
  answered _ _ h := ⟨h.phase, h.suspendsNow, h.shutdown⟩
  standby _ h := ⟨h.phase, h.suspendsNow, h.shutdown⟩
  parked _ h _ _ _ _ := ⟨h.phase, h.suspendsNow, h.shutdown⟩
  live _ h _ _ _ _ := ⟨h.phase, h.suspendsNow, h.shutdown⟩
  posted _ h := ⟨h.phase, h.suspendsNow, h.shutdown⟩
  powerDrained h _ := ⟨h.phase, h.suspendsNow, h.shutdown⟩
  replyDrained _ h _ := ⟨h.phase, h.suspendsNow, h.shutdown⟩
  suspendDrained {d ticket posts} h _ := by
    unfold suspendReported
    rw [if_neg (by exact h.phase)]
    exact ⟨h.phase, h.suspendsNow, h.shutdown⟩
  resumeDrained {d ticket adapterValid posts} hC h hposts := by
    have hshut := (hC rfl).resolve_right fun hnone => hnone _ _ _ hposts
    apply resumeDrained_of_reported (P := Barred shut) (fun rounds => barred_settle rounds)
      barred_reconnectStable.seedReconnect
    unfold resumeReported
    split_ifs
    · exact ⟨by simp [finishResume],
        by simp [finishResume, resumedWith, Daemon.suspendsNow, hshut], fun _ => hshut⟩
    · exact ⟨h.phase, by simp [resumedWith, Daemon.suspendsNow, hshut], fun _ => hshut⟩
  reconnectDrained {d ticket ok posts} _ h _ :=
    barred_reconnectStable.onReconnectEvent
      (d := { d with posts := posts, log := d.log ++ [.invoked ticket] })
      ⟨h.phase, h.suspendsNow, h.shutdown⟩ _
  lostDrained {d posts} _ h _ :=
    barred_reconnectStable.onReconnectEvent (d := { d with posts := posts })
      ⟨h.phase, h.suspendsNow, h.shutdown⟩ _
  retryTimer {d} _ h :=
    barred_reconnectStable.onReconnectEvent
      (d := { d with reconnectRetryTimer := d.reconnectRetryTimer.consume })
      ⟨h.phase, h.suspendsNow, h.shutdown⟩ _
  safetyExpired h := ⟨h.phase, h.suspendsNow, h.shutdown⟩
  retryExpired _ h := ⟨h.phase, h.suspendsNow, h.shutdown⟩
  taken h _ _ _ := ⟨h.phase, h.suspendsNow, h.shutdown⟩
  reopening h _ _ _ := ⟨h.phase, h.suspendsNow, h.shutdown⟩
  opened h _ _ := ⟨h.phase, h.suspendsNow, h.shutdown⟩
  called _ h _ _ _ := ⟨h.phase, h.suspendsNow, h.shutdown⟩
  ticked _ h _ _ := ⟨h.phase, h.suspendsNow, h.shutdown⟩
  slept h _ _ := ⟨h.phase, h.suspendsNow, h.shutdown⟩
  finished {d r result throttler} _ h _ _ := by
    rcases result with _ | (_ | p) <;> exact ⟨h.phase, h.suspendsNow, h.shutdown⟩
  exited h _ _ := ⟨h.phase, h.suspendsNow, h.shutdown⟩
  alerted h := ⟨h.phase, h.suspendsNow, h.shutdown⟩
  alertPosted h _ := ⟨h.phase, h.suspendsNow, h.shutdown⟩
  stopped {d} h := by
    rw [stop_eq]
    exact ⟨h.phase, by simp [Daemon.suspendsNow], fun _ => rfl⟩

end Barred

/-- Once the suspend in flight has reported back, no other can be handed over. -/
theorem barred_suspendDrained {d d' : Daemon} (h : Coupled d)
    (hphase : d.powerLifecycle.phase = .suspending) {ticket : ℕ} {posts : List Post}
    (hposts : d.posts = .suspendDone ticket :: posts)
    (hstep : machine.step d .drain = some d') :
    Barred (d.lifecycleShutdown = true) d' ∧
      (d.lifecycleShutdown = false →
        ∀ ticket adapterValid, .resumeDone ticket adapterValid ∉ d'.posts) := by
  constructor
  · change step d .drain = some d' at hstep
    simp only [step, hposts, runPost, onSuspendCompleted_eq_settle, Option.some.injEq] at hstep
    subst hstep
    apply barred_settle
    simp only [suspendReported, emit, hphase, if_true]
    refine ⟨by simp [finishSuspend], ?_, fun hshut => hshut⟩
    cases hshut : d.lifecycleShutdown with
    | true => simp [suspendsNow, finishSuspend]
    | false => simp [suspendsNow, finishSuspend, h.busy hshut (by simp [hphase])]
  · intro hopen ticket' adapterValid hmem
    obtain ⟨_, _, hrest⟩ := (queues_of_step hstep).resolve_right fun hother => hother.1 rfl
    have hnil := h.outstanding_nil_of_power hopen hposts rfl rfl
    have htoken : Token.resume ticket' ∈ outstanding { d with posts := posts } := by
      apply List.mem_append_left
      rw [(List.cons.inj (hposts.symm.trans hrest)).2]
      exact List.mem_filterMap.mpr ⟨_, hmem, rfl⟩
    rw [hnil] at htoken
    cases htoken

end Daemon

namespace Batches

open Daemon

variable {b b' : Batches}

/-! ## What holds between any two steps -/

/-- The suspend in flight is the given cycle, and its timer has expired unread. -/
structure Current (s : PowerSupervisor Daemon) (cycle : ℕ) : Prop where
  phase : s.powerLifecycle.phase = .suspending
  entries : s.entries = cycle
  expired : s.suspendSafetyTimer = .expired

/-- No suspend can be handed over before the batch is over: the closure of a resume is not
among those the drain has taken. -/
structure BarredUntilFinish (b : Batches) : Prop where
  barred : Barred False (supervise b.supervisor)
  swapped : b.supervisor.env.lifecycleShutdown = true ∨ ∃ left, b.swapped = some left ∧
    ∀ p ∈ b.supervisor.env.posts.take left, ∀ ticket adapterValid,
      p ≠ .resumeDone ticket adapterValid

/-- What holds between any two steps. -/
structure Sound (b : Batches) : Prop where
  coupled : Coupled (supervise b.supervisor)
  timed : b.supervisor.Timed
  idle : b.supervisor.powerLifecycle.phase = .idle → b.supervisor.powerLifecycle.pending = []
  swapped : ∀ left, b.swapped = some left → left ≤ b.supervisor.env.posts.length
  /-- A wake-up still to be delivered belongs to the suspend in flight, or finds none. -/
  reported : ∀ cycle, b.safetyReported = some cycle →
    Current b.supervisor cycle ∨ BarredUntilFinish b

theorem sound_start (setup : Setup) : Sound (start setup) where
  coupled := Coupled.boot setup
  timed := PowerSupervisor.timed_initial _ _ (boot setup)
  idle _ := rfl
  swapped _ h := by cases h
  reported _ h := by cases h

theorem Sound.collect (h : Sound b) {safety retry : Bool}
    (hstep : machine.step b (.collect safety retry) = some b') : Sound b' := by
  change step b (.collect safety retry) = some b' at hstep
  by_cases hdispatching : b.dispatching = true
  · simp [step, hdispatching] at hstep
  · simp only [step, if_neg hdispatching, Option.some.injEq] at hstep
    subst hstep
    constructor
    · exact h.coupled
    · refine ⟨⟨h.timed.retry.timed, fun hretry _ => ?_⟩, h.timed.safety.timed, h.timed.safety.fired,
        h.timed.safety.armedBy_le, h.timed.safety.firedIn_le⟩
      exact of_decide_eq_true (Bool.and_eq_true_iff.mp hretry).2
    · exact h.idle
    · exact fun _ hnone => by simp at hnone
    · intro cycle hreported
      simp only [Option.ite_none_right_eq_some, Option.some.injEq] at hreported
      obtain ⟨⟨_, hexpired⟩, rfl⟩ := hreported
      have hset := h.timed.safety.timed.mp (by simp [hexpired])
      exact Or.inl ⟨hset.1, hset.2.1.symm, hexpired⟩

theorem Sound.swap (h : Sound b) (hstep : machine.step b .swap = some b') : Sound b' := by
  change step b .swap = some b' at hstep
  simp only [step] at hstep
  split_ifs at hstep with hswap
  obtain rfl := Option.some.inj hstep
  refine ⟨h.coupled, h.timed, h.idle, fun left hleft => ?_, fun cycle hreported => ?_⟩
  · exact Nat.le_of_eq (Option.some.inj hleft).symm
  · rcases h.reported cycle hreported with hcurrent | hbarred
    · exact Or.inl hcurrent
    · refine Or.inr ⟨hbarred.barred, hbarred.swapped.imp_right ?_⟩
      rintro ⟨left, hleft, _⟩
      rw [hswap.2] at hleft
      cases hleft

theorem Sound.finish (h : Sound b) (hstep : machine.step b .finish = some b') : Sound b' := by
  change step b .finish = some b' at hstep
  simp only [step] at hstep
  split_ifs at hstep
  obtain rfl := Option.some.inj hstep
  exact ⟨h.coupled, h.timed, h.idle, fun _ hnone => by simp at hnone,
    fun _ hnone => by simp at hnone⟩

/-! ## A part of the daemon moves -/

/-- What the batch has done when it lets a part of the daemon move. -/
structure Admitted (b : Batches) (label : Daemon.Label) (b' : Batches) : Prop where
  supervisor : b'.supervisor = b.supervisor
  drain : label = .drain → ∃ left, b.swapped = some (left + 1) ∧ b'.swapped = some left
  swapped : label ≠ .drain → b'.swapped = b.swapped
  safetyTimer : label = .safetyTimer → b.safetyReported.isSome = true ∧ b'.safetyReported = none
  safetyReported : label ≠ .safetyTimer → b'.safetyReported = b.safetyReported

theorem admitted_of_letThrough {label : Daemon.Label} (h : b.letThrough label = some b') :
    Admitted b label b' := by
  cases label with
  | drain =>
      simp only [letThrough] at h
      split at h
      · next left hleft =>
          obtain rfl := Option.some.inj h
          exact ⟨rfl, fun _ => ⟨left, hleft, rfl⟩, by simp, by simp, by simp⟩
      · cases h
  | safetyTimer =>
      obtain ⟨cycle, hcycle, rfl⟩ := Option.map_eq_some_iff.mp h
      exact ⟨rfl, by simp, by simp, fun _ => ⟨by simp [hcycle], rfl⟩, by simp⟩
  | retryTimer =>
      simp only [letThrough] at h
      split_ifs at h
      exact Option.some.inj h ▸ ⟨rfl, by simp, by simp, by simp, by simp⟩
  | wire message =>
      simp only [letThrough] at h
      split_ifs at h
      exact Option.some.inj h ▸ ⟨rfl, by simp, by simp, by simp, by simp⟩
  | dbusSignal kind =>
      simp only [letThrough] at h
      split_ifs at h
      exact Option.some.inj h ▸ ⟨rfl, by simp, by simp, by simp, by simp⟩
  | _ => exact Option.some.inj h ▸ ⟨rfl, by simp, by simp, by simp, by simp⟩

theorem passed_ne_disarmed {timer timer' : TimerSource} (h : Passed timer timer') :
    timer' ≠ .disarmed ↔ timer ≠ .disarmed := by
  rcases h with rfl | hexpire
  · exact Iff.rfl
  · cases timer with
    | armed ms => simp [← Option.some.inj hexpire]
    | _ => cases hexpire

theorem passed_expired {timer' : TimerSource} (h : Passed .expired timer') : timer' = .expired := by
  rcases h with rfl | hexpire
  · rfl
  · cases hexpire

/-- Outside the supervisor timers can only expire, which keeps them in step. -/
theorem timed_aside {s : PowerSupervisor Daemon} {label : Daemon.Label} {d : Daemon} (h : s.Timed)
    (haside : Aside (supervise s) label d) : (aside s d).Timed := by
  refine ⟨⟨?_, fun hundisturbed hwaiting => ?_⟩, ?_, h.safety.fired, h.safety.armedBy_le,
    h.safety.firedIn_le⟩
  · exact (passed_ne_disarmed haside.reconnectRetryTimer).trans h.retry.timed
  · have hpassed := haside.reconnectRetryTimer
    rw [show (supervise s).reconnectRetryTimer = .expired from
      h.retry.undisturbed hundisturbed hwaiting] at hpassed
    exact passed_expired hpassed
  · exact (passed_ne_disarmed haside.suspendSafetyTimer).trans h.safety.timed

theorem safetyTimer_of_entry {d : Daemon} {label : Daemon.Label} {c : Call}
    (hcall : d.call? label = some c) (hentry : c.entry = .safetyTimerFired) :
    label = .safetyTimer := by
  cases label with
  | safetyTimer => rfl
  | retryTimer =>
      rw [← Option.some.inj hcall] at hentry
      cases hentry
  | wire message =>
      unfold call? at hcall
      cases htype : message.type <;> simp only [htype] at hcall <;> cases hcall <;> cases hentry
  | drain =>
      unfold call? at hcall
      cases hposts : d.posts with
      | nil => simp [hposts] at hcall
      | cons p posts =>
          simp only [hposts] at hcall
          cases p with
          | power kind => cases kind <;> cases hcall <;> cases hentry
          | _ => cases hcall <;> cases hentry
  | _ => cases hcall

/-- A suspend reports back through its own closure. -/
theorem suspendDone_of_entry {d : Daemon} {label : Daemon.Label} {c : Call}
    (hcall : d.call? label = some c) (hentry : c.entry = .suspendCompleted) :
    label = .drain ∧ ∃ ticket posts, d.posts = .suspendDone ticket :: posts := by
  cases label with
  | safetyTimer =>
      rw [← Option.some.inj hcall] at hentry
      cases hentry
  | retryTimer =>
      rw [← Option.some.inj hcall] at hentry
      cases hentry
  | wire message =>
      unfold call? at hcall
      cases htype : message.type <;> simp only [htype] at hcall <;> cases hcall <;> cases hentry
  | drain =>
      unfold call? at hcall
      cases hposts : d.posts with
      | nil => simp [hposts] at hcall
      | cons p posts =>
          simp only [hposts] at hcall
          cases p with
          | suspendDone ticket => exact ⟨rfl, ticket, posts, rfl⟩
          | power kind => cases kind <;> cases hcall <;> cases hentry
          | _ => cases hcall <;> cases hentry
  | _ => cases hcall

/-- The timers stay in step under every step whose safety wake-up is genuine. -/
theorem timed_supervisedStep {s s' : PowerSupervisor Daemon} {label : Daemon.Label}
    (htimed : s.Timed)
    (hidle : s.powerLifecycle.phase = .idle → s.powerLifecycle.pending = [])
    (hgenuine : label = .safetyTimer →
      s.suspendSafetyTimer = .expired ∨ s.powerLifecycle.phase ≠ .suspending)
    (h : supervisedStep s label = some s') :
    s'.Timed ∧ (s'.powerLifecycle.phase = .idle → s'.powerLifecycle.pending = []) := by
  rcases supervisedStep_cases h with ⟨c, entered, hcall, henter, rfl⟩ | ⟨_, d, _, haside, rfl⟩
  · obtain ⟨next, hreturns, hentered⟩ :=
      PowerSupervisor.enter_returns ports { s with env := c.before } c.entry hidle
    obtain rfl := Option.some.inj ((hreturns _ (Nat.le_refl _)).symm.trans henter)
    have hnext := hentered.timed (fun hentry => hgenuine (safetyTimer_of_entry hcall hentry))
      ⟨⟨htimed.retry.timed, htimed.retry.undisturbed⟩, htimed.safety.timed, htimed.safety.fired,
        htimed.safety.armedBy_le, htimed.safety.firedIn_le⟩
    exact ⟨⟨⟨hnext.retry.timed, hnext.retry.undisturbed⟩, hnext.safety.timed, hnext.safety.fired,
      hnext.safety.armedBy_le, hnext.safety.firedIn_le⟩, hentered.idle⟩
  · exact ⟨timed_aside htimed haside, hidle⟩

/-- While the cycle of a reported wake-up is in flight it stays so, until its suspend
reports back; from then on none can be handed over. -/
theorem Sound.current_step (h : Sound b) {cycle : ℕ} (hcurrent : Current b.supervisor cycle)
    {label : Daemon.Label} (hlabel : label ≠ .safetyTimer) (hadmitted : Admitted b label b')
    {s' : PowerSupervisor Daemon} (hstep : supervisedStep b.supervisor label = some s') :
    Current s' cycle ∨ BarredUntilFinish { b' with supervisor := s' } := by
  have hrefines := supervisedStep_refines hstep
  rcases supervisedStep_cases hstep with ⟨c, entered, hcall, henter, rfl⟩ | ⟨_, d, _, haside, rfl⟩
  · by_cases hcompleted : c.entry = .suspendCompleted
    · right
      obtain ⟨rfl, ticket, posts, hposts⟩ := suspendDone_of_entry hcall hcompleted
      obtain ⟨left, _, hleft⟩ := hadmitted.drain rfl
      obtain ⟨hbarred, hnone⟩ := barred_suspendDrained h.coupled hcurrent.phase hposts hrefines
      refine ⟨⟨hbarred.phase, hbarred.suspendsNow, False.elim⟩, ?_⟩
      cases hshut : (supervise b.supervisor).lifecycleShutdown with
      | true => exact Or.inl (hbarred.shutdown hshut)
      | false =>
          refine Or.inr ⟨left, hleft, fun p hp ticket' adapterValid heq => ?_⟩
          exact hnone hshut ticket' adapterValid (heq ▸ List.mem_of_mem_take hp)
    · left
      have hflight := PowerSupervisor.inFlight_enter (s := { b.supervisor with env := c.before })
        hcurrent.phase hcompleted (fun hentry => hlabel (safetyTimer_of_entry hcall hentry)) henter
      exact ⟨hflight.phase, hflight.entries.trans hcurrent.entries,
        hflight.suspendSafetyTimer.trans hcurrent.expired⟩
  · left
    have hpassed := haside.suspendSafetyTimer
    rw [show (supervise b.supervisor).suspendSafetyTimer = .expired from hcurrent.expired] at hpassed
    exact ⟨hcurrent.phase, hcurrent.entries, passed_expired hpassed⟩

theorem Sound.barred_step (h : Sound b) (hbarred : BarredUntilFinish b) {label : Daemon.Label}
    (hadmitted : Admitted b label b') {s' : PowerSupervisor Daemon}
    (hstep : supervisedStep b.supervisor label = some s') :
    BarredUntilFinish { b' with supervisor := s' } := by
  have hrefines := supervisedStep_refines hstep
  have hleaves : LeavesSuspended (supervise b.supervisor) label := by
    rintro rfl
    apply hbarred.swapped.imp_right
    rintro ⟨left, hleft, hnone⟩ ticket adapterValid posts hposts
    obtain ⟨left', hleft', _⟩ := hadmitted.drain rfl
    obtain rfl := Option.some.inj (hleft.symm.trans hleft')
    apply hnone (.resumeDone ticket adapterValid) _ ticket adapterValid rfl
    rw [show b.supervisor.env.posts = _ from hposts]
    exact List.mem_cons_self
  have hnext : Barred (b.supervisor.env.lifecycleShutdown = true) (supervise s') :=
    barred_stepStable.step ⟨hbarred.barred.phase, hbarred.barred.suspendsNow, fun hshut => hshut⟩
      hleaves hrefines
  refine ⟨⟨hnext.phase, hnext.suspendsNow, False.elim⟩, ?_⟩
  refine hbarred.swapped.imp hnext.shutdown ?_
  rintro ⟨left, hleft, hnone⟩
  rcases queues_of_step hrefines with ⟨rfl, q, hposts⟩ | ⟨hother, hposts⟩
  · obtain ⟨left', hleft', hswapped⟩ := hadmitted.drain rfl
    obtain rfl := Option.some.inj (hleft.symm.trans hleft')
    refine ⟨left', hswapped, fun p hp => hnone p ?_⟩
    rw [show b.supervisor.env.posts = _ from hposts]
    exact List.mem_cons_of_mem _ hp
  · refine ⟨left, (hadmitted.swapped hother).trans hleft, fun p hp => hnone p ?_⟩
    obtain ⟨more, hmore⟩ := hposts
    rwa [show s'.env.posts = b.supervisor.env.posts ++ more from hmore.symm,
      List.take_append_of_le_length (h.swapped left hleft)] at hp

theorem Sound.daemon (h : Sound b) {label : Daemon.Label}
    (hstep : machine.step b (.daemon label) = some b') : Sound b' := by
  obtain ⟨b₁, hadmit, hmap⟩ := Option.bind_eq_some_iff.mp hstep
  obtain ⟨s', hsupervised, rfl⟩ := Option.map_eq_some_iff.mp hmap
  have hadmitted := admitted_of_letThrough hadmit
  rw [hadmitted.supervisor] at hsupervised
  have hrefines := supervisedStep_refines hsupervised
  -- a safety wake-up delivered now was reported, so it is genuine or finds no suspend
  have hgenuine : label = .safetyTimer → b.supervisor.suspendSafetyTimer = .expired ∨
      b.supervisor.powerLifecycle.phase ≠ .suspending := by
    intro hlabel
    obtain ⟨cycle, hcycle⟩ := Option.isSome_iff_exists.mp (hadmitted.safetyTimer hlabel).1
    exact (h.reported cycle hcycle).imp Current.expired fun hbarred => hbarred.barred.phase
  obtain ⟨htimed, hidle⟩ := timed_supervisedStep h.timed h.idle hgenuine hsupervised
  refine ⟨Coupled.stable.step h.coupled trivial hrefines, htimed, hidle, fun left hleft => ?_,
    fun cycle hreported => ?_⟩
  · rcases queues_of_step hrefines with ⟨rfl, q, hposts⟩ | ⟨hother, hposts⟩
    · obtain ⟨left', hbefore, hafter⟩ := hadmitted.drain rfl
      obtain rfl := Option.some.inj (hleft.symm.trans hafter)
      have hle := h.swapped _ hbefore
      rw [show b.supervisor.env.posts = _ from hposts] at hle
      exact Nat.le_of_succ_le_succ hle
    · exact Nat.le_trans (h.swapped left ((hadmitted.swapped hother).symm.trans hleft))
        hposts.length_le
  · by_cases hlabel : label = .safetyTimer
    · rw [(hadmitted.safetyTimer hlabel).2] at hreported
      cases hreported
    · rw [hadmitted.safetyReported hlabel] at hreported
      rcases h.reported cycle hreported with hcurrent | hbarred
      · exact h.current_step hcurrent hlabel hadmitted hsupervised
      · exact Or.inr (h.barred_step hbarred hadmitted hsupervised)

theorem Sound.step {label : Label} (h : Sound b) (hstep : machine.step b label = some b') :
    Sound b' := by
  cases label with
  | collect safety retry => exact h.collect hstep
  | swap => exact h.swap hstep
  | finish => exact h.finish hstep
  | daemon label => exact h.daemon hstep

/-! ## The safety timer -/

/-- **A left-over safety wake-up never releases a later cycle's lock.** Whenever the handler
finds a lock to release, the expiry that was reported is one of the setting made at the
entry of the suspend in flight. -/
theorem safety_wakeup_of_current_cycle {setup : Setup} {labels : List Label}
    (hrun : machine.run (start setup) labels = some b)
    (hstep : machine.step b (.daemon .safetyTimer) = some b')
    (hfired : b.supervisor.powerLifecycle.onSafetyTimerFired.2.safety = .fired) :
    b.safetyReported = some b.supervisor.entries ∧
      b.supervisor.powerLifecycle.phase = .suspending ∧
      b.supervisor.armedBy = b.supervisor.entries ∧
      b.supervisor.suspendSafetyTimer = .expired := by
  have hsound : Sound b :=
    machine.invariant_of_step (fun h hstep => h.step hstep) (sound_start setup) hrun
  have hsuspending : b.supervisor.powerLifecycle.phase = .suspending := by
    rcases PowerSupervisor.onSafetyTimerFired_cases b.supervisor.powerLifecycle with
      ⟨_, hinert⟩ | ⟨hphase, _⟩
    · rw [hinert] at hfired
      cases hfired
    · exact hphase
  obtain ⟨b₁, hadmit, _⟩ := Option.bind_eq_some_iff.mp hstep
  obtain ⟨cycle, hcycle⟩ :=
    Option.isSome_iff_exists.mp ((admitted_of_letThrough hadmit).safetyTimer rfl).1
  rcases hsound.reported cycle hcycle with hcurrent | hbarred
  · rw [hcycle, hcurrent.entries]
    refine ⟨rfl, hsuspending, ?_, hcurrent.expired⟩
    have hset := hsound.timed.safety.timed.mp (by simp [hcurrent.expired])
    rw [hset.2.1, hcurrent.entries]
  · exact absurd hsuspending hbarred.barred.phase

/-- A suspend is handed to the worker, and its timer expires before it reports back. -/
def slowSuspend : List Label :=
  [.collect false false, .daemon (.dbusSignal .suspend), .finish, .collect false false, .swap,
    .daemon .drain, .finish, .daemon .safetyExpire, .collect true false]

theorem safety_wakeup_of_current_cycle_slowSuspend :
    ∃ b, machine.run (start {}) slowSuspend = some b ∧
      b.supervisor.powerLifecycle.onSafetyTimerFired.2.safety = .fired ∧
      b.safetyReported = some b.supervisor.entries ∧
      b.supervisor.powerLifecycle.phase = .suspending ∧
      b.supervisor.armedBy = b.supervisor.entries ∧
      b.supervisor.suspendSafetyTimer = .expired := by
  have hreached : (machine.run (start {}) slowSuspend).map (fun b =>
      (b.supervisor.powerLifecycle.onSafetyTimerFired.2.safety,
        (machine.step b (.daemon .safetyTimer)).isSome)) = some (.fired, true) := by decide
  obtain ⟨b, hrun, heq⟩ := Option.map_eq_some_iff.mp hreached
  obtain ⟨hfired, hsome⟩ := Prod.mk.inj heq
  obtain ⟨b', hstep⟩ := Option.isSome_iff_exists.mp hsome
  exact ⟨b, hrun, hfired, safety_wakeup_of_current_cycle hrun hstep hfired⟩

/-! ## The retry timer -/

/-- The retry timer's handler runs. -/
def runsRetryTimer (b : Batches) : Label → Bool
  | .daemon .retryTimer => b.retryReported
  | _ => false

/-- An attempt is started by the retry timer's handler only when the time set for it has
passed. -/
def WaitsOut (b : Batches) (label : Label) : Prop :=
  b.runsRetryTimer label = true →
    (b.supervisor.adapterReconnect.onEvent .retryTimerFired).2.effect = .startAttempt →
    b.supervisor.reconnectRetryTimer = .expired

/-- No handler that ran before it in the batch has scheduled another retry. -/
def Undisturbed (b : Batches) (label : Label) : Prop :=
  b.runsRetryTimer label = true → b.supervisor.undisturbed = true

instance (b : Batches) (label : Label) : Decidable (b.WaitsOut label) :=
  inferInstanceAs (Decidable (_ = true → _ = _ → _ = _))

instance (b : Batches) (label : Label) : Decidable (b.Undisturbed label) :=
  inferInstanceAs (Decidable (_ = true → _ = true))

theorem Sound.waitsOut (h : Sound b) {label : Label} (hundisturbed : b.Undisturbed label) :
    b.WaitsOut label := by
  intro hruns hstart
  apply h.timed.retry.undisturbed (hundisturbed hruns)
  cases hstate : b.supervisor.adapterReconnect.state with
  | waitingForRetry => rfl
  | _ => simp [AdapterReconnect.onEvent, hstate] at hstart

/-- **Reconnect delays are honoured** in every run in which no retry is scheduled between
the report of the retry timer and its handler. -/
theorem delays_honoured_of_undisturbed {setup : Setup} {labels : List Label}
    (hmeets : machine.Meets Undisturbed (start setup) labels) :
    machine.Meets WaitsOut (start setup) labels :=
  machine.meets_of_invariant (fun h _ hstep => h.step hstep) (fun h hC => h.waitsOut hC)
    (sound_start setup) hmeets

/-- The connection is lost, and the retry that is scheduled falls due. -/
def retryDue : List Label :=
  [.daemon .alertStore, .daemon .alertPost, .collect false false, .swap, .daemon .drain, .finish,
    .daemon .retryExpire, .collect false true]

theorem delays_honoured_of_undisturbed_retryDue :
    machine.Meets WaitsOut (start {}) (retryDue ++ [.daemon .retryTimer]) :=
  delays_honoured_of_undisturbed (by decide)

/-- In the same batch a client's resume is handled first. Nothing is suspended, so it is
turned down, and a retry ten seconds away takes the place of the one that was due. -/
def resumeBeforeRetry : List Label :=
  retryDue ++ [.daemon (.wire ⟨.cmdResume, 0, []⟩), .daemon .retryTimer]

theorem not_delays_honoured :
    (machine.run (start {}) resumeBeforeRetry).isSome = true ∧
      ¬ machine.Meets WaitsOut (start {}) resumeBeforeRetry := by
  decide

end Batches

end CecControl
