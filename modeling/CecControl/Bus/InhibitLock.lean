/-
# Taking and releasing the inhibitor

A request for the inhibitor is answered some time after it was made, and a release takes
effect at once. Requests are numbered in the order they are issued, so a release divides
them into those made before it and those made after it, and a lock that is held belongs
to one of them: the request whose answer was installed.

At most one duplicated descriptor is open at any time. That a lock held after a release
belongs to a later request is true of every run in which the inhibitor is not released
while a request is in flight. The loss of the connection, which releases it too, drops
the request at the same time.
-/

import CecControl.Bus.DBusMonitor

namespace CecControl

open Lib

namespace DBusMonitor

/-- What a lock is about. -/
def lock (m : DBusMonitor) :=
  (m.openFds, m.inhibitFd, m.inhibitSlot, m.requests, m.holder, m.lastRelease)

/-- The descriptor that is held is the one that is open; and, where `ok` holds, what is held or
in flight was asked for after the last release. -/
structure Held (ok : Prop) (m : DBusMonitor) : Prop where
  openFds : m.openFds = m.inhibitFd.toList
  issued : m.lastRelease ≤ m.requests
  inFlight : ok → ∀ request, m.inhibitSlot = some request → m.lastRelease ≤ request
  held : ok → ∀ fd, m.inhibitFd = some fd → m.lastRelease ≤ m.holder

variable {ok : Prop} {m m' : DBusMonitor}

theorem Held.congr (h : Held ok m) (heq : m'.lock = m.lock) : Held ok m' := by
  simp only [lock, Prod.mk.injEq] at heq
  obtain ⟨hopen, hfd, hslot, hrequests, hholder, hrelease⟩ := heq
  constructor
  · rw [hopen, hfd, h.openFds]
  · rw [hrelease, hrequests]
    exact h.issued
  · rw [hslot, hrelease]
    exact h.inFlight
  · rw [hfd, hrelease, hholder]
    exact h.held

/-- A release with no request in flight. -/
theorem Held.releaseInhibitLock (h : Held ok m) (hslot : ok → m.inhibitSlot = none) :
    Held ok m.releaseInhibitLock := by
  unfold DBusMonitor.releaseInhibitLock
  split
  · next hfd =>
      refine ⟨h.openFds, Nat.le_refl _, fun hok request hrequest => ?_, fun _ fd hheld => ?_⟩
      · exact absurd (hslot hok) (by simp_all)
      · exact absurd hfd (by simp_all)
  · next fd hfd =>
      refine ⟨?_, Nat.le_refl _, fun hok request hrequest => ?_, by simp⟩
      · simp [h.openFds, hfd]
      · exact absurd (hslot hok) (by simp_all)

/-- Dropping the connection drops the request, so a release that comes with it is final. -/
theorem Held.lost (h : Held ok m) : Held ok m.releaseInhibitLock.tearDownBusState := by
  have hcancelled : Held ok { m with inhibitSlot := none } :=
    ⟨h.openFds, h.issued, by simp, h.held⟩
  have hreleased := hcancelled.releaseInhibitLock fun _ => rfl
  apply hreleased.congr
  unfold DBusMonitor.releaseInhibitLock tearDownBusState
  cases m.inhibitFd <;> rfl

theorem lock_unregister (m : DBusMonitor) : m.unregister.lock = m.lock := by
  unfold unregister
  split
  · rfl
  · split_ifs <;> rfl

theorem lock_scheduleFirst (m : DBusMonitor) (armOk : Bool) :
    (m.scheduleFirst armOk).lock = m.lock := by
  unfold scheduleFirst
  split
  · rfl
  · split_ifs <;> rfl

theorem lock_armHeartbeat (m : DBusMonitor) (armOk : Bool) :
    (m.armHeartbeat armOk).lock = m.lock := by
  unfold armHeartbeat
  split_ifs <;> rfl

theorem lock_scheduleNext (m : DBusMonitor) (armOk : Bool) :
    (m.scheduleNext armOk).lock = m.lock := by
  unfold scheduleNext
  split
  · rw [lock_armHeartbeat]
    rfl
  · split_ifs <;> rfl

theorem lock_updateTimer (m : DBusMonitor) (u : Update) : (m.updateTimer u).lock = m.lock := by
  simp only [updateTimer]
  split
  · rfl
  · split_ifs <;> rfl

theorem Held.handleBusDisconnect (h : Held ok m) (armOk : Bool) :
    Held ok (m.handleBusDisconnect armOk) := by
  unfold DBusMonitor.handleBusDisconnect
  split_ifs
  · exact h
  · apply h.lost.congr
    rw [lock_scheduleFirst]
    have hunregister := lock_unregister m.releaseInhibitLock
    simp only [lock, tearDownBusState, Prod.mk.injEq] at hunregister ⊢
    simp [hunregister]

theorem Held.updateLoopRegistration (h : Held ok m) (u : Update) :
    Held ok (m.updateLoopRegistration u) := by
  simp only [DBusMonitor.updateLoopRegistration]
  split
  · exact h
  · split
    · exact h
    · split_ifs
      · exact h.handleBusDisconnect u.reconnectTimerOk
      · apply h.congr
        rw [lock_updateTimer]
        exact lock_unregister m
      · exact h.congr (lock_unregister m)
      · apply h.congr
        rw [lock_updateTimer]
        rfl
      · exact h.congr (lock_updateTimer m u)

/-- A new request is one made after the last release. -/
theorem Held.issue (h : Held ok m) :
    Held ok { m with inhibitSlot := some m.requests, requests := m.requests + 1 } where
  openFds := h.openFds
  issued := Nat.le_succ_of_le h.issued
  inFlight := by
    rintro _ request ⟨⟩
    exact h.issued
  held := h.held

/-- The answer to a request made after the last release may be installed. -/
theorem Held.install (h : Held ok m) (hnone : m.inhibitFd = none) {request : ℕ}
    (hlater : ok → m.lastRelease ≤ request) (dup : Option ℕ) :
    Held ok (m.install request dup) := by
  have hclosed : m.openFds = [] := by rw [h.openFds, hnone]; rfl
  cases dup with
  | none => exact ⟨hclosed, h.issued, h.inFlight, by simp [DBusMonitor.install]⟩
  | some fd =>
      refine ⟨?_, h.issued, h.inFlight, fun hok _ _ => hlater hok⟩
      simp [DBusMonitor.install, hclosed]

theorem Held.takeInhibitLock (h : Held ok m) (callOk : Bool) (u : Update) (reply : InhibitReply) :
    Held ok (m.takeInhibitLock callOk u reply).1 := by
  have hasked : Held ok { m with requests := m.requests + 1 } :=
    ⟨h.openFds, Nat.le_succ_of_le h.issued, h.inFlight, h.held⟩
  unfold DBusMonitor.takeInhibitLock
  split
  · exact h
  · split_ifs with hheld
    · exact h
    · exact h
    · exact h.issue.updateLoopRegistration u
    · exact h
    · cases reply with
      | error | unreadable => exact hasked
      | descriptor dup =>
          have hnone : m.inhibitFd = none := by simpa using hheld
          exact hasked.install hnone (fun _ => h.issued) dup

theorem Held.onInhibitReply (h : Held ok m) {request : ℕ} (hslot : m.inhibitSlot = some request)
    (reply : InhibitReply) : Held ok (m.onInhibitReply request reply) := by
  have hanswered : Held ok { m with inhibitSlot := none } :=
    ⟨h.openFds, h.issued, by simp, h.held⟩
  have hlater : ok → m.lastRelease ≤ request := fun hok => h.inFlight hok request hslot
  cases reply with
  | error | unreadable => exact hanswered
  | descriptor dup =>
      simp only [DBusMonitor.onInhibitReply]
      split
      · next hfd => exact hanswered.install hfd hlater dup
      · next fd hfd =>
          have hclosed : Held ok { m with
              inhibitSlot := none, inhibitFd := none, openFds := m.openFds.erase fd } :=
            ⟨by simp [h.openFds, hfd], h.issued, by simp, by simp⟩
          exact hclosed.install rfl hlater dup

theorem Held.suspendSystem (h : Held ok m) (callOk : Bool) (u : Update) :
    Held ok (m.suspendSystem callOk u).1 := by
  unfold DBusMonitor.suspendSystem
  split
  · exact h
  · split_ifs
    · exact h.updateLoopRegistration u
    · exact h

theorem Held.processBus (h : Held ok m) (u : Update) : Held ok (m.processBus u) := by
  unfold DBusMonitor.processBus
  split_ifs
  · exact h.updateLoopRegistration u
  · exact h.congr rfl

theorem Held.leaveLoop (h : Held ok m) (u : Update) : Held ok (m.leaveLoop u) :=
  (h.updateLoopRegistration u).congr rfl

theorem Held.pass (h : Held ok m) {u : Update} {outcome : Pass}
    (hpass : m.pass u outcome = some m') : Held ok m' := by
  have hlost := (h.handleBusDisconnect u.reconnectTimerOk).leaveLoop u
  have hleft := h.leaveLoop u
  unfold DBusMonitor.pass at hpass
  split at hpass
  · exact Option.some.inj hpass ▸ hlost
  · cases outcome with
    | inhibitReply reply =>
        obtain ⟨request, hslot, rfl⟩ := Option.map_eq_some_iff.mp hpass
        exact h.onInhibitReply hslot reply
    | prepareForSleep readOk =>
        cases readOk with
        | true => exact Option.some.inj hpass ▸ h.congr rfl
        | false => exact Option.some.inj hpass ▸ h
    | other => exact Option.some.inj hpass ▸ h
    | nothing => exact Option.some.inj hpass ▸ hleft
    | failed isOpen =>
        cases isOpen with
        | true => exact Option.some.inj hpass ▸ hleft
        | false => exact Option.some.inj hpass ▸ hlost

theorem Held.reconnectBus (h : Held ok m) (answers : AttemptAnswers) :
    Held ok (m.reconnectBus answers).1 := by
  simp only [DBusMonitor.reconnectBus]
  split
  · exact h.congr rfl
  · next fd _ =>
      have hbus : Held ok { m with bus := some ⟨fd⟩, signalSlot := true } := h.congr rfl
      split_ifs
      · exact hbus.takeInhibitLock answers.callOk {} .error
      · exact h.congr rfl

theorem lock_registerBusWithLoop (m : DBusMonitor) (answers : AttemptAnswers) :
    (m.registerBusWithLoop answers).1.lock = m.lock := by
  unfold registerBusWithLoop
  split
  · rfl
  · split_ifs <;> rfl

/-- An attempt that fails drops the request it has made. -/
theorem Held.attemptReconnect (h : Held ok m) (answers : AttemptAnswers) :
    Held ok (m.attemptReconnect answers).1 := by
  have hreconnected := h.reconnectBus answers
  have hregistered : Held ok (if (m.reconnectBus answers).2 then
      (m.reconnectBus answers).1.registerBusWithLoop answers
      else ((m.reconnectBus answers).1, false)).1 := by
    split_ifs
    · exact hreconnected.congr (lock_registerBusWithLoop _ answers)
    · exact hreconnected
  unfold DBusMonitor.attemptReconnect
  dsimp only
  generalize (if (m.reconnectBus answers).2 then
    (m.reconnectBus answers).1.registerBusWithLoop answers
    else ((m.reconnectBus answers).1, false)) = registered at hregistered ⊢
  split_ifs
  · apply Held.processBus
    exact hregistered.congr rfl
  · exact ⟨hregistered.openFds, hregistered.issued, by simp [tearDownBusState], hregistered.held⟩

theorem Held.onReconnectTimer (h : Held ok m) (answers : AttemptAnswers) :
    Held ok (m.onReconnectTimer answers) := by
  have hread : Held ok { m with reconnectTimer := m.reconnectTimer.consume } := h.congr rfl
  have hattempted := hread.attemptReconnect answers
  unfold DBusMonitor.onReconnectTimer
  dsimp only
  split
  · exact hread
  · split_ifs
    · exact hattempted
    · exact hattempted.congr (lock_scheduleNext _ answers.reconnectTimerOk)
  · split_ifs
    · exact hattempted
    · exact hattempted.congr (lock_armHeartbeat _ answers.reconnectTimerOk)

/-- The inhibitor is not released while a request for it is in flight. -/
def Settled (m : DBusMonitor) : Label → Prop
  | .release => m.inhibitSlot = none
  | _ => True

instance (m : DBusMonitor) : ∀ label, Decidable (Settled m label)
  | .release => inferInstanceAs (Decidable (m.inhibitSlot = none))
  | .take _ _ | .suspendSystem _ _ | .busReadable _ | .timerExpires | .timerFires _ | .process _ _
  | .callbackReturns | .reconnectTimerExpires | .reconnectTimerReported
  | .reconnectTimerFires _ => .isTrue trivial

theorem Held.step (h : Held ok m) {label : Label} (hsettled : ok → Settled m label)
    (hstep : machine.step m label = some m') : Held ok m' := by
  change DBusMonitor.step m label = some m' at hstep
  cases label with
  | take callOk u =>
      simp only [DBusMonitor.step] at hstep
      split_ifs at hstep
      exact Option.some.inj hstep ▸ h.takeInhibitLock callOk u .error
  | release =>
      simp only [DBusMonitor.step] at hstep
      split_ifs at hstep
      exact Option.some.inj hstep ▸ h.releaseInhibitLock hsettled
  | suspendSystem callOk u =>
      simp only [DBusMonitor.step] at hstep
      split_ifs at hstep
      exact Option.some.inj hstep ▸ h.suspendSystem callOk u
  | busReadable u =>
      simp only [DBusMonitor.step] at hstep
      split_ifs at hstep
      exact Option.some.inj hstep ▸ h.processBus u
  | timerFires u =>
      have hread : Held ok { m with timer := m.timer.consume } := h.congr rfl
      simp only [DBusMonitor.step] at hstep
      split_ifs at hstep
      exact Option.some.inj hstep ▸ hread.processBus u
  | process outcome u =>
      simp only [DBusMonitor.step] at hstep
      split_ifs at hstep
      exact h.pass hstep
  | timerExpires | reconnectTimerExpires =>
      obtain ⟨timer, _, rfl⟩ := Option.map_eq_some_iff.mp hstep
      exact h.congr rfl
  | callbackReturns | reconnectTimerReported =>
      simp only [DBusMonitor.step] at hstep
      split_ifs at hstep
      exact Option.some.inj hstep ▸ h.congr rfl
  | reconnectTimerFires answers =>
      have hhandled : Held ok { m with reported := false } := h.congr rfl
      simp only [DBusMonitor.step] at hstep
      split_ifs at hstep
      exact Option.some.inj hstep ▸ hhandled.onReconnectTimer answers

theorem held_of_started {delays : List ℕ} {answers : SetupAnswers}
    (h : started delays answers = some m) : Held ok m := by
  obtain ⟨fresh, hinitialized, hattach⟩ := Option.bind_eq_some_iff.mp h
  have hfresh : Held ok fresh := by
    unfold initializeMonitor at hinitialized
    split at hinitialized
    · cases hinitialized
    · next fd _ =>
        split_ifs at hinitialized
        have hempty : Held ok
            { bus := some ⟨fd⟩, signalSlot := true, reconnectSchedule := { delays } } :=
          ⟨rfl, Nat.le_refl _, by simp, by simp⟩
        exact Option.some.inj hinitialized ▸ hempty.takeInhibitLock true {} answers.inhibit
  unfold attach at hattach
  split at hattach
  · cases hattach
  · split_ifs at hattach
    obtain rfl := Option.some.inj hattach
    apply Held.processBus
    exact hfresh.congr rfl

/-- A monitor that has been stopped holds no descriptor open. -/
theorem Held.stop_openFds (h : Held ok m) : m.stop.openFds = [] := by
  have hlost := h.lost.openFds
  unfold DBusMonitor.stop
  split_ifs with hstopped
  · rw [h.openFds, hstopped.2.1]
    rfl
  · rw [tearDownBusState, releaseInhibitLock_inhibitFd] at hlost
    exact hlost

/-- **Release is final, unless it overtakes a request.** At most one duplicated descriptor is open,
whatever happens. And in a run in which the inhibitor is never released while a request is in
flight, a lock that is held was asked for after the last release. -/
theorem release_final_of_settled {delays : List ℕ} {answers : SetupAnswers}
    {attached : DBusMonitor} (hstarted : started delays answers = some attached)
    {labels : List Label} (hrun : machine.run attached labels = some m) :
    m.openFds.length ≤ 1 ∧
      (machine.Meets Settled attached labels →
        ∀ fd, m.inhibitFd = some fd → m.lastRelease ≤ m.holder) := by
  constructor
  · have hheld : Held False m :=
      machine.invariant_of_step (fun h hstep => h.step False.elim hstep)
        (held_of_started hstarted) hrun
    rw [hheld.openFds]
    cases m.inhibitFd <;> simp
  · intro hsettled
    have hheld : Held True m :=
      machine.invariant_of_meets (fun h hC hstep => h.step (fun _ => hC) hstep)
        (held_of_started hstarted) hsettled hrun
    exact hheld.held trivial

/-- The first lock is released and taken again; the connection is lost while a request is in
flight, and the one made when it is back is answered. -/
def relock : List Label :=
  [.process .nothing {}, .release, .take true {}, .busReadable {},
    .process (.inhibitReply (.descriptor (some 21))) {}, .process .nothing {},
    .release, .take true {}, .busReadable {}, .process (.failed false) {},
    .reconnectTimerExpires, .reconnectTimerReported, .reconnectTimerFires { connect := some 9 },
    .process (.inhibitReply (.descriptor (some 22))) {}, .process .nothing {}]

theorem release_final_of_settled_relock :
    ∃ attached m, started kReconnectDelays
        { connect := some 7, inhibit := .descriptor (some 20) } = some attached ∧
      machine.run attached relock = some m ∧
      m.inhibitFd = some 22 ∧ m.holder = 3 ∧ m.lastRelease = 3 ∧ m.openFds.length ≤ 1 ∧
      machine.Meets Settled attached relock ∧
      ∀ fd, m.inhibitFd = some fd → m.lastRelease ≤ m.holder := by
  have hreached : ((started kReconnectDelays
      { connect := some 7, inhibit := .descriptor (some 20) }).bind fun attached =>
      (machine.run attached relock).map fun m =>
        (m.inhibitFd, m.holder, m.lastRelease, decide (machine.Meets Settled attached relock))) =
      some (some 22, 3, 3, true) := by decide
  obtain ⟨attached, hstarted, hfinal⟩ := Option.bind_eq_some_iff.mp hreached
  obtain ⟨m, hrun, heq⟩ := Option.map_eq_some_iff.mp hfinal
  simp only [Prod.mk.injEq, decide_eq_true_eq] at heq
  obtain ⟨hfd, hholder, hrelease, hsettled⟩ := heq
  obtain ⟨hopen, hlater⟩ := release_final_of_settled hstarted hrun
  exact ⟨attached, m, hstarted, hrun, hfd, hholder, hrelease, hopen, hsettled, hlater hsettled⟩

/-- The inhibitor is asked for, released before the answer is there, and then answered. -/
def releaseInFlight : List Label :=
  [.process .nothing {}, .take true {}, .release, .busReadable {},
    .process (.inhibitReply (.descriptor (some 21))) {}]

/-- The lock is held again, with nobody left to release it. -/
theorem held_after_release :
    ¬ ∀ (answers : SetupAnswers) (attached m : DBusMonitor) (labels : List Label),
      started kReconnectDelays answers = some attached →
        machine.run attached labels = some m →
          ∀ fd, m.inhibitFd = some fd → m.lastRelease ≤ m.holder := by
  intro h
  have hreached : ((started kReconnectDelays { connect := some 7 }).bind fun attached =>
      (machine.run attached releaseInFlight).map fun m => (m.inhibitFd, m.holder, m.lastRelease)) =
      some (some 21, 1, 2) := by decide
  obtain ⟨attached, hstarted, hfinal⟩ := Option.bind_eq_some_iff.mp hreached
  obtain ⟨m, hrun, heq⟩ := Option.map_eq_some_iff.mp hfinal
  simp only [Prod.mk.injEq] at heq
  obtain ⟨hfd, hholder, hrelease⟩ := heq
  have hlater := h _ attached m releaseInFlight hstarted hrun 21 hfd
  rw [hholder, hrelease] at hlater
  exact absurd hlater (by decide)

end DBusMonitor

end CecControl
