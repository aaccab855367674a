/-
# How the monitor loses the inhibitor

Left to itself the monitor keeps the inhibitor it holds for as long as the bus lives: no answer is
waited for while one is held, so none can replace it, and an attempt to reconnect takes nothing
away. Only a call of the release lets go of it, and the loss of the bus.
-/

import CecControl.Bus.DBusMonitor

namespace CecControl

open Lib

namespace DBusMonitor

/-- What holding the inhibitor depends on. -/
def grip (m : DBusMonitor) := (m.bus, m.inhibitFd, m.inhibitSlot, m.state)

/-- What is held is not asked for again, and nothing is held of a bus that is lost; and `fd`, if it
is a descriptor, is held until then. -/
structure Grips (fd : Option ℕ) (m : DBusMonitor) : Prop where
  single : m.inhibitFd ≠ none → m.inhibitSlot = none
  torn : m.state ≠ .operational → m.bus = none ∧ m.inhibitFd = none
  kept : ∀ held, fd = some held → m.state = .operational → m.inhibitFd = some held

variable {fd : Option ℕ} {m m' : DBusMonitor}

namespace Grips

theorem congr (h : Grips fd m) (heq : m'.grip = m.grip) : Grips fd m' := by
  simp only [grip, Prod.mk.injEq] at heq
  obtain ⟨hbus, hfd, hslot, hstate⟩ := heq
  constructor
  · rw [hfd, hslot]
    exact h.single
  · rw [hstate, hbus, hfd]
    exact h.torn
  · rw [hfd, hstate]
    exact h.kept

/-- From here on what is held now. -/
theorem here (h : Grips fd m) : Grips m.inhibitFd m := ⟨h.single, h.torn, fun _ hheld _ => hheld⟩

theorem forget (h : Grips fd m) : Grips none m := ⟨h.single, h.torn, by simp⟩

theorem ofNone (h : Grips none m) (hfd : fd = none) : Grips fd m := hfd ▸ h

/-- What is held is held on a live bus. -/
theorem live (h : Grips fd m) (hheld : m.inhibitFd ≠ none) : m.state = .operational :=
  by_contra fun hdown => hheld (h.torn hdown).2

end Grips

theorem grip_updateTimer (m : DBusMonitor) (u : Update) : (m.updateTimer u).grip = m.grip := by
  simp only [updateTimer]
  split
  · rfl
  · split_ifs <;> rfl

theorem grip_unregister (m : DBusMonitor) : m.unregister.grip = m.grip := by
  unfold unregister
  split
  · rfl
  · split_ifs <;> rfl

namespace Grips

/-- Once the bus is torn down. -/
theorem scheduleFirst (hbus : m.bus = none) (hnone : m.inhibitFd = none)
    (hdown : m.state ≠ .operational) (armOk : Bool) : Grips fd (m.scheduleFirst armOk) := by
  have hdisabled : BusState.disabled ≠ .operational := by simp
  unfold DBusMonitor.scheduleFirst
  split
  · exact ⟨fun hheld => absurd hnone hheld, fun _ => ⟨hbus, hnone⟩,
      fun _ _ hup => absurd hup hdisabled⟩
  · split_ifs
    · exact ⟨fun hheld => absurd hnone hheld, fun _ => ⟨hbus, hnone⟩,
        fun _ _ hup => absurd hup hdown⟩
    · exact ⟨fun hheld => absurd hnone hheld, fun _ => ⟨hbus, hnone⟩,
        fun _ _ hup => absurd hup hdisabled⟩

theorem handleBusDisconnect (h : Grips fd m) (armOk : Bool) :
    Grips fd (m.handleBusDisconnect armOk) := by
  unfold DBusMonitor.handleBusDisconnect
  split_ifs
  · exact h
  · have hunregister := grip_unregister m.releaseInhibitLock
    simp only [grip, releaseInhibitLock_inhibitFd, Prod.mk.injEq] at hunregister
    apply scheduleFirst
    · rfl
    · exact hunregister.2.1
    · simp

theorem updateLoopRegistration (h : Grips fd m) (u : Update) :
    Grips fd (m.updateLoopRegistration u) := by
  simp only [DBusMonitor.updateLoopRegistration]
  split
  · exact h
  · split
    · exact h
    · split_ifs
      · exact h.handleBusDisconnect u.reconnectTimerOk
      · exact h.congr ((grip_updateTimer _ u).trans (grip_unregister m))
      · exact h.congr (grip_unregister m)
      · exact h.congr (grip_updateTimer _ u)
      · exact h.congr (grip_updateTimer m u)

/-- At run time an answer comes later. -/
theorem takeInhibitLock (h : Grips fd m) (callOk : Bool) (u : Update) :
    Grips fd (m.takeInhibitLock callOk u .error).1 := by
  unfold DBusMonitor.takeInhibitLock
  split
  · exact h
  · split_ifs with hheld
    · exact h
    · exact h
    · have hnone : m.inhibitFd = none := by simpa using hheld
      have hissued : Grips fd
          { m with inhibitSlot := some m.requests, requests := m.requests + 1 } :=
        ⟨fun hfd => absurd hnone hfd, h.torn, h.kept⟩
      exact hissued.updateLoopRegistration u
    · exact h
    · exact h.congr rfl

/-- While the inhibitor is held no answer is waited for. -/
theorem onInhibitReply (h : Grips fd m) {request : ℕ} (hslot : m.inhibitSlot = some request)
    (hup : m.state = .operational) (reply : InhibitReply) :
    Grips fd (m.onInhibitReply request reply) := by
  have hnone : m.inhibitFd = none := by_contra fun hfd => by simp [h.single hfd] at hslot
  have hfree (held : ℕ) (hfd : fd = some held) : False := by
    have hheld := h.kept held hfd hup
    simp [hnone] at hheld
  cases reply with
  | error | unreadable => exact ⟨fun _ => rfl, h.torn, h.kept⟩
  | descriptor dup =>
      simp only [DBusMonitor.onInhibitReply, hnone]
      cases dup with
      | none => exact ⟨fun _ => rfl, fun hdown => absurd hup hdown, fun held hfd _ => (hfree held hfd).elim⟩
      | some other => exact ⟨fun _ => rfl, fun hdown => absurd hup hdown, fun held hfd _ => (hfree held hfd).elim⟩

theorem releaseInhibitLock (h : Grips none m) : Grips none m.releaseInhibitLock := by
  refine ⟨by simp, fun hdown => ⟨?_, by simp⟩, by simp⟩
  unfold DBusMonitor.releaseInhibitLock at hdown ⊢
  split at hdown <;> exact (h.torn hdown).1

theorem suspendSystem (h : Grips fd m) (callOk : Bool) (u : Update) :
    Grips fd (m.suspendSystem callOk u).1 := by
  unfold DBusMonitor.suspendSystem
  split
  · exact h
  · split_ifs
    · exact h.updateLoopRegistration u
    · exact h

theorem processBus (h : Grips fd m) (u : Update) : Grips fd (m.processBus u) := by
  unfold DBusMonitor.processBus
  split_ifs
  · exact h.updateLoopRegistration u
  · exact h.congr rfl

theorem leaveLoop (h : Grips fd m) (u : Update) : Grips fd (m.leaveLoop u) :=
  (h.updateLoopRegistration u).congr rfl

theorem pass (h : Grips fd m) {u : Update} {outcome : Pass}
    (hpass : m.pass u outcome = some m') : Grips fd m' := by
  have hlost := (h.handleBusDisconnect u.reconnectTimerOk).leaveLoop u
  have hleft := h.leaveLoop u
  unfold DBusMonitor.pass at hpass
  split at hpass
  · exact Option.some.inj hpass ▸ hlost
  · next hbus =>
    cases outcome with
    | inhibitReply reply =>
        have hup : m.state = .operational := by_contra fun hdown => by simp [(h.torn hdown).1] at hbus
        obtain ⟨request, hslot, rfl⟩ := Option.map_eq_some_iff.mp hpass
        exact h.onInhibitReply hslot hup reply
    | prepareForSleep readOk =>
        cases readOk with
        | true => exact Option.some.inj hpass ▸ h.congr rfl
        | false => exact Option.some.inj hpass ▸ h
    | other => exact Option.some.inj hpass ▸ h
    | nothing => exact Option.some.inj hpass ▸ hleft
    | failed isOpen =>
        cases isOpen with
        | true => exact Option.some.inj hpass ▸ hleft
        | false => exact Option.some.inj hpass ▸ hlost

end Grips

/-! ## Reconnecting -/

/-- On a bus that is not in use yet a request is made, and nothing else. -/
theorem takeInhibitLock_of_down (hdown : m.state ≠ .operational) (callOk : Bool) (u : Update) :
    (m.takeInhibitLock callOk u .error).1.inhibitFd = m.inhibitFd ∧
      (m.takeInhibitLock callOk u .error).1.state = m.state := by
  unfold takeInhibitLock
  split
  · exact ⟨rfl, rfl⟩
  · split_ifs
    · exact ⟨rfl, rfl⟩
    · exact ⟨rfl, rfl⟩
    · simp only [updateLoopRegistration]
      rw [if_pos (.inl hdown)]
      exact ⟨rfl, rfl⟩
    · exact ⟨rfl, rfl⟩
    · exact ⟨rfl, rfl⟩

theorem reconnectBus_of_down (hdown : m.state ≠ .operational) (answers : AttemptAnswers) :
    (m.reconnectBus answers).1.inhibitFd = m.inhibitFd ∧
      (m.reconnectBus answers).1.state = m.state := by
  simp only [reconnectBus]
  split
  · exact ⟨rfl, rfl⟩
  · next fd _ =>
      split_ifs
      · exact takeInhibitLock_of_down (m := { m with bus := some ⟨fd⟩, signalSlot := true }) hdown
          answers.callOk {}
      · exact ⟨rfl, rfl⟩

theorem grip_registerBusWithLoop (m : DBusMonitor) (answers : AttemptAnswers) :
    (m.registerBusWithLoop answers).1.grip = m.grip := by
  unfold registerBusWithLoop
  split
  · rfl
  · split_ifs <;> rfl

/-- Nothing is held during an attempt, and nothing is left of one that fails. -/
theorem Grips.attemptReconnect (h : Grips fd m) (hdown : m.state ≠ .operational)
    (answers : AttemptAnswers) : Grips none (m.attemptReconnect answers).1 ∧
      ((m.attemptReconnect answers).2 = false → (m.attemptReconnect answers).1.state ≠ .operational) := by
  have hregistered : (if (m.reconnectBus answers).2 then
      (m.reconnectBus answers).1.registerBusWithLoop answers
      else ((m.reconnectBus answers).1, false)).1.grip = (m.reconnectBus answers).1.grip := by
    split_ifs
    · exact grip_registerBusWithLoop _ answers
    · rfl
  have hreconnected := reconnectBus_of_down hdown answers
  unfold DBusMonitor.attemptReconnect
  dsimp only
  generalize (if (m.reconnectBus answers).2 then
    (m.reconnectBus answers).1.registerBusWithLoop answers
    else ((m.reconnectBus answers).1, false)) = registered at hregistered ⊢
  simp only [grip, Prod.mk.injEq] at hregistered
  obtain ⟨-, hfd, -, hstate⟩ := hregistered
  have hnone : registered.1.inhibitFd = none :=
    (hfd.trans hreconnected.1).trans (h.torn hdown).2
  split_ifs
  · refine ⟨processBus ?_ _, by simp⟩
    exact ⟨fun hheld => absurd hnone hheld, fun hlost => absurd rfl hlost, by simp⟩
  · refine ⟨⟨fun _ => rfl, fun _ => ⟨rfl, hnone⟩, by simp⟩, fun _ => ?_⟩
    exact fun hup => hdown (hreconnected.2 ▸ hstate ▸ hup)

theorem Grips.armHeartbeat (h : Grips fd m) (armOk : Bool) : Grips fd (m.armHeartbeat armOk) := by
  unfold DBusMonitor.armHeartbeat
  split_ifs
  · exact h.congr rfl
  · exact h

theorem Grips.scheduleNext (h : Grips none m) (hdown : m.state ≠ .operational) (armOk : Bool) :
    Grips none (m.scheduleNext armOk) := by
  unfold DBusMonitor.scheduleNext
  split
  · apply armHeartbeat
    exact ⟨h.single, fun _ => h.torn hdown, by simp⟩
  · split_ifs
    · exact h.congr rfl
    · exact ⟨h.single, fun _ => h.torn hdown, by simp⟩

theorem Grips.onReconnectTimer (h : Grips fd m) (answers : AttemptAnswers) :
    Grips m.inhibitFd (m.onReconnectTimer answers) := by
  have hread : Grips fd { m with reconnectTimer := m.reconnectTimer.consume } := h.congr rfl
  unfold DBusMonitor.onReconnectTimer
  dsimp only
  split
  · exact hread.here
  · next hstate =>
      have hdown : m.state ≠ .operational := by simp [hstate]
      have hnone := (h.torn hdown).2
      obtain ⟨hattempted, hfailed⟩ := hread.attemptReconnect hdown answers
      split_ifs with hok
      · exact hattempted.ofNone hnone
      · have hfailed := hfailed (by simpa using hok)
        exact (hattempted.scheduleNext hfailed answers.reconnectTimerOk).ofNone hnone
  · next hstate =>
      have hdown : m.state ≠ .operational := by simp [hstate]
      have hnone := (h.torn hdown).2
      obtain ⟨hattempted, -⟩ := hread.attemptReconnect hdown answers
      split_ifs
      · exact hattempted.ofNone hnone
      · exact (hattempted.armHeartbeat answers.reconnectTimerOk).ofNone hnone

/-- What is held is let go of by a call of the release, or with the bus. -/
theorem Grips.step (h : Grips fd m) {label : Label} (hlabel : label ≠ .release)
    (hstep : m.step label = some m') : Grips m.inhibitFd m' := by
  have hhere := h.here
  cases label with
  | take callOk u =>
      simp only [DBusMonitor.step] at hstep
      split_ifs at hstep
      exact Option.some.inj hstep ▸ hhere.takeInhibitLock callOk u
  | release => exact absurd rfl hlabel
  | suspendSystem callOk u =>
      simp only [DBusMonitor.step] at hstep
      split_ifs at hstep
      exact Option.some.inj hstep ▸ hhere.suspendSystem callOk u
  | busReadable u =>
      simp only [DBusMonitor.step] at hstep
      split_ifs at hstep
      exact Option.some.inj hstep ▸ hhere.processBus u
  | timerExpires =>
      obtain ⟨timer, -, rfl⟩ := Option.map_eq_some_iff.mp hstep
      exact hhere.congr rfl
  | timerFires u =>
      simp only [DBusMonitor.step] at hstep
      split_ifs at hstep
      have hread : Grips m.inhibitFd { m with timer := m.timer.consume } := hhere.congr rfl
      exact Option.some.inj hstep ▸ hread.processBus u
  | process outcome u =>
      simp only [DBusMonitor.step] at hstep
      split_ifs at hstep
      exact hhere.pass hstep
  | callbackReturns =>
      simp only [DBusMonitor.step] at hstep
      split_ifs at hstep
      exact Option.some.inj hstep ▸ hhere.congr rfl
  | reconnectTimerExpires =>
      obtain ⟨reconnectTimer, -, rfl⟩ := Option.map_eq_some_iff.mp hstep
      exact hhere.congr rfl
  | reconnectTimerReported =>
      simp only [DBusMonitor.step] at hstep
      split_ifs at hstep
      exact Option.some.inj hstep ▸ hhere.congr rfl
  | reconnectTimerFires answers =>
      simp only [DBusMonitor.step] at hstep
      split_ifs at hstep
      have hread : Grips fd { m with reported := false } := h.congr rfl
      exact Option.some.inj hstep ▸ hread.onReconnectTimer answers

theorem Grips.detach (h : Grips fd m) : Grips fd m.detach := by
  unfold DBusMonitor.detach
  split_ifs
  · exact h.congr (grip_unregister m)
  · exact h

theorem Grips.stop (h : Grips none m) : Grips none m.stop := by
  unfold DBusMonitor.stop
  split_ifs
  · exact h
  · exact ⟨fun _ => rfl, fun hdown => absurd rfl hdown, by simp⟩

/-- What was held before is held, unless the bus is lost. -/
theorem Grips.same_or_lost (h : Grips none m) (h' : Grips m.inhibitFd m') {held : ℕ}
    (hheld : m.inhibitFd = some held) :
    m'.inhibitFd = some held ∨ m.state = .operational ∧ m'.state ≠ .operational := by
  by_cases hup : m'.state = .operational
  · exact .inl (h'.kept held hheld hup)
  · exact .inr ⟨h.live (by simp [hheld]), hup⟩

/-- Before it is attached the monitor waits for an answer on the spot. -/
theorem grips_of_started {delays : List ℕ} {answers : SetupAnswers}
    (hstarted : started delays answers = some m) : Grips none m := by
  obtain ⟨fresh, hinitialized, hattach⟩ := Option.bind_eq_some_iff.mp hstarted
  have hfresh : fresh.inhibitSlot = none ∧ fresh.state = .operational := by
    unfold initializeMonitor at hinitialized
    split at hinitialized
    · cases hinitialized
    · next fd _ =>
        split_ifs at hinitialized
        rw [← Option.some.inj hinitialized]
        rcases answers.inhibit with _ | _ | (_ | _) <;> exact ⟨rfl, rfl⟩
  unfold attach at hattach
  split at hattach
  · cases hattach
  · split_ifs at hattach
    obtain rfl := Option.some.inj hattach
    apply Grips.processBus
    exact ⟨fun _ => hfresh.1, fun hdown => absurd hfresh.2 hdown, by simp⟩

end DBusMonitor

end CecControl
