/-
# The last power request wins

The sequencer of suspends and resumes lives in one class, the suspended flag it
is meant to drive in another, and the inhibit lock in a third; requests may be
coalesced, queued, or completed inside the call that starts them. Taken together
they refine a coalescing FIFO sequencer: the log of requests, starts and
completions is one of its runs, and its state is read off the sequencer class.
What is left to follow along a run is the flag, which the last completion sets,
and the lock, which the last completion of a D-Bus request settles.
-/

import CecControl.Daemon.StepLog
import CecControl.Lib.Sequencer

namespace CecControl

open Lib

namespace PowerLifecycle

/-- The abstract sequencer the power lifecycle implements. -/
def sequencer (p : PowerLifecycle) : Sequencer Pending := ⟨p.unfinished, decide (p.phase ≠ .idle)⟩

/-- The lock operation owed by the end of a D-Bus request. -/
def Pending.lockOp (request : Pending) : Lock :=
  match request.kind with
  | .suspend => .release
  | .resume => .take

def Pending.isDBus (request : Pending) : Bool := request.source == .dbus

end PowerLifecycle

namespace Daemon

open PowerLifecycle

/-- The log, as events of the abstract sequencer. -/
def powerEvents : List Effect → List (Sequencer.Event Pending)
  | [] => []
  | .requested request :: log => .request request :: powerEvents log
  | .started request :: log => .start request :: powerEvents log
  | .finished request :: log => .finish request :: powerEvents log
  | _ :: log => powerEvents log

/-- The lock operations emitted, in order. -/
def lockOps : List Effect → List Lock
  | [] => []
  | .lock op :: log => op :: lockOps log
  | _ :: log => lockOps log

@[simp]
theorem powerEvents_append (log more : List Effect) :
    powerEvents (log ++ more) = powerEvents log ++ powerEvents more := by
  fun_induction powerEvents log <;> simp_all [powerEvents]

@[simp]
theorem lockOps_append (log more : List Effect) :
    lockOps (log ++ more) = lockOps log ++ lockOps more := by
  fun_induction lockOps log <;> simp_all [lockOps]

@[simp]
theorem powerEvents_lockLog (source : Source) (op : Lock) :
    powerEvents (lockLog source op) = [] := by
  unfold lockLog
  split_ifs <;> rfl

@[simp]
theorem lockOps_lockLog (source : Source) (op : Lock) :
    lockOps (lockLog source op) = if source = .dbus then [op] else [] := by
  unfold lockLog
  split_ifs <;> rfl

/-- The last request received of a class. -/
def lastRequested (p : Pending → Bool) (log : List Effect) : Option Pending :=
  ((Sequencer.requested (powerEvents log)).filter p).getLast?

/-- The last request finished of a class. -/
def lastFinished (p : Pending → Bool) (log : List Effect) : Option Pending :=
  ((Sequencer.finished (powerEvents log)).filter p).getLast?

/-- The safety timer has already released the lock of the suspend in flight. -/
def releasedEarly (p : PowerLifecycle) : Bool :=
  p.phase == .suspending && p.phaseSource == .dbus && p.safetyFiredFirst

/-- The refinement, and what the flag and the lock add to it. -/
structure Sequenced (d : Daemon) : Prop where
  coupled : Coupled d
  refines : Sequencer.machine.run {} (powerEvents d.log) = some d.powerLifecycle.sequencer
  /-- At rest the flag is what the last completion left. -/
  flagged : d.lifecycleShutdown = false → d.powerLifecycle.phase = .idle →
    (d.suspended = true ↔
      (lastFinished (fun _ => true) d.log).map Pending.kind = some .suspend)
  /-- The lock is where the last D-Bus completion left it, unless the safety timer
  has run ahead. -/
  locked : (lockOps d.log).getLast? =
    if releasedEarly d.powerLifecycle then some .release
    else (lastFinished Pending.isDBus d.log).map Pending.lockOp

namespace Sequenced

variable {d : Daemon}

/-- No power event, and nothing the invariant reads has moved. -/
theorem keep (h : Sequenced d) {d' : Daemon} (hcoupled : Coupled d')
    (hpower : powerEvents d'.log = powerEvents d.log) (hlock : lockOps d'.log = lockOps d.log)
    (hlifecycle : d'.powerLifecycle = d.powerLifecycle)
    (hshut : d'.lifecycleShutdown = d.lifecycleShutdown)
    (hsuspended : d'.suspended = d.suspended) : Sequenced d' := by
  have hfinished (p : Pending → Bool) : lastFinished p d'.log = lastFinished p d.log := by
    unfold lastFinished
    rw [hpower]
  refine ⟨hcoupled, ?_, ?_, ?_⟩
  · rw [hpower, hlifecycle]
    exact h.refines
  · rw [hshut, hlifecycle, hsuspended, hfinished]
    exact h.flagged
  · rw [hlock, hlifecycle, hfinished]
    exact h.locked

/-- Extend the abstract run. -/
theorem refines_append (h : Sequenced d) {s : Sequencer Pending}
    (more : List (Sequencer.Event Pending))
    (hmore : Sequencer.machine.run d.powerLifecycle.sequencer more = some s) :
    Sequencer.machine.run {} (powerEvents d.log ++ more) = some s :=
  Sequencer.machine.run_append_eq_some.mpr ⟨_, h.refines, hmore⟩

/-- With nothing in flight the sequencer holds the queue. -/
theorem sequencer_of_idle {p : PowerLifecycle} (hidle : p.phase = .idle) :
    p.sequencer = ⟨p.pending, false⟩ := by
  simp [sequencer, unfinished, active, hidle]

theorem lastFinished_append (p : Pending → Bool) (log more : List Effect) :
    lastFinished p (log ++ more) =
      (((Sequencer.finished (powerEvents more)).filter p).getLast?).or (lastFinished p log) := by
  simp [lastFinished, List.getLast?_append]

/-- The head of the queue starts and finishes in one go. -/
theorem run_start_finish (request : Pending) (rest : List Pending) :
    Sequencer.machine.run ⟨request :: rest, false⟩ [.start request, .finish request] =
      some ⟨rest, false⟩ := by
  simp [Machine.run, Sequencer.machine, Sequencer.step]

theorem run_start (request : Pending) (rest : List Pending) :
    Sequencer.machine.run ⟨request :: rest, false⟩ [.start request] =
      some ⟨request :: rest, true⟩ := by
  simp [Machine.run, Sequencer.machine, Sequencer.step]

theorem run_finish (request : Pending) (rest : List Pending) :
    Sequencer.machine.run ⟨request :: rest, true⟩ [.finish request] = some ⟨rest, false⟩ := by
  simp [Machine.run, Sequencer.machine, Sequencer.step]

theorem releasedEarly_of_idle {p : PowerLifecycle} (hidle : p.phase = .idle) :
    releasedEarly p = false := by
  simp [releasedEarly, hidle]

theorem roundStable : RoundStable Sequenced where
  suspendNow {d source rest} h hidle hpending hnow := by
    have hrun := h.refines_append _ (by
      rw [sequencer_of_idle hidle, hpending]
      exact run_start_finish ⟨.suspend, source⟩ rest)
    refine ⟨Coupled.roundStable.suspendNow h.coupled hidle hpending hnow, ?_, ?_, ?_⟩
    · rw [sequencer_of_idle rfl]
      simpa [Daemon.suspendNow, powerEvents] using hrun
    · intro hopen _
      have hsuspended : d.suspended = true := by
        simpa [suspendsNow, show d.lifecycleShutdown = false from hopen] using hnow
      simp [Daemon.suspendNow, lastFinished_append, powerEvents, Sequencer.finished, hsuspended]
    · have hlocked := h.locked
      rw [releasedEarly_of_idle hidle] at hlocked
      cases source <;>
        simp_all [Daemon.suspendNow, lastFinished_append, powerEvents, lockOps,
          Sequencer.finished, releasedEarly, Pending.isDBus, Pending.lockOp]
  suspendLater {d source rest} h hidle hpending hlater := by
    have hrun := h.refines_append _ (by
      rw [sequencer_of_idle hidle, hpending]
      exact run_start ⟨.suspend, source⟩ rest)
    refine ⟨Coupled.roundStable.suspendLater h.coupled hidle hpending hlater, ?_, ?_, ?_⟩
    · simpa [Daemon.suspendLater, powerEvents, sequencer, unfinished, active] using hrun
    · intro _ hphase
      simp [Daemon.suspendLater] at hphase
    · have hlocked := h.locked
      rw [releasedEarly_of_idle hidle] at hlocked
      simpa [Daemon.suspendLater, lastFinished_append, powerEvents, lockOps, Sequencer.finished,
        releasedEarly] using hlocked
  resumeNow {d source rest} h hidle hpending hnow := by
    have hrun := h.refines_append _ (by
      rw [sequencer_of_idle hidle, hpending]
      exact run_start_finish ⟨.resume, source⟩ rest)
    refine ⟨Coupled.roundStable.resumeNow h.coupled hidle hpending hnow, ?_, ?_, ?_⟩
    · rw [sequencer_of_idle rfl]
      simpa [Daemon.resumeNow, powerEvents] using hrun
    · intro hopen _
      have hsuspended : d.suspended = false := by
        simpa [resumesNow, show d.lifecycleShutdown = false from hopen] using hnow
      simp [Daemon.resumeNow, lastFinished_append, powerEvents, Sequencer.finished, hsuspended]
    · have hlocked := h.locked
      rw [releasedEarly_of_idle hidle] at hlocked
      cases source <;>
        simp_all [Daemon.resumeNow, lastFinished_append, powerEvents, lockOps,
          Sequencer.finished, releasedEarly, Pending.isDBus, Pending.lockOp]
  resumeLater {d source rest} h hidle hpending hlater := by
    have hrun := h.refines_append _ (by
      rw [sequencer_of_idle hidle, hpending]
      exact run_start ⟨.resume, source⟩ rest)
    refine ⟨Coupled.roundStable.resumeLater h.coupled hidle hpending hlater, ?_, ?_, ?_⟩
    · simpa [Daemon.resumeLater, powerEvents, sequencer, unfinished, active] using hrun
    · intro _ hphase
      simp [Daemon.resumeLater] at hphase
    · have hlocked := h.locked
      rw [releasedEarly_of_idle hidle] at hlocked
      simpa [Daemon.resumeLater, lastFinished_append, powerEvents, lockOps, Sequencer.finished,
        releasedEarly] using hlocked

theorem reconnectStable : ReconnectStable Sequenced where
  quiet {d} reconnect timer arms h :=
    h.keep (Coupled.reconnectStable.quiet (d := d) _ _ _ h.coupled) rfl rfl rfl rfl rfl
  attempt {d} h := by
    have hcoupled := Coupled.reconnectStable.attempt h.coupled
    unfold reconnectAsync at hcoupled ⊢
    dsimp only [issue, emit, submit] at hcoupled ⊢
    split_ifs at hcoupled ⊢ with hshut hsuspended hconnected <;>
      exact h.keep hcoupled (by simp [powerEvents]) (by simp [lockOps]) rfl rfl rfl
  abandon h :=
    h.keep (Coupled.reconnectStable.abandon h.coupled)
      (by simp [onAdapterUnrecoverable, powerEvents])
      (by simp [onAdapterUnrecoverable, lockOps]) rfl rfl rfl

theorem settle (h : Sequenced d) (rounds : ℕ) : Sequenced (settle rounds d) :=
  roundStable.settle reconnectStable.seedReconnect rounds h

theorem received (h : Sequenced d) (request : Pending) : Sequenced (d.received request) := by
  have hcoupled := h.coupled.received request
  have hrun := h.refines_append
    (s := (d.received request).powerLifecycle.sequencer) [.request request] (by
      simp only [Machine.run, Sequencer.machine, Sequencer.step, Option.bind_some,
        Option.some.injEq, Daemon.received, sequencer]
      split_ifs
      · rfl
      · simp [unfinished, active])
  refine ⟨hcoupled, by simpa [Daemon.received, powerEvents] using hrun, ?_, ?_⟩
  · have hphase : (d.received request).powerLifecycle.phase = d.powerLifecycle.phase := by
      unfold Daemon.received
      dsimp only
      split_ifs <;> rfl
    rw [hphase]
    simpa [Daemon.received, lastFinished_append, powerEvents, Sequencer.finished] using h.flagged
  · have hearly : releasedEarly (d.received request).powerLifecycle =
        releasedEarly d.powerLifecycle := by
      unfold Daemon.received
      dsimp only
      split_ifs <;> rfl
    rw [hearly]
    simpa [Daemon.received, lastFinished_append, powerEvents, lockOps, Sequencer.finished]
      using h.locked

theorem safetyFired (h : Sequenced d) : Sequenced d.safetyFired := by
  have hcoupled := h.coupled.safetyFired
  by_cases hfires : d.powerLifecycle.phase = .suspending ∧
      d.powerLifecycle.safetyFiredFirst = false
  · have hlifecycle : d.safetyFired.powerLifecycle =
        { d.powerLifecycle with safetyFiredFirst := true } := by
      simp [Daemon.safetyFired, PowerLifecycle.onSafetyTimerFired, hfires]
    have hlog : d.safetyFired.log = d.log ++ lockLog d.powerLifecycle.phaseSource .release := by
      simp [Daemon.safetyFired, hfires]
    refine ⟨hcoupled, ?_, ?_, ?_⟩
    · rw [hlog, hlifecycle]
      simpa [sequencer, unfinished, active] using h.refines
    · intro _ hidle
      simp [hlifecycle, hfires.1] at hidle
    · have hlocked := h.locked
      rw [hlog, hlifecycle]
      cases hsource : d.powerLifecycle.phaseSource <;>
        simp_all [releasedEarly, lastFinished_append, Sequencer.finished]
  · have hlifecycle : d.safetyFired.powerLifecycle = d.powerLifecycle := by
      have hinert : d.powerLifecycle.phase ≠ .suspending ∨
          d.powerLifecycle.safetyFiredFirst = true := by
        by_cases hphase : d.powerLifecycle.phase = .suspending
        · exact Or.inr (by simpa [hphase] using hfires)
        · exact Or.inl hphase
      simp [Daemon.safetyFired, PowerLifecycle.onSafetyTimerFired, hinert]
    have hlog : d.safetyFired.log = d.log := by simp [Daemon.safetyFired, hfires]
    exact h.keep hcoupled (by rw [hlog]) (by rw [hlog]) hlifecycle rfl rfl

/-- The suspend in flight reports back. -/
theorem suspendDrained (h : Sequenced d) {ticket : ℕ} {posts : List Post}
    (hposts : d.posts = .suspendDone ticket :: posts) :
    Sequenced (suspendReported { d with posts := posts, log := d.log ++ [.invoked ticket] }) := by
  have hcoupled := h.coupled.suspendDrained hposts
  by_cases hphase : d.powerLifecycle.phase = .suspending
  · rw [suspendReported, if_pos hphase] at hcoupled ⊢
    have hrun := h.refines_append _ (by
      rw [show d.powerLifecycle.sequencer =
        ⟨⟨.suspend, d.powerLifecycle.phaseSource⟩ :: d.powerLifecycle.pending, true⟩ by
          simp [sequencer, unfinished, active, hphase]]
      exact run_finish ⟨.suspend, d.powerLifecycle.phaseSource⟩ d.powerLifecycle.pending)
    refine ⟨hcoupled, ?_, fun hopen _ => ?_, ?_⟩
    · rw [sequencer_of_idle rfl]
      cases hfired : d.powerLifecycle.safetyFiredFirst <;>
        simpa [finishSuspend, powerEvents, hfired] using hrun
    · have hsuspended : d.suspended = true :=
        h.coupled.busy hopen (by rw [hphase]; decide)
      cases hfired : d.powerLifecycle.safetyFiredFirst <;>
        simp [finishSuspend, lastFinished_append, powerEvents, Sequencer.finished, hsuspended,
          hfired]
    · have hlocked := h.locked
      cases hfired : d.powerLifecycle.safetyFiredFirst <;>
        cases hsource : d.powerLifecycle.phaseSource <;>
        simp_all [finishSuspend, lastFinished_append, powerEvents, lockOps, Sequencer.finished,
          releasedEarly, Pending.isDBus, Pending.lockOp]
  · rw [suspendReported, if_neg hphase] at hcoupled ⊢
    exact h.keep hcoupled (by simp [powerEvents]) (by simp [lockOps]) rfl rfl rfl

/-- The resume in flight reports back: the flag comes down with it. -/
theorem resumeReported_resumedWith (h : Sequenced d) {ticket : ℕ} {adapterValid : Bool}
    {posts : List Post} (hposts : d.posts = .resumeDone ticket adapterValid :: posts) :
    Sequenced (d.resumedWith ticket adapterValid posts).resumeReported := by
  have hcoupled := h.coupled.resumeReported_resumedWith hposts
  by_cases hphase : d.powerLifecycle.phase = .resuming
  · rw [resumeReported, if_pos (show (d.resumedWith ticket adapterValid posts).powerLifecycle.phase
      = .resuming from hphase)] at hcoupled ⊢
    have hrun := h.refines_append _ (by
      rw [show d.powerLifecycle.sequencer =
        ⟨⟨.resume, d.powerLifecycle.phaseSource⟩ :: d.powerLifecycle.pending, true⟩ by
          simp [sequencer, unfinished, active, hphase]]
      exact run_finish ⟨.resume, d.powerLifecycle.phaseSource⟩ d.powerLifecycle.pending)
    refine ⟨hcoupled, ?_, fun _ _ => ?_, ?_⟩
    · rw [sequencer_of_idle rfl]
      simpa [finishResume, resumedWith, powerEvents] using hrun
    · simp [finishResume, resumedWith, lastFinished_append, powerEvents, Sequencer.finished]
    · have hlocked := h.locked
      cases hsource : d.powerLifecycle.phaseSource <;>
        simp_all [finishResume, resumedWith, lastFinished_append, powerEvents, lockOps,
          Sequencer.finished, releasedEarly, Pending.isDBus, Pending.lockOp]
  · -- only after shutdown, when the flag no longer matters
    have hshut : d.lifecycleShutdown = true := by
      by_contra hopen
      exact hphase (h.coupled.resuming (by simpa using hopen) ticket
        (by simp [outstanding, hposts, Post.token]))
    rw [resumeReported, if_neg (show (d.resumedWith ticket adapterValid posts).powerLifecycle.phase
      ≠ .resuming from hphase)] at hcoupled ⊢
    refine ⟨hcoupled, ?_, fun hopen => ?_, ?_⟩
    · simpa [resumedWith, powerEvents] using h.refines
    · exact absurd (hshut.symm.trans hopen) (by simp)
    · simpa [resumedWith, powerEvents, lockOps, lastFinished_append, Sequencer.finished]
        using h.locked

theorem stepStable {C : Daemon → Label → Prop} : StepStable C Sequenced where
  settle rounds h := h.settle rounds
  received request h := h.received request
  safetyFired h := h.safetyFired
  answered response hC h :=
    h.keep (Coupled.stepStable (C := C) |>.answered response hC h.coupled)
      (by simp [answer, powerEvents]) (by simp [answer, lockOps]) rfl rfl rfl
  standby enabled h :=
    h.keep (Coupled.stepStable (C := C) |>.standby enabled h.coupled) rfl rfl rfl rfl rfl
  parked hC h hshut hsuspended hfind hqueue :=
    h.keep (Coupled.stepStable.parked hC h.coupled hshut hsuspended hfind hqueue)
      (by simp [powerEvents]) (by simp [lockOps]) rfl rfl rfl
  live hC h hshut hsuspended hfind hcall :=
    h.keep (Coupled.stepStable.live hC h.coupled hshut hsuspended hfind hcall)
      (by simp [powerEvents]) (by simp [lockOps]) rfl rfl rfl
  posted kind h :=
    h.keep (Coupled.stepStable (C := C) |>.posted kind h.coupled) rfl rfl rfl rfl rfl
  powerDrained h hposts := h.keep (h.coupled.drained hposts) rfl rfl rfl rfl rfl
  replyDrained _ h hposts :=
    h.keep (h.coupled.drained hposts) (by simp [powerEvents]) (by simp [lockOps]) rfl rfl rfl
  suspendDrained h hposts := h.suspendDrained hposts
  resumeDrained _ h hposts :=
    resumeDrained_of_reported (P := Sequenced) (fun rounds h => h.settle rounds)
      reconnectStable.seedReconnect (h.resumeReported_resumedWith hposts)
  reconnectDrained _ h hposts :=
    reconnectStable.onReconnectEvent
      (h.keep (h.coupled.drained hposts) (by simp [powerEvents]) (by simp [lockOps]) rfl rfl rfl) _
  lostDrained _ h hposts :=
    reconnectStable.onReconnectEvent
      (h.keep (h.coupled.drained hposts) rfl rfl rfl rfl rfl) _
  retryTimer {d} _ h :=
    reconnectStable.onReconnectEvent (reconnectStable.quiet (d := d) _ _ d.arms h) _
  safetyExpired h :=
    h.keep (Coupled.stepStable (C := C) |>.safetyExpired h.coupled) rfl rfl rfl rfl rfl
  retryExpired htimer h :=
    h.keep (Coupled.stepStable (C := C) |>.retryExpired htimer h.coupled) rfl rfl rfl rfl rfl
  taken {d job jobs} h hrunning hjobs hstop := by
    refine h.keep (Coupled.stepStable (C := C) |>.taken h.coupled hrunning hjobs hstop) ?_ ?_
      rfl rfl rfl
    · cases hcommand : job.command? <;> simp [takeJob, powerEvents, hcommand]
    · cases hcommand : job.command? <;> simp [takeJob, lockOps, hcommand]
  reopening h hrunning hrest hstage :=
    h.keep (Coupled.stepStable (C := C) |>.reopening h.coupled hrunning hrest hstage)
      rfl rfl rfl rfl rfl
  opened h hrunning hstage :=
    h.keep (Coupled.stepStable (C := C) |>.opened h.coupled hrunning hstage) rfl rfl rfl rfl rfl
  called hC h hrunning hrest hpossible :=
    h.keep (Coupled.stepStable.called hC h.coupled hrunning hrest hpossible) rfl rfl rfl rfl rfl
  ticked time h hrunning hrest :=
    h.keep (Coupled.stepStable (C := C) |>.ticked time h.coupled hrunning hrest)
      rfl rfl rfl rfl rfl
  slept h hrunning hrest :=
    h.keep (Coupled.stepStable (C := C) |>.slept h.coupled hrunning hrest) rfl rfl rfl rfl rfl
  finished {d r result throttler} hC h hrunning hrest := by
    have hcoupled := Coupled.stepStable.finished hC h.coupled hrunning hrest
    rcases result with _ | (_ | p)
    · exact h.keep hcoupled (by simp [finishJob, powerEvents]) (by simp [finishJob, lockOps])
        rfl rfl rfl
    · exact h.keep hcoupled rfl rfl rfl rfl rfl
    · exact h.keep hcoupled rfl rfl rfl rfl rfl
  exited h hrunning hstop :=
    h.keep (Coupled.stepStable (C := C) |>.exited h.coupled hrunning hstop) rfl rfl rfl rfl rfl
  alerted h := h.keep (Coupled.stepStable (C := C) |>.alerted h.coupled) rfl rfl rfl rfl rfl
  alertPosted h halerting :=
    h.keep (Coupled.stepStable (C := C) |>.alertPosted h.coupled halerting) rfl rfl rfl rfl rfl
  stopped {d} h := by
    have hcoupled := Coupled.stepStable (C := C) |>.stopped h.coupled
    have hshut : d.stop.lifecycleShutdown = true := hcoupled.gates.1.symm.trans rfl
    have hlifecycle : d.stop.powerLifecycle = d.powerLifecycle := by rw [stop_eq]
    have hpower : powerEvents d.stop.log = powerEvents d.log := by
      rw [stop_eq]
      split_ifs <;> simp [powerEvents]
    have hlock : lockOps d.stop.log = lockOps d.log := by
      rw [stop_eq]
      split_ifs <;> simp [lockOps]
    refine ⟨hcoupled, ?_, fun hopen => absurd (hshut.symm.trans hopen) (by simp), ?_⟩
    · rw [hpower, hlifecycle]
      exact h.refines
    · rw [hlock, hlifecycle, lastFinished, hpower]
      exact h.locked

theorem boot (setup : Setup) : Sequenced (boot setup) where
  coupled := Coupled.boot setup
  refines := by simp [Daemon.boot, powerEvents, sequencer, unfinished, active]
  flagged := by simp [Daemon.boot, lastFinished, powerEvents, Sequencer.finished]
  locked := by simp [Daemon.boot, lastFinished, powerEvents, lockOps, Sequencer.finished,
    releasedEarly]

end Sequenced

/-! ## Which requests the log shows -/

/-- The requests received so far. -/
def requestsReceived (d : Daemon) : List Pending := Sequencer.requested (powerEvents d.log)

variable {d d' : Daemon}

/-- What the supervisor does of its own accord is no request received. -/
theorem requestsReceived_told (d : Daemon) :
    d.requestsReceived = Sequencer.requested (powerEvents d.told) := by
  unfold requestsReceived told
  induction d.log with
  | nil => rfl
  | cons e log ih =>
      cases e <;> simp_all [powerEvents, Sequencer.requested, Effect.ofSupervisor]

/-- **The requests logged** are those the step hands to the supervisor. -/
theorem requestsReceived_step {label : Label} (hstep : machine.step d label = some d') :
    d'.requestsReceived = d.requestsReceived ++ (d.request? label).toList := by
  obtain ⟨more, hmore, htells⟩ := told_step hstep
  have hrequested : Sequencer.requested (powerEvents more) = (d.request? label).toList := by
    cases htells with
    | @taken job jobs hjobs => cases hcommand : job.command? <;> rfl
    | _ => simp_all [powerEvents, Sequencer.requested, request?]
  rw [requestsReceived_told, requestsReceived_told, hmore, powerEvents_append,
    Sequencer.requested_append, hrequested]

/-- After a run the log shows the requests of its steps. -/
theorem requestsReceived_run {setup : Setup} {labels : List Label}
    (hrun : machine.run (boot setup) labels = some d) :
    d.requestsReceived =
      machine.seenAlong (fun d label => (d.request? label).toList) (boot setup) labels :=
  machine.recorded_of_step (I := fun _ => True) (fun _ _ => trivial)
    (fun _ hstep => requestsReceived_step hstep) trivial hrun

/-- **Last request wins.** In every run the log shows the power requests of the run's
steps, and with their starts and completions it is a run of the coalescing FIFO
sequencer, whose state is the power lifecycle's. Whenever the lifecycle is at rest,
short of shutdown, the adapter is suspended iff the last request received was a
suspend, and the last lock operation was a release iff the last D-Bus request
received was a suspend. -/
theorem last_request_wins {setup : Setup} {labels : List Label} {d : Daemon}
    (hrun : machine.run (boot setup) labels = some d) :
    d.requestsReceived =
        machine.seenAlong (fun d label => (d.request? label).toList) (boot setup) labels ∧
      Sequencer.machine.run {} (powerEvents d.log) = some d.powerLifecycle.sequencer ∧
      (d.lifecycleShutdown = false → d.powerLifecycle.phase = .idle →
        d.powerLifecycle.pending = [] →
        (d.suspended = true ↔
            (lastRequested (fun _ => true) d.log).map Pending.kind = some .suspend) ∧
          ((lockOps d.log).getLast? = some .release ↔
            (lastRequested Pending.isDBus d.log).map Pending.kind = some .suspend)) := by
  have h : Sequenced d := Sequenced.stepStable.always (Sequenced.boot setup) hrun
  refine ⟨requestsReceived_run hrun, h.refines, fun hopen hidle hpending => ?_⟩
  have haccounted (p : Pending → Bool) : lastRequested p d.log = lastFinished p d.log := by
    have hlast := Sequencer.lastAccounted_run p h.refines
    rw [Sequenced.sequencer_of_idle hidle, hpending] at hlast
    simpa [Sequencer.LastAccounted, lastRequested, lastFinished] using hlast
  rw [haccounted, haccounted]
  refine ⟨h.flagged hopen hidle, ?_⟩
  rw [h.locked, Sequenced.releasedEarly_of_idle hidle]
  cases hfinished : lastFinished Pending.isDBus d.log with
  | none => simp
  | some request =>
      obtain ⟨kind, source⟩ := request
      cases kind <;> simp [Pending.lockOp]

/-- A wire suspend with a D-Bus suspend and a wire resume queued behind it, all
worked off. -/
def overtakenSuspend : List Label :=
  [.wire ⟨.cmdSuspend, 0, []⟩, .dbusSignal .suspend, .drain, .wire ⟨.cmdResume, 0, []⟩,
    .workerTake, .workerCall (.ok true), .workerCall (.ok true), .workerCall (.ok true),
    .workerFinish, .drain, .workerTake, .workerReopen, .workerOpened, .workerCall (.ok true),
    .workerCall (.ok true), .workerCall (.ok true), .workerFinish, .drain]

theorem last_request_wins_overtakenSuspend :
    ∃ d, machine.run (boot {}) overtakenSuspend = some d ∧ d.powerLifecycle.phase = .idle ∧
      ((lockOps d.log).getLast? = some .release ↔
        (lastRequested Pending.isDBus d.log).map Pending.kind = some .suspend) ∧
      (d.suspended = true ↔
        (lastRequested (fun _ => true) d.log).map Pending.kind = some .suspend) := by
  have hrest : (machine.run (boot {}) overtakenSuspend).map
      (fun d => (d.lifecycleShutdown, d.powerLifecycle.phase, d.powerLifecycle.pending)) =
        some (false, .idle, []) := by decide
  obtain ⟨d, hd, hvalues⟩ := Option.map_eq_some_iff.mp hrest
  simp only [Prod.mk.injEq] at hvalues
  obtain ⟨hopen, hidle, hpending⟩ := hvalues
  have hwins := (last_request_wins hd).2.2 hopen hidle hpending
  exact ⟨d, hd, hidle, hwins.2, hwins.1⟩

end Daemon

end CecControl
