/-
# What a step logs

Working off requests, the supervisor logs what it does of its own accord: starts and
completions, the lock, tickets, attempts turned down. Everything else in the log is there
because of the label of the step. `Tells` lists what, so that the requests, the commands and
the jobs of a log are those of the run's steps.
-/

import CecControl.Daemon.Coupling

namespace CecControl

open Lib PowerLifecycle

/-- Effects of the supervisor's own doing. -/
def Effect.ofSupervisor : Effect → Bool
  | .started _ | .finished _ | .lock _ | .issued _ | .invoked _ | .refused _
  | .abandoned _ _ => true
  | _ => false

namespace Daemon

variable {d d' : Daemon}

/-- The part of the log that the labels account for. -/
def told (d : Daemon) : List Effect := d.log.filter fun e => !e.ofSupervisor

/-- What a step adds to it. -/
inductive Tells (d : Daemon) : Label → List Effect → Prop
  | asked {message request} (id : ℕ) (hrequest : d.request? (.wire message) = some request) :
      Tells d (.wire message) [.requested request, .replied id respSuccess]
  | signalled {request} (hrequest : d.request? .drain = some request) :
      Tells d .drain [.requested request]
  | answered {message} (response : Message) (hrequest : d.request? (.wire message) = none) :
      Tells d (.wire message) [.replied d.requests response]
  | parked {message} (hrequest : d.request? (.wire message) = none) :
      Tells d (.wire message)
        [.accepted ⟨d.requests, message⟩ true, .replied d.requests respSuccess]
  | live {message} (hrequest : d.request? (.wire message) = none) :
      Tells d (.wire message) [.accepted ⟨d.requests, message⟩ false]
  | replied (id : ℕ) (response : Message) (hrequest : d.request? .drain = none) :
      Tells d .drain [.replied id response]
  | resumed (adapterValid : Bool) (hrequest : d.request? .drain = none) :
      Tells d .drain [.resumed adapterValid]
  | taken {job jobs} (hjobs : d.jobs = job :: jobs) :
      Tells d .workerTake (.taken job :: job.command?.toList.map .executed)
  | escaped (job : Job) : Tells d .workerFinish [.escaped job]
  | shutdown : Tells d .stop [.shutdown]
  | nothing {label} (hrequest : d.request? label = none) (hlabel : label ≠ .workerTake) :
      Tells d label []

@[simp]
theorem filter_lockLog (source : Source) (op : Lock) :
    (lockLog source op).filter (fun e => !e.ofSupervisor) = [] := by
  unfold lockLog
  split_ifs <;> rfl

theorem told_append {more : List Effect} (hlog : d'.log = d.log ++ more) :
    d'.told = d.told ++ more.filter fun e => !e.ofSupervisor := by
  simp [told, hlog]

/-- The supervisor has been at work, or nobody has. -/
theorem told_keep (more : List Effect) (hlog : d'.log = d.log ++ more)
    (hmore : more.filter (fun e => !e.ofSupervisor) = []) : d'.told = d.told := by
  rw [told_append hlog, hmore, List.append_nil]

theorem told_roundStable (told : List Effect) : RoundStable fun d => d.told = told where
  suspendNow {_ source _} h _ _ _ := (told_keep _ rfl (by cases source <;> rfl)).trans h
  suspendLater h _ _ _ := (told_keep _ rfl rfl).trans h
  resumeNow {_ source _} h _ _ _ := (told_keep _ rfl (by cases source <;> rfl)).trans h
  resumeLater h _ _ _ := (told_keep _ rfl rfl).trans h

theorem told_reconnectStable (told : List Effect) : ReconnectStable fun d => d.told = told where
  quiet _ _ _ h := h
  attempt {d} h := by
    obtain ⟨-, ok, more, hmore, heq⟩ | ⟨-, -, -, heq⟩ := d.reconnectAsync_cases <;> rw [heq]
    · refine (told_keep _ rfl ?_).trans h
      rcases hmore with rfl | rfl <;> rfl
    · exact (told_keep _ rfl rfl).trans h
  abandon h := (told_keep _ rfl rfl).trans h

theorem told_settle (rounds : ℕ) (d : Daemon) : (settle rounds d).told = d.told :=
  (told_roundStable _).settle (told_reconnectStable _).seedReconnect rounds rfl

theorem told_onReconnectEvent (d : Daemon) (event : AdapterReconnect.Event) :
    (d.onReconnectEvent event).told = d.told :=
  (told_reconnectStable _).onReconnectEvent rfl event

theorem told_onRequested (d : Daemon) (request : Pending) :
    (d.onRequested request).told = d.told ++ [.requested request] := by
  rw [onRequested_eq_settle, told_settle, told_append (d := d) rfl]
  rfl

theorem told_finishSuspend (d : Daemon) : d.finishSuspend.told = d.told := by
  refine told_keep _ rfl ?_
  cases d.powerLifecycle.safetyFiredFirst <;> cases d.powerLifecycle.phaseSource <;> rfl

theorem told_finishResume (d : Daemon) : d.finishResume.told = d.told := by
  refine told_keep _ rfl ?_
  cases d.powerLifecycle.phaseSource <;> rfl

theorem told_dispatches {message : Message} (hrequest : d.request? (.wire message) = none)
    (h : Dispatches d message d') :
    ∃ more, d'.told = d.told ++ more ∧ Tells d (.wire message) more := by
  cases h with
  | answered response => exact ⟨_, told_append rfl, .answered response hrequest⟩
  | standby enabled response => exact ⟨_, told_append rfl, .answered response hrequest⟩
  | parked => exact ⟨_, told_append rfl, .parked hrequest⟩
  | live => exact ⟨_, told_append rfl, .live hrequest⟩

theorem told_receive (d : Daemon) (message : Message) :
    ∃ more, (d.receive message).told = d.told ++ more ∧ Tells d (.wire message) more := by
  cases d.receives message with
  | requested hrequest heq =>
      rename_i request
      refine ⟨_, ?_, .asked (d.onRequested request).requests hrequest⟩
      rw [heq, told_append (d := d.onRequested request) rfl, told_onRequested, List.append_assoc]
      rfl
  | dispatched hrequest hdispatches => exact told_dispatches hrequest hdispatches

theorem told_drained {p : Post} {posts : List Post} (hposts : d.posts = p :: posts) :
    ∃ more, (runPost { d with posts := posts } p).told = d.told ++ more ∧ Tells d .drain more := by
  have hnone {p' : Daemon} (hnot : d.request? .drain = none) (heq : p'.told = d.told) :
      ∃ more, p'.told = d.told ++ more ∧ Tells d .drain more :=
    ⟨[], by rw [heq, List.append_nil], .nothing hnot (by simp)⟩
  cases p with
  | suspendDone ticket =>
      refine hnone (by simp [request?, hposts]) ?_
      simp only [runPost, onSuspendCompleted_eq_settle, told_settle]
      unfold suspendReported
      split_ifs
      · exact (told_finishSuspend _).trans (told_keep _ rfl rfl)
      · exact told_keep _ rfl rfl
  | resumeDone ticket adapterValid =>
      refine ⟨_, ?_, .resumed adapterValid (by simp [request?, hposts])⟩
      refine resumeDrained_of_reported (P := fun d' => d'.told = d.told ++ [.resumed adapterValid])
        (fun rounds h => (told_settle rounds _).trans h)
        (fun h => (told_reconnectStable _).seedReconnect h) ?_
      have hresumed : (d.resumedWith ticket adapterValid posts).told =
          d.told ++ [.resumed adapterValid] := by
        rw [told_append (d := d) rfl]
        rfl
      unfold resumeReported
      split_ifs
      · exact (told_finishResume _).trans hresumed
      · exact hresumed
  | reconnectDone ticket ok =>
      refine hnone (by simp [request?, hposts]) ?_
      exact (told_onReconnectEvent _ _).trans (told_keep _ rfl rfl)
  | reply id response =>
      exact ⟨_, told_append rfl, .replied id response (by simp [request?, hposts])⟩
  | connectionLost =>
      exact hnone (by simp [request?, hposts]) (told_onReconnectEvent _ _)
  | power kind =>
      have hrequest : d.request? .drain = some ⟨kind, .dbus⟩ := by simp [request?, hposts]
      refine ⟨_, ?_, .signalled hrequest⟩
      rw [runPost_power]
      exact told_onRequested _ _

/-- **Inversion** for the log. -/
theorem told_step {label : Label} (hstep : machine.step d label = some d') :
    ∃ more, d'.told = d.told ++ more ∧ Tells d label more := by
  have hnone (hrequest : d.request? label = none) (hlabel : label ≠ .workerTake)
      (heq : d'.told = d.told) : ∃ more, d'.told = d.told ++ more ∧ Tells d label more :=
    ⟨[], by rw [heq, List.append_nil], .nothing hrequest hlabel⟩
  cases moves_of_step hstep with
  | wire message => exact told_receive d message
  | drain hposts => exact told_drained hposts
  | safetyTimer =>
      refine hnone rfl (by simp) ?_
      rw [onSafetyTimerFired_eq_settle, told_settle]
      refine told_keep _ rfl ?_
      split_ifs <;> simp
  | retryTimer => exact hnone rfl (by simp) (told_onReconnectEvent _ _)
  | stop =>
      have hlog := congrArg Daemon.log d.stop_eq
      by_cases hshut : d.lifecycleShutdown = true
      · exact hnone rfl (by simp) (told_keep [] (by simpa [hshut] using hlog) rfl)
      · exact ⟨_, told_append (by simpa [hshut] using hlog), .shutdown⟩
  | workerTake hrunning hjobs hstop =>
      rename_i job _
      refine ⟨_, ?_, .taken hjobs⟩
      rw [told_append (d := d) rfl]
      cases hcommand : job.command? <;> rfl
  | working hrunning hworks =>
      cases hworks with
      | finished hrest =>
          rename_i result throttler
          rcases result with _ | (_ | p)
          · exact ⟨_, told_append rfl, .escaped _⟩
          · exact hnone rfl (by simp) rfl
          · exact hnone rfl (by simp) rfl
      | _ => exact hnone rfl (by simp) rfl
  | _ => exact hnone rfl (by simp) rfl

end Daemon

end CecControl
