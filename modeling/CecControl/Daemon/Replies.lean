/-
# When the daemon calls a reply sink

The sink of a request is called in two places: while the request is being handled,
if the answer is known on the spot, and when the reply posted by its worker job is
drained. No other step of the daemon answers anybody.
-/

import CecControl.Daemon.Completion

namespace CecControl

open Lib PowerLifecycle

/-- The request answered, and the answer. -/
def Effect.reply? : Effect → Option (ℕ × Message)
  | .replied id response => some (id, response)
  | _ => none

namespace Daemon

/-- The sink calls made so far. -/
def replies (d : Daemon) : List (ℕ × Message) := d.log.filterMap Effect.reply?

/-- How many requests have been handed over, and what has been answered. -/
def answering (d : Daemon) : ℕ × List (ℕ × Message) := (d.requests, d.replies)

/-- Logging anything but an answer changes nothing. -/
theorem answering_keep {d d' : Daemon} {state : ℕ × List (ℕ × Message)} (h : d.answering = state)
    (more : List Effect) (hlog : d'.log = d.log ++ more) (hrequests : d'.requests = d.requests)
    (hmore : more.filterMap Effect.reply? = []) : d'.answering = state := by
  simpa [answering, replies, hlog, hrequests, hmore] using h

theorem reply_lockLog (source : Source) (op : Lock) :
    (lockLog source op).filterMap Effect.reply? = [] := by
  unfold lockLog
  split_ifs <;> rfl

/-- Steps that call no sink: no request is handled and no reply is drained. -/
def silent (d : Daemon) : Label → Bool
  | .wire _ => false
  | .drain =>
      match d.posts with
      | .reply _ _ :: _ => false
      | _ => true
  | _ => true

section Stable

variable {state : ℕ × List (ℕ × Message)}

attribute [local simp] reply_lockLog Effect.reply?

theorem answering_roundStable : RoundStable fun d => d.answering = state where
  suspendNow {_ source _} h _ _ _ := answering_keep h _ rfl rfl (by cases source <;> rfl)
  suspendLater h _ _ _ := answering_keep h _ rfl rfl rfl
  resumeNow {_ source _} h _ _ _ := answering_keep h _ rfl rfl (by cases source <;> rfl)
  resumeLater h _ _ _ := answering_keep h _ rfl rfl rfl

theorem answering_reconnectStable : ReconnectStable fun d => d.answering = state where
  quiet _ _ _ h := h
  attempt {d} h := by
    rw [← h]
    unfold reconnectAsync
    dsimp only [issue, emit]
    split_ifs <;> simp [answering, replies]
  abandon h := answering_keep h _ rfl rfl (by simp)

theorem answering_settle {d : Daemon} (rounds : ℕ) (h : d.answering = state) :
    (settle rounds d).answering = state :=
  answering_roundStable.settle answering_reconnectStable.seedReconnect rounds h

/-- No silent step changes what has been answered. -/
theorem answering_stepStable :
    StepStable (fun d label => d.silent label = true) fun d => d.answering = state where
  settle rounds h := answering_settle rounds h
  received _ h := answering_keep h _ rfl rfl rfl
  safetyFired {d} h := by
    refine answering_keep h _ rfl rfl ?_
    split_ifs
    · exact reply_lockLog _ _
    · rfl
  answered _ hC _ := by
    obtain ⟨before, message, hsilent⟩ := hC
    cases hsilent
  standby _ h := h
  parked hC := by cases hC
  live hC := by cases hC
  posted _ h := h
  powerDrained h _ := h
  replyDrained {d id response posts} hC _ hposts := by simp [silent, hposts] at hC
  suspendDrained {d ticket posts} h _ := by
    have hinvoked : answering { d with posts := posts, log := d.log ++ [.invoked ticket] } =
        state := answering_keep h _ rfl rfl rfl
    unfold suspendReported
    split_ifs
    · refine answering_keep hinvoked _ rfl rfl ?_
      cases d.powerLifecycle.safetyFiredFirst <;> cases d.powerLifecycle.phaseSource <;> rfl
    · exact hinvoked
  resumeDrained {d ticket adapterValid posts} _ h _ := by
    refine resumeDrained_of_reported (P := fun d => d.answering = state)
      (fun rounds => answering_settle rounds) answering_reconnectStable.seedReconnect ?_
    have hresumed : (d.resumedWith ticket adapterValid posts).answering = state :=
      answering_keep h _ rfl rfl rfl
    unfold resumeReported
    split_ifs
    · refine answering_keep hresumed _ rfl rfl ?_
      cases (d.resumedWith ticket adapterValid posts).powerLifecycle.phaseSource <;> rfl
    · exact hresumed
  reconnectDrained {d ticket ok posts} _ h _ :=
    answering_reconnectStable.onReconnectEvent
      (d := { d with posts := posts, log := d.log ++ [.invoked ticket] })
      (answering_keep h _ rfl rfl rfl) _
  lostDrained {d posts} _ h _ :=
    answering_reconnectStable.onReconnectEvent (d := { d with posts := posts }) h _
  retryTimer {d} _ h :=
    answering_reconnectStable.onReconnectEvent
      (d := { d with reconnectRetryTimer := d.reconnectRetryTimer.consume }) h _
  safetyExpired h := h
  retryExpired _ h := h
  taken {d job jobs} h _ _ _ := by
    refine answering_keep h _ rfl rfl ?_
    cases job <;> simp [Job.command?]
  reopening h _ _ _ := h
  opened h _ _ := h
  called _ h _ _ _ := h
  ticked _ h _ _ := h
  slept h _ _ := h
  finished {d r result throttler} _ h _ _ := by
    rcases result with _ | (_ | p)
    · exact answering_keep h _ rfl rfl rfl
    · exact h
    · exact h
  exited h _ _ := h
  alerted h := h
  alertPosted h _ := h
  stopped {d} h := by
    rw [← h, stop_eq]
    split_ifs <;> simp [answering, replies]

end Stable

/-- A silent step answers nobody. -/
theorem answering_of_step {d d' : Daemon} {label : Label} (hsilent : d.silent label = true)
    (hstep : machine.step d label = some d') : d'.answering = d.answering :=
  answering_stepStable.step rfl hsilent hstep

theorem answering_onRequested (d : Daemon) (request : Pending) :
    (d.onRequested request).answering = d.answering := by
  rw [onRequested_eq_settle]
  exact answering_settle _ (answering_keep rfl _ rfl rfl rfl)

theorem answering_dispatch (d : Daemon) (command : Command) :
    (d.dispatch command).1.answering = d.answering := by
  unfold dispatch
  by_cases hshut : d.dispatcherShutdown = true
  · rw [if_pos hshut]
  rw [if_neg hshut]
  cases findDispatchByType command.message.type with
  | none => rfl
  | some spec =>
      dsimp only
      by_cases hintercepted : spec.dispatch = .supervisorIntercepted
      · rw [if_pos hintercepted]
      rw [if_neg hintercepted]
      by_cases hsuspended : d.suspended = true
      · rw [if_pos hsuspended]
        unfold handleSuspendedInline
        split_ifs
        · exact answering_keep rfl _ rfl rfl rfl
        · rfl
      · rw [if_neg hsuspended]
        cases spec.dispatch with
        | stateOnly =>
            unfold applyStandby
            dsimp only
            split <;> rfl
        | adapterCall => exact answering_keep rfl _ rfl rfl rfl
        | supervisorIntercepted => rfl

/-- Handling a request hands its answer back and calls no sink itself. -/
theorem answering_handleCommand (d : Daemon) (command : Command) :
    (d.handleCommand command).1.answering = d.answering := by
  unfold handleCommand
  split
  · split_ifs
    · split
      · exact answering_onRequested d _
      · exact answering_onRequested d _
      · rfl
    · exact answering_dispatch d command
  · exact answering_dispatch d command

/-- A request is handed over under the next number, and answered at most with what
handling it hands back. -/
theorem answering_receive (d : Daemon) (message : Message) :
    (d.receive message).answering =
      (d.requests + 1,
        d.replies ++ (d.handleCommand ⟨d.requests, message⟩).2.toList.map (d.requests, ·)) := by
  have h := answering_handleCommand d ⟨d.requests, message⟩
  unfold receive
  generalize d.handleCommand ⟨d.requests, message⟩ = handled at h
  rcases handled with ⟨next, _ | response⟩
  all_goals
    simp only [answering, replies, Prod.mk.injEq] at h
    obtain ⟨hrequests, hreplies⟩ := h
    simp [answering, answer, replies, hrequests, hreplies, Effect.reply?]

/-- A posted reply has not been made yet, and was asked for. -/
theorem Balanced.unanswered {d : Daemon} (h : Balanced d) {id : ℕ} {response : Message}
    (hpost : .reply id response ∈ d.posts) :
    id < d.requests ∧ ∀ other, (id, other) ∉ d.replies := by
  have hpending : 0 < tally Post.obligation d.posts (.reply id) :=
    tally_pos_iff.mpr ⟨_, hpost, rfl⟩
  have hledger := h.atMost (.reply id)
  simp only [issuedCount, outstandingCount] at hledger
  have hasked : id < d.requests := by
    by_contra hnot
    rw [if_neg hnot] at hledger
    omega
  refine ⟨hasked, fun other hmem => ?_⟩
  have hmade : 0 < d.dischargedCount (.reply id) := by
    obtain ⟨e, he, hreply⟩ := List.mem_filterMap.mp hmem
    refine tally_pos_iff.mpr ⟨e, he, ?_⟩
    cases e <;> simp_all [Effect.reply?, Effect.discharged]
  rw [if_pos hasked] at hledger
  omega

end Daemon

end CecControl
