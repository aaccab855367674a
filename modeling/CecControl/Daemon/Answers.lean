/-
# What the daemon answers

A request is answered with `RESP_SUCCESS` or `RESP_ERROR` and nothing else: neither carries a
payload, so that a client never has to parse more than a type. The response is made in many
places, on the spot or by a job whose closure is drained later; what is kept along a run is that
every reply made, posted, or still to be computed is one of the two.
-/

import CecControl.Daemon.Replies

namespace CecControl

open Lib WorkerM

/-- The two responses there are. -/
def Message.IsResponse (m : Message) : Prop := m = Daemon.respSuccess ∨ m = Daemon.respError

theorem Message.IsResponse.deserialize {m : Message} (h : m.IsResponse) :
    Message.deserialize m.serialize = some m := by
  rcases h with rfl | rfl <;> decide

namespace WorkerM

/-- What is returned follows from what came before. -/
theorem Returns.andThen {α β : Type} {R : α → Prop} {Q : β → Prop} {m : WorkerM α}
    {f : α → WorkerM β} (hm : Returns R m) (hf : ∀ value, R value → Returns Q (f value)) :
    Returns Q (m >>= f) := by
  intro t
  rw [program_bind]
  refine (hm t).bind ?_
  rintro ⟨outcome, t'⟩ houtcome
  cases outcome with
  | ok value => exact hf value (houtcome value rfl) t'
  | error e => exact fun value hvalue => by cases hvalue

theorem Returns.catchStd {α : Type} {Q : α → Prop} {body handler : WorkerM α}
    (hbody : Returns Q body) (hhandler : Returns Q handler) : Returns Q (body.catchStd handler) := by
  intro t
  refine (hbody t).bind ?_
  rintro ⟨outcome, t'⟩ houtcome
  rcases outcome with (_ | _) | value
  · exact hhandler t'
  · exact fun value hvalue => by cases hvalue
  · exact houtcome

end WorkerM

/-- A command is answered with one of the two. -/
theorem returns_executeOnAdapter (command : Message) (spec : DispatchSpec) :
    Returns Message.IsResponse (executeOnAdapter command spec) := by
  have hsuccess : Returns Message.IsResponse (pure ⟨.respSuccess, 0, []⟩ : WorkerM Message) :=
    returns_pure (Or.inl rfl)
  have herror : Returns Message.IsResponse (pure ⟨.respError, 0, []⟩ : WorkerM Message) :=
    returns_pure (Or.inr rfl)
  have hhandle (handler : AdapterHandler) : Returns Message.IsResponse (do
      if ← handler.run command then return ⟨.respSuccess, 0, []⟩
      return ⟨.respError, 0, []⟩) :=
    Returns.bind fun _ => Returns.ite hsuccess herror
  refine Returns.catchStd ?_ herror
  dsimp only
  split
  · refine Returns.bind fun connected => ?_
    split
    · exact herror
    · cases spec.adapterHandler with
      | none => exact herror
      | some handler => exact hhandle handler
  · cases spec.adapterHandler with
    | none => exact herror
    | some handler => exact hhandle handler

/-- The response a closure carries is one of the two. -/
def Post.Plain : Post → Prop
  | .reply _ response => response.IsResponse
  | _ => True

theorem Job.plain_body (job : Job) :
    Returns (fun result => ∀ p, result = some p → p.Plain) job.body := by
  have hother (hcompletes : ∀ result p, job.Completes result → result = some p → p.Plain) :
      Returns (fun result => ∀ p, result = some p → p.Plain) job.body := fun t =>
    (job.returns_body t).mono fun _ hresult value hvalue p =>
      hcompletes value p (hresult value hvalue)
  cases job with
  | suspend ticket =>
      refine hother ?_
      rintro _ _ rfl ⟨⟩
      trivial
  | resume ticket =>
      refine hother ?_
      rintro _ _ ⟨_, rfl⟩ ⟨⟩
      trivial
  | reconnect ticket =>
      refine hother ?_
      rintro _ _ ⟨_, rfl⟩ ⟨⟩
      trivial
  | replay command spec =>
      refine hother ?_
      rintro _ _ rfl ⟨⟩
  | live command spec =>
      refine (returns_executeOnAdapter command.message spec).andThen fun response hresponse => ?_
      refine returns_pure ?_
      rintro _ ⟨⟩
      exact hresponse

namespace Daemon

/-- Every response on its way is one of the two. -/
structure Plain (d : Daemon) : Prop where
  posts : ∀ p ∈ d.posts, p.Plain
  running : ∀ r, d.running = some r →
    r.rest.Ends fun result => ∀ value, result.1 = .ok value → ∀ p, value = some p → p.Plain

variable {d : Daemon}

theorem Plain.keep (h : Plain d) {d' : Daemon} (hposts : ∀ p ∈ d'.posts, p ∈ d.posts)
    (hrunning : d'.running = d.running) : Plain d' where
  posts p hp := h.posts p (hposts p hp)
  running r hr := h.running r (hrunning ▸ hr)

theorem Plain.post (h : Plain d) {d' : Daemon} (p : Post) (hp : p.Plain)
    (hposts : d'.posts = d.posts ++ [p]) (hrunning : d'.running = d.running) : Plain d' where
  posts other hother := by
    rw [hposts] at hother
    rcases List.mem_append.mp hother with hold | hnew
    · exact h.posts other hold
    · exact List.mem_singleton.mp hnew ▸ hp
  running r hr := h.running r (hrunning ▸ hr)

/-- The program of the running job goes on. -/
theorem Plain.advance (h : Plain d) {d' : Daemon} {r r' : Running} (hposts : d'.posts = d.posts)
    (hrunning : d.running = some r) (hrunning' : d'.running = some r')
    (hends : ∀ {Q}, r.rest.Ends Q → r'.rest.Ends Q) : Plain d' where
  posts p hp := h.posts p (hposts ▸ hp)
  running other hother := by
    obtain rfl := Option.some.inj (hrunning'.symm.trans hother)
    exact hends (h.running r hrunning)

theorem plain_roundStable : RoundStable Plain where
  suspendNow h _ _ _ := h.keep (fun _ hp => hp) rfl
  suspendLater h _ _ _ := h.keep (fun _ hp => hp) rfl
  resumeNow h _ _ _ := h.keep (fun _ hp => hp) rfl
  resumeLater h _ _ _ := h.keep (fun _ hp => hp) rfl

theorem plain_reconnectStable : ReconnectStable Plain where
  quiet _ _ _ h := h.keep (fun _ hp => hp) rfl
  attempt {d} h := by
    obtain ⟨-, ok, more, -, heq⟩ | ⟨-, -, -, heq⟩ := d.reconnectAsync_cases <;> rw [heq] <;>
      exact h.keep (fun _ hp => hp) rfl
  abandon h := h.keep (fun _ hp => hp) rfl

theorem plain_stepStable : StepStable (fun _ _ => True) Plain where
  settle rounds h := plain_roundStable.settle plain_reconnectStable.seedReconnect rounds h
  received _ h := h.keep (fun _ hp => hp) rfl
  safetyFired h := h.keep (fun _ hp => hp) rfl
  answered _ _ h := h.keep (fun _ hp => hp) rfl
  standby _ h := h.keep (fun _ hp => hp) rfl
  parked _ h _ _ _ _ := h.keep (fun _ hp => hp) rfl
  live _ h _ _ _ _ := h.keep (fun _ hp => hp) rfl
  posted kind h := h.post (.power kind) trivial rfl rfl
  powerDrained h hposts := h.keep (fun _ hp => hposts ▸ List.mem_cons_of_mem _ hp) rfl
  replyDrained _ h hposts := h.keep (fun _ hp => hposts ▸ List.mem_cons_of_mem _ hp) rfl
  suspendDrained {d ticket posts} h hposts := by
    refine h.keep (fun p hp => hposts ▸ List.mem_cons_of_mem _ ?_) ?_
    · unfold suspendReported at hp
      split_ifs at hp <;> exact hp
    · unfold suspendReported
      split_ifs <;> rfl
  resumeDrained {d ticket adapterValid posts} _ h hposts := by
    refine resumeDrained_of_reported (P := Plain)
      (fun rounds => plain_roundStable.settle plain_reconnectStable.seedReconnect rounds)
      plain_reconnectStable.seedReconnect ?_
    refine h.keep (fun p hp => hposts ▸ List.mem_cons_of_mem _ ?_) ?_
    · unfold resumeReported at hp
      split_ifs at hp <;> exact hp
    · unfold resumeReported
      split_ifs <;> rfl
  reconnectDrained {d ticket ok posts} _ h hposts :=
    plain_reconnectStable.onReconnectEvent
      (d := { d with posts := posts, log := d.log ++ [.invoked ticket] })
      (h.keep (fun _ hp => hposts ▸ List.mem_cons_of_mem _ hp) rfl) _
  lostDrained {d posts} _ h hposts :=
    plain_reconnectStable.onReconnectEvent (d := { d with posts := posts })
      (h.keep (fun _ hp => hposts ▸ List.mem_cons_of_mem _ hp) rfl) _
  retryTimer {d} _ h :=
    plain_reconnectStable.onReconnectEvent
      (d := { d with reconnectRetryTimer := d.reconnectRetryTimer.consume })
      (h.keep (fun _ hp => hp) rfl) _
  safetyExpired h := h.keep (fun _ hp => hp) rfl
  retryExpired _ h := h.keep (fun _ hp => hp) rfl
  taken {d job jobs} h _ _ _ := by
    refine ⟨h.posts, ?_⟩
    rintro r ⟨⟩
    exact job.plain_body d.throttler
  reopening h hrunning _ _ := h.advance rfl hrunning rfl id
  opened h hrunning _ := h.advance rfl hrunning rfl id
  called {d r c next outcome} _ h hrunning hrest _ := by
    refine h.advance rfl hrunning rfl fun hends => ?_
    rw [hrest] at hends
    exact hends outcome
  ticked {d r next} time h hrunning hrest := by
    refine h.advance rfl hrunning rfl fun hends => ?_
    rw [hrest] at hends
    exact hends time
  slept {d r ms next} h hrunning hrest := by
    refine h.advance rfl hrunning rfl fun hends => ?_
    rw [hrest] at hends
    exact hends ()
  finished {d r result throttler} _ h hrunning hrest := by
    have hends := h.running r hrunning
    rw [hrest] at hends
    rcases result with _ | (_ | p)
    · exact ⟨h.posts, by simp [finishJob]⟩
    · exact ⟨h.posts, by simp [finishJob]⟩
    · have hposted : Plain { d with running := none, throttler := throttler } :=
        ⟨h.posts, by simp⟩
      exact hposted.post p (hends (some p) rfl p rfl) rfl rfl
  exited h _ _ := h.keep (fun _ hp => hp) rfl
  alerted h := h.keep (fun _ hp => hp) rfl
  alertPosted h _ := h.post .connectionLost trivial rfl rfl
  stopped h := by
    rw [stop_eq]
    exact h.keep (fun _ hp => hp) rfl

/-- What is handed back on the spot. -/
theorem isResponse_of_dispatch {command : Command} {response : Message}
    (h : (d.dispatch command).2 = some response) : response.IsResponse := by
  have hsuccess : some respSuccess = some response → response.IsResponse :=
    fun heq => Or.inl (Option.some.inj heq).symm
  have herror : some respError = some response → response.IsResponse :=
    fun heq => Or.inr (Option.some.inj heq).symm
  unfold dispatch at h
  by_cases hshut : d.dispatcherShutdown = true
  · rw [if_pos hshut] at h
    exact herror h
  rw [if_neg hshut] at h
  cases hfind : findDispatchByType command.message.type with
  | none =>
      rw [hfind] at h
      exact herror h
  | some spec =>
      rw [hfind] at h
      dsimp only at h
      by_cases hintercepted : spec.dispatch = .supervisorIntercepted
      · rw [if_pos hintercepted] at h
        exact herror h
      rw [if_neg hintercepted] at h
      by_cases hsuspended : d.suspended = true
      · rw [if_pos hsuspended] at h
        unfold handleSuspendedInline at h
        split_ifs at h
        · exact hsuccess h
        · exact herror h
      · rw [if_neg hsuspended] at h
        cases hclass : spec.dispatch with
        | stateOnly =>
            rw [hclass] at h
            unfold applyStandby at h
            dsimp only at h
            split at h
            · exact herror h
            · exact hsuccess h
        | adapterCall =>
            rw [hclass] at h
            cases h
        | supervisorIntercepted => exact absurd hclass hintercepted

theorem isResponse_of_handleCommand {command : Command} {response : Message}
    (h : (d.handleCommand command).2 = some response) : response.IsResponse := by
  unfold handleCommand at h
  split at h
  · split_ifs at h
    · split at h
      · exact Or.inl (Option.some.inj h).symm
      · exact Or.inl (Option.some.inj h).symm
      · exact Or.inr (Option.some.inj h).symm
    · exact isResponse_of_dispatch h
  · exact isResponse_of_dispatch h

/-- Every answer given is one of the two. -/
structure AnswersPlainly (d : Daemon) : Prop where
  plain : Plain d
  replies : ∀ reply ∈ d.replies, reply.2.IsResponse

theorem AnswersPlainly.boot (setup : Setup) : AnswersPlainly (boot setup) where
  plain := ⟨by simp [Daemon.boot], by simp [Daemon.boot]⟩
  replies := by simp [Daemon.boot, Daemon.replies]

theorem AnswersPlainly.receive (h : AnswersPlainly d) (message : Message) :
    AnswersPlainly (d.receive message) where
  plain := plain_stepStable.receive trivial h.plain
  replies := by
    have hanswering := d.answering_receive message
    simp only [answering, Prod.mk.injEq] at hanswering
    rw [hanswering.2]
    intro reply hreply
    rcases List.mem_append.mp hreply with hold | hnew
    · exact h.replies reply hold
    · obtain ⟨response, hresponse, rfl⟩ := List.mem_map.mp hnew
      exact isResponse_of_handleCommand (Option.mem_toList.mp hresponse)

theorem AnswersPlainly.step (h : AnswersPlainly d) {d' : Daemon} {label : Label}
    (hstep : machine.step d label = some d') : AnswersPlainly d' := by
  have hplain := plain_stepStable.step h.plain trivial hstep
  have hquiet (hsilent : d.silent label = true) : AnswersPlainly d' := by
    have hsame := answering_of_step hsilent hstep
    simp only [answering, Prod.mk.injEq] at hsame
    exact ⟨hplain, hsame.2 ▸ h.replies⟩
  cases label with
  | wire message => exact Option.some.inj hstep ▸ h.receive message
  | drain =>
      cases hposts : d.posts with
      | nil => exact hquiet (by simp [silent, hposts])
      | cons post posts =>
          cases post with
          | reply id response =>
              have hpost := h.plain.posts (.reply id response) (hposts ▸ List.mem_cons_self)
              change Daemon.step d .drain = some d' at hstep
              simp only [Daemon.step, hposts, Option.some.injEq] at hstep
              refine ⟨hplain, ?_⟩
              rw [← hstep]
              intro reply hreply
              simp only [runPost, emit, Daemon.replies, List.filterMap_append] at hreply
              rcases List.mem_append.mp hreply with hold | hnew
              · exact h.replies reply hold
              · obtain rfl := List.mem_singleton.mp hnew
                exact hpost
          | suspendDone => exact hquiet (by simp [silent, hposts])
          | resumeDone => exact hquiet (by simp [silent, hposts])
          | reconnectDone => exact hquiet (by simp [silent, hposts])
          | connectionLost => exact hquiet (by simp [silent, hposts])
          | power => exact hquiet (by simp [silent, hposts])
  | _ => exact hquiet rfl

/-- A request has one answer. -/
theorem Balanced.eq_of_replies (h : Balanced d) {request : ℕ} {first second : Message}
    (hfirst : (request, first) ∈ d.replies) (hsecond : (request, second) ∈ d.replies) :
    first = second := by
  have hlogged {response : Message} (hmem : (request, response) ∈ d.replies) :
      .replied request response ∈ d.log := by
    obtain ⟨e, he, hreply⟩ := List.mem_filterMap.mp hmem
    cases e <;> cases hreply
    exact he
  have hledger : tally Effect.discharged d.log (.reply request) ≤ 1 := by
    have hatMost := h.atMost (.reply request)
    simp only [dischargedCount, issuedCount] at hatMost
    split_ifs at hatMost <;> omega
  have heq := eq_of_tally_le_one hledger (hlogged hfirst) (hlogged hsecond) rfl rfl
  exact (Effect.replied.inj heq).2

end Daemon

end CecControl
