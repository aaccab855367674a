/-
# What the server reads and hands on

The service is seen here from its clients' side: which requests have been handed to the daemon,
on whose connections they came, and what a step may do to that. Only the handling of a poll
result reads anything, at most one datagram, and hands on at most one request.
-/

import CecControl.Server.Pairing

namespace CecControl

open Lib

/-! ## What the server reads -/

namespace ServerEvent

/-- A request handed on: session, connection and number. -/
def asked : ServerEvent → Option (ℕ × Option ℕ × ℕ)
  | .read session peer request => some (session, peer, request)
  | _ => none

/-- A datagram sent to a connection. -/
def sentTo (peer : ℕ) : ServerEvent → Option (List UInt8)
  | .sent (some other) _ bytes => if other = peer then some bytes else none
  | _ => none

end ServerEvent

namespace SocketServer

/-- The requests handed on so far. -/
def asked (server : SocketServer) : List (ℕ × Option ℕ × ℕ) :=
  server.log.filterMap ServerEvent.asked

theorem asked_of_log {server server' : SocketServer} (h : server'.log = server.log) :
    server'.asked = server.asked := by rw [asked, asked, h]

theorem rearm_log (server : SocketServer) (id : ℕ) (session : Session) (events : EventMask)
    (modified : Bool) : (server.rearm id session events modified).1.log = server.log := by
  unfold rearm
  dsimp only
  split
  · rfl
  · rw [closeSession_log]

theorem asked_delivered (server : SocketServer) (id : ℕ) (session : Session)
    (request : Option ℕ) (bytes : List UInt8) (io : SendIO) :
    (server.delivered id session request bytes io).1.asked = server.asked := by
  unfold delivered asked
  rw [rearm_log]
  simp [emit, ServerEvent.asked]

theorem asked_drainPendingSend (server : SocketServer) (id : ℕ) (io : SendIO) :
    (server.drainPendingSend id io).1.asked = server.asked := by
  unfold drainPendingSend
  split
  · rfl
  · split
    · exact asked_delivered _ _ _ _ _ _
    · rfl
    · exact asked_of_log (closeSession_log _ _)

theorem asked_sendResponse (server : SocketServer) (id request : ℕ) (response : Message)
    (io : SendIO) : (server.sendResponse id request response io).asked = server.asked := by
  unfold sendResponse
  split
  · rfl
  · split
    · exact asked_delivered _ _ _ _ _ _
    · exact asked_of_log (rearm_log _ _ _ _ _)
    · exact asked_of_log (closeSession_log _ _)

/-- What is handed on is read, and nothing else is. -/
theorem asked_readRequest (server : SocketServer) (id : ℕ) (session : Session) (request : ℕ)
    (io : RequestIO) :
    (server.readRequest id session request io).1.asked = server.asked ++
      ((server.readRequest id session request io).2.map fun _ =>
        (id, server.peers session.fd, request)).toList := by
  have hclosed : (server.closeSession id).asked = server.asked := asked_of_log (closeSession_log _ _)
  unfold readRequest
  split
  · simp
  · simp [hclosed]
  · split_ifs
    · simp [hclosed]
    · simp [hclosed]
    · split
      · simp [hclosed]
      · have hlog := rearm_log server id { session with
          requestInFlight := true, lastActivity := io.now, serving := some request } .none io.modified
        dsimp only
        split
        · next server' heq =>
            rw [heq] at hlog
            have hlog' : server'.log = server.log := hlog
            simp [asked, emit, ServerEvent.asked, hlog']
        · next server' heq =>
            rw [heq] at hlog
            have hlog' : server'.log = server.log := hlog
            simp [asked, emit, ServerEvent.asked, hlog']

/-- A request that is handed on is a datagram that decodes. -/
theorem received_of_readRequest {server : SocketServer} {id : ℕ} {session : Session} {request : ℕ}
    {io : RequestIO} {message : Message}
    (h : (server.readRequest id session request io).2 = some message) :
    ∃ bytes, io.recv = .received bytes ∧ bytes ≠ [] ∧ Message.deserialize bytes = some message := by
  unfold readRequest at h
  split at h
  · cases h
  · cases h
  · next bytes hrecv =>
      refine ⟨bytes, hrecv, ?_⟩
      split_ifs at h with hempty hlong
      cases hdecode : Message.deserialize bytes with
      | none => simp [hdecode] at h
      | some read =>
          simp only [hdecode] at h
          split at h
          · exact ⟨hempty, h⟩
          · cases h

theorem asked_acceptClients {answers : List AcceptResult} {server server' : SocketServer}
    (h : acceptClients answers server = some server') : server'.asked = server.asked := by
  induction answers generalizing server with
  | nil => cases h
  | cons answer answers ih =>
      cases answer with
      | again | failed =>
          cases h
          rfl
      | interrupted => exact ih h
      | client fd polled now =>
          simp only [acceptClients] at h
          split_ifs at h
          · exact (ih h).trans rfl
          · split at h
            · exact (ih h).trans rfl
            · exact (ih h).trans rfl

end SocketServer

namespace Daemon

/-- Only a request is counted, and no answer is taken back. -/
theorem answered_of_step {d d' : Daemon} {label : Label} (hwire : ∀ message, label ≠ .wire message)
    (hstep : machine.step d label = some d') :
    d'.requests = d.requests ∧ d.replies ⊆ d'.replies := by
  have hquiet (hsilent : d.silent label = true) :
      d'.requests = d.requests ∧ d.replies ⊆ d'.replies := by
    have hsame := answering_of_step hsilent hstep
    simp only [answering, Prod.mk.injEq] at hsame
    exact ⟨hsame.1, fun _ h => hsame.2 ▸ h⟩
  cases label with
  | wire message => exact absurd rfl (hwire message)
  | drain =>
      cases hposts : d.posts with
      | nil => exact hquiet (by simp [silent, hposts])
      | cons post posts =>
          cases post with
          | reply id response =>
              change Daemon.step d .drain = some d' at hstep
              simp only [Daemon.step, hposts, Option.some.injEq] at hstep
              rw [← hstep]
              exact ⟨rfl, by simp [runPost, emit, replies]⟩
          | _ => exact hquiet (by simp [silent, hposts])
  | _ => exact hquiet rfl

end Daemon

namespace Service

/-! ## What the service hands on -/

/-- The session an event reads from, and the server as it is then. -/
def reading (v : Service) (id : ℕ) (events : EventMask) (io : SessionIO) :
    Option (SocketServer × Session) :=
  match if events.write then v.server.drainPendingSend id io.drain else (v.server, true) with
  | (_, false) => none
  | (server, true) =>
      (if events.read then (server.findSession id).filter (!·.requestInFlight) else none).map
        fun session => (server, session)

/-- The request an event hands to the daemon. -/
def handedOn (v : Service) (id : ℕ) (events : EventMask) (io : SessionIO) : Option Message :=
  (v.reading id events io).bind fun read =>
    (read.1.readRequest id read.2 v.daemon.requests io.request).2

theorem asked_onSessionEvent (v : Service) (id : ℕ) (events : EventMask) (io : SessionIO) :
    (v.onSessionEvent id events io).server.asked = v.server.asked ++
      ((v.handedOn id events io).bind fun _ => (v.reading id events io).map fun read =>
        (id, read.1.peers read.2.fd, v.daemon.requests)).toList := by
  have hdrained : (if events.write then v.server.drainPendingSend id io.drain
      else (v.server, true)).1.asked = v.server.asked := by
    split_ifs
    · exact SocketServer.asked_drainPendingSend _ _ _
    · rfl
  unfold onSessionEvent handedOn reading
  generalize (if events.write then v.server.drainPendingSend id io.drain else (v.server, true)) =
    drained at hdrained
  rcases drained with ⟨server, _ | _⟩
  · simpa using hdrained
  · dsimp only at hdrained ⊢
    cases hread : (if events.read then (server.findSession id).filter (!·.requestInFlight)
        else none) with
    | none =>
        dsimp only
        split_ifs
        · simpa [SocketServer.asked_of_log (SocketServer.closeSession_log server id)] using hdrained
        · simpa using hdrained
    | some session =>
        have hasked := server.asked_readRequest id session v.daemon.requests io.request
        simp only [Option.map_some, Option.bind_some, processRequest]
        generalize server.readRequest id session v.daemon.requests io.request = outcome at hasked
        rcases outcome with ⟨server', _ | message⟩
        · simpa [hdrained] using hasked
        · dsimp only at hasked ⊢
          rw [← hdrained]
          split
          · rw [SocketServer.asked_sendResponse, hasked]
            simp
          · rw [hasked]
            simp

/-- The daemon is handed what the event hands on. -/
theorem daemon_onSessionEvent (v : Service) (id : ℕ) (events : EventMask) (io : SessionIO) :
    (v.onSessionEvent id events io).daemon =
      match v.handedOn id events io with
      | none => v.daemon
      | some message => v.daemon.receive message := by
  unfold onSessionEvent handedOn reading
  generalize (if events.write then v.server.drainPendingSend id io.drain else (v.server, true)) =
    drained
  rcases drained with ⟨server, _ | _⟩
  · rfl
  · dsimp only
    cases hread : (if events.read then (server.findSession id).filter (!·.requestInFlight)
        else none) with
    | none =>
        dsimp only
        split_ifs <;> rfl
    | some session =>
        simp only [Option.map_some, Option.bind_some, processRequest]
        generalize server.readRequest id session v.daemon.requests io.request = outcome
        rcases outcome with ⟨server', _ | message⟩ <;> rfl

/-- Steps other than an event hand nothing on. -/
theorem asked_of_step {v v' : Service} {label : Label} (hlabel : ∀ io, label ≠ .event io)
    (hstep : v.step label = some v') :
    v'.server.asked = v.server.asked := by
  cases label with
  | accept answers =>
      obtain ⟨server, haccept, rfl⟩ := Option.map_eq_some_iff.mp hstep
      unfold SocketServer.onAcceptReady at haccept
      split_ifs at haccept
      · exact Option.some.inj haccept ▸ rfl
      · exact SocketServer.asked_acceptClients haccept
  | poll id flags =>
      change v.poll id flags = some v' at hstep
      unfold Service.poll at hstep
      split at hstep
      · cases hstep
      · dsimp only at hstep
        split_ifs at hstep
        exact Option.some.inj hstep ▸ rfl
  | event io => exact absurd rfl (hlabel io)
  | idleSweep now armed =>
      obtain rfl := Option.some.inj hstep
      exact SocketServer.asked_of_log (SocketServer.closeSessions_log _ _)
  | stopServer =>
      obtain rfl := Option.some.inj hstep
      exact SocketServer.asked_of_log v.server.stop_spec.2.1
  | drain io =>
      obtain ⟨daemon, -, rfl⟩ := Option.map_eq_some_iff.mp hstep
      split
      · unfold callSink
        split
        · exact SocketServer.asked_sendResponse _ _ _ _ _
        · rfl
      · rfl
  | daemon label =>
      have hother (h : (v.daemon.step label).map (fun daemon => { v with daemon := daemon }) =
          some v') : v'.server.asked = v.server.asked := by
        obtain ⟨daemon, -, rfl⟩ := Option.map_eq_some_iff.mp h
        rfl
      cases label with
      | wire message => cases hstep
      | drain => cases hstep
      | _ => exact hother hstep


/-- A step other than an event leaves the daemon be, or is one of its own. -/
theorem daemon_of_step {v v' : Service} {label : Label} (hlabel : ∀ io, label ≠ .event io)
    (hstep : v.step label = some v') :
    v'.daemon = v.daemon ∨ ∃ own, (∀ message, own ≠ .wire message) ∧
      Daemon.machine.step v.daemon own = some v'.daemon := by
  cases label with
  | accept answers =>
      obtain ⟨server, -, rfl⟩ := Option.map_eq_some_iff.mp hstep
      exact .inl rfl
  | poll id flags =>
      change v.poll id flags = some v' at hstep
      unfold Service.poll at hstep
      split at hstep
      · cases hstep
      · dsimp only at hstep
        split_ifs at hstep
        exact .inl (Option.some.inj hstep ▸ rfl)
  | event io => exact absurd rfl (hlabel io)
  | idleSweep now armed => exact .inl (Option.some.inj hstep ▸ rfl)
  | stopServer => exact .inl (Option.some.inj hstep ▸ rfl)
  | drain io =>
      obtain ⟨daemon, hdrain, rfl⟩ := Option.map_eq_some_iff.mp hstep
      refine .inr ⟨.drain, by simp, ?_⟩
      change v.daemon.step .drain = _
      rw [hdrain]
      split
      · unfold callSink
        split <;> rfl
      · rfl
  | daemon label =>
      have hother (hwire : ∀ message, label ≠ .wire message)
          (h : (v.daemon.step label).map (fun daemon => { v with daemon := daemon }) = some v') :
          ∃ own, (∀ message, own ≠ .wire message) ∧
            Daemon.machine.step v.daemon own = some v'.daemon := by
        obtain ⟨daemon, hdaemon, rfl⟩ := Option.map_eq_some_iff.mp h
        exact ⟨label, hwire, hdaemon⟩
      cases label with
      | wire message => cases hstep
      | drain => cases hstep
      | _ => exact .inr (hother (by simp) hstep)

end Service

end CecControl
