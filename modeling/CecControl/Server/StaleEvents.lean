/-
# A stale event reaches a new session

The socket server and the work queue around the event loop. A reply that finds its
client gone closes the session; a client waiting to be accepted is given the same
descriptor number; and an event raised for the old client, later in the same batch,
is delivered to the new one.
-/

import CecControl.Server.Service

namespace CecControl

open Lib EventLoop

/-! ## The server changes the loop through its methods only -/

namespace SocketServer

theorem evolves_closeSession (server : SocketServer) (id : ℕ) :
    Evolves server.loop (server.closeSession id).loop := by
  unfold closeSession
  split
  · exact .refl _
  · exact .remove (.refl _) _

theorem evolves_rearm (server : SocketServer) (id : ℕ) (session : Session) (events : EventMask)
    (modified : Bool) :
    Evolves server.loop (server.rearm id session events modified).1.loop := by
  have hmodified : Evolves server.loop (server.loop.modify session.fd events modified).1 :=
    .modify (.refl _) _ _ _
  unfold rearm
  dsimp only
  generalize server.loop.modify session.fd events modified = answer at hmodified
  rcases answer with ⟨loop, _ | _⟩
  · exact hmodified.trans (evolves_closeSession
      { server with sessions := server.sessions.insert id session, loop := loop } id)
  · exact hmodified

theorem evolves_drainPendingSend (server : SocketServer) (id : ℕ) (io : SendIO) :
    Evolves server.loop (server.drainPendingSend id io).1.loop := by
  unfold drainPendingSend
  split
  · exact .refl _
  · split
    · exact evolves_rearm (server.emit _) ..
    · exact .refl _
    · exact evolves_closeSession server id

theorem evolves_sendResponse (server : SocketServer) (id request : ℕ) (response : Message)
    (io : SendIO) : Evolves server.loop (server.sendResponse id request response io).loop := by
  unfold sendResponse
  split
  · exact .refl _
  · split
    · exact evolves_rearm (server.emit _) ..
    · exact evolves_rearm server ..
    · exact evolves_closeSession server id

theorem evolves_readRequest (server : SocketServer) (id : ℕ) (session : Session) (request : ℕ)
    (io : RequestIO) :
    Evolves server.loop (server.readRequest id session request io).1.loop := by
  have hclosed := evolves_closeSession server id
  unfold readRequest
  split
  · exact .refl _
  · exact hclosed
  · split_ifs
    · exact hclosed
    · exact hclosed
    · split
      · exact hclosed
      · dsimp only
        split
        · next heq => exact (congrArg (·.1.loop) heq) ▸ evolves_rearm server ..
        · next heq => exact (congrArg (·.1.loop) heq) ▸ evolves_rearm server ..

theorem evolves_acceptClients {answers : List AcceptResult} {server server' : SocketServer}
    (h : acceptClients answers server = some server') : Evolves server.loop server'.loop := by
  induction answers generalizing server with
  | nil => cases h
  | cons answer answers ih =>
      cases answer with
      | again => exact Option.some.inj h ▸ .refl _
      | failed => exact Option.some.inj h ▸ .refl _
      | interrupted => exact ih h
      | client fd polled now =>
          simp only [acceptClients] at h
          split_ifs at h
          · have hrest := ih h
            exact hrest
          · have hadded : Evolves server.loop
                (server.loop.add fd .READ (.session server.nextId) polled).1 :=
              .add (.refl _) _ _ _ _
            generalize server.loop.add fd .READ (.session server.nextId) polled = added at h hadded
            rcases added with ⟨loop, _ | _⟩
            · exact hadded.trans (ih h)
            · exact hadded.trans (ih h)

theorem evolves_closeSessions (server : SocketServer) (ids : List ℕ) :
    Evolves server.loop (server.closeSessions ids).loop := by
  induction ids generalizing server with
  | nil => exact .refl _
  | cons id ids ih => exact (evolves_closeSession server id).trans (ih (server.closeSession id))

end SocketServer

/-! ## The host -/

namespace Service

theorem evolves_processRequest (v : Service) (id : ℕ) (session : Session) (io : RequestIO) :
    Evolves v.server.loop (v.processRequest id session io).server.loop := by
  have hread := v.server.evolves_readRequest id session v.daemon.requests io
  unfold processRequest
  generalize v.server.readRequest id session v.daemon.requests io = read at hread
  rcases read with ⟨server, _ | message⟩
  · exact hread
  · dsimp only
    split
    · exact hread.trans (server.evolves_sendResponse ..)
    · exact hread

theorem evolves_onSessionEvent (v : Service) (id : ℕ) (events : EventMask) (io : SessionIO) :
    Evolves v.server.loop (v.onSessionEvent id events io).server.loop := by
  have hdrained : Evolves v.server.loop
      (if events.write then v.server.drainPendingSend id io.drain else (v.server, true)).1.loop := by
    split_ifs
    · exact v.server.evolves_drainPendingSend id io.drain
    · exact .refl _
  unfold onSessionEvent
  generalize (if events.write then v.server.drainPendingSend id io.drain else (v.server, true)) =
    drained at hdrained
  rcases drained with ⟨server, _ | _⟩
  · exact hdrained
  · dsimp only
    split
    · exact hdrained.trans (evolves_processRequest { v with server := server } ..)
    · split_ifs
      · exact hdrained.trans (server.evolves_closeSession id)
      · exact hdrained

theorem evolves_drain {v v' : Service} {io : SendIO} (h : v.drain io = some v') :
    Evolves v.server.loop v'.server.loop := by
  obtain ⟨daemon, _, rfl⟩ := Option.map_eq_some_iff.mp h
  split
  · unfold callSink
    split
    · exact v.server.evolves_sendResponse ..
    · exact .refl _
  · exact .refl _

/-- `MainThreadWork::drain`: run the closures posted so far. -/
def drainAll : List SendIO → Service → Service
  | [], v => v
  | io :: ios, v =>
      match v.drain io with
      | some v' => drainAll ios v'
      | none => v

theorem evolves_drainAll (ios : List SendIO) (v : Service) :
    Evolves v.server.loop (drainAll ios v).server.loop := by
  induction ios generalizing v with
  | nil => exact .refl _
  | cons io ios ih =>
      unfold drainAll
      split
      · next v' hdrain => exact (evolves_drain hdrain).trans (ih v')
      · exact .refl _

/-- What the environment answers to one handler. -/
inductive Answer
  | accept (answers : List AcceptResult)
  | sweep (now : ℕ) (armed : Bool)
  | session (io : SessionIO)
  | work (ios : List SendIO)

/-- One handler of the loop. -/
def handle (v : Service) (events : EventMask) : LoopSource → Answer → Service
  | .listener, .accept answers =>
      match v.server.onAcceptReady answers with
      | some server => { v with server := server }
      | none => v
  | .idleTimer, .sweep now armed => { v with server := v.server.onIdleSweep now armed }
  | .session id, .session io => v.onSessionEvent id events io
  | .work, .work ios => drainAll ios v
  | _, _ => v

theorem evolves_handle (v : Service) (events : EventMask) (source : LoopSource)
    (answer : Answer) : Evolves v.server.loop (v.handle events source answer).server.loop := by
  unfold handle
  split
  · split
    · next server haccept =>
        unfold SocketServer.onAcceptReady at haccept
        split_ifs at haccept
        · exact Option.some.inj haccept ▸ .refl _
        · exact SocketServer.evolves_acceptClients haccept
    · exact .refl _
  · exact SocketServer.evolves_closeSessions
      { v.server with idleTimer := v.server.idleTimer.consume } _
  · exact evolves_onSessionEvent ..
  · exact evolves_drainAll ..
  · exact .refl _

/-- The service around the loop, with the answers its handlers will be given. -/
def host : Host LoopSource (Service × List Answer) where
  loop s := s.1.server.loop
  invoke source events s :=
    match s.2 with
    | [] => s
    | answer :: answers => (s.1.handle events source answer, answers)
  mediated := by
    rintro source events ⟨v, _ | ⟨answer, answers⟩⟩
    · exact .refl _
    · exact v.evolves_handle events source answer

/-! ## The run -/

/-- A client connects as descriptor 7, asks for the adapter to be restarted, and
hangs up while the worker does it; the reply is in the work queue. -/
def hungUpClient : List Label :=
  [.accept [.client 7 true 0, .again], .poll 1 { epollin := true },
    .event { request := { recv := .received [7, 0] } }, .daemon .workerTake,
    .daemon .workerReopen, .daemon .workerOpened, .daemon (.workerCall (.ok true)),
    .daemon .workerFinish]

/-- The next poll: the work queue, a client to accept, and the hang-up. -/
def hangupBatch : List EventData :=
  [⟨workFd, .READ⟩, ⟨4, .READ⟩, ⟨7, { hangup := true }⟩]

/-- The reply cannot be sent, and the new client is given descriptor 7. -/
def hangupAnswers : List Answer :=
  [.work [{ result := .failed }], .accept [.client 7 true 0, .again], .session {}]

/-- The hang-up of the old client is delivered to the new one, whose session is
closed for it. -/
theorem hangup_reaches_new_session :
    ∃ v, machine.run (boot {} {}) hungUpClient = some v ∧
      ¬ (∀ collected ∈ (host.run [some hangupBatch] (v, hangupAnswers)).2,
        host.Faithful collected.1 collected.2) ∧
      (host.run [some hangupBatch] (v, hangupAnswers)).1.1.server.nextId = 3 ∧
      (host.run [some hangupBatch] (v, hangupAnswers)).1.1.server.sessions.keys = [] := by
  have hvalues : (machine.run (boot {} {}) hungUpClient).map (fun v =>
      (decide (host.Undisturbed hangupBatch (v, hangupAnswers)),
        v.server.loop.stopRequested,
        (host.run [some hangupBatch] (v, hangupAnswers)).1.1.server.nextId,
        (host.run [some hangupBatch] (v, hangupAnswers)).1.1.server.sessions.keys)) =
      some (false, false, 3, []) := by decide
  obtain ⟨v, hv, hfields⟩ := Option.map_eq_some_iff.mp hvalues
  simp only [Prod.mk.injEq, decide_eq_false_iff_not] at hfields
  obtain ⟨hdisturbed, hstop, hnext, hkeys⟩ := hfields
  refine ⟨v, hv, fun hfaithful => hdisturbed ?_, hnext, hkeys⟩
  rw [← host.faithful_iff_undisturbed]
  refine hfaithful (hangupBatch, (v, hangupAnswers)) ?_
  have hopen : (host.loop (v, hangupAnswers)).stopRequested = false := hstop
  simp [Host.run, hopen]

end Service

end CecControl
