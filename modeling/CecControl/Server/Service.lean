/-
# The daemon behind its socket server

A request read on a session is handed to the daemon together with a sink that
remembers the session's number. The daemon calls the sink on the spot or, through
the work queue, after the worker has executed the command; either way the response
goes to whatever session has that number then.

Poll results are queued between being reported and being handled, because other
handlers of the same batch run in between. They are queued per session: that a
result reaches the session it was raised for is a matter of the event loop.
-/

import CecControl.Server.SocketServer
import CecControl.Daemon.System

namespace CecControl

open Lib

structure Service where
  daemon : Daemon
  server : SocketServer
  /-- The session each request's sink remembers. -/
  sinks : List ℕ := []
  /-- Poll results that have yet to be handled. -/
  ready : List (ℕ × EventMask) := []

namespace Service

/-- `SocketServer::processRequest`, with `CECDaemon::handleCommand` as the handler. -/
def processRequest (v : Service) (id : ℕ) (session : Session) (io : RequestIO) : Service :=
  match v.server.readRequest id session v.daemon.requests io with
  | (server, none) => { v with server := server }
  | (server, some message) =>
      { v with
        daemon := v.daemon.receive message
        sinks := v.sinks ++ [id]
        server :=
          match (v.daemon.handleCommand ⟨v.daemon.requests, message⟩).2 with
          | some response => server.sendResponse id v.daemon.requests response io.reply
          | none => server }

/-- `SocketServer::onSessionEvent`: what is waiting to be sent goes first. -/
def onSessionEvent (v : Service) (id : ℕ) (events : EventMask) (io : SessionIO) : Service :=
  match if events.write then v.server.drainPendingSend id io.drain else (v.server, true) with
  | (server, false) => { v with server := server }
  | (server, true) =>
      let v := { v with server := server }
      match if events.read then (server.findSession id).filter (!·.requestInFlight) else none with
      | some session => v.processRequest id session io.request
      | none => if events.isError then { v with server := server.closeSession id } else v

/-- The sink of a request is called. -/
def callSink (v : Service) (request : ℕ) (response : Message) (io : SendIO) : Service :=
  match v.sinks[request]? with
  | some id => { v with server := v.server.sendResponse id request response io }
  | none => v

/-- Run the oldest closure of the work queue. -/
def drain (v : Service) (io : SendIO) : Option Service :=
  (v.daemon.step .drain).map fun daemon =>
    match v.daemon.posts with
    | .reply request response :: _ => { v with daemon := daemon }.callSink request response io
    | _ => { v with daemon := daemon }

/-- Who moves, and what the environment answers. -/
inductive Label
  /-- The listener is ready. -/
  | accept (answers : List AcceptResult)
  /-- The poller reports a session's descriptor. -/
  | poll (id : ℕ) (flags : EpollFlags)
  /-- The oldest poll result is handled. -/
  | event (io : SessionIO)
  | idleSweep (now : ℕ) (armed : Bool)
  | stopServer
  | drain (io : SendIO)
  /-- Any other step of the daemon. -/
  | daemon (label : Daemon.Label)

/-- A poll reports what the descriptor is watched for, and each descriptor once. -/
def poll (v : Service) (id : ℕ) (flags : EpollFlags) : Option Service :=
  match v.server.findSession id with
  | none => none
  | some session =>
      let watched := EventPoller.eventsToEpoll (v.server.loop.interest session.fd)
      if EventPoller.reportable watched flags && decide (id ∉ v.ready.map (·.1)) then
        some { v with ready := v.ready ++ [(id, EventPoller.epollToEvents flags)] }
      else none

def step (v : Service) : Label → Option Service
  | .accept answers =>
      (v.server.onAcceptReady answers).map fun server => { v with server := server }
  | .poll id flags => v.poll id flags
  | .event io =>
      match v.ready with
      | [] => none
      | (id, events) :: ready => some (onSessionEvent { v with ready := ready } id events io)
  | .idleSweep now armed => some { v with server := v.server.onIdleSweep now armed }
  | .stopServer => some { v with server := v.server.stop }
  | .drain io => v.drain io
  | .daemon (.wire _) => none
  | .daemon .drain => none
  | .daemon label => (v.daemon.step label).map fun daemon => { v with daemon := daemon }

def machine : Machine Service Label where
  step := step

/-- The descriptor of the work queue's `eventfd`. -/
def workFd : ℤ := 5

/-- The daemon and its server as `CECDaemon::start` leaves them: the server started,
the work queue registered with the loop. -/
def boot (setup : Daemon.Setup) (io : StartIO) : Service where
  daemon := Daemon.boot setup
  server :=
    let server := (SocketServer.start {} io).1
    { server with loop := (server.loop.add workFd .READ .work true).1 }

end Service

end CecControl
