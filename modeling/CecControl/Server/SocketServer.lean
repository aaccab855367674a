/-
# The socket server

Clients connect to a Unix socket of whole datagrams. Each connection is a session,
kept under a number that is never used again; its descriptor, on the other hand,
goes back to the kernel when the session is closed and will be handed out again.
A session that has handed a request on is not read from until the response is out,
which is arranged by the mask its descriptor is polled with.

What the system calls answer is passed in. The table of which connection each
descriptor belongs to is the kernel's, and with the log and the number of the
request a session is serving it is there to be talked about: the server never
reads them.
-/

import CecControl.Common.EventLoop
import CecControl.Daemon.State
import Mathlib.Data.List.AList

namespace CecControl

open Lib

/-- What the server and the work queue register with the loop. -/
inductive LoopSource
  | listener
  | idleTimer
  | session (id : ℕ)
  | work
  deriving DecidableEq, Repr

structure Session where
  fd : ℤ
  lastActivity : ℕ
  pendingResponse : List UInt8 := []
  requestInFlight : Bool := false
  /-- The request in flight. -/
  serving : Option ℕ := none
  deriving DecidableEq, Repr

/-- What the server's log records. A peer is a connection, numbered as accepted. -/
inductive ServerEvent
  /-- A well-formed request was read on a session and handed on. -/
  | read (session : ℕ) (peer : Option ℕ) (request : ℕ)
  /-- A well-formed request was read, and its session closed on the spot. -/
  | dropped (session : ℕ) (peer : Option ℕ)
  /-- A datagram went out to the connection its descriptor belongs to. -/
  | sent (peer : Option ℕ) (request : Option ℕ) (bytes : List UInt8)
  deriving DecidableEq, Repr

structure SocketServer where
  loop : EventLoop LoopSource := {}
  listener : Option ℤ := none
  idleTimerFd : ℤ := 3
  idleTimer : TimerSource := .disarmed
  sessions : AList fun _ : ℕ => Session := ∅
  nextId : ℕ := 1
  /-- The connection each open descriptor belongs to, and how many there have been. -/
  peers : ℤ → Option ℕ := fun _ => none
  accepted : ℕ := 0
  log : List ServerEvent := []

/-! ## What the environment answers -/

/-- `accept()`: a descriptor, with the answer to its registration and the time; no
client waiting; a failure to be ignored; any other failure. -/
inductive AcceptResult
  | client (fd : ℤ) (polled : Bool) (now : ℕ)
  | again
  | interrupted
  | failed
  deriving DecidableEq, Repr

/-- `recv()`, once it has not been interrupted. A peer that has hung up reads as a
datagram of no bytes. -/
inductive RecvResult
  | received (bytes : List UInt8)
  | again
  | failed
  deriving DecidableEq, Repr

/-- `send()`, once it has not been interrupted. Datagrams go out whole or not at
all. -/
inductive SendResult
  | sent
  | again
  | failed
  deriving DecidableEq, Repr

/-- Answers to an attempt to send: the send itself, the time, and the change of the
poll mask after it. -/
structure SendIO where
  result : SendResult := .sent
  now : ℕ := 0
  modified : Bool := true
  deriving DecidableEq, Repr

/-- Answers to an attempt to read a request, and to answer it on the spot. -/
structure RequestIO where
  recv : RecvResult := .again
  now : ℕ := 0
  modified : Bool := true
  reply : SendIO := {}
  deriving DecidableEq, Repr

/-- Answers to the handling of one event of a session. -/
structure SessionIO where
  drain : SendIO := {}
  request : RequestIO := {}
  deriving DecidableEq, Repr

structure StartIO where
  /-- The socket's directory is writable. -/
  writable : Bool := true
  listenFd : Option ℤ := some 4
  listenerAdded : Bool := true
  timerAdded : Bool := true
  armed : Bool := true
  deriving DecidableEq, Repr

namespace SocketServer

def kMaxConnections : ℕ := 10

/-- In milliseconds, as are all times. -/
def kClientIdleTimeout : ℕ := 60000

def kIdleSweepInterval : ℕ := 15000

def emit (server : SocketServer) (e : ServerEvent) : SocketServer :=
  { server with log := server.log ++ [e] }

def findSession (server : SocketServer) (id : ℕ) : Option Session := server.sessions.lookup id

/-- Remove the session from the loop and erase it, which closes its descriptor. -/
def closeSession (server : SocketServer) (id : ℕ) : SocketServer :=
  match server.findSession id with
  | none => server
  | some session =>
      { server with
        loop := server.loop.remove session.fd
        sessions := server.sessions.erase id
        peers := Function.update server.peers session.fd none }

/-- Store what a session has become and poll it for `events` from now on; if that
fails the session is closed. -/
def rearm (server : SocketServer) (id : ℕ) (session : Session) (events : EventMask)
    (modified : Bool) : SocketServer × Bool :=
  let server := { server with sessions := server.sessions.insert id session }
  match server.loop.modify session.fd events modified with
  | (loop, true) => ({ server with loop := loop }, true)
  | (loop, false) => ({ server with loop := loop }.closeSession id, false)

/-! ## Responses -/

/-- A whole response is out: the session may be read from again. -/
def delivered (server : SocketServer) (id : ℕ) (session : Session) (request : Option ℕ)
    (bytes : List UInt8) (io : SendIO) : SocketServer × Bool :=
  (server.emit (.sent (server.peers session.fd) request bytes)).rearm id
    { session with pendingResponse := [], requestInFlight := false, lastActivity := io.now,
                   serving := none }
    .READ io.modified

/-- Retry a send that had to wait. Answers whether the session is still open. -/
def drainPendingSend (server : SocketServer) (id : ℕ) (io : SendIO) : SocketServer × Bool :=
  match server.findSession id with
  | none => (server, false)
  | some session =>
      match io.result with
      | .sent => server.delivered id session session.serving session.pendingResponse io
      | .again => (server, true)
      | .failed => (server.closeSession id, false)

/-- Send the response to a request; a session that has been closed drops it. -/
def sendResponse (server : SocketServer) (id request : ℕ) (response : Message) (io : SendIO) :
    SocketServer :=
  match server.findSession id with
  | none => server
  | some session =>
      match io.result with
      | .sent => (server.delivered id session (some request) response.serialize io).1
      | .again =>
          (server.rearm id
            { session with pendingResponse := response.serialize, serving := some request }
            .WRITE io.modified).1
      | .failed => server.closeSession id

/-! ## Requests -/

/-- `processRequest` up to the handler: the request to hand on, if there is one. -/
def readRequest (server : SocketServer) (id : ℕ) (session : Session) (request : ℕ)
    (io : RequestIO) : SocketServer × Option Message :=
  match io.recv with
  | .again => (server, none)
  | .failed => (server.closeSession id, none)
  | .received bytes =>
      if bytes = [] then (server.closeSession id, none)
      else if maxMessageSize < bytes.length then (server.closeSession id, none)
      else
        match Message.deserialize bytes with
        | none => (server.closeSession id, none)
        | some message =>
            let busy := { session with requestInFlight := true, lastActivity := io.now,
                                       serving := some request }
            match server.rearm id busy .none io.modified with
            | (server', true) =>
                (server'.emit (.read id (server.peers session.fd) request), some message)
            | (server', false) =>
                (server'.emit (.dropped id (server.peers session.fd)), none)

/-- Accept clients until there are none waiting. `none` if the answers cannot be
the kernel's: a new descriptor is not one that is open. -/
def acceptClients : List AcceptResult → SocketServer → Option SocketServer
  | [], _ => none
  | .again :: _, server => some server
  | .failed :: _, server => some server
  | .interrupted :: answers, server => acceptClients answers server
  | .client fd polled now :: answers, server =>
      if (server.peers fd).isSome then none
      else
        let peer := server.accepted
        let server := { server with accepted := server.accepted + 1 }
        -- a client over the limit is closed again at once
        if kMaxConnections ≤ server.sessions.keys.length then acceptClients answers server
        else
          let id := server.nextId
          let server := { server with nextId := server.nextId + 1 }
          match server.loop.add fd .READ (.session id) polled with
          | (loop, false) => acceptClients answers { server with loop := loop }
          | (loop, true) =>
              acceptClients answers
                { server with
                  loop := loop
                  sessions := server.sessions.insert id { fd := fd, lastActivity := now }
                  peers := Function.update server.peers fd (some peer) }

def onAcceptReady (server : SocketServer) (answers : List AcceptResult) : Option SocketServer :=
  if server.listener.isNone then some server else acceptClients answers server

/-! ## Idle sessions, start and stop -/

/-- Sessions without work in flight that have been quiet for too long. -/
def expired (server : SocketServer) (now : ℕ) : List ℕ :=
  (server.sessions.entries.filter fun entry =>
    !entry.2.requestInFlight && decide (kClientIdleTimeout < now - entry.2.lastActivity)).map (·.1)

def closeSessions (server : SocketServer) (ids : List ℕ) : SocketServer :=
  ids.foldl closeSession server

def onIdleSweep (server : SocketServer) (now : ℕ) (armed : Bool) : SocketServer :=
  let server := { server with idleTimer := server.idleTimer.consume }
  let server := server.closeSessions (server.expired now)
  { server with idleTimer := server.idleTimer.armOnce kIdleSweepInterval armed }

/-- Close the listener and every session. -/
def stop (server : SocketServer) : SocketServer :=
  if server.listener.isNone && server.sessions.keys.isEmpty then server
  else
    let server :=
      { server with
        loop := server.loop.remove server.idleTimerFd
        idleTimer := server.idleTimer.disarm }
    let server :=
      match server.listener with
      | some fd => { server with loop := server.loop.remove fd, listener := none }
      | none => server
    server.closeSessions server.sessions.keys

/-- Open the listener and register it and the idle timer; a failure on the way is
rolled back. -/
def start (server : SocketServer) (io : StartIO) : SocketServer × Bool :=
  if server.listener.isSome then (server, true)
  else if server.idleTimerFd < 0 then (server, false)
  else if !io.writable then (server, false)
  else
    match io.listenFd with
    | none => (server, false)
    | some fd =>
        let server := { server with listener := some fd }
        match server.loop.add fd .READ .listener io.listenerAdded with
        | (loop, false) => ({ server with loop := loop }.stop, false)
        | (loop, true) =>
            let server := { server with loop := loop }
            match server.loop.add server.idleTimerFd .READ .idleTimer io.timerAdded with
            | (loop, false) => ({ server with loop := loop }.stop, false)
            | (loop, true) =>
                let server := { server with loop := loop }
                if io.armed then
                  ({ server with
                     idleTimer := server.idleTimer.armOnce kIdleSweepInterval true }, true)
                else (server.stop, false)

end SocketServer

end CecControl
