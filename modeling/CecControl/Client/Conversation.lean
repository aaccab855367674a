/-
# Clients and the daemon

Any number of client processes talk to one daemon. Connections are made in some order, and the
daemon accepts them in the same; a datagram sent on one arrives there or not at all, and is read
when the daemon comes to it. Clients come and go between any two steps of the daemon, each of
their calls may fail, and others may use the socket as they like.
-/

import CecControl.Client.SocketClient
import CecControl.Server.Requests

namespace CecControl

open Lib

/-! ## The parties -/

/-- How far a client has come: it is starting, is connected, waits for the response, or is done.
A client that is done remembers its connection, and whether its command went out. -/
inductive ClientPhase
  | starting
  | connected (peer : ℕ)
  | waiting (peer : ℕ)
  | exited (peer : Option ℕ) (sent : Bool) (report : Report)
  deriving DecidableEq, Repr

namespace ClientPhase

/-- The client's connection, numbered as made. -/
def peer : ClientPhase → Option ℕ
  | .starting => none
  | .connected peer | .waiting peer => some peer
  | .exited peer _ _ => peer

/-- The command has gone out. -/
def sent : ClientPhase → Bool
  | .starting | .connected _ => false
  | .waiting _ => true
  | .exited _ sent _ => sent

def report : ClientPhase → Option Report
  | .exited _ _ report => some report
  | _ => none

end ClientPhase

/-- A process that runs `CECClient::execute`. -/
structure ClientProcess where
  path : Text
  command : Message
  phase : ClientPhase := .starting
  deriving DecidableEq, Repr

namespace ClientProcess

section Calls

variable (strerror : ℕ → String) (c : ClientProcess)

/-- The client connects, if it is to, as `peer`. -/
def onConnect (peer : ℕ) (io : ConnectIO) : ClientProcess :=
  match c.phase with
  | .starting =>
      match SocketClient.connect c.path io with
      | some err => { c with phase := .exited none false (CECClient.renderConnectError strerror err) }
      | none => { c with phase := .connected peer }
  | _ => c

def onSend (io : SendAnswer) : ClientProcess :=
  match c.phase with
  | .connected peer =>
      match SocketClient.send c.command io with
      | some err =>
          { c with phase := .exited (some peer) false (CECClient.renderTransportError strerror err) }
      | none => { c with phase := .waiting peer }
  | _ => c

def onReceive (io : RecvAnswer) : ClientProcess :=
  match c.phase with
  | .waiting peer =>
      match SocketClient.receive io with
      | .error err =>
          { c with phase := .exited (some peer) true (CECClient.renderTransportError strerror err) }
      | .ok response =>
          { c with phase := .exited (some peer) true (CECClient.renderResponse response) }
  | _ => c

/-- The calls one after the other are `CECClient::execute`. -/
theorem report_execute (path : Text) (command : Message) (peer : ℕ) (connecting : ConnectIO)
    (sendAnswer : SendAnswer) (recvAnswer : RecvAnswer) :
    (((ClientProcess.mk path command .starting).onConnect strerror peer connecting).onSend strerror
      sendAnswer |>.onReceive strerror recvAnswer).phase.report =
      some (CECClient.execute strerror path command connecting sendAnswer recvAnswer) := by
  unfold CECClient.execute SocketClient.sendCommand
  cases hconnect : SocketClient.connect path connecting with
  | some err => simp [onConnect, onSend, onReceive, hconnect, ClientPhase.report]
  | none =>
      cases hsend : SocketClient.send command sendAnswer with
      | some err => simp [onConnect, onSend, onReceive, hconnect, hsend, ClientPhase.report]
      | none =>
          cases hreceive : SocketClient.receive recvAnswer <;>
            simp [onConnect, onSend, onReceive, hconnect, hsend, hreceive, ClientPhase.report]

end Calls

end ClientProcess

/-- Clients, strangers, and the daemon behind its socket. -/
structure Conversation where
  service : Service
  /-- Where the daemon listens. -/
  path : Text
  clients : ℕ → Option ClientProcess := fun _ => none
  /-- How many connections have been made, and which of them are not a client's. -/
  connected : ℕ := 0
  strangers : List ℕ := []
  /-- Datagrams on their way to the daemon, by connection. -/
  inbox : ℕ → List (List UInt8) := fun _ => []
  /-- The requests the daemon has been handed. -/
  handed : List Message := []

namespace Service

/-- What is left in the inboxes once an event has read from its session. -/
def receives (v : Service) (inbox : ℕ → List (List UInt8)) (id : ℕ) (events : EventMask)
    (io : SessionIO) : Option (ℕ → List (List UInt8)) :=
  match v.reading id events io with
  | none => some inbox
  | some (server, session) =>
      match io.request.recv with
      | .again | .failed | .received [] => some inbox
      | .received bytes =>
          match server.peers session.fd with
          | none => none
          | some peer =>
              match inbox peer with
              | [] => none
              | first :: rest =>
                  if first = bytes then some (Function.update inbox peer rest) else none

end Service

namespace Conversation

variable (strerror : ℕ → String)

/-- Who moves, and what the environment answers. -/
inductive Label
  /-- A client is started from a command line. -/
  | run (pid : ℕ) (getenv : String → Option Text) (argv : List Text)
  | connect (pid : ℕ) (io : ConnectIO)
  | send (pid : ℕ) (io : SendAnswer)
  | receive (pid : ℕ) (io : RecvAnswer)
  /-- Somebody else connects, or a client that then fails. -/
  | stranger
  | strangerSends (peer : ℕ) (bytes : List UInt8)
  | service (label : Service.Label)

/-- The daemon has its socket open. -/
def listening (s : Conversation) : Bool := s.service.server.listener.isSome

/-- The oldest datagram sent to a connection. A client reads no more than one. -/
def toPeer (s : Conversation) (peer : ℕ) : Option (List UInt8) :=
  (s.service.server.log.filterMap (ServerEvent.sentTo peer)).head?

def withClient (s : Conversation) (pid : ℕ) (c : ClientProcess) : Conversation :=
  { s with clients := Function.update s.clients pid (some c) }

/-- The oldest poll result is handled, its session read from. -/
def hear (s : Conversation) (io : SessionIO) : Option Conversation :=
  match s.service.ready with
  | [] => none
  | (id, events) :: ready =>
      let v := { s.service with ready := ready }
      (v.receives s.inbox id events io).map fun inbox =>
        { s with
          service := v.onSessionEvent id events io
          inbox := inbox
          handed := s.handed ++ (v.handedOn id events io).toList }

/-- `none` where the kernel would not answer so: a connection is made to whoever listens, and a
datagram is taken whole or not at all. -/
def step (s : Conversation) : Label → Option Conversation
  | .run pid getenv argv =>
      match s.clients pid, ArgumentParser.parse argv with
      | none, .runClient command socketPathOverride =>
          some (s.withClient pid ⟨SocketClient.socketPath getenv socketPathOverride, command, .starting⟩)
      | _, _ => none
  | .connect pid io =>
      match s.clients pid with
      | some ⟨path, command, .starting⟩ =>
          let c := (ClientProcess.mk path command .starting).onConnect strerror s.connected io
          if SocketClient.connect path io ≠ none then some (s.withClient pid c)
          else if s.listening ∧ path = s.path then
            some { s.withClient pid c with connected := s.connected + 1 }
          else none
      | _ => none
  | .send pid io =>
      match s.clients pid with
      | some ⟨path, command, .connected peer⟩ =>
          let c := (ClientProcess.mk path command (.connected peer)).onSend strerror io
          match io with
          | .failed _ => some (s.withClient pid c)
          | .sent count =>
              if count = command.serialize.length then
                some { s.withClient pid c with
                  inbox := Function.update s.inbox peer (s.inbox peer ++ [command.serialize]) }
              else none
      | _ => none
  | .receive pid io =>
      match s.clients pid with
      | some ⟨path, command, .waiting peer⟩ =>
          let c := (ClientProcess.mk path command (.waiting peer)).onReceive strerror io
          match io with
          | .failed _ => some (s.withClient pid c)
          | .received bytes =>
              if bytes = [] ∨ s.toPeer peer = some bytes then some (s.withClient pid c) else none
      | _ => none
  | .stranger =>
      if s.listening then
        some { s with connected := s.connected + 1, strangers := s.connected :: s.strangers }
      else none
  | .strangerSends peer bytes =>
      if peer ∈ s.strangers then
        some { s with inbox := Function.update s.inbox peer (s.inbox peer ++ [bytes]) }
      else none
  | .service (.event io) => s.hear io
  | .service label =>
      (s.service.step label).bind fun service =>
        if service.server.accepted ≤ s.connected then some { s with service := service } else none

def machine : Machine Conversation Label where
  step s label := s.step strerror label

/-- A daemon that has just been started, and nobody else. -/
def boot (path : Text) (setup : Daemon.Setup) (io : StartIO) : Conversation where
  service := Service.boot setup io
  path := path

end Conversation

end CecControl
