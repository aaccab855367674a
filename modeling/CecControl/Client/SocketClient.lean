/-
# The client's side of the socket

A client connects, sends its command as one datagram, waits for one datagram in return, and turns
what has come of it into an exit code and a line of output. Every call on the way may fail, and
each failure has a kind of its own, which only the rendering at the end puts into words.

The calls' answers are passed in. An error number stands for a call that has failed, and where
the code reads `errno` after no call has, for whatever it happens to be.
-/

import CecControl.Common.ArgumentParser

namespace CecControl

/-! ## Where the socket is -/

namespace SystemPaths

/-- `std::filesystem::path`'s `/`. -/
def joinPath (base component : Text) : Text :=
  if base.isEmpty then component
  else if component.head? = some '/' then component
  else if base.getLast? = some '/' then base ++ component
  else base ++ '/' :: component

def getSystemRuntimeDir (getenv : String → Option Text) : Text :=
  match getenv "RUNTIME_DIRECTORY" with
  | none => joinPath "/run".toList "cec-control".toList
  | some [] => joinPath "/run".toList "cec-control".toList
  | some dir => if dir.head? = some '/' then dir else joinPath "/run".toList dir

def getSocketPath (getenv : String → Option Text) : Text :=
  match getenv "CEC_CONTROL_SOCKET" with
  | none => joinPath (getSystemRuntimeDir getenv) "socket".toList
  | some [] => joinPath (getSystemRuntimeDir getenv) "socket".toList
  | some path => path

example : getSocketPath (fun _ => none) = "/run/cec-control/socket".toList := by decide

end SystemPaths

/-! ## Connecting -/

namespace Errno

def ENOENT : ℕ := 2

def EAGAIN : ℕ := 11

def ETIMEDOUT : ℕ := 110

def ECONNREFUSED : ℕ := 111

def EINPROGRESS : ℕ := 115

end Errno

inductive PollResult
  | ready
  | timedOut
  | failed (err : ℕ)
  deriving DecidableEq, Repr

/-- Answers to the calls made while connecting: the error, if there is one. -/
structure ConnectIO where
  socket : Option ℕ := none
  connect : Option ℕ := none
  poll : PollResult := .ready
  getsockopt : Option ℕ := none
  soError : ℕ := 0
  setBlocking : Option ℕ := none
  receiveTimeout : Option ℕ := none
  sendTimeout : Option ℕ := none
  /-- `errno` where no call has failed. -/
  staleErrno : ℕ := 0
  deriving DecidableEq, Repr

namespace UnixSocket

/-- The size of `sun_path`. -/
def kSunPathSize : ℕ := 108

/-- Answers `errno`, or that the socket is connected. -/
def connect (path : Text) (io : ConnectIO) : Option ℕ :=
  match io.socket with
  | some err => some err
  | none =>
      if kSunPathSize ≤ path.length then some io.staleErrno
      else
        match io.connect with
        | none => io.setBlocking
        | some err =>
            if err ≠ Errno.EINPROGRESS then some err
            else
              match io.poll with
              | .timedOut => some Errno.ETIMEDOUT
              | .failed err => some err
              | .ready =>
                  match io.getsockopt with
                  | some err => some err
                  | none => if io.soError ≠ 0 then some io.soError else io.setBlocking

/-- The second timeout is set if the first could be. -/
def setIoTimeout (io : ConnectIO) : Option ℕ :=
  match io.receiveTimeout with
  | some err => some err
  | none => io.sendTimeout

end UnixSocket

inductive ClientErrorKind
  | daemonUnavailable
  | connectTimeout
  | connectFailed
  | notConnected
  | sendFailed
  | peerClosed
  | responseTimeout
  | receiveFailed
  | oversizedResponse
  | malformedResponse
  deriving DecidableEq, Repr

structure ClientError where
  kind : ClientErrorKind
  errnoCode : ℕ := 0
  detail : String := ""
  deriving DecidableEq, Repr

def classifyConnectErrno (err : ℕ) : ClientErrorKind :=
  if err = Errno.ENOENT ∨ err = Errno.ECONNREFUSED then .daemonUnavailable
  else if err = Errno.ETIMEDOUT then .connectTimeout
  else .connectFailed

/-- The answer to `send()`: an error, or how many bytes. -/
inductive SendAnswer
  | failed (err : ℕ)
  | sent (count : ℕ)
  deriving DecidableEq, Repr

/-- The answer to `recv()`: an error, or the whole datagram, of which no more than fits the
buffer is kept. -/
inductive RecvAnswer
  | failed (err : ℕ)
  | received (bytes : List UInt8)
  deriving DecidableEq, Repr

namespace SocketClient

/-- A path that is not given is the daemon's own. -/
def socketPath (getenv : String → Option Text) (socketPathOverride : Text) : Text :=
  if socketPathOverride.isEmpty then SystemPaths.getSocketPath getenv else socketPathOverride

def connect (path : Text) (io : ConnectIO) : Option ClientError :=
  match UnixSocket.connect path io with
  | some err => some ⟨classifyConnectErrno err, err, String.ofList path⟩
  | none =>
      match UnixSocket.setIoTimeout io with
      | some err => some ⟨.connectFailed, err, "could not set I/O timeout on socket"⟩
      | none => none

/-- The first half of `sendCommand`. -/
def send (command : Message) : SendAnswer → Option ClientError
  | .failed err => some ⟨.sendFailed, err, ""⟩
  | .sent count =>
      if count ≠ command.serialize.length then
        some ⟨.sendFailed, 0,
          "short send (" ++ toString count ++ "/" ++ toString command.serialize.length ++ ")"⟩
      else none

/-- The second half. -/
def receive : RecvAnswer → Except ClientError Message
  | .failed err => .error ⟨if err = Errno.EAGAIN then .responseTimeout else .receiveFailed, err, ""⟩
  | .received bytes =>
      if bytes = [] then .error ⟨.peerClosed, 0, ""⟩
      else if maxMessageSize < bytes.length then
        .error ⟨.oversizedResponse, 0, toString bytes.length ++ " bytes"⟩
      else
        match Message.deserialize bytes with
        | none => .error ⟨.malformedResponse, 0, ""⟩
        | some response => .ok response

def sendCommand (connected : Bool) (path : Text) (command : Message) (sendAnswer : SendAnswer)
    (recvAnswer : RecvAnswer) : Except ClientError Message :=
  if !connected then .error ⟨.notConnected, 0, String.ofList path⟩
  else
    match send command sendAnswer with
    | some err => .error err
    | none => receive recvAnswer

theorem kind_of_connect {path : Text} {io : ConnectIO} {err : ClientError}
    (h : connect path io = some err) :
    err.kind ∈ [.daemonUnavailable, .connectTimeout, .connectFailed] := by
  unfold connect at h
  split at h
  · obtain rfl := Option.some.inj h
    dsimp only [classifyConnectErrno]
    split_ifs <;> decide
  · split at h
    · obtain rfl := Option.some.inj h
      simp
    · cases h

/-- Unless a datagram comes, it is the connection or the time that has run out. -/
theorem kind_of_receive {io : RecvAnswer} {err : ClientError} (h : receive io = .error err)
    (hnothing : ∀ bytes, io = .received bytes → bytes = []) :
    err.kind ∈ [.peerClosed, .responseTimeout, .receiveFailed] := by
  cases io with
  | failed errno =>
      cases h
      dsimp only
      split_ifs <;> decide
  | received bytes =>
      obtain rfl := hnothing bytes rfl
      cases h
      decide

/-- A response that decodes is received. -/
theorem receive_serialize {response : Message}
    (h : Message.deserialize response.serialize = some response) :
    receive (.received response.serialize) = .ok response := by
  have hlength := (Message.deserialize_eq_some.mp h).2
  have hne : response.serialize ≠ [] := List.cons_ne_nil _ _
  simp only [receive, if_neg hne, if_neg (Nat.not_lt.mpr hlength), h]

end SocketClient

/-! ## What the user sees -/

/-- Exit code and output of a client. -/
structure Report where
  exit : ℕ
  out : String := ""
  err : String := ""
  deriving DecidableEq, Repr

namespace CECClient

def EXIT_SUCCESS : ℕ := 0

def EXIT_FAILURE : ℕ := 1

section Rendering

variable (strerror : ℕ → String)

def strerrorOr (err : ℕ) : String := if err = 0 then "operation failed" else strerror err

/-- A detail in parentheses, where there is one. -/
def parenthesized (detail : String) : String := if detail.isEmpty then "" else " (" ++ detail ++ ")"

def renderConnectError (err : ClientError) : Report where
  exit := EXIT_FAILURE
  err :=
    match err.kind with
    | .daemonUnavailable =>
        "Error: cec-control daemon is not running (socket: " ++ err.detail ++ ")\n"
    | .connectTimeout => "Error: timed out connecting to daemon (socket: " ++ err.detail ++ ")\n"
    | .connectFailed =>
        "Error: failed to connect to daemon: " ++ strerrorOr strerror err.errnoCode ++
          parenthesized err.detail ++ "\n"
    | _ => "Error: connect failed with unrecognised condition\n"

def renderTransportError (err : ClientError) : Report where
  exit := EXIT_FAILURE
  err :=
    match err.kind with
    | .notConnected => "Error: not connected to daemon\n"
    | .sendFailed =>
        "Error: failed to send command: " ++ strerrorOr strerror err.errnoCode ++
          parenthesized err.detail ++ "\n"
    | .peerClosed => "Error: daemon closed the connection\n"
    | .responseTimeout => "Error: timed out waiting for daemon response\n"
    | .receiveFailed =>
        "Error: failed to receive response: " ++ strerrorOr strerror err.errnoCode ++ "\n"
    | .oversizedResponse => "Error: daemon returned oversized response (" ++ err.detail ++ ")\n"
    | .malformedResponse => "Error: daemon returned a malformed response\n"
    | _ => "Error: unrecognised transport failure\n"

def renderResponse (response : Message) : Report :=
  if response.type = .respSuccess then
    { exit := EXIT_SUCCESS, out := "Command executed successfully\n" }
  else { exit := EXIT_FAILURE, err := "Error: command failed\n" }

/-- `CECClient::execute`, all calls answered. -/
def execute (path : Text) (command : Message) (connecting : ConnectIO) (sendAnswer : SendAnswer)
    (recvAnswer : RecvAnswer) : Report :=
  match SocketClient.connect path connecting with
  | some err => renderConnectError strerror err
  | none =>
      match SocketClient.sendCommand true path command sendAnswer recvAnswer with
      | .error err => renderTransportError strerror err
      | .ok response => renderResponse response

end Rendering

/-- A response decides the exit code. -/
theorem renderResponse_exit (response : Message) :
    (renderResponse response).exit = EXIT_SUCCESS ↔ response.type = .respSuccess := by
  unfold renderResponse
  split_ifs with hsuccess
  · exact iff_of_true rfl hsuccess
  · exact iff_of_false (by decide) hsuccess

end CECClient

end CecControl
