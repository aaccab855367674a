/-
# The adapter behind the interface

`LibCecAdapter` keeps a handle to an instance of libcec, the name of the port the instance was
detected on, and the flag `m_connected`. Its owner, one thread at a time, calls its members; the
flag alone is shared, with libcec's alert thread, which clears it when the connection is lost.

The members are written as programs over single accesses: a test or a reset of the handle, a load
or a store of the flag, a call of libcec. The state those accesses work on also keeps a history of
what was asked of libcec, newest first, which nothing reads.
-/

import CecControl.Cec.Adapter
import CecControl.Common.Text
import CecControl.Lib.Machine
import CecControl.Lib.Shared

namespace CecControl

open Lib

/-- libcec's set of logical addresses. -/
abbrev LogicalAddresses := Fin 16 → Bool

/-- `cec_logical_addresses::Clear`. -/
def LogicalAddresses.clear : LogicalAddresses := fun _ => false

/-- `cec_logical_addresses::Set`. -/
def LogicalAddresses.set (addrs : LogicalAddresses) (address : Fin 16) : LogicalAddresses :=
  fun other => if other = address then true else addrs other

structure AdapterConfig where
  deviceName : Text
  autoPowerOn : Bool
  autoWakeAVR : Bool
  activateSource : Bool
  systemAudioMode : Bool
  wakeDevices : LogicalAddresses
  powerOffDevices : LogicalAddresses

/-! ## What is asked of libcec -/

/-- The members of `ICECAdapter` the adapter calls. -/
inductive ICECAdapter
  | versionToString
  | detectAdapters
  | setConfiguration
  | openPort (port : Text) (timeoutMs : ℕ)
  | audioEnable (enable : Bool)
  | setInactiveView
  | close
  | powerOnDevices (address : UInt8)
  | standbyDevices (address : UInt8)
  | volumeUp
  | volumeDown
  | audioToggleMute
  | sendKeypress (address : UInt8) (key : UserControlCode) (wait : Bool)
  | sendKeyRelease (address : UInt8)
  | setStreamPath (physicalAddress : ℕ)
  | getDevicePhysicalAddress (address : UInt8)
  | isActiveDevice (address : UInt8)
  | getDevicePowerStatus (address : UInt8)
  | getDeviceOSDName (address : UInt8)
  | getActiveDevices
  | getActiveSource
  deriving DecidableEq, Repr

/-- What a member returns. `DetectAdapters` finds nothing or fills in the port of the first
adapter found; the version is only logged. -/
def ICECAdapter.Result : ICECAdapter → Type
  | .versionToString | .close => Unit
  | .detectAdapters => Option Text
  | .getDevicePhysicalAddress _ | .getDevicePowerStatus _ => ℕ
  | .getActiveSource => ℤ
  | .getDeviceOSDName _ => Text
  | .getActiveDevices => LogicalAddresses
  | _ => Bool

/-- Single accesses of the members' code. `cecInitialise` assigns what `CECInitialise` returns to
the handle, and `reset` destroys the instance. -/
inductive AdapterAccess
  | hasAdapter
  | cecInitialise
  | reset
  | member (m : ICECAdapter)
  | loadConnected
  | storeConnected (value : Bool)
  | getPortName
  | setPortName (port : Text)
  | sleep (ms : ℕ)
  deriving DecidableEq, Repr

/-- Answers, by access. What libcec answers may be an exception; `CECInitialise` returns an
instance or null. -/
def AdapterAccess.Ans : AdapterAccess → Type
  | .hasAdapter | .loadConnected => Bool
  | .cecInitialise => Except Exn Bool
  | .member m => Except Exn m.Result
  | .getPortName => Text
  | .reset | .storeConnected _ | .setPortName _ | .sleep _ => Unit

/-- The code of the members. -/
abbrev AdapterM := ExceptT Exn (Program AdapterAccess AdapterAccess.Ans)

namespace AdapterM

def hasAdapter : AdapterM Bool :=
  ExceptT.mk (.call .hasAdapter fun answer => .ret (.ok answer))

/-- `m_adapter = AdapterPtr(::CECInitialise(&m_libcecConfig))`, and whether it is an instance. -/
def cecInitialise : AdapterM Bool :=
  ExceptT.mk (.call .cecInitialise .ret)

def reset : AdapterM Unit := ExceptT.mk (.call .reset fun _ => .ret (.ok ()))

/-- `m_adapter->m(…)`. -/
def member (m : ICECAdapter) : AdapterM m.Result :=
  ExceptT.mk (.call (.member m) .ret)

def loadConnected : AdapterM Bool :=
  ExceptT.mk (.call .loadConnected fun answer => .ret (.ok answer))

def storeConnected (value : Bool) : AdapterM Unit :=
  ExceptT.mk (.call (.storeConnected value) fun _ => .ret (.ok ()))

def getPortName : AdapterM Text :=
  ExceptT.mk (.call .getPortName fun answer => .ret (.ok answer))

def setPortName (port : Text) : AdapterM Unit :=
  ExceptT.mk (.call (.setPortName port) fun _ => .ret (.ok ()))

def sleep (ms : ℕ) : AdapterM Unit :=
  ExceptT.mk (.call (.sleep ms) fun _ => .ret (.ok ()))

/-- `try { body } catch (const std::exception&) { handler }`. -/
def catchStd {α : Type} (body handler : AdapterM α) : AdapterM α :=
  tryCatch body fun
    | .std => handler
    | .other => throw .other

/-- With a `catch (...)` clause that does the same. -/
def catchAll {α : Type} (body handler : AdapterM α) : AdapterM α := tryCatch body fun _ => handler

end AdapterM

/-! ## The members -/

namespace LibCecAdapter

open AdapterM

def kUsbSettleDelay : ℕ := 500

def kConnectTimeoutMs : ℕ := 2000

def detectAdapter : AdapterM Bool := do
  match ← member .detectAdapters with
  | none => return false
  | some port =>
      setPortName port
      return true

/-- `LibCecAdapter::initialize`. -/
def initializeAdapter : AdapterM Bool := do
  if ← hasAdapter then return true
  if !(← cecInitialise) then return false
  member .versionToString
  if !(← detectAdapter) then
    reset
    return false
  return true

/-- The request to the AVR that follows a successful `Open`. -/
def requestSystemAudio (config : AdapterConfig) : AdapterM Unit :=
  if config.activateSource || config.systemAudioMode then do
    let _ ← member (.audioEnable true)
  else pure ()

/-- The `try` block of `openConnection`. -/
def openPort (config : AdapterConfig) : AdapterM Bool := do
  let _ ← member .setConfiguration
  let port ← getPortName
  if !(← member (.openPort port kConnectTimeoutMs)) then return false
  storeConnected true
  requestSystemAudio config
  return true

def openConnection (config : AdapterConfig) : AdapterM Bool := do
  if !(← hasAdapter) then return false
  if ← loadConnected then return true
  if (← getPortName).isEmpty then return false
  catchAll (openPort config)
    (do
      storeConnected false
      return false)

def closeConnection : AdapterM Unit := do
  if !(← loadConnected) then return
  storeConnected false
  if !(← hasAdapter) then return
  catchAll
    (do
      let _ ← member .setInactiveView
      member .close)
    (pure ())

/-- What `reopenConnection` does first, if there is an instance. Only `std::exception` is caught
around `Close`. -/
def tearDown : AdapterM Unit := do
  if !(← hasAdapter) then return
  storeConnected false
  catchStd (member .close) (pure ())
  reset
  sleep kUsbSettleDelay

def reopenConnection (config : AdapterConfig) : AdapterM Bool := do
  tearDown
  if !(← cecInitialise) then return false
  if !(← detectAdapter) then
    reset
    return false
  openConnection config

def isConnected : AdapterM Bool := loadConnected

/-- Run `fn` if there is an instance and the flag is set. -/
def callIfConnected {R : Type} (fallback : R) (fn : AdapterM R) : AdapterM R := do
  if !(← hasAdapter) then return fallback
  if !(← loadConnected) then return fallback
  fn

def powerOnDevice (address : UInt8) : AdapterM Bool :=
  callIfConnected false (member (.powerOnDevices address))

def standbyDevice (address : UInt8) : AdapterM Bool :=
  callIfConnected false (member (.standbyDevices address))

def volumeUp : AdapterM Bool := callIfConnected false (member .volumeUp)

def volumeDown : AdapterM Bool := callIfConnected false (member .volumeDown)

def toggleMute : AdapterM Bool := callIfConnected false (member .audioToggleMute)

def sendKeypress (address : UInt8) (key : UserControlCode) (release : Bool) : AdapterM Bool :=
  callIfConnected false <|
    if release then member (.sendKeyRelease address)
    else member (.sendKeypress address key false)

def setStreamPath (physicalAddress : ℕ) : AdapterM Bool :=
  callIfConnected false (member (.setStreamPath physicalAddress))

def getDevicePhysicalAddress (address : UInt8) : AdapterM ℕ :=
  callIfConnected (0 : ℕ) (member (.getDevicePhysicalAddress address))

def isDeviceActive (address : UInt8) : AdapterM Bool :=
  callIfConnected false (member (.isActiveDevice address))

/-- `CEC_POWER_STATUS_UNKNOWN` and `CECDEVICE_UNKNOWN`, as libcec numbers them. -/
def cecPowerStatusUnknown : ℕ := 0x99

def cecDeviceUnknown : ℤ := -1

def getDevicePowerStatus (address : UInt8) : AdapterM ℕ :=
  callIfConnected cecPowerStatusUnknown (member (.getDevicePowerStatus address))

def getDeviceOSDName (address : UInt8) : AdapterM Text :=
  callIfConnected ([] : Text) (member (.getDeviceOSDName address))

def getActiveDevices : AdapterM LogicalAddresses :=
  callIfConnected .clear (member .getActiveDevices)

def getActiveSource : AdapterM ℤ := callIfConnected cecDeviceUnknown (member .getActiveSource)

def standbyDevices (address : UInt8) : AdapterM Bool :=
  callIfConnected false (member (.standbyDevices address))

def powerOnDevices (address : UInt8) : AdapterM Bool :=
  callIfConnected false (member (.powerOnDevices address))

end LibCecAdapter

/-- A call by the owner. -/
inductive OwnerCall
  | initializeAdapter
  | openConnection
  | closeConnection
  | reopenConnection
  | isConnected
  | powerOnDevice (address : UInt8)
  | standbyDevice (address : UInt8)
  | volumeUp
  | volumeDown
  | toggleMute
  | sendKeypress (address : UInt8) (key : UserControlCode) (release : Bool)
  | setStreamPath (physicalAddress : ℕ)
  | getDevicePhysicalAddress (address : UInt8)
  | isDeviceActive (address : UInt8)
  | getDevicePowerStatus (address : UInt8)
  | getDeviceOSDName (address : UInt8)
  | getActiveDevices
  | getActiveSource
  | standbyDevices (address : UInt8)
  | powerOnDevices (address : UInt8)
  deriving DecidableEq, Repr

namespace OwnerCall

def Result : OwnerCall → Type
  | .closeConnection => Unit
  | .getDevicePhysicalAddress _ | .getDevicePowerStatus _ => ℕ
  | .getDeviceOSDName _ => Text
  | .getActiveDevices => LogicalAddresses
  | .getActiveSource => ℤ
  | _ => Bool

def body (config : AdapterConfig) : (c : OwnerCall) → AdapterM c.Result
  | .initializeAdapter => LibCecAdapter.initializeAdapter
  | .openConnection => LibCecAdapter.openConnection config
  | .closeConnection => LibCecAdapter.closeConnection
  | .reopenConnection => LibCecAdapter.reopenConnection config
  | .isConnected => LibCecAdapter.isConnected
  | .powerOnDevice address => LibCecAdapter.powerOnDevice address
  | .standbyDevice address => LibCecAdapter.standbyDevice address
  | .volumeUp => LibCecAdapter.volumeUp
  | .volumeDown => LibCecAdapter.volumeDown
  | .toggleMute => LibCecAdapter.toggleMute
  | .sendKeypress address key release => LibCecAdapter.sendKeypress address key release
  | .setStreamPath physicalAddress => LibCecAdapter.setStreamPath physicalAddress
  | .getDevicePhysicalAddress address => LibCecAdapter.getDevicePhysicalAddress address
  | .isDeviceActive address => LibCecAdapter.isDeviceActive address
  | .getDevicePowerStatus address => LibCecAdapter.getDevicePowerStatus address
  | .getDeviceOSDName address => LibCecAdapter.getDeviceOSDName address
  | .getActiveDevices => LibCecAdapter.getActiveDevices
  | .getActiveSource => LibCecAdapter.getActiveSource
  | .standbyDevices address => LibCecAdapter.standbyDevices address
  | .powerOnDevices address => LibCecAdapter.powerOnDevices address

end OwnerCall

/-! ## The object, its owner and the alert thread -/

/-- What was asked of libcec. Instances are numbered in the order they were made. -/
inductive LibCecEvent
  | created (serial : ℕ)
  | called (serial : ℕ) (m : ICECAdapter) (outcome : Except Exn m.Result)

/-- The object as its constructor leaves it, and what became of it since. -/
structure LibCecAdapter where
  /-- The number of the instance `m_adapter` holds. -/
  adapter : Option ℕ := none
  connected : Bool := false
  portName : Text := []
  /-- How many instances there have been. -/
  created : ℕ := 0
  history : List LibCecEvent := []

namespace LibCecAdapter

/-- `cecAlertCallback` on a lost connection, as far as the object goes. -/
def alert (o : LibCecAdapter) : LibCecAdapter := { o with connected := false }

/-- `m_adapter = AdapterPtr(::CECInitialise(…))`: where it throws there is nothing to assign. -/
def initialised (o : LibCecAdapter) : Except Exn Bool → LibCecAdapter
  | .ok true =>
      { o with
        adapter := some o.created
        created := o.created + 1
        history := .created o.created :: o.history }
  | .ok false => { o with adapter := none }
  | .error _ => o

/-- The object after an access that was answered so, if it can be. A call through a null handle
has no answer. -/
def perform (o : LibCecAdapter) : (access : AdapterAccess) → access.Ans → Option LibCecAdapter
  | .hasAdapter, (answer : Bool) => if answer = o.adapter.isSome then some o else none
  | .cecInitialise, outcome => some (o.initialised outcome)
  | .reset, _ => some { o with adapter := none }
  | .member m, outcome =>
      o.adapter.map fun serial => { o with history := .called serial m outcome :: o.history }
  | .loadConnected, (answer : Bool) => if answer = o.connected then some o else none
  | .storeConnected value, _ => some { o with connected := value }
  | .getPortName, (answer : Text) => if answer = o.portName then some o else none
  | .setPortName port, _ => some { o with portName := port }
  | .sleep _, _ => some o

end LibCecAdapter

/-- A call that is under way, or has returned and is about to be left. -/
structure PendingCall where
  call : OwnerCall
  rest : Program AdapterAccess AdapterAccess.Ans (Except Exn call.Result)

structure OwnedAdapter where
  object : LibCecAdapter := {}
  running : Option PendingCall := none

inductive OwnerLabel
  /-- The owner calls a member. -/
  | invoke (c : OwnerCall)
  /-- It makes the next access, and gets this answer. -/
  | access (a : AdapterAccess) (answer : a.Ans)
  /-- It leaves the member, by return or exception. -/
  | leave
  /-- libcec reports a lost connection. -/
  | alert

namespace OwnedAdapter

def step (config : AdapterConfig) (s : OwnedAdapter) : OwnerLabel → Option OwnedAdapter
  | .invoke c =>
      match s.running with
      | none => some { s with running := some ⟨c, c.body config⟩ }
      | some _ => none
  | .access a answer =>
      match s.running with
      | none => none
      | some pending =>
          (pending.rest.resume a answer).bind fun rest =>
            (s.object.perform a answer).map fun object => ⟨object, some ⟨pending.call, rest⟩⟩
  | .leave =>
      match s.running with
      | some ⟨_, .ret _⟩ => some { s with running := none }
      | _ => none
  | .alert => some { s with object := s.object.alert }

/-- Any owner, any libcec, any alerts. -/
def machine (config : AdapterConfig) : Machine OwnedAdapter OwnerLabel := ⟨step config⟩

end OwnedAdapter

end CecControl
