/-
# Daemon-side command table

One row per wire command says where it is handled, whether it may be parked
while the adapter is suspended, and which operation it runs. The lookups and the
adapter handlers follow the source; `executeOnAdapter` is the worker-side wrapper
both live dispatch and replay go through.
-/

import CecControl.Cec.Operations
import CecControl.Common.CommandRegistry

namespace CecControl

open WorkerM

/-- Where a command is handled. -/
inductive DispatchClass
  | supervisorIntercepted
  | stateOnly
  | adapterCall
  deriving DecidableEq, Repr

def handlePowerOn (command : Message) : WorkerM Bool := Ops.powerOnDevice command.deviceId

def handlePowerOff (command : Message) : WorkerM Bool := Ops.powerOffDevice command.deviceId

def handleVolumeUp (command : Message) : WorkerM Bool := Ops.setVolume command.deviceId true

def handleVolumeDown (command : Message) : WorkerM Bool := Ops.setVolume command.deviceId false

def handleVolumeMute (command : Message) : WorkerM Bool := Ops.setMute command.deviceId true

/-- An empty payload fails before any adapter call. -/
def handleChangeSource (command : Message) : WorkerM Bool :=
  match command.data with
  | [] => pure false
  | source :: _ => Ops.setSource source

/-- An empty payload or a code outside the table fails before any adapter call. -/
def handleKey (command : Message) : WorkerM Bool :=
  match command.data with
  | [] => pure false
  | code :: _ =>
      if findKeyByCode code = none then pure false else Ops.sendKey command.deviceId code

/-- An operator's restart: neither connection-checked nor throttled. -/
def handleRestartAdapter (_command : Message) : WorkerM Bool := adapter .reopenConnection

/-- The function pointers of the table. -/
inductive AdapterHandler
  | powerOn
  | powerOff
  | volumeUp
  | volumeDown
  | volumeMute
  | changeSource
  | key
  | restartAdapter
  deriving DecidableEq, Repr

def AdapterHandler.run : AdapterHandler → Message → WorkerM Bool
  | .powerOn => handlePowerOn
  | .powerOff => handlePowerOff
  | .volumeUp => handleVolumeUp
  | .volumeDown => handleVolumeDown
  | .volumeMute => handleVolumeMute
  | .changeSource => handleChangeSource
  | .key => handleKey
  | .restartAdapter => handleRestartAdapter

structure DispatchSpec where
  type : MessageType
  dispatch : DispatchClass
  queueableWhileSuspended : Bool
  requiresAdapterConnection : Bool
  adapterHandler : Option AdapterHandler
  deriving DecidableEq, Repr

def kDispatchTable : List DispatchSpec :=
  [⟨.cmdPowerOn, .adapterCall, true, true, some .powerOn⟩,
    ⟨.cmdPowerOff, .adapterCall, true, true, some .powerOff⟩,
    ⟨.cmdVolumeUp, .adapterCall, true, true, some .volumeUp⟩,
    ⟨.cmdVolumeDown, .adapterCall, true, true, some .volumeDown⟩,
    ⟨.cmdVolumeMute, .adapterCall, true, true, some .volumeMute⟩,
    ⟨.cmdChangeSource, .adapterCall, false, true, some .changeSource⟩,
    ⟨.cmdKey, .adapterCall, false, true, some .key⟩,
    ⟨.cmdRestartAdapter, .adapterCall, false, false, some .restartAdapter⟩,
    ⟨.cmdAutoStandby, .stateOnly, false, false, none⟩,
    ⟨.cmdSuspend, .supervisorIntercepted, false, false, none⟩,
    ⟨.cmdResume, .supervisorIntercepted, false, false, none⟩]

/-- Linear lookup by message type. -/
def findDispatchByType (type : MessageType) : Option DispatchSpec :=
  kDispatchTable.find? fun spec => spec.type == type

/-- Worker-side body of a command: the connection gate, the handler, and the
fallback to an error response. Only `std::exception` is caught. -/
def executeOnAdapter (command : Message) (spec : DispatchSpec) : WorkerM Message :=
  catchStd
    (do
      if spec.requiresAdapterConnection then
        if !(← adapter .isConnected) then return ⟨.respError, 0, []⟩
      match spec.adapterHandler with
      | some handler =>
          if ← handler.run command then return ⟨.respSuccess, 0, []⟩
          return ⟨.respError, 0, []⟩
      | none => return ⟨.respError, 0, []⟩)
    (pure ⟨.respError, 0, []⟩)

/-! ## Facts about the table -/

/-- Only adapter-call rows may be parked while suspended. -/
theorem adapterCall_of_queueable {type : MessageType} {spec : DispatchSpec}
    (hfind : findDispatchByType type = some spec)
    (hqueue : spec.queueableWhileSuspended = true) : spec.dispatch = .adapterCall := by
  cases type <;> simp [findDispatchByType, kDispatchTable] at hfind <;>
    subst hfind <;> simp_all

/-- The only rows handled by the supervisor are the two power commands. -/
theorem supervisorIntercepted_iff {type : MessageType} {spec : DispatchSpec}
    (hfind : findDispatchByType type = some spec) :
    spec.dispatch = .supervisorIntercepted ↔ type = .cmdSuspend ∨ type = .cmdResume := by
  cases type <;> simp [findDispatchByType, kDispatchTable] at hfind <;>
    subst hfind <;> simp

/-- The command type a handler serves. -/
def AdapterHandler.serves : AdapterHandler → MessageType
  | .powerOn => .cmdPowerOn
  | .powerOff => .cmdPowerOff
  | .volumeUp => .cmdVolumeUp
  | .volumeDown => .cmdVolumeDown
  | .volumeMute => .cmdVolumeMute
  | .changeSource => .cmdChangeSource
  | .key => .cmdKey
  | .restartAdapter => .cmdRestartAdapter

/-- Each row has the handler of its own type. -/
theorem AdapterHandler.serves_of_find {type : MessageType} {spec : DispatchSpec}
    {handler : AdapterHandler} (hfind : findDispatchByType type = some spec)
    (hspec : spec.adapterHandler = some handler) : handler.serves = type := by
  cases type <;> simp [findDispatchByType, kDispatchTable] at hfind <;> subst hfind <;>
    cases hspec <;> rfl

/-! ## Handlers catch nothing -/

theorem transparent_handleChangeSource (command : Message) :
    Transparent (handleChangeSource command) := by
  unfold handleChangeSource
  split
  · exact exposed_pure _
  · exact Ops.transparent_setSource _

theorem transparent_handleKey (command : Message) : Transparent (handleKey command) := by
  unfold handleKey
  split
  · exact exposed_pure _
  · exact (exposed_pure _).ite (Ops.transparent_sendKey _ _)

theorem AdapterHandler.transparent_run (handler : AdapterHandler) (command : Message) :
    Transparent (handler.run command) := by
  cases handler with
  | powerOn => exact Ops.transparent_powerOnDevice _
  | powerOff => exact Ops.transparent_powerOffDevice _
  | volumeUp => exact Ops.transparent_setVolume command.deviceId _
  | volumeDown => exact Ops.transparent_setVolume command.deviceId _
  | volumeMute => exact Ops.transparent_setMute command.deviceId true
  | changeSource => exact transparent_handleChangeSource _
  | key => exact transparent_handleKey _
  | restartAdapter => exact transparent_adapter _

/-! ## The calls a handler makes -/

/-- The adapter calls a handler can make for a command, connection checks aside. -/
def AdapterHandler.Makes (command : Message) : AdapterHandler → AdapterCall → Prop
  | .powerOn, c => c = .isDeviceActive command.deviceId ∨ c = .powerOnDevice command.deviceId
  | .powerOff, c => c = .isDeviceActive command.deviceId ∨ c = .standbyDevice command.deviceId
  | .volumeUp, c => c = .volumeUp
  | .volumeDown, c => c = .volumeDown
  | .volumeMute, c => c = .toggleMute
  | .changeSource, c =>
      (∃ physicalAddress, c = .setStreamPath physicalAddress) ∨
        ∃ key release, c = .sendKeypress cecDeviceTv key release
  | .key, c =>
      (∃ code rest, command.data = code :: rest ∧ findKeyByCode code ≠ none) ∧
        ∃ key release, c = .sendKeypress command.deviceId key release
  | .restartAdapter, c => c = .reopenConnection

/-- A handler uses the clock, connection checks, and the calls it makes. -/
theorem AdapterHandler.uses_run {P : Op → Prop} (hP : Ops.Allowed P) (handler : AdapterHandler)
    (command : Message) (hmakes : ∀ c, handler.Makes command c → P (.adapter c)) :
    Uses P (handler.run command) := by
  cases handler with
  | powerOn =>
      exact Ops.uses_powerOnDevice hP (hmakes _ (Or.inl rfl)) (hmakes _ (Or.inr rfl))
  | powerOff =>
      exact Ops.uses_powerOffDevice hP (hmakes _ (Or.inl rfl)) (hmakes _ (Or.inr rfl))
  | volumeUp => exact Ops.uses_setVolume hP command.deviceId (hmakes _ rfl)
  | volumeDown => exact Ops.uses_setVolume hP command.deviceId (hmakes _ rfl)
  | volumeMute => exact Ops.uses_setMute hP command.deviceId true (hmakes _ rfl)
  | changeSource =>
      simp only [run]
      unfold handleChangeSource
      split
      · exact uses_pure _
      · apply Ops.uses_setSource hP
        · exact fun physicalAddress => hmakes _ (Or.inl ⟨physicalAddress, rfl⟩)
        · exact fun key release => hmakes _ (Or.inr ⟨key, release, rfl⟩)
  | key =>
      simp only [run]
      unfold handleKey
      cases hdata : command.data with
      | nil => exact uses_pure _
      | cons code rest =>
          by_cases hknown : findKeyByCode code = none
          · simpa only [if_pos hknown] using uses_pure false
          · simp only [if_neg hknown]
            apply Ops.uses_sendKey hP
            exact fun key release => hmakes _ ⟨⟨code, rest, hdata, hknown⟩, key, release, rfl⟩
  | restartAdapter => exact uses_adapter (hmakes _ rfl)

/-- So does the whole worker-side body of a command. -/
theorem uses_executeOnAdapter {P : Op → Prop} (hP : Ops.Allowed P) {command : Message}
    {spec : DispatchSpec}
    (hmakes : ∀ handler c, spec.adapterHandler = some handler → handler.Makes command c →
      P (.adapter c)) :
    Uses P (executeOnAdapter command spec) := by
  -- the connection gate, before whatever follows it
  have hgated {rest : WorkerM Message} (hrest : Uses P rest) :
      Uses P (do
        if spec.requiresAdapterConnection then
          if !(← adapter .isConnected) then return (⟨.respError, 0, []⟩ : Message)
        rest) := by
    apply Uses.ite _ hrest
    apply (uses_adapter hP.isConnected).bind
    exact fun _ => (uses_pure _).ite hrest
  apply Uses.catchStd _ (uses_pure _)
  cases hspec : spec.adapterHandler with
  | none => exact hgated (uses_pure _)
  | some handler =>
      have hrun := AdapterHandler.uses_run hP handler command fun c => hmakes handler c hspec
      exact hgated (hrun.bind fun _ => (uses_pure _).ite (uses_pure _))

/-- Operations that leave the adapter's connection as it is. -/
def Ops.LeavesConnection (op : Op) : Prop :=
  op ≠ .adapter .reopenConnection ∧ op ≠ .adapter .closeConnection

theorem Ops.allowed_leavesConnection : Ops.Allowed Ops.LeavesConnection where
  now := by simp [LeavesConnection]
  sleep := by simp [LeavesConnection]
  isConnected := by simp [LeavesConnection]

/-- Only a restart touches the connection. -/
theorem AdapterHandler.Makes.leavesConnection {handler : AdapterHandler} {command : Message}
    {c : AdapterCall} (h : handler.Makes command c) (hrestart : handler ≠ .restartAdapter) :
    Ops.LeavesConnection (.adapter c) := by
  cases handler with
  | powerOn | powerOff => rcases h with rfl | rfl <;> simp [Ops.LeavesConnection]
  | volumeUp | volumeDown | volumeMute => simp [Ops.LeavesConnection, show c = _ from h]
  | changeSource =>
      rcases h with ⟨_, rfl⟩ | ⟨_, _, rfl⟩ <;> simp [Ops.LeavesConnection]
  | key =>
      obtain ⟨-, _, _, rfl⟩ := h
      simp [Ops.LeavesConnection]
  | restartAdapter => exact absurd rfl hrestart

end CecControl
