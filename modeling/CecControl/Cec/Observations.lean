/-
# What the adapter reports about the bus

libcec hands the adapter every command it sees on the bus and every change of the
host's own active-source state. A small set of them is passed on to the daemon as
typed observations; the rest is dropped on libcec's own thread.
-/

import CecControl.Cec.Adapter
import Mathlib.Data.Int.Notation

namespace CecControl

/-- `CEC_POWER_STATUS_ON` and `CEC_POWER_STATUS_UNKNOWN`. A power status is kept as the byte
it is cast from. -/
def cecPowerStatusOn : UInt8 := 0x00

def cecPowerStatusUnknown : UInt8 := 0x99

/-- `CECDEVICE_UNKNOWN`. -/
def cecDeviceUnknown : ℤ := -1

namespace Observation

inductive Kind
  | tvStandby
  | tvPowerReport
  | activeSource
  | hostActivated
  | hostDeactivated
  deriving DecidableEq, Repr

end Observation

/-- `ICecAdapter::Observation`. -/
structure Observation where
  kind : Observation.Kind
  physicalAddress : UInt16 := 0
  power : UInt8 := cecPowerStatusUnknown
  logical : ℤ := cecDeviceUnknown
  deriving DecidableEq, Repr

namespace Observation

/-- The fields an observation's kind gives no meaning to have their defaults. -/
def Plain (obs : Observation) : Prop :=
  (obs.kind ≠ .activeSource → obs.physicalAddress = 0) ∧
    (obs.kind ≠ .tvPowerReport → obs.power = cecPowerStatusUnknown) ∧
    (obs.kind ≠ .hostActivated ∧ obs.kind ≠ .hostDeactivated → obs.logical = cecDeviceUnknown)

end Observation

namespace LibCecAdapter

/-- The opcodes the adapter looks at. -/
inductive Opcode
  | standby
  | reportPowerStatus
  | activeSource
  | routingChange
  | setStreamPath
  | other (code : UInt8)
  deriving DecidableEq, Repr

/-- `cec_command`; the parameters are as many as its size says. -/
structure CecCommand where
  initiator : ℤ
  opcode : Opcode
  parameters : List UInt8
  deriving DecidableEq, Repr

/-- A physical address is big-endian on the wire. -/
def emitActiveSource (parameters : List UInt8) (offset : ℕ) : Observation where
  kind := .activeSource
  physicalAddress :=
    ((parameters.getD offset 0).toUInt16 <<< 8) ||| (parameters.getD (offset + 1) 0).toUInt16

/-- The observation a bus command is passed on as, if it is. -/
def cecCommandCallback (command : CecCommand) : Option Observation :=
  if command.initiator = cecDeviceTv.toNat ∧ command.opcode = .standby then
    some { kind := .tvStandby }
  else if command.initiator = cecDeviceTv.toNat ∧ command.opcode = .reportPowerStatus ∧
      1 ≤ command.parameters.length then
    some { kind := .tvPowerReport, power := command.parameters.getD 0 0 }
  else if command.opcode = .activeSource ∧ 2 ≤ command.parameters.length then
    some (emitActiveSource command.parameters 0)
  else if command.opcode = .routingChange ∧ 4 ≤ command.parameters.length then
    some (emitActiveSource command.parameters 2)
  else if command.opcode = .setStreamPath ∧ 2 ≤ command.parameters.length then
    some (emitActiveSource command.parameters 0)
  else none

def cecSourceActivatedCallback (logicalAddress : ℤ) (bActivated : UInt8) : Observation where
  kind := if bActivated ≠ 0 then .hostActivated else .hostDeactivated
  logical := logicalAddress

theorem cecCommandCallback_plain {command : CecCommand} {obs : Observation}
    (h : cecCommandCallback command = some obs) : obs.Plain := by
  unfold cecCommandCallback at h
  split_ifs at h
  all_goals
    obtain rfl := Option.some.inj h
    simp [Observation.Plain, emitActiveSource]

theorem cecSourceActivatedCallback_plain (logicalAddress : ℤ) (bActivated : UInt8) :
    (cecSourceActivatedCallback logicalAddress bActivated).Plain := by
  unfold cecSourceActivatedCallback
  split_ifs <;> simp [Observation.Plain]

/-- A switch of the TV's input to the host reaches the daemon as the new address. -/
example : cecCommandCallback ⟨0, .routingChange, [0x10, 0x00, 0x21, 0x00]⟩ =
    some { kind := .activeSource, physicalAddress := 0x2100 } := by decide

end LibCecAdapter

end CecControl
