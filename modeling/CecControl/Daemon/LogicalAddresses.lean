/-
# Logical addresses on the wire

A CEC logical address has four bits, a message has a byte for it. The shipped client only
builds messages with addresses up to fifteen, but what the daemon reads is a datagram: the
device id of a command goes from there through the handlers and the operations to the adapter,
at once or after a suspension.

What a message can make the daemon call is read off its handler. That the calls actually made
are those, whichever thread moves when, is an invariant of the composed daemon.
-/

import CecControl.Daemon.JobPrograms

namespace CecControl

open Lib WorkerM

/-- The logical address among the arguments of a call. -/
def AdapterCall.address? : AdapterCall → Option UInt8
  | .powerOnDevice address | .standbyDevice address | .isDeviceActive address
  | .standbyDevices address | .powerOnDevices address | .sendKeypress address _ _ => some address
  | _ => none

/-- Logical addresses occupy the low four bits. -/
def AdapterCall.Valid (c : AdapterCall) : Prop := ∀ address, c.address? = some address → address ≤ 15

/-- The messages whose device id is passed on: the two power commands, and a key the table
knows. -/
def Message.Targeted (m : Message) : Prop :=
  m.type = .cmdPowerOn ∨ m.type = .cmdPowerOff ∨
    m.type = .cmdKey ∧ ∃ code rest, m.data = code :: rest ∧ findKeyByCode code ≠ none

/-- The calls of a message are valid, unless its device id is passed on and is none. -/
def Op.ValidFor (m : Message) : Op → Prop
  | .adapter c => (m.Targeted → m.deviceId ≤ 15) → c.Valid
  | _ => True

theorem allowed_validFor (m : Message) : Ops.Allowed (Op.ValidFor m) where
  now := trivial
  sleep _ := trivial
  isConnected := by simp [Op.ValidFor, AdapterCall.Valid, AdapterCall.address?]

/-- The handler of a message makes only such calls. -/
theorem AdapterHandler.Makes.validFor {m : Message} {spec : DispatchSpec} {handler : AdapterHandler}
    {c : AdapterCall} (hfind : findDispatchByType m.type = some spec)
    (hspec : spec.adapterHandler = some handler) (h : handler.Makes m c) :
    Op.ValidFor m (.adapter c) := by
  intro hbound address haddress
  have htype := AdapterHandler.serves_of_find hfind hspec
  cases handler with
  | powerOn =>
      rcases h with rfl | rfl <;> cases haddress <;> exact hbound (Or.inl htype.symm)
  | powerOff =>
      rcases h with rfl | rfl <;> cases haddress <;> exact hbound (Or.inr (Or.inl htype.symm))
  | volumeUp | volumeDown | volumeMute | restartAdapter =>
      simp [show c = _ from h, AdapterCall.address?] at haddress
  | changeSource =>
      rcases h with ⟨_, rfl⟩ | ⟨_, _, rfl⟩ <;> cases haddress
      decide
  | key =>
      obtain ⟨hknown, _, _, rfl⟩ := h
      cases haddress
      exact hbound (Or.inr (Or.inr ⟨htype.symm, hknown⟩))

theorem uses_validFor {m : Message} {spec : DispatchSpec}
    (hfind : findDispatchByType m.type = some spec) :
    Uses (Op.ValidFor m) (executeOnAdapter m spec) :=
  uses_executeOnAdapter (allowed_validFor m) fun _ _ hspec hmakes => hmakes.validFor hfind hspec

namespace Daemon

/-- The worker is about to make a call for a command with this message. -/
def Calling (d : Daemon) (m : Message) (c : AdapterCall) : Prop :=
  ∃ r next command, d.running = some r ∧ r.job.command? = some command ∧ command.message = m ∧
    r.rest = .call (.adapter c) next

/-- What is left of a command's job makes only calls that are valid for its message. -/
def CallsValid (job : Job) (rest : JobProgram) : Prop :=
  ∀ command, job.command? = some command → rest.Calls (Op.ValidFor command.message)

/-- It does so from the start, live and replayed alike, and to its end. -/
theorem jobRules_callsValid : JobRules (fun _ _ => True) (fun _ => True) CallsValid where
  suspend := by simp [CallsValid, Job.command?]
  resume := by simp [CallsValid, Job.command?]
  reconnect := by simp [CallsValid, Job.command?]
  parked _ := trivial
  live {d message spec} _ hfind t := by
    rintro command ⟨⟩
    exact (uses_validFor hfind).bind (fun _ => uses_pure _) t
  replay {command spec} _ hfind t := by
    rintro _ ⟨⟩
    exact (uses_validFor hfind).bind (fun _ => uses_pure _) t
  called _ h command hcommand := (h command hcommand).2 _
  ticked time h command hcommand := (h command hcommand).2 time
  slept h command hcommand := (h command hcommand).2 ()

/-- Along every run. -/
theorem validFor_of_run {setup : Setup} {labels : List Label} {d : Daemon}
    (hrun : machine.run (boot setup) labels = some d) {m : Message} {c : AdapterCall}
    (h : d.Calling m c) : Op.ValidFor m (.adapter c) := by
  have hkept : JobsKept (fun _ => True) CallsValid d :=
    (JobsKept.stepStable jobRules_callsValid).run (JobsKept.boot setup)
      (machine.meets_of_forall fun _ _ => trivial) hrun
  obtain ⟨r, next, command, hrunning, hcommand, rfl, hrest⟩ := h
  have hcalls := hkept.running r hrunning command hcommand
  rw [hrest] at hcalls
  exact hcalls.1

/-- A message comes in, its job is taken, and both connection checks and the slot are passed. -/
def toFirstCall (m : Message) : List Label :=
  [.wire m, .workerTake, .workerCall (.ok true), .workerCall (.ok true), .workerClock 0]

/-- A message whose device id is passed on reaches the adapter with it. -/
theorem calling_of_targeted {m : Message} (h : m.Targeted) :
    ∃ d c, machine.run (boot {}) (toFirstCall m) = some d ∧ d.Calling m c ∧
      c.address? = some m.deviceId := by
  obtain ⟨type, deviceId, data⟩ := m
  rcases h with htype | htype | ⟨htype, code, rest, hdata, hknown⟩
  · obtain rfl : type = .cmdPowerOn := htype
    exact ⟨_, .isDeviceActive deviceId, rfl, ⟨_, _, _, rfl, rfl, rfl, rfl⟩, rfl⟩
  · obtain rfl : type = .cmdPowerOff := htype
    exact ⟨_, .isDeviceActive deviceId, rfl, ⟨_, _, _, rfl, rfl, rfl, rfl⟩, rfl⟩
  · obtain rfl : type = .cmdKey := htype
    obtain rfl : data = code :: rest := hdata
    have hcode : code = 0x71 ∨ code = 0x72 ∨ code = 0x73 ∨ code = 0x74 := by
      simp only [findKeyByCode, kKeyCodes, ne_eq, List.find?_eq_none, not_forall] at hknown
      obtain ⟨spec, hmem, hspec⟩ := hknown
      simp at hmem hspec
      rcases hmem with rfl | rfl | rfl | rfl <;> simp [← hspec]
    rcases hcode with rfl | rfl | rfl | rfl <;>
      exact ⟨_, .sendKeypress deviceId (.ofByte _) false, rfl, ⟨_, _, _, rfl, rfl, rfl, rfl⟩, rfl⟩

/-- **Addresses from the wire.** All calls made while a message is executed, at once or after a
suspension, have valid logical addresses in every run exactly when its device id is not passed
on or is a valid address itself. -/
theorem addresses_valid_iff (m : Message) :
    (∀ setup labels d c, machine.run (boot setup) labels = some d → d.Calling m c → c.Valid) ↔
      (m.Targeted → m.deviceId ≤ 15) := by
  constructor
  · intro hvalid htargeted
    obtain ⟨d, c, hrun, hcalling, haddress⟩ := calling_of_targeted htargeted
    exact hvalid _ _ d c hrun hcalling _ haddress
  · intro hbound setup labels d c hrun hcalling
    exact validFor_of_run hrun hcalling hbound

/-- A power command for device 200 is accepted and passed on. -/
theorem addresses_not_valid :
    ¬ ∀ (bytes : List UInt8) (m : Message), Message.deserialize bytes = some m →
      ∀ setup labels d c, machine.run (boot setup) labels = some d → d.Calling m c → c.Valid := by
  intro h
  obtain ⟨d, c, hrun, hcalling, haddress⟩ :=
    calling_of_targeted (m := ⟨.cmdPowerOn, 200, []⟩) (Or.inl rfl)
  have hvalid := h [4, 200] _ (by decide) _ _ d c hrun hcalling _ haddress
  exact absurd hvalid (by decide)

end Daemon

end CecControl
