/-
# Wire messages

A datagram is a type byte, a device id and a payload. Parsing accepts exactly
the byte strings of admissible length whose first byte names a message type.
-/

import Mathlib.Data.List.Basic

namespace CecControl

inductive MessageType
  | cmdVolumeUp
  | cmdVolumeDown
  | cmdVolumeMute
  | cmdPowerOn
  | cmdPowerOff
  | cmdChangeSource
  | cmdRestartAdapter
  | cmdSuspend
  | cmdResume
  | cmdAutoStandby
  | cmdKey
  | respSuccess
  | respError
  deriving DecidableEq, Repr

/-- The enumerator's value. -/
def MessageType.toByte : MessageType → UInt8
  | .cmdVolumeUp => 1
  | .cmdVolumeDown => 2
  | .cmdVolumeMute => 3
  | .cmdPowerOn => 4
  | .cmdPowerOff => 5
  | .cmdChangeSource => 6
  | .cmdRestartAdapter => 7
  | .cmdSuspend => 8
  | .cmdResume => 9
  | .cmdAutoStandby => 10
  | .cmdKey => 11
  | .respSuccess => 100
  | .respError => 101

/-- The known message type with this value, if there is one; `isKnownMessageType`
and the cast that follows it, in one step. -/
def MessageType.ofByte? (raw : UInt8) : Option MessageType :=
  [.cmdVolumeUp, .cmdVolumeDown, .cmdVolumeMute, .cmdPowerOn, .cmdPowerOff,
    .cmdChangeSource, .cmdRestartAdapter, .cmdSuspend, .cmdResume, .cmdAutoStandby,
    .cmdKey, .respSuccess, .respError].find? fun type => type.toByte == raw

def maxMessageSize : ℕ := 1024

structure Message where
  type : MessageType
  deviceId : UInt8 := 0
  data : List UInt8 := []
  deriving DecidableEq, Repr

theorem MessageType.ofByte?_toByte (type : MessageType) : ofByte? type.toByte = some type := by
  cases type <;> decide

/-- A byte is the value of at most one type, the one it is read as. -/
theorem MessageType.ofByte?_eq_some {raw : UInt8} {type : MessageType} :
    ofByte? raw = some type ↔ type.toByte = raw := by
  constructor
  · intro h
    have hbeq := List.find?_some h
    exact eq_of_beq hbeq
  · rintro rfl
    exact ofByte?_toByte type

namespace Message

def serialize (m : Message) : List UInt8 := m.type.toByte :: m.deviceId :: m.data

def deserialize (bytes : List UInt8) : Option Message :=
  if bytes.length < 2 ∨ bytes.length > maxMessageSize then none
  else
    match bytes with
    | raw :: deviceId :: data => (MessageType.ofByte? raw).map fun type => ⟨type, deviceId, data⟩
    | _ => none

@[simp] theorem length_serialize (m : Message) : m.serialize.length = m.data.length + 2 := rfl

/-- Parsing undoes serializing, and nothing else is parsed. -/
theorem deserialize_eq_some {bytes : List UInt8} {m : Message} :
    deserialize bytes = some m ↔ m.serialize = bytes ∧ bytes.length ≤ maxMessageSize := by
  unfold deserialize
  constructor
  · intro h
    split_ifs at h with hlength
    split at h
    · next raw deviceId data =>
        obtain ⟨type, htype, rfl⟩ := Option.map_eq_some_iff.mp h
        exact ⟨by rw [serialize, MessageType.ofByte?_eq_some.mp htype], by omega⟩
    · cases h
  · rintro ⟨rfl, hlength⟩
    rw [length_serialize] at hlength ⊢
    rw [if_neg (by omega)]
    simp only [serialize, MessageType.ofByte?_toByte, Option.map_some]

/-- What is accepted: a datagram of admissible length that starts with a known type. -/
theorem isSome_deserialize {bytes : List UInt8} :
    (deserialize bytes).isSome ↔
      2 ≤ bytes.length ∧ bytes.length ≤ maxMessageSize ∧
        ∃ type : MessageType, bytes.head? = some type.toByte := by
  rw [Option.isSome_iff_exists]
  constructor
  · rintro ⟨m, h⟩
    obtain ⟨rfl, hlength⟩ := deserialize_eq_some.mp h
    exact ⟨by rw [length_serialize]; omega, hlength, m.type, rfl⟩
  · rintro ⟨htwo, hlength, type, htype⟩
    match bytes with
    | raw :: deviceId :: data =>
        cases htype
        exact ⟨⟨type, deviceId, data⟩, deserialize_eq_some.mpr ⟨rfl, hlength⟩⟩

end Message

end CecControl
