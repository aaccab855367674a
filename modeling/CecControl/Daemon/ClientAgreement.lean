/-
# Client and daemon agree

The client's registry says which commands there are and how their arguments become a message; the
codec, the dispatch table, the key table and the handlers each say again what a message may be.
They agree: whatever the command line, the message the client sends is read back as it was, has a
row, addresses a device, and gets past the payload checks of whoever handles it.
-/

import CecControl.Common.ArgumentParser
import CecControl.Daemon.StandbyPolicy

namespace CecControl

/-- The daemon takes the message for what the client meant. The payload checks are those of the
standby policy and of the two handlers that read a payload: past them a handler is the operation
on the byte it was given. -/
structure Message.Agreed (m : Message) : Prop where
  decoded : deserialize m.serialize = some m
  dispatched : ∃ spec, findDispatchByType m.type = some spec
  addressed : m.deviceId ≤ 15
  standby : m.type = .cmdAutoStandby →
    ∀ policy : StandbyPolicy, (policy.apply m).2 = Daemon.respSuccess
  source : m.type = .cmdChangeSource →
    ∃ source rest, m.data = source :: rest ∧ handleChangeSource m = Ops.setSource source
  key : m.type = .cmdKey →
    ∃ code rest, m.data = code :: rest ∧ handleKey m = Ops.sendKey m.deviceId code

/-- Every command has a row. -/
theorem exists_dispatch_of_command {type : MessageType}
    (h : type ≠ .respSuccess ∧ type ≠ .respError) : ∃ spec, findDispatchByType type = some spec := by
  rw [← Option.isSome_iff_exists]
  cases type with
  | respSuccess => exact absurd rfl h.1
  | respError => exact absurd rfl h.2
  | _ => decide

/-- What the client's parsers build is what the daemon expects. -/
theorem Message.Built.agreed {m : Message} (h : m.Built) : m.Agreed where
  decoded := by
    apply deserialize_eq_some.mpr
    have hshort := h.short
    exact ⟨rfl, by rw [length_serialize, maxMessageSize]; omega⟩
  dispatched := exists_dispatch_of_command h.command
  addressed := h.deviceId
  standby := by
    intro htype policy
    have hdata : m.data ≠ [] := by simpa [PayloadFits, htype] using h.payload
    cases hcons : m.data with
    | nil => exact absurd hcons hdata
    | cons value rest => simp [StandbyPolicy.apply, hcons, Daemon.respSuccess]
  source := by
    intro htype
    have hdata : m.data ≠ [] := by simpa [PayloadFits, htype] using h.payload
    obtain ⟨source, rest, hcons⟩ := List.exists_cons_of_ne_nil hdata
    exact ⟨source, rest, hcons, by simp [handleChangeSource, hcons]⟩
  key := by
    intro htype
    have hpayload := h.payload
    simp only [PayloadFits, htype] at hpayload
    obtain ⟨code, rest, hcons, hknown⟩ := hpayload
    exact ⟨code, rest, hcons, by simp [handleKey, hcons, hknown]⟩

/-- The codec accepts exactly the well-formed datagrams and loses nothing in either direction,
and every message a command line makes is agreed on. -/
theorem client_daemon_agreement :
    (∀ bytes, (Message.deserialize bytes).isSome ↔
      2 ≤ bytes.length ∧ bytes.length ≤ maxMessageSize ∧
        ∃ type : MessageType, bytes.head? = some type.toByte) ∧
    (∀ bytes m, Message.deserialize bytes = some m → m.serialize = bytes) ∧
    (∀ m : Message, m.data.length ≤ maxMessageSize - 2 →
      Message.deserialize m.serialize = some m) ∧
    ∀ argv command socketPath,
      ArgumentParser.parse argv = .runClient command socketPath → command.Agreed := by
  refine ⟨fun bytes => Message.isSome_deserialize, ?_, ?_, ?_⟩
  · intro bytes m h
    exact (Message.deserialize_eq_some.mp h).1
  · intro m hlength
    apply Message.deserialize_eq_some.mpr
    unfold maxMessageSize at hlength ⊢
    exact ⟨rfl, by rw [Message.length_serialize]; omega⟩
  · intro argv command socketPath h
    obtain ⟨spec, hmem, positional, hparse⟩ := ArgumentParser.exists_parse_of_runClient h
    exact (built_of_mem_kCommands hmem hparse).agreed

/-- A command line with the socket option between the arguments. -/
theorem client_daemon_agreement_key :
    ArgumentParser.parse (["cec-control", "key", "red", "--socket-path=/tmp/s", "5"].map
        String.toList) = .runClient ⟨.cmdKey, 5, [0x72]⟩ "/tmp/s".toList ∧
      Message.Agreed ⟨.cmdKey, 5, [0x72]⟩ := by
  have hparse : ArgumentParser.parse
      (["cec-control", "key", "red", "--socket-path=/tmp/s", "5"].map String.toList) =
        .runClient ⟨.cmdKey, 5, [0x72]⟩ "/tmp/s".toList := by decide
  exact ⟨hparse, client_daemon_agreement.2.2.2 _ _ _ hparse⟩

end CecControl
