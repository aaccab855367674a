/-
# The client's command registry

One row per command of the command line: its name, the message types it can build, and the parser
for its arguments. Parsers own their arity checks and report a text for the user; numbers go
through `std::stoi` with a check that the whole token was consumed.

The remote-control keys are here too: the client looks them up by name, the daemon by code.
-/

import CecControl.Common.Messages
import CecControl.Common.Text

namespace CecControl

/-! ## Keys -/

/-- Name and wire code of a remote-control key. -/
structure KeySpec where
  name : String
  code : UInt8
  deriving DecidableEq, Repr

def kKeyCodes : List KeySpec :=
  [⟨"blue", 0x71⟩, ⟨"red", 0x72⟩, ⟨"green", 0x73⟩, ⟨"yellow", 0x74⟩]

def findKeyByName (name : Text) : Option KeySpec :=
  kKeyCodes.find? fun spec => spec.name.toList == name

def findKeyByCode (code : UInt8) : Option KeySpec :=
  kKeyCodes.find? fun spec => spec.code == code

def formatKeyNamesList (separator : String) : String :=
  separator.intercalate (kKeyCodes.map KeySpec.name)

/-- A key that is found by its name is found by its code. -/
theorem findKeyByCode_of_findKeyByName {name : Text} {spec : KeySpec}
    (h : findKeyByName name = some spec) : findKeyByCode spec.code ≠ none := by
  have hmem : spec ∈ kKeyCodes := List.mem_of_find?_eq_some h
  simp only [kKeyCodes, List.mem_cons, List.not_mem_nil, or_false] at hmem
  rcases hmem with rfl | rfl | rfl | rfl <;> decide

/-! ## Arguments -/

def kMaxLogicalAddress : ℕ := 15

def kMaxSourceId : ℕ := 255

/-- A token that is a number from zero to the bound, and nothing else. -/
def parseBoundedUint8 (token : Text) (maxInclusive : ℕ) (what : String) : Except String UInt8 :=
  if token.isEmpty then .error ("Empty value for " ++ what)
  else
    match stoi token with
    | .ok (value, consumed) =>
        if consumed ≠ token.length then
          .error ("Invalid " ++ what ++ ": '" ++ String.ofList token ++ "'")
        else if value < 0 ∨ value > maxInclusive then
          .error (what ++ " must be between 0 and " ++ toString maxInclusive)
        else .ok (UInt8.ofNat value.toNat)
    | .error _ => .error ("Invalid " ++ what ++ ": '" ++ String.ofList token ++ "'")

def parseDeviceId (token : Text) : Except String UInt8 :=
  parseBoundedUint8 token kMaxLogicalAddress "device ID"

def requireArity (args : List Text) (expected : ℕ) (command argSyntax : String) :
    Except String Unit :=
  if args.length = expected then .ok ()
  else .error (command ++ " requires " ++ toString expected ++ " argument(s): " ++ argSyntax)

def requireNoArgs (args : List Text) (command : String) : Except String Unit :=
  if args.isEmpty then .ok () else .error (command ++ " takes no arguments")

/-! ## Commands -/

/-- The message type an action word stands for, or the complaint about it. -/
def actionType (actions : List (String × MessageType)) (action : Text) (what expected : String) :
    Except String MessageType :=
  match actions.find? fun entry => entry.1.toList == action with
  | some entry => .ok entry.2
  | none =>
      .error ("Invalid " ++ what ++ " action: '" ++ String.ofList action ++ "' (expected " ++
        expected ++ ")")

/-- A command of an action word and a device: `volume` and `power`. -/
def parseAction (actions : List (String × MessageType)) (command expected : String)
    (args : List Text) : Except String Message := do
  requireArity args 2 command ("(" ++ expected ++ ") DEVICE_ID")
  let type ← actionType actions (args.getD 0 []) command expected
  let id ← parseDeviceId (args.getD 1 [])
  return ⟨type, id, []⟩

def parseVolume : List Text → Except String Message :=
  parseAction [("up", .cmdVolumeUp), ("down", .cmdVolumeDown), ("mute", .cmdVolumeMute)] "volume"
    "up|down|mute"

def parsePower : List Text → Except String Message :=
  parseAction [("on", .cmdPowerOn), ("off", .cmdPowerOff)] "power" "on|off"

def parseSource (args : List Text) : Except String Message := do
  requireArity args 2 "source" "DEVICE_ID SOURCE_ID"
  let id ← parseDeviceId (args.getD 0 [])
  let source ← parseBoundedUint8 (args.getD 1 []) kMaxSourceId "source ID"
  return ⟨.cmdChangeSource, id, [source]⟩

/-- The only command with an optional argument: the device is the TV where it is left out. -/
def parseKey (args : List Text) : Except String Message :=
  if args.isEmpty ∨ args.length > 2 then
    .error "key requires 1 or 2 arguments: NAME [DEVICE_ID]"
  else
    match findKeyByName (args.getD 0 []) with
    | none =>
        .error ("Invalid key name: '" ++ String.ofList (args.getD 0 []) ++ "' (expected " ++
          formatKeyNamesList "|" ++ ")")
    | some spec =>
        (if args.length = 2 then parseDeviceId (args.getD 1 []) else .ok 0) >>= fun id =>
          return ⟨.cmdKey, id, [spec.code]⟩

def parseAutoStandby (args : List Text) : Except String Message := do
  requireArity args 1 "auto-standby" "(on|off)"
  let value := args.getD 0 []
  if value = "on".toList then return ⟨.cmdAutoStandby, 0, [1]⟩
  if value = "off".toList then return ⟨.cmdAutoStandby, 0, [0]⟩
  throw ("Invalid auto-standby value: '" ++ String.ofList value ++ "' (expected on|off)")

/-- A command without arguments. -/
def parseBare (type : MessageType) (command : String) (args : List Text) :
    Except String Message := do
  requireNoArgs args command
  return ⟨type, 0, []⟩

def parseRestart : List Text → Except String Message := parseBare .cmdRestartAdapter "restart"

def parseSuspend : List Text → Except String Message := parseBare .cmdSuspend "suspend"

def parseResume : List Text → Except String Message := parseBare .cmdResume "resume"

/-! ## The registry -/

structure CommandSpec where
  type : MessageType
  types : List MessageType
  name : String
  argSyntax : String
  help : String
  parse : List Text → Except String Message

def kCommands : List CommandSpec :=
  [⟨.cmdPowerOn, [.cmdPowerOn, .cmdPowerOff], "power", "(on|off) DEVICE_ID",
      "Power a device on or off", parsePower⟩,
    ⟨.cmdVolumeUp, [.cmdVolumeUp, .cmdVolumeDown, .cmdVolumeMute], "volume",
      "(up|down|mute) DEVICE_ID", "Control volume on the audio system", parseVolume⟩,
    ⟨.cmdChangeSource, [.cmdChangeSource], "source", "DEVICE_ID SOURCE_ID",
      "Change the active input source", parseSource⟩,
    ⟨.cmdKey, [.cmdKey], "key", "NAME [DEVICE_ID]", "Send a CEC remote-control key press",
      parseKey⟩,
    ⟨.cmdAutoStandby, [.cmdAutoStandby], "auto-standby", "(on|off)",
      "Suspend this PC when the TV powers off", parseAutoStandby⟩,
    ⟨.cmdRestartAdapter, [.cmdRestartAdapter], "restart", "", "Restart the CEC adapter",
      parseRestart⟩,
    ⟨.cmdSuspend, [.cmdSuspend], "suspend", "",
      "Prepare for system sleep (run pre-sleep CEC actions)", parseSuspend⟩,
    ⟨.cmdResume, [.cmdResume], "resume", "",
      "Restore after system wake (run post-wake CEC actions)", parseResume⟩]

def findByName (name : Text) : Option CommandSpec :=
  kCommands.find? fun spec => spec.name.toList == name

def findByType (type : MessageType) : Option CommandSpec :=
  kCommands.find? fun spec => spec.types.contains type

/-! ## What the parsers build -/

/-- What a handler of the daemon expects of the payload of its command. -/
def Message.PayloadFits (m : Message) : Prop :=
  match m.type with
  | .cmdChangeSource | .cmdAutoStandby => m.data ≠ []
  | .cmdKey => ∃ code rest, m.data = code :: rest ∧ findKeyByCode code ≠ none
  | _ => True

/-- A message as the client builds them: a command for a valid address, with a payload of at
most one byte that fits. -/
structure Message.Built (m : Message) : Prop where
  command : m.type ≠ .respSuccess ∧ m.type ≠ .respError
  deviceId : m.deviceId ≤ 15
  short : m.data.length ≤ 1
  payload : m.PayloadFits

/-- A parsed number is within its bound. -/
theorem le_of_parseBoundedUint8 {token : Text} {maxInclusive : ℕ} {what : String} {value : UInt8}
    (hbound : maxInclusive < 256) (h : parseBoundedUint8 token maxInclusive what = .ok value) :
    value.toNat ≤ maxInclusive := by
  unfold parseBoundedUint8 at h
  split_ifs at h with hempty
  split at h
  · split_ifs at h with hconsumed hrange
    cases h
    rw [UInt8.toNat_ofNat']
    omega
  · cases h

theorem parseDeviceId_le {token : Text} {id : UInt8} (h : parseDeviceId token = .ok id) : id ≤ 15 :=
  UInt8.le_iff_toNat_le.mpr (le_of_parseBoundedUint8 (by decide) h)

/-- Peeling a computation that may fail. -/
theorem except_bind_eq_ok {ε α β : Type} {x : Except ε α} {f : α → Except ε β} {result : β} :
    (x >>= f) = .ok result ↔ ∃ value, x = .ok value ∧ f value = .ok result := by
  cases x with
  | error e => exact ⟨fun h => (by cases h), by rintro ⟨_, ⟨⟩, _⟩⟩
  | ok value => exact ⟨fun h => ⟨value, rfl, h⟩, by rintro ⟨_, ⟨⟩, h⟩; exact h⟩

/-- Action words stand for types whose payload is not looked at. -/
theorem built_of_parseAction {actions : List (String × MessageType)} {command expected : String}
    {args : List Text} {m : Message}
    (hactions : ∀ entry ∈ actions, ∀ id, id ≤ 15 → Message.Built ⟨entry.2, id, []⟩)
    (h : parseAction actions command expected args = .ok m) : m.Built := by
  unfold parseAction at h
  simp only [except_bind_eq_ok] at h
  obtain ⟨_, -, type, htype, id, hid, hm⟩ := h
  cases hm
  unfold actionType at htype
  split at htype
  · next entry hentry =>
      cases htype
      exact hactions entry (List.mem_of_find?_eq_some hentry) id (parseDeviceId_le hid)
  · cases htype

theorem built_of_parseSource {args : List Text} {m : Message} (h : parseSource args = .ok m) :
    m.Built := by
  unfold parseSource at h
  simp only [except_bind_eq_ok] at h
  obtain ⟨_, -, id, hid, source, -, hm⟩ := h
  cases hm
  exact ⟨by simp, parseDeviceId_le hid, Nat.le_refl 1, List.cons_ne_nil _ _⟩

theorem built_of_parseKey {args : List Text} {m : Message} (h : parseKey args = .ok m) :
    m.Built := by
  unfold parseKey at h
  by_cases harity : args.isEmpty ∨ args.length > 2
  · rw [if_pos harity] at h
    cases h
  · rw [if_neg harity] at h
    split at h
    · cases h
    · next spec hspec =>
        obtain ⟨id, hid, hm⟩ := except_bind_eq_ok.mp h
        cases hm
        refine ⟨by simp, ?_, Nat.le_refl 1, spec.code, [], rfl, findKeyByCode_of_findKeyByName hspec⟩
        split_ifs at hid
        · exact parseDeviceId_le hid
        · cases hid
          exact UInt8.zero_le

theorem built_of_parseAutoStandby {args : List Text} {m : Message}
    (h : parseAutoStandby args = .ok m) : m.Built := by
  unfold parseAutoStandby at h
  simp only [except_bind_eq_ok] at h
  obtain ⟨_, -, h⟩ := h
  split_ifs at h <;> cases h <;> exact ⟨by simp, by decide, Nat.le_refl 1, List.cons_ne_nil _ _⟩

theorem built_of_parseBare {type : MessageType} {command : String} {args : List Text} {m : Message}
    (hbuilt : Message.Built ⟨type, 0, []⟩) (h : parseBare type command args = .ok m) : m.Built := by
  unfold parseBare at h
  simp only [except_bind_eq_ok] at h
  obtain ⟨_, -, hm⟩ := h
  cases hm
  exact hbuilt

/-- Every command of the registry builds such messages. -/
theorem built_of_mem_kCommands {spec : CommandSpec} (hspec : spec ∈ kCommands) {args : List Text}
    {m : Message} (h : spec.parse args = .ok m) : m.Built := by
  simp only [kCommands, List.mem_cons, List.not_mem_nil, or_false] at hspec
  rcases hspec with rfl | rfl | rfl | rfl | rfl | rfl | rfl | rfl
  · refine built_of_parseAction ?_ h
    intro entry hentry id hid
    simp only [List.mem_cons, List.not_mem_nil, or_false] at hentry
    rcases hentry with rfl | rfl <;> exact ⟨by simp, hid, Nat.zero_le 1, trivial⟩
  · refine built_of_parseAction ?_ h
    intro entry hentry id hid
    simp only [List.mem_cons, List.not_mem_nil, or_false] at hentry
    rcases hentry with rfl | rfl | rfl <;> exact ⟨by simp, hid, Nat.zero_le 1, trivial⟩
  · exact built_of_parseSource h
  · exact built_of_parseKey h
  · exact built_of_parseAutoStandby h
  all_goals
    refine built_of_parseBare ?_ h
    exact ⟨by simp, by decide, Nat.zero_le 1, trivial⟩

end CecControl
