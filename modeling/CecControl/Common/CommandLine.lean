/-
# What the command line accepts

The registry keeps with every command a line for the help, the syntax of its arguments, which the
parsers do not look at. Here it is read as a grammar: each parser accepts just what the line of its
command says, and builds the message that the arguments stand for, wherever the socket option
stands.
-/

import CecControl.Common.ArgumentParser

namespace CecControl

/-! ## The grammar -/

/-- What a word of a syntax stands for. -/
inductive Slot
  | oneOf (words : List Text)
  | deviceId
  | sourceId
  | keyName
  deriving DecidableEq

structure SyntaxItem where
  slot : Slot
  optional : Bool
  deriving DecidableEq

/-- Words in parentheses are a choice; what is no name of an argument stands for itself. -/
def readSlot (word : Text) : Slot :=
  if word = "DEVICE_ID".toList then .deviceId
  else if word = "SOURCE_ID".toList then .sourceId
  else if word = "NAME".toList then .keyName
  else if word.head? = some '(' then .oneOf (word.tail.dropLast.splitOn '|')
  else .oneOf [word]

/-- What stands in brackets may be left out. -/
def readItem (word : Text) : SyntaxItem :=
  if word.head? = some '[' then ⟨readSlot word.tail.dropLast, true⟩ else ⟨readSlot word, false⟩

def readSyntax (argSyntax : String) : List SyntaxItem :=
  ((argSyntax.toList.splitOn ' ').filter (· ≠ [])).map readItem

example : readSyntax "NAME [DEVICE_ID]" = [⟨.keyName, false⟩, ⟨.deviceId, true⟩] := by decide

/-- What a token is taken for. -/
inductive Argument
  | word (text : Text)
  | number (byte : UInt8)
  | key (code : UInt8)

/-- The token is as a whole an integer within the bound, and the byte is that integer. -/
def IsNumber (token : Text) (maxInclusive : ℕ) (byte : UInt8) : Prop :=
  IsInteger token byte.toNat ∧ byte.toNat ≤ maxInclusive

/-- A token fills a slot. -/
inductive Fills : Slot → Text → Argument → Prop
  | oneOf {words : List Text} {token : Text} (h : token ∈ words) :
      Fills (.oneOf words) token (.word token)
  | deviceId {token : Text} {id : UInt8} (h : IsNumber token 15 id) :
      Fills .deviceId token (.number id)
  | sourceId {token : Text} {source : UInt8} (h : IsNumber token 255 source) :
      Fills .sourceId token (.number source)
  | keyName {spec : KeySpec} (h : spec ∈ kKeyCodes) :
      Fills .keyName spec.name.toList (.key spec.code)

/-- The tokens, in order, match a syntax. -/
inductive Matches : List SyntaxItem → List Text → List Argument → Prop
  | nil : Matches [] [] []
  | cons {slot : Slot} {optional : Bool} {items : List SyntaxItem} {token : Text}
      {tokens : List Text} {argument : Argument} {arguments : List Argument}
      (hslot : Fills slot token argument) (hitems : Matches items tokens arguments) :
      Matches (⟨slot, optional⟩ :: items) (token :: tokens) (argument :: arguments)
  | leftOut {slot : Slot} {items : List SyntaxItem} {tokens : List Text}
      {arguments : List Argument} (hitems : Matches items tokens arguments) :
      Matches (⟨slot, true⟩ :: items) tokens arguments

/-- The message that arguments stand for, by the type that heads the row of the registry. -/
inductive Denotes : MessageType → List Argument → Message → Prop
  | powerOn (id : UInt8) :
      Denotes .cmdPowerOn [.word "on".toList, .number id] ⟨.cmdPowerOn, id, []⟩
  | powerOff (id : UInt8) :
      Denotes .cmdPowerOn [.word "off".toList, .number id] ⟨.cmdPowerOff, id, []⟩
  | volumeUp (id : UInt8) :
      Denotes .cmdVolumeUp [.word "up".toList, .number id] ⟨.cmdVolumeUp, id, []⟩
  | volumeDown (id : UInt8) :
      Denotes .cmdVolumeUp [.word "down".toList, .number id] ⟨.cmdVolumeDown, id, []⟩
  | volumeMute (id : UInt8) :
      Denotes .cmdVolumeUp [.word "mute".toList, .number id] ⟨.cmdVolumeMute, id, []⟩
  | source (id source : UInt8) :
      Denotes .cmdChangeSource [.number id, .number source] ⟨.cmdChangeSource, id, [source]⟩
  | key (code : UInt8) : Denotes .cmdKey [.key code] ⟨.cmdKey, 0, [code]⟩
  | keyFor (code id : UInt8) :
      Denotes .cmdKey [.key code, .number id] ⟨.cmdKey, id, [code]⟩
  | standbyOn : Denotes .cmdAutoStandby [.word "on".toList] ⟨.cmdAutoStandby, 0, [1]⟩
  | standbyOff : Denotes .cmdAutoStandby [.word "off".toList] ⟨.cmdAutoStandby, 0, [0]⟩
  | restart : Denotes .cmdRestartAdapter [] ⟨.cmdRestartAdapter, 0, []⟩
  | suspend : Denotes .cmdSuspend [] ⟨.cmdSuspend, 0, []⟩
  | resume : Denotes .cmdResume [] ⟨.cmdResume, 0, []⟩

/-- The tokens are a command of the row, which stands for the message. -/
def Accepts (spec : CommandSpec) (tokens : List Text) (m : Message) : Prop :=
  ∃ arguments, Matches (readSyntax spec.argSyntax) tokens arguments ∧ Denotes spec.type arguments m

/-! ## Numbers and words -/

/-- A number is read as it is written. -/
theorem parseBoundedUint8_iff {token : Text} {maxInclusive : ℕ} {what : String} {byte : UInt8}
    (hbound : maxInclusive < 256) :
    parseBoundedUint8 token maxInclusive what = .ok byte ↔ IsNumber token maxInclusive byte := by
  unfold IsNumber
  constructor
  · intro h
    have hle := le_of_parseBoundedUint8 hbound h
    unfold parseBoundedUint8 at h
    split_ifs at h with hempty
    split at h
    · next value consumed hstoi =>
        split_ifs at h with hconsumed hrange
        cases h
        obtain rfl : consumed = token.length := not_not.mp hconsumed
        have hvalue : ((UInt8.ofNat value.toNat).toNat : ℤ) = value := by
          rw [UInt8.toNat_ofNat']
          omega
        rw [hvalue]
        exact ⟨(stoi_whole_iff.mp hstoi).1, hle⟩
    · cases h
  · rintro ⟨hinteger, hle⟩
    have hstoi := stoi_whole_iff.mpr ⟨hinteger, by omega, by omega⟩
    have hempty : ¬ token.isEmpty = true := by
      intro hnil
      rw [List.isEmpty_iff.mp hnil] at hstoi
      cases hstoi
    unfold parseBoundedUint8
    rw [if_neg hempty, hstoi]
    dsimp only
    rw [if_neg (not_not.mpr rfl), if_neg (by omega), Int.toNat_natCast, UInt8.ofNat_toNat]

theorem parseDeviceId_iff {token : Text} {id : UInt8} :
    parseDeviceId token = .ok id ↔ IsNumber token 15 id :=
  parseBoundedUint8_iff (by decide)

/-- A key is found just under its name. -/
theorem findKeyByName_iff {name : Text} {spec : KeySpec} :
    findKeyByName name = some spec ↔ spec ∈ kKeyCodes ∧ spec.name.toList = name := by
  constructor
  · intro h
    exact ⟨List.mem_of_find?_eq_some h, by simpa using List.find?_some h⟩
  · rintro ⟨hspec, rfl⟩
    simp only [kKeyCodes, List.mem_cons, List.not_mem_nil, or_false] at hspec
    rcases hspec with rfl | rfl | rfl | rfl <;> decide

@[simp]
theorem requireArity_eq_ok {args : List Text} {expected : ℕ} {command argSyntax : String}
    {value : Unit} : requireArity args expected command argSyntax = .ok value ↔
      args.length = expected := by
  unfold requireArity
  split_ifs with h <;> simp [h]

/-- An action word is looked up. -/
theorem actionType_eq_ok {actions : List (String × MessageType)} {action : Text}
    {what expected : String} {type : MessageType} :
    actionType actions action what expected = .ok type ↔
      ∃ entry, actions.find? (fun entry => entry.1.toList == action) = some entry ∧
        entry.2 = type := by
  unfold actionType
  cases actions.find? fun entry => entry.1.toList == action with
  | none => simp
  | some entry => simp

/-! ## Matching -/

theorem matches_nil_iff {args : List Text} {arguments : List Argument} :
    Matches [] args arguments ↔ args = [] ∧ arguments = [] := by
  constructor
  · intro h
    cases h
    exact ⟨rfl, rfl⟩
  · rintro ⟨rfl, rfl⟩
    exact .nil

theorem matches_cons_iff {slot : Slot} {optional : Bool} {items : List SyntaxItem}
    {args : List Text} {arguments : List Argument} :
    Matches (⟨slot, optional⟩ :: items) args arguments ↔
      (∃ token tokens argument others, args = token :: tokens ∧ arguments = argument :: others ∧
        Fills slot token argument ∧ Matches items tokens others) ∨
      optional = true ∧ Matches items args arguments := by
  constructor
  · intro h
    cases h with
    | cons hslot hitems => exact .inl ⟨_, _, _, _, rfl, rfl, hslot, hitems⟩
    | leftOut hitems => exact .inr ⟨rfl, hitems⟩
  · rintro (⟨token, tokens, argument, others, rfl, rfl, hslot, hitems⟩ | ⟨rfl, hitems⟩)
    · exact .cons hslot hitems
    · exact .leftOut hitems

/-- One argument. -/
theorem matches_one_iff {slot : Slot} {args : List Text} {arguments : List Argument} :
    Matches [⟨slot, false⟩] args arguments ↔
      ∃ token argument, args = [token] ∧ arguments = [argument] ∧ Fills slot token argument := by
  simp only [matches_cons_iff, matches_nil_iff, Bool.false_eq_true, false_and, or_false]
  constructor
  · rintro ⟨token, _, argument, _, rfl, rfl, hslot, rfl, rfl⟩
    exact ⟨token, argument, rfl, rfl, hslot⟩
  · rintro ⟨token, argument, rfl, rfl, hslot⟩
    exact ⟨token, [], argument, [], rfl, rfl, hslot, rfl, rfl⟩

/-- Two arguments. -/
theorem matches_two_iff {first second : Slot} {args : List Text} {arguments : List Argument} :
    Matches [⟨first, false⟩, ⟨second, false⟩] args arguments ↔
      ∃ token token' argument argument', args = [token, token'] ∧
        arguments = [argument, argument'] ∧ Fills first token argument ∧
        Fills second token' argument' := by
  rw [matches_cons_iff]
  simp only [matches_one_iff, Bool.false_eq_true, false_and, or_false]
  constructor
  · rintro ⟨token, _, argument, _, rfl, rfl, hfirst, token', argument', rfl, rfl, hsecond⟩
    exact ⟨token, token', argument, argument', rfl, rfl, hfirst, hsecond⟩
  · rintro ⟨token, token', argument, argument', rfl, rfl, hfirst, hsecond⟩
    exact ⟨token, _, argument, _, rfl, rfl, hfirst, token', argument', rfl, rfl, hsecond⟩

/-! ## The commands -/

/-- A command of an action word and a device. -/
theorem parseAction_iff {actions : List (String × MessageType)} {command expected : String}
    {row : MessageType} {args : List Text} {m : Message}
    (hwords : ∀ entry ∈ actions,
      actions.find? (fun other => other.1.toList == entry.1.toList) = some entry)
    (hdenotes : ∀ arguments m, Denotes row arguments m ↔ ∃ entry ∈ actions, ∃ id,
      arguments = [.word entry.1.toList, .number id] ∧ m = ⟨entry.2, id, []⟩) :
    parseAction actions command expected args = .ok m ↔
      ∃ arguments, Matches [⟨.oneOf (actions.map fun entry => entry.1.toList), false⟩,
        ⟨.deviceId, false⟩] args arguments ∧ Denotes row arguments m := by
  unfold parseAction
  simp only [except_bind_eq_ok, requireArity_eq_ok, actionType_eq_ok, parseDeviceId_iff,
    matches_two_iff, hdenotes]
  constructor
  · rintro ⟨-, hlength, _, ⟨entry, hentry, rfl⟩, id, hid, hm⟩
    obtain ⟨word, token, rfl⟩ := List.length_eq_two.mp hlength
    have hmem := List.mem_of_find?_eq_some hentry
    have hword : entry.1.toList = word := by simpa using List.find?_some hentry
    cases hm
    refine ⟨_, ⟨word, token, .word word, .number id, rfl, rfl, .oneOf ?_, .deviceId hid⟩,
      entry, hmem, id, ?_, rfl⟩
    · exact List.mem_map.mpr ⟨entry, hmem, hword⟩
    · rw [hword]
  · rintro ⟨_, ⟨word, token, _, _, rfl, rfl, hword, hid⟩, entry, hmem, id, heq, rfl⟩
    cases heq
    cases hword
    cases hid with
    | deviceId hid =>
        exact ⟨(), rfl, entry.2, ⟨entry, hwords entry hmem, rfl⟩, id, hid, rfl⟩

theorem parsePower_iff {args : List Text} {m : Message} :
    parsePower args = .ok m ↔
      ∃ arguments, Matches (readSyntax "(on|off) DEVICE_ID") args arguments ∧
        Denotes .cmdPowerOn arguments m := by
  apply parseAction_iff (by decide)
  intro arguments m
  constructor
  · intro h
    cases h with
    | powerOn id => exact ⟨_, .head _, id, rfl, rfl⟩
    | powerOff id => exact ⟨_, .tail _ (.head _), id, rfl, rfl⟩
  · rintro ⟨entry, hmem, id, rfl, rfl⟩
    simp only [List.mem_cons, List.not_mem_nil, or_false] at hmem
    rcases hmem with rfl | rfl
    · exact .powerOn id
    · exact .powerOff id

theorem parseVolume_iff {args : List Text} {m : Message} :
    parseVolume args = .ok m ↔
      ∃ arguments, Matches (readSyntax "(up|down|mute) DEVICE_ID") args arguments ∧
        Denotes .cmdVolumeUp arguments m := by
  apply parseAction_iff (by decide)
  intro arguments m
  constructor
  · intro h
    cases h with
    | volumeUp id => exact ⟨_, .head _, id, rfl, rfl⟩
    | volumeDown id => exact ⟨_, .tail _ (.head _), id, rfl, rfl⟩
    | volumeMute id => exact ⟨_, .tail _ (.tail _ (.head _)), id, rfl, rfl⟩
  · rintro ⟨entry, hmem, id, rfl, rfl⟩
    simp only [List.mem_cons, List.not_mem_nil, or_false] at hmem
    rcases hmem with rfl | rfl | rfl
    · exact .volumeUp id
    · exact .volumeDown id
    · exact .volumeMute id

theorem parseSource_iff {args : List Text} {m : Message} :
    parseSource args = .ok m ↔
      ∃ arguments, Matches (readSyntax "DEVICE_ID SOURCE_ID") args arguments ∧
        Denotes .cmdChangeSource arguments m := by
  rw [show readSyntax "DEVICE_ID SOURCE_ID" = [⟨.deviceId, false⟩, ⟨.sourceId, false⟩] by decide]
  unfold parseSource
  simp only [except_bind_eq_ok, requireArity_eq_ok, parseDeviceId_iff, matches_two_iff,
    parseBoundedUint8_iff (show kMaxSourceId < 256 by decide)]
  constructor
  · rintro ⟨-, hlength, id, hid, source, hsource, hm⟩
    obtain ⟨token, token', rfl⟩ := List.length_eq_two.mp hlength
    cases hm
    exact ⟨_, ⟨token, token', _, _, rfl, rfl, .deviceId hid, .sourceId hsource⟩, .source id source⟩
  · rintro ⟨_, ⟨token, token', _, _, rfl, rfl, hid, hsource⟩, hdenotes⟩
    cases hdenotes with
    | source id source =>
        cases hid with
        | deviceId hid =>
            cases hsource with
            | sourceId hsource => exact ⟨(), rfl, id, hid, source, hsource, rfl⟩

theorem parseAutoStandby_iff {args : List Text} {m : Message} :
    parseAutoStandby args = .ok m ↔
      ∃ arguments, Matches (readSyntax "(on|off)") args arguments ∧
        Denotes .cmdAutoStandby arguments m := by
  rw [show readSyntax "(on|off)" = [⟨.oneOf ["on".toList, "off".toList], false⟩] by decide]
  unfold parseAutoStandby
  simp only [except_bind_eq_ok, requireArity_eq_ok, matches_one_iff]
  constructor
  · rintro ⟨-, hlength, hm⟩
    obtain ⟨word, rfl⟩ := List.length_eq_one_iff.mp hlength
    split_ifs at hm with hon hoff
    · cases hm
      obtain rfl : word = "on".toList := hon
      exact ⟨_, ⟨_, _, rfl, rfl, .oneOf (.head _)⟩, .standbyOn⟩
    · cases hm
      obtain rfl : word = "off".toList := hoff
      exact ⟨_, ⟨_, _, rfl, rfl, .oneOf (.tail _ (.head _))⟩, .standbyOff⟩
  · rintro ⟨_, ⟨word, _, rfl, rfl, hword⟩, hdenotes⟩
    cases hdenotes with
    | standbyOn =>
        cases hword
        exact ⟨(), rfl, rfl⟩
    | standbyOff =>
        cases hword
        exact ⟨(), rfl, rfl⟩

theorem parseBare_iff {type : MessageType} {command : String} {args : List Text} {m : Message}
    (hdenotes : ∀ arguments m, Denotes type arguments m ↔ arguments = [] ∧ m = ⟨type, 0, []⟩) :
    parseBare type command args = .ok m ↔
      ∃ arguments, Matches (readSyntax "") args arguments ∧ Denotes type arguments m := by
  rw [show readSyntax "" = [] by decide]
  unfold parseBare requireNoArgs
  simp only [except_bind_eq_ok, matches_nil_iff, hdenotes]
  constructor
  · rintro ⟨_, hargs, hm⟩
    split_ifs at hargs with hempty
    cases hm
    exact ⟨[], ⟨List.isEmpty_iff.mp hempty, rfl⟩, rfl, rfl⟩
  · rintro ⟨_, ⟨rfl, rfl⟩, -, rfl⟩
    exact ⟨(), rfl, rfl⟩

theorem parseKey_iff {args : List Text} {m : Message} :
    parseKey args = .ok m ↔
      ∃ arguments, Matches (readSyntax "NAME [DEVICE_ID]") args arguments ∧
        Denotes .cmdKey arguments m := by
  rw [show readSyntax "NAME [DEVICE_ID]" = [⟨.keyName, false⟩, ⟨.deviceId, true⟩] by decide]
  constructor
  · intro h
    unfold parseKey at h
    by_cases harity : args.isEmpty ∨ args.length > 2
    · rw [if_pos harity] at h
      cases h
    · rw [if_neg harity] at h
      cases hfind : findKeyByName (args.getD 0 []) with
      | none =>
          rw [hfind] at h
          cases h
      | some spec =>
          rw [hfind] at h
          obtain ⟨id, hid, hm⟩ := except_bind_eq_ok.mp h
          cases hm
          obtain ⟨hspec, hname⟩ := findKeyByName_iff.mp hfind
          match args, harity, hname, hid with
          | [name], _, hname, hid =>
              obtain rfl : spec.name.toList = name := hname
              cases hid
              exact ⟨_, .cons (.keyName hspec) (.leftOut .nil), .key spec.code⟩
          | [name, token], _, hname, hid =>
              obtain rfl : spec.name.toList = name := hname
              have hid : IsNumber token 15 id := parseDeviceId_iff.mp hid
              exact ⟨_, .cons (.keyName hspec) (.cons (.deviceId hid) .nil), .keyFor spec.code id⟩
          | _ :: _ :: _ :: rest, harity, _, _ =>
              exact (harity (.inr (by simp))).elim
  · rintro ⟨arguments, hmatches, hdenotes⟩
    cases hmatches with
    | cons hname hrest =>
        cases hname with
        | @keyName spec hspec =>
            have hfind := findKeyByName_iff.mpr ⟨hspec, rfl⟩
            cases hrest with
            | leftOut hnil =>
                cases hnil
                cases hdenotes
                simp [parseKey, hfind, except_bind_eq_ok, pure, Except.pure]
            | cons hid hnil =>
                cases hnil
                cases hdenotes with
                | keyFor code id =>
                    cases hid with
                    | deviceId hid =>
                        have hparse := parseDeviceId_iff.mpr hid
                        simp [parseKey, hfind, hparse, except_bind_eq_ok, pure, Except.pure]

/-- Every parser of the registry accepts its syntax, and nothing else. -/
theorem parse_iff_accepts {spec : CommandSpec} (hspec : spec ∈ kCommands) {args : List Text}
    {m : Message} : spec.parse args = .ok m ↔ Accepts spec args m := by
  simp only [kCommands, List.mem_cons, List.not_mem_nil, or_false] at hspec
  rcases hspec with rfl | rfl | rfl | rfl | rfl | rfl | rfl | rfl
  · exact parsePower_iff
  · exact parseVolume_iff
  · exact parseSource_iff
  · exact parseKey_iff
  · exact parseAutoStandby_iff
  all_goals
    apply parseBare_iff
    intro arguments m
    constructor
    · intro h
      cases h
      exact ⟨rfl, rfl⟩
    · rintro ⟨rfl, rfl⟩
      constructor

/-! ## The socket option -/

namespace ArgumentParser

/-- The token gives the socket option. -/
def isSocketFlag (arg : Text) : Bool := kSocketPathPrefix.isPrefixOf arg

def socketFlags (args : List Text) : List Text := args.filter isSocketFlag

/-- The other tokens, in order. -/
def positionals (args : List Text) : List Text := args.filter fun arg => !isSocketFlag arg

/-- The socket path that the options of a line set: there is none, or one with a value. -/
def SetsSocketPath (flags : List Text) (socketPath : Text) : Prop :=
  flags = [] ∧ socketPath = [] ∨ socketPath ≠ [] ∧ flags = [kSocketPathPrefix ++ socketPath]

theorem isSocketFlag_iff {arg : Text} :
    isSocketFlag arg = true ↔ ∃ value, arg = kSocketPathPrefix ++ value := by
  unfold isSocketFlag
  rw [List.isPrefixOf_iff_prefix]
  exact exists_congr fun _ => eq_comm

theorem extractClientFlags_flag (value : Text) (args positional : List Text) (socketPath : Text) :
    extractClientFlags ((kSocketPathPrefix ++ value) :: args) positional socketPath =
      if value.isEmpty then .error "Error: --socket-path= requires a value"
      else if !socketPath.isEmpty then .error "Error: --socket-path= specified multiple times"
      else extractClientFlags args positional value := by
  have hflag : kSocketPathPrefix.isPrefixOf (kSocketPathPrefix ++ value) = true :=
    isSocketFlag_iff.mpr ⟨value, rfl⟩
  rw [extractClientFlags, if_pos hflag, List.drop_left]

theorem extractClientFlags_other {arg : Text} (hflag : ¬ isSocketFlag arg = true)
    (args positional : List Text) (socketPath : Text) :
    extractClientFlags (arg :: args) positional socketPath =
      extractClientFlags args (positional ++ [arg]) socketPath := by
  rw [extractClientFlags]
  exact if_neg hflag

/-- Only the order of the options among themselves matters, and that of the other tokens. -/
theorem extractClientFlags_eq (args positional : List Text) (socketPath : Text) :
    extractClientFlags args positional socketPath =
      (extractClientFlags (socketFlags args) [] socketPath).map fun extracted =>
        (positional ++ positionals args, extracted.2) := by
  induction args generalizing positional socketPath with
  | nil => simp [socketFlags, positionals, extractClientFlags, Except.map]
  | cons arg args ih =>
      by_cases hflag : isSocketFlag arg = true
      · have hargs : socketFlags (arg :: args) = arg :: socketFlags args :=
          List.filter_cons_of_pos hflag
        have hrest : positionals (arg :: args) = positionals args :=
          List.filter_cons_of_neg (by simp [hflag])
        obtain ⟨value, rfl⟩ := isSocketFlag_iff.mp hflag
        rw [hargs, hrest, extractClientFlags_flag, extractClientFlags_flag]
        split_ifs
        · rfl
        · rfl
        · exact ih positional value
      · have hargs : socketFlags (arg :: args) = socketFlags args := List.filter_cons_of_neg hflag
        have hrest : positionals (arg :: args) = arg :: positionals args :=
          List.filter_cons_of_pos (by simp [hflag])
        rw [hargs, hrest, extractClientFlags_other hflag, ih, List.append_assoc,
          List.singleton_append]

/-- Once there is a path, no option is accepted. -/
theorem extractClientFlags_again {flags : List Text}
    (hflags : ∀ arg ∈ flags, isSocketFlag arg = true) {socketPath : Text}
    (hpath : socketPath ≠ []) (extracted : List Text × Text) :
    extractClientFlags flags [] socketPath = .ok extracted ↔
      flags = [] ∧ extracted = ([], socketPath) := by
  cases flags with
  | nil => simp [extractClientFlags, eq_comm]
  | cons arg flags =>
      obtain ⟨value, rfl⟩ := isSocketFlag_iff.mp (hflags arg List.mem_cons_self)
      rw [extractClientFlags_flag]
      split_ifs <;> simp_all

/-- Of options alone, one with a value is accepted. -/
theorem extractClientFlags_flags {flags : List Text}
    (hflags : ∀ arg ∈ flags, isSocketFlag arg = true) (extracted : List Text × Text) :
    extractClientFlags flags [] [] = .ok extracted ↔
      extracted.1 = [] ∧ SetsSocketPath flags extracted.2 := by
  obtain ⟨positional, path⟩ := extracted
  unfold SetsSocketPath
  cases flags with
  | nil => simp [extractClientFlags, eq_comm]
  | cons arg flags =>
      obtain ⟨value, rfl⟩ := isSocketFlag_iff.mp (hflags arg List.mem_cons_self)
      rw [extractClientFlags_flag]
      by_cases hvalue : value = []
      · subst hvalue
        constructor
        · intro h
          cases h
        · rintro ⟨-, ⟨⟨⟩, -⟩ | ⟨hpath, hflag⟩⟩
          have hvalue := List.append_cancel_left (List.cons.inj hflag).1
          exact (hpath hvalue.symm).elim
      · have hagain := extractClientFlags_again (fun arg h => hflags arg (.tail _ h)) hvalue
        rw [if_neg (by simpa using hvalue), if_neg (by decide), hagain, Prod.mk.injEq]
        constructor
        · rintro ⟨rfl, rfl, rfl⟩
          exact ⟨rfl, .inr ⟨hvalue, rfl⟩⟩
        · rintro ⟨rfl, ⟨⟨⟩, -⟩ | ⟨-, hflag⟩⟩
          obtain ⟨hcancel, hflags⟩ := List.cons.inj hflag
          exact ⟨hflags, rfl, (List.append_cancel_left hcancel).symm⟩

/-- Extraction succeeds with the other tokens and the path set. -/
theorem extractClientFlags_iff (args positional : List Text) (path : Text) :
    extractClientFlags args [] [] = .ok (positional, path) ↔
      positional = positionals args ∧ SetsSocketPath (socketFlags args) path := by
  have hflags : ∀ arg ∈ socketFlags args, isSocketFlag arg = true := fun arg h =>
    (List.mem_filter.mp h).2
  rw [extractClientFlags_eq]
  constructor
  · intro h
    cases hextracted : extractClientFlags (socketFlags args) [] [] with
    | error message =>
        rw [hextracted] at h
        cases h
    | ok extracted =>
        rw [hextracted] at h
        cases h
        exact ⟨List.nil_append _, ((extractClientFlags_flags hflags extracted).mp hextracted).2⟩
  · rintro ⟨rfl, hpath⟩
    rw [(extractClientFlags_flags hflags ([], path)).mpr ⟨rfl, hpath⟩]
    rfl

/-! ## The command line -/

/-- A registered name leads to its parser. -/
theorem parse_command {first : Text} {spec : CommandSpec} (hfirst : findByName first = some spec)
    (program : Text) (args : List Text) :
    parse (program :: first :: args) = parseClientCommand spec args := by
  have hspec : spec ∈ kCommands := List.mem_of_find?_eq_some hfirst
  have hname : spec.name.toList = first := by simpa using List.find?_some hfirst
  have hothers : ∀ spec ∈ kCommands, spec.name.toList ≠ "help".toList ∧
      spec.name.toList ≠ "daemon".toList ∧ ¬ isHelpFlag spec.name.toList = true := by decide
  obtain ⟨hhelp, hdaemon, hflag⟩ := hothers spec hspec
  rw [hname] at hhelp hdaemon hflag
  unfold parse
  dsimp only
  rw [if_neg hhelp, if_neg hdaemon, if_neg hflag, hfirst]

/-- A command's line is an error unless the options and the parser accept it. -/
theorem parseClientCommand_cases (spec : CommandSpec) (args : List Text) :
    (∃ message, parseClientCommand spec args = .parseError message) ∨
    ∃ m socketPath, parseClientCommand spec args = .runClient m socketPath ∧
      SetsSocketPath (socketFlags args) socketPath ∧ spec.parse (positionals args) = .ok m := by
  unfold parseClientCommand
  cases hextracted : extractClientFlags args [] [] with
  | error message => exact .inl ⟨message, rfl⟩
  | ok extracted =>
      obtain ⟨positional, socketPath⟩ := extracted
      obtain ⟨rfl, hpath⟩ := (extractClientFlags_iff args positional socketPath).mp hextracted
      cases hm : spec.parse (positionals args) with
      | error err => exact .inl ⟨"Error: " ++ err, by simp only [hm]⟩
      | ok m => exact .inr ⟨m, socketPath, by simp only [hm], hpath, rfl⟩

/-- **The command line.** A command is accepted just if its tokens hold no second socket option
and none without a value, and the other tokens match the syntax of the command; then the message
is the one they stand for, and the path the one set. Any other line is a parse error. Where the
option stands makes no difference. -/
theorem command_line_accepted_iff {first : Text} {spec : CommandSpec}
    (hfirst : findByName first = some spec) (program : Text) (args : List Text) :
    (∀ m socketPath, parse (program :: first :: args) = .runClient m socketPath ↔
      SetsSocketPath (socketFlags args) socketPath ∧ Accepts spec (positionals args) m) ∧
    ((¬ ∃ m socketPath, SetsSocketPath (socketFlags args) socketPath ∧
        Accepts spec (positionals args) m) →
      ∃ message, parse (program :: first :: args) = .parseError message) ∧
    ∀ args', socketFlags args' = socketFlags args → positionals args' = positionals args →
      parse (program :: first :: args') = parse (program :: first :: args) := by
  have hparse := parse_command hfirst program
  simp only [hparse, ← parse_iff_accepts (List.mem_of_find?_eq_some hfirst)]
  refine ⟨fun m socketPath => ?_, fun hnot => ?_, fun args' hflags hothers => ?_⟩
  · constructor
    · intro h
      obtain ⟨message, herror⟩ | ⟨m', socketPath', hrun, hpath, hm⟩ :=
        parseClientCommand_cases spec args
      · rw [herror] at h
        cases h
      · rw [hrun] at h
        cases h
        exact ⟨hpath, hm⟩
    · rintro ⟨hpath, hm⟩
      rw [parseClientCommand, (extractClientFlags_iff args _ socketPath).mpr ⟨rfl, hpath⟩]
      simp only [hm]
  · obtain herror | ⟨m, socketPath, -, haccepted⟩ := parseClientCommand_cases spec args
    · exact herror
    · exact (hnot ⟨m, socketPath, haccepted⟩).elim
  · rw [parseClientCommand, parseClientCommand, extractClientFlags_eq, hflags, hothers,
      ← extractClientFlags_eq]

/-- A key for the audio system, sent over a socket of its own. -/
theorem command_line_accepted_iff_key :
    parse (["cec-control", "key", "--socket-path=/tmp/s", "red", " +05"].map String.toList) =
      .runClient ⟨.cmdKey, 5, [0x72]⟩ "/tmp/s".toList := by
  have hfirst : findByName "key".toList = some kCommands[3] := rfl
  have hred : (⟨"red", 0x72⟩ : KeySpec) ∈ kKeyCodes := by decide
  have hid : IsNumber " +05".toList 15 5 := parseDeviceId_iff.mp (by decide)
  have hmatches : Matches (readSyntax "NAME [DEVICE_ID]") ["red".toList, " +05".toList]
      [.key 0x72, .number 5] := by
    rw [show readSyntax "NAME [DEVICE_ID]" = [⟨.keyName, false⟩, ⟨.deviceId, true⟩] by decide]
    exact .cons (.keyName hred) (.cons (.deviceId hid) .nil)
  apply ((command_line_accepted_iff hfirst _ _).1 _ _).mpr
  exact ⟨.inr ⟨by decide, by decide⟩, _, hmatches, .keyFor 0x72 5⟩

end ArgumentParser

end CecControl
