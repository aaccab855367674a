/-
# The command line

`ArgumentParser::parse` decides what the program is to do: show help, run the daemon, or send one
command to it. For a command, the socket option is picked out of the tokens wherever it stands,
and what is left goes to the command's own parser.
-/

import CecControl.Common.CommandRegistry

namespace CecControl

inductive HelpTarget
  | general
  | client
  | daemon
  deriving DecidableEq, Repr

/-- What the command line asks for. -/
inductive Action
  | parseError (message : String)
  | showHelp (target : HelpTarget)
  | runClient (command : Message) (socketPathOverride : Text)
  | runDaemon (verbose : Bool) (logFile configFile : Text)
  deriving DecidableEq, Repr

namespace ArgumentParser

def kSocketPathPrefix : Text := "--socket-path=".toList

def isHelpFlag (arg : Text) : Bool := arg == "--help".toList || arg == "-h".toList

/-- Unknown tokens fall back to the general help. -/
def helpTargetFromToken (token : Text) : HelpTarget :=
  if token = "client".toList then .client
  else if token = "daemon".toList then .daemon
  else .general

/-- The options after `daemon`, in order, with what has been read so far. -/
def parseDaemonOptions : List Text → (verbose : Bool) → (logFile configFile : Text) → Action
  | [], verbose, logFile, configFile => .runDaemon verbose logFile configFile
  | arg :: rest, verbose, logFile, configFile =>
      if arg = "--verbose".toList ∨ arg = "-v".toList then
        parseDaemonOptions rest true logFile configFile
      else if arg = "--log".toList ∨ arg = "-l".toList then
        match rest with
        | [] => .parseError ("Error: " ++ String.ofList arg ++ " requires a file path")
        | value :: rest =>
            if value.isEmpty then .parseError "Error: empty log file path provided"
            else parseDaemonOptions rest verbose value configFile
      else if arg = "--config".toList ∨ arg = "-c".toList then
        match rest with
        | [] => .parseError ("Error: " ++ String.ofList arg ++ " requires a file path")
        | value :: rest =>
            if value.isEmpty then .parseError "Error: empty config file path provided"
            else parseDaemonOptions rest verbose logFile value
      else if isHelpFlag arg then .showHelp .daemon
      else if arg.head? = some '-' then
        .parseError ("Error: unknown daemon option: " ++ String.ofList arg)
      else
        .parseError ("Error: daemon takes no positional arguments (got '" ++ String.ofList arg ++
          "')")

/-- Pick the socket option out of the tokens: the others in order, and its value, empty where it
is not given. -/
def extractClientFlags : List Text → (positional : List Text) → (socketPath : Text) →
    Except String (List Text × Text)
  | [], positional, socketPath => .ok (positional, socketPath)
  | arg :: rest, positional, socketPath =>
      if kSocketPathPrefix.isPrefixOf arg then
        let value := arg.drop kSocketPathPrefix.length
        if value.isEmpty then .error "Error: --socket-path= requires a value"
        else if !socketPath.isEmpty then .error "Error: --socket-path= specified multiple times"
        else extractClientFlags rest positional value
      else extractClientFlags rest (positional ++ [arg]) socketPath

def parseClientCommand (spec : CommandSpec) (argsAfterCommand : List Text) : Action :=
  match extractClientFlags argsAfterCommand [] [] with
  | .error message => .parseError message
  | .ok (positional, socketPath) =>
      match spec.parse positional with
      | .error err => .parseError ("Error: " ++ err)
      | .ok command => .runClient command socketPath

/-- `ArgumentParser::parse`; the first element of `argv` is the program's name. -/
def parse (argv : List Text) : Action :=
  match argv with
  | program :: first :: args =>
      if first = "help".toList then
        match args with
        | [] => .showHelp .general
        | token :: _ => .showHelp (helpTargetFromToken token)
      else if first = "daemon".toList then parseDaemonOptions args false [] []
      else if isHelpFlag first then
        match args with
        | [] => .showHelp .general
        | extra :: _ =>
            .parseError ("Error: unexpected argument after " ++ String.ofList first ++ ": '" ++
              String.ofList extra ++ "'")
      else
        match findByName first with
        | some spec => parseClientCommand spec args
        | none =>
            .parseError ("Error: unknown command: '" ++ String.ofList first ++ "'\nRun '" ++
              String.ofList program ++ " help' for usage.")
  | _ => .showHelp .general

example :
    parse (["cec-control", "key", "--socket-path=/tmp/s", "red", "5"].map String.toList) =
      .runClient ⟨.cmdKey, 5, [0x72]⟩ "/tmp/s".toList := by decide

/-- The daemon's options never make a client. -/
theorem parseDaemonOptions_ne_runClient (args : List Text) (verbose : Bool)
    (logFile configFile : Text) (command : Message) (socketPath : Text) :
    parseDaemonOptions args verbose logFile configFile ≠ .runClient command socketPath := by
  fun_induction parseDaemonOptions args verbose logFile configFile <;> simp_all

/-- A client's action comes from the parser of a registered command. -/
theorem exists_parse_of_runClient {argv : List Text} {command : Message} {socketPath : Text}
    (h : parse argv = .runClient command socketPath) :
    ∃ spec ∈ kCommands, ∃ positional, spec.parse positional = .ok command := by
  unfold parse at h
  split at h
  · next program first args =>
      split_ifs at h
      · split at h <;> cases h
      · exact (parseDaemonOptions_ne_runClient _ _ _ _ _ _ h).elim
      · split at h <;> cases h
      · split at h
        · next spec hfind =>
            refine ⟨spec, List.mem_of_find?_eq_some hfind, ?_⟩
            unfold parseClientCommand at h
            split at h
            · cases h
            · next positional _ _ =>
                split at h
                · cases h
                · next hparse =>
                    cases h
                    exact ⟨positional, hparse⟩
        · cases h
  · cases h

end ArgumentParser

end CecControl
