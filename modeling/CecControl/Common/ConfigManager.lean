/-
# The configuration file

`ConfigManager` reads a file line by line: comments and blank lines are skipped, a line in
brackets names the section that follows, and every other line with an equals sign assigns a
value to a key. A later assignment to the same key of the same section replaces an earlier one,
and a line that is none of these is ignored.

A map of the source is a function here that may be undefined: what is stored under a name is all
that can be asked of it.
-/

import CecControl.Common.Text

namespace CecControl

/-- The pieces `std::getline` reads: what follows the last delimiter is a piece if it is not
empty. -/
def getlines (delimiter : Char) (text : Text) : List Text :=
  let parts := text.splitOn delimiter
  if parts.getLast? = some [] then parts.dropLast else parts

def lines (text : Text) : List Text := getlines '\n' text

example : lines "a\n\nb".toList = ["a".toList, [], "b".toList] := by decide

abbrev SectionContent := Text → Option Text

abbrev SectionMap := Text → Option SectionContent

/-- `m_config[section][key] = value`; a section that is not there yet is made. -/
def SectionMap.assign (config : SectionMap) (section_ key value : Text) : SectionMap := fun name =>
  if name = section_ then
    some fun other => if other = key then some value else (config section_).bind (· other)
  else config name

/-- The loader between two lines: the section it is in, and what it has stored. -/
structure Loading where
  currentSection : Text := []
  config : SectionMap := fun _ => none

/-- A key and its value, split at the first equals sign and trimmed. -/
def splitAssignment (line : Text) : Option (Text × Text) :=
  match line.dropWhile (· != '=') with
  | [] => none
  | _ :: value => some (trim (line.takeWhile (· != '=')), trim value)

/-- One line of the file. -/
def readLine (state : Loading) (line : Text) : Loading :=
  let line := trim line
  match line.head? with
  | none => state
  | some first =>
      if first = '#' ∨ first = ';' then state
      else if first = '[' ∧ line.getLast? = some ']' then
        { state with currentSection := line.tail.dropLast }
      else
        match splitAssignment line with
        | some (key, value) =>
            { state with config := state.config.assign state.currentSection key value }
        | none => state

/-- `ConfigManager::load` into an empty store. -/
def load (text : Text) : SectionMap := ((lines text).foldl readLine {}).config

namespace SectionMap

/-- What is stored under a key of a section. -/
def lookup (config : SectionMap) (section_ key : Text) : Option Text :=
  (config section_).bind (· key)

def getString (config : SectionMap) (section_ key defaultValue : Text) : Text :=
  (config.lookup section_ key).getD defaultValue

def getBool (config : SectionMap) (section_ key : Text) (defaultValue : Bool) : Bool :=
  let value := (config.getString section_ key
    (if defaultValue then "true".toList else "false".toList)).map Char.toLower
  value == "true".toList || value == "yes".toList || value == "1".toList || value == "on".toList

/-- A value that `std::stoi` does not take counts as missing. -/
def getInt (config : SectionMap) (section_ key : Text) (defaultValue : ℤ) : ℤ :=
  let value := config.getString section_ key []
  if value.isEmpty then defaultValue
  else
    match stoi value with
    | .ok (number, _) => number
    | .error _ => defaultValue

end SectionMap

example :
    (load "[Throttler]\nBaseIntervalMs = 250 ; slow TV\n".toList).getInt "Throttler".toList
      "BaseIntervalMs".toList 200 = 250 := by decide

end CecControl
