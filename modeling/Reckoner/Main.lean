import Reckoner.CommandLine.Run
import Reckoner.Settings.Environment

/-!
# The command line program

Reads the settings of the environment, the arguments and the file that they
name, and runs the command. A session is run line by line, so that each prompt
is seen before its line is typed. The program has no server of its own: the
command that starts one only announces its address.
-/

open Reckoner

namespace Reckoner.Program

/-- The variables that the settings are read from. -/
def environment : IO (List (String × String)) := do
  let names := Settings.fieldNames.map fun name => ("calcyard_" ++ name).toUpper
  let read ← names.mapM fun name => do pure ((← IO.getEnv name).map (name, ·))
  pure (read.filterMap id)

/-- What stands at a path. What is there but cannot be read as a text counts as
a directory. -/
def fileAt (path : String) : IO CommandLine.File := do
  try
    pure (.contents (← IO.FS.readFile path))
  catch
    | .noFileOrDirectory .. => pure .missing
    | _ => pure .directory

/-- The path of the file of settings. -/
def configPath? (args : List String) : Option String :=
  match CommandLine.readCommon args with
  | .request common => common.config
  | _ => none

/-- Run a session, one line at a time. -/
partial def session (precision : Int) (e : Editor) : IO UInt32 := do
  let stdout ← IO.getStdout
  stdout.putStr (Repl.prompt e)
  stdout.flush
  let line ← (← IO.getStdin).getLine
  if line.isEmpty then
    stdout.putStr "\n"
    return 0
  let turn := Repl.applyLine precision e line
  stdout.putStr turn.output
  match turn.editor, turn.fault with
  | some next, _ => session precision next
  | none, none => return 0
  | none, some cause => do
    IO.eprintln cause.message
    return 1

/-- What is said about a defect. -/
def defectText : CommandLine.Defect → String
  | .unreadable (.content fault) => fault.message
  | .unreadable _ => "the settings file is not YAML"
  | .notSettings => "the settings file does not hold named values"
  | .directory => "the settings file cannot be read"
  | .markup .notOpen => "a tag is closed that is not open"
  | .markup .notLiteral => "the parameters of an action are not a literal"
  | .markup .style => "a part of a colour is not a number"
  | .refusal cause => cause.message

/-- Print an outcome. -/
def finish (outcome : CommandLine.Outcome) : IO UInt32 := do
  IO.print outcome.output
  if outcome.exitCode = 2 ∧ outcome.output = "" then IO.eprint CommandLine.helpText
  if let some defect := outcome.defect then IO.eprintln (defectText defect)
  return UInt32.ofNat outcome.exitCode

/-- Run the program. -/
def run (args : List String) : IO UInt32 := do
  match Settings.ofEnvironment (← environment) [] with
  | .error (.notJson field) => do
    IO.eprintln (Settings.notJsonMessage field)
    return 1
  | .error (.deepJson isList) => do
    IO.eprintln (Settings.deepJsonMessage isList)
    return 1
  | .error (.invalid issues) => do
    IO.eprint (String.join (issues.map CommandLine.issueText))
    return 1
  | .ok settings => do
    let file ← match configPath? args with
      | some path => fileAt path
      | none => pure .missing
    match CommandLine.prepare settings (fun _ => file) args with
    | .error outcome => finish outcome
    | .ok (s, .repl) => do
      IO.print Repl.banner
      session s.resultPrecision (Repl.start s)
    | .ok (s, command) => finish (CommandLine.runCommand s "" command)

end Reckoner.Program

/-- The entry point. -/
def main (args : List String) : IO UInt32 := Reckoner.Program.run args
