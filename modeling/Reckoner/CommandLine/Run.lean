import Reckoner.CommandLine.Command
import Reckoner.Console.Markup
import Reckoner.Console.Table
import Reckoner.Repl
import Reckoner.Settings.Override
import Reckoner.Yaml.Document

/-!
# Running a command

`CommandLine.run` maps arguments, the files they may name, and the text of the
standard input to an outcome: what is printed, the exit code, the server that is
to be started, and the defect that ended the run, if one did. Misuse prints
nothing on the standard output and has the exit code 2; an expression without a
value has the exit code 1.
-/

namespace Reckoner.CommandLine

/-- What stands at a path. -/
inductive File where
  | missing
  | directory
  | contents (text : String)

/-- What ends a run out of turn. -/
inductive Defect where
  | unreadable (cause : Yaml.Error)
  | notSettings
  | directory
  | markup (fault : Console.MarkupFault)
  | refusal (cause : Editor.Refusal)
deriving DecidableEq

/-- A server that is to be started. -/
structure Server where
  host : String
  port : Int
  reload : Bool
deriving DecidableEq

/-- The outcome of a run. -/
structure Outcome where
  exitCode : Nat := 0
  output : String := ""
  server : Option Server := none
  defect : Option Defect := none
deriving DecidableEq

namespace Outcome

/-- The outcome of arguments that ask for nothing that can be done. -/
def misuse : Outcome := { exitCode := 2 }

/-- The outcome of a defect. -/
def ofDefect (d : Defect) (output : String) : Outcome :=
  { exitCode := 1, output, defect := some d }

end Outcome

/-! ### Settings -/

/-- The overrides in a file; there are none if it is missing. -/
def fileOverrides : File → Except Defect Datum
  | .missing => .ok (.map [])
  | .directory => .error .directory
  | .contents text => (Yaml.read text).mapError .unreadable

/-- The overrides of a run: those of the file, and the log level. Only a mapping
from names can be applied. -/
def overrides (file : File) (logLevel : Option String) : Except Defect Fields := do
  let d ← fileOverrides file
  match d.fields? with
  | none => .error .notSettings
  | some fields =>
    match logLevel with
    | none | some "" => .ok fields
    | some level => .ok (fields ++ [("log_level", .text level)])

/-- What is printed for an issue. -/
def issueText (i : Issue) : String :=
  Console.printed ("✗ Invalid setting " ++ i.location ++ ": " ++ i.complaint.message)

/-! ### Commands -/

/-- The outcome of an expression without a value. -/
def refuse : Fault → Outcome
  | .failure cause => { exitCode := 1, output := Repl.failureText cause }
  | cause => .ofDefect (.refusal (.fault cause)) ""

/-- Print the value of an expression. -/
def runEval (s : Settings) (expression : String) : Outcome :=
  match evaluate expression s.resultPrecision with
  | .ok value => { output := Console.printed value.text }
  | .error cause => refuse cause

/-- The table of some tokens. -/
def tokenTable (tokens : List Token) : Console.Table :=
  { title := "Tokens", heading := ["#", "Kind", "Text"],
    rows := tokens.mapIdx fun i t => [toString i, t.kind.name, t.text] }

/-- Print the stages of an evaluation. -/
def runRpn (s : Settings) (expression : String) : Outcome :=
  match trace expression s.resultPrecision with
  | .ok t =>
    { output := (tokenTable t.tokens).printed ++
        Console.printed ("  Postfix: " ++ Token.render t.ordered) ++
        Console.printed ("  Result:  " ++ t.value.text) }
  | .error cause => refuse cause

/-- Run a session on the lines of the standard input. -/
def runRepl (s : Settings) (input : String) : Outcome :=
  let session := Repl.run s (Text.inputLines input)
  match session.fault with
  | none => { output := session.output }
  | some cause => .ofDefect (.refusal cause) session.output

/-- The server that the arguments and the settings give. An empty host and a
port of zero stand for those of the settings. -/
def serverOf (s : Settings) (host : Option String) (port : Option Int) (reload : Bool) : Server :=
  { host := match host with
      | none | some "" => s.host
      | some host => host
    port := match port with
      | none | some 0 => s.port
      | some port => port
    reload }

/-- Announce a server and start it. The host is printed as a marked-up text. -/
def runServe (server : Server) : Outcome :=
  match Console.plainText ("[bold green]Starting calcyard server on " ++ server.host ++ ":" ++
      toString server.port ++ "[/]") with
  | .ok text => { output := Console.printed text, server := some server }
  | .error fault => .ofDefect (.markup fault) ""

/-- Run a command. -/
def runCommand (s : Settings) (input : String) : Command → Outcome
  | .eval expression => runEval s expression
  | .rpn expression => runRpn s expression
  | .repl => runRepl s input
  | .serve host port reload => runServe (serverOf s host port reload)

/-- What is printed for the switch that asks for help. -/
def helpText : String :=
  "Usage: calcyard [OPTIONS] COMMAND [ARGS]...\n\n" ++
  "  -c, --config PATH     YAML settings file\n" ++
  "  -l, --log-level TEXT  Log level\n\n" ++
  "  eval EXPRESSION  Evaluate an expression and print the result.\n" ++
  "  rpn EXPRESSION   Show the tokens and postfix order of an expression.\n" ++
  "  repl             Interactive session.\n" ++
  "  serve            Start the API server: --host, --port, --reload.\n"

/-- What some arguments lead to before a command runs: its settings and the
command itself, or the outcome at once. -/
def prepare (s : Settings) (files : String → File) (args : List String) :
    Except Outcome (Settings × Command) := do
  match readCommon args with
  | .help => throw { output := helpText }
  | .misuse => throw .misuse
  | .request common =>
    let file := match common.config with
      | some path => files path
      | none => .missing
    match overrides file common.logLevel with
    | .error d => throw (.ofDefect d "")
    | .ok fields =>
      -- Settings that are not overridden are not read again.
      match if fields.isEmpty then .ok s else s.apply fields with
      | .error issues => throw { exitCode := 2, output := String.join (issues.map issueText) }
      | .ok changed =>
        match readCommand common.command common.arguments with
        | .help => throw { output := helpText }
        | .misuse => throw .misuse
        | .request command => pure (changed, command)

/-- Run the command that some arguments ask for. -/
def run (s : Settings) (files : String → File) (input : String) (args : List String) : Outcome :=
  match prepare s files args with
  | .ok (settings, command) => runCommand settings input command
  | .error outcome => outcome

end Reckoner.CommandLine
