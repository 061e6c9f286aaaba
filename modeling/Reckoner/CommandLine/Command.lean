import Reckoner.CommandLine.Switches
import Reckoner.Number.Integer

/-!
# Commands

The arguments before the command name are common to all commands: a file of
settings and a log level. They are read first, so that the settings are known
when the arguments of the command are read.
-/

namespace Reckoner.CommandLine

/-- The commands by name. -/
inductive CommandName where
  | eval | rpn | repl | serve
deriving DecidableEq

/-- The command of a name. -/
def CommandName.ofString? : String → Option CommandName
  | "eval" => some .eval
  | "rpn" => some .rpn
  | "repl" => some .repl
  | "serve" => some .serve
  | _ => none

/-- A command with its arguments. -/
inductive Command where
  | eval (expression : String)
  | rpn (expression : String)
  | repl
  | serve (host : Option String) (port : Option Int) (reload : Bool)
deriving DecidableEq

/-- What comes before the arguments of a command. -/
structure Common where
  config : Option String
  logLevel : Option String
  command : CommandName
  arguments : List String
deriving DecidableEq

/-- What some arguments ask for: help, nothing that can be done, or `α`. -/
inductive Asked (α : Type) where
  | help
  | misuse
  | request (a : α)
deriving DecidableEq

/-- The switch that asks for help. -/
def helpSwitch : Switch := ⟨"help", none, false⟩

/-- The switches before the command. -/
def commonSwitches : List Switch :=
  [⟨"config", some 'c', true⟩, ⟨"log-level", some 'l', true⟩, helpSwitch]

/-- Read the arguments up to the command name. -/
def readCommon (args : List String) : Asked Common :=
  match readSwitches commonSwitches false args with
  | none => .misuse
  | some given =>
    if (given.value? "help").isSome then .help
    else
      match given.others with
      | [] => .misuse
      | name :: arguments =>
        match CommandName.ofString? name with
        | none => .misuse
        | some command =>
          .request { config := given.value? "config", logLevel := given.value? "log-level",
                     command, arguments }

/-- Read the one argument of a command on an expression. -/
def readExpression (make : String → Command) (given : Given) : Asked Command :=
  match given.others with
  | [expression] => .request (make expression)
  | _ => .misuse

/-- Read the arguments of the server. -/
def readServe (given : Given) : Asked Command :=
  let reload := (given.value? "reload").isSome
  let host := given.value? "host"
  match given.others, given.value? "port" with
  | [], none => .request (.serve host none reload)
  | [], some text =>
    match Integer.ofText 10 text with
    | .ok port => .request (.serve host (some port) reload)
    | .error _ => .misuse
  | _, _ => .misuse

/-- The switches of a command. -/
def CommandName.switches : CommandName → List Switch
  | .serve => [⟨"host", some 'h', true⟩, ⟨"port", some 'p', true⟩, ⟨"reload", some 'r', false⟩,
      helpSwitch]
  | _ => [helpSwitch]

/-- Read the arguments of a command. -/
def readCommand (name : CommandName) (args : List String) : Asked Command :=
  match readSwitches name.switches true args with
  | none => .misuse
  | some given =>
    if (given.value? "help").isSome then .help
    else
      match name with
      | .eval => readExpression .eval given
      | .rpn => readExpression .rpn given
      | .repl => if given.others.isEmpty then .request .repl else .misuse
      | .serve => readServe given

end Reckoner.CommandLine
