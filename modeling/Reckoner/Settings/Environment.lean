import Reckoner.Data.Json
import Reckoner.Settings.Override

/-!
# Settings from the environment

A variable named `CALCYARD_` and a field, in letters of any case, gives that
field its text. The list of origins is written as JSON there; a text that is not
JSON is refused before anything else, and `null` gives no value. Named values
that are given besides the environment count before it.
-/

namespace Reckoner.Settings

/-- Why there are no settings. -/
inductive LoadError where
  | notJson (field : String)
  | deepJson (isList : Bool)
  | invalid (issues : List Issue)
deriving DecidableEq

/-- The wording for a field whose text is not JSON. -/
def notJsonMessage (field : String) : String :=
  "error parsing value for field \"" ++ field ++ "\" from source \"EnvSettingsSource\""

/-- The wording for a text that has a list or a mapping inside of too many
others. -/
def deepJsonMessage (isList : Bool) : String :=
  "maximum recursion depth exceeded while decoding a JSON " ++
    (if isList then "array" else "object") ++ " from a unicode string"

/-- What the names of the variables start with, in lower case. -/
def variableStart : String := "calcyard_"

/-- The last text of the variable of a field. -/
def variableText? (env : List (String × String)) (field : String) : Option String :=
  (env.reverse.find? fun v => Reading.lowered v.1 == variableStart ++ field).map (·.2)

/-- The origins of the environment: absent, or read as JSON. -/
def environmentOrigins (env : List (String × String)) : Except LoadError Fields :=
  match variableText? env "cors_origins" with
  | none => .ok []
  | some s =>
    match Json.read s with
    | .ok .null => .ok []
    | .ok d => .ok [("cors_origins", d)]
    | .error .malformed => .error (.notJson "cors_origins")
    | .error .deepList => .error (.deepJson true)
    | .error .deepMapping => .error (.deepJson false)

/-- The named values that the environment gives. -/
def environmentFields (env : List (String × String)) : Except LoadError Fields := do
  let origins ← environmentOrigins env
  let plain := (fieldNames.filter (· != "cors_origins")).filterMap fun name =>
    (variableText? env name).map fun s => (name, Datum.text s)
  pure (plain ++ origins)

/-- The settings of an environment and of named values. -/
def ofEnvironment (env : List (String × String)) (given : Fields) :
    Except LoadError Settings := do
  let environment ← environmentFields env
  (ofFields (environment ++ given)).mapError .invalid

end Reckoner.Settings
