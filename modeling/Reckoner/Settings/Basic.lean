import Reckoner.Data.Reading
import Reckoner.Log

/-!
# Settings

The settings of the calculator and its servers, with their defaults. `Settings.Field`
lists the fields; a field has a name and a type, and its value is read from data and
written as data.
-/

namespace Reckoner

/-- The settings of the calculator. -/
structure Settings where
  appName : String := "calcyard"
  debug : Bool := false
  logLevel : Log.Level := .info
  logJson : Bool := false
  resultPrecision : Int := 12
  previewPlaceholder : String := "…"
  errorPlaceholder : String := "Error"
  host : String := "127.0.0.1"
  port : Int := 8000
  corsOrigins : List String := ["http://localhost:3000", "http://127.0.0.1:3000"]
deriving DecidableEq

namespace Settings

/-- The settings before any override. -/
def default : Settings := {}

instance : Inhabited Settings := ⟨default⟩

/-- The most decimal places that a result may keep. -/
def mostPrecision : Int := 15

/-- What holds of all settings that were read: the precision is in its range. -/
def Valid (s : Settings) : Prop := 0 ≤ s.resultPrecision ∧ s.resultPrecision ≤ mostPrecision

instance (s : Settings) : Decidable s.Valid := by unfold Valid; infer_instance

/-- The text in capitals. The dotless `ı` is the one letter outside of ASCII
whose capital occurs in the name of a level. -/
def capitals (s : String) : String :=
  String.ofList (s.toList.map fun c => if c = 'ı' then 'I' else c.toUpper)

/-- A log level, named in letters of any case. -/
def readLevel : Datum → Except Complaint Log.Level
  | .text s =>
    match Log.Level.ofName? (capitals s) with
    | some level => .ok level
    | none => .error .notLevel
  | _ => .error .notLevel

/-- The fields of the settings. -/
inductive Field where
  | appName
  | debug
  | logLevel
  | logJson
  | resultPrecision
  | previewPlaceholder
  | errorPlaceholder
  | host
  | port
  | corsOrigins
deriving DecidableEq

namespace Field

/-- All fields, in the order in which they are read. -/
def all : List Field :=
  [appName, debug, logLevel, logJson, resultPrecision, previewPlaceholder, errorPlaceholder, host,
    port, corsOrigins]

/-- The name under which a field is given. -/
def name : Field → String
  | appName => "app_name"
  | debug => "debug"
  | logLevel => "log_level"
  | logJson => "log_json"
  | resultPrecision => "result_precision"
  | previewPlaceholder => "preview_placeholder"
  | errorPlaceholder => "error_placeholder"
  | host => "host"
  | port => "port"
  | corsOrigins => "cors_origins"

/-- The type of the values of a field. -/
abbrev Value : Field → Type
  | appName | previewPlaceholder | errorPlaceholder | host => String
  | debug | logJson => Bool
  | logLevel => Log.Level
  | resultPrecision | port => Int
  | corsOrigins => List String

/-- The value of a field. -/
def value (s : Settings) : (f : Field) → f.Value
  | appName => s.appName
  | debug => s.debug
  | logLevel => s.logLevel
  | logJson => s.logJson
  | resultPrecision => s.resultPrecision
  | previewPlaceholder => s.previewPlaceholder
  | errorPlaceholder => s.errorPlaceholder
  | host => s.host
  | port => s.port
  | corsOrigins => s.corsOrigins

/-- The settings with another value of a field. -/
def assign (s : Settings) : (f : Field) → f.Value → Settings
  | appName, v => { s with appName := v }
  | debug, v => { s with debug := v }
  | logLevel, v => { s with logLevel := v }
  | logJson, v => { s with logJson := v }
  | resultPrecision, v => { s with resultPrecision := v }
  | previewPlaceholder, v => { s with previewPlaceholder := v }
  | errorPlaceholder, v => { s with errorPlaceholder := v }
  | host, v => { s with host := v }
  | port, v => { s with port := v }
  | corsOrigins, v => { s with corsOrigins := v }

/-- Read a value of a field. -/
def read : (f : Field) → Datum → Checked f.Value
  | appName, d => Checked.ofComplaint (Reading.text d)
  | debug, d => Checked.ofComplaint (Reading.boolean d)
  | logLevel, d => Checked.ofComplaint (readLevel d)
  | logJson, d => Checked.ofComplaint (Reading.boolean d)
  | resultPrecision, d => Checked.ofComplaint (Reading.integerBetween 0 mostPrecision d)
  | previewPlaceholder, d => Checked.ofComplaint (Reading.text d)
  | errorPlaceholder, d => Checked.ofComplaint (Reading.text d)
  | host, d => Checked.ofComplaint (Reading.text d)
  | port, d => Checked.ofComplaint (Reading.integer d)
  | corsOrigins, d => Reading.texts d

/-- Write a value of a field. -/
def write : (f : Field) → f.Value → Datum
  | appName, v => .text v
  | debug, v => .bool v
  | logLevel, v => .text (Log.Level.name v)
  | logJson, v => .bool v
  | resultPrecision, v => .int v
  | previewPlaceholder, v => .text v
  | errorPlaceholder, v => .text v
  | host, v => .text v
  | port, v => .int v
  | corsOrigins, v => .list (List.map Datum.text v)

theorem mem_all (f : Field) : f ∈ all := by
  cases f <;> decide

end Field

/-- The names of the fields, in order. -/
def fieldNames : List String := Field.all.map Field.name

end Settings

end Reckoner
