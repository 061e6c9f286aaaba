import Reckoner.Expression.Failure

/-!
# Log events

What the library reports while it works. An event has a level, a name, and
named fields. A log with a threshold keeps the events at or above it, in order.
-/

namespace Reckoner.Log

/-- The levels of urgency, least urgent first. -/
inductive Level where
  | debug | info | warning | error | critical
deriving DecidableEq

namespace Level

/-- The level in capitals, as the settings name it. -/
def name : Level → String
  | debug => "DEBUG"
  | info => "INFO"
  | warning => "WARNING"
  | error => "ERROR"
  | critical => "CRITICAL"

/-- The position in the order of urgency. -/
def urgency : Level → Nat
  | debug => 0
  | info => 1
  | warning => 2
  | error => 3
  | critical => 4

/-- All levels, least urgent first. -/
def all : List Level := [debug, info, warning, error, critical]

/-- The level of a name in capitals. -/
def ofName? (s : String) : Option Level := all.find? (·.name == s)

/-- The threshold that a name in capitals stands for. Besides the names of the
levels there are two short ones, and one that keeps every event. -/
def threshold? (s : String) : Option Level :=
  if s = "NOTSET" then some debug
  else if s = "WARN" then some warning
  else if s = "FATAL" then some critical
  else ofName? s

@[simp] theorem ofName?_name (l : Level) : ofName? l.name = some l := by
  cases l <;> decide

end Level

/-- The value of a field of an event. -/
inductive Field where
  | text (s : String)
  | count (n : Nat)
  | number (x : Binary64)
deriving DecidableEq

/-- What is reported. -/
inductive Event where
  | scanned (count : Nat)
  | ordered (count : Nat)
  | reduced (result : Binary64)
  | evaluationFailed (expression : String) (cause : Failure)
  | calculationRejected (expression : String) (cause : Failure)
  | serviceStarted (appName version : String)
deriving DecidableEq

namespace Event

/-- The level of an event. -/
def level : Event → Level
  | scanned _ | ordered _ | reduced _ | evaluationFailed .. => .debug
  | calculationRejected .. | serviceStarted .. => .info

/-- The name under which an event is reported. -/
def name : Event → String
  | scanned _ => "Tokenized expression"
  | ordered _ => "Converted to postfix"
  | reduced _ => "Evaluated postfix"
  | evaluationFailed .. => "Evaluation failed"
  | calculationRejected .. => "Calculation rejected"
  | serviceStarted .. => "API started"

/-- The fields of an event. -/
def fields : Event → List (String × Field)
  | scanned count | ordered count => [("count", .count count)]
  | reduced result => [("result", .number result)]
  | evaluationFailed expression cause =>
    [("expression", .text expression), ("kind", .text cause.kind.code),
      ("error", .text cause.message)]
  | calculationRejected expression cause =>
    [("expression", .text expression), ("kind", .text cause.kind.code)]
  | serviceStarted appName version => [("app_name", .text appName), ("version", .text version)]

end Event

/-- The events at or above a threshold. -/
def kept (threshold : Level) (events : List Event) : List Event :=
  events.filter fun e => threshold.urgency ≤ e.level.urgency

@[simp] theorem kept_nil (threshold : Level) : kept threshold [] = [] := rfl

@[simp] theorem kept_append (threshold : Level) (first second : List Event) :
    kept threshold (first ++ second) = kept threshold first ++ kept threshold second := by
  simp [kept]

/-- The lowest threshold keeps every event. -/
@[simp] theorem kept_debug (events : List Event) : kept .debug events = events := by
  simp [kept, Level.urgency]

end Reckoner.Log
