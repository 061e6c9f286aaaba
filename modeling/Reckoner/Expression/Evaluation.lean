import Reckoner.Expression.Postfix
import Reckoner.Expression.Reduction
import Reckoner.Expression.Report
import Reckoner.Expression.Scan

/-!
# Evaluating an expression

An expression is scanned, put into postfix order and reduced; the first stage
that refuses decides the outcome. Each stage that is completed reports one event,
and a stage that refuses is reported once more, behind them (`Report.ofText`).
`trace` keeps what the stages produced, `evaluate` only the value, and
`evaluationEvents` what was reported.
-/

namespace Reckoner

/-- What the stages of an evaluation produced. -/
structure Trace where
  expression : String
  tokens : List Token
  ordered : List Token
  value : Binary64
deriving DecidableEq

namespace Report

/-- Scan a text. The number of tokens is reported. -/
def scan (text : String) : Report (List Token) :=
  stage ((Token.scan text).mapError .failure) fun tokens => .scanned tokens.length

/-- Put tokens into postfix order. Their number is reported. -/
def toPostfix (tokens : List Token) : Report (List Token) :=
  stage ((Token.toPostfix tokens).mapError .failure) fun ordered => .ordered ordered.length

/-- Reduce tokens in postfix order. The value is reported. -/
def reduce (ordered : List Token) (precision : Int) : Report Binary64 :=
  stage (Token.reduce ordered precision) .reduced

/-- Evaluate a text. What every stage produced is kept, and what kept a stage from
producing anything is reported. -/
def ofText (text : String) (precision : Int) : Report Trace :=
  tellFailure (.evaluationFailed text) do
    let tokens ← scan text
    let ordered ← toPostfix tokens
    let value ← reduce ordered precision
    pure { expression := text, tokens, ordered, value }

end Report

/-- Evaluate a text and keep what every stage produced. -/
def trace (text : String) (precision : Int) : Except Fault Trace :=
  (Report.ofText text precision).outcome

/-- The value of a text, rounded to `precision` decimal places. -/
def evaluate (text : String) (precision : Int) : Except Fault Binary64 :=
  (trace text precision).map Trace.value

/-- What an evaluation reports. -/
def evaluationEvents (text : String) (precision : Int) : List Log.Event :=
  (Report.ofText text precision).events

end Reckoner
