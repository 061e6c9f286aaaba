import Reckoner.Number.Positional
import Reckoner.Text.Quoted

/-!
# Why an expression has no value

`Failure` lists the causes for which an expression is refused. Each belongs to
one of three stages, has a kind with a stable code, and carries what its wording
shows. `Fault` adds the two causes that only a token list made by hand can show:
the scanner never makes such tokens.
-/

namespace Reckoner

/-- The cause for which an expression has no value. -/
inductive Failure where
  | invalidCharacter (char : Char) (position : Nat)
  | malformedNumber (text : String) (position : Nat)
  | unmatchedRight
  | unmatchedLeft
  | insufficientOperands (operator : String)
  | divisionByZero
  | malformedExpression (remaining : Nat)
  | nonFiniteResult (value : Binary64)
deriving DecidableEq

namespace Failure

/-- The stages of an evaluation. -/
inductive Stage where
  | scanning | ordering | reduction
deriving DecidableEq

/-- The kinds of failures that callers tell apart. -/
inductive Kind where
  | invalidCharacter
  | malformedNumber
  | mismatchedParens
  | insufficientOperands
  | divisionByZero
  | malformedExpression
  | nonFiniteResult
deriving DecidableEq

/-- The stable code of a kind. -/
def Kind.code : Kind → String
  | invalidCharacter => "invalid_character"
  | malformedNumber => "malformed_number"
  | mismatchedParens => "mismatched_parens"
  | insufficientOperands => "insufficient_operands"
  | divisionByZero => "division_by_zero"
  | malformedExpression => "malformed_expression"
  | nonFiniteResult => "non_finite_result"

/-- The stage at which failures of a kind arise. -/
def Kind.stage : Kind → Stage
  | invalidCharacter | malformedNumber => .scanning
  | mismatchedParens => .ordering
  | insufficientOperands | divisionByZero | malformedExpression | nonFiniteResult => .reduction

/-- The kind of a failure. -/
def kind : Failure → Kind
  | invalidCharacter .. => .invalidCharacter
  | malformedNumber .. => .malformedNumber
  | unmatchedRight | unmatchedLeft => .mismatchedParens
  | insufficientOperands _ => .insufficientOperands
  | divisionByZero => .divisionByZero
  | malformedExpression _ => .malformedExpression
  | nonFiniteResult _ => .nonFiniteResult

/-- The wording of a failure. -/
def message : Failure → String
  | invalidCharacter char position =>
    "Invalid character " ++ Text.quoted (String.singleton char) ++ " at position " ++
      toString position
  | malformedNumber text position =>
    "Malformed number " ++ Text.quoted text ++ " at position " ++ toString position
  | unmatchedRight => "Unmatched ')'"
  | unmatchedLeft => "Unmatched '('"
  | insufficientOperands operator => "Insufficient operands for " ++ Text.quoted operator
  | divisionByZero => "Division by zero"
  | malformedExpression remaining =>
    "Expected exactly one value after evaluation, found " ++ toString remaining
  | nonFiniteResult value => "Result is not a finite number: " ++ value.text

end Failure

/-- A failure, or a token that no scanner makes. -/
inductive Fault where
  | failure (cause : Failure)
  | unreadableNumber (text : String)
  | unknownOperator (symbol : String)
deriving DecidableEq

namespace Fault

/-- The wording of a fault. An unknown operator is named by itself. -/
def message : Fault → String
  | failure cause => cause.message
  | unreadableNumber text => "could not convert string to float: " ++ Text.quoted text
  | unknownOperator symbol => Text.quoted symbol

/-- The failure that a fault is, if it is one. -/
def failure? : Fault → Option Failure
  | failure cause => some cause
  | _ => none

end Fault

end Reckoner
