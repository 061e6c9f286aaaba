import Reckoner.Expression.Failure
import Reckoner.Expression.Token
import Reckoner.Number.Numeral

/-!
# Reducing postfix tokens to a value

`Token.reduce` runs postfix tokens on a stack of numbers: a number is pushed,
an operator replaces the two numbers on top by its result. One number must be
left, and it is rounded for display by `cleanResult`.
-/

namespace Reckoner

/-- The result of applying the operator written as `symbol`. A divisor that is
zero is refused first. -/
def applySymbol (symbol : String) (a b : Binary64) : Except Fault Binary64 :=
  match Operator.ofSymbol? symbol with
  | none => .error (.unknownOperator symbol)
  | some o => if o = .div ∧ b.isZero then .error (.failure .divisionByZero) else .ok (o.apply a b)

/-- The number rounded to `precision` decimal places. A whole number stays as
it is, and a number that is not finite is refused. -/
def cleanResult (value : Binary64) (precision : Int) : Except Failure Binary64 :=
  if !value.isFinite then .error (.nonFiniteResult value)
  else if value.isIntegral then .ok value
  else .ok (value.toPlaces precision)

theorem applySymbol_symbol (o : Operator) (a b : Binary64) :
    applySymbol o.symbol a b =
      if o = .div ∧ b.isZero then .error (.failure .divisionByZero) else .ok (o.apply a b) := by
  rw [applySymbol, Operator.ofSymbol?_symbol]

/-- Only a division can be refused. -/
theorem applySymbol_of_ne_div {o : Operator} (h : o ≠ .div) (a b : Binary64) :
    applySymbol o.symbol a b = .ok (o.apply a b) := by
  rw [applySymbol_symbol]
  exact if_neg fun hdiv => h hdiv.1

/-- The precision of results where none is asked for. -/
def defaultPrecision : Int := 12

namespace Token

/-- The stack of numbers after a token; the top is the head of the list. -/
def reduceStep (stack : List Binary64) (t : Token) : Except Fault (List Binary64) :=
  match t.kind with
  | .number =>
    match Binary64.ofText? t.text with
    | some x => .ok (x :: stack)
    | none => .error (.unreadableNumber t.text)
  | .operator =>
    match stack with
    | b :: a :: rest => (applySymbol t.text a b).map (· :: rest)
    | _ => .error (.failure (.insufficientOperands t.text))
  | .leftParen | .rightParen => .error (.failure (.malformedExpression stack.length))

/-- The stack of numbers after some tokens. -/
def reduceFrom (stack : List Binary64) (tokens : List Token) : Except Fault (List Binary64) :=
  tokens.foldlM reduceStep stack

/-- The value of postfix tokens, rounded to `precision` decimal places. -/
def reduce (tokens : List Token) (precision : Int) : Except Fault Binary64 := do
  match ← reduceFrom [] tokens with
  | [value] => (cleanResult value precision).mapError .failure
  | stack => .error (.failure (.malformedExpression stack.length))

@[simp] theorem reduceFrom_nil (stack : List Binary64) : reduceFrom stack [] = .ok stack := rfl

theorem reduceFrom_cons (stack : List Binary64) (t : Token) (rest : List Token) :
    reduceFrom stack (t :: rest) = (do
      let stack ← reduceStep stack t
      reduceFrom stack rest) := rfl

theorem reduceFrom_append (stack : List Binary64) (first second : List Token) :
    reduceFrom stack (first ++ second) = (do
      let stack ← reduceFrom stack first
      reduceFrom stack second) := by
  simp [reduceFrom, List.foldlM_append]

end Token

end Reckoner
