import Reckoner.Expression.Failure
import Reckoner.Expression.Token

/-!
# From infix to postfix order

`Token.toPostfix` moves each operator behind its operands with a stack of
pending operators and open parentheses. Each token first releases some of the
stack to the output: a number nothing, an operator every operator on top that
binds at least as strongly, a closing parenthesis all down to the opening one.
Releasing at equal strength makes every operator group to the left.
-/

namespace Reckoner.Token

/-- Whether the incoming operator `t` releases the stacked token `top`. -/
def releases (t top : Token) : Bool := top.isOperator && t.precedence ≤ top.precedence

/-- What the token `t` sends to the output, and the stack after it. The top of
the stack is the head of the list. -/
def shunt (stack : List Token) (t : Token) : Except Failure (List Token × List Token) :=
  match t.kind with
  | .number => .ok ([t], stack)
  | .operator => .ok (stack.takeWhile t.releases, t :: stack.dropWhile t.releases)
  | .leftParen => .ok ([], t :: stack)
  | .rightParen =>
    match stack.dropWhile (·.kind != .leftParen) with
    | [] => .error .unmatchedRight
    | _ :: rest => .ok (stack.takeWhile (·.kind != .leftParen), rest)

/-- What is left on the stack at the end; an open parenthesis is refused. -/
def unstack (stack : List Token) : Except Failure (List Token) :=
  if stack.any isParen then .error .unmatchedLeft else .ok stack

/-- The output for the remaining tokens, with the given stack. -/
def postfixFrom (stack : List Token) : List Token → Except Failure (List Token)
  | [] => unstack stack
  | t :: rest => do
    let (released, stack) ← shunt stack t
    let output ← postfixFrom stack rest
    pure (released ++ output)

/-- The tokens in postfix order. -/
def toPostfix (tokens : List Token) : Except Failure (List Token) := postfixFrom [] tokens

@[simp] theorem postfixFrom_nil (stack : List Token) : postfixFrom stack [] = unstack stack := rfl

theorem postfixFrom_cons (stack : List Token) (t : Token) (rest : List Token) :
    postfixFrom stack (t :: rest) = (do
      let (released, stack) ← shunt stack t
      let output ← postfixFrom stack rest
      pure (released ++ output)) := rfl

end Reckoner.Token
