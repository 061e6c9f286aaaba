import Reckoner.Expression.Operator

/-!
# Typing an expression

What one key does to the characters of an expression. A point is refused by a
number that has one and gets a zero where there is no number before it; an
operator replaces the operator before it, and only a minus may come first. The
trailing number is the longest end of the expression that is a run of digits
with at most one point. A line end after it does not count.
-/

namespace Reckoner.Editor

/-- Whether the expression ends in an operator. -/
def endsWithOperator (cs : List Char) : Bool :=
  cs.getLast?.any fun c => (Operator.ofChar? c).isSome

/-- The expression without a line end after it. -/
def withoutLineEnd (cs : List Char) : List Char :=
  if cs.getLast? = some '\n' then cs.dropLast else cs

/-- The trailing number of the reversed expression `cs`, in reading order. -/
def trailingNumberRev (cs : List Char) : List Char :=
  let fraction := cs.takeWhile Char.isDigit
  match cs.dropWhile Char.isDigit with
  | '.' :: rest => (rest.takeWhile Char.isDigit).reverse ++ '.' :: fraction.reverse
  | _ => fraction.reverse

/-- The longest end of the expression that is a run of digits with at most one
point. -/
def trailingNumber (cs : List Char) : List Char :=
  trailingNumberRev (withoutLineEnd cs).reverse

/-- The trailing number and what comes before it, if the number ends in a
digit. -/
def percentOperand? (cs : List Char) : Option (List Char × List Char) :=
  let body := withoutLineEnd cs
  if body.getLast?.any Char.isDigit then
    let number := trailingNumber cs
    some (body.take (body.length - number.length), number)
  else none

/-- The expression after a point is typed. -/
def typePoint (cs : List Char) : List Char :=
  let number := trailingNumber cs
  if number.contains '.' then cs
  else if number = [] then cs ++ ['0', '.']
  else cs ++ ['.']

/-- The expression after an operator is typed. -/
def typeOperator (o : Operator) (cs : List Char) : List Char :=
  if cs = [] then if o = .sub then [o.char] else []
  else if endsWithOperator cs then cs.dropLast ++ [o.char]
  else cs ++ [o.char]

/-- Whether a character is typed as it stands. -/
def isPlain (c : Char) : Bool := c.isDigit || c == '(' || c == ')'

/-- The expression after the character `c` is typed; `none` if it cannot stand
in an expression. -/
def type? (c : Char) (cs : List Char) : Option (List Char) :=
  if c = '.' then some (typePoint cs)
  else
    match Operator.ofChar? c with
    | some o => some (typeOperator o cs)
    | none => if isPlain c then some (cs ++ [c]) else none

@[simp] theorem trailingNumber_nil : trailingNumber [] = [] := rfl

@[simp] theorem endsWithOperator_nil : endsWithOperator [] = false := rfl

theorem endsWithOperator_append_singleton (cs : List Char) (c : Char) :
    endsWithOperator (cs ++ [c]) = (Operator.ofChar? c).isSome := by
  simp [endsWithOperator]

end Reckoner.Editor
