import Reckoner.Expression.Failure
import Reckoner.Expression.Token

/-!
# Scanning a text into tokens

`Token.scan` reads a text once, from left to right. A maximal run of digits and
points is a number, each operator and parenthesis character is a token, and
spaces only separate. A minus where an operand is expected, at the start or
after an operator or an opening parenthesis, gets a zero before it, so that
every later stage sees binary operators only. The first place that is neither a
token nor a space is reported with its position.
-/

namespace Reckoner.Token

/-- Whether `c` belongs to a run that makes up a number. -/
def isNumeralChar (c : Char) : Bool := c.isDigit || c == '.'

/-- Whether a run of digits and points is a number: it has a digit and at most
one point. -/
def isNumeral (run : List Char) : Bool := run.any Char.isDigit && decide (run.count '.' ≤ 1)

/-- The token of an operator or parenthesis character. -/
def ofMark? (c : Char) : Option Token :=
  match Operator.ofChar? c with
  | some o => some (operator o)
  | none => if c = '(' then some leftParen else if c = ')' then some rightParen else none

/-- Whether an operand must follow a token of the given kind; `none` stands for
the start of the text. -/
def expectsOperand : Option TokenKind → Bool
  | none | some .operator | some .leftParen => true
  | some .number | some .rightParen => false

/-- The zero in front of a minus that has no left operand. -/
def impliedZero (previous : Option TokenKind) (t : Token) : List Token :=
  if t = operator .sub ∧ expectsOperand previous then [number "0"] else []

/-- The tokens of a text that starts at `position`, after a token of the kind
`previous`. -/
def scanFrom (previous : Option TokenKind) (position : Nat) :
    List Char → Except Failure (List Token)
  | [] => .ok []
  | c :: rest =>
    if c = ' ' then scanFrom previous (position + 1) rest
    else if isNumeralChar c then
      let run := c :: rest.takeWhile isNumeralChar
      if isNumeral run then
        (scanFrom (some .number) (position + run.length) (rest.dropWhile isNumeralChar)).map
          (number (String.ofList run) :: ·)
      else .error (.malformedNumber (String.ofList run) position)
    else
      match ofMark? c with
      | some t =>
        (scanFrom (some t.kind) (position + 1) rest).map (impliedZero previous t ++ t :: ·)
      | none => .error (.invalidCharacter c position)
termination_by cs => cs.length
decreasing_by
  · simp
  · have := (List.dropWhile_sublist (l := rest) isNumeralChar).length_le
    simp only [List.length_cons]
    omega
  · simp

/-- The tokens of a text. -/
def scan (text : String) : Except Failure (List Token) := scanFrom none 0 text.toList

@[simp] theorem scanFrom_nil (previous : Option TokenKind) (position : Nat) :
    scanFrom previous position [] = .ok [] := by
  rw [scanFrom]

@[simp] theorem scanFrom_space (previous : Option TokenKind) (position : Nat) (rest : List Char) :
    scanFrom previous position (' ' :: rest) = scanFrom previous (position + 1) rest := by
  rw [scanFrom, if_pos rfl]

end Reckoner.Token
