import Reckoner.Expression.Operator
import Reckoner.Text.Quoted

/-!
# Tokens

A token is a kind and the text it was written as. The scanner only makes tokens
whose text fits their kind, but every pair is a token: an operator with an
unknown text binds weaker than all others, and no other kind binds at all.
-/

namespace Reckoner

/-- The four kinds of tokens. -/
inductive TokenKind where
  | number | operator | leftParen | rightParen
deriving DecidableEq

namespace TokenKind

/-- The name under which a kind is shown. -/
def name : TokenKind → String
  | number => "number"
  | operator => "operator"
  | leftParen => "left_paren"
  | rightParen => "right_paren"

/-- The kind of a name. -/
def ofName? (s : String) : Option TokenKind :=
  [number, operator, leftParen, rightParen].find? (·.name == s)

@[simp] theorem ofName?_name (k : TokenKind) : ofName? k.name = some k := by
  cases k <;> decide

end TokenKind

/-- A lexical token: its kind and its text. -/
structure Token where
  kind : TokenKind
  text : String
deriving DecidableEq

namespace Token

/-- The number token of a numeral. -/
def number (text : String) : Token := ⟨.number, text⟩

/-- The token of an operator. -/
def operator (o : Operator) : Token := ⟨.operator, o.symbol⟩

/-- The opening parenthesis. -/
def leftParen : Token := ⟨.leftParen, "("⟩

/-- The closing parenthesis. -/
def rightParen : Token := ⟨.rightParen, ")"⟩

/-- Whether the token is an operator. -/
def isOperator (t : Token) : Bool := t.kind == .operator

/-- Whether the token is one of the two parentheses. -/
def isParen (t : Token) : Bool := t.kind == .leftParen || t.kind == .rightParen

/-- The binding strength: that of the operator, and zero where there is none. -/
def precedence (t : Token) : Nat :=
  if t.isOperator then ((Operator.ofSymbol? t.text).map Operator.precedence).getD 0 else 0

/-- The texts of the tokens with single spaces between them. -/
def render (tokens : List Token) : String :=
  " ".intercalate (tokens.map Token.text)

/-- Why there is no token of a requested form. -/
inductive Refusal where
  | unknownOperator (symbol : String)
  | unknownKind (name : String)
deriving DecidableEq

/-- The wording of a refusal. -/
def Refusal.message : Refusal → String
  | unknownOperator symbol => "Unknown operator: " ++ symbol
  | unknownKind name => Text.quoted name ++ " is not a valid TokenKind"

/-- The operator token of a symbol. -/
def ofSymbol (symbol : String) : Except Refusal Token :=
  match Operator.ofSymbol? symbol with
  | some o => .ok (operator o)
  | none => .error (.unknownOperator symbol)

/-- The token with a kind given by name and any text. -/
def ofKindName (name text : String) : Except Refusal Token :=
  match TokenKind.ofName? name with
  | some kind => .ok ⟨kind, text⟩
  | none => .error (.unknownKind name)

@[simp] theorem kind_number (text : String) : (number text).kind = .number := rfl
@[simp] theorem kind_operator (o : Operator) : (operator o).kind = .operator := rfl
@[simp] theorem kind_leftParen : leftParen.kind = .leftParen := rfl
@[simp] theorem kind_rightParen : rightParen.kind = .rightParen := rfl

@[simp] theorem precedence_operator (o : Operator) : (operator o).precedence = o.precedence := by
  simp [precedence, isOperator, operator]

end Token

end Reckoner
