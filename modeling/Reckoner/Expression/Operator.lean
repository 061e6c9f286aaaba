import Reckoner.Number.Binary64

/-!
# The four operators

An operator has a symbol, a binding strength and an operation on numbers, and
it is read back from its symbol (`ofSymbol?_symbol`).
-/

namespace Reckoner

/-- A binary operator. -/
inductive Operator where
  | add | sub | mul | div
deriving DecidableEq

namespace Operator

/-- The character that an operator is written as. -/
def char : Operator → Char
  | add => '+'
  | sub => '-'
  | mul => '*'
  | div => '/'

/-- The operator that a character stands for. -/
def ofChar? : Char → Option Operator
  | '+' => some add
  | '-' => some sub
  | '*' => some mul
  | '/' => some div
  | _ => none

/-- The text of an operator. -/
def symbol (o : Operator) : String := String.singleton o.char

/-- The operator that a text stands for. -/
def ofSymbol? (s : String) : Option Operator :=
  match s.toList with
  | [c] => ofChar? c
  | _ => none

/-- The binding strength; the stronger operator takes its operands first. -/
def precedence : Operator → Nat
  | add | sub => 1
  | mul | div => 2

/-- The operation on numbers. -/
def apply : Operator → Binary64 → Binary64 → Binary64
  | add => Binary64.add
  | sub => Binary64.sub
  | mul => Binary64.mul
  | div => Binary64.div

@[simp] theorem ofChar?_char (o : Operator) : ofChar? o.char = some o := by
  cases o <;> rfl

theorem ofChar?_eq_some_iff {c : Char} {o : Operator} : ofChar? c = some o ↔ c = o.char := by
  constructor
  · intro h
    unfold ofChar? at h
    split at h <;> simp_all [char] <;> subst h <;> rfl
  · rintro rfl
    exact ofChar?_char o

@[simp] theorem toList_symbol (o : Operator) : o.symbol.toList = [o.char] := by
  simp [symbol]

@[simp] theorem ofSymbol?_symbol (o : Operator) : ofSymbol? o.symbol = some o := by
  simp [ofSymbol?]

end Operator

end Reckoner
