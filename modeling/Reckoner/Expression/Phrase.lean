import Reckoner.Expression.Scan
import Reckoner.Expression.Tree

/-!
# The language of expressions

`Phrase p cs t` says that the characters `cs` are an expression that means the
tree `t`, at a place where an operator weaker than `p` would have to stand in
parentheses. A phrase is a numeral, a phrase in parentheses, two phrases with an
operator between them, or a term after a minus, which means its difference from
zero. A sign stands only where a sum may begin. Spaces may stand around every
phrase.
-/

namespace Reckoner

/-- The characters are an expression with the meaning `t`, at a place where an
operator weaker than the given strength needs parentheses. -/
inductive Phrase : Nat → List Char → Tree → Prop where
  | numeral (p : Nat) {run : List Char} (hrun : run.all Token.isNumeralChar)
    (h : Token.isNumeral run) : Phrase p run (.leaf (String.ofList run))
  | group {p : Nat} {cs : List Char} {t : Tree} (h : Phrase 0 cs t) :
    Phrase p ('(' :: (cs ++ [')'])) t
  | operation {p : Nat} (o : Operator) {first second : List Char} {left right : Tree}
    (hp : p ≤ o.precedence) (hleft : Phrase o.precedence first left)
    (hright : Phrase (o.precedence + 1) second right) :
    Phrase p (first ++ o.char :: second) (.node o.symbol left right)
  | signed {p : Nat} {cs : List Char} {t : Tree} (hp : p ≤ Operator.sub.precedence)
    (h : Phrase (Operator.sub.precedence + 1) cs t) :
    Phrase p (Operator.sub.char :: cs) (.node Operator.sub.symbol (.leaf "0") t)
  | spaceBefore {p : Nat} {cs : List Char} {t : Tree} (h : Phrase p cs t) :
    Phrase p (' ' :: cs) t
  | spaceAfter {p : Nat} {cs : List Char} {t : Tree} (h : Phrase p cs t) :
    Phrase p (cs ++ [' ']) t

namespace Phrase

/-- A phrase is also one where fewer operators need parentheses. -/
theorem of_le {p q : Nat} {cs : List Char} {t : Tree} (hpq : p ≤ q) (h : Phrase q cs t) :
    Phrase p cs t := by
  induction h with
  | numeral _ hrun h => exact .numeral p hrun h
  | group h => exact .group h
  | operation o hp hleft hright => exact .operation o (Nat.le_trans hpq hp) hleft hright
  | signed hp h => exact .signed (Nat.le_trans hpq hp) h
  | spaceBefore _ ih => exact .spaceBefore (ih hpq)
  | spaceAfter _ ih => exact .spaceAfter (ih hpq)

/-- A phrase has characters. -/
theorem ne_nil {p : Nat} {cs : List Char} {t : Tree} (h : Phrase p cs t) : cs ≠ [] := by
  induction h with
  | numeral _ _ h => rintro rfl; simp [Token.isNumeral] at h
  | group | operation | signed | spaceBefore | spaceAfter => simp

end Phrase

end Reckoner
