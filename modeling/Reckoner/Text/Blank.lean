/-!
# Blank characters

Two classes of blanks are in use. `isBlank` holds of the white space of every
script, as at the ends of a typed line; `isAsciiBlank` holds of the space and
the five ASCII controls that move the cursor, as around a numeral. `trim`
removes the characters of such a class from both ends of a text.
-/

namespace Reckoner.Text

/-- The closed intervals of code points of white space. -/
def blankRanges : List (Nat × Nat) :=
  [(0x09, 0x0d), (0x1c, 0x20), (0x85, 0x85), (0xa0, 0xa0), (0x1680, 0x1680),
   (0x2000, 0x200a), (0x2028, 0x2029), (0x202f, 0x202f), (0x205f, 0x205f),
   (0x3000, 0x3000)]

/-- Whether `c` is white space of any script. -/
def isBlank (c : Char) : Bool :=
  blankRanges.any fun r => r.1 ≤ c.toNat && c.toNat ≤ r.2

/-- Whether `c` is the space, a tab, a line end, or a form feed of ASCII. -/
def isAsciiBlank (c : Char) : Bool :=
  c == ' ' || (0x09 ≤ c.toNat && c.toNat ≤ 0x0d)

/-- `cs` without the characters of the class `p` at its end. -/
def trimEnd (p : Char → Bool) (cs : List Char) : List Char :=
  (cs.reverse.dropWhile p).reverse

/-- `cs` without the characters of the class `p` at either end. -/
def trim (p : Char → Bool) (cs : List Char) : List Char :=
  trimEnd p (cs.dropWhile p)

@[simp] theorem trim_nil (p : Char → Bool) : trim p [] = [] := rfl

end Reckoner.Text
