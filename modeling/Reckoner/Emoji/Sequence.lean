/-!
# Sequences of emoji

Several emoji with joiners between them are shown as one. A selector after an
emoji tells whether it is shown in colour or as text, and a skin tone stands
right after the emoji that it colours, in place of the selector.
-/

namespace Reckoner.Emoji

/-- The character that makes one emoji of its neighbours. -/
def joiner : Char := '\u200d'

/-- The selector that shows the emoji before it in colour. -/
def inColour : Char := '\ufe0f'

/-- The selector that shows the emoji before it as text. -/
def asText : Char := '\ufe0e'

/-- The emoji that some emoji make up. -/
def joined (parts : List (List Char)) : List Char := [joiner].intercalate parts

/-- The skin tones, with the word for each. -/
def tones : List (Char × String) :=
  [(Char.ofNat 0x1F3FB, "light"), (Char.ofNat 0x1F3FC, "medium-light"),
   (Char.ofNat 0x1F3FD, "medium"), (Char.ofNat 0x1F3FE, "medium-dark"),
   (Char.ofNat 0x1F3FF, "dark")]

/-- An emoji in a skin tone. -/
def toned (tone : Char) : List Char → List Char
  | [] => []
  | [c] => [c, tone]
  | c :: d :: rest => if d = inColour then c :: tone :: rest else c :: tone :: d :: rest

@[simp] theorem joined_singleton (part : List Char) : joined [part] = part := by
  simp [joined, List.intercalate]

end Reckoner.Emoji
