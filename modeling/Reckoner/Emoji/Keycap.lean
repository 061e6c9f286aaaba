import Reckoner.Emoji.Sequence

/-!
# Keycaps

A digit or a sign on the cap of a key: the character, the selector that shows it
in colour, and the mark that encloses it.
-/

namespace Reckoner.Emoji

/-- The mark that encloses the character before it. -/
def enclosing : Char := '\u20e3'

/-- The words for the digits. -/
def digitWords : List String :=
  ["zero", "one", "two", "three", "four", "five", "six", "seven", "eight", "nine"]

/-- The keycaps by the character on them. -/
def capsByCharacter : List (String × List Char) :=
  "#*0123456789".toList.map fun c => ("keycap_" ++ c.toString, [c, inColour, enclosing])

/-- The keycaps by the word for the digit on them, and the same without the
selector. -/
def capsByWord : List (String × List Char) :=
  ("0123456789".toList.zip digitWords).flatMap fun (c, word) =>
    [(word, [c, inColour, enclosing]), ("keycap_digit_" ++ word, [c, enclosing])]

/-- The keycaps, each with its name. -/
def keycaps : List (String × List Char) :=
  capsByCharacter ++ capsByWord ++
    [("keycap_asterisk", ['*', enclosing]), ("keycap_number_sign", ['#', enclosing])]

end Reckoner.Emoji
