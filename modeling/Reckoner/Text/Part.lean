/-!
# Parts of a text

`parts separator cs` are the parts of the text `cs` between its separators. There
is always one part more than there are separators.
-/

namespace Reckoner.Text

/-- The parts of a text between its separators. -/
def parts (separator : Char) : List Char → List (List Char)
  | [] => [[]]
  | c :: rest =>
    if c = separator then [] :: parts separator rest
    else
      match parts separator rest with
      | [] => [[c]]
      | part :: others => (c :: part) :: others

@[simp] theorem parts_nil (separator : Char) : parts separator [] = [[]] := rfl

end Reckoner.Text
