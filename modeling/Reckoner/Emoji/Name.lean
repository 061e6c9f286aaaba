import Reckoner.Emoji.Face
import Reckoner.Emoji.Flag
import Reckoner.Emoji.Keycap
import Reckoner.Emoji.Person
import Reckoner.Emoji.Pictograph
import Reckoner.Emoji.Sign
import Reckoner.Emoji.Supplement
import Reckoner.Emoji.Vehicle

/-!
# Names of emoji

An emoji can have several names; a name is in small letters, with underscores in
place of blanks. `ofName?` finds the emoji of a name.
-/

namespace Reckoner.Emoji

/-- The names of the emoji of a table, each with its emoji. -/
def byName (rows : List (Char × List String)) : List (String × List Char) :=
  rows.flatMap fun (c, names) => names.map fun name => (name, [c])

/-- Things that are made up of others. -/
def compounds : List (String × List Char) :=
  [("eye_in_speech_bubble", joined [['👁', inColour], ['🗨', inColour]]),
    ("service_dog", joined [['🐕'], ['🦺']])]

/-- All emoji, each with its name. -/
def named : List (String × List Char) :=
  byName faces ++ byName pictographs ++ byName signs ++ byName vehicles ++ byName supplements ++
    people.flatMap inTones ++ swatches ++ groups ++ flags ++ indicators ++ keycaps ++ compounds

/-- The emoji of a name. -/
def ofName? (name : String) : Option (List Char) :=
  (named.find? fun row => row.1 == name).map (·.2)

end Reckoner.Emoji
