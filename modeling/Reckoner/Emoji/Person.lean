import Reckoner.Emoji.Sequence

/-!
# People

Many names of people follow from the name of what they do: `activities` are done
by a person, a man or a woman, `callings` name the person as well, and a man or a
woman of one of the `professions` is shown with a thing of it. `people` are those
that can be shown in a skin tone, `groups` those that cannot.
-/

namespace Reckoner.Emoji

/-- Hands, parts of the body, and people of one look, each with its name. -/
def figures : List (Char × String) :=
  [('☝', "index_pointing_up"), ('✊', "raised_fist"), ('✋', "raised_hand"), ('✌', "victory_hand"),
   ('✍', "writing_hand"), ('🎅', "santa_claus"), ('🏂', "snowboarder"), ('🏇', "horse_racing"),
   ('👂', "ear"), ('👃', "nose"), ('👆', "backhand_index_pointing_up"),
   ('👇', "backhand_index_pointing_down"), ('👈', "backhand_index_pointing_left"),
   ('👉', "backhand_index_pointing_right"), ('👊', "oncoming_fist"), ('👋', "waving_hand"),
   ('👌', "ok_hand"), ('👍', "thumbs_up"), ('👎', "thumbs_down"), ('👏', "clapping_hands"),
   ('👐', "open_hands"), ('👦', "boy"), ('👧', "girl"), ('👨', "man"), ('👩', "woman"),
   ('👰', "bride_with_veil"), ('👲', "man_with_chinese_cap"), ('👴', "old_man"), ('👵', "old_woman"),
   ('👶', "baby"), ('👸', "princess"), ('👼', "baby_angel"), ('💃', "woman_dancing"),
   ('💅', "nail_polish"), ('💪', "flexed_biceps"), ('🕴', "man_in_suit_levitating"),
   ('🕺', "man_dancing"), ('🖐', "hand_with_fingers_splayed"), ('🖕', "middle_finger"),
   ('🖖', "vulcan_salute"), ('🙌', "raising_hands"), ('🙏', "folded_hands"),
   ('🛀', "person_taking_bath"), ('🛌', "person_in_bed"), ('🤘', "sign_of_the_horns"),
   ('🤙', "call_me_hand"), ('🤚', "raised_back_of_hand"), ('🤛', "left-facing_fist"),
   ('🤜', "right-facing_fist"), ('🤞', "crossed_fingers"), ('🤟', "love-you_gesture"),
   ('🤰', "pregnant_woman"), ('🤱', "breast-feeding"), ('🤲', "palms_up_together"), ('🤳', "selfie"),
   ('🤴', "prince"), ('🤵', "man_in_tuxedo"), ('🤶', "mrs._claus"), ('🧑', "adult"), ('🧒', "child"),
   ('🧓', "older_adult"), ('🧔', "bearded_person"), ('🧕', "woman_with_headscarf")]

/-- What a person does. -/
def activities : List (Char × String) :=
  [('🚴', "biking"), ('⛹', "bouncing_ball"), ('🙇', "bowing"), ('🤸', "cartwheeling"),
   ('🧗', "climbing"), ('🤦', "facepalming"), ('🙍', "frowning"), ('🙅', "gesturing_no"),
   ('🙆', "gesturing_ok"), ('💇', "getting_haircut"), ('💆', "getting_massage"), ('🏌', "golfing"),
   ('🧘', "in_lotus_position"), ('🧖', "in_steamy_room"), ('🤹', "juggling"), ('🏋', "lifting_weights"),
   ('🚵', "mountain_biking"), ('🤾', "playing_handball"), ('🤽', "playing_water_polo"),
   ('🙎', "pouting"), ('🙋', "raising_hand"), ('🚣', "rowing_boat"), ('🏃', "running"),
   ('🤷', "shrugging"), ('🏄', "surfing"), ('🏊', "swimming"), ('💁', "tipping_hand"), ('🚶', "walking"),
   ('👳', "wearing_turban")]

/-- What a person is. -/
def callings : List (Char × String) :=
  [('👷', "construction_worker"), ('🕵', "detective"), ('🧝', "elf"), ('🧚', "fairy"), ('💂', "guard"),
   ('🧙', "mage"), ('👮', "police_officer"), ('🧛', "vampire")]

/-- What a person is in tales. -/
def tales : List (Char × String) :=
  [('🧞', "genie"), ('🧟', "zombie")]

/-- Professions and the thing that shows each. -/
def professions : List (String × String) :=
  [("🎨", "artist"), ("🚀", "astronaut"), ("🍳", "cook"), ("🏭", "factory_worker"), ("🌾", "farmer"),
   ("🚒", "firefighter"), ("\u2695\ufe0f", "health_worker"), ("\u2696\ufe0f", "judge"),
   ("🔧", "mechanic"), ("💼", "office_worker"), ("\u2708\ufe0f", "pilot"), ("🔬", "scientist"),
   ("🎤", "singer"), ("🎓", "student"), ("🏫", "teacher"), ("💻", "technologist")]

/-- What helps a person to go, and the words for it. -/
def aids : List (String × String) :=
  [("🦽", "in_manual_wheelchair"), ("🦼", "in_motorized_wheelchair"), ("🦯", "with_probing_cane")]

/-- Hair, or none, and the words for it. -/
def hairs : List (String × String) :=
  [("🦲", "bald"), ("🦱", "curly-haired"), ("🦰", "red-haired"), ("🦳", "white-haired")]

/-- The words for a man and a woman, with the person and the sign of each. -/
def genders : List (String × Char × Char) := [("man", '👨', '♂'), ("woman", '👩', '♀')]

/-- The people who are shown as text without a selector. -/
def outlined : List Char := ['⛹', '🏋', '🏌', '🕵']

/-- A person with the sign of a gender. -/
def gendered (person sign : Char) : List Char :=
  joined [if outlined.contains person then [person, inColour] else [person], [sign, inColour]]

/-- The man and the woman of what a person does or is. -/
def menAndWomen (row : Char × String) : List (String × List Char) :=
  genders.map fun (word, _, sign) => (word ++ "_" ++ row.2, gendered row.1 sign)

/-- The person, the man and the woman of an activity. -/
def ofActivity (row : Char × String) : List (String × List Char) :=
  ("person_" ++ row.2, [row.1]) :: menAndWomen row

/-- The person, the man and the woman of a calling. -/
def ofCalling (row : Char × String) : List (String × List Char) :=
  (row.2, [row.1]) :: menAndWomen row

/-- A man and a woman with a thing. -/
def withThing (row : String × String) : List (String × List Char) :=
  genders.map fun (word, person, _) => (word ++ "_" ++ row.2, joined [[person], row.1.toList])

/-- A man and a woman with some hair. -/
def withHair (row : String × String) : List (String × List Char) :=
  genders.map fun (word, person, _) => (row.2 ++ "_" ++ word, joined [[person], row.1.toList])

/-- The people that can be shown in a skin tone. -/
def people : List (String × List Char) :=
  figures.map (fun row => (row.2, [row.1])) ++ activities.flatMap ofActivity ++
    callings.flatMap ofCalling ++ professions.flatMap withThing ++
    [("blond-haired_person", ['👱']), ("blond-haired_man", gendered '👱' '♂'),
      ("blond-haired_woman", gendered '👱' '♀'), ("merperson", ['🧜']),
      ("merman", gendered '🧜' '♂'), ("mermaid", gendered '🧜' '♀')]

/-- A person by itself and in each skin tone. -/
def inTones (row : String × List Char) : List (String × List Char) :=
  row :: tones.map fun (tone, word) => (row.1 ++ "_" ++ word ++ "_skin_tone", toned tone row.2)

/-- The skin tones by themselves, each with its names. -/
def swatches : List (String × List Char) :=
  [("light_skin_tone", 0x1F3FB), ("medium_light_skin_tone", 0x1F3FC),
    ("medium_skin_tone", 0x1F3FD), ("medium_dark_skin_tone", 0x1F3FE),
    ("dark_skin_tone", 0x1F3FF), ("emoji_modifier_fitzpatrick_type__1__2", 0x1F3FB),
    ("emoji_modifier_fitzpatrick_type__3", 0x1F3FC),
    ("emoji_modifier_fitzpatrick_type__4", 0x1F3FD),
    ("emoji_modifier_fitzpatrick_type__5", 0x1F3FE),
    ("emoji_modifier_fitzpatrick_type__6", 0x1F3FF)].map fun (name, n) => (name, [Char.ofNat n])

/-- A member of a family, with the word for it. -/
abbrev Member := String × Char

/-- The words for some members, with underscores between them. -/
def memberWords (members : List Member) : String := "_".intercalate (members.map (·.1))

/-- The emoji of each of some members. -/
def memberParts (members : List Member) : List (List Char) := members.map fun m => [m.2]

def man : Member := ("man", '👨')
def woman : Member := ("woman", '👩')
def boy : Member := ("boy", '👦')
def girl : Member := ("girl", '👧')

/-- The parents of a family. -/
def parents : List (List Member) := [[man], [woman], [man, man], [man, woman], [woman, woman]]

/-- The children of a family. -/
def children : List (List Member) := [[boy], [girl], [boy, boy], [girl, boy], [girl, girl]]

/-- Families of some parents and their children. -/
def families : List (String × List Char) :=
  parents.flatMap fun ps => children.map fun cs =>
    ("family_" ++ memberWords (ps ++ cs), joined (memberParts (ps ++ cs)))

/-- The heart of a couple. -/
def heart : List Char := ['❤', inColour]

/-- Couples, with a heart or a kiss between them. -/
def couples : List (String × List Char) :=
  [(man, man), (woman, man), (woman, woman)].flatMap fun (a, b) =>
    [("couple_with_heart_" ++ memberWords [a, b], joined [[a.2], heart, [b.2]]),
      ("kiss_" ++ memberWords [a, b], joined [[a.2], heart, ['💋'], [b.2]])]

/-- The people that have no skin tone. -/
def groups : List (String × List Char) :=
  tales.flatMap ofCalling ++ aids.flatMap withThing ++ hairs.flatMap withHair ++ families ++
    couples ++
    [("men_with_bunny_ears", gendered '👯' '♂'), ("women_with_bunny_ears", gendered '👯' '♀'),
      ("men_wrestling", gendered '🤼' '♂'), ("women_wrestling", gendered '🤼' '♀'),
      ("people_holding_hands", joined [['🧑'], ['🤝'], ['🧑']])]

end Reckoner.Emoji
