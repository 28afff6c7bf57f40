import RoleGrants.Text.CharacterName.Listing

/-!
# Characters by name

A character may be asked for by its name in the Unicode standard. Most names are listed, and of
those the letter case does not matter. Two families follow a rule instead: a Hangul syllable is
named by the sounds it is made of, and a unified ideograph by its code point; their names have to be
written in capitals.
-/

namespace RoleGrants.Text

/-! ### The listing -/

/-- Whether a listing holds a name, given backwards. `current` is the name that is being put
together, backwards too, and `whole` says whether something has been added to it since the last was
taken off. -/
def isListedFrom (name current : List Char) (whole : Bool) : List Char → Bool
  | [] => whole && current == name
  | c :: cs =>
    if c == '\n' then isListedFrom name current whole cs
    else if c.isLower then
      (whole && current == name) || isListedFrom name (current.drop (c.toNat - 'a'.toNat)) false cs
    else isListedFrom name (c :: current) true cs

/-- Whether a name is listed, in any letter case. -/
def isListedName (name : List Char) : Bool :=
  isListedFrom (name.map Char.toUpper).reverse [] false characterNameListing.toList

/-! ### Hangul syllables -/

/-- The consonants that a syllable starts with, if it does not start with its vowel. -/
def initialSounds : List String :=
  ["", "G", "GG", "N", "D", "DD", "R", "M", "B", "BB", "S", "SS", "J", "JJ", "C", "K", "T", "P",
    "H"]

def vowelSounds : List String :=
  ["A", "AE", "YA", "YAE", "EO", "E", "YEO", "YE", "O", "WA", "WAE", "OE", "YO", "U", "WEO", "WE",
    "WI", "YU", "EU", "YI", "I"]

/-- The consonants that a syllable ends with, if it does not end with its vowel. -/
def finalSounds : List String :=
  ["", "G", "GG", "GS", "N", "NJ", "NH", "D", "L", "LG", "LM", "LB", "LS", "LT", "LP", "LH", "M",
    "B", "BS", "S", "SS", "NG", "J", "C", "K", "T", "P", "H"]

/-- What follows the longest of some sounds that a text starts with. -/
def behindSound? (sounds : List String) (cs : List Char) : Option (List Char) :=
  ((sounds.filter (·.toList.isPrefixOf cs)).map String.length).max?.map cs.drop

/-- Whether sounds make a syllable: each of its parts is the longest one that fits. -/
def isSyllable (cs : List Char) : Bool :=
  let behindVowel := (behindSound? initialSounds cs).bind (behindSound? vowelSounds)
  behindVowel.bind (behindSound? finalSounds) == some []

/-! ### Unified ideographs -/

/-- The first and last code points of the blocks of unified ideographs. -/
def ideographBlocks : List (Nat × Nat) :=
  [(0x3400, 0x4dbf), (0x4e00, 0x9fff), (0x20000, 0x2a6df), (0x2a700, 0x2b738), (0x2b740, 0x2b81d),
    (0x2b820, 0x2cea1), (0x2ceb0, 0x2ebe0), (0x30000, 0x3134a)]

/-- The value of a hexadecimal digit, of which the letters are capitals. -/
def capitalHexValue? (c : Char) : Option Nat :=
  if c.isDigit then some (c.toNat - '0'.toNat)
  else if 'A' ≤ c && c ≤ 'F' then some (c.toNat - 'A'.toNat + 10)
  else none

/-- Whether four or five hexadecimal digits are the code point of a unified ideograph. -/
def isIdeographNumber (cs : List Char) : Bool :=
  (cs.length == 4 || cs.length == 5) &&
    ((cs.mapM capitalHexValue?).map (·.foldl (fun n d => n * 16 + d) 0)).any fun n =>
      ideographBlocks.any fun (first, last) => first ≤ n && n ≤ last

/-! ### All names -/

/-- How the name of a Hangul syllable starts. -/
def syllableName : List Char := "HANGUL SYLLABLE ".toList

/-- How the name of a unified ideograph starts. -/
def ideographName : List Char := "CJK UNIFIED IDEOGRAPH-".toList

/-- Whether a character has a name. -/
def isCharacterName (name : List Char) : Bool :=
  if syllableName.isPrefixOf name then isSyllable (name.drop syllableName.length)
  else if ideographName.isPrefixOf name then isIdeographNumber (name.drop ideographName.length)
  else isListedName name

end RoleGrants.Text
