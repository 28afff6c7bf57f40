import RoleGrants.Text.DecimalDigit
import RoleGrants.Text.Lowercase
import RoleGrants.Text.Parts

/-!
# Names of styles

A style is written in words: attributes such as `bold`, each possibly behind `not`, a colour, a
background colour behind `on`, and a link target behind `link`. Different spellings may mean one
style, so tags are compared by `normalForm`: attributes under their full names in a fixed order,
then the colours, then the link. Words that make no style stand for themselves, in small letters.

One kind of words has no meaning at all, not even as themselves: three components of a colour, one
of which is no number.
-/

namespace RoleGrants.Markup

/-- Why words make no style. -/
inductive StyleFault where
  /-- a word that is neither attribute nor colour, or that lacks the word which has to follow -/
  | unknownWord
  /-- a component of a colour that cannot be read -/
  | unreadableComponent
  deriving DecidableEq, Repr

/-- The attributes, in the order of the normal form. -/
def attributeNames : List String :=
  ["bold", "dim", "italic", "underline", "blink", "blink2", "reverse", "conceal", "strike",
    "underline2", "frame", "encircle", "overline"]

/-- The short names of attributes. -/
def shortNames : List (String × String) :=
  [("b", "bold"), ("d", "dim"), ("i", "italic"), ("u", "underline"), ("r", "reverse"),
    ("c", "conceal"), ("s", "strike"), ("uu", "underline2"), ("o", "overline")]

/-- The attribute that a word names. -/
def attribute? (word : String) : Option String :=
  if attributeNames.contains word then some word
  else (shortNames.find? (·.1 == word)).map (·.2)

/-- The named colours. -/
def colourNames : List String :=
  List.flatMap (String.splitOn · " ") [
    "black red green yellow blue magenta cyan white bright_black bright_red bright_green",
    "bright_yellow bright_blue bright_magenta bright_cyan bright_white grey0 gray0 navy_blue",
    "dark_blue blue3 blue1 dark_green deep_sky_blue4 dodger_blue3 dodger_blue2 green4",
    "spring_green4 turquoise4 deep_sky_blue3 dodger_blue1 green3 spring_green3 dark_cyan",
    "light_sea_green deep_sky_blue2 deep_sky_blue1 spring_green2 cyan3 dark_turquoise turquoise2",
    "green1 spring_green1 medium_spring_green cyan2 cyan1 dark_red deep_pink4 purple4 purple3",
    "blue_violet orange4 grey37 gray37 medium_purple4 slate_blue3 royal_blue1 chartreuse4",
    "dark_sea_green4 pale_turquoise4 steel_blue steel_blue3 cornflower_blue chartreuse3",
    "cadet_blue sky_blue3 steel_blue1 pale_green3 sea_green3 aquamarine3 medium_turquoise",
    "chartreuse2 sea_green2 sea_green1 aquamarine1 dark_slate_gray2 dark_magenta dark_violet",
    "purple light_pink4 plum4 medium_purple3 slate_blue1 yellow4 wheat4 grey53 gray53",
    "light_slate_grey light_slate_gray medium_purple light_slate_blue dark_olive_green3",
    "dark_sea_green light_sky_blue3 sky_blue2 dark_sea_green3 dark_slate_gray3 sky_blue1",
    "chartreuse1 light_green pale_green1 dark_slate_gray1 red3 medium_violet_red magenta3",
    "dark_orange3 indian_red hot_pink3 medium_orchid3 medium_orchid medium_purple2 dark_goldenrod",
    "light_salmon3 rosy_brown grey63 gray63 medium_purple1 gold3 dark_khaki navajo_white3 grey69",
    "gray69 light_steel_blue3 light_steel_blue yellow3 dark_sea_green2 light_cyan3",
    "light_sky_blue1 green_yellow dark_olive_green2 dark_sea_green1 pale_turquoise1 deep_pink3",
    "magenta2 hot_pink2 orchid medium_orchid1 orange3 light_pink3 pink3 plum3 violet",
    "light_goldenrod3 tan misty_rose3 thistle3 plum2 khaki3 light_goldenrod2 light_yellow3 grey84",
    "gray84 light_steel_blue1 yellow2 dark_olive_green1 honeydew2 light_cyan1 red1 deep_pink2",
    "deep_pink1 magenta1 orange_red1 indian_red1 hot_pink dark_orange salmon1 light_coral",
    "pale_violet_red1 orchid2 orchid1 orange1 sandy_brown light_salmon1 light_pink1 pink1 plum1",
    "gold1 navajo_white1 misty_rose1 thistle1 yellow1 light_goldenrod1 khaki1 wheat1 cornsilk1",
    "grey100 gray100 grey3 gray3 grey7 gray7 grey11 gray11 grey15 gray15 grey19 gray19 grey23",
    "gray23 grey27 gray27 grey30 gray30 grey35 gray35 grey39 gray39 grey42 gray42 grey46 gray46",
    "grey50 gray50 grey54 gray54 grey58 gray58 grey62 gray62 grey66 gray66 grey70 gray70 grey74",
    "gray74 grey78 gray78 grey82 gray82 grey85 gray85 grey89 gray89 grey93 gray93"]

/-- The largest number that a component of a colour, or a place in the palette, may be. -/
def maxColourByte : Nat := 255

/-- The most digits that a component may have. -/
def maxComponentDigits : Nat := 4300

/-- The text between an opening word with its parenthesis and a closing parenthesis at the end. -/
def argument? (opening : String) (cs : List Char) : Option (List Char) :=
  if opening.toList.isPrefixOf cs && cs.getLast? == some ')' then
    some ((cs.drop opening.length).dropLast)
  else none

/-- Six hexadecimal digits in small letters, behind a hash. -/
def isHexColour (cs : List Char) : Bool :=
  cs.head? == some '#' && cs.length == 7 &&
    (cs.drop 1).all fun d => d.isDigit || ('a' ≤ d && d ≤ 'f')

/-- A place in the palette: one to three digits. -/
def isPaletteNumber (cs : List Char) : Bool :=
  !cs.isEmpty && cs.length ≤ 3 && cs.all Char.isDigit &&
    (Text.numberOfDigits? cs).any (· ≤ maxColourByte)

/-- The value of a component: a number in decimal digits of any script. -/
def component? (cs : List Char) : Option Nat :=
  if cs.isEmpty || maxComponentDigits < cs.length then none else Text.numberOfDigits? cs

/-- Checks the components of a colour. Only digits and commas make components, and only three
components make a colour; but of three components each has to be a number. -/
def checkComponents (cs : List Char) : Except StyleFault Unit :=
  if cs.isEmpty || !cs.all (fun c => c == ',' || (Text.digitValue? c).isSome) then
    .error .unknownWord
  else
    match Text.partsBetween ',' cs with
    | [red, green, blue] =>
      match component? red, component? green, component? blue with
      | some r, some g, some b =>
        if r ≤ maxColourByte && g ≤ maxColourByte && b ≤ maxColourByte then .ok ()
        else .error .unknownWord
      | _, _, _ => .error .unreadableComponent
    | _ => .error .unknownWord

/-- Checks that a word in small letters is a colour: a name, six hexadecimal digits, a number of the
palette, or three components. -/
def checkColour (word : String) : Except StyleFault Unit :=
  let cs := word.toList
  if word == "default" || colourNames.contains word || isHexColour cs ||
      (argument? "color(" cs).any isPaletteNumber then .ok ()
  else
    match argument? "rgb(" cs with
    | some components => checkComponents components
    | none => .error .unknownWord

/-- A style, taken apart. -/
structure Style where
  attributes : List (String × Bool) := []
  colour : Option String := none
  background : Option String := none
  link : Option String := none

def smallLetters (word : String) : String := String.ofList (Text.lowered word.toList)

/-- Goes on with a word that stands for itself: an attribute or a colour. -/
def Style.withWord (s : Style) (small : String) : Except StyleFault Style :=
  match attribute? small with
  | some a => .ok { s with attributes := (a, true) :: s.attributes }
  | none => (checkColour small).map fun _ => { s with colour := some small }

/-- Goes on with a word behind `on`, `not` or `link`. -/
def Style.withPair (s : Style) (lead word : String) : Except StyleFault Style :=
  if lead = "link" then .ok { s with link := some word }
  else if lead = "not" then
    match attribute? word with
    | some a => .ok { s with attributes := (a, false) :: s.attributes }
    | none => .error .unknownWord
  else
    (checkColour (smallLetters word)).map fun _ =>
      { s with background := some (smallLetters word) }

/-- The words that another one has to follow. -/
def leadWords : List String := ["on", "not", "link"]

/-- Reads words from the first on, up to the first that makes no style. -/
def Style.read (s : Style) : List String → Except StyleFault Style
  | [] => .ok s
  | [word] =>
    if leadWords.contains (smallLetters word) then .error .unknownWord
    else s.withWord (smallLetters word)
  | word :: next :: rest =>
    if leadWords.contains (smallLetters word) then
      (s.withPair (smallLetters word) next).bind fun s => s.read rest
    else (s.withWord (smallLetters word)).bind fun s => s.read (next :: rest)

/-- The words of a style in the order of the normal form; of an attribute the last mention
counts. -/
def Style.words (s : Style) : List String :=
  attributeNames.filterMap (fun a =>
      (s.attributes.find? (·.1 == a)).map fun m => if m.2 then a else "not " ++ a) ++
    s.colour.toList ++ (s.background.toList.map ("on " ++ ·)) ++ (s.link.toList.map ("link " ++ ·))

/-- The style that a text asks for. -/
def Style.ofText (cs : List Char) : Except StyleFault Style :=
  let words := (Text.wordsOf cs).map String.ofList
  if words == ["none"] then .ok {} else Style.read {} words

/-- The form by which the names of tags are compared. The only fault left is a component that cannot
be read. -/
def normalForm (name : List Char) : Except StyleFault String :=
  match Style.ofText name with
  | .ok s => .ok (if s.words.isEmpty then "none" else String.intercalate " " s.words)
  | .error .unknownWord => .ok (String.ofList (Text.lowered (Text.trim name)))
  | .error .unreadableComponent => .error .unreadableComponent

/-- Whether a text asks for a style with a component that cannot be read. -/
def isUnreadableStyle (cs : List Char) : Bool :=
  match Style.ofText cs with
  | .error .unreadableComponent => true
  | _ => false

end RoleGrants.Markup
