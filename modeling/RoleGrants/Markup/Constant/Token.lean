import RoleGrants.Text.CharacterName
import RoleGrants.Text.Parts

/-!
# Tokens of constants

A constant is written with numbers, texts between quotes, a few words, signs, and parentheses and
braces around lists. This module takes such a writing apart into tokens, of which only the kind is
kept, since nothing but their order decides whether a constant is well formed.

Numbers are whole (decimal, or in base 16, 8 or 2 behind `0x`, `0o` or `0b`), or have a fraction or
an exponent, and a `j` at the end makes them imaginary; single low lines may stand between digits. A
text stands between single or double quotes, or three of them if it has several lines. Letters
before the quotes tell its kind, and a backslash starts an escape. White space and comments separate
tokens.

`length_of_next?` says that every token takes its first character away, so that the reading ends.
-/

namespace RoleGrants.Markup.Constant

inductive Bracket where
  | round
  | curly
  deriving DecidableEq, Repr

inductive Token where
  /-- a number that is not imaginary; a whole number may be too large for one with a fraction -/
  | real (fits : Bool)
  | imaginary
  | text
  | bytes
  /-- a word, or the three dots, that stands for a value -/
  | named
  /-- the word that, called with nothing, gives the empty set -/
  | setName
  | opening (bracket : Bracket)
  | closing (bracket : Bracket)
  | comma
  | colon
  | sign
  /-- the end of a line, and whether the next line has contents behind white space -/
  | lineEnd (indented : Bool)
  deriving DecidableEq, Repr

/-! ### Numbers -/

/-- Groups of digits with single low lines between them. -/
def isGrouped (isDigit : Char → Bool) (cs : List Char) : Bool :=
  (Text.partsBetween '_' cs).all fun group => !group.isEmpty && group.all isDigit

/-- The value of a digit up to `f`. -/
def hexValue (c : Char) : Nat := if c.isDigit then c.toNat - 0x30 else c.toLower.toNat - 0x57

/-- Whether a character is a digit in a base up to 16. -/
def isDigitOf (base : Nat) (c : Char) : Bool :=
  (c.isDigit || ('a' ≤ c.toLower && c.toLower ≤ 'f')) && hexValue c < base

/-- The number that grouped digits spell. -/
def wholeOfDigits (base : Nat) (cs : List Char) : Nat :=
  (cs.filter (· != '_')).foldl (fun n c => n * base + hexValue c) 0

/-- From this number on a whole number is nearer to 2 ^ 1024 than to any number with a fraction. -/
def beyondFractions : Nat := Nat.pow 2 1024 - Nat.pow 2 970

/-- The most digits that a decimal whole number may have. -/
def maxDigits : Nat := 4300

/-- A whole number in a base, if it is written well. -/
def wholeToken? (base : Nat) (cs : List Char) : Option Token :=
  if isGrouped (isDigitOf base) cs then some (.real (wholeOfDigits base cs < beyondFractions))
  else none

/-- The base that the letter behind a zero asks for. -/
def baseOf? (letter : Char) : Option Nat :=
  if letter == 'x' then some 16
  else if letter == 'o' then some 8
  else if letter == 'b' then some 2
  else none

/-- A decimal whole number. One that starts with zero is zero. -/
def decimalToken? (cs : List Char) : Option Token :=
  if maxDigits < (cs.filter (· != '_')).length then none
  else if cs.head? == some '0' && cs.any (fun c => c != '0' && c != '_') then none
  else wholeToken? 10 cs

/-- Digits before and behind the decimal point, of which one side may be missing. -/
def isMantissa (cs : List Char) : Bool :=
  match Text.partsBetween '.' cs with
  | [whole] => isGrouped Char.isDigit whole
  | [whole, part] =>
    (whole.isEmpty || isGrouped Char.isDigit whole) &&
      (part.isEmpty || isGrouped Char.isDigit part) && !(whole.isEmpty && part.isEmpty)
  | _ => false

/-- Digits behind an optional sign. -/
def isExponent (cs : List Char) : Bool :=
  match cs with
  | [] => false
  | c :: rest =>
    if c == '+' || c == '-' then isGrouped Char.isDigit rest else isGrouped Char.isDigit cs

/-- A number with a mantissa and perhaps an exponent. -/
def isFraction (cs : List Char) : Bool :=
  match Text.partsBetween 'e' cs with
  | [mantissa] => isMantissa mantissa
  | [mantissa, exponent] => isMantissa mantissa && isExponent exponent
  | _ => false

/-- A number that is written without a base, in small letters. -/
def plainNumber? (cs : List Char) : Option Token :=
  if cs.getLast? == some 'j' then if isFraction cs.dropLast then some .imaginary else none
  else if cs.contains '.' || cs.contains 'e' then if isFraction cs then some (.real true) else none
  else decimalToken? cs

/-- A number, from all the characters that may belong to it. -/
def numberToken? (lexeme : List Char) : Option Token :=
  let cs := lexeme.map Char.toLower
  match cs with
  | '0' :: letter :: digits =>
    match baseOf? letter, digits with
    | some base, '_' :: digits => wholeToken? base digits
    | some base, digits => wholeToken? base digits
    | none, _ => plainNumber? cs
  | _ => plainNumber? cs

/-- The letters, digits and low lines of ASCII. -/
def isWordChar (c : Char) : Bool := c.isAlphanum || c == '_'

/-- The rest of the characters of a number behind `previous`, and what follows. In a decimal number
a sign may follow the mark of the exponent. -/
def splitNumber (decimal : Bool) (previous : Char) : List Char → List Char × List Char
  | [] => ([], [])
  | c :: cs =>
    if isWordChar c || c == '.' ||
        (decimal && previous.toLower == 'e' && (c == '+' || c == '-')) then
      (c :: (splitNumber decimal c cs).1, (splitNumber decimal c cs).2)
    else ([], c :: cs)

/-! ### Texts -/

/-- The body of a text up to the closing quotes, and what follows them. A backslash takes the next
character along; a text in single quotes ends in its line. -/
def closeText (long : Bool) (quote : Char) : List Char → Option (List Char × List Char)
  | [] => none
  | c :: cs =>
    if c == quote && (!long || [quote, quote].isPrefixOf cs) then
      some ([], cs.drop (if long then 2 else 0))
    else if c == '\n' && !long then none
    else if c == '\\' then
      match cs with
      | [] => none
      | d :: rest => (closeText long quote rest).map fun (body, rest) => (c :: d :: body, rest)
    else (closeText long quote cs).map fun (body, rest) => (c :: body, rest)

/-- Whether a text goes on with a number of hexadecimal digits, and their value is below a bound. -/
def startsWithHex (count bound : Nat) (cs : List Char) : Bool :=
  let digits := cs.take count
  digits.length == count && digits.all (isDigitOf 16) && wholeOfDigits 16 digits < bound

/-- Whether a text goes on with the name of a character in braces. -/
def startsWithName (cs : List Char) : Bool :=
  match cs with
  | c :: rest =>
    c == '\x7b' && rest.contains '\x7d' && Text.isCharacterName (rest.takeWhile (· != '\x7d'))
  | [] => false

/-- Whether what follows the letter of an escape is what that letter asks for. Bytes know only the
two-digit escape. -/
def isEscape (bytes : Bool) (letter : Char) (rest : List Char) : Bool :=
  if letter == 'x' then startsWithHex 2 0x100 rest
  else if bytes then true
  else if letter == 'u' then startsWithHex 4 0x10000 rest
  else if letter == 'U' then startsWithHex 8 0x110000 rest
  else if letter == 'N' then startsWithName rest
  else true

/-- Whether all escapes of a body are written well. -/
def areEscapes (bytes : Bool) : List Char → Bool
  | [] => true
  | [_] => true
  | c :: d :: rest =>
    if c == '\\' then isEscape bytes d rest && areEscapes bytes rest
    else areEscapes bytes (d :: rest)

/-- Letters before the quotes of a text: whether its escapes are read, and whether it is bytes. -/
def textKind? (letters : List Char) : Option (Bool × Bool) :=
  let s := String.ofList (letters.map Char.toLower)
  if s == "" || s == "u" then some (true, false)
  else if s == "r" then some (false, false)
  else if s == "b" then some (true, true)
  else if s == "br" || s == "rb" then some (false, true)
  else none

/-- The token of a text with a body. -/
def textToken? (letters body : List Char) : Option Token := do
  let (escapes, bytes) ← textKind? letters
  if escapes && !areEscapes bytes body then none
  else if bytes then if body.all (·.toNat < 0x80) then some .bytes else none
  else some .text

def isQuote (c : Char) : Bool := c == '"' || c == '\x27'

/-- A text behind its letters and its opening quote, and what follows. -/
def textAt? (letters : List Char) (quote : Char) (cs : List Char) : Option (Token × List Char) :=
  let long := [quote, quote].isPrefixOf cs
  (closeText long quote (if long then cs.drop 2 else cs)).bind fun (body, rest) =>
    (textToken? letters body).map fun t => (t, rest)

/-! ### Words -/

/-- The characters of a word. -/
def belongsToWord (c : Char) : Bool := isWordChar c || 0x80 ≤ c.toNat

/-- Letters, each with those of other styles that stand for it in a word: the long s, raised and
lowered letters, those of full width, and those of the mathematical alphabets. -/
def letterStyles : List (Char × String) :=
  [('s', "ſˢₛｓ𝐬𝑠𝒔𝓈𝓼𝔰𝕤𝖘𝗌𝘀𝘴𝙨𝚜"), ('e', "ᵉₑℯⅇｅ𝐞𝑒𝒆𝓮𝔢𝕖𝖊𝖾𝗲𝘦𝙚𝚎"), ('t', "ᵗₜｔ𝐭𝑡𝒕𝓉𝓽𝔱𝕥𝖙𝗍𝘁𝘵𝙩𝚝")]

/-- The plain letter that a character of a word stands for. -/
def plainLetter (c : Char) : Char :=
  ((letterStyles.find? fun (_, styles) => styles.toList.contains c).map (·.1)).getD c

/-- The token of a word. The words for values have to be written in plain letters. -/
def wordToken? (word : List Char) : Option Token :=
  if ["True", "False", "None"].contains (String.ofList word) then some .named
  else if String.ofList (word.map plainLetter) == "set" then some .setName
  else none

/-- A word behind its first character, or a text with letters before it, and what follows. -/
def wordAt? (first : Char) (cs : List Char) : Option (Token × List Char) :=
  let word := first :: cs.takeWhile belongsToWord
  match cs.dropWhile belongsToWord with
  | q :: rest =>
    if isQuote q then textAt? word q rest else (wordToken? word).map fun t => (t, q :: rest)
  | [] => (wordToken? word).map fun t => (t, [])

/-! ### One token after the other -/

/-- White space within a line. -/
def isSpacing (c : Char) : Bool := c == ' ' || c == '\t' || c == '\x0c'

/-- Whether a line has contents behind white space, of which `spaced` says whether some has been
read. A form feed starts the line again, and a backslash goes on with the next line, where
`continued` says whether a line that went on like this had white space. -/
def isIndentedFrom (spaced continued : Bool) : List Char → Bool
  | [] => false
  | c :: cs =>
    if c == '\x0c' then isIndentedFrom false continued cs
    else if isSpacing c then isIndentedFrom true continued cs
    else if c == '\\' then
      match cs with
      | [] => false
      | _ :: rest => isIndentedFrom spaced (continued || spaced) rest
    else (continued || spaced) && c != '\n' && c != '#'

/-- Whether a line has contents behind white space. -/
def isIndented (cs : List Char) : Bool := isIndentedFrom false false cs

/-- The token of a character that is one by itself. -/
def mark? (c : Char) : Option Token :=
  if c == '(' then some (.opening .round)
  else if c == ')' then some (.closing .round)
  else if c == '\x7b' then some (.opening .curly)
  else if c == '\x7d' then some (.closing .curly)
  else if c == ',' then some .comma
  else if c == ':' then some .colon
  else if c == '+' || c == '-' then some .sign
  else none

/-- Whether a number starts with a character, before others. -/
def startsNumber (c : Char) (cs : List Char) : Bool :=
  c.isDigit || (c == '.' && cs.head?.any Char.isDigit)

/-- Whether a decimal number starts with two characters, and not one of another base. -/
def startsDecimal (c : Char) (cs : List Char) : Bool :=
  !(c == '0' && cs.head?.any fun letter => (baseOf? letter.toLower).isSome)

/-- What starts with a character before others: a token, or nothing that counts; and what
follows. -/
def next? (c : Char) (cs : List Char) : Option (Option Token × List Char) :=
  if isSpacing c then some (none, cs)
  else if c == '#' then some (none, cs.dropWhile (· != '\n'))
  else if c == '\n' then some (some (.lineEnd (isIndented cs)), cs)
  else if c == '\\' then
    -- a line may go on behind a backslash, but it has to go on
    if cs.head? == some '\n' && 1 < cs.length then some (none, cs.drop 1) else none
  else if startsNumber c cs then
    let (lexeme, rest) := splitNumber (startsDecimal c cs) c cs
    (numberToken? (c :: lexeme)).map fun t => (some t, rest)
  else if c == '.' then
    if ['.', '.'].isPrefixOf cs then some (some .named, cs.drop 2) else none
  else if isQuote c then (textAt? [] c cs).map fun (t, rest) => (some t, rest)
  else if belongsToWord c then (wordAt? c cs).map fun (t, rest) => (some t, rest)
  else (mark? c).map fun t => (some t, cs)

/-! ### What follows is shorter -/

theorem length_splitNumber_le (decimal : Bool) (previous : Char) (cs : List Char) :
    (splitNumber decimal previous cs).2.length ≤ cs.length := by
  induction cs generalizing previous with
  | nil => exact Nat.le_refl _
  | cons c cs ih =>
    unfold splitNumber
    split
    · exact Nat.le_succ_of_le (ih c)
    · exact Nat.le_refl _

theorem length_of_closeText {long : Bool} {quote : Char} {cs body rest : List Char}
    (h : closeText long quote cs = some (body, rest)) : rest.length ≤ cs.length := by
  fun_induction closeText long quote cs generalizing body with
  | case1 => cases h
  | case2 => cases h; simp; omega
  | case3 => cases h
  | case4 => cases h
  | case5 c _ _ _ d cs' ih =>
    obtain ⟨⟨b, r⟩, hbr, heq⟩ := Option.map_eq_some_iff.1 h
    cases heq
    have := ih hbr
    simp only [List.length_cons]
    omega
  | case6 c cs' _ _ _ ih =>
    obtain ⟨⟨b, r⟩, hbr, heq⟩ := Option.map_eq_some_iff.1 h
    cases heq
    exact Nat.le_succ_of_le (ih hbr)

theorem length_of_textAt? {letters cs rest : List Char} {quote : Char} {t : Token}
    (h : textAt? letters quote cs = some (t, rest)) : rest.length ≤ cs.length := by
  obtain ⟨⟨body, r⟩, hclose, h⟩ := Option.bind_eq_some_iff.1 h
  obtain ⟨t', _, heq⟩ := Option.map_eq_some_iff.1 h
  cases heq
  refine Nat.le_trans (length_of_closeText hclose) ?_
  split <;> simp

theorem length_of_wordAt? {c : Char} {cs rest : List Char} {t : Token}
    (h : wordAt? c cs = some (t, rest)) : rest.length ≤ cs.length := by
  have hle : (cs.dropWhile belongsToWord).length ≤ cs.length :=
    (List.dropWhile_sublist _).length_le
  unfold wordAt? at h
  split at h
  · next q r heq =>
    rw [heq] at hle
    split at h
    · exact Nat.le_trans (length_of_textAt? h) (Nat.le_trans (Nat.le_succ _) hle)
    · obtain ⟨t', _, heq⟩ := Option.map_eq_some_iff.1 h
      cases heq
      exact hle
  · obtain ⟨t', _, heq⟩ := Option.map_eq_some_iff.1 h
    cases heq
    exact Nat.zero_le _

theorem length_of_next? {c : Char} {cs rest : List Char} {t : Option Token}
    (h : next? c cs = some (t, rest)) : rest.length ≤ cs.length := by
  unfold next? at h
  split at h
  · cases h; exact Nat.le_refl _
  split at h
  · cases h; exact (List.dropWhile_sublist _).length_le
  split at h
  · cases h; exact Nat.le_refl _
  split at h
  · split at h
    · cases h; simp
    · cases h
  split at h
  · obtain ⟨t', _, heq⟩ := Option.map_eq_some_iff.1 h
    cases heq
    exact length_splitNumber_le _ _ _
  split at h
  · split at h
    · cases h; simp
    · cases h
  split at h
  · obtain ⟨⟨t', r⟩, htext, heq⟩ := Option.map_eq_some_iff.1 h
    cases heq
    exact length_of_textAt? htext
  split at h
  · obtain ⟨⟨t', r⟩, hword, heq⟩ := Option.map_eq_some_iff.1 h
    cases heq
    exact length_of_wordAt? hword
  · obtain ⟨t', _, heq⟩ := Option.map_eq_some_iff.1 h
    cases heq
    exact Nat.le_refl _

/-- The tokens of a writing, if it is made of tokens. -/
def tokens? : List Char → Option (List Token)
  | [] => some []
  | c :: cs =>
    match _ : next? c cs with
    | none => none
    | some (t, rest) => (tokens? rest).map (t.toList ++ ·)
termination_by cs => cs.length
decreasing_by exact Nat.lt_succ_of_le (length_of_next? ‹_›)

end RoleGrants.Markup.Constant
