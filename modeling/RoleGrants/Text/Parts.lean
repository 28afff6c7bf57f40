import RoleGrants.Text.Blank

/-!
# Parts of a text

Text is taken apart at a separator, or at white space into words.
-/

namespace RoleGrants.Text

/-- The parts of a text between separators, at least one. -/
def partsBetween (separator : Char) : List Char → List (List Char)
  | [] => [[]]
  | c :: cs =>
    match partsBetween separator cs with
    | [] => [[c]]
    | part :: parts => if c == separator then [] :: part :: parts else (c :: part) :: parts

/-- A text without white space at either end. -/
def trim (cs : List Char) : List Char :=
  ((cs.dropWhile isBlankChar).reverse.dropWhile isBlankChar).reverse

/-- The words of a text, separated by white space. -/
def wordsOf (cs : List Char) : List (List Char) :=
  (partsBetween ' ' (cs.map fun c => if isBlankChar c then ' ' else c)).filter (!·.isEmpty)

end RoleGrants.Text
