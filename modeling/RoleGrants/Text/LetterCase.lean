/-!
# Letter case

Two comparisons disregard letter case: a group name with the reserved word, and the name of a log
level with the known levels. Both have plain ASCII words on their other side, so only the characters
whose other case is an ASCII letter matter. Going down these are the ASCII capitals. Going up there
are two more, the dotless i and the long s.
-/

namespace RoleGrants.Text

/-- The small form of an ASCII capital; every other character is left alone. -/
def small (s : String) : List Char :=
  s.toList.map Char.toLower

/-- The capital form of a character as far as it is an ASCII letter: the dotless i has the capital I
and the long s the capital S. -/
def capitalChar (c : Char) : Char :=
  if c == 'ı' then 'I' else if c == 'ſ' then 'S' else c.toUpper

/-- The text in capitals, exact wherever the outcome is an ASCII letter. -/
def capitals (s : String) : String :=
  String.ofList (s.toList.map capitalChar)

end RoleGrants.Text
