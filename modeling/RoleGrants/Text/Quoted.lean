import RoleGrants.Text.Printable

/-!
# Quoted text

A text is shown between single quotes, or between double quotes when it holds a single quote and no
double one. The backslash and the quote in use are written behind a backslash, the tabulator and the
line ends as `\t`, `\n` and `\r`, and every other unprintable character by its code point in
hexadecimal: two digits behind `\x`, four behind `\u` or eight behind `\U`.
-/

namespace RoleGrants.Text

/-- The quote that surrounds a text. -/
def quoteFor (cs : List Char) : Char :=
  if cs.contains '\x27' && !cs.contains '"' then '"' else '\x27'

/-- `n` in hexadecimal with exactly `width` digits. -/
def hexDigits : Nat → Nat → List Char
  | 0, _ => []
  | width + 1, n => hexDigits width (n / 16) ++ [Nat.digitChar (n % 16)]

/-- One character inside the quotes `q`. -/
def quotedChar (q c : Char) : List Char :=
  if c == '\\' || c == q then ['\\', c]
  else if c == '\t' then ['\\', 't']
  else if c == '\n' then ['\\', 'n']
  else if c == '\r' then ['\\', 'r']
  else if isPrintable c then [c]
  else if c.toNat < 0x100 then '\\' :: 'x' :: hexDigits 2 c.toNat
  else if c.toNat < 0x10000 then '\\' :: 'u' :: hexDigits 4 c.toNat
  else '\\' :: 'U' :: hexDigits 8 c.toNat

/-- A text between quotes. -/
def quoted (s : String) : String :=
  let cs := s.toList
  let q := quoteFor cs
  String.ofList (q :: cs.flatMap (quotedChar q) ++ [q])

/-- What is shown for a value that is absent. -/
def absent : String := "None"

/-- A text between quotes, or the word for an absent one. -/
def quotedOption : Option String → String
  | some s => quoted s
  | none => absent

/-- A text as it stands, or the word for an absent one. -/
def plainOption : Option String → String
  | some s => s
  | none => absent

end RoleGrants.Text
