/-!
# Blank text

A role, a group name or a template name is refused when it is blank: empty, or made of white space
only. White space is the Unicode property of that name together with the four separators
U+001C to U+001F.
-/

namespace RoleGrants.Text

/-- White space, as far as blank names are concerned. -/
def isBlankChar (c : Char) : Bool :=
  let n := c.toNat
  (0x09 ≤ n && n ≤ 0x0D) || (0x1C ≤ n && n ≤ 0x20) || n == 0x85 || n == 0xA0 || n == 0x1680 ||
    (0x2000 ≤ n && n ≤ 0x200A) || n == 0x2028 || n == 0x2029 || n == 0x202F || n == 0x205F ||
    n == 0x3000

/-- A text without any character that could be seen: the empty text is blank. -/
def isBlank (s : String) : Bool :=
  s.toList.all isBlankChar

end RoleGrants.Text
