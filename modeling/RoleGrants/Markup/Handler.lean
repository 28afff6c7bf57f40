import RoleGrants.Markup.Constant.Reading
import RoleGrants.Text.WordCharacter

/-!
# Handlers

A tag whose name starts with `@` names an event, and what stands behind its equals sign says which
handler is called for it: a dotted name, perhaps with arguments in parentheses, or the arguments
alone. The arguments have to be constants.
-/

namespace RoleGrants.Markup

/-- Whether a character may stand in the name of a handler. -/
def isHandlerChar (c : Char) : Bool := Text.isWordCharacter c || c == '.'

/-- Arguments in parentheses, all in one line. -/
def areArguments (cs : List Char) : Bool :=
  cs.head? == some '(' && cs.getLast? == some ')' && !cs.contains '\n'

/-- Whether a text says which handler is called. A name that is followed by anything but arguments
is no name, and the whole text has to be a constant. -/
def isHandler (cs : List Char) : Bool :=
  let call := Text.trim cs
  let arguments := call.dropWhile isHandlerChar
  arguments.isEmpty ||
    (if areArguments arguments then Constant.isConstant arguments else Constant.isConstant call)

end RoleGrants.Markup
