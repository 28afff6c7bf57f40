import RoleGrants.Failure
import RoleGrants.Literal

/-!
# Refusals put together by hand

A caller may make up a refusal of its own: of one of the three classes, with a wording or the one
that the class comes with, or of no class, with a wording and a status code. Wording and code are
taken as they are given.
-/

namespace RoleGrants

/-- A refusal as a caller sees it. -/
structure Report where
  message : Literal
  status : Literal
  deriving Repr

/-- A refusal of a class, or of none, from its parts. One of a class may do without a wording and
has its own code; one of no class must have a wording and may have a code. -/
def Report.ofParts : Option RefusalClass → List Literal → Except Misuse Report
  | some c, [] => .ok ⟨.text c.defaultMessage, .whole c.status⟩
  | some c, [message] => .ok ⟨message, .whole c.status⟩
  | some c, parts => .error (.tooManyParts c.name 0 1 parts.length)
  | none, [] => .error (.missingPart RefusalClass.baseName "message")
  | none, [message] => .ok ⟨message, .null⟩
  | none, [message, status] => .ok ⟨message, status⟩
  | none, parts => .error (.tooManyParts RefusalClass.baseName 1 2 parts.length)

end RoleGrants
