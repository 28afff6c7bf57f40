import RoleGrants.Failure
import RoleGrants.Literal

/-!
# Principals and scopes

A role is held by a principal on a scope. The principal is one user, one group, or Anyone, the group
of everybody, anonymous visitors included. Anyone is a value of its own and not a stored group. The
scope is one project, or global.

Which principal is meant is decided by the id alone. A `Mention` carries beside it what a caller
said about it, the login of a user or the organization of a group, which is shown but never
compared.
-/

namespace RoleGrants

/-- Who holds a role. An id may be missing; `unsupported` is any other value given in place of a
principal. -/
inductive Principal where
  | user (id : Option String)
  | group (id : Option String)
  | anyone
  | unsupported (value : Literal)
  deriving DecidableEq, Repr

namespace Principal

/-- The id of a principal. Anyone has none, and so a group without an id is stored as Anyone. -/
def id? : Principal → Option String
  | .user id | .group id => id
  | .anyone | .unsupported _ => none

/-- What a principal counts as in a set: only a value in place of one counts as something else. -/
def identity : Principal → Principal
  | .unsupported value => .unsupported value.identity
  | principal => principal

/-- The name of the kind of a principal. -/
def kindName : Principal → String
  | .user _ => "UserId"
  | .group _ => "GroupId"
  | .anyone => "Anyone"
  | .unsupported value => value.kindName

/-- Checks that a principal can be in a set. -/
def checkMember : Principal → Except Misuse Unit
  | .unsupported value =>
    if value.canBeMember then .ok () else .error (.noMember value.kindName)
  | _ => .ok ()

/-- The id of a principal that is taken for a group or Anyone. -/
def groupId : Principal → Except Misuse (Option String)
  | .unsupported value => .error (.lacksPart value.kindName "id")
  | principal => .ok principal.id?

end Principal

/-- A principal as a caller names it, with its login or its organization. -/
structure Mention where
  principal : Principal
  detail : Option String := none
  deriving DecidableEq, Repr

/-- The text that shows a principal with the detail it was named with. -/
def Mention.description (m : Mention) : String :=
  match m.principal with
  | .user id =>
    String.join ["UserId(id=", Text.quotedOption id, ", login=", Text.quotedOption m.detail, ")"]
  | .group id =>
    String.join ["GroupId(id=", Text.quotedOption id, ", organization_id=",
      Text.quotedOption m.detail, ")"]
  | .anyone => "ANYONE"
  | .unsupported value => value.quoted

/-- Where a role is held. -/
inductive Scope where
  | global
  | project (id : Option String)
  deriving DecidableEq, Repr

namespace Scope

/-- The project id under which a scope is stored: none for the global scope, and a project without
an id is stored as global. -/
def projectId : Scope → Option String
  | .global => none
  | .project id => id

/-- The text that shows a scope. -/
def description : Scope → String
  | .global => "GLOBAL"
  | .project id => String.join ["ProjectScope(project_id=", Text.quotedOption id, ")"]

end Scope

end RoleGrants
