import RoleGrants.Membership
import RoleGrants.Principal
import RoleGrants.Session

/-!
# Granting and revoking

Granting is idempotent: a grant that is there already is left alone, and the answer says whether a
row was written. Revoking answers with the number of rows taken away. Nothing here commits.

Whatever changes the grants of one principal on a project also marks the project with a new clock
reading, unless the caller asked to leave that out; the global scope has nothing to mark. Granting
to a principal of any kind (`grantTo`) leaves the mark to its caller, and revoking all grants of a
group leaves none.
-/

namespace RoleGrants

namespace Store

/-- Whether a user holds a role on a project, or globally. -/
def hasUserGrant (s : Store) (user project : Option String) (role : String) : Bool :=
  s.userGrants.any fun g => some g.user == user && g.project == project && g.role == role

/-- Whether a group, or Anyone, holds a role on a project, or globally. -/
def hasGroupGrant (s : Store) (group project : Option String) (role : String) : Bool :=
  s.groupGrants.any fun g => g.group == group && g.project == project && g.role == role

/-- Without the grants of users that are picked. -/
def dropUserGrants (s : Store) (picked : UserGrant → Bool) : Store :=
  { s with userGrants := s.userGrants.filter fun g => !picked g }

/-- Without the grants of groups that are picked. -/
def dropGroupGrants (s : Store) (picked : GroupGrant → Bool) : Store :=
  { s with groupGrants := s.groupGrants.filter fun g => !picked g }

end Store

open RoleGrants.Action

/-! ### The mark on a project -/

/-- Marks a project as changed. The clock is read whether or not the project exists, and not at all
for the global scope. -/
def refreshGrants (scope : Scope) : Action Unit :=
  match scope.projectId with
  | none => pure ()
  | some project => do
    -- the reading is taken even if no row is there to mark
    let now ← readClock
    changing (·.refresh project now)

/-- Marks a project as changed, if asked to. -/
def refreshIf (wanted : Bool) (scope : Scope) : Action Unit :=
  if wanted then refreshGrants scope else pure ()

/-! ### Granting -/

/-- Grants a role to a user. -/
def grantToUser (user role : Option String) (scope : Scope) (refresh : Bool) : Action Bool := do
  let role ← accepted (roleOf role)
  let held ← reading (·.hasUserGrant user scope.projectId role)
  if !held then writing (·.addUserGrant none user scope.projectId (some role))
  refreshIf refresh scope
  return !held

/-- Grants a role to a group, or to Anyone. -/
def grantToGroup (group role : Option String) (scope : Scope) (refresh : Bool) : Action Bool := do
  let role ← accepted (roleOf role)
  let held ← reading (·.hasGroupGrant group scope.projectId role)
  if !held then writing (·.addGroupGrant none group scope.projectId (some role))
  refreshIf refresh scope
  return !held

/-- Grants a role to a principal of any kind, without marking the project. -/
def grantTo (principal : Principal) (role : Option String) (scope : Scope) : Action Bool :=
  match principal with
  | .user id => grantToUser id role scope false
  | .group id => grantToGroup id role scope false
  | .anyone => grantToGroup none role scope false
  | .unsupported value => refuse (.unsupportedPrincipal value.quoted)

/-- Grants a role to the group of a name in an organization, or to Anyone. -/
def grantToNamedGroup (organization name role : Option String) (scope : Scope) : Action Bool := do
  let found ← reading (·.findGroupOrAnyone ⟨none, organization, name⟩)
  let group ← accepted found
  grantToGroup group.storedId role scope true

/-! ### Revoking -/

/-- Takes the picked grants of users away and counts them. -/
def takeUserGrants (picked : UserGrant → Bool) : Action Nat := do
  let count ← reading (·.userGrants.countP picked)
  changing (·.dropUserGrants picked)
  return count

/-- Takes the picked grants of groups away and counts them. -/
def takeGroupGrants (picked : GroupGrant → Bool) : Action Nat := do
  let count ← reading (·.groupGrants.countP picked)
  changing (·.dropGroupGrants picked)
  return count

/-- Revokes a role of a user. -/
def revokeFromUser (user role : Option String) (scope : Scope) : Action Nat := do
  let count ← takeUserGrants fun g =>
    some g.user == user && g.project == scope.projectId && some g.role == role
  refreshGrants scope
  return count

/-- Revokes a role of a group, or of Anyone. -/
def revokeFromGroup (group role : Option String) (scope : Scope) : Action Nat := do
  let count ← takeGroupGrants fun g =>
    g.group == group && g.project == scope.projectId && some g.role == role
  refreshGrants scope
  return count

/-- Revokes every grant of a group, global and on projects. No project is marked. -/
def revokeAllOfGroup (group : Option String) : Action Nat :=
  takeGroupGrants (·.group == group)

/-- Revokes every grant on a project. -/
def revokeAllOnProject (project : Option String) : Action Nat := do
  let users ← takeUserGrants (·.project == project)
  let groups ← takeGroupGrants (·.project == project)
  refreshGrants (.project project)
  return users + groups

end RoleGrants
