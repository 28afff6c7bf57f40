import RoleGrants.Membership
import RoleGrants.Principal

/-!
# Reading grants

Who holds what. Roles and projects are answered as sets, in the order of their code points; the two
counts are of rows on a project and of holders of a global role.
-/

namespace RoleGrants.Store

/-- The roles that groups of a name hold on a scope; the reserved name selects those of Anyone. -/
def rolesOfGroupNamed (s : Store) (name : Option String) (scope : Scope) : List String :=
  let here := s.groupGrants.filter (·.project == scope.projectId)
  let picked :=
    if isAnyone name then here.filter (·.group.isNone)
    else here.filter fun g => s.groups.any fun h => some h.id == g.group && some h.name == name
  sortTexts <| distinct <| picked.map (·.role)

/-- The roles granted on a scope to the user with a login. -/
def rolesOfLogin (s : Store) (login : Option String) (scope : Scope) : List String :=
  let picked := s.userGrants.filter fun g =>
    g.project == scope.projectId && s.users.any fun u => u.id == g.user && some u.login == login
  sortTexts <| distinct <| picked.map (·.role)

/-- How many grants there are on a project. -/
def countGrantsOn (s : Store) (project : Option String) : Nat :=
  s.userGrants.countP (·.project == project) + s.groupGrants.countP (·.project == project)

/-- The projects on which a user holds a role: directly, through a group, or as everybody does. -/
def projectsWithRole (s : Store) (role user : Option String) : List String :=
  let direct := s.userGrants.filter fun g => some g.user == user && some g.role == role
  let memberOf := (s.memberships.filter (some ·.user == user)).map (·.group)
  let indirect := s.groupGrants.filter fun g => some g.role == role && g.group.all memberOf.contains
  sortTexts <| distinct <|
    direct.filterMap (·.project) ++ indirect.filterMap (·.project)

/-- Whether a group grant is of a global role to a stored group, other than the excluded one. -/
def countsGlobally (role excluded : Option String) (g : GroupGrant) : Bool :=
  some g.role == role && g.project.isNone && g.group.isSome &&
    (excluded.isNone || g.group != excluded)

/-- How many users hold a global role by a grant of their own, plus how many do as members of a
group other than the excluded one. Who holds it both ways counts twice. -/
def countHolders (s : Store) (role excluded : Option String) : Nat :=
  let direct := s.userGrants.filter fun g => some g.role == role && g.project.isNone
  let groups := s.groupGrants.filter (countsGlobally role excluded)
  -- a member of two such groups counts once on this side
  let members := s.memberships.filter fun m => groups.any (·.group == some m.group)
  (distinct (direct.map (·.user))).length + (distinct (members.map (·.user))).length

end RoleGrants.Store
