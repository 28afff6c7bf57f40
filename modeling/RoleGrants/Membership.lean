import RoleGrants.Distinct
import RoleGrants.Name
import RoleGrants.Store.Listing

/-!
# Memberships and references to groups

Which groups a user belongs to, and how a reference from outside becomes a group. A group is
referred to by its id, or by an organization and a name; where Anyone is admitted, the reserved name
designates Anyone in every organization, existing or not.
-/

namespace RoleGrants

namespace Store

/-- The ids of the groups of a user; an unknown or absent user has none. -/
def groupsOf (s : Store) (user : Option String) : List String :=
  distinct <| (s.memberships.filter (some ·.user == user)).map (·.group)

/-- The join of users, memberships and groups for some logins: the login of a user beside the name
of each group of the user. -/
def joinedNames (s : Store) (logins : List (Option String)) : List (String × String) :=
  (s.users.filter fun u => logins.contains (some u.login)).flatMap fun u =>
    (s.memberships.filter (·.user == u.id)).flatMap fun m =>
      (s.groups.filter (·.id == m.group)).map fun g => (u.login, g.name)

/-- Whether a row of the join may stand before another: by login, and for one login by name. -/
def loginThenName (a b : String × String) : Bool :=
  decide (a.1 < b.1) || (a.1 == b.1 && decide (a.2 ≤ b.2))

/-- Enters the name of a row behind those that its login has already. -/
def enterName (entries : List (Option String × List String)) (row : String × String) :
    List (Option String × List String) :=
  entries.map fun e => if e.1 == some row.1 then (e.1, e.2 ++ [row.2]) else e

/-- For each login, in order of first appearance, the names of the groups of its user: the join in
order, row by row entered under the logins. -/
def groupNamesByLogin (s : Store) (logins : List (Option String)) :
    List (Option String × List String) :=
  ((s.joinedNames logins).mergeSort loginThenName).foldl enterName
    ((distinct logins).map fun login => (login, []))

/-- How many users belong to a group. -/
def countMembers (s : Store) (group : Option String) : Nat :=
  s.memberships.countP (some ·.group == group)

end Store

/-! ### References -/

/-- A reference to a group: by id, or by organization and name. -/
structure GroupReference where
  id : Option String := none
  organization : Option String := none
  name : Option String := none
  deriving DecidableEq, Repr

/-- What a reference was found to name. -/
inductive FoundGroup where
  | group (id organization : String)
  | anyone
  deriving DecidableEq, Repr

namespace FoundGroup

def ofGroup (g : Group) : FoundGroup := .group g.id g.organization

/-- The id under which the grants of what was found are stored. -/
def storedId : FoundGroup → Option String
  | .group id _ => some id
  | .anyone => none

end FoundGroup

namespace GroupReference

/-- An id stands alone, and without one there must be a name. -/
def check (r : GroupReference) : Except Refusal Unit :=
  if r.id.isSome then
    if r.organization.isSome || r.name.isSome then .error .conflictingGroupReference else .ok ()
  else if r.name.isNone then .error .missingGroupReference
  else .ok ()

/-- Whether a reference designates Anyone: it has no id, and its name is the reserved one. -/
def designatesAnyone (r : GroupReference) : Bool :=
  r.id.isNone && isAnyone r.name

end GroupReference

namespace Store

/-- The stored group that a well-formed reference names. -/
def storedGroup (s : Store) (r : GroupReference) : Except Refusal FoundGroup :=
  match r.id with
  | some id =>
    match s.group? (some id) with
    | some g => .ok (.ofGroup g)
    | none => .error (.noGroupWithId id)
  | none =>
    match s.groupNamed? r.organization r.name with
    | some g => .ok (.ofGroup g)
    | none => .error (.noGroupNamed (Text.plainOption r.name))

/-- Finds a stored group. Anyone is not found. -/
def findGroup (s : Store) (r : GroupReference) : Except Refusal FoundGroup := do
  r.check
  if r.designatesAnyone then .error (.noGroupNamed (Text.plainOption r.name)) else s.storedGroup r

/-- Finds a stored group, or Anyone. -/
def findGroupOrAnyone (s : Store) (r : GroupReference) : Except Refusal FoundGroup := do
  r.check
  if r.designatesAnyone then .ok .anyone else s.storedGroup r

end Store

end RoleGrants
