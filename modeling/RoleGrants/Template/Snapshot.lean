import RoleGrants.Distinct
import RoleGrants.Principal
import RoleGrants.Store.Listing

/-!
# Snapshots of templates

A snapshot is a template with all its entries at one moment: which roles it grants to groups and
Anyone, which to users, and which of them also to the creator of a project. It may be read off the
store or be put together by a caller from a `SnapshotDraft`. Entries form a set, in which a
principal is known by its id, and only what can be in a set makes an entry; the flags form a map
from roles.

Queries take roles and users as they come. No stored entry lacks its role.
-/

namespace RoleGrants

/-- A role for a principal. The login is shown and not compared. An entry that a caller puts
together may lack the role. -/
structure Entry where
  principal : Principal
  login : Option String := none
  role : Option String
  deriving DecidableEq, Repr

/-- What makes two entries the same: what the principal counts as, and the role. -/
def Entry.key (e : Entry) : Principal × Option String := (e.principal.identity, e.role)

structure Snapshot where
  id : Option String
  name : Option String
  groups : List Entry := []
  users : List Entry := []
  characteristics : List (String × Bool) := []
  deriving DecidableEq, Repr

/-- Sets the flag of a role in a map, in its place if it has one. -/
def putFlag (flags : List (String × Bool)) (role : String) (flag : Bool) : List (String × Bool) :=
  if flags.any (·.1 == role) then
    flags.map fun f => if f.1 == role then (role, flag) else f
  else flags ++ [(role, flag)]

namespace Snapshot

/-- A snapshot with the entries and flags given, each entry once and each role with its last
flag. -/
def ofEntries (id name : Option String) (groups users : List Entry) (flags : List (String × Bool)) :
    Snapshot where
  id := id
  name := name
  groups := distinctBy Entry.key groups
  users := distinctBy Entry.key users
  characteristics := flags.foldl (fun acc f => putFlag acc f.1 f.2) []

/-! ### Queries -/

/-- The roles granted to whoever creates the project. -/
def creatorRoles (t : Snapshot) : List String :=
  (t.characteristics.filter (·.2)).map (·.1)

/-- Whether the creator of the project gets a role. -/
def hasCreatorRole (t : Snapshot) (role : Option String) : Bool :=
  t.creatorRoles.any (some · == role)

def hasUserEntry (t : Snapshot) (user role : Option String) : Bool :=
  t.users.any fun e => e.principal == .user user && e.role == role

def hasAnyoneEntry (t : Snapshot) (role : Option String) : Bool :=
  t.groups.any fun e => e.principal == .anyone && e.role == role

/-- The id of an entry's principal, if it is a group. -/
def groupIdOf (e : Entry) : Option (Option String) :=
  match e.principal with
  | .group id => some id
  | _ => none

/-- The ids of the groups that get a role. -/
def groupIdsFor (t : Snapshot) (role : Option String) : List (Option String) :=
  distinct <| (t.groups.filter (·.role == role)).filterMap groupIdOf

end Snapshot

/-! ### Putting a snapshot together -/

/-- The parts of a snapshot as a caller gives them. -/
structure SnapshotDraft where
  id : Option String
  name : Option String
  groups : List Entry := []
  users : List Entry := []
  flags : List (String × Bool) := []
  deriving DecidableEq, Repr

namespace SnapshotDraft

/-- The snapshot of these parts, if all that stands in its entries can be in a set. -/
def build (d : SnapshotDraft) : Except Misuse Snapshot := do
  (d.groups ++ d.users).forM (·.principal.checkMember)
  return .ofEntries d.id d.name d.groups d.users d.flags

end SnapshotDraft

/-! ### Reading a template off the store -/

namespace Store

/-- The group entries of a template, Anyone for a missing group. -/
def groupEntries (s : Store) (template : String) : List Entry :=
  (s.templateGroups.filter (·.template == template)).map fun e =>
    { principal := match e.group with
        | some id => .group (some id)
        | none => .anyone
      role := some e.role }

/-- The user entries of a template, each with the login of its user. -/
def userEntries (s : Store) (template : String) : List Entry :=
  (s.templateUsers.filter (·.template == template)).flatMap fun e =>
    (s.users.filter (·.id == e.user)).map fun u =>
      { principal := .user (some e.user), login := some u.login, role := some e.role }

/-- The flags of a template. -/
def flagsOf (s : Store) (template : String) : List (String × Bool) :=
  (s.characteristics.filter (·.template == template)).map fun c => (c.role, c.forCreator)

/-- A stored template with all its entries. -/
def snapshot (s : Store) (t : Template) : Snapshot :=
  .ofEntries (some t.id) (some t.name) (s.groupEntries t.id) (s.userEntries t.id) (s.flagsOf t.id)

end Store

end RoleGrants
