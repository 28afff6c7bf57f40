import RoleGrants.Name
import RoleGrants.Session
import RoleGrants.Store.Delete

/-!
# Changing rows directly

Organizations, users, groups, projects and memberships have no rules beyond those of the store, and
so they are changed row by row; template entries and grants may be inserted that way too. A change
that is made commits at once. One that asks for what is already so, or for a row that is not there,
answers false and commits nothing.
-/

namespace RoleGrants

/-- The kinds of rows that can be deleted by their id. -/
inductive RowKind where
  | organization
  | user
  | group
  | project
  | template
  deriving DecidableEq, Repr

/-- A row to be inserted by its columns, with the id of the row itself. -/
inductive RowDraft where
  | userGrant (rowId user project role : Option String)
  | groupGrant (rowId group project role : Option String)
  | templateUser (rowId template user role : Option String)
  | templateGroup (rowId template group role : Option String)
  | characteristic (rowId template role : Option String) (flag : Option Bool)
  | template (id : String) (organization name : Option String)
  deriving DecidableEq, Repr

inductive RowChange where
  | addOrganization (id : String) (key name : Option String)
  | addUser (id : String) (login : Option String) (active : Option Bool)
  | addGroup (id : String) (organization name : Option String)
  | addProject (id : String) (key organization qualifier : Option String)
  | addMember (user group : Option String)
  | removeMember (user group : Option String)
  | renameGroup (group name : Option String)
  | delete (kind : RowKind) (id : Option String)
  | insert (draft : RowDraft)
  deriving DecidableEq, Repr

open RoleGrants.Action

namespace Store

/-- Inserts a row by its columns. -/
def insertDraft (s : Store) : RowDraft → Except StoreError Store
  | .userGrant rowId user project role => s.addUserGrant rowId user project role
  | .groupGrant rowId group project role => s.addGroupGrant rowId group project role
  | .templateUser rowId template user role => s.addTemplateUser rowId template user role
  | .templateGroup rowId template group role => s.addTemplateGroup rowId template group role
  | .characteristic rowId template role flag => s.addCharacteristic rowId template role flag
  | .template id organization name => s.addTemplate id organization name none

/-- Whether there is a row of a kind with an id. -/
def hasRow (s : Store) : RowKind → String → Bool
  | .organization => s.hasOrganization
  | .user => s.hasUser
  | .group => s.hasGroup
  | .project => s.hasProject
  | .template => s.hasTemplate

/-- Takes a row away, with all that refers to it. -/
def deleteRow (s : Store) : RowKind → String → Store
  | .organization => s.deleteOrganization
  | .user => s.deleteUser
  | .group => s.deleteGroup
  | .project => s.deleteProject
  | .template => s.deleteTemplate

def isMember (s : Store) (user group : String) : Bool :=
  s.memberships.any fun m => m.user == user && m.group == group

end Store

/-- Makes a change that the store may reject, and commits. -/
def insertRow (f : Store → Except StoreError Store) : Action Bool := do
  writing f
  commit
  return true

/-- Makes a change and commits. -/
def changeRow (f : Store → Store) : Action Bool := do
  changing f
  commit
  return true

/-- Deletes a row. -/
def deleteRow (kind : RowKind) : Option String → Action Bool
  | none => return false
  | some id => do
    if ← reading (·.hasRow kind id) then changeRow (·.deleteRow kind id) else return false

/-- Puts a user into a group, or takes it out, as `wanted` says. -/
def setMember (wanted : Bool) (user group : Option String) : Action Bool := do
  match ← reading (·.user? user), ← reading (·.group? group) with
  | some u, some g =>
    -- nothing to change is nothing to commit
    if (← reading (·.isMember u.id g.id)) == wanted then return false
    else changeRow fun s => if wanted then s.join u.id g.id else s.leave u.id g.id
  | _, _ => return false

/-- Makes a change and commits it; false means that nothing was changed. -/
def RowChange.run : RowChange → Action Bool
  | .addOrganization id key name => insertRow (·.addOrganization id key name)
  | .addUser id login active => insertRow (·.addUser id login active)
  | .addGroup id organization name => do
    let name ← accepted (groupNameOf name)
    insertRow (·.addGroup id organization name)
  | .addProject id key organization qualifier =>
    insertRow (·.addProject id key organization qualifier)
  | .addMember user group => setMember true user group
  | .removeMember user group => setMember false user group
  | .renameGroup group name => do
    match ← reading (·.group? group) with
    | none => return false
    | some g => do
      -- the name is looked at only for a group that is there
      let name ← accepted (groupNameOf name)
      insertRow (·.renameGroup g name)
  | .delete kind id => deleteRow kind id
  | .insert draft => insertRow (·.insertDraft draft)

end RoleGrants
