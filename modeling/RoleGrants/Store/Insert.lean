import RoleGrants.Store.Key
import RoleGrants.Failure

/-!
# Inserting and changing rows

A row comes in by its columns, any of which may be missing. Three checks stand before it, in this
order: a column that needs a value has one, no unique key clashes with a stored row, and every row
referred to exists. `accept` is the second and the third of them for any kind of row;
`accept_eq_ok_iff` says when it succeeds.
-/

namespace RoleGrants

variable {α : Type}

/-- The value of a column that must have one. -/
def required (column : String) : Option α → Except StoreError α
  | some value => .ok value
  | none => .error (.missingValue column)

/-- The first key, if any, on which a row clashes with one of the rows that are there. -/
def clashing? (keys : List (Key α)) (rows : List α) (row : α) : Option (Key α) :=
  keys.find? fun k => rows.any (k.clashes row)

/-- The rows with one more at the end, if its keys are free and its parents exist. -/
def accept (keys : List (Key α)) (parents : Bool) (rows : List α) (row : α) :
    Except StoreError (List α) :=
  match clashing? keys rows row with
  | some k => .error (.duplicate k.columnNames)
  | none => if parents then .ok (rows ++ [row]) else .error .missingParent

theorem clashing?_eq_none_iff {keys : List (Key α)} {rows : List α} {row : α} :
    clashing? keys rows row = none ↔ ∀ k ∈ keys, ∀ r ∈ rows, k.clashes row r = false := by
  simp [clashing?, List.find?_eq_none]

theorem accept_eq_ok_iff {keys : List (Key α)} {parents : Bool} {rows rows' : List α} {row : α} :
    accept keys parents rows row = .ok rows' ↔
      clashing? keys rows row = none ∧ parents = true ∧ rows' = rows ++ [row] := by
  unfold accept
  split <;> rename_i h
  · simp [h]
  · by_cases hp : parents = true <;> simp [h, hp, eq_comm]

namespace Store

def addOrganization (s : Store) (id : String) (key name : Option String) :
    Except StoreError Store := do
  let key ← required "organizations.key" key
  let name ← required "organizations.name" name
  let rows ← accept Organization.keys true s.organizations ⟨id, key, name⟩
  return { s with organizations := rows }

/-- A user is active unless said otherwise. -/
def addUser (s : Store) (id : String) (login : Option String) (active : Option Bool) :
    Except StoreError Store := do
  let login ← required "users.login" login
  let rows ← accept User.keys true s.users ⟨id, login, active.getD true⟩
  return { s with users := rows }

def addGroup (s : Store) (id : String) (organization : Option String) (name : String) :
    Except StoreError Store := do
  let organization ← required "groups.organization_id" organization
  let rows ← accept Group.keys (s.hasOrganization organization) s.groups ⟨id, organization, name⟩
  return { s with groups := rows }

/-- The qualifier of a project that comes without one. -/
def defaultQualifier : String := "TRK"

def addProject (s : Store) (id : String) (key organization qualifier : Option String) :
    Except StoreError Store := do
  let key ← required "projects.key" key
  let rows ← accept Project.keys (organization.all s.hasOrganization) s.projects
    ⟨id, key, qualifier.getD defaultQualifier, organization, none⟩
  return { s with projects := rows }

def addUserGrant (s : Store) (rowId user project role : Option String) :
    Except StoreError Store := do
  let user ← required "user_roles.user_id" user
  let role ← required "user_roles.role" role
  let rows ← accept UserGrant.keys (s.hasUser user && project.all s.hasProject) s.userGrants
    ⟨rowId, user, project, role⟩
  return { s with userGrants := rows }

def addGroupGrant (s : Store) (rowId group project role : Option String) :
    Except StoreError Store := do
  let role ← required "group_roles.role" role
  let rows ← accept GroupGrant.keys (group.all s.hasGroup && project.all s.hasProject) s.groupGrants
    ⟨rowId, group, project, role⟩
  return { s with groupGrants := rows }

def addTemplate (s : Store) (id : String) (organization name description : Option String) :
    Except StoreError Store := do
  let name ← required "permission_templates.name" name
  let rows ← accept Template.keys (organization.all s.hasOrganization) s.templates
    ⟨id, organization, name, description⟩
  return { s with templates := rows }

def addTemplateUser (s : Store) (rowId template user role : Option String) :
    Except StoreError Store := do
  let template ← required "perm_templates_users.template_id" template
  let user ← required "perm_templates_users.user_id" user
  let role ← required "perm_templates_users.role" role
  let rows ← accept TemplateUser.keys (s.hasTemplate template && s.hasUser user) s.templateUsers
    ⟨rowId, template, user, role⟩
  return { s with templateUsers := rows }

def addTemplateGroup (s : Store) (rowId template group role : Option String) :
    Except StoreError Store := do
  let template ← required "perm_templates_groups.template_id" template
  let role ← required "perm_templates_groups.role" role
  let rows ← accept TemplateGroup.keys (s.hasTemplate template && group.all s.hasGroup)
    s.templateGroups ⟨rowId, template, group, role⟩
  return { s with templateGroups := rows }

/-- The flag of a new characteristic is down unless said otherwise. -/
def addCharacteristic (s : Store) (rowId template role : Option String) (flag : Option Bool) :
    Except StoreError Store := do
  let template ← required "perm_tpl_characteristics.template_id" template
  let role ← required "perm_tpl_characteristics.role" role
  let rows ← accept Characteristic.keys (s.hasTemplate template) s.characteristics
    ⟨rowId, template, role, flag.getD false⟩
  return { s with characteristics := rows }

/-! ### Changes of a stored row -/

/-- Gives a group another name, which no other group of its organization may have. -/
def renameGroup (s : Store) (group : Group) (name : String) : Except StoreError Store :=
  match clashing? Group.keys (s.groups.filter (·.id != group.id)) { group with name } with
  | some k => .error (.duplicate k.columnNames)
  | none =>
    .ok { s with groups := s.groups.map fun g => if g.id == group.id then { g with name } else g }

/-- Sets the flag of a stored characteristic, which may not be left open. -/
def setFlag (s : Store) (template role : String) (flag : Option Bool) :
    Except StoreError Store := do
  let flag ← required "perm_tpl_characteristics.with_project_creator" flag
  return { s with characteristics := s.characteristics.map fun c =>
    if c.template == template && c.role == role then { c with forCreator := flag } else c }

/-- Marks the grants of a project as changed at a clock reading; an id that names no project marks
nothing. -/
def refresh (s : Store) (project : String) (reading : Nat) : Store :=
  { s with projects := s.projects.map fun p =>
    if p.id == project then { p with refreshedAt := some reading } else p }

def join (s : Store) (user group : String) : Store :=
  { s with memberships := s.memberships ++ [⟨user, group⟩] }

def leave (s : Store) (user group : String) : Store :=
  { s with memberships := s.memberships.filter fun m => !(m.user == user && m.group == group) }

end Store

end RoleGrants
