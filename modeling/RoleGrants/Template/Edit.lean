import RoleGrants.Name
import RoleGrants.Principal
import RoleGrants.Session
import RoleGrants.Template.Snapshot

/-!
# Finding and editing templates

A template is referred to by its id, or by a name within an organization. Editing commits whatever
the session has pending together with the edit; only adding an entry that is there already, and a
refusal, end before the commit. Adding a user entry checks that the user exists, adding a group
entry leaves that to the store.
-/

namespace RoleGrants

open RoleGrants.Action

/-! ### Finding -/

/-- Finds a template by its id alone or by its name in an organization. -/
def Store.findTemplate (s : Store) (id organization name : Option String) :
    Except Refusal Template :=
  match id, name with
  | some id, none =>
    match s.template? (some id) with
    | some t => .ok t
    | none => .error (.noTemplateWithId id)
  | none, some name =>
    match s.templateNamed? organization (some name) with
    | some t => .ok t
    | none => .error (.noTemplateNamed name)
  | _, _ => .error .ambiguousTemplateReference

/-- The template with an id. -/
def requireTemplate (id : Option String) : Action Template := do
  let found ← reading (·.findTemplate id none none)
  accepted found

/-- A template with its entries, by its id. -/
def resolveTemplate (id : Option String) : Action Snapshot := do
  let t ← requireTemplate id
  reading (·.snapshot t)

/-- The template that the default selector names, with its entries. An empty selector names none;
one that names no stored template is reported. -/
def resolveDefault (selector : Option String) : Action (Option Snapshot) := do
  match selector with
  | none | some "" => return none
  | some id =>
    match ← reading (·.template? (some id)) with
    | none => do
      report (.defaultTemplateMissing id)
      return none
    | some t => reading fun s => some (s.snapshot t)

/-! ### Editing -/

/-- Creates a template without entries under an id. -/
def createTemplate (id : String) (organization name description : Option String) :
    Action Template := do
  let name ← accepted (templateNameOf name)
  let taken ← reading (·.templateNamed? organization (some name))
  if taken.isSome then refuse (.templateNameTaken name)
  writing (·.addTemplate id organization (some name) description)
  commit
  report (.templateCreated id name)
  return ⟨id, organization, name, description⟩

/-- Adds a role for a user to a template, and says whether it was not there yet. -/
def addUserEntry (template user role : Option String) : Action Bool := do
  let role ← accepted (roleOf role)
  let t ← requireTemplate template
  -- the user is looked for before the entry, so an unknown one is refused and not merely absent
  let known ← reading (·.user? user)
  if known.isNone then refuse (.noUser user)
  let present ← reading (·.templateUsers.any fun e =>
    e.template == t.id && some e.user == user && e.role == role)
  if present then return false
  writing (·.addTemplateUser none (some t.id) user (some role))
  commit
  return true

/-- Adds a role for a group, or for Anyone, to a template, and says whether it was not there yet. -/
def addGroupEntry (template group role : Option String) : Action Bool := do
  let role ← accepted (roleOf role)
  let t ← requireTemplate template
  let present ← reading (·.templateGroups.any fun e =>
    e.template == t.id && e.group == group && e.role == role)
  if present then return false
  writing (·.addTemplateGroup none (some t.id) group (some role))
  commit
  return true

/-- Whether a user entry is the one of a template, a user and a role. -/
def TemplateUser.isFor (template user role : Option String) (e : TemplateUser) : Bool :=
  some e.template == template && some e.user == user && some e.role == role

/-- Whether a group entry is the one of a template, a group or Anyone, and a role. -/
def TemplateGroup.isFor (template group role : Option String) (e : TemplateGroup) : Bool :=
  some e.template == template && e.group == group && some e.role == role

/-- Removes a role for a user from a template, and says whether it was there. -/
def removeUserEntry (template user role : Option String) : Action Bool := do
  let present ← reading (·.templateUsers.any (TemplateUser.isFor template user role))
  changing fun s => { s with
    templateUsers := s.templateUsers.filter fun e => !e.isFor template user role }
  commit
  return present

/-- Removes a role for a group, or for Anyone, from a template, and says whether it was there. -/
def removeGroupEntry (template group role : Option String) : Action Bool := do
  let present ← reading (·.templateGroups.any (TemplateGroup.isFor template group role))
  changing fun s => { s with
    templateGroups := s.templateGroups.filter fun e => !e.isFor template group role }
  commit
  return present

/-- Sets whether a template grants a role also to the creator of a project. A flag left open takes a
new characteristic down, and is rejected for one that is there. -/
def setCharacteristic (template role : Option String) (flag : Option Bool) :
    Action Characteristic := do
  let role ← accepted (roleOf role)
  let t ← requireTemplate template
  let present ← reading (·.characteristics.any fun c => c.template == t.id && c.role == role)
  if present then writing (·.setFlag t.id role flag)
  else writing (·.addCharacteristic none (some t.id) (some role) flag)
  commit
  return ⟨none, t.id, role, flag.getD false⟩

end RoleGrants
