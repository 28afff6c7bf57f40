/-!
# The store

What is kept: organizations with their groups, users and memberships, projects, the grants held by
users and by groups, and permission templates with their entries. Each kind of row is a list, in the
order of insertion.

A missing group in a grant or a template entry stands for Anyone, and a missing project in a grant
for the global scope. `Store.grants` is the view without these conventions, a list of triples of a
holder, a project and a role.
-/

namespace RoleGrants

/-- An organization: the namespace that owns groups and templates. -/
structure Organization where
  id : String
  key : String
  name : String
  deriving DecidableEq, Repr

structure User where
  id : String
  login : String
  active : Bool
  deriving DecidableEq, Repr

/-- A stored group. Anyone is never one of them. -/
structure Group where
  id : String
  organization : String
  name : String
  deriving DecidableEq, Repr

structure Membership where
  user : String
  group : String
  deriving DecidableEq, Repr

/-- A project, and the clock reading at which its grants were last refreshed. -/
structure Project where
  id : String
  key : String
  qualifier : String
  organization : Option String
  refreshedAt : Option Nat
  deriving DecidableEq, Repr

/-- A role held by a user. `rowId` is the id of the row itself where the caller chose one; rows
without it have ids that no other row has. -/
structure UserGrant where
  rowId : Option String
  user : String
  project : Option String
  role : String
  deriving DecidableEq, Repr

/-- A role held by a group, or by Anyone. -/
structure GroupGrant where
  rowId : Option String
  group : Option String
  project : Option String
  role : String
  deriving DecidableEq, Repr

structure Template where
  id : String
  organization : Option String
  name : String
  description : Option String
  deriving DecidableEq, Repr

/-- A role that a template grants to a user. -/
structure TemplateUser where
  rowId : Option String
  template : String
  user : String
  role : String
  deriving DecidableEq, Repr

/-- A role that a template grants to a group, or to Anyone. -/
structure TemplateGroup where
  rowId : Option String
  template : String
  group : Option String
  role : String
  deriving DecidableEq, Repr

/-- Whether a template grants a role also to whoever creates the project. -/
structure Characteristic where
  rowId : Option String
  template : String
  role : String
  forCreator : Bool
  deriving DecidableEq, Repr

structure Store where
  organizations : List Organization := []
  users : List User := []
  groups : List Group := []
  memberships : List Membership := []
  projects : List Project := []
  userGrants : List UserGrant := []
  groupGrants : List GroupGrant := []
  templates : List Template := []
  templateUsers : List TemplateUser := []
  templateGroups : List TemplateGroup := []
  characteristics : List Characteristic := []
  deriving DecidableEq, Repr

/-! ### The view as triples -/

/-- Who holds a stored grant. -/
inductive Holder where
  | user (id : String)
  | group (id : String)
  | anyone
  deriving DecidableEq, Repr

/-- A grant without the conventions of storage: a holder has a role, on a project or globally. -/
structure Grant where
  holder : Holder
  project : Option String
  role : String
  deriving DecidableEq, Repr

def Holder.ofGroup : Option String → Holder
  | some id => .group id
  | none => .anyone

def UserGrant.grant (g : UserGrant) : Grant := ⟨.user g.user, g.project, g.role⟩

def GroupGrant.grant (g : GroupGrant) : Grant := ⟨.ofGroup g.group, g.project, g.role⟩

namespace Store

/-- All grants as triples, those of users first. -/
def grants (s : Store) : List Grant :=
  s.userGrants.map UserGrant.grant ++ s.groupGrants.map GroupGrant.grant

/-! ### Which rows exist -/

def hasOrganization (s : Store) (id : String) : Bool := s.organizations.any (·.id == id)

def hasUser (s : Store) (id : String) : Bool := s.users.any (·.id == id)

def hasGroup (s : Store) (id : String) : Bool := s.groups.any (·.id == id)

def hasProject (s : Store) (id : String) : Bool := s.projects.any (·.id == id)

def hasTemplate (s : Store) (id : String) : Bool := s.templates.any (·.id == id)

/-! ### Lookups. An absent id names no row. -/

def user? (s : Store) (id : Option String) : Option User := s.users.find? (some ·.id == id)

def group? (s : Store) (id : Option String) : Option Group := s.groups.find? (some ·.id == id)

def project? (s : Store) (id : Option String) : Option Project := s.projects.find? (some ·.id == id)

def template? (s : Store) (id : Option String) : Option Template :=
  s.templates.find? (some ·.id == id)

/-- The template of a name in an organization, or among those without one. -/
def templateNamed? (s : Store) (organization name : Option String) : Option Template :=
  s.templates.find? fun t => t.organization == organization && some t.name == name

/-- The group of a name in an organization. -/
def groupNamed? (s : Store) (organization name : Option String) : Option Group :=
  s.groups.find? fun g => some g.organization == organization && some g.name == name

end Store

end RoleGrants
