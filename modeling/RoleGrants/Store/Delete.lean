import RoleGrants.Store.Basic

/-!
# Deleting rows

A row takes along every row that refers to it. An organization takes its groups and its templates,
and these take theirs; its projects stay, without an organization. No other column of a row that
stays is touched: in particular nothing that belonged to a group becomes Anyone's, and nothing that
belonged to a project becomes global.
-/

namespace RoleGrants.Store

/-- Takes away the groups with the ids picked by `gone`: their memberships, grants and template
entries go with them. -/
def removeGroups (s : Store) (gone : String → Bool) : Store :=
  { s with
    groups := s.groups.filter fun g => !gone g.id
    memberships := s.memberships.filter fun m => !gone m.group
    groupGrants := s.groupGrants.filter fun g => !g.group.any gone
    templateGroups := s.templateGroups.filter fun e => !e.group.any gone }

/-- Takes away the templates with the ids picked by `gone`, with all their entries. -/
def removeTemplates (s : Store) (gone : String → Bool) : Store :=
  { s with
    templates := s.templates.filter fun t => !gone t.id
    templateUsers := s.templateUsers.filter fun e => !gone e.template
    templateGroups := s.templateGroups.filter fun e => !gone e.template
    characteristics := s.characteristics.filter fun c => !gone c.template }

def deleteGroup (s : Store) (id : String) : Store := s.removeGroups (· == id)

def deleteTemplate (s : Store) (id : String) : Store := s.removeTemplates (· == id)

def deleteUser (s : Store) (id : String) : Store :=
  { s with
    users := s.users.filter (·.id != id)
    memberships := s.memberships.filter (·.user != id)
    userGrants := s.userGrants.filter (·.user != id)
    templateUsers := s.templateUsers.filter (·.user != id) }

def deleteProject (s : Store) (id : String) : Store :=
  { s with
    projects := s.projects.filter (·.id != id)
    userGrants := s.userGrants.filter (·.project != some id)
    groupGrants := s.groupGrants.filter (·.project != some id) }

/-- Whether a group id is that of a group of the organization. -/
def ownsGroup (s : Store) (organization group : String) : Bool :=
  s.groups.any fun g => g.id == group && g.organization == organization

/-- Whether a template id is that of a template of the organization. -/
def ownsTemplate (s : Store) (organization template : String) : Bool :=
  s.templates.any fun t => t.id == template && t.organization == some organization

def deleteOrganization (s : Store) (id : String) : Store :=
  -- ownership is read off the store as it was, before either kind of row is gone
  let rest := (s.removeGroups (s.ownsGroup id)).removeTemplates (s.ownsTemplate id)
  { rest with
    organizations := rest.organizations.filter (·.id != id)
    projects := rest.projects.map fun p =>
      if p.organization == some id then { p with organization := none } else p }

end RoleGrants.Store
