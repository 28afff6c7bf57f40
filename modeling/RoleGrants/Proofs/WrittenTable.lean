import RoleGrants.Proofs.SessionStep
import RoleGrants.Proofs.StoredRow

/-!
# The table that a change writes

A change of the rows writes one table and leaves the others as they are; only a deletion reaches
into several, by its cascades (`Change.Writes`). `Change.frame` says so once for all changes, so
what is kept by every change but a few is looked at for these few only.
-/

namespace RoleGrants

/-- The tables of a store. -/
inductive Table where
  | organizations
  | users
  | groups
  | memberships
  | projects
  | userGrants
  | groupGrants
  | templates
  | templateUsers
  | templateGroups
  | characteristics
  deriving DecidableEq

/-- A table has the same rows in two stores. -/
def Store.SameIn (s t : Store) : Table → Prop
  | .organizations => t.organizations = s.organizations
  | .users => t.users = s.users
  | .groups => t.groups = s.groups
  | .memberships => t.memberships = s.memberships
  | .projects => t.projects = s.projects
  | .userGrants => t.userGrants = s.userGrants
  | .groupGrants => t.groupGrants = s.groupGrants
  | .templates => t.templates = s.templates
  | .templateUsers => t.templateUsers = s.templateUsers
  | .templateGroups => t.templateGroups = s.templateGroups
  | .characteristics => t.characteristics = s.characteristics

theorem Store.SameIn.refl (s : Store) (k : Table) : s.SameIn s k := by
  cases k <;> rfl

theorem Store.SameIn.trans {s t u : Store} {k : Table} (h : s.SameIn t k) (h' : t.SameIn u k) :
    s.SameIn u k := by
  cases k <;> exact Eq.trans h' h

/-- The table that the row of a draft is for. -/
def RowDraft.table : RowDraft → Table
  | .userGrant .. => .userGrants
  | .groupGrant .. => .groupGrants
  | .templateUser .. => .templateUsers
  | .templateGroup .. => .templateGroups
  | .characteristic .. => .characteristics
  | .template .. => .templates

/-- **The tables that a change may write.** -/
def Change.Writes (k : Table) : Change → Prop
  | .addOrganization .. => k = .organizations
  | .addUser .. => k = .users
  | .addGroup .. | .renameGroup .. => k = .groups
  | .addProject .. | .refresh .. => k = .projects
  | .addTemplate .. => k = .templates
  | .insert draft => k = draft.table
  | .setFlag .. => k = .characteristics
  | .join .. | .leave .. => k = .memberships
  | .dropUserGrants _ => k = .userGrants
  | .dropGroupGrants _ => k = .groupGrants
  | .dropTemplateUsers _ => k = .templateUsers
  | .dropTemplateGroups _ => k = .templateGroups
  | .delete .. => True

/-- **A change leaves alone what it does not write.** -/
theorem Change.frame {c : Change} {s t : Store} (hrun : c.run s = .ok t) {k : Table}
    (hk : ¬ c.Writes k) : s.SameIn t k := by
  cases c with
  | addOrganization id key name =>
    obtain ⟨_, _, -, -, -, rfl⟩ := Store.addOrganization_eq_ok hrun
    cases k <;> first | rfl | exact absurd rfl hk
  | addUser id login active =>
    obtain ⟨_, -, -, rfl⟩ := Store.addUser_eq_ok hrun
    cases k <;> first | rfl | exact absurd rfl hk
  | addGroup id organization name =>
    obtain ⟨_, -, -, -, rfl⟩ := Store.addGroup_eq_ok hrun
    cases k <;> first | rfl | exact absurd rfl hk
  | addProject id key organization qualifier =>
    obtain ⟨_, -, -, -, rfl⟩ := Store.addProject_eq_ok hrun
    cases k <;> first | rfl | exact absurd rfl hk
  | addTemplate id organization name description =>
    obtain ⟨_, -, -, -, rfl⟩ := Store.addTemplate_eq_ok hrun
    cases k <;> first | rfl | exact absurd rfl hk
  | renameGroup group name =>
    obtain ⟨-, rfl⟩ := Store.renameGroup_eq_ok hrun
    cases k <;> first | rfl | exact absurd rfl hk
  | setFlag template role flag =>
    obtain ⟨_, -, rfl⟩ := Store.setFlag_eq_ok hrun
    cases k <;> first | rfl | exact absurd rfl hk
  | insert draft =>
    cases draft with
    | userGrant rowId user project role =>
      obtain ⟨_, _, -, -, -, -, -, rfl⟩ := Store.addUserGrant_eq_ok hrun
      cases k <;> first | rfl | exact absurd rfl hk
    | groupGrant rowId group project role =>
      obtain ⟨_, -, -, -, -, rfl⟩ := Store.addGroupGrant_eq_ok hrun
      cases k <;> first | rfl | exact absurd rfl hk
    | templateUser rowId template user role =>
      obtain ⟨_, _, _, -, -, -, -, -, -, rfl⟩ := Store.addTemplateUser_eq_ok hrun
      cases k <;> first | rfl | exact absurd rfl hk
    | templateGroup rowId template group role =>
      obtain ⟨_, _, -, -, -, -, -, rfl⟩ := Store.addTemplateGroup_eq_ok hrun
      cases k <;> first | rfl | exact absurd rfl hk
    | characteristic rowId template role flag =>
      obtain ⟨_, _, -, -, -, -, rfl⟩ := Store.addCharacteristic_eq_ok hrun
      cases k <;> first | rfl | exact absurd rfl hk
    | template id organization name =>
      obtain ⟨_, -, -, -, rfl⟩ := Store.addTemplate_eq_ok hrun
      cases k <;> first | rfl | exact absurd rfl hk
  | refresh | join | leave | dropUserGrants | dropGroupGrants | dropTemplateUsers
  | dropTemplateGroups =>
    cases hrun
    cases k <;> first | rfl | exact absurd rfl hk
  | delete kind id => exact absurd trivial hk

end RoleGrants
