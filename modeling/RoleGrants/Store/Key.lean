import RoleGrants.Store.Basic

/-!
# Unique keys

A unique key names columns of a table. Two rows clash on it when both have a value in every one of
its columns and the values agree; a missing value agrees with nothing, not even with another missing
one. Where missing values have a meaning, a further key covers just the rows that lack them and
leaves the column out: a grant with a missing project clashes with its like on the remaining
columns.

`clashes_iff` reads the test as a statement about the columns.
-/

namespace RoleGrants

/-- A column of a table, by its name and its value in a row. -/
structure Column (α : Type) where
  name : String
  value : α → Option String

/-- A unique key of a table: its columns, and the rows that it covers. -/
structure Key (α : Type) where
  table : String
  columns : List (Column α)
  covers : α → Bool := fun _ => true

namespace Key

variable {α : Type}

/-- Whether two rows may not stand together. -/
def clashes (k : Key α) (a b : α) : Bool :=
  k.covers a && k.covers b &&
    k.columns.all fun c => (c.value a).isSome && c.value a == c.value b

/-- The columns of a key behind the name of its table. -/
def columnNames (k : Key α) : List String :=
  k.columns.map fun c => k.table ++ "." ++ c.name

theorem clashes_iff {k : Key α} {a b : α} :
    k.clashes a b = true ↔
      k.covers a = true ∧ k.covers b = true ∧
        ∀ c ∈ k.columns, ∃ v, c.value a = some v ∧ c.value b = some v := by
  simp only [clashes, Bool.and_eq_true, List.all_eq_true, beq_iff_eq, Option.isSome_iff_exists,
    and_assoc]
  refine and_congr_right fun _ => and_congr_right fun _ => forall_congr' fun c => ?_
  refine forall_congr' fun _ => ⟨?_, ?_⟩
  · rintro ⟨⟨v, hv⟩, h⟩
    exact ⟨v, hv, h ▸ hv⟩
  · rintro ⟨v, ha, hb⟩
    exact ⟨⟨v, ha⟩, ha.trans hb.symm⟩

end Key

/-! ### The keys of each table

The keys of a table are listed in the order in which they are tried, the id of the row last. -/

def Organization.keys : List (Key Organization) := [
  ⟨"organizations", [⟨"key", (some ·.key)⟩], fun _ => true⟩,
  ⟨"organizations", [⟨"id", (some ·.id)⟩], fun _ => true⟩]

def User.keys : List (Key User) := [
  ⟨"users", [⟨"login", (some ·.login)⟩], fun _ => true⟩,
  ⟨"users", [⟨"id", (some ·.id)⟩], fun _ => true⟩]

def Group.keys : List (Key Group) := [
  ⟨"groups", [⟨"organization_id", (some ·.organization)⟩, ⟨"name", (some ·.name)⟩], fun _ => true⟩,
  ⟨"groups", [⟨"id", (some ·.id)⟩], fun _ => true⟩]

def Project.keys : List (Key Project) := [
  ⟨"projects", [⟨"key", (some ·.key)⟩], fun _ => true⟩,
  ⟨"projects", [⟨"id", (some ·.id)⟩], fun _ => true⟩]

/-- The triple is unique; without a project, the user and the role are. -/
def UserGrant.keys : List (Key UserGrant) := [
  ⟨"user_roles", [⟨"user_id", (some ·.user)⟩, ⟨"role", (some ·.role)⟩], (·.project.isNone)⟩,
  ⟨"user_roles",
    [⟨"user_id", (some ·.user)⟩, ⟨"project_id", (·.project)⟩, ⟨"role", (some ·.role)⟩],
    fun _ => true⟩,
  ⟨"user_roles", [⟨"id", (·.rowId)⟩], fun _ => true⟩]

/-- The triple is unique; without a project, a group, or either, what remains of it is. -/
def GroupGrant.keys : List (Key GroupGrant) := [
  ⟨"group_roles", [⟨"role", (some ·.role)⟩], fun g => g.group.isNone && g.project.isNone⟩,
  ⟨"group_roles", [⟨"project_id", (·.project)⟩, ⟨"role", (some ·.role)⟩], (·.group.isNone)⟩,
  ⟨"group_roles", [⟨"group_id", (·.group)⟩, ⟨"role", (some ·.role)⟩], (·.project.isNone)⟩,
  ⟨"group_roles",
    [⟨"group_id", (·.group)⟩, ⟨"project_id", (·.project)⟩, ⟨"role", (some ·.role)⟩],
    fun _ => true⟩,
  ⟨"group_roles", [⟨"id", (·.rowId)⟩], fun _ => true⟩]

/-- Names are unique within an organization; templates without one are free to share a name. -/
def Template.keys : List (Key Template) := [
  ⟨"permission_templates", [⟨"organization_id", (·.organization)⟩, ⟨"name", (some ·.name)⟩],
    fun _ => true⟩,
  ⟨"permission_templates", [⟨"id", (some ·.id)⟩], fun _ => true⟩]

def TemplateUser.keys : List (Key TemplateUser) := [
  ⟨"perm_templates_users",
    [⟨"template_id", (some ·.template)⟩, ⟨"user_id", (some ·.user)⟩, ⟨"role", (some ·.role)⟩],
    fun _ => true⟩,
  ⟨"perm_templates_users", [⟨"id", (·.rowId)⟩], fun _ => true⟩]

/-- The entry is unique; without a group, the template and the role are. -/
def TemplateGroup.keys : List (Key TemplateGroup) := [
  ⟨"perm_templates_groups", [⟨"template_id", (some ·.template)⟩, ⟨"role", (some ·.role)⟩],
    (·.group.isNone)⟩,
  ⟨"perm_templates_groups",
    [⟨"template_id", (some ·.template)⟩, ⟨"group_id", (·.group)⟩, ⟨"role", (some ·.role)⟩],
    fun _ => true⟩,
  ⟨"perm_templates_groups", [⟨"id", (·.rowId)⟩], fun _ => true⟩]

def Characteristic.keys : List (Key Characteristic) := [
  ⟨"perm_tpl_characteristics", [⟨"template_id", (some ·.template)⟩, ⟨"role", (some ·.role)⟩],
    fun _ => true⟩,
  ⟨"perm_tpl_characteristics", [⟨"id", (·.rowId)⟩], fun _ => true⟩]

end RoleGrants
