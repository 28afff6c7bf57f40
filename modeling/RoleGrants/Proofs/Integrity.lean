import Mathlib.Data.List.Pairwise
import RoleGrants.Proofs.CallMoves
import RoleGrants.Proofs.StoredRow

/-!
# The integrity of the store

The constraints of the store as one property of its rows. `Store.Sound` says that no two rows of a
table clash on a key (`Apart`) and that every id in a column is that of a stored row (`Refers`),
for every table and every column. The empty store has it and no change breaks it (`Change.sound`),
whatever the arguments of the change, so the rows that a reachable session sees and those that it
has committed have it (`Session.ReachedBy.sound`).

An insertion is checked by the store and needs no argument beyond that of `StoredRow`. The other
changes are not checked, and each keeps the constraints for a reason of its own: a renamed group
has been compared with the others, who joins a group has been looked up, and a deletion takes
along the rows that refer to what it deletes (`Refers.cascade`). Only for an organization this is
not the whole reason: its groups and templates go because they are its own, and its projects stay
because they are let go first.

Whatever is held is then held by and on rows that are stored, so a triple can be granted exactly
when its rows are, whether or not it is held already (`Store.Sound.checkedTriple_eq`).
-/

namespace RoleGrants

variable {α β : Type}

/-! ### Columns that refer to rows -/

/-- Every value in a column of a table is the id of a row of another table. A missing value refers
to nothing. -/
def Refers (rows : List α) (column : α → Option String) (parents : List β) (id : β → String) :
    Prop :=
  ∀ r ∈ rows, ∀ v, column r = some v → ∃ p ∈ parents, id p = v

namespace Refers

variable {rows : List α} {column : α → Option String} {parents : List β} {id : β → String}

theorem snoc (h : Refers rows column parents id) {row : α}
    (hrow : ∀ v, column row = some v → ∃ p ∈ parents, id p = v) :
    Refers (rows ++ [row]) column parents id := by
  intro r hr v hv
  rcases List.mem_append.1 hr with hr | hr
  · exact h r hr v hv
  · rw [List.mem_singleton.1 hr] at hv
    exact hrow v hv

theorem parents_snoc (h : Refers rows column parents id) (parent : β) :
    Refers rows column (parents ++ [parent]) id := by
  intro r hr v hv
  obtain ⟨p, hp, hid⟩ := h r hr v hv
  exact ⟨p, List.mem_append_left _ hp, hid⟩

theorem filter (h : Refers rows column parents id) (keep : α → Bool) :
    Refers (rows.filter keep) column parents id :=
  fun r hr => h r (List.mem_filter.1 hr).1

/-- **A cascade:** where parents go, the rows that refer to them go too. -/
theorem cascade (h : Refers rows column parents id) (gone : String → Bool) {keep : α → Bool}
    {keepParent : β → Bool} (hkeep : ∀ r v, keep r = true → column r = some v → gone v = false)
    (hparent : ∀ p, gone (id p) = false → keepParent p = true) :
    Refers (rows.filter keep) column (parents.filter keepParent) id := by
  intro r hr v hv
  obtain ⟨hmem, hkept⟩ := List.mem_filter.1 hr
  obtain ⟨p, hp, rfl⟩ := h r hmem v hv
  -- a row that is kept refers to none of those that go, so its parent is kept
  have hstays : gone (id p) = false := hkeep r _ hkept hv
  exact ⟨p, List.mem_filter.2 ⟨hp, hparent p hstays⟩, rfl⟩

theorem map (h : Refers rows column parents id) {f : α → α}
    (hf : ∀ r v, column (f r) = some v → column r = some v) :
    Refers (rows.map f) column parents id := by
  intro r hr v hv
  obtain ⟨r', hr', rfl⟩ := List.mem_map.1 hr
  exact h r' hr' v (hf r' v hv)

theorem parents_map (h : Refers rows column parents id) {f : β → β} (hf : ∀ p, id (f p) = id p) :
    Refers rows column (parents.map f) id := by
  intro r hr v hv
  obtain ⟨p, hp, hid⟩ := h r hr v hv
  exact ⟨f p, List.mem_map_of_mem hp, (hf p).trans hid⟩

end Refers

/-! ### Rows that stand apart -/

/-- No two rows of a table clash. -/
def Apart (keys : List (Key α)) (rows : List α) : Prop :=
  rows.Pairwise fun a b => ¬ Clash keys a b

namespace Apart

variable {keys : List (Key α)} {rows rows' : List α}

theorem snoc (h : Apart keys rows) {row : α} (hrow : Fresh keys rows row) :
    Apart keys (rows ++ [row]) := by
  refine List.pairwise_append.2 ⟨h, List.pairwise_singleton _ _, ?_⟩
  -- the new row has been compared with each of the others, one way around
  intro a ha b hb
  rw [List.mem_singleton.1 hb]
  exact fun hclash => hrow a ha hclash.symm

theorem filter (h : Apart keys rows) (keep : α → Bool) : Apart keys (rows.filter keep) :=
  List.Pairwise.filter keep h

/-- Rows that clash are one row. -/
theorem eq_of_clash (h : Apart keys rows) {a b : α} (ha : a ∈ rows) (hb : b ∈ rows)
    (hclash : Clash keys a b) : a = b := by
  have : Std.Symm fun a b : α => ¬ Clash keys a b := ⟨fun _ _ hab hba => hab hba.symm⟩
  by_cases hab : a = b
  · exact hab
  · exact absurd hclash (List.Pairwise.forall h ha hb hab)

/-- Where any two rows that are picked clash, one row is all that is picked. -/
theorem filter_eq (h : Apart keys rows) {picked : α → Bool} {row : α} (hrow : row ∈ rows)
    (hpicked : picked row = true)
    (hclash : ∀ a b, picked a = true → picked b = true → Clash keys a b) :
    rows.filter picked = [row] := by
  have hmem : row ∈ rows.filter picked := List.mem_filter.2 ⟨hrow, hpicked⟩
  have hapart : Apart keys (rows.filter picked) := h.filter picked
  have hall : ∀ r ∈ rows.filter picked, picked r = true := fun r hr => (List.mem_filter.1 hr).2
  revert hmem hapart hall
  rcases rows.filter picked with _ | ⟨a, _ | ⟨b, rest⟩⟩
  · exact fun hmem => nomatch hmem
  · intro hmem _ _
    rw [List.mem_singleton.1 hmem]
  · intro _ hapart hall
    have hab : Clash keys a b := hclash a b (hall a (by simp)) (hall b (by simp))
    exact absurd hab (List.rel_of_pairwise_cons hapart List.mem_cons_self)

theorem find?_eq (h : Apart keys rows) {picked : α → Bool} {row : α} (hrow : row ∈ rows)
    (hpicked : picked row = true)
    (hclash : ∀ a b, picked a = true → picked b = true → Clash keys a b) :
    rows.find? picked = some row := by
  rw [← List.head?_filter, h.filter_eq hrow hpicked hclash, List.head?_cons]

/-- A change of columns that no key looks at. -/
theorem map (h : Apart keys rows) {f : α → α}
    (hf : ∀ k ∈ keys, ∀ a b, k.clashes (f a) (f b) = k.clashes a b) : Apart keys (rows.map f) := by
  refine List.Pairwise.map f (fun a b hab hclash => hab ?_) h
  obtain ⟨k, hk, hc⟩ := hclash
  exact ⟨k, hk, (hf k hk a b).symm.trans hc⟩

end Apart

/-- The row that a column refers to has been looked for. -/
theorem exists_of_any {value : String} {parents : List β} {id : β → String}
    (h : parents.any (id · == value) = true) :
    ∀ v, some value = some v → ∃ p ∈ parents, id p = v := by
  rintro v hv
  obtain ⟨p, hp, hid⟩ := List.any_eq_true.1 h
  exact ⟨p, hp, (beq_iff_eq.1 hid).trans (Option.some.inj hv)⟩

/-- The same where the column may be empty. -/
theorem exists_of_all_any {column : Option String} {parents : List β} {id : β → String}
    (h : column.all (fun v => parents.any (id · == v)) = true) :
    ∀ v, column = some v → ∃ p ∈ parents, id p = v := by
  rintro v rfl
  exact exists_of_any h v rfl

/-! ### The integrity of a store -/

/-- **The integrity of a store.** Rows of one table stand apart by its keys, a membership is there
once, and every id in a column is that of a stored row. -/
structure Store.Sound (s : Store) : Prop where
  organizations : Apart Organization.keys s.organizations
  users : Apart User.keys s.users
  groups : Apart Group.keys s.groups
  memberships : s.memberships.Nodup
  projects : Apart Project.keys s.projects
  userGrants : Apart UserGrant.keys s.userGrants
  groupGrants : Apart GroupGrant.keys s.groupGrants
  templates : Apart Template.keys s.templates
  templateUsers : Apart TemplateUser.keys s.templateUsers
  templateGroups : Apart TemplateGroup.keys s.templateGroups
  characteristics : Apart Characteristic.keys s.characteristics
  group_organization : Refers s.groups (some ·.organization) s.organizations (·.id)
  project_organization : Refers s.projects (·.organization) s.organizations (·.id)
  template_organization : Refers s.templates (·.organization) s.organizations (·.id)
  membership_user : Refers s.memberships (some ·.user) s.users (·.id)
  membership_group : Refers s.memberships (some ·.group) s.groups (·.id)
  userGrant_user : Refers s.userGrants (some ·.user) s.users (·.id)
  userGrant_project : Refers s.userGrants (·.project) s.projects (·.id)
  groupGrant_group : Refers s.groupGrants (·.group) s.groups (·.id)
  groupGrant_project : Refers s.groupGrants (·.project) s.projects (·.id)
  templateUser_template : Refers s.templateUsers (some ·.template) s.templates (·.id)
  templateUser_user : Refers s.templateUsers (some ·.user) s.users (·.id)
  templateGroup_template : Refers s.templateGroups (some ·.template) s.templates (·.id)
  templateGroup_group : Refers s.templateGroups (·.group) s.groups (·.id)
  characteristic_template : Refers s.characteristics (some ·.template) s.templates (·.id)

theorem User.clash_of_id {a b : User} (hid : a.id = b.id) : Clash User.keys a b := by
  simp [Clash, User.keys, Key.clashes, hid]

theorem User.clash_of_login {a b : User} (hlogin : a.login = b.login) : Clash User.keys a b := by
  simp [Clash, User.keys, Key.clashes, hlogin]

theorem Template.clash_of_id {a b : Template} (hid : a.id = b.id) : Clash Template.keys a b := by
  simp [Clash, Template.keys, Key.clashes, hid]

theorem Group.clash_of_id {a b : Group} (hid : a.id = b.id) : Clash Group.keys a b := by
  simp [Clash, Group.keys, Key.clashes, hid]

theorem Group.clash_of_name {a b : Group} (horganization : a.organization = b.organization)
    (hname : a.name = b.name) : Clash Group.keys a b := by
  simp [Clash, Group.keys, Key.clashes, horganization, hname]

namespace Store.Sound

variable {s t : Store}

theorem addOrganization (h : s.Sound) {id : String} {key name : Option String}
    (hadd : s.addOrganization id key name = .ok t) : t.Sound := by
  obtain ⟨k, n, -, -, hfresh, rfl⟩ := addOrganization_eq_ok hadd
  exact { h with
    organizations := h.organizations.snoc hfresh
    group_organization := h.group_organization.parents_snoc _
    project_organization := h.project_organization.parents_snoc _
    template_organization := h.template_organization.parents_snoc _ }

theorem addUser (h : s.Sound) {id : String} {login : Option String} {active : Option Bool}
    (hadd : s.addUser id login active = .ok t) : t.Sound := by
  obtain ⟨l, -, hfresh, rfl⟩ := addUser_eq_ok hadd
  exact { h with
    users := h.users.snoc hfresh
    membership_user := h.membership_user.parents_snoc _
    userGrant_user := h.userGrant_user.parents_snoc _
    templateUser_user := h.templateUser_user.parents_snoc _ }

theorem addGroup (h : s.Sound) {id : String} {organization : Option String} {name : String}
    (hadd : s.addGroup id organization name = .ok t) : t.Sound := by
  obtain ⟨o, -, hparent, hfresh, rfl⟩ := addGroup_eq_ok hadd
  exact { h with
    groups := h.groups.snoc hfresh
    group_organization := h.group_organization.snoc
      (exists_of_any hparent)
    membership_group := h.membership_group.parents_snoc _
    groupGrant_group := h.groupGrant_group.parents_snoc _
    templateGroup_group := h.templateGroup_group.parents_snoc _ }

theorem addProject (h : s.Sound) {id : String} {key organization qualifier : Option String}
    (hadd : s.addProject id key organization qualifier = .ok t) : t.Sound := by
  obtain ⟨k, -, hparent, hfresh, rfl⟩ := addProject_eq_ok hadd
  exact { h with
    projects := h.projects.snoc hfresh
    project_organization := h.project_organization.snoc (exists_of_all_any hparent)
    userGrant_project := h.userGrant_project.parents_snoc _
    groupGrant_project := h.groupGrant_project.parents_snoc _ }

theorem addTemplate (h : s.Sound) {id : String} {organization name description : Option String}
    (hadd : s.addTemplate id organization name description = .ok t) : t.Sound := by
  obtain ⟨n, -, hparent, hfresh, rfl⟩ := addTemplate_eq_ok hadd
  exact { h with
    templates := h.templates.snoc hfresh
    template_organization := h.template_organization.snoc (exists_of_all_any hparent)
    templateUser_template := h.templateUser_template.parents_snoc _
    templateGroup_template := h.templateGroup_template.parents_snoc _
    characteristic_template := h.characteristic_template.parents_snoc _ }

theorem addUserGrant (h : s.Sound) {rowId user project role : Option String}
    (hadd : s.addUserGrant rowId user project role = .ok t) : t.Sound := by
  obtain ⟨u, r, -, -, huser, hproject, hfresh, rfl⟩ := addUserGrant_eq_ok hadd
  exact { h with
    userGrants := h.userGrants.snoc hfresh
    userGrant_user := h.userGrant_user.snoc (exists_of_any huser)
    userGrant_project := h.userGrant_project.snoc (exists_of_all_any hproject) }

theorem addGroupGrant (h : s.Sound) {rowId group project role : Option String}
    (hadd : s.addGroupGrant rowId group project role = .ok t) : t.Sound := by
  obtain ⟨r, -, hgroup, hproject, hfresh, rfl⟩ := addGroupGrant_eq_ok hadd
  exact { h with
    groupGrants := h.groupGrants.snoc hfresh
    groupGrant_group := h.groupGrant_group.snoc (exists_of_all_any hgroup)
    groupGrant_project := h.groupGrant_project.snoc (exists_of_all_any hproject) }

theorem addTemplateUser (h : s.Sound) {rowId template user role : Option String}
    (hadd : s.addTemplateUser rowId template user role = .ok t) : t.Sound := by
  obtain ⟨e, u, r, -, -, -, htemplate, huser, hfresh, rfl⟩ := addTemplateUser_eq_ok hadd
  exact { h with
    templateUsers := h.templateUsers.snoc hfresh
    templateUser_template := h.templateUser_template.snoc
      (exists_of_any htemplate)
    templateUser_user := h.templateUser_user.snoc
      (exists_of_any huser) }

theorem addTemplateGroup (h : s.Sound) {rowId template group role : Option String}
    (hadd : s.addTemplateGroup rowId template group role = .ok t) : t.Sound := by
  obtain ⟨e, r, -, -, htemplate, hgroup, hfresh, rfl⟩ := addTemplateGroup_eq_ok hadd
  exact { h with
    templateGroups := h.templateGroups.snoc hfresh
    templateGroup_template := h.templateGroup_template.snoc
      (exists_of_any htemplate)
    templateGroup_group := h.templateGroup_group.snoc (exists_of_all_any hgroup) }

theorem addCharacteristic (h : s.Sound) {rowId template role : Option String} {flag : Option Bool}
    (hadd : s.addCharacteristic rowId template role flag = .ok t) : t.Sound := by
  obtain ⟨e, r, -, -, htemplate, hfresh, rfl⟩ := addCharacteristic_eq_ok hadd
  exact { h with
    characteristics := h.characteristics.snoc hfresh
    characteristic_template := h.characteristic_template.snoc
      (exists_of_any htemplate) }

/-! ### Changes of stored rows -/

/-- A renamed group is apart from the others because its new name was looked for among them. -/
theorem renameGroup (h : s.Sound) {group : Group} {name : String} (hgroup : group ∈ s.groups)
    (hrename : s.renameGroup group name = .ok t) : t.Sound := by
  obtain ⟨hfresh, rfl⟩ := renameGroup_eq_ok hrename
  have hother : ∀ b ∈ s.groups, b.id ≠ group.id → ¬ Clash Group.keys { group with name } b :=
    fun b hb hid => hfresh b (List.mem_filter.2 ⟨hb, by simpa using hid⟩)
  have hid : ∀ g : Group, (if g.id == group.id then { g with name } else g).id = g.id := by
    intro g
    split <;> rfl
  refine { h with groups := ?_, group_organization := ?_, membership_group := ?_,
                  groupGrant_group := ?_, templateGroup_group := ?_ }
  · refine List.pairwise_map.2 (h.groups.imp_of_mem fun {a b} ha hb hab => ?_)
    -- at most one of the two is the renamed one
    by_cases hga : a.id = group.id
    · by_cases hgb : b.id = group.id
      · have hclash : Clash Group.keys a b := Group.clash_of_id (hga.trans hgb.symm)
        exact absurd hclash hab
      · rw [if_pos (beq_iff_eq.2 hga), if_neg (by simpa using hgb),
          h.groups.eq_of_clash ha hgroup (Group.clash_of_id hga)]
        exact hother b hb hgb
    · by_cases hgb : b.id = group.id
      · rw [if_neg (by simpa using hga), if_pos (beq_iff_eq.2 hgb),
          h.groups.eq_of_clash hb hgroup (Group.clash_of_id hgb)]
        exact fun hclash => hother a ha hga hclash.symm
      · rwa [if_neg (by simpa using hga), if_neg (by simpa using hgb)]
  · refine h.group_organization.map fun g v hv => ?_
    rw [← hv]
    split <;> rfl
  · exact h.membership_group.parents_map hid
  · exact h.groupGrant_group.parents_map hid
  · exact h.templateGroup_group.parents_map hid

theorem setFlag (h : s.Sound) {template role : String} {flag : Option Bool}
    (hset : s.setFlag template role flag = .ok t) : t.Sound := by
  obtain ⟨f, -, rfl⟩ := setFlag_eq_ok hset
  refine { h with characteristics := ?_, characteristic_template := ?_ }
  · -- no key has the flag among its columns
    refine h.characteristics.map fun k hk a b => ?_
    simp only [Characteristic.keys, List.mem_cons, List.not_mem_nil, or_false] at hk
    rcases hk with rfl | rfl <;> simp only [Key.clashes] <;> split <;> split <;> rfl
  · refine h.characteristic_template.map fun c v hv => ?_
    rw [← hv]
    split <;> rfl

/-- A project keeps its keys when its organization or its mark changes. -/
theorem projects_map (h : s.Sound) {f : Project → Project}
    (hid : ∀ p, (f p).id = p.id) (hkey : ∀ p, (f p).key = p.key) :
    Apart Project.keys (s.projects.map f) := by
  refine h.projects.map fun k hk a b => ?_
  simp only [Project.keys, List.mem_cons, List.not_mem_nil, or_false] at hk
  rcases hk with rfl | rfl <;> simp [Key.clashes, hid, hkey]

theorem refresh (h : s.Sound) (project : String) (reading : Nat) :
    (s.refresh project reading).Sound := by
  have hsame : ∀ p : Project,
      (if p.id == project then { p with refreshedAt := some reading } else p).id = p.id ∧
      (if p.id == project then { p with refreshedAt := some reading } else p).key = p.key ∧
      (if p.id == project then { p with refreshedAt := some reading } else p).organization =
        p.organization := by
    intro p
    split <;> exact ⟨rfl, rfl, rfl⟩
  exact { h with
    projects := h.projects_map (fun p => (hsame p).1) fun p => (hsame p).2.1
    project_organization := h.project_organization.map fun p v hv => (hsame p).2.2 ▸ hv
    userGrant_project := h.userGrant_project.parents_map fun p => (hsame p).1
    groupGrant_project := h.groupGrant_project.parents_map fun p => (hsame p).1 }

/-- Who joins is stored, is not a member yet, and joins what is stored. -/
theorem join (h : s.Sound) {user group : String} (huser : s.hasUser user = true)
    (hgroup : s.hasGroup group = true) (hnot : s.isMember user group = false) :
    (s.join user group).Sound := by
  refine { h with memberships := ?_, membership_user := ?_, membership_group := ?_ }
  · -- a membership has no key of its own, so that it is not there twice rests on the look before
    refine List.nodup_append.2 ⟨h.memberships, by simp, ?_⟩
    rintro m hm m' hm' rfl
    rw [List.mem_singleton.1 hm'] at hm
    have hmember : s.isMember user group = true :=
      List.any_eq_true.2 ⟨_, hm, by simp⟩
    rw [hmember] at hnot
    cases hnot
  · exact h.membership_user.snoc (exists_of_any huser)
  · exact h.membership_group.snoc (exists_of_any hgroup)

theorem leave (h : s.Sound) (user group : String) : (s.leave user group).Sound :=
  { h with
    memberships := h.memberships.filter _
    membership_user := h.membership_user.filter _
    membership_group := h.membership_group.filter _ }

theorem dropUserGrants (h : s.Sound) (picked : UserGrant → Bool) :
    (s.dropUserGrants picked).Sound :=
  { h with
    userGrants := h.userGrants.filter _
    userGrant_user := h.userGrant_user.filter _
    userGrant_project := h.userGrant_project.filter _ }

theorem dropGroupGrants (h : s.Sound) (picked : GroupGrant → Bool) :
    (s.dropGroupGrants picked).Sound :=
  { h with
    groupGrants := h.groupGrants.filter _
    groupGrant_group := h.groupGrant_group.filter _
    groupGrant_project := h.groupGrant_project.filter _ }

theorem dropTemplateUsers (h : s.Sound) (keep : TemplateUser → Bool) :
    { s with templateUsers := s.templateUsers.filter keep : Store }.Sound :=
  { h with
    templateUsers := h.templateUsers.filter _
    templateUser_template := h.templateUser_template.filter _
    templateUser_user := h.templateUser_user.filter _ }

theorem dropTemplateGroups (h : s.Sound) (keep : TemplateGroup → Bool) :
    { s with templateGroups := s.templateGroups.filter keep : Store }.Sound :=
  { h with
    templateGroups := h.templateGroups.filter _
    templateGroup_template := h.templateGroup_template.filter _
    templateGroup_group := h.templateGroup_group.filter _ }

/-! ### Deletions -/

theorem removeGroups (h : s.Sound) (gone : String → Bool) : (s.removeGroups gone).Sound :=
  { h with
    groups := h.groups.filter _
    memberships := h.memberships.filter _
    groupGrants := h.groupGrants.filter _
    templateGroups := h.templateGroups.filter _
    group_organization := h.group_organization.filter _
    membership_user := h.membership_user.filter _
    membership_group := h.membership_group.cascade gone (by simp) (by simp)
    groupGrant_group := h.groupGrant_group.cascade gone
      (fun _ _ hkept hv => by simpa [hv] using hkept) (by simp)
    groupGrant_project := h.groupGrant_project.filter _
    templateGroup_template := h.templateGroup_template.filter _
    templateGroup_group := h.templateGroup_group.cascade gone
      (fun _ _ hkept hv => by simpa [hv] using hkept) (by simp) }

theorem removeTemplates (h : s.Sound) (gone : String → Bool) : (s.removeTemplates gone).Sound :=
  { h with
    templates := h.templates.filter _
    templateUsers := h.templateUsers.filter _
    templateGroups := h.templateGroups.filter _
    characteristics := h.characteristics.filter _
    template_organization := h.template_organization.filter _
    templateUser_template := h.templateUser_template.cascade gone (by simp) (by simp)
    templateUser_user := h.templateUser_user.filter _
    templateGroup_template := h.templateGroup_template.cascade gone (by simp) (by simp)
    templateGroup_group := h.templateGroup_group.filter _
    characteristic_template := h.characteristic_template.cascade gone (by simp) (by simp) }

theorem deleteUser (h : s.Sound) (id : String) : (s.deleteUser id).Sound :=
  { h with
    users := h.users.filter _
    memberships := h.memberships.filter _
    userGrants := h.userGrants.filter _
    templateUsers := h.templateUsers.filter _
    membership_user := h.membership_user.cascade (· == id) (by simp) (by simp)
    membership_group := h.membership_group.filter _
    userGrant_user := h.userGrant_user.cascade (· == id) (by simp) (by simp)
    userGrant_project := h.userGrant_project.filter _
    templateUser_template := h.templateUser_template.filter _
    templateUser_user := h.templateUser_user.cascade (· == id) (by simp) (by simp) }

theorem deleteProject (h : s.Sound) (id : String) : (s.deleteProject id).Sound :=
  { h with
    projects := h.projects.filter _
    userGrants := h.userGrants.filter _
    groupGrants := h.groupGrants.filter _
    project_organization := h.project_organization.filter _
    userGrant_user := h.userGrant_user.filter _
    userGrant_project :=
      h.userGrant_project.cascade (· == id)
        (fun _ _ hkept hv => by simpa [hv] using hkept) (by simp)
    groupGrant_group := h.groupGrant_group.filter _
    groupGrant_project :=
      h.groupGrant_project.cascade (· == id)
        (fun _ _ hkept hv => by simpa [hv] using hkept) (by simp) }

/-- What an organization owned is gone with it, and its projects have been taken out of it. -/
theorem deleteOrganization (h : s.Sound) (id : String) : (s.deleteOrganization id).Sound := by
  have hrest := (h.removeGroups (s.ownsGroup id)).removeTemplates (s.ownsTemplate id)
  have hsame : ∀ p : Project,
      (if p.organization == some id then { p with organization := none } else p).id = p.id ∧
      (if p.organization == some id then { p with organization := none } else p).key = p.key := by
    intro p
    split <;> exact ⟨rfl, rfl⟩
  refine { hrest with
    organizations := hrest.organizations.filter _
    projects := hrest.projects_map (fun p => (hsame p).1) fun p => (hsame p).2
    group_organization := ?_
    project_organization := ?_
    template_organization := ?_
    userGrant_project := hrest.userGrant_project.parents_map fun p => (hsame p).1
    groupGrant_project := hrest.groupGrant_project.parents_map fun p => (hsame p).1 }
  · intro g hg v hv
    obtain ⟨hmem, hkept⟩ := List.mem_filter.1 hg
    obtain ⟨o, ho, rfl⟩ := hrest.group_organization g hg v hv
    refine ⟨o, List.mem_filter.2 ⟨ho, bne_iff_ne.2 fun hid => ?_⟩, rfl⟩
    -- a group of the organization would have been removed
    have howned : s.ownsGroup id g.id = true :=
      List.any_eq_true.2 ⟨g, hmem, by simpa [hid] using hv⟩
    rw [howned] at hkept
    cases hkept
  · intro p hp v hv
    obtain ⟨q, hq, rfl⟩ := List.mem_map.1 hp
    by_cases hq' : q.organization = some id
    · -- it was a project of the organization, and refers to none now
      rw [if_pos (beq_iff_eq.2 hq')] at hv
      cases hv
    · rw [if_neg (by simpa using hq')] at hv
      obtain ⟨o, ho, rfl⟩ := hrest.project_organization q hq v hv
      exact ⟨o, List.mem_filter.2 ⟨ho, bne_iff_ne.2 fun hid => hq' (hid ▸ hv)⟩, rfl⟩
  · intro e he v hv
    obtain ⟨hmem, hkept⟩ := List.mem_filter.1 he
    obtain ⟨o, ho, rfl⟩ := hrest.template_organization e he v hv
    refine ⟨o, List.mem_filter.2 ⟨ho, bne_iff_ne.2 fun hid => ?_⟩, rfl⟩
    -- and so would a template
    have howned : s.ownsTemplate id e.id = true :=
      List.any_eq_true.2 ⟨e, hmem, by simpa [hid] using hv⟩
    rw [howned] at hkept
    cases hkept

theorem deleteRow (h : s.Sound) (kind : RowKind) (id : String) : (s.deleteRow kind id).Sound := by
  cases kind with
  | organization => exact h.deleteOrganization id
  | user => exact h.deleteUser id
  | group => exact h.removeGroups (· == id)
  | project => exact h.deleteProject id
  | template => exact h.removeTemplates (· == id)

end Store.Sound

/-! ### Every change -/

theorem Store.sound_empty : ({} : Store).Sound := by
  constructor <;> first | exact List.Pairwise.nil | exact fun r hr => (nomatch hr)

/-- **No change breaks the integrity of a store.** -/
theorem Change.sound {s : Session} {c : Change} {store : Store} (hfits : c.Fits s)
    (hrun : c.run s.working = .ok store) (h : s.working.Sound) : store.Sound := by
  cases c with
  | addOrganization id key name => exact h.addOrganization hrun
  | addUser id login active => exact h.addUser hrun
  | addGroup id organization name => exact h.addGroup hrun
  | addProject id key organization qualifier => exact h.addProject hrun
  | addTemplate id organization name description => exact h.addTemplate hrun
  | insert draft =>
    cases draft with
    | userGrant rowId user project role => exact h.addUserGrant hrun
    | groupGrant rowId group project role => exact h.addGroupGrant hrun
    | templateUser rowId template user role => exact h.addTemplateUser hrun
    | templateGroup rowId template group role => exact h.addTemplateGroup hrun
    | characteristic rowId template role flag => exact h.addCharacteristic hrun
    | template id organization name => exact h.addTemplate hrun
  | renameGroup group name => exact h.renameGroup hfits.1 hrun
  | setFlag template role flag => exact h.setFlag hrun
  | refresh project reading => cases hrun; exact h.refresh project reading
  | join user group => cases hrun; exact h.join hfits.1 hfits.2.1 hfits.2.2
  | leave user group => cases hrun; exact h.leave user group
  | dropUserGrants picked => cases hrun; exact h.dropUserGrants picked
  | dropGroupGrants picked => cases hrun; exact h.dropGroupGrants picked
  | dropTemplateUsers picked => cases hrun; exact h.dropTemplateUsers _
  | dropTemplateGroups picked => cases hrun; exact h.dropTemplateGroups _
  | delete kind id => cases hrun; exact h.deleteRow kind id

/-- No triple is stored twice where rows stand apart. -/
theorem Store.Sound.nodup_grants {s : Store} (h : s.Sound) : s.grants.Nodup := by
  refine List.nodup_append.2 ⟨?_, ?_, ?_⟩
  · refine List.pairwise_map.2 (h.userGrants.imp fun hab hgrant => hab ?_)
    exact UserGrant.clash_iff.2 (.inl hgrant)
  · refine List.pairwise_map.2 (h.groupGrants.imp fun hab hgrant => hab ?_)
    exact GroupGrant.clash_iff.2 (.inl hgrant)
  · -- the two tables hold for different holders
    intro g hg g' hg' hgg'
    obtain ⟨r, -, rfl⟩ := List.mem_map.1 hg
    obtain ⟨r', -, rfl⟩ := List.mem_map.1 hg'
    have hholder : Holder.user r.user = .ofGroup r'.group := congrArg Grant.holder hgg'
    cases hgroup : r'.group <;> rw [hgroup] at hholder <;> cases hholder

/-- A triple that is held refers to rows that exist. -/
theorem Store.Sound.knows_of_mem_grants {s : Store} (h : s.Sound) {g : Grant} (hg : g ∈ s.grants) :
    s.knows g = true := by
  have hproject : ∀ project : Option String,
      (∀ v, project = some v → ∃ p ∈ s.projects, p.id = v) → project.all s.hasProject = true := by
    rintro (_ | v) hv
    · rfl
    · obtain ⟨p, hp, rfl⟩ := hv v rfl
      exact hasProject_of_mem hp
  rcases mem_grants.1 hg with ⟨r, hr, rfl⟩ | ⟨r, hr, rfl⟩
  · obtain ⟨u, hu, hid⟩ : ∃ u ∈ s.users, u.id = r.user := h.userGrant_user r hr r.user rfl
    have huser : s.hasUser r.user = true := hid ▸ hasUser_of_mem hu
    exact Bool.and_eq_true_iff.2 ⟨huser, hproject r.project (h.userGrant_project r hr)⟩
  · rw [GroupGrant.grant, knows_ofGroup]
    refine Bool.and_eq_true_iff.2 ⟨?_, hproject r.project (h.groupGrant_project r hr)⟩
    cases hgroup : r.group with
    | none => rfl
    | some id =>
      obtain ⟨g, hg, rfl⟩ := h.groupGrant_group r hr id hgroup
      exact hasGroup_of_mem hg

/-- Only stored users belong to groups. -/
theorem Store.Sound.hasUser_of_membership {s : Store} (h : s.Sound) {user group : String}
    (hm : ⟨user, group⟩ ∈ s.memberships) : s.hasUser user = true := by
  obtain ⟨u, hu, rfl⟩ := h.membership_user ⟨user, group⟩ hm user rfl
  exact hasUser_of_mem hu

/-- Where all that is held refers to rows that exist, it is these rows alone that decide about a
grant. -/
theorem Store.Sound.checkedTriple_eq {s : Store} (h : s.Sound) {role : String}
    (hrole : Text.isBlank role = false) (holder : Option Holder) (project : Option String) :
    s.checkedTriple holder (some role) project = match holder with
      | none => .error (.store (.missingValue "user_roles.user_id"))
      | some holder =>
        if s.knows ⟨holder, project, role⟩ then .ok ⟨holder, project, role⟩
        else .error (.store .missingParent) := by
  have hroleOf : roleOf (some role) = .ok role := roleOf_eq_ok.2 ⟨rfl, hrole⟩
  unfold Store.checkedTriple
  rw [hroleOf]
  cases holder with
  | none => rfl
  | some holder =>
    have hadmits : ⟨holder, project, role⟩ ∈ s.grants ∨ s.knows ⟨holder, project, role⟩ = true ↔
        s.knows ⟨holder, project, role⟩ = true := or_iff_right_of_imp h.knows_of_mem_grants
    simp only [hadmits]

/-- **A reachable session sees a store of integrity, and has committed one.** -/
theorem Session.ReachedBy.sound {kind : Call → Prop} {s : Session} (h : s.ReachedBy kind) :
    s.InBoth Store.Sound :=
  h.invariant Store.sound_empty fun _ _ _ _ _ _ hfits hrun hs => Change.sound hfits hrun hs

end RoleGrants
