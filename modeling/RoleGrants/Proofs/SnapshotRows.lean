import Mathlib.Data.List.Forall2
import RoleGrants.Proofs.AdviceAgreement
import RoleGrants.Proofs.StoredFact
import RoleGrants.Proofs.StoredSnapshot

/-!
# A snapshot row by row

Reading a template off the store goes through a join with the users and through sets and a map, and
each of them could drop or merge what the rows say. `snapshot_mirrors_rows` says that none does:
entries and rows correspond one to one (`Snapshot.Mirrors`), and the queries of a snapshot answer by
the rows.

Two clauses of the integrity of the store carry this. Every entry of a user refers to a stored user,
and to one only, so the join yields one entry for each row (`Store.Sound.userEntries_eq`). And two
rows of one template differ in the principal or in the role, where a missing group counts as a
value, so no two entries of a set and no two flags of a map are taken for one (`nodup_keys_users`,
`nodup_keys_groups`).
-/

open RoleGrants.Action

namespace RoleGrants

/-! ### The entry of a row -/

/-- The principal of an entry for a group. Without a group it is Anyone. -/
def Principal.ofGroup : Option String → Principal
  | some id => .group (some id)
  | none => .anyone

/-- The entry for a group, or for Anyone, with a role. -/
def groupEntry (group : Option String) (role : String) : Entry where
  principal := .ofGroup group
  role := some role

/-- The current login of a user, if there is one. -/
def Store.loginOf (s : Store) (user : String) : Option String :=
  (s.user? (some user)).map (·.login)

/-- The entry for a user with a role, and with the login that the user has. -/
def Store.userEntry (s : Store) (user role : String) : Entry where
  principal := .user (some user)
  login := s.loginOf user
  role := some role

theorem Principal.ofGroup_inj {a b : Option String} :
    Principal.ofGroup a = .ofGroup b ↔ a = b := by
  cases a <;> cases b <;> simp [Principal.ofGroup]

theorem key_groupEntry (group : Option String) (role : String) :
    (groupEntry group role).key = (Principal.ofGroup group, some role) := by
  cases group <;> rfl

theorem Store.groupEntries_eq (s : Store) (template : String) :
    s.groupEntries template = (s.templateGroups.filter (·.template == template)).map fun r =>
      groupEntry r.group r.role := by
  refine List.map_congr_left fun r _ => ?_
  cases r.group <;> rfl

namespace Store.Sound

variable {s : Store} {t : Template} (h : s.Sound)
include h

/-- The user of a row is stored, and the join finds it and no other. -/
theorem exists_user {r : TemplateUser} (hr : r ∈ s.templateUsers) :
    ∃ u ∈ s.users, u.id = r.user ∧ s.users.filter (·.id == r.user) = [u] ∧
      s.user? (some r.user) = some u := by
  obtain ⟨u, hu, hid⟩ : ∃ u ∈ s.users, u.id = r.user := h.templateUser_user r hr r.user rfl
  have hclash : ∀ a b : User, a.id = r.user → b.id = r.user → Clash User.keys a b :=
    fun a b ha hb => User.clash_of_id (ha.trans hb.symm)
  refine ⟨u, hu, hid, ?_, ?_⟩
  · exact h.users.filter_eq hu (by simpa using hid) fun a b ha hb =>
      hclash a b (by simpa using ha) (by simpa using hb)
  · exact h.users.find?_eq hu (by simpa using hid) fun a b ha hb =>
      hclash a b (by simpa using ha) (by simpa using hb)

/-- **The join with the users drops no row.** -/
theorem userEntries_eq (template : String) :
    s.userEntries template = (s.templateUsers.filter (·.template == template)).map fun r =>
      s.userEntry r.user r.role := by
  rw [List.map_eq_flatMap]
  refine List.flatMap_congr fun r hr => ?_
  obtain ⟨u, -, hid, hfilter, hfound⟩ := h.exists_user (List.mem_filter.1 hr).1
  rw [hfilter, userEntry, loginOf, hfound]
  rfl

/-- Entries of one template for one user and one role come from one row. -/
theorem nodup_keys_users (template : String) :
    ((s.userEntries template).map Entry.key).Nodup := by
  rw [h.userEntries_eq, List.map_map]
  refine TemplateUser.factTable.nodup_map (h.templateUsers.filter _) fun a ha b hb hkey => ?_
  have hta : a.template = template := by simpa using (List.mem_filter.1 ha).2
  have htb : b.template = template := by simpa using (List.mem_filter.1 hb).2
  have hkey : a.user = b.user ∧ a.role = b.role := by
    simpa [Entry.key, userEntry, Principal.identity] using hkey
  simp [TemplateUser.fact, hta, htb, hkey]

/-- Entries of one template for one group, or for Anyone, and one role come from one row. -/
theorem nodup_keys_groups (template : String) :
    ((s.groupEntries template).map Entry.key).Nodup := by
  rw [s.groupEntries_eq, List.map_map]
  refine TemplateGroup.factTable.nodup_map (h.templateGroups.filter _) fun a ha b hb hkey => ?_
  have hta : a.template = template := by simpa using (List.mem_filter.1 ha).2
  have htb : b.template = template := by simpa using (List.mem_filter.1 hb).2
  have hkey : a.group = b.group ∧ a.role = b.role := by
    simpa [key_groupEntry, Principal.ofGroup_inj] using hkey
  simp [TemplateGroup.fact, hta, htb, hkey]

/-! ### The parts of a snapshot -/

theorem users_snapshot (t : Template) : (s.snapshot t).users = s.userEntries t.id :=
  distinctBy_of_nodup (h.nodup_keys_users t.id)

theorem groups_snapshot (t : Template) : (s.snapshot t).groups = s.groupEntries t.id :=
  distinctBy_of_nodup (h.nodup_keys_groups t.id)

theorem mem_users_snapshot_iff {e : Entry} :
    e ∈ (s.snapshot t).users ↔
      ∃ r ∈ s.templateUsers, r.template = t.id ∧ e = s.userEntry r.user r.role := by
  rw [h.users_snapshot, h.userEntries_eq]
  simp only [List.mem_map, List.mem_filter, beq_iff_eq, and_assoc, @eq_comm _ e]

theorem mem_groups_snapshot_iff {e : Entry} :
    e ∈ (s.snapshot t).groups ↔
      ∃ r ∈ s.templateGroups, r.template = t.id ∧ e = groupEntry r.group r.role := by
  rw [h.groups_snapshot, s.groupEntries_eq]
  simp only [List.mem_map, List.mem_filter, beq_iff_eq, and_assoc, @eq_comm _ e]

/-- The id of a template finds the template. -/
theorem template?_eq (ht : t ∈ s.templates) : s.template? (some t.id) = some t := by
  refine h.templates.find?_eq ht (by simp) fun a b ha hb => Template.clash_of_id ?_
  have ha : a.id = t.id := by simpa using ha
  have hb : b.id = t.id := by simpa using hb
  rw [ha, hb]

end Store.Sound

/-! ### One to one -/

/-- **A snapshot mirrors a template.** Its entries correspond one to one to the rows of the
template, each with the current login of its user, or with Anyone just where the row has no group,
and its flags to the characteristics. What it is asked for is there when there is a row that says
so. -/
structure Snapshot.Mirrors (shot : Snapshot) (s : Store) (t : Template) : Prop where
  id : shot.id = some t.id
  name : shot.name = some t.name
  users : List.Forall₂
    (fun (r : TemplateUser) (e : Entry) => e.principal = .user (some r.user) ∧
      e.role = some r.role ∧ ∃ u ∈ s.users, u.id = r.user ∧ e.login = some u.login)
    (s.templateUsers.filter (·.template == t.id)) shot.users
  nodup_users : (shot.users.map Entry.key).Nodup
  groups : List.Forall₂
    (fun (r : TemplateGroup) (e : Entry) => (e.principal = .anyone ↔ r.group = none) ∧
      (∀ id, e.principal = .group id ↔ r.group = id ∧ id ≠ none) ∧ e.role = some r.role)
    (s.templateGroups.filter (·.template == t.id)) shot.groups
  nodup_groups : (shot.groups.map Entry.key).Nodup
  characteristics : List.Forall₂
    (fun (c : Characteristic) (flag : String × Bool) => flag = (c.role, c.forCreator))
    (s.characteristics.filter (·.template == t.id)) shot.characteristics
  nodup_characteristics : (shot.characteristics.map (·.1)).Nodup
  hasUserEntry : ∀ user role, shot.hasUserEntry user role = true ↔
    ∃ r ∈ s.templateUsers, r.template = t.id ∧ user = some r.user ∧ role = some r.role
  hasAnyoneEntry : ∀ role, shot.hasAnyoneEntry role = true ↔
    ∃ r ∈ s.templateGroups, r.template = t.id ∧ r.group = none ∧ role = some r.role
  groupIdsFor : ∀ role id, id ∈ shot.groupIdsFor role ↔
    ∃ r ∈ s.templateGroups, r.template = t.id ∧ (r.group = id ∧ id ≠ none) ∧ role = some r.role
  creatorRoles : ∀ role, role ∈ shot.creatorRoles ↔
    ∃ c ∈ s.characteristics, c.template = t.id ∧ c.role = role ∧ c.forCreator = true

section Mirrors

variable {s : Store} {t : Template}

theorem groupEntry_principal {group : Option String} {role : String} :
    ((groupEntry group role).principal = .anyone ↔ group = none) ∧
      ∀ id, (groupEntry group role).principal = .group id ↔ group = id ∧ id ≠ none := by
  cases group <;> simp [groupEntry, Principal.ofGroup, eq_comm]

theorem Store.Sound.mirrors_snapshot (h : s.Sound) (t : Template) : (s.snapshot t).Mirrors s t where
  id := rfl
  name := rfl
  users := by
    rw [h.users_snapshot, h.userEntries_eq, List.forall₂_map_right_iff]
    refine List.forall₂_same.2 fun r hr => ⟨rfl, rfl, ?_⟩
    obtain ⟨u, hu, hid, -, hfound⟩ := h.exists_user (List.mem_filter.1 hr).1
    exact ⟨u, hu, hid, by rw [userEntry, loginOf, hfound]; rfl⟩
  nodup_users := nodup_map_distinctBy Entry.key (s.userEntries t.id)
  groups := by
    rw [h.groups_snapshot, s.groupEntries_eq, List.forall₂_map_right_iff]
    exact List.forall₂_same.2 fun r _ => ⟨groupEntry_principal.1, groupEntry_principal.2, rfl⟩
  nodup_groups := nodup_map_distinctBy Entry.key (s.groupEntries t.id)
  characteristics := by
    rw [h.characteristics_snapshot, flagsOf, List.forall₂_map_right_iff]
    exact List.forall₂_same.2 fun c _ => rfl
  nodup_characteristics := by
    rw [h.characteristics_snapshot]
    exact h.nodup_flagsOf t.id
  hasUserEntry := by
    intro user role
    rw [Snapshot.hasUserEntry_iff]
    constructor
    · rintro ⟨e, he, hprincipal, rfl⟩
      obtain ⟨r, hr, htemplate, rfl⟩ := h.mem_users_snapshot_iff.1 he
      exact ⟨r, hr, htemplate, (Principal.user.inj hprincipal).symm, rfl⟩
    · rintro ⟨r, hr, htemplate, rfl, rfl⟩
      exact ⟨_, h.mem_users_snapshot_iff.2 ⟨r, hr, htemplate, rfl⟩, rfl, rfl⟩
  hasAnyoneEntry := by
    intro role
    rw [Snapshot.hasAnyoneEntry_iff]
    constructor
    · rintro ⟨e, he, hprincipal, rfl⟩
      obtain ⟨r, hr, htemplate, rfl⟩ := h.mem_groups_snapshot_iff.1 he
      exact ⟨r, hr, htemplate, groupEntry_principal.1.1 hprincipal, rfl⟩
    · rintro ⟨r, hr, htemplate, hnone, rfl⟩
      exact ⟨_, h.mem_groups_snapshot_iff.2 ⟨r, hr, htemplate, rfl⟩,
        groupEntry_principal.1.2 hnone, rfl⟩
  groupIdsFor := by
    intro role id
    rw [Snapshot.mem_groupIdsFor]
    constructor
    · rintro ⟨e, he, rfl, hprincipal⟩
      obtain ⟨r, hr, htemplate, rfl⟩ := h.mem_groups_snapshot_iff.1 he
      exact ⟨r, hr, htemplate, (groupEntry_principal.2 id).1 hprincipal, rfl⟩
    · rintro ⟨r, hr, htemplate, hgroup, rfl⟩
      exact ⟨_, h.mem_groups_snapshot_iff.2 ⟨r, hr, htemplate, rfl⟩, rfl,
        (groupEntry_principal.2 id).2 hgroup⟩
  creatorRoles := by
    intro role
    rw [Snapshot.mem_creatorRoles]
    exact h.mem_characteristics_snapshot

end Mirrors

theorem requireTemplate_run (id : String) (s : Session) :
    requireTemplate (some id) s = match s.working.template? (some id) with
      | some t => .ok t s
      | none => .error (.refused (.noTemplateWithId id)) s := by
  unfold requireTemplate Store.findTemplate
  simp only [bind_run, reading_run]
  cases s.working.template? (some id) <;> rfl

theorem resolveTemplate_run (id : String) (s : Session) :
    resolveTemplate (some id) s = match s.working.template? (some id) with
      | some t => .ok (s.working.snapshot t) s
      | none => .error (.refused (.noTemplateWithId id)) s := by
  rw [resolveTemplate, bind_run, requireTemplate_run]
  cases s.working.template? (some id) <;> rfl

/-- **A snapshot loses nothing and merges nothing.** In a reachable session a stored template is
resolved by its id, and what it is resolved to mirrors its rows, however they have come in. -/
theorem snapshot_mirrors_rows {s : Session} (hs : s.Reachable) {t : Template}
    (ht : t ∈ s.working.templates) :
    ∃ shot, s.serve (.templates (.resolve (some t.id))) = (.ok (.snapshot (some shot)), s) ∧
      shot.Mirrors s.working t := by
  have hsound := hs.sound.1
  refine ⟨s.working.snapshot t, Session.serve_of_ok ?_, hsound.mirrors_snapshot t⟩
  have hrun : resolveTemplate (some t.id) s = .ok (s.working.snapshot t) s := by
    rw [resolveTemplate_run, hsound.template?_eq ht]
  exact map_eq_ok.2 ⟨_, hrun, rfl⟩

/-- The template of the sample has two rows for groups, one of them without a group, and one for a
user. -/
theorem sample_mirrored :
    ∃ shot, Session.sample.serve (.templates (.resolve (some "t"))) =
        (.ok (.snapshot (some shot)), Session.sample) ∧
      shot.groups.length = 2 ∧ shot.users.length = 1 ∧ shot.hasAnyoneEntry (some "browse") = true ∧
      shot.hasAnyoneEntry (some "scan") = false := by
  have hs : Session.sample.Reachable := ⟨sampleCalls, fun _ _ => trivial, rfl⟩
  have ht : ⟨"t", some "o", "default", none⟩ ∈ Session.sample.working.templates := by
    decide +kernel
  obtain ⟨shot, hserve, hmirrors⟩ := snapshot_mirrors_rows hs ht
  have hanyone :
      ∀ r ∈ Session.sample.working.templateGroups, r.group = none → r.role = "browse" := by
    decide +kernel
  refine ⟨shot, hserve, ?_, ?_, ?_, ?_⟩
  · rw [← hmirrors.groups.length_eq]
    decide +kernel
  · rw [← hmirrors.users.length_eq]
    decide +kernel
  · exact (hmirrors.hasAnyoneEntry _).2 ⟨⟨none, "t", none, "browse"⟩, by decide +kernel⟩
  · rw [Bool.eq_false_iff, ne_eq, hmirrors.hasAnyoneEntry]
    rintro ⟨r, hr, -, hnone, hrole⟩
    rw [hanyone r hr hnone] at hrole
    exact absurd hrole (by decide)

end RoleGrants
