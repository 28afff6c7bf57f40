import RoleGrants.Grant.Read
import RoleGrants.Proofs.StoredGrant

/-!
# Revoking one grant

Revoking a role of a principal in closed form: the triple that stands for it is taken away and the
project is marked (`revokeFromUser_run`, `revokeFromGroup_run`). The answer counts the rows that
the triple had, and a user without an id has none. `Store.removeGrant` looks at triples only and at
both tables alike, although each revocation goes through a single one: a row of the other table
never stands for the triple.
-/

open RoleGrants.Action

namespace RoleGrants

/-! ### The rows of a triple -/

section Rows

variable {user group role project : Option String}

/-- The rows of users that a revocation picks are those of its triple. -/
theorem UserGrant.picked_eq (g : UserGrant) :
    (some g.user == user && g.project == project && some g.role == role) =
      decide (some g.grant = (Principal.user user).grant? role project) := by
  rw [Bool.eq_iff_iff]
  cases user <;> cases role <;>
    simp [Principal.grant?, Principal.holder?, UserGrant.grant, and_assoc]

/-- The rows of groups that a revocation picks are those of its triple. -/
theorem GroupGrant.picked_eq (g : GroupGrant) :
    (g.group == group && g.project == project && some g.role == role) =
      decide (some g.grant = (Principal.group group).grant? role project) := by
  rw [Bool.eq_iff_iff]
  cases role <;>
    simp [Principal.grant?, Principal.holder?, GroupGrant.grant, Holder.ofGroup_inj, and_assoc]

/-- A triple of a user has no row in the table of groups. -/
theorem GroupGrant.grant_ne_of_user (g : GroupGrant) :
    some g.grant ≠ (Principal.user user).grant? role project := by
  obtain ⟨rowId, group, _, _⟩ := g
  cases user <;> cases role <;> cases group <;>
    simp [Principal.grant?, Principal.holder?, GroupGrant.grant, Holder.ofGroup]

/-- A triple of a group or of Anyone has no row in the table of users. -/
theorem UserGrant.grant_ne_of_group (g : UserGrant) :
    some g.grant ≠ (Principal.group group).grant? role project := by
  cases role <;> cases group <;>
    simp [Principal.grant?, Principal.holder?, UserGrant.grant, Holder.ofGroup]

end Rows

/-! ### Taking a triple away -/

namespace Store

/-- The store with one triple less, if it is there. Without a triple nothing is taken away. -/
def removeGrant (s : Store) (g : Option Grant) : Store :=
  { s with
    userGrants := s.userGrants.filter fun r => !decide (some r.grant = g)
    groupGrants := s.groupGrants.filter fun r => !decide (some r.grant = g) }

/-- How many rows a triple has. -/
def countGrant (s : Store) (g : Option Grant) : Nat :=
  s.grants.countP fun g' => decide (some g' = g)

theorem grants_removeGrant (s : Store) (g : Option Grant) :
    (s.removeGrant g).grants = s.grants.filter fun g' => !decide (some g' = g) := by
  simp only [grants, removeGrant, List.filter_append, List.filter_map]
  rfl

theorem mem_grants_removeGrant {s : Store} {g : Option Grant} {g' : Grant} :
    g' ∈ (s.removeGrant g).grants ↔ g' ∈ s.grants ∧ some g' ≠ g := by
  simp [grants_removeGrant]

theorem dropUserGrants_eq_removeGrant (s : Store) (user role project : Option String) :
    s.dropUserGrants (fun g => some g.user == user && g.project == project && some g.role == role) =
      s.removeGrant ((Principal.user user).grant? role project) := by
  have hgroups : s.groupGrants.filter (fun r => !decide (some r.grant =
      (Principal.user user).grant? role project)) = s.groupGrants :=
    List.filter_eq_self.2 fun r _ => by simp [r.grant_ne_of_user]
  simp only [dropUserGrants, removeGrant, UserGrant.picked_eq, hgroups]

theorem dropGroupGrants_eq_removeGrant (s : Store) (group role project : Option String) :
    s.dropGroupGrants (fun g => g.group == group && g.project == project && some g.role == role) =
      s.removeGrant ((Principal.group group).grant? role project) := by
  have husers : s.userGrants.filter (fun r => !decide (some r.grant =
      (Principal.group group).grant? role project)) = s.userGrants :=
    List.filter_eq_self.2 fun r _ => by simp [r.grant_ne_of_group]
  simp only [dropGroupGrants, removeGrant, GroupGrant.picked_eq, husers]

theorem countP_userGrants_eq_countGrant (s : Store) (user role project : Option String) :
    (s.userGrants.countP fun g =>
        some g.user == user && g.project == project && some g.role == role) =
      s.countGrant ((Principal.user user).grant? role project) := by
  have hgroups : s.groupGrants.countP (fun r => decide (some r.grant =
      (Principal.user user).grant? role project)) = 0 :=
    List.countP_eq_zero.2 fun r _ => by simp [r.grant_ne_of_user]
  simp only [countGrant, grants, List.countP_append, List.countP_map, UserGrant.picked_eq,
    Function.comp_def, hgroups, Nat.add_zero]

theorem countP_groupGrants_eq_countGrant (s : Store) (group role project : Option String) :
    (s.groupGrants.countP fun g =>
        g.group == group && g.project == project && some g.role == role) =
      s.countGrant ((Principal.group group).grant? role project) := by
  have husers : s.userGrants.countP (fun r => decide (some r.grant =
      (Principal.group group).grant? role project)) = 0 :=
    List.countP_eq_zero.2 fun r _ => by simp [r.grant_ne_of_group]
  simp only [countGrant, grants, List.countP_append, List.countP_map, GroupGrant.picked_eq,
    Function.comp_def, husers, Nat.zero_add]

/-- The store without the grants on a project. -/
def dropGrantsOn (s : Store) (project : Option String) : Store :=
  (s.dropUserGrants (·.project == project)).dropGroupGrants (·.project == project)

theorem grants_dropGrantsOn (s : Store) (project : Option String) :
    (s.dropGrantsOn project).grants = s.grants.filter fun g => !(g.project == project) := by
  simp only [grants, dropGrantsOn, dropUserGrants, dropGroupGrants, List.filter_append,
    List.filter_map]
  rfl

/-- A row of a group is one of the group or of another holder; a row of a user is of another one. -/
theorem mem_grants_dropGroupGrants {s : Store} {group : Option String} {g : Grant} :
    g ∈ (s.dropGroupGrants (·.group == group)).grants ↔
      g ∈ s.grants ∧ g.holder ≠ .ofGroup group := by
  rw [mem_grants, mem_grants]
  constructor
  · rintro (⟨r, hr, rfl⟩ | ⟨r, hr, rfl⟩)
    · refine ⟨.inl ⟨r, hr, rfl⟩, fun hholder => ?_⟩
      have hholder : Holder.user r.user = .ofGroup group := hholder
      cases group <;> cases hholder
    · have hkept : (!(r.group == group)) = true := (List.mem_filter.1 hr).2
      refine ⟨.inr ⟨r, (List.mem_filter.1 hr).1, rfl⟩, fun hholder => ?_⟩
      rw [Holder.ofGroup_inj.1 hholder, beq_self_eq_true] at hkept
      cases hkept
  · rintro ⟨⟨r, hr, rfl⟩ | ⟨r, hr, rfl⟩, hother⟩
    · exact .inl ⟨r, hr, rfl⟩
    · have hgroup : r.group ≠ group := fun h => hother (congrArg Holder.ofGroup h)
      have hkept : (!(r.group == group)) = true := by rw [beq_eq_false_iff_ne.2 hgroup]; rfl
      exact .inr ⟨r, List.mem_filter.2 ⟨hr, hkept⟩, rfl⟩

end Store

/-- A session after its store loses a triple. -/
def Session.removeGrant (s : Session) (g : Option Grant) : Session :=
  { s with working := s.working.removeGrant g }

/-! ### Revoking in closed form -/

/-- **Revoking from a user, in closed form.** -/
theorem revokeFromUser_run (user role : Option String) (scope : Scope) (s : Session) :
    revokeFromUser user role scope s =
      .ok (s.working.countGrant ((Principal.user user).grant? role scope.projectId))
        ((s.removeGrant ((Principal.user user).grant? role scope.projectId)).mark scope) := by
  unfold revokeFromUser takeUserGrants
  simp only [bind_run, reading_run, changing_run, pure_run, refreshGrants_run,
    Store.countP_userGrants_eq_countGrant, Store.dropUserGrants_eq_removeGrant]
  rfl

/-- **Revoking from a group or from Anyone, in closed form.** Anyone is the group without an id. -/
theorem revokeFromGroup_run (group role : Option String) (scope : Scope) (s : Session) :
    revokeFromGroup group role scope s =
      .ok (s.working.countGrant ((Principal.group group).grant? role scope.projectId))
        ((s.removeGrant ((Principal.group group).grant? role scope.projectId)).mark scope) := by
  unfold revokeFromGroup takeGroupGrants
  simp only [bind_run, reading_run, changing_run, pure_run, refreshGrants_run,
    Store.countP_groupGrants_eq_countGrant, Store.dropGroupGrants_eq_removeGrant]
  rfl

/-- **Revoking all that a group holds, in closed form.** No project is marked and the clock is not
read. -/
theorem revokeAllOfGroup_run (group : Option String) (s : Session) :
    revokeAllOfGroup group s = .ok (s.working.groupGrants.countP (·.group == group))
      { s with working := s.working.dropGroupGrants (·.group == group) } := by
  unfold revokeAllOfGroup takeGroupGrants
  simp only [bind_run, reading_run, changing_run, pure_run]

/-- **Revoking all that is held on a project, in closed form.** -/
theorem revokeAllOnProject_run (project : Option String) (s : Session) :
    revokeAllOnProject project s = .ok (s.working.countGrantsOn project)
      ({ s with working := s.working.dropGrantsOn project }.mark (.project project)) := by
  unfold revokeAllOnProject takeUserGrants takeGroupGrants
  simp only [bind_run, reading_run, changing_run, pure_run, refreshGrants_run]
  rfl

end RoleGrants
