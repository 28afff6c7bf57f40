import RoleGrants.Proofs.GrantSet
import RoleGrants.Proofs.ReservedName

/-!
# Namesakes of a group

The name of a group is unique in its organization only. Finding a group and granting to it by name
go by the organization and the name; reading roles goes by the name alone, and so it does not tell a
group from its namesakes in other organizations. `name_shows_namesakes` says what is read: what the
group holds, and besides what a namesake holds (`Store.HeldByNamesake`). So a role that is revoked
from the group is shown under its name as long as a namesake holds it, and the name shows the
group's roles exactly where namesakes hold no others.

That a group is its own only namesake within its organization is the uniqueness of names there. A
revocation goes by the id of the group, which no namesake has, so it leaves what namesakes hold.
-/

open RoleGrants.Action

namespace RoleGrants

namespace Store

variable {s t : Store} {g : Group} {project : Option String} {role : String}

/-- A namesake of a group, in another organization, holds a role on a project. -/
def HeldByNamesake (s : Store) (g : Group) (project : Option String) (role : String) : Prop :=
  ∃ h ∈ s.groups, h.name = g.name ∧ h.organization ≠ g.organization ∧
    ⟨.group h.id, project, role⟩ ∈ s.grants

/-- **What the name of a group shows** is what the group holds and what its namesakes hold. -/
theorem mem_rolesOfGroupNamed_name (hgroups : Apart Group.keys s.groups) (hg : g ∈ s.groups)
    (hname : ¬ SpellsAnyone g.name) {scope : Scope} :
    role ∈ s.rolesOfGroupNamed (some g.name) scope ↔
      ⟨.group g.id, scope.projectId, role⟩ ∈ s.grants ∨
        s.HeldByNamesake g scope.projectId role := by
  have hreserved : isAnyone (some g.name) = false := Bool.eq_false_iff.2 (mt isAnyone_iff.1 hname)
  rw [mem_rolesOfGroupNamed]
  constructor
  · rintro ⟨⟨holder, project, role⟩, ⟨hheld, hgoes⟩, rfl, rfl⟩
    obtain ⟨id, rfl⟩ := hgoes.eq_group hreserved
    obtain ⟨-, h, hh, rfl, hsame⟩ := hgoes
    have hsame : h.name = g.name := Option.some.inj hsame
    by_cases horganization : h.organization = g.organization
    · -- in the organization of the group its name is its own
      obtain rfl : h = g := hgroups.eq_of_clash hh hg (Group.clash_of_name horganization hsame)
      exact .inl hheld
    · exact .inr ⟨h, hh, hsame, horganization, hheld⟩
  · rintro (hheld | ⟨h, hh, hsame, -, hheld⟩)
    · exact ⟨_, ⟨hheld, hreserved, g, hg, rfl, rfl⟩, rfl, rfl⟩
    · exact ⟨_, ⟨hheld, hreserved, h, hh, rfl, congrArg some hsame⟩, rfl, rfl⟩

/-- What namesakes hold is left when a triple of the group is taken away. -/
theorem heldByNamesake_congr (hgroups : Apart Group.keys s.groups) (hg : g ∈ s.groups)
    (hsame : t.groups = s.groups)
    (hgrants : ∀ g', g' ∈ t.grants ↔ g' ∈ s.grants ∧ g' ≠ ⟨.group g.id, project, role⟩) :
    t.HeldByNamesake g project role ↔ s.HeldByNamesake g project role := by
  unfold HeldByNamesake
  rw [hsame]
  refine exists_congr fun h => and_congr_right fun hh => and_congr_right fun _ =>
    and_congr_right fun horganization => ?_
  rw [hgrants]
  refine and_iff_left fun htriple => horganization ?_
  -- a group of the same id is the group itself
  have hid : h.id = g.id := by
    injection htriple with hholder
    injection hholder
  rw [hgroups.eq_of_clash hh hg (Group.clash_of_id hid)]

end Store

namespace Session

/-- Revoking a role from a group takes one triple away and touches no row of a group. -/
theorem serve_revokeFromGroup (s : Session) (group role : String) (scope : Scope) :
    ∃ n t, s.serve (.grants (.revokeFromGroup (.group (some group)) (some role) scope)) =
        (.ok (.count n), t) ∧
      t.working.groups = s.working.groups ∧
      ∀ g, g ∈ t.working.grants ↔
        g ∈ s.working.grants ∧ g ≠ ⟨.group group, scope.projectId, role⟩ := by
  refine ⟨s.working.countGrant (some ⟨.group group, scope.projectId, role⟩),
    (s.removeGrant (some ⟨.group group, scope.projectId, role⟩)).mark scope, ?_, ?_, ?_⟩
  · rw [serve_grants, GrantCall.Removes.group.run s]
    rfl
  · rw [working_mark]
    rfl
  · intro g
    rw [working_mark]
    refine Store.mem_grants_removeGrant.trans ?_
    rw [ne_eq, ne_eq, Option.some.injEq]

end Session

/-- **The name of a group shows its namesakes' roles too.** The roles that are read by the name of a
stored group on a scope are those that the group holds there and those that a namesake in another
organization holds. When a role is revoked from the group, it is shown under the name afterwards
exactly if a namesake holds it. So a role that no namesake holds is shown exactly if the group holds
it, and not after it has been revoked. -/
theorem name_shows_namesakes {s : Session} (hs : s.Reachable) {g : Group}
    (hg : g ∈ s.working.groups) (scope : Scope) (role : String) :
    (role ∈ s.working.rolesOfGroupNamed (some g.name) scope ↔
      ⟨.group g.id, scope.projectId, role⟩ ∈ s.working.grants ∨
        s.working.HeldByNamesake g scope.projectId role) ∧
    ∃ n t, s.serve (.grants (.revokeFromGroup (.group (some g.id)) (some role) scope)) =
        (.ok (.count n), t) ∧
      (role ∈ t.working.rolesOfGroupNamed (some g.name) scope ↔
        s.working.HeldByNamesake g scope.projectId role) ∧
      (¬ s.working.HeldByNamesake g scope.projectId role →
        (role ∈ s.working.rolesOfGroupNamed (some g.name) scope ↔
          ⟨.group g.id, scope.projectId, role⟩ ∈ s.working.grants) ∧
        role ∉ t.working.rolesOfGroupNamed (some g.name) scope) := by
  have hgroups := hs.sound.1.groups
  have hname := (hs.namesApart.1 g hg).2
  have hbefore : role ∈ s.working.rolesOfGroupNamed (some g.name) scope ↔
      ⟨.group g.id, scope.projectId, role⟩ ∈ s.working.grants ∨
        s.working.HeldByNamesake g scope.projectId role :=
    Store.mem_rolesOfGroupNamed_name hgroups hg hname
  obtain ⟨n, t, hserve, hsame, hgrants⟩ := s.serve_revokeFromGroup g.id role scope
  -- the groups are the same afterwards, so the name shows what it showed of what is left
  have hafter : role ∈ t.working.rolesOfGroupNamed (some g.name) scope ↔
      s.working.HeldByNamesake g scope.projectId role := by
    rw [Store.mem_rolesOfGroupNamed_name (hsame ▸ hgroups) (hsame ▸ hg) hname, hgrants,
      Store.heldByNamesake_congr hgroups hg hsame hgrants]
    exact or_iff_right fun h => h.2 rfl
  refine ⟨hbefore, n, t, hserve, hafter, fun hnone => ⟨?_, mt hafter.1 hnone⟩⟩
  exact hbefore.trans (or_iff_left hnone)

/-- Calls that give the group of the sample a namesake in another organization, and a role to each
of the two. -/
def groupNamesakeCalls : List Call := sampleCalls ++ [
  .change (.addOrganization "o2" (some "second") (some "Second")),
  .change (.addGroup "h" (some "o2") (some "devs")),
  .grants (.grantToGroup (.group (some "g")) (some "admin") .global true),
  .grants (.grantToGroup (.group (some "h")) (some "scan") .global true)]

/-- A role that the group alone holds is shown under its name until it is revoked. -/
theorem own_role_shown_until_revoked :
    ∃ s t : Session, s = Session.serveAll {} groupNamesakeCalls ∧
      "admin" ∈ s.working.rolesOfGroupNamed (some "devs") .global ∧
      (∃ n, s.serve (.grants (.revokeFromGroup (.group (some "g")) (some "admin") .global)) =
        (.ok (.count n), t)) ∧
      "admin" ∉ t.working.rolesOfGroupNamed (some "devs") .global := by
  have hs : (Session.serveAll {} groupNamesakeCalls).Reachable := ⟨_, fun _ _ => trivial, rfl⟩
  have hgroup : ⟨"g", "o", "devs"⟩ ∈ (Session.serveAll {} groupNamesakeCalls).working.groups := by
    decide +kernel
  have hheld : ⟨.group "g", none, "admin"⟩ ∈
      (Session.serveAll {} groupNamesakeCalls).working.grants := by
    decide +kernel
  have hnone : ¬ (Session.serveAll {} groupNamesakeCalls).working.HeldByNamesake
      ⟨"g", "o", "devs"⟩ none "admin" := by
    unfold Store.HeldByNamesake
    decide +kernel
  obtain ⟨-, n, t, hserve, -, halone⟩ := name_shows_namesakes hs hgroup .global "admin"
  obtain ⟨hshown, hgone⟩ := halone hnone
  exact ⟨_, t, rfl, hshown.2 hheld, ⟨n, hserve⟩, hgone⟩

/-- The role of a namesake is shown under the name of a group that does not hold it, and still is
when it has been revoked from this group. -/
theorem role_of_namesake_shown :
    ∃ s : Session, s.Reachable ∧ ∃ g ∈ s.working.groups,
      ⟨.group g.id, none, "scan"⟩ ∉ s.working.grants ∧
      "scan" ∈ s.working.rolesOfGroupNamed (some g.name) .global ∧
      "scan" ∈ (s.serve (.grants (.revokeFromGroup (.group (some g.id)) (some "scan") .global))
        ).2.working.rolesOfGroupNamed (some g.name) .global := by
  refine ⟨Session.serveAll {} groupNamesakeCalls, ⟨_, fun _ _ => trivial, rfl⟩,
    ⟨"g", "o", "devs"⟩, by decide +kernel, by decide +kernel, ?_, ?_⟩
  · rw [Store.rolesOfGroupNamed, mem_sortTexts_distinct]
    decide +kernel
  · rw [Store.rolesOfGroupNamed, mem_sortTexts_distinct]
    decide +kernel

end RoleGrants
