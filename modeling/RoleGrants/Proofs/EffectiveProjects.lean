import RoleGrants.Proofs.NamedRoles
import RoleGrants.Proofs.ProjectMark
import RoleGrants.Proofs.AdviceAgreement

/-!
# The projects of a user

On which projects a user has a role is read off two tables at once, off the memberships, and with
Anyone among the groups of everybody. `effective_projects` says what comes of it: the projects to
which one of three ways leads (`Store.LeadsTo`), in strict order, so that a project to which several
lead is listed once.

A way begins with a user, with one of the user's groups or with Anyone. Whom the store does not know
has neither a grant nor a group, by the integrity of the store, and is left with what Anyone has
(`Store.Sound.leadsTo_of_unknown`). And a way ends with a grant on a project, so what is held
globally never counts: stores that agree on the memberships and project by project answer alike.
-/

namespace RoleGrants

/-- **The ways to a role on a project**, for somebody with the given groups: a grant to the user, to
one of the groups, or to Anyone. -/
inductive Store.LeadsTo (s : Store) (own : List String) (user : Option String)
    (project role : String) : Prop where
  | direct {u : String} (huser : user = some u) (hg : ⟨.user u, some project, role⟩ ∈ s.grants) :
      LeadsTo s own user project role
  | member {group : String} (hown : group ∈ own)
      (hg : ⟨.group group, some project, role⟩ ∈ s.grants) : LeadsTo s own user project role
  | anyone (hg : ⟨.anyone, some project, role⟩ ∈ s.grants) : LeadsTo s own user project role

namespace Store

variable {s t : Store} {user role : Option String} {own : List String}

/-- The three ways are those of the holders who stand for the user. -/
theorem mem_projectsWithRole_iff_leadsTo (hown : ∀ group, group ∈ own ↔ group ∈ s.groupsOf user)
    {project : String} :
    project ∈ s.projectsWithRole role user ↔
      ∃ r, role = some r ∧ s.LeadsTo own user project r := by
  rw [mem_projectsWithRole]
  constructor
  · rintro ⟨⟨holder, _, r⟩, hg, rfl, rfl, hstands⟩
    refine ⟨r, rfl, ?_⟩
    cases holder with
    | user u => exact .direct hstands hg
    | group group => exact .member ((hown group).2 hstands) hg
    | anyone => exact .anyone hg
  · rintro ⟨r, rfl, hway⟩
    cases hway with
    | direct huser hg => exact ⟨_, hg, rfl, rfl, huser⟩
    | member hmember hg => exact ⟨_, hg, rfl, rfl, (hown _).1 hmember⟩
    | anyone hg => exact ⟨_, hg, rfl, rfl, trivial⟩

/-- Somebody whom the store does not know has neither a grant nor a group. -/
theorem Sound.leadsTo_of_unknown (h : s.Sound)
    (hunknown : ∀ u, user = some u → s.hasUser u = false)
    (hown : ∀ group, group ∈ own ↔ group ∈ s.groupsOf user) {project role : String} :
    s.LeadsTo own user project role ↔ ⟨.anyone, some project, role⟩ ∈ s.grants := by
  refine ⟨fun hway => ?_, .anyone⟩
  cases hway with
  | direct huser hg =>
    -- a grant to a user refers to a stored one
    have hknows := h.knows_of_mem_grants hg
    rw [knows_user, hunknown _ huser] at hknows
    cases hknows
  | member hmember hg =>
    obtain ⟨u, huser, hm⟩ := mem_groupsOf.1 ((hown _).1 hmember)
    have hknown : s.hasUser u = true := h.hasUser_of_membership hm
    rw [hunknown u huser] at hknown
    cases hknown
  | anyone hg => exact hg

/-- **What is held globally never counts.** Stores that agree on the memberships and on what is held
on each project answer alike. -/
theorem projectsWithRole_congr (hmemberships : t.memberships = s.memberships)
    (hsame : ∀ project, SameOn project s t) (role user : Option String) :
    t.projectsWithRole role user = s.projectsWithRole role user := by
  refine sortTexts_distinct_ext fun p => ?_
  change p ∈ t.projectsWithRole role user ↔ p ∈ s.projectsWithRole role user
  rw [mem_projectsWithRole, mem_projectsWithRole]
  refine exists_congr fun g => ?_
  -- for whom a holder stands is a matter of the memberships alone
  have hstands : g.holder.StandsFor t user ↔ g.holder.StandsFor s user := by
    cases g.holder <;> simp only [Holder.StandsFor, groupsOf, hmemberships]
  rw [hstands]
  exact and_congr_left fun h => (hsame p g h.1).symm

end Store

theorem Session.serve_projectsWithRole (s : Session) (role user : Option String) :
    s.serve (.ask (.projectsWithRole role user)) =
      (.ok (.texts (s.working.projectsWithRole role user)), s) := rfl

/-- **The projects of a user.** In a reachable session, the projects on which somebody has a role
are listed in strict order, and they are those to which one of the three ways leads, for the groups
that the session gives for the same user. All of them are stored. Whom the session does not know,
and who comes without an id, has the projects of Anyone; and the list is the same after anything
that changes neither a membership nor what is held on a project. -/
theorem effective_projects {s : Session} (hs : s.Reachable) (role user : Option String) :
    ∃ projects own, s.serve (.ask (.projectsWithRole role user)) = (.ok (.texts projects), s) ∧
      s.serve (.ask (.groupsOf user)) = (.ok (.texts own), s) ∧
      projects.Pairwise (· < ·) ∧
      (∀ p, p ∈ projects ↔ ∃ r, role = some r ∧ s.working.LeadsTo own user p r) ∧
      (∀ p ∈ projects, s.working.hasProject p = true) ∧
      ((∀ u, user = some u → s.working.hasUser u = false) →
        ∀ p, p ∈ projects ↔ ∃ r, role = some r ∧ ⟨.anyone, some p, r⟩ ∈ s.working.grants) ∧
      ∀ t : Session, t.working.memberships = s.working.memberships →
        (∀ p, Store.SameOn p s.working t.working) →
        t.serve (.ask (.projectsWithRole role user)) = (.ok (.texts projects), t) := by
  have hown : ∀ group, group ∈ sortTexts (s.working.groupsOf user) ↔
      group ∈ s.working.groupsOf user := fun _ => List.mem_mergeSort
  have hmem : ∀ p, p ∈ s.working.projectsWithRole role user ↔ _ :=
    fun _ => Store.mem_projectsWithRole_iff_leadsTo hown
  refine ⟨_, _, s.serve_projectsWithRole role user, rfl, pairwise_lt_sortTexts_distinct _, hmem,
    ?_, ?_, ?_⟩
  · -- a grant refers to a stored project
    intro p hp
    obtain ⟨g, hg, hproject, -, -⟩ := Store.mem_projectsWithRole.1 hp
    have hknows := (Bool.and_eq_true_iff.1 (hs.sound.1.knows_of_mem_grants hg)).2
    rwa [hproject, Option.all_some] at hknows
  · intro hunknown p
    rw [hmem]
    exact exists_congr fun r => and_congr_right fun _ =>
      hs.sound.1.leadsTo_of_unknown hunknown hown
  · intro t hmemberships hsame
    rw [Session.serve_projectsWithRole, Store.projectsWithRole_congr hmemberships hsame]

/-- All three ways lead a user to one project, which is listed once. To the other one only the group
leads, so it is not listed for a stranger. The role is held globally as well. -/
theorem sample_projects :
    ∃ s : Session, s.Reachable ∧
      (∃ projects, s.serve (.ask (.projectsWithRole (some "admin") (some "u"))) =
          (.ok (.texts projects), s) ∧
        projects.Nodup ∧ "p" ∈ projects ∧ "q" ∈ projects) ∧
      ∃ projects, s.serve (.ask (.projectsWithRole (some "admin") (some "stranger"))) =
          (.ok (.texts projects), s) ∧
        "p" ∈ projects ∧ "q" ∉ projects := by
  let s : Session := .serveAll {} (sampleCalls ++ [
    .grants (.grant (.group (some "g")) (some "admin") (.project (some "p"))),
    .grants (.grant (.group (some "g")) (some "admin") (.project (some "q"))),
    .grants (.grant .anyone (some "admin") (.project (some "p"))),
    .grants (.grant (.user (some "u")) (some "admin") .global)])
  have hs : s.Reachable := ⟨_, fun _ _ => trivial, rfl⟩
  have hanyone : ⟨.anyone, some "p", "admin"⟩ ∈ s.working.grants := by decide +kernel
  have hgroup : ⟨.group "g", some "q", "admin"⟩ ∈ s.working.grants := by decide +kernel
  have hnobody : ⟨.anyone, some "q", "admin"⟩ ∉ s.working.grants := by decide +kernel
  have hmember : ⟨"u", "g"⟩ ∈ s.working.memberships := by decide +kernel
  have hstranger : ∀ u, some "stranger" = some u → s.working.hasUser u = false := by
    rintro u ⟨⟩
    decide +kernel
  refine ⟨s, hs, ?_, ?_⟩
  · obtain ⟨projects, own, hserve, hown, hsorted, hmem, -⟩ :=
      effective_projects hs (some "admin") (some "u")
    obtain rfl : sortTexts (s.working.groupsOf (some "u")) = own := by cases hown; rfl
    have hg : "g" ∈ sortTexts (s.working.groupsOf (some "u")) :=
      List.mem_mergeSort.2 (Store.mem_groupsOf.2 ⟨"u", rfl, hmember⟩)
    exact ⟨projects, hserve, hsorted.imp String.ne_of_lt, (hmem _).2 ⟨_, rfl, .anyone hanyone⟩,
      (hmem _).2 ⟨_, rfl, .member hg hgroup⟩⟩
  · obtain ⟨projects, -, hserve, -, -, -, -, hunknown, -⟩ :=
      effective_projects hs (some "admin") (some "stranger")
    refine ⟨projects, hserve, (hunknown hstranger "p").2 ⟨"admin", rfl, hanyone⟩, fun hq => ?_⟩
    obtain ⟨r, ⟨⟩, hg⟩ := (hunknown hstranger "q").1 hq
    exact hnobody hg

end RoleGrants
