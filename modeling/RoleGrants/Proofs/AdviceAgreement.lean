import RoleGrants.Proofs.StoredSnapshot
import RoleGrants.Simulation

/-!
# Advice and application agree

The advice on a project that does not exist yet is worked out from the entries of the default
template and the groups of the user. Applying that template writes rows, and which projects a user
has a role on is read back off the rows. `Snapshot.Gives` is the rule that both follow, said once
and of neither: a template gives a role to a user by an entry for Anyone, for a group of the user
or for the user, or because the user is the creator.

The advice is `Gives` with the user taken for the creator (`advise_eq`), and what is read back
from a project that held no grant before is `Gives` with the creator the project was provisioned
by (`mem_projectsWithRole_of_applyDefault`). A creator makes the two the same, and whatever is given
with another creator is given to a user taken for the creator as well
(`Snapshot.Gives.toCreator`).
-/

open RoleGrants.Action

namespace RoleGrants

/-! ### The rule -/

/-- **What a template gives to a user**, with the memberships of a store and a creator. Without a
user there is only what Anyone gets. -/
inductive Snapshot.Gives (t : Snapshot) (s : Store) (creator : Option String) :
    Option String → Option String → Prop where
  | anyone {e : Entry} {user : Option String} (he : e ∈ t.groups)
      (hprincipal : e.principal = .anyone) : Gives t s creator user e.role
  | group {e : Entry} {group user : String} (he : e ∈ t.groups)
      (hprincipal : e.principal = .group (some group))
      (hmember : ⟨user, group⟩ ∈ s.memberships) : Gives t s creator (some user) e.role
  | user {e : Entry} {user : String} (he : e ∈ t.users)
      (hprincipal : e.principal = .user (some user)) : Gives t s creator (some user) e.role
  | creator {user role : String} (hcreator : creator = some user)
      (hrole : (role, true) ∈ t.characteristics) : Gives t s creator (some user) (some role)

/-- Who is taken for the creator is given what is given with another one. -/
theorem Snapshot.Gives.toCreator {t : Snapshot} {s : Store} {creator user role : Option String}
    (h : t.Gives s creator user role) : t.Gives s user user role := by
  cases h with
  | anyone he hprincipal => exact .anyone he hprincipal
  | group he hprincipal hmember => exact .group he hprincipal hmember
  | user he hprincipal => exact .user he hprincipal
  | creator _ hrole => exact .creator rfl hrole

theorem Store.mem_groupsOf {s : Store} {user : Option String} {group : String} :
    group ∈ s.groupsOf user ↔ ∃ u, user = some u ∧ ⟨u, group⟩ ∈ s.memberships := by
  rw [groupsOf, mem_distinct, List.mem_map]
  constructor
  · rintro ⟨m, hm, rfl⟩
    obtain ⟨hm, huser⟩ := List.mem_filter.1 hm
    exact ⟨m.user, (beq_iff_eq.1 huser).symm, hm⟩
  · rintro ⟨u, rfl, hm⟩
    exact ⟨⟨u, group⟩, List.mem_filter.2 ⟨hm, beq_self_eq_true _⟩, rfl⟩

/-! ### The advice -/

namespace Snapshot

variable {t : Snapshot} {user role : Option String}

theorem hasAnyoneEntry_iff :
    t.hasAnyoneEntry role = true ↔ ∃ e ∈ t.groups, e.principal = .anyone ∧ e.role = role := by
  simp [hasAnyoneEntry]

theorem hasUserEntry_iff :
    t.hasUserEntry user role = true ↔
      ∃ e ∈ t.users, e.principal = .user user ∧ e.role = role := by
  simp [hasUserEntry]

theorem hasCreatorRole_iff :
    t.hasCreatorRole role = true ↔ ∃ r, role = some r ∧ (r, true) ∈ t.characteristics := by
  rw [hasCreatorRole, List.any_eq_true]
  constructor
  · rintro ⟨r, hr, heq⟩
    exact ⟨r, (beq_iff_eq.1 heq).symm, mem_creatorRoles.1 hr⟩
  · rintro ⟨r, rfl, hr⟩
    exact ⟨r, mem_creatorRoles.2 hr, beq_self_eq_true _⟩

theorem mem_groupIdsFor {id : Option String} :
    id ∈ t.groupIdsFor role ↔ ∃ e ∈ t.groups, e.role = role ∧ e.principal = .group id := by
  rw [groupIdsFor, mem_distinct, List.mem_filterMap]
  constructor
  · rintro ⟨e, he, hid⟩
    obtain ⟨he, hrole⟩ := List.mem_filter.1 he
    refine ⟨e, he, beq_iff_eq.1 hrole, ?_⟩
    unfold groupIdOf at hid
    split at hid
    · next hprincipal =>
      cases hid
      exact hprincipal
    · cases hid
  · rintro ⟨e, he, hrole, hprincipal⟩
    exact ⟨e, List.mem_filter.2 ⟨he, beq_iff_eq.2 hrole⟩, by rw [groupIdOf, hprincipal]⟩

/-- The groups that are looked up decide where the entries of groups do. -/
theorem any_groupIdsFor_iff {own : List String} :
    ((t.groupIdsFor role).any fun g => g.any own.contains) = true ↔
      ∃ e ∈ t.groups, e.role = role ∧ ∃ g ∈ own, e.principal = .group (some g) := by
  rw [List.any_eq_true]
  constructor
  · rintro ⟨id, hid, hown⟩
    obtain ⟨e, he, hrole, hprincipal⟩ := mem_groupIdsFor.1 hid
    cases id with
    | none => cases hown
    | some g => exact ⟨e, he, hrole, g, by simpa using hown, hprincipal⟩
  · rintro ⟨e, he, hrole, g, hg, hprincipal⟩
    exact ⟨some g, mem_groupIdsFor.2 ⟨e, he, hrole, hprincipal⟩, by simpa using hg⟩

/-- Without a user only entries of Anyone give a role. -/
theorem gives_none_iff {s : Store} {creator : Option String} :
    t.Gives s creator none role ↔ t.hasAnyoneEntry role = true := by
  rw [hasAnyoneEntry_iff]
  constructor
  · intro h
    cases h with
    | anyone he hprincipal => exact ⟨_, he, hprincipal, rfl⟩
  · rintro ⟨e, he, hprincipal, rfl⟩
    exact .anyone he hprincipal

/-- What the advice looks at, taken together, is the rule with the user for the creator. -/
theorem gives_some_iff {s : Store} {u : String} :
    t.Gives s (some u) (some u) role ↔
      t.hasAnyoneEntry role = true ∨ t.hasUserEntry (some u) role = true ∨
        t.hasCreatorRole role = true ∨
          ((t.groupIdsFor role).any fun g => g.any (s.groupsOf (some u)).contains) = true := by
  rw [hasAnyoneEntry_iff, hasUserEntry_iff, hasCreatorRole_iff, any_groupIdsFor_iff]
  constructor
  · intro h
    cases h with
    | anyone he hprincipal => exact .inl ⟨_, he, hprincipal, rfl⟩
    | group he hprincipal hmember =>
      exact .inr (.inr (.inr ⟨_, he, rfl, _, Store.mem_groupsOf.2 ⟨u, rfl, hmember⟩, hprincipal⟩))
    | user he hprincipal => exact .inr (.inl ⟨_, he, hprincipal, rfl⟩)
    | creator _ hrole => exact .inr (.inr (.inl ⟨_, rfl, hrole⟩))
  · rintro (⟨e, he, hprincipal, rfl⟩ | ⟨e, he, hprincipal, rfl⟩ | ⟨r, rfl, hr⟩ |
      ⟨e, he, rfl, g, hg, hprincipal⟩)
    · exact .anyone he hprincipal
    · exact .user he hprincipal
    · exact .creator rfl hr
    · obtain ⟨u', hu', hmember⟩ := Store.mem_groupsOf.1 hg
      cases hu'
      exact .group he hprincipal hmember

/-- **The advice is the rule**, with the user taken for the creator. -/
theorem advise_eq (t : Snapshot) (s : Store) (user role : Option String) :
    ∃ b lookups, t.advise (ε := StoreError) (fun u => .ok (s.groupsOf (some u))) user role =
      ⟨.ok b, lookups⟩ ∧ (b = true ↔ t.Gives s user user role) := by
  cases user with
  | none =>
    rw [gives_none_iff, advise_none]
    exact ⟨_, [], rfl, Iff.rfl⟩
  | some u =>
    rw [gives_some_iff, advise_some]
    -- each test settles the advice when it holds, and leaves it to the next one when not
    by_cases houtright : (t.hasAnyoneEntry role ||
        (t.hasUserEntry (some u) role || t.hasCreatorRole role)) = true
    · refine ⟨true, [], if_pos houtright, iff_of_true rfl ?_⟩
      rw [Bool.or_eq_true, Bool.or_eq_true] at houtright
      rcases houtright with h | h | h
      · exact .inl h
      · exact .inr (.inl h)
      · exact .inr (.inr (.inl h))
    · rw [if_neg houtright]
      rw [Bool.or_eq_true, Bool.or_eq_true, not_or, not_or] at houtright
      obtain ⟨hanyone, huser, hcreator⟩ := houtright
      rw [or_iff_right hanyone, or_iff_right huser, or_iff_right hcreator]
      -- the matter is left to the groups, if there are any
      by_cases hgroups : t.groupIdsFor role = []
      · exact ⟨false, [], if_pos hgroups, by simp [hgroups]⟩
      · exact ⟨_, [u], if_neg hgroups, Iff.rfl⟩

end Snapshot

/-! ### Reading back -/

/-- Whether a holder stands for a user: it is the user, a group of the user, or Anyone. -/
def Holder.StandsFor (s : Store) (user : Option String) : Holder → Prop
  | .user id => user = some id
  | .group id => id ∈ s.groupsOf user
  | .anyone => True

theorem Holder.standsFor_ofGroup {s : Store} {user group : Option String} :
    (Holder.ofGroup group).StandsFor s user ↔
      group.all (s.groupsOf user).contains = true := by
  cases group with
  | none => simp [ofGroup, StandsFor]
  | some id => simp [ofGroup, StandsFor]

/-- What is selected for a user from the memberships has the groups of the user. -/
theorem Store.contains_selected (s : Store) (user : Option String) :
    ((s.memberships.filter (some ·.user == user)).map (·.group)).contains =
      (s.groupsOf user).contains := by
  funext group
  rw [Bool.eq_iff_iff, List.contains_iff_mem, List.contains_iff_mem, groupsOf, mem_distinct]

/-- **The projects of a user**, with the groups that are read for the user elsewhere. -/
theorem Store.projectsWithRole_eq (s : Store) (role user : Option String) :
    s.projectsWithRole role user = sortTexts (distinct
      ((s.userGrants.filter fun g =>
          some g.user == user && some g.role == role).filterMap (·.project) ++
        (s.groupGrants.filter fun g => some g.role == role &&
          g.group.all (s.groupsOf user).contains).filterMap (·.project))) := by
  rw [← s.contains_selected user]
  rfl

/-- A user has a role on a project when somebody who stands for the user holds it there. -/
theorem Store.mem_projectsWithRole {s : Store} {role user : Option String} {p : String} :
    p ∈ s.projectsWithRole role user ↔
      ∃ g ∈ s.grants, g.project = some p ∧ some g.role = role ∧ g.holder.StandsFor s user := by
  rw [projectsWithRole_eq, sortTexts, List.mem_mergeSort, mem_distinct, List.mem_append,
    List.mem_filterMap, List.mem_filterMap]
  constructor
  -- rows of users count by their user, rows of groups by the groups of the user or as Anyone's
  · rintro (⟨r, hr, hp⟩ | ⟨r, hr, hp⟩)
    · obtain ⟨hr, hmatch⟩ := List.mem_filter.1 hr
      simp only [Bool.and_eq_true, beq_iff_eq] at hmatch
      exact ⟨r.grant, mem_grants.2 (.inl ⟨r, hr, rfl⟩), hp, hmatch.2, hmatch.1.symm⟩
    · obtain ⟨hr, hmatch⟩ := List.mem_filter.1 hr
      simp only [Bool.and_eq_true, beq_iff_eq] at hmatch
      exact ⟨r.grant, mem_grants.2 (.inr ⟨r, hr, rfl⟩), hp, hmatch.1,
        Holder.standsFor_ofGroup.2 hmatch.2⟩
  · rintro ⟨g, hg, hp, hrole, hholder⟩
    rcases mem_grants.1 hg with ⟨r, hr, rfl⟩ | ⟨r, hr, rfl⟩
    · have huser : some r.user = user := hholder.symm
      have hrole : some r.role = role := hrole
      exact .inl ⟨r, List.mem_filter.2 ⟨hr, by simp [huser, hrole]⟩, hp⟩
    · have hgroup := Holder.standsFor_ofGroup.1 hholder
      have hrole : some r.role = role := hrole
      exact .inr ⟨r, List.mem_filter.2 ⟨hr, by rw [hgroup, hrole]; simp⟩, hp⟩

theorem Store.project_ne_of_countGrantsOn {s : Store} {p : String}
    (h : s.countGrantsOn (some p) = 0) : ∀ g ∈ s.grants, g.project ≠ some p := by
  obtain ⟨husers, hgroups⟩ := Nat.add_eq_zero_iff.1 h
  intro g hg hproject
  rcases mem_grants.1 hg with ⟨r, hr, rfl⟩ | ⟨r, hr, rfl⟩
  · exact List.countP_eq_zero.1 husers r hr (beq_iff_eq.2 hproject)
  · exact List.countP_eq_zero.1 hgroups r hr (beq_iff_eq.2 hproject)

/-- **The triples of a stored template are the rule:** a role is given to a user when one of them is
held by somebody who stands for the user. -/
theorem exists_grants_iff_gives {s : Store} {t : Template} {creator user role : Option String}
    (project : String) :
    (∃ g, (s.snapshot t).Grants creator project g ∧ some g.role = role ∧
        g.holder.StandsFor s user) ↔
      (s.snapshot t).Gives s creator user role := by
  constructor
  · rintro ⟨g, hg, rfl, hholder⟩
    cases hg with
    | @entry e holder r he hof hrole =>
      rw [show some r = e.role from hrole.symm]
      -- the kind of the principal tells who holds the role, and so who stands for the user
      rcases he with he | he
      · obtain ⟨row, -, -, -, hprincipal⟩ := Store.mem_groups_snapshot he
        cases hgroup : row.group with
        | none =>
          rw [hgroup] at hprincipal
          exact .anyone he hprincipal
        | some id =>
          rw [hgroup] at hprincipal
          rw [hprincipal] at hof
          cases hof
          obtain ⟨u, rfl, hmember⟩ := Store.mem_groupsOf.1 hholder
          exact .group he hprincipal hmember
      · obtain ⟨row, -, -, -, hprincipal, -⟩ := Store.mem_users_snapshot he
        rw [hprincipal] at hof
        cases hof
        have huser : user = some row.user := hholder
        rw [huser]
        exact .user he hprincipal
    | creator hcreator hrole =>
      have huser : user = some _ := hholder
      rw [huser]
      exact .creator hcreator hrole
  · intro h
    cases h with
    | @anyone e _ he hprincipal =>
      obtain ⟨row, -, -, hrole, -⟩ := Store.mem_groups_snapshot he
      have hof : e.principal.holder? = some .anyone := by rw [hprincipal]; rfl
      exact ⟨_, .entry (.inl he) hof hrole, hrole.symm, trivial⟩
    | @group e group u he hprincipal hmember =>
      obtain ⟨row, -, -, hrole, -⟩ := Store.mem_groups_snapshot he
      have hof : e.principal.holder? = some (.group group) := by rw [hprincipal]; rfl
      exact ⟨_, .entry (.inl he) hof hrole, hrole.symm, Store.mem_groupsOf.2 ⟨u, rfl, hmember⟩⟩
    | @user e u he hprincipal =>
      obtain ⟨row, -, -, hrole, -, -⟩ := Store.mem_users_snapshot he
      have hof : e.principal.holder? = some (.user u) := by rw [hprincipal]; rfl
      exact ⟨_, .entry (.inr he) hof hrole, hrole.symm, rfl⟩
    | creator hcreator hrole => exact ⟨_, .creator hcreator hrole, rfl, rfl⟩

/-- What is read back from a project without grants after a template has been applied to it. -/
theorem mem_projectsWithRole_withPlan {s : Store} {t : Template} {p : String}
    (hnone : s.countGrantsOn (some p) = 0) (creator user role : Option String) (reading : Nat) :
    p ∈ (s.withPlan ((s.snapshot t).plan creator) p reading).projectsWithRole role user ↔
      (s.snapshot t).Gives s creator user role := by
  -- memberships are not touched, so the same holders stand for the user before and after
  have hmembers := (s.agreeOff_withPlan ((s.snapshot t).plan creator) p reading).memberships
  have hgroups : (s.withPlan ((s.snapshot t).plan creator) p reading).groupsOf user =
      s.groupsOf user := by rw [Store.groupsOf, hmembers, Store.groupsOf]
  have hstands : ∀ holder : Holder,
      holder.StandsFor (s.withPlan ((s.snapshot t).plan creator) p reading) user ↔
        holder.StandsFor s user := by
    intro holder
    cases holder <;> simp [Holder.StandsFor, hgroups]
  rw [Store.mem_projectsWithRole, ← exists_grants_iff_gives p]
  constructor
  · rintro ⟨g, hg, hp, hrole, hholder⟩
    rcases Store.mem_grants_withPlan.1 hg with hg | hg
    · -- it was held before, and so not on this project
      exact absurd hp (Store.project_ne_of_countGrantsOn hnone g hg)
    · exact ⟨g, hg, hrole, (hstands _).1 hholder⟩
  · rintro ⟨g, hg, hrole, hholder⟩
    refine ⟨g, Store.mem_grants_withPlan.2 (.inr hg), ?_, hrole, (hstands _).2 hholder⟩
    cases hg <;> rfl

/-! ### The default template -/

/-- The snapshot of the template that a selector names, if it names a stored one. -/
def Store.defaultSnapshot? (s : Store) (selector : String) : Option Snapshot :=
  if selector = "" then none else (s.template? (some selector)).map s.snapshot

theorem resolveDefault_of_ne {selector : String} (h : selector ≠ "") (s : Session) :
    resolveDefault (some selector) s =
      match s.working.template? (some selector) with
      | none => .ok none { s with log := s.log ++ [.defaultTemplateMissing selector] }
      | some t => .ok (some (s.working.snapshot t)) s := by
  rw [resolveDefault, bind_run, reading_run]
  · cases s.working.template? (some selector) <;> rfl
  · exact h

/-- Resolving the default template changes nothing but the events reported. -/
theorem resolveDefault_run (selector : String) (s : Session) :
    ∃ log, resolveDefault (some selector) s =
      .ok (s.working.defaultSnapshot? selector) { s with log } := by
  by_cases hempty : selector = ""
  · subst hempty
    exact ⟨s.log, rfl⟩
  · rw [resolveDefault_of_ne hempty, Store.defaultSnapshot?, if_neg hempty]
    cases s.working.template? (some selector) with
    | none => exact ⟨_, rfl⟩
    | some t => exact ⟨s.log, rfl⟩

/-- The advice asked of a session: that of the default template, and no where there is none. -/
theorem simulate_run (selector : String) (user role key qualifier : Option String) (s : Session) :
    ∃ b lookups log,
      simulate selector none user role key qualifier s = .ok ⟨.ok b, lookups⟩ { s with log } ∧
      (b = true ↔ ∃ t, s.working.defaultSnapshot? selector = some t ∧
        t.Gives s.working user user role) := by
  -- a missing template is reported, and nothing else is done
  obtain ⟨log, hresolve⟩ := resolveDefault_run selector s
  unfold simulate
  rw [bind_run, hresolve]
  cases hdefault : s.working.defaultSnapshot? selector with
  | none => exact ⟨false, [], log, rfl, by simp⟩
  | some t =>
    obtain ⟨b, lookups, hadvise, hb⟩ := t.advise_eq s.working user role
    refine ⟨b, lookups, log, ?_, hb.trans ?_⟩
    · rw [← hadvise]
      rfl
    · simp

/-- Applying the default template is applying its snapshot, and nothing where there is none. -/
theorem applyDefault_eq_ok {faults : Faults} {selector : String} {project creator : Option String}
    {s u : Session} {applied : Option Snapshot}
    (h : applyDefault faults selector project creator s = .ok applied u) :
    applied = s.working.defaultSnapshot? selector ∧
      match s.working.defaultSnapshot? selector with
      | none => u.working = s.working
      | some t => ∃ log, applySnapshot faults t project creator { s with log } = .ok t u := by
  obtain ⟨log, hresolve⟩ := resolveDefault_run selector s
  unfold applyDefault at h
  rw [bind_run, hresolve] at h
  cases hdefault : s.working.defaultSnapshot? selector with
  | none =>
    rw [hdefault] at h
    cases h
    exact ⟨rfl, rfl⟩
  | some t =>
    rw [hdefault] at h
    obtain ⟨t', v, happly, h⟩ := bind_eq_ok.1 h
    cases h
    obtain ⟨rfl, -⟩ := applySnapshot_eq_ok happly
    exact ⟨rfl, log, happly⟩

/-- The default template is that of a stored one. -/
theorem Store.exists_of_defaultSnapshot? {s : Store} {selector : String} {t : Snapshot}
    (h : s.defaultSnapshot? selector = some t) : ∃ stored, t = s.snapshot stored := by
  unfold defaultSnapshot? at h
  split at h
  · cases h
  · obtain ⟨stored, -, rfl⟩ := Option.map_eq_some_iff.1 h
    exact ⟨stored, rfl⟩

/-- What is read back after the default template has been applied to a project without grants. -/
theorem mem_projectsWithRole_of_applyDefault {faults : Faults} {selector p : String}
    {creator : Option String} {s u : Session} {applied : Option Snapshot}
    (hnone : s.working.countGrantsOn (some p) = 0)
    (h : applyDefault faults selector (some p) creator s = .ok applied u)
    (user role : Option String) :
    p ∈ u.working.projectsWithRole role user ↔
      ∃ t, s.working.defaultSnapshot? selector = some t ∧
        t.Gives s.working creator user role := by
  obtain ⟨-, hrows⟩ := applyDefault_eq_ok h
  cases hdefault : s.working.defaultSnapshot? selector with
  | none =>
    -- nothing was applied, and nothing is held on the project
    have hrows : u.working = s.working := by simpa only [hdefault] using hrows
    rw [hrows, Store.mem_projectsWithRole]
    constructor
    · rintro ⟨g, hg, hp, -⟩
      exact absurd hp (Store.project_ne_of_countGrantsOn hnone g hg)
    · rintro ⟨t, ht, -⟩
      cases ht
  | some t =>
    obtain ⟨log, happly⟩ : ∃ log, applySnapshot faults t (some p) creator { s with log } =
        .ok t u := by simpa only [hdefault] using hrows
    obtain ⟨stored, rfl⟩ := Store.exists_of_defaultSnapshot? hdefault
    obtain ⟨-, q, hq, rfl⟩ := applySnapshot_eq_ok happly
    obtain ⟨-, hid⟩ := Store.mem_of_project? hq
    cases hid
    rw [mem_projectsWithRole_withPlan hnone]
    simp

/-- **The advice agrees with what applying grants.** Where the default template can be applied to a
project without grants, the advice for the creator was yes exactly for the roles that the creator
has on the project afterwards. For anybody else it was yes at least for these. The key and the
qualifier that are asked about do not matter, and asking changes no row. -/
theorem advice_agrees_with_application {faults : Faults} {selector p : String}
    {creator : Option String} {s u : Session} {applied : Option Snapshot}
    (role key qualifier : Option String) (hnone : s.working.countGrantsOn (some p) = 0)
    (h : applyDefault faults selector (some p) creator s = .ok applied u) :
    (∃ b lookups log,
      simulate selector none creator role key qualifier s = .ok ⟨.ok b, lookups⟩ { s with log } ∧
        (b = true ↔ p ∈ u.working.projectsWithRole role creator)) ∧
    ∀ other, p ∈ u.working.projectsWithRole role other →
      ∃ lookups log,
        simulate selector none other role key qualifier s =
          .ok ⟨.ok true, lookups⟩ { s with log } := by
  have hback := mem_projectsWithRole_of_applyDefault hnone h
  refine ⟨?_, fun other hother => ?_⟩
  · obtain ⟨b, lookups, log, hrun, hb⟩ := simulate_run selector creator role key qualifier s
    exact ⟨b, lookups, log, hrun, hb.trans (hback creator role).symm⟩
  · obtain ⟨b, lookups, log, hrun, hb⟩ := simulate_run selector other role key qualifier s
    obtain ⟨t, ht, hgives⟩ := (hback other role).1 hother
    rw [hb.2 ⟨t, ht, hgives.toCreator⟩] at hrun
    exact ⟨lookups, log, hrun⟩

/-- A member of the group in the sample is told of the role that the group gets, and has it. -/
theorem sample_advised :
    simulate "t" none (some "u") (some "scan") (some "new") (some "TRK") Session.sample =
        .ok ⟨.ok true, ["u"]⟩ Session.sample ∧
      ∃ applied u, applyDefault .none "t" (some "q") (some "u") Session.sample = .ok applied u ∧
        "q" ∈ u.working.projectsWithRole (some "scan") (some "u") := by
  have hasked :
      simulate "t" none (some "u") (some "scan") (some "new") (some "TRK") Session.sample =
        .ok ⟨.ok true, ["u"]⟩ Session.sample := rfl
  obtain ⟨applied, u, h⟩ : ∃ applied u,
      applyDefault .none "t" (some "q") (some "u") Session.sample = .ok applied u := ⟨_, _, rfl⟩
  have hnone : Session.sample.working.countGrantsOn (some "q") = 0 := by decide +kernel
  obtain ⟨b, lookups, log, hrun, hb⟩ :=
    (advice_agrees_with_application (some "scan") (some "new") (some "TRK") hnone h).1
  rw [hasked] at hrun
  cases hrun
  exact ⟨hasked, applied, u, h, hb.1 rfl⟩

end RoleGrants
