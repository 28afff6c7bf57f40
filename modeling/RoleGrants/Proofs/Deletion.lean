import Mathlib.Data.List.Basic
import RoleGrants.Proofs.AdviceAgreement
import RoleGrants.Proofs.StoredFact

/-!
# What a deletion takes along

A missing group stands for Anyone and a missing project for the global scope, so a deletion that
emptied a column where it should take a row along would hand a role to everybody, or everywhere.
`deletion_never_widens` says that no deletion does.

The rule is stated once for all tables and all kinds of rows. `Store.without` takes rows away by
their references alone, `Store.goesWith` says which rows go with the one that is deleted, and
`Store.deleteRow_eq_without` that the five deletions, each with its own cascades, are this rule.
What is left of a table is then a part of it, row by row as it was, and whoever holds a role
afterwards held it before.
-/

open RoleGrants.Action

namespace RoleGrants

/-! ### References -/

/-- A row as it is referred to: by its kind and its id. -/
structure RowReference where
  kind : RowKind
  id : String
  deriving DecidableEq

section References

variable (gone : RowReference → Bool)

@[simp] def Membership.refersTo (m : Membership) : Bool :=
  gone ⟨.user, m.user⟩ || gone ⟨.group, m.group⟩

@[simp] def UserGrant.refersTo (g : UserGrant) : Bool :=
  gone ⟨.user, g.user⟩ || g.project.any fun p => gone ⟨.project, p⟩

@[simp] def GroupGrant.refersTo (g : GroupGrant) : Bool :=
  (g.group.any fun h => gone ⟨.group, h⟩) || g.project.any fun p => gone ⟨.project, p⟩

@[simp] def TemplateUser.refersTo (e : TemplateUser) : Bool :=
  gone ⟨.template, e.template⟩ || gone ⟨.user, e.user⟩

@[simp] def TemplateGroup.refersTo (e : TemplateGroup) : Bool :=
  gone ⟨.template, e.template⟩ || e.group.any fun h => gone ⟨.group, h⟩

@[simp] def Characteristic.refersTo (c : Characteristic) : Bool := gone ⟨.template, c.template⟩

/-- A project after some rows are gone. An organization that is one of them lets it go. -/
def Project.released (p : Project) : Project :=
  if p.organization.any fun o => gone ⟨.organization, o⟩ then { p with organization := none } else p

/-- A fact refers to what its row refers to. -/
def Fact.refersTo : Fact → Bool
  | .userGrant user project _ => gone ⟨.user, user⟩ || project.any fun p => gone ⟨.project, p⟩
  | .groupGrant group project _ =>
    (group.any fun h => gone ⟨.group, h⟩) || project.any fun p => gone ⟨.project, p⟩
  | .templateUser template user _ => gone ⟨.template, template⟩ || gone ⟨.user, user⟩
  | .templateGroup template group _ =>
    gone ⟨.template, template⟩ || group.any fun h => gone ⟨.group, h⟩
  | .characteristic template _ => gone ⟨.template, template⟩

end References

namespace Store

/-! ### The rule of deletion -/

/-- **The store without some rows**, and without the grants, entries, flags and memberships that
refer to any of them. All other rows are as they were, but for projects that are let go. -/
def without (s : Store) (gone : RowReference → Bool) : Store where
  organizations := s.organizations.filter fun o => !gone ⟨.organization, o.id⟩
  users := s.users.filter fun u => !gone ⟨.user, u.id⟩
  groups := s.groups.filter fun g => !gone ⟨.group, g.id⟩
  memberships := s.memberships.filter fun m => !m.refersTo gone
  projects := (s.projects.filter fun p => !gone ⟨.project, p.id⟩).map (·.released gone)
  userGrants := s.userGrants.filter fun g => !g.refersTo gone
  groupGrants := s.groupGrants.filter fun g => !g.refersTo gone
  templates := s.templates.filter fun t => !gone ⟨.template, t.id⟩
  templateUsers := s.templateUsers.filter fun e => !e.refersTo gone
  templateGroups := s.templateGroups.filter fun e => !e.refersTo gone
  characteristics := s.characteristics.filter fun c => !c.refersTo gone

/-- **The rows that go with a row:** with an organization the groups and the templates whose column
for an organization has its id, and every row with itself. -/
def goesWith (s : Store) (kind : RowKind) (id : String) (row : RowReference) : Bool :=
  match kind, row.kind with
  | .organization, .group => decide (∃ g ∈ s.groups, g.id = row.id ∧ g.organization = id)
  | .organization, .template =>
    decide (∃ t ∈ s.templates, t.id = row.id ∧ t.organization = some id)
  | kind, other => decide (other = kind) && row.id == id

/-- The groups that the deletion of an organization picks are those that go with it. -/
theorem ownsGroup_eq (s : Store) (organization : String) :
    s.ownsGroup organization = fun group =>
      decide (∃ g ∈ s.groups, g.id = group ∧ g.organization = organization) := by
  funext group
  rw [Bool.eq_iff_iff, decide_eq_true_iff, ownsGroup, List.any_eq_true]
  simp only [Bool.and_eq_true, beq_iff_eq]

theorem ownsTemplate_eq (s : Store) (organization : String) :
    s.ownsTemplate organization = fun template =>
      decide (∃ t ∈ s.templates, t.id = template ∧ t.organization = some organization) := by
  funext template
  rw [Bool.eq_iff_iff, decide_eq_true_iff, ownsTemplate, List.any_eq_true]
  simp only [Bool.and_eq_true, beq_iff_eq]

theorem any_beq_eq (value : Option String) (id : String) :
    value.any (· == id) = (value == some id) := by
  cases value <;> rfl

/-- Only an organization lets projects go, and only its own. -/
theorem released_goesWith (s : Store) (kind : RowKind) (id : String) (p : Project) :
    p.released (s.goesWith kind id) =
      if kind = .organization ∧ p.organization = some id then { p with organization := none }
      else p := by
  cases kind <;> simp [Project.released, goesWith, any_beq_eq]

/-- **Each of the five deletions is the rule.** -/
theorem deleteRow_eq_without (s : Store) (kind : RowKind) (id : String) :
    s.deleteRow kind id = s.without (s.goesWith kind id) := by
  cases kind with
  | organization =>
    simp [deleteRow, deleteOrganization, removeGroups, removeTemplates, without, goesWith, bne,
      released_goesWith, ownsGroup_eq, ownsTemplate_eq]
  | user => simp [deleteRow, deleteUser, without, goesWith, bne, released_goesWith]
  | group => simp [deleteRow, deleteGroup, removeGroups, without, goesWith, released_goesWith]
  | project =>
    simp [deleteRow, deleteProject, without, goesWith, bne, released_goesWith, any_beq_eq]
  | template =>
    simp [deleteRow, deleteTemplate, removeTemplates, without, goesWith, released_goesWith]

/-! ### What is left -/

variable {s : Store} {gone : RowReference → Bool}

theorem facts_without (s : Store) (gone : RowReference → Bool) :
    (s.without gone).facts = s.facts.filter fun f => !f.refersTo gone := by
  simp only [facts, without, List.filter_append, List.filter_map]
  rfl

theorem mem_grants_of_without {g : Grant} (h : g ∈ (s.without gone).grants) : g ∈ s.grants := by
  rw [mem_grants] at h ⊢
  rcases h with ⟨r, hr, hg⟩ | ⟨r, hr, hg⟩
  · exact .inl ⟨r, (List.mem_filter.1 hr).1, hg⟩
  · exact .inr ⟨r, (List.mem_filter.1 hr).1, hg⟩

/-- Nobody comes to stand for a user by a deletion. -/
theorem standsFor_of_without {user : Option String} {h : Holder}
    (hstands : h.StandsFor (s.without gone) user) : h.StandsFor s user := by
  cases h with
  | user id => exact hstands
  | anyone => trivial
  | group id =>
    obtain ⟨u, huser, hmember⟩ := mem_groupsOf.1 hstands
    exact mem_groupsOf.2 ⟨u, huser, (List.mem_filter.1 hmember).1⟩

/-- Nobody holds a role after a deletion that was not held before. -/
theorem mem_projectsWithRole_of_without {role user : Option String} {p : String}
    (h : p ∈ (s.without gone).projectsWithRole role user) : p ∈ s.projectsWithRole role user := by
  obtain ⟨g, hg, hproject, hrole, hstands⟩ := mem_projectsWithRole.1 h
  exact mem_projectsWithRole.2
    ⟨g, mem_grants_of_without hg, hproject, hrole, standsFor_of_without hstands⟩

end Store

/-! ### Deleting in a session -/

/-- A row that is there is deleted and all that is pending is committed; where there is none,
nothing is done. -/
theorem Session.serve_delete (s : Session) (kind : RowKind) (id : Option String) :
    s.serve (.change (.delete kind id)) =
      match id.filter (s.working.hasRow kind) with
      | some id =>
        (.ok (.flag true), { s with
          working := s.working.deleteRow kind id, committed := s.working.deleteRow kind id })
      | none => (.ok (.flag false), s) := by
  unfold Session.serve Call.run RowChange.run RoleGrants.deleteRow
  cases id with
  | none => rfl
  | some id =>
    simp only [Functor.map, EStateM.map, bind_run, reading_run, Option.filter_some]
    cases s.working.hasRow kind id <;> rfl

/-- **A deletion never widens a permission.** What is left are the rows that refer to none of those
that go, as they were; only the projects of a deleted organization come to have none. So the
grants, entries and flags that are left are former ones, whoever holds one of these grants held it
before, and a user has no role on a project that was not held there. Where there is nothing to
delete, the session stays as it is. -/
theorem deletion_never_widens (s : Session) (kind : RowKind) (id : String) :
    (s.working.hasRow kind id = true → ∃ t : Store,
      s.serve (.change (.delete kind (some id))) =
        (.ok (.flag true), { s with working := t, committed := t }) ∧
      t = s.working.without (s.working.goesWith kind id) ∧
      (∀ p ∈ t.projects, ∃ q ∈ s.working.projects,
        p = if kind = .organization ∧ q.organization = some id then { q with organization := none }
          else q) ∧
      (∀ f, f ∈ t.facts ↔
        f ∈ s.working.facts ∧ f.refersTo (s.working.goesWith kind id) = false) ∧
      (∀ g ∈ t.grants, ∀ user, g.holder.StandsFor t user →
        g ∈ s.working.grants ∧ g.holder.StandsFor s.working user) ∧
      ∀ role user, ∀ p ∈ t.projectsWithRole role user,
        p ∈ s.working.projectsWithRole role user) ∧
    (s.working.hasRow kind id = false →
      s.serve (.change (.delete kind (some id))) = (.ok (.flag false), s)) ∧
    s.serve (.change (.delete kind none)) = (.ok (.flag false), s) := by
  refine ⟨?_, ?_, s.serve_delete kind none⟩
  · intro hrow
    refine ⟨s.working.without (s.working.goesWith kind id), ?_, rfl, ?_, ?_, ?_, ?_⟩
    · rw [Session.serve_delete, Option.filter_some, if_pos hrow, ← Store.deleteRow_eq_without]
    · intro p hp
      obtain ⟨q, hq, rfl⟩ := List.mem_map.1 hp
      exact ⟨q, (List.mem_filter.1 hq).1, Store.released_goesWith _ _ _ q⟩
    · intro f
      rw [Store.facts_without, List.mem_filter, Bool.not_eq_true']
    · intro g hg user hstands
      exact ⟨Store.mem_grants_of_without hg, Store.standsFor_of_without hstands⟩
    · intro role user p hp
      exact Store.mem_projectsWithRole_of_without hp
  · intro hrow
    rw [Session.serve_delete, Option.filter_some, hrow, if_neg Bool.false_ne_true]

/-- The organization of the sample takes its template along, with the entry of Anyone, and its
group, with a grant on a project and its member, and it lets its project go. The grant of the user
on the project stays, and is committed. -/
theorem sample_deletion :
    ∃ s : Session, s.working.hasRow .organization "o" = true ∧
      Fact.groupGrant (some "g") (some "p") "scan" ∈ s.working.facts ∧
      ⟨"u", "g"⟩ ∈ s.working.memberships ∧
      ∃ t : Store, s.serve (.change (.delete .organization (some "o"))) =
          (.ok (.flag true), { s with working := t, committed := t }) ∧
        ⟨"p", "shop", "TRK", none, none⟩ ∈ t.projects ∧
        Fact.templateGroup "t" none "browse" ∉ t.facts ∧
        Fact.groupGrant (some "g") (some "p") "scan" ∉ t.facts ∧
        t.memberships = [] ∧
        Fact.userGrant "u" (some "p") "admin" ∈ t.facts := by
  let s := Session.sample.serveAll [
    .grants (.grant (.group (some "g")) (some "scan") (.project (some "p")))]
  have hrow : s.working.hasRow .organization "o" = true := by decide +kernel
  obtain ⟨t, hserve, rfl, -, hfacts, -⟩ := (deletion_never_widens s .organization "o").1 hrow
  refine ⟨s, hrow, by decide +kernel, by decide +kernel, _, hserve, by decide +kernel, ?_, ?_,
    by decide +kernel, ?_⟩
  · -- the entry refers to a template that the organization owns
    intro hentry
    have hkept := ((hfacts _).1 hentry).2
    revert hkept
    decide +kernel
  · -- the grant refers to a group that it owns
    intro hgrant
    have hkept := ((hfacts _).1 hgrant).2
    revert hkept
    decide +kernel
  · exact (hfacts _).2 ⟨by decide +kernel, by decide +kernel⟩

end RoleGrants
