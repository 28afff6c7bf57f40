import RoleGrants.Proofs.ApplicationOutcome
import RoleGrants.Proofs.Integrity

/-!
# What an application grants

The rows after an application that succeeds. `Snapshot.Grants` says which triples a snapshot stands
for on a project and a creator, without any order of writing. A successful application adds those of
them that were not held, each once, marks the project with the one new reading of the clock and
commits (`applySnapshot_eq_ok`).

What an application leaves alone is `Store.AgreeOff`: two stores that differ at most in one
project and in the grants on it. It is reflexive and transitive, every single write satisfies it,
and so does the mark, so that the whole application does.
-/

open RoleGrants.Action

namespace RoleGrants

/-! ### What a snapshot stands for -/

/-- **The triples of a snapshot on a project.** An entry gives its role to its principal, and a
role of the creator goes to the creator, if there is one. -/
inductive Snapshot.Grants (t : Snapshot) (creator : Option String) (project : String) :
    Grant → Prop where
  | entry {e : Entry} {holder : Holder} {role : String} (he : e ∈ t.groups ∨ e ∈ t.users)
      (hholder : e.principal.holder? = some holder) (hrole : e.role = some role) :
      Grants t creator project ⟨holder, some project, role⟩
  | creator {user role : String} (huser : creator = some user)
      (hrole : (role, true) ∈ t.characteristics) :
      Grants t creator project ⟨.user user, some project, role⟩

theorem Snapshot.mem_creatorRoles {t : Snapshot} {role : String} :
    role ∈ t.creatorRoles ↔ (role, true) ∈ t.characteristics := by
  simp [creatorRoles]

/-- An entry of a plan is an entry of the snapshot, or a role of the creator. -/
theorem Snapshot.mem_plan {t : Snapshot} {creator : Option String}
    {w : Principal × Option String} :
    w ∈ t.plan creator ↔
      (∃ e, (e ∈ t.groups ∨ e ∈ t.users) ∧ w = (e.principal, e.role)) ∨
        ∃ user role, creator = some user ∧ (role, true) ∈ t.characteristics ∧
          w = (.user (some user), some role) := by
  rw [plan.eq_def, List.mem_append, List.mem_map]
  refine or_congr ?_ ?_
  · simp only [List.mem_append, eq_comm (a := w)]
  · cases creator with
    | none => simp
    | some user =>
      simp only [List.mem_map, mem_creatorRoles, eq_comm (a := w), Option.some.injEq]
      constructor
      · rintro ⟨role, hrole, hw⟩
        exact ⟨user, role, rfl, hrole, hw⟩
      · rintro ⟨_, role, rfl, hrole, hw⟩
        exact ⟨role, hrole, hw⟩

theorem plannedGrant?_eq_some {scope : Scope} {w : Principal × Option String} {g : Grant} :
    plannedGrant? scope w = some g ↔
      ∃ holder role, w.1.holder? = some holder ∧ w.2 = some role ∧
        g = ⟨holder, scope.projectId, role⟩ := by
  simp [plannedGrant?, Principal.grant?, Option.bind_eq_some_iff, eq_comm (a := g)]

/-- The triples of a plan are those of the snapshot. -/
theorem mem_plannedGrants {t : Snapshot} {creator : Option String} {project : String} {g : Grant} :
    g ∈ plannedGrants (.project (some project)) (t.plan creator) ↔ t.Grants creator project g := by
  rw [plannedGrants, List.mem_filterMap]
  constructor
  · rintro ⟨w, hw, hg⟩
    obtain ⟨holder, role, hholder, hrole, rfl⟩ := plannedGrant?_eq_some.1 hg
    rcases Snapshot.mem_plan.1 hw with ⟨e, he, rfl⟩ | ⟨user, r, huser, hr, rfl⟩
    · exact .entry he hholder hrole
    · cases hholder
      cases hrole
      exact .creator huser hr
  · intro hg
    cases hg with
    | entry he hholder hrole =>
      exact ⟨_, Snapshot.mem_plan.2 (.inl ⟨_, he, rfl⟩),
        plannedGrant?_eq_some.2 ⟨_, _, hholder, hrole, rfl⟩⟩
    | creator huser hrole =>
      exact ⟨_, Snapshot.mem_plan.2 (.inr ⟨_, _, huser, hrole, rfl⟩),
        plannedGrant?_eq_some.2 ⟨_, _, rfl, rfl, rfl⟩⟩

/-! ### What is left alone -/

/-- **Two stores that differ at most in a project and the grants on it.** -/
structure Store.AgreeOff (project : String) (s t : Store) : Prop where
  organizations : t.organizations = s.organizations
  users : t.users = s.users
  groups : t.groups = s.groups
  memberships : t.memberships = s.memberships
  projects : t.projects.filter (·.id != project) = s.projects.filter (·.id != project)
  userGrants : t.userGrants.filter (·.project != some project) =
    s.userGrants.filter (·.project != some project)
  groupGrants : t.groupGrants.filter (·.project != some project) =
    s.groupGrants.filter (·.project != some project)
  templates : t.templates = s.templates
  templateUsers : t.templateUsers = s.templateUsers
  templateGroups : t.templateGroups = s.templateGroups
  characteristics : t.characteristics = s.characteristics

namespace Store.AgreeOff

variable {project : String} {s t u : Store}

theorem refl (project : String) (s : Store) : AgreeOff project s s :=
  ⟨rfl, rfl, rfl, rfl, rfl, rfl, rfl, rfl, rfl, rfl, rfl⟩

theorem trans (h : AgreeOff project s t) (h' : AgreeOff project t u) : AgreeOff project s u where
  organizations := h'.organizations.trans h.organizations
  users := h'.users.trans h.users
  groups := h'.groups.trans h.groups
  memberships := h'.memberships.trans h.memberships
  projects := h'.projects.trans h.projects
  userGrants := h'.userGrants.trans h.userGrants
  groupGrants := h'.groupGrants.trans h.groupGrants
  templates := h'.templates.trans h.templates
  templateUsers := h'.templateUsers.trans h.templateUsers
  templateGroups := h'.templateGroups.trans h.templateGroups
  characteristics := h'.characteristics.trans h.characteristics

theorem insertGrant (s : Store) {g : Grant} (hg : g.project = some project) :
    AgreeOff project s (s.insertGrant g) := by
  by_cases hmem : g ∈ s.grants
  · rw [insertGrant_of_mem hmem]
    exact refl project s
  · -- the new row, in whichever table, is one of the project
    have huser : g.userRows.filter (·.project != some project) = [] := by
      unfold Grant.userRows
      split <;> simp [hg]
    have hgroup : g.groupRows.filter (·.project != some project) = [] := by
      unfold Grant.groupRows
      split <;> simp [hg]
    rw [Store.insertGrant, if_neg hmem, if_neg hmem]
    exact { refl project s with
      userGrants := by rw [List.filter_append, huser, List.append_nil]
      groupGrants := by rw [List.filter_append, hgroup, List.append_nil] }

theorem insertGrants (s : Store) {gs : List Grant} (hgs : ∀ g ∈ gs, g.project = some project) :
    AgreeOff project s (s.insertGrants gs) := by
  induction gs generalizing s with
  | nil => exact refl project s
  | cons g gs ih =>
    exact (insertGrant s (hgs g List.mem_cons_self)).trans
      (ih _ fun g' hg' => hgs g' (List.mem_cons_of_mem g hg'))

theorem refresh (s : Store) (reading : Nat) : AgreeOff project s (s.refresh project reading) := by
  refine { refl project s with projects := ?_ }
  show (s.projects.map _).filter _ = _
  -- the mark keeps the ids, so the same projects are looked at, and none of them is marked
  rw [List.filter_map, List.filter_congr (q := (·.id != project)) ?_]
  · refine (List.map_congr_left fun p hp => ?_).trans (List.map_id _)
    rw [if_neg (by simpa using (List.mem_filter.1 hp).2)]
    rfl
  · intro p _
    simp only [Function.comp]
    split <;> rfl

end Store.AgreeOff

/-! ### A successful application -/

theorem planned_project {scope : Scope} {plan : List (Principal × Option String)} {g : Grant}
    (hg : g ∈ plannedGrants scope plan) : g.project = scope.projectId := by
  obtain ⟨w, -, hw⟩ := List.mem_filterMap.1 hg
  obtain ⟨holder, role, -, -, rfl⟩ := plannedGrant?_eq_some.1 hw
  rfl

/-- The rows after an application that went through. -/
def Store.withPlan (s : Store) (plan : List (Principal × Option String)) (project : String)
    (reading : Nat) : Store :=
  (s.insertGrants (plannedGrants (.project (some project)) plan)).refresh project reading

/-- The grants are not touched by the mark. -/
theorem Store.grants_withPlan_perm (s : Store) (plan : List (Principal × Option String))
    (project : String) (reading : Nat) :
    (s.withPlan plan project reading).grants.Perm
      (s.grants ++ s.newGrants (plannedGrants (.project (some project)) plan)) :=
  s.grants_insertGrants_perm _

theorem Store.mem_grants_withPlan {s : Store} {t : Snapshot} {creator : Option String}
    {project : String} {reading : Nat} {g : Grant} :
    g ∈ (s.withPlan (t.plan creator) project reading).grants ↔
      g ∈ s.grants ∨ t.Grants creator project g := by
  rw [(s.grants_withPlan_perm _ _ _).mem_iff, List.mem_append, mem_newGrants, mem_plannedGrants]
  by_cases hg : g ∈ s.grants <;> simp [hg]

theorem Store.agreeOff_withPlan (s : Store) (plan : List (Principal × Option String))
    (project : String) (reading : Nat) :
    s.AgreeOff project (s.withPlan plan project reading) :=
  (AgreeOff.insertGrants s fun _ => planned_project).trans (.refresh _ reading)

/-- The project that an application is made to is the one that it marks. -/
theorem Store.project?_withPlan {s : Store} {project : Option String} {p : Project}
    (hp : s.project? project = some p) (plan : List (Principal × Option String)) (reading : Nat) :
    (s.withPlan plan p.id reading).project? (some p.id) =
      some { p with refreshedAt := some reading } := by
  obtain ⟨-, rfl⟩ := Store.mem_of_project? hp
  -- the grants are other tables
  have hfound : (s.insertGrants (plannedGrants (.project (some p.id)) plan)).project?
      (some p.id) = some p := by
    rw [project?, projects_insertGrants]
    exact hp
  rw [withPlan, project?_refresh, hfound, Option.map_some, if_pos (beq_self_eq_true p.id)]

/-- What was held is held once, what is new is new once, and nothing is both. -/
theorem Store.nodup_grants_withPlan {s : Store} (hs : s.grants.Nodup)
    (plan : List (Principal × Option String)) (project : String) (reading : Nat) :
    (s.withPlan plan project reading).grants.Nodup := by
  rw [(s.grants_withPlan_perm plan project reading).nodup_iff, List.nodup_append]
  refine ⟨hs, s.nodup_newGrants _, ?_⟩
  rintro g hg g' hg' rfl
  exact (mem_newGrants.1 hg').2 hg

section Effect

variable {faults : Faults}

/-- An application that succeeds has written its plan, marked the project and committed. -/
theorem carryOut_eq_ok {plan : List (Principal × Option String)} {project : String} {n : Nat}
    {s u : Session} (h : carryOut faults plan project s = .ok n u) :
    n = (s.working.newGrants (plannedGrants (.project (some project)) plan)).length ∧
      u = { s with
        working := s.working.withPlan plan project (s.clock + 1)
        committed := s.working.withPlan plan project (s.clock + 1)
        clock := s.clock + 1 } := by
  rw [carryOut_run] at h
  split at h
  · cases h
  · next n t hwrites =>
    obtain ⟨rfl, rfl⟩ := writeGrants_eq_ok hwrites
    split at h
    · cases h
    · cases h
    · cases h
      exact ⟨rfl, rfl⟩

theorem applySnapshot_eq_ok {t t' : Snapshot} {project creator : Option String} {s u : Session}
    (h : applySnapshot faults t project creator s = .ok t' u) :
    t' = t ∧ ∃ p, s.working.project? project = some p ∧
      u = { working := s.working.withPlan (t.plan creator) p.id (s.clock + 1)
            committed := s.working.withPlan (t.plan creator) p.id (s.clock + 1)
            clock := s.clock + 1
            log := s.log ++ [.templateApplied t.id p.id
              (s.working.newGrants
                (plannedGrants (.project (some p.id)) (t.plan creator))).length
              creator.isSome] } := by
  rw [applySnapshot_run] at h
  cases hp : s.working.project? project with
  | none => rw [hp] at h; cases h
  | some p =>
    simp only [hp] at h
    cases hcarry : carryOut faults (t.plan creator) p.id s with
    | error f v => rw [hcarry] at h; cases h
    | ok n v =>
      rw [hcarry] at h
      cases h
      obtain ⟨rfl, rfl⟩ := carryOut_eq_ok hcarry
      exact ⟨rfl, p, rfl, rfl⟩

end Effect

end RoleGrants
