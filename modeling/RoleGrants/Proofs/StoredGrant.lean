import RoleGrants.Grant.Write
import RoleGrants.Proofs.UniqueKey

/-!
# Storing one grant

Granting a role to a principal in closed form. `Store.grantable` says, from the rows alone, which
triple is to be stored or what stands against it, and `Store.insertGrant` stores a triple that is
not there yet. `grantTo_run` says that granting is these two and nothing else: it answers whether
the triple was new, and where something stands against it the session stays as it is.

The order of the checks is visible in the failure. A value that is no principal is told before a
blank role, a blank role before a missing user id, and a dangling reference last. A triple that is
held already is not checked against the rows it refers to, since nothing is written for it.

The unique keys of the two tables never stand against a grant. Each of them takes a stored row with
the same holder, project and role to clash with (`UserGrant.fresh`, `GroupGrant.fresh`), and
such a row is what the test before the write looks for.
-/

namespace RoleGrants

/-- Who holds the grants of a principal once they are stored. A user without an id and a value
that is no principal hold none. -/
def Principal.holder? : Principal → Option Holder
  | .user id => id.map .user
  | .group id => some (.ofGroup id)
  | .anyone => some .anyone
  | .unsupported _ => none

/-- The triple that stands for a role of a principal on a project, or globally. -/
def Principal.grant? (principal : Principal) (role project : Option String) : Option Grant :=
  principal.holder?.bind fun holder => role.map fun role => ⟨holder, project, role⟩

/-- The rows of a triple in the table of users' grants: one, or none if a user does not hold it. -/
def Grant.userRows (g : Grant) : List UserGrant :=
  match g.holder with
  | .user id => [⟨none, id, g.project, g.role⟩]
  | .group _ | .anyone => []

/-- The rows of a triple in the table of groups' grants. -/
def Grant.groupRows (g : Grant) : List GroupGrant :=
  match g.holder with
  | .user _ => []
  | .group id => [⟨none, some id, g.project, g.role⟩]
  | .anyone => [⟨none, none, g.project, g.role⟩]

@[simp] theorem Grant.userRows_ofGroup (group project : Option String) (role : String) :
    Grant.userRows ⟨.ofGroup group, project, role⟩ = [] := by
  cases group <;> rfl

@[simp] theorem Grant.groupRows_ofGroup (group project : Option String) (role : String) :
    Grant.groupRows ⟨.ofGroup group, project, role⟩ = [⟨none, group, project, role⟩] := by
  cases group <;> rfl

namespace Store

/-- Whether the holder and the project of a triple exist. -/
def knows (s : Store) (g : Grant) : Bool :=
  (match g.holder with
    | .user id => s.hasUser id
    | .group id => s.hasGroup id
    | .anyone => true) && g.project.all s.hasProject

/-- The triple of a holder, or what stands against it: a role that is blank, a user without an id,
or a row that is missing. -/
def checkedTriple (s : Store) (holder : Option Holder) (role project : Option String) :
    Except Failure Grant :=
  match roleOf role, holder with
  | .error r, _ => .error (.refused r)
  | .ok _, none => .error (.store (.missingValue "user_roles.user_id"))
  | .ok role, some holder =>
    if ⟨holder, project, role⟩ ∈ s.grants ∨ s.knows ⟨holder, project, role⟩ then
      .ok ⟨holder, project, role⟩
    else .error (.store .missingParent)

/-- **What a grant comes to.** The triple that stands for a role of a principal on a project, or the
first thing that stands against it. -/
def grantable (s : Store) (principal : Principal) (role project : Option String) :
    Except Failure Grant :=
  match principal with
  | .unsupported value => .error (.refused (.unsupportedPrincipal value.quoted))
  | principal => s.checkedTriple principal.holder? role project

/-- The store with one triple more, if it is not there yet. -/
def insertGrant (s : Store) (g : Grant) : Store :=
  { s with
    userGrants := if g ∈ s.grants then s.userGrants else s.userGrants ++ g.userRows
    groupGrants := if g ∈ s.grants then s.groupGrants else s.groupGrants ++ g.groupRows }

@[simp] theorem knows_user (s : Store) (id role : String) (project : Option String) :
    s.knows ⟨.user id, project, role⟩ = (s.hasUser id && project.all s.hasProject) := rfl

@[simp] theorem knows_ofGroup (s : Store) (group project : Option String) (role : String) :
    s.knows ⟨.ofGroup group, project, role⟩ =
      (group.all s.hasGroup && project.all s.hasProject) := by
  cases group <;> rfl

/-! ### The test before the write -/

theorem mem_grants {s : Store} {g : Grant} :
    g ∈ s.grants ↔ (∃ r ∈ s.userGrants, r.grant = g) ∨ ∃ r ∈ s.groupGrants, r.grant = g := by
  simp [grants, List.mem_append, List.mem_map]

theorem hasUserGrant_iff {s : Store} {user role : String} {project : Option String} :
    s.hasUserGrant (some user) project role = true ↔ ⟨.user user, project, role⟩ ∈ s.grants := by
  rw [mem_grants, hasUserGrant, List.any_eq_true]
  constructor
  · rintro ⟨r, hr, h⟩
    simp only [Bool.and_eq_true, beq_iff_eq, Option.some.injEq] at h
    obtain ⟨⟨rfl, rfl⟩, rfl⟩ := h
    exact .inl ⟨r, hr, rfl⟩
  · rintro (⟨r, hr, h⟩ | ⟨r, hr, h⟩)
    · have huser : r.user = user := Holder.user.inj (congrArg Grant.holder h)
      have hproject : r.project = project := congrArg Grant.project h
      have hrole : r.role = role := congrArg Grant.role h
      refine ⟨r, hr, ?_⟩
      rw [huser, hproject, hrole]
      simp
    · -- a row of a group holds nothing for a user
      have hholder : Holder.ofGroup r.group = .user user := congrArg Grant.holder h
      cases hg : r.group <;> rw [hg] at hholder <;> cases hholder

theorem hasGroupGrant_iff {s : Store} {group project : Option String} {role : String} :
    s.hasGroupGrant group project role = true ↔ ⟨.ofGroup group, project, role⟩ ∈ s.grants := by
  rw [mem_grants, hasGroupGrant, List.any_eq_true]
  constructor
  · rintro ⟨r, hr, h⟩
    simp only [Bool.and_eq_true, beq_iff_eq] at h
    obtain ⟨⟨rfl, rfl⟩, rfl⟩ := h
    exact .inr ⟨r, hr, rfl⟩
  · rintro (⟨r, hr, h⟩ | ⟨r, hr, h⟩)
    · -- a row of a user holds nothing for a group
      have hholder : Holder.user r.user = .ofGroup group := congrArg Grant.holder h
      cases group <;> cases hholder
    · obtain ⟨hholder, hproject, hrole⟩ : Holder.ofGroup r.group = .ofGroup group ∧
          r.project = project ∧ r.role = role := by
        simpa [GroupGrant.grant] using h
      refine ⟨r, hr, ?_⟩
      simp [Holder.ofGroup_inj.1 hholder, hproject, hrole]

end Store

/-- A row of a user that is not held is fresh. -/
theorem UserGrant.fresh {s : Store} {user role : String} {project : Option String}
    (h : ⟨.user user, project, role⟩ ∉ s.grants) :
    Fresh UserGrant.keys s.userGrants ⟨none, user, project, role⟩ := by
  intro r hr hclash
  rcases UserGrant.clash_iff.1 hclash with heq | ⟨id, hid, -⟩
  · exact h (Store.mem_grants.2 (.inl ⟨r, hr, heq.symm⟩))
  · cases hid

/-- A row of a group or of Anyone that is not held is fresh. -/
theorem GroupGrant.fresh {s : Store} {group project : Option String} {role : String}
    (h : ⟨.ofGroup group, project, role⟩ ∉ s.grants) :
    Fresh GroupGrant.keys s.groupGrants ⟨none, group, project, role⟩ := by
  intro r hr hclash
  rcases GroupGrant.clash_iff.1 hclash with heq | ⟨id, hid, -⟩
  · exact h (Store.mem_grants.2 (.inr ⟨r, hr, heq.symm⟩))
  · cases hid

/-! ### Granting in closed form -/

namespace Store

/-- A triple of a user that is not held goes in exactly when the user and the project exist. -/
theorem addUserGrant_of_notMem {s : Store} {user role : String} {project : Option String}
    (h : ⟨.user user, project, role⟩ ∉ s.grants) :
    s.addUserGrant none (some user) project (some role) =
      if s.knows ⟨.user user, project, role⟩ then .ok (s.insertGrant ⟨.user user, project, role⟩)
      else .error .missingParent := by
  change (accept UserGrant.keys (s.hasUser user && project.all s.hasProject) s.userGrants
    ⟨none, user, project, role⟩ >>= fun rows => pure { s with userGrants := rows }) = _
  rw [accept_of_fresh (UserGrant.fresh h), insertGrant, if_neg h, if_neg h, knows_user]
  split
  · simp only [Grant.userRows, Grant.groupRows, List.append_nil]
    rfl
  · rfl

/-- A triple of a group or of Anyone that is not held goes in exactly when the group and the project
exist. -/
theorem addGroupGrant_of_notMem {s : Store} {group project : Option String} {role : String}
    (h : ⟨.ofGroup group, project, role⟩ ∉ s.grants) :
    s.addGroupGrant none group project (some role) =
      if s.knows ⟨.ofGroup group, project, role⟩ then
        .ok (s.insertGrant ⟨.ofGroup group, project, role⟩)
      else .error .missingParent := by
  change (accept GroupGrant.keys (group.all s.hasGroup && project.all s.hasProject) s.groupGrants
    ⟨none, group, project, role⟩ >>= fun rows => pure { s with groupGrants := rows }) = _
  rw [accept_of_fresh (GroupGrant.fresh h), insertGrant, if_neg h, if_neg h, knows_ofGroup]
  split
  · simp only [Grant.userRows_ofGroup, Grant.groupRows_ofGroup, List.append_nil]
    rfl
  · rfl

theorem insertGrant_of_mem {s : Store} {g : Grant} (h : g ∈ s.grants) : s.insertGrant g = s := by
  rw [insertGrant, if_pos h, if_pos h]

end Store

namespace Session

/-- A session after its store takes a triple. -/
def insertGrant (s : Session) (g : Grant) : Session :=
  { s with working := s.working.insertGrant g }

/-- A session after a project is marked with a reading of the clock. Nothing is read for the global
scope. -/
def mark (s : Session) (scope : Scope) : Session :=
  match scope.projectId with
  | none => s
  | some project =>
    { s with clock := s.clock + 1, working := s.working.refresh project (s.clock + 1) }

/-- A mark changes nothing but projects among the rows. -/
theorem working_mark (s : Session) (scope : Scope) :
    (s.mark scope).working = { s.working with projects := (s.mark scope).working.projects } := by
  unfold mark
  cases scope.projectId <;> rfl

end Session

open RoleGrants.Action

theorem refreshGrants_run (scope : Scope) (s : Session) :
    refreshGrants scope s = .ok () (s.mark scope) := by
  unfold refreshGrants Session.mark
  cases scope.projectId <;> rfl

theorem refreshIf_run (wanted : Bool) (scope : Scope) (s : Session) :
    refreshIf wanted scope s = .ok () (if wanted then s.mark scope else s) := by
  cases wanted
  · rfl
  · exact refreshGrants_run scope s

/-- Writing a triple that is not held yet, and marking the project. Both tables are written in this
way; `hheld` says what the test before the write looks for, `hwrite` what the write comes to. -/
theorem writeUnless_run {held : Bool} {f : Store → Except StoreError Store} {g : Grant}
    (scope : Scope) (refresh : Bool) {s : Session} (hheld : held = true ↔ g ∈ s.working.grants)
    (hwrite : g ∉ s.working.grants → f s.working =
      if s.working.knows g then .ok (s.working.insertGrant g) else .error .missingParent) :
    (do
      if !held then writing f
      refreshIf refresh scope
      return !held : Action Bool) s =
      if g ∈ s.working.grants ∨ s.working.knows g then
        .ok (decide (g ∉ s.working.grants))
          (if refresh then (s.insertGrant g).mark scope else s.insertGrant g)
      else .error (.store .missingParent) s := by
  by_cases hmem : g ∈ s.working.grants
  · -- nothing is written, whether or not the rows that the triple refers to are still there
    rw [hheld.2 hmem]
    simp only [Bool.not_true, Bool.false_eq_true, if_false, bind_run, pure_run, refreshIf_run,
      Session.insertGrant, Store.insertGrant_of_mem hmem, hmem, not_true_eq_false, decide_false,
      true_or, if_true]
  · rw [Bool.eq_false_iff.2 fun h => hmem (hheld.1 h)]
    simp only [Bool.not_false, if_true, bind_run, writing, hwrite hmem]
    by_cases hknows : s.working.knows g = true
    · rw [if_pos hknows, if_pos (.inr hknows)]
      simp only [refreshIf_run, pure_run, hmem, not_false_eq_true, decide_true, Session.insertGrant]
    · rw [if_neg hknows, if_neg (not_or.2 ⟨hmem, hknows⟩)]

/-- **Granting to a user, in closed form.** -/
theorem grantToUser_run (user role : Option String) (scope : Scope) (refresh : Bool) (s : Session) :
    grantToUser user role scope refresh s =
      match s.working.grantable (.user user) role scope.projectId with
      | .ok g => .ok (decide (g ∉ s.working.grants))
          (if refresh then (s.insertGrant g).mark scope else s.insertGrant g)
      | .error f => .error f s := by
  unfold grantToUser Store.grantable Store.checkedTriple
  rw [bind_run]
  -- the role is looked at first, and only a role that is one lets the id be looked at
  cases roleOf role with
  | error r => rfl
  | ok role =>
    cases user with
    | none =>
      -- no row is of a user without an id, so the write is tried and misses the column
      have hnone : s.working.hasUserGrant none scope.projectId role = false := by
        simp [Store.hasUserGrant]
      simp only [accepted, pure_run, bind_run, reading_run, hnone]
      rfl
    | some user =>
      refine (writeUnless_run scope refresh Store.hasUserGrant_iff
        Store.addUserGrant_of_notMem).trans ?_
      simp only [Principal.holder?, Option.map_some]
      split <;> rfl

/-- **Granting to a group or to Anyone, in closed form.** Anyone is the group without an id. -/
theorem grantToGroup_run (group role : Option String) (scope : Scope) (refresh : Bool)
    (s : Session) :
    grantToGroup group role scope refresh s =
      match s.working.grantable (.group group) role scope.projectId with
      | .ok g => .ok (decide (g ∉ s.working.grants))
          (if refresh then (s.insertGrant g).mark scope else s.insertGrant g)
      | .error f => .error f s := by
  unfold grantToGroup Store.grantable Store.checkedTriple
  rw [bind_run]
  cases roleOf role with
  | error r => rfl
  | ok role =>
    refine (writeUnless_run scope refresh Store.hasGroupGrant_iff
      Store.addGroupGrant_of_notMem).trans ?_
    simp only [Principal.holder?]
    split <;> rfl

/-- **Granting to a principal of any kind, in closed form.** -/
theorem grantTo_run (principal : Principal) (role : Option String) (scope : Scope) (s : Session) :
    grantTo principal role scope s =
      match s.working.grantable principal role scope.projectId with
      | .ok g => .ok (decide (g ∉ s.working.grants)) (s.insertGrant g)
      | .error f => .error f s := by
  cases principal with
  | user id => exact grantToUser_run id role scope false s
  | group id => exact grantToGroup_run id role scope false s
  | anyone =>
    -- Anyone is written as the group without an id
    exact grantToGroup_run none role scope false s
  | unsupported value => rfl

/-! ### What stands for a grant, and what stands against it -/

theorem roleOf_eq_ok {role : Option String} {r : String} :
    roleOf role = .ok r ↔ role = some r ∧ Text.isBlank r = false := by
  cases role with
  | none => simp [roleOf]
  | some role =>
    simp only [roleOf, Option.some.injEq]
    split
    · next hblank =>
      refine ⟨fun h => (nomatch h), ?_⟩
      rintro ⟨rfl, hr⟩
      rw [hr] at hblank
      cases hblank
    · next hblank =>
      simp only [Except.ok.injEq]
      refine ⟨?_, fun h => h.1⟩
      rintro rfl
      exact ⟨rfl, Bool.eq_false_iff.2 hblank⟩

theorem roleOf_eq_error {role : Option String} {r : Refusal} (h : roleOf role = .error r) :
    r = .blankRole := by
  unfold roleOf at h
  split at h
  · split at h <;> cases h
    rfl
  · cases h
    rfl

namespace Store

theorem checkedTriple_eq_ok {s : Store} {holder : Option Holder} {role project : Option String}
    {g : Grant} :
    s.checkedTriple holder role project = .ok g ↔
      (∃ h r, holder = some h ∧ roleOf role = .ok r ∧ g = ⟨h, project, r⟩) ∧
        (g ∈ s.grants ∨ s.knows g = true) := by
  unfold checkedTriple
  constructor
  · intro h
    split at h
    · cases h
    · cases h
    · next r holder hr =>
      split at h
      · next hadmits =>
        cases h
        exact ⟨⟨holder, r, rfl, hr, rfl⟩, hadmits⟩
      · cases h
  · rintro ⟨⟨holder, r, rfl, hr, rfl⟩, hadmits⟩
    rw [hr]
    exact if_pos hadmits

/-- A role can be granted when the principal has a holder, the role is not blank, and the triple is
held already or refers to rows that exist. -/
theorem grantable_eq_ok {s : Store} {principal : Principal} {role project : Option String}
    {g : Grant} :
    s.grantable principal role project = .ok g ↔
      (∃ h r, principal.holder? = some h ∧ roleOf role = .ok r ∧ g = ⟨h, project, r⟩) ∧
        (g ∈ s.grants ∨ s.knows g = true) := by
  cases principal with
  | user id => exact checkedTriple_eq_ok
  | group id => exact checkedTriple_eq_ok
  | anyone => exact checkedTriple_eq_ok
  | unsupported value => simp [grantable, Principal.holder?]

/-! ### What storing a triple changes -/

theorem map_grant_rows (g : Grant) :
    g.userRows.map UserGrant.grant ++ g.groupRows.map GroupGrant.grant = [g] := by
  obtain ⟨holder, project, role⟩ := g
  cases holder <;> rfl

theorem grants_insertGrant_perm {s : Store} {g : Grant} (h : g ∉ s.grants) :
    (s.insertGrant g).grants.Perm (s.grants ++ [g]) := by
  rw [insertGrant, grants, if_neg h, if_neg h, List.map_append, List.map_append, grants,
    ← map_grant_rows g, List.append_assoc, List.append_assoc]
  -- the new row of a user stands before the rows of groups, and is carried behind them
  refine List.Perm.append_left _ ?_
  rw [← List.append_assoc, ← List.append_assoc]
  exact List.Perm.append_right _ List.perm_append_comm

@[simp] theorem mem_grants_insertGrant {s : Store} {g g' : Grant} :
    g' ∈ (s.insertGrant g).grants ↔ g' ∈ s.grants ∨ g' = g := by
  by_cases h : g ∈ s.grants
  · rw [insertGrant_of_mem h]
    refine ⟨.inl, ?_⟩
    rintro (h' | rfl)
    · exact h'
    · exact h
  · rw [(grants_insertGrant_perm h).mem_iff, List.mem_append, List.mem_singleton]

@[simp] theorem knows_insertGrant (s : Store) (g g' : Grant) :
    (s.insertGrant g).knows g' = s.knows g' := rfl

/-- What a grant comes to depends on nothing but which triples are held or refer to rows that
exist. -/
theorem grantable_congr {s t : Store}
    (h : ∀ g, g ∈ t.grants ∨ t.knows g = true ↔ g ∈ s.grants ∨ s.knows g = true)
    (principal : Principal) (role project : Option String) :
    t.grantable principal role project = s.grantable principal role project := by
  have htriple : ∀ holder, t.checkedTriple holder role project =
      s.checkedTriple holder role project := by
    intro holder
    unfold checkedTriple
    simp only [h]
  cases principal with
  | user id => exact htriple _
  | group id => exact htriple _
  | anyone => exact htriple _
  | unsupported value => rfl

/-- What a grant comes to is the same after another grant has been stored: the rows that it refers
to are still the same, and it is held only if it was or if it is the one just stored. -/
theorem grantable_insertGrant {s : Store} {g : Grant} (hg : g ∈ s.grants ∨ s.knows g = true)
    (principal : Principal) (role project : Option String) :
    (s.insertGrant g).grantable principal role project = s.grantable principal role project := by
  refine grantable_congr (fun g' => ?_) principal role project
  rw [mem_grants_insertGrant, knows_insertGrant]
  constructor
  -- the triple just stored was admitted itself, so nothing is admitted on its account alone
  · rintro ((h | rfl) | h)
    · exact .inl h
    · exact hg
    · exact .inr h
  · rintro (h | h)
    · exact .inl (.inl h)
    · exact .inr h

end Store

end RoleGrants
