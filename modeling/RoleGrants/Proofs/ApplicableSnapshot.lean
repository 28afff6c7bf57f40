import RoleGrants.Proofs.AppliedGrants

/-!
# When a snapshot can be applied

An application goes through when its project is there, nothing strikes from outside, and each entry
of the plan can be granted (`applySnapshot_ok_iff`). Nothing else decides, and in particular neither
the order of the entries nor what is written for the others.

In a session whose grants refer to stored rows the third condition is one on the rows alone.
`Store.Storable` says it for an entry on its own, and `Snapshot.storable_plan_iff` for a snapshot
and a creator.
-/

open RoleGrants.Action

namespace RoleGrants

/-! ### Without order -/

/-- Nothing strikes an application of `n` writes from outside. -/
structure Faults.Spare (faults : Faults) (n : Nat) : Prop where
  atWrite : ∀ i < n, faults.atWrite i = Option.none
  atRefresh : faults.atRefresh = Option.none
  atCommit : faults.atCommit = Option.none

theorem Faults.spare_none (n : Nat) : Faults.none.Spare n := ⟨fun _ _ => rfl, rfl, rfl⟩

/-- An attempt goes through when it is spared and each entry of the plan can be granted. -/
theorem carryOut_ok_iff {faults : Faults} {plan : List (Principal × Option String)}
    {project : String} {s : Session} :
    (∃ n u, carryOut faults plan project s = .ok n u) ↔
      faults.Spare plan.length ∧ ∀ w ∈ plan, s.working.CanGrant (.project (some project)) w := by
  rw [carryOut_run]
  constructor
  · rintro ⟨n, u, h⟩
    cases hwrites : writeGrants faults (.project (some project)) 0 plan s with
    | error f t => rw [hwrites] at h; cases h
    | ok m t =>
      obtain ⟨hatWrite, hplan⟩ := canGrant_of_writeGrants hwrites
      simp only [Nat.zero_add] at hatWrite
      cases hatRefresh : faults.atRefresh with
      | some f => simp only [hwrites, hatRefresh] at h; cases h
      | none =>
        cases hatCommit : faults.atCommit with
        | some f => simp only [hwrites, hatRefresh, hatCommit] at h; cases h
        | none => exact ⟨⟨hatWrite, hatRefresh, hatCommit⟩, hplan⟩
  · rintro ⟨⟨hatWrite, hatRefresh, hatCommit⟩, hplan⟩
    have hspared : ∀ i < plan.length, faults.atWrite (0 + i) = none := by
      intro i hi
      rw [Nat.zero_add]
      exact hatWrite i hi
    rw [writeGrants_of_canGrant hspared hplan, hatRefresh, hatCommit]
    exact ⟨_, _, rfl⟩

/-- **When an application goes through.** -/
theorem applySnapshot_ok_iff {faults : Faults} {t : Snapshot} {project creator : Option String}
    {s : Session} :
    (∃ t' u, applySnapshot faults t project creator s = .ok t' u) ↔
      ∃ id, project = some id ∧ s.working.hasProject id = true ∧
        faults.Spare (t.plan creator).length ∧
        ∀ w ∈ t.plan creator, s.working.CanGrant (.project (some id)) w := by
  rw [applySnapshot_run]
  constructor
  · rintro ⟨t', u, h⟩
    cases hp : s.working.project? project with
    | none => rw [hp] at h; cases h
    | some p =>
      simp only [hp] at h
      cases hcarry : carryOut faults (t.plan creator) p.id s with
      | error f v => rw [hcarry] at h; cases h
      | ok n v =>
        obtain ⟨hmem, rfl⟩ := Store.mem_of_project? hp
        exact ⟨p.id, rfl, Store.hasProject_of_mem hmem, carryOut_ok_iff.1 ⟨n, v, hcarry⟩⟩
  · rintro ⟨id, rfl, hid, hspare⟩
    obtain ⟨p, hp⟩ := Store.exists_project?_iff.2 ⟨id, rfl, hid⟩
    obtain ⟨-, hpid⟩ := Store.mem_of_project? hp
    cases hpid
    obtain ⟨n, u, hcarry⟩ := carryOut_ok_iff.2 hspare
    simp only [hp, hcarry]
    exact ⟨_, _, rfl⟩

/-! ### Entry by entry -/

/-- **A role of a principal can be stored on its own.** The role is not blank, and the principal is
Anyone, or a user or a group that is stored. A group without an id counts as Anyone. -/
def Store.Storable (s : Store) (w : Principal × Option String) : Prop :=
  (∃ role, w.2 = some role ∧ Text.isBlank role = false) ∧
    match w.1 with
    | .user id => ∃ user, id = some user ∧ s.hasUser user = true
    | .group id => ∀ group, id = some group → s.hasGroup group = true
    | .anyone => True
    | .unsupported _ => False

/-- Where what is held refers to stored rows, an entry can be granted when it can be stored. -/
theorem Store.Sound.canGrant_iff {s : Store} (hs : s.Sound) {project : String}
    (hproject : s.hasProject project = true) {w : Principal × Option String} :
    s.CanGrant (.project (some project)) w ↔ s.Storable w := by
  obtain ⟨principal, role⟩ := w
  -- a triple that is held already would refer to stored rows as well
  have hgrantable : s.CanGrant (.project (some project)) (principal, role) ↔
      ∃ holder r, principal.holder? = some holder ∧ (role = some r ∧ Text.isBlank r = false) ∧
        s.knows ⟨holder, some project, r⟩ = true := by
    constructor
    · rintro ⟨g, hg⟩
      obtain ⟨⟨holder, r, hholder, hrole, rfl⟩, hadmits⟩ := grantable_eq_ok.1 hg
      exact ⟨holder, r, hholder, roleOf_eq_ok.1 hrole, hadmits.elim hs.knows_of_mem_grants id⟩
    · rintro ⟨holder, r, hholder, hrole, hknows⟩
      exact ⟨_, grantable_eq_ok.2 ⟨⟨holder, r, hholder, roleOf_eq_ok.2 hrole, rfl⟩, .inr hknows⟩⟩
  rw [hgrantable, Storable]
  cases principal with
  | user id => cases id <;> simp [Principal.holder?, hproject]
  | group id => cases id <;> simp [Principal.holder?, Holder.ofGroup, knows, hproject]
  | anyone => simp [Principal.holder?, knows, hproject]
  | unsupported value => simp [Principal.holder?]

/-- Every entry of a plan can be stored when every entry of the snapshot can, and every role of the
creator as well, if there is a creator. -/
theorem Snapshot.storable_plan_iff {t : Snapshot} {s : Store} {creator : Option String} :
    (∀ w ∈ t.plan creator, s.Storable w) ↔
      (∀ e, e ∈ t.groups ∨ e ∈ t.users → s.Storable (e.principal, e.role)) ∧
        ∀ user, creator = some user → ∀ role, (role, true) ∈ t.characteristics →
          Text.isBlank role = false ∧ s.hasUser user = true := by
  constructor
  · intro h
    refine ⟨fun e he => h _ (mem_plan.2 (.inl ⟨e, he, rfl⟩)), fun user huser role hrole => ?_⟩
    obtain ⟨⟨r, hr, hblank⟩, u, hu, hknown⟩ :=
      h _ (mem_plan.2 (.inr ⟨user, role, huser, hrole, rfl⟩))
    cases hr
    cases hu
    exact ⟨hblank, hknown⟩
  · rintro ⟨hentries, hcreator⟩ w hw
    rcases mem_plan.1 hw with ⟨e, he, rfl⟩ | ⟨user, role, huser, hrole, rfl⟩
    · exact hentries e he
    · obtain ⟨hblank, hknown⟩ := hcreator user huser role hrole
      exact ⟨⟨role, rfl, hblank⟩, user, rfl, hknown⟩

end RoleGrants
