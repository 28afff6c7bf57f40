import RoleGrants.Proofs.Deletion
import RoleGrants.Proofs.FailedCall

/-!
# Whose grants a call is about

Granting to one holder does not touch what another one holds. `GrantCall.IsAbout` says whom a call
is about, once its arguments are looked at: a principal stands for its holder, a value in the place
of a group for the group of its id or for Anyone without one, and a name for what is found under it.
A call that succeeds leaves the triples of all other holders and every group as they were
(`GrantCall.IsAbout.differsFor`).

The direct changes of rows are looked at for Anyone alone. What Anyone holds is changed only where
such a grant is inserted, or where a project is deleted and takes along all grants on it
(`RowChange.sparesAnyone`); in particular no change of a group, of its name or of its members does
so (`RowChange.sameFor_anyone`).
-/

open RoleGrants.Action

namespace RoleGrants

/-! ### Comparing what is held -/

/-- The same triples are held by some holders. -/
def Store.SameFor (who : Holder → Prop) (s t : Store) : Prop :=
  ∀ g : Grant, who g.holder → (g ∈ t.grants ↔ g ∈ s.grants)

/-- Two stores may differ in what one holder has, and not in what others have, nor in the groups. -/
structure Store.DiffersFor (holder : Holder) (s t : Store) : Prop where
  grants : SameFor (· ≠ holder) s t
  groups : t.groups = s.groups

namespace Store

variable {s t : Store}

theorem SameFor.of_grants_eq {who : Holder → Prop} (h : t.grants = s.grants) : SameFor who s t :=
  fun g _ => by rw [h]

theorem differsFor_insertGrant (s : Store) (g : Grant) :
    s.DiffersFor g.holder (s.insertGrant g) where
  grants := by
    intro g' hother
    rw [mem_grants_insertGrant]
    refine or_iff_left ?_
    rintro rfl
    exact hother rfl
  groups := rfl

theorem differsFor_removeGrant (s : Store) {principal : Principal} {holder : Holder}
    (hholder : principal.holder? = some holder) (role project : Option String) :
    s.DiffersFor holder (s.removeGrant (principal.grant? role project)) where
  grants := by
    intro g hother
    rw [mem_grants_removeGrant]
    refine and_iff_left fun hg => hother ?_
    rw [Principal.grant?, hholder] at hg
    obtain ⟨r, -, rfl⟩ := Option.map_eq_some_iff.1 hg.symm
    rfl
  groups := rfl

theorem differsFor_dropGroupGrants (s : Store) (group : Option String) :
    s.DiffersFor (.ofGroup group) (s.dropGroupGrants (·.group == group)) where
  grants := fun _ hother => mem_grants_dropGroupGrants.trans (and_iff_left hother)
  groups := rfl

theorem differsFor_addUserGrant {rowId user project role : Option String}
    (h : s.addUserGrant rowId user project role = .ok t) : ∃ u, s.DiffersFor (.user u) t := by
  obtain ⟨u, r, -, -, -, -, -, rfl⟩ := addUserGrant_eq_ok h
  refine ⟨u, fun g hother => ?_, rfl⟩
  have hnew : (⟨rowId, u, project, r⟩ : UserGrant).grant ≠ g := fun hg => hother (hg ▸ rfl)
  simp [grants, hnew.symm]

theorem differsFor_addGroupGrant {rowId group project role : Option String}
    (h : s.addGroupGrant rowId group project role = .ok t) :
    s.DiffersFor (.ofGroup group) t := by
  obtain ⟨r, -, -, -, -, rfl⟩ := addGroupGrant_eq_ok h
  refine ⟨fun g hother => ?_, rfl⟩
  have hnew : (⟨rowId, group, project, r⟩ : GroupGrant).grant ≠ g := fun hg => hother (hg ▸ rfl)
  simp [grants, hnew.symm]

/-- What one holder has is not what another one has. -/
theorem DiffersFor.sameFor_of_ne {holder other : Holder} (h : s.DiffersFor holder t)
    (hne : other ≠ holder) : s.SameFor (· = other) t :=
  fun g hg => h.grants g (hg ▸ hne)

theorem DiffersFor.mark {holder : Holder} {u : Session} (h : s.DiffersFor holder u.working)
    (scope : Scope) : s.DiffersFor holder (u.mark scope).working := by
  rw [Session.working_mark]
  exact ⟨h.grants, h.groups⟩

end Store

/-! ### Granting and revoking -/

/-- **Whom a call is about.** -/
def GrantCall.IsAbout (s : Store) (holder : Holder) : GrantCall → Prop
  | .grant principal _ _ => principal.holder? = some holder
  | .grantToUser user _ _ _ | .revokeFromUser user _ _ =>
    (Principal.user user).holder? = some holder
  | .grantToGroup group _ _ _ | .revokeFromGroup group _ _ =>
    ∃ id, group.groupId = .ok id ∧ holder = .ofGroup id
  | .grantToNamedGroup organization name _ _ =>
    ∃ found, s.findGroupOrAnyone ⟨none, organization, name⟩ = .ok found ∧
      holder = .ofGroup found.storedId
  | .revokeAllOfGroup group => holder = .ofGroup group
  | .revokeAllOnProject _ | .refresh _ => False

section Grants

variable {s t : Session} {holder : Holder}

/-- A grant that has gone through is one of its principal. -/
theorem differsFor_of_grantable {x : Action Bool} {principal : Principal} {role : Option String}
    {scope : Scope} {fresh : Bool} (marking : Bool)
    (hx : x s = match s.working.grantable principal role scope.projectId with
      | .ok g => .ok (decide (g ∉ s.working.grants))
          (if marking then (s.insertGrant g).mark scope else s.insertGrant g)
      | .error f => .error f s)
    (hholder : principal.holder? = some holder) (hrun : x s = .ok fresh t) :
    s.working.DiffersFor holder t.working := by
  rw [hx] at hrun
  cases hgrantable : s.working.grantable principal role scope.projectId with
  | error f =>
    rw [hgrantable] at hrun
    cases hrun
  | ok g =>
    obtain ⟨⟨holder', r, hholder', -, rfl⟩, -⟩ := Store.grantable_eq_ok.1 hgrantable
    obtain rfl : holder' = holder := Option.some.inj (hholder'.symm.trans hholder)
    rw [hgrantable] at hrun
    have hinsert := s.working.differsFor_insertGrant ⟨holder', scope.projectId, r⟩
    cases marking with
    | true =>
      cases hrun
      exact hinsert.mark (u := s.insertGrant _) scope
    | false =>
      cases hrun
      exact hinsert

theorem differsFor_grantToGroup {group role : Option String} {scope : Scope} {marking fresh : Bool}
    (hrun : grantToGroup group role scope marking s = .ok fresh t) :
    s.working.DiffersFor (.ofGroup group) t.working :=
  differsFor_of_grantable marking (grantToGroup_run group role scope marking s) rfl hrun

/-- A revocation that has gone through is one of its principal. -/
theorem differsFor_of_removeGrant {x : Action Nat} {principal : Principal} {role : Option String}
    {scope : Scope} {n m : Nat}
    (hx : x s = .ok m ((s.removeGrant (principal.grant? role scope.projectId)).mark scope))
    (hholder : principal.holder? = some holder) (hrun : x s = .ok n t) :
    s.working.DiffersFor holder t.working := by
  rw [hx] at hrun
  cases hrun
  exact (s.working.differsFor_removeGrant hholder role scope.projectId).mark
    (u := s.removeGrant _) scope

/-- **A call leaves alone whom it is not about.** -/
theorem GrantCall.IsAbout.differsFor {c : GrantCall} {a : Answer}
    (hc : c.IsAbout s.working holder) (hrun : c.run s = .ok a t) :
    s.working.DiffersFor holder t.working := by
  cases c with
  | grant principal role scope =>
    obtain ⟨fresh, hrun, -⟩ := map_eq_ok.1 hrun
    exact differsFor_of_grantable false (grantTo_run principal role scope s) hc hrun
  | grantToUser user role scope marking =>
    obtain ⟨fresh, hrun, -⟩ := map_eq_ok.1 hrun
    exact differsFor_of_grantable marking (grantToUser_run user role scope marking s) hc hrun
  | grantToGroup group role scope marking =>
    obtain ⟨id, hid, rfl⟩ := hc
    rw [GrantCall.run, hid] at hrun
    obtain ⟨_, u, hu, hrest⟩ := bind_eq_ok.1 hrun
    obtain ⟨-, rfl⟩ := accepted_eq_ok.1 hu
    obtain ⟨fresh, hgrant, -⟩ := map_eq_ok.1 hrest
    exact differsFor_grantToGroup hgrant
  | grantToNamedGroup organization name role scope =>
    obtain ⟨found, hfound, rfl⟩ := hc
    obtain ⟨fresh, hrun, -⟩ := map_eq_ok.1 hrun
    have hrun : (accepted (s.working.findGroupOrAnyone ⟨none, organization, name⟩) >>=
        fun group => RoleGrants.grantToGroup group.storedId role scope true) s = .ok fresh t := hrun
    rw [hfound] at hrun
    exact differsFor_grantToGroup hrun
  | revokeFromUser user role scope =>
    obtain ⟨n, hrun, -⟩ := map_eq_ok.1 hrun
    exact differsFor_of_removeGrant (revokeFromUser_run user role scope s) hc hrun
  | revokeFromGroup group role scope =>
    obtain ⟨id, hid, rfl⟩ := hc
    rw [GrantCall.run, hid] at hrun
    obtain ⟨n, hrun, -⟩ := map_eq_ok.1 hrun
    exact differsFor_of_removeGrant (revokeFromGroup_run id role scope s) rfl hrun
  | revokeAllOfGroup group =>
    obtain rfl : holder = .ofGroup group := hc
    obtain ⟨n, hrun, -⟩ := map_eq_ok.1 hrun
    rw [revokeAllOfGroup_run] at hrun
    cases hrun
    exact s.working.differsFor_dropGroupGrants group
  | revokeAllOnProject project => exact hc.elim
  | refresh scope => exact hc.elim

end Grants

/-! ### Changing rows -/

/-- A deletion of anything but a project leaves what Anyone holds: no row of Anyone's refers to a
user or to a group. -/
theorem Store.sameFor_deleteRow (s : Store) {kind : RowKind} (hkind : kind ≠ .project)
    (id : String) : s.SameFor (· = .anyone) (s.deleteRow kind id) := by
  intro g hg
  rw [deleteRow_eq_without]
  refine ⟨mem_grants_of_without, fun hmem => ?_⟩
  rcases mem_grants.1 hmem with ⟨r, hr, rfl⟩ | ⟨r, hr, rfl⟩
  · cases hg
  · have hgroup : r.group = none := Holder.ofGroup_inj.1 hg
    refine mem_grants.2 (.inr ⟨r, List.mem_filter.2 ⟨hr, ?_⟩, rfl⟩)
    have hproject : ∀ p, s.goesWith kind id ⟨.project, p⟩ = false := by
      intro p
      cases kind <;> first | exact absurd rfl hkind | rfl
    simp [hgroup, hproject]

/-- Whether a change of rows is none of Anyone's grants: all but the insertion of one, and the
deletion of a project, with which go all grants on it. -/
def RowChange.sparesAnyone : RowChange → Bool
  | .insert (.groupGrant _ none _ _) | .delete .project _ => false
  | _ => true

theorem RowChange.Makes.sameFor_anyone {c : RowChange} {d : Change} {s t : Store}
    (hc : c.sparesAnyone = true) (hmakes : c.Makes d) (hrun : d.run s = .ok t) :
    s.SameFor (· = .anyone) t := by
  by_cases hkeeps : c.leavesGrants = true
  · exact .of_grants_eq ((hmakes.keepsGrants hkeeps).grants_eq hrun)
  · cases c with
    | delete kind id =>
      obtain ⟨i, -, rfl⟩ := hmakes
      cases hrun
      refine s.sameFor_deleteRow ?_ i
      rintro rfl
      cases hc
    | insert draft =>
      obtain rfl : d = .insert draft := hmakes
      cases draft with
      | userGrant rowId user project role =>
        obtain ⟨u, hdiffers⟩ := Store.differsFor_addUserGrant hrun
        exact hdiffers.sameFor_of_ne (fun h => nomatch h)
      | groupGrant rowId group project role =>
        have hdiffers := Store.differsFor_addGroupGrant hrun
        cases group with
        | none => cases hc
        | some id => exact hdiffers.sameFor_of_ne (fun h => nomatch h)
      | _ => exact absurd rfl hkeeps
    | _ => exact absurd rfl hkeeps

/-- **Changing rows leaves what Anyone holds,** unless it is about a grant of Anyone's. -/
theorem RowChange.sameFor_anyone {c : RowChange} (hc : c.sparesAnyone = true) {s t : Session}
    {b : Bool} (hrun : c.run s = .ok b t) : s.working.SameFor (· = .anyone) t.working := by
  have hmoves := c.run_moves s
  rw [MovesBy, after, hrun] at hmoves
  refine hmoves.working_invariant ?_ ?_ fun _ _ => .rfl
  · rintro (h | ⟨_, -, h⟩) <;> cases h
  · rintro d r r' (h | ⟨_, hmakes, h⟩) hr hsame g hg
    · cases h
    · cases h
      exact (hmakes.sameFor_anyone hc hr g hg).trans (hsame g hg)

/-- A grant of Anyone's that is inserted is one of Anyone's. -/
theorem differsFor_insert_anyone {rowId project role : Option String} {s t : Session} {b : Bool}
    (hrun : (RowChange.insert (.groupGrant rowId none project role)).run s = .ok b t) :
    s.working.DiffersFor .anyone t.working := by
  obtain ⟨_, u, hwrite, hrest⟩ := bind_eq_ok.1 hrun
  obtain ⟨store, hstore, rfl⟩ := writing_eq_ok.1 hwrite
  cases hrest
  exact Store.differsFor_addGroupGrant hstore

end RoleGrants
