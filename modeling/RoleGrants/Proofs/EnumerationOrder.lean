import RoleGrants.Proofs.ApplicableSnapshot

/-!
# The order in which entries are gone through

The entries of a snapshot are a set, and so are the roles that it keeps for a creator. Whoever goes
through them does so in some order, and the writing stops at the first entry that cannot be granted,
so that which entry this is, and how many rows each write adds, depends on the order. What comes of
the application does not (`enumeration_order_irrelevant`).

Whether it goes through is told by `applySnapshot_ok_iff`, which asks every entry of the plan and
the number of its writes, and both are the same for a plan in another order. What it has written is
told by `Store.insertGrants_eq`: the rows of the triples that are new, and which triples are new
is a matter of the set (`Store.newGrants_perm`). So the two stores differ at most in the order of
the rows of grants (`Store.Reordered`). An application that does not go through leaves what was
committed, whatever it has written before.
-/

open RoleGrants.Action

namespace RoleGrants

/-! ### Snapshots and stores up to order -/

/-- **The same snapshot in another order:** of its entries and of the roles of the creator. -/
structure Snapshot.Reordered (t t' : Snapshot) : Prop where
  id : t'.id = t.id
  name : t'.name = t.name
  groups : t'.groups.Perm t.groups
  users : t'.users.Perm t.users
  creatorRoles : t'.creatorRoles.Perm t.creatorRoles

/-- **The same store but for the order of the rows of grants.** -/
structure Store.Reordered (s t : Store) : Prop where
  userGrants : t.userGrants.Perm s.userGrants
  groupGrants : t.groupGrants.Perm s.groupGrants
  rest : t = { s with userGrants := t.userGrants, groupGrants := t.groupGrants }

theorem Snapshot.Reordered.symm {t t' : Snapshot} (h : t.Reordered t') : t'.Reordered t :=
  ⟨h.id.symm, h.name.symm, h.groups.symm, h.users.symm, h.creatorRoles.symm⟩

theorem Snapshot.Reordered.plan {t t' : Snapshot} (h : t.Reordered t') (creator : Option String) :
    (t'.plan creator).Perm (t.plan creator) := by
  rw [Snapshot.plan.eq_def, Snapshot.plan.eq_def]
  have hentries : ((t'.groups ++ t'.users).map fun e => (e.principal, e.role)).Perm
      ((t.groups ++ t.users).map fun e => (e.principal, e.role)) :=
    (h.groups.append h.users).map _
  refine hentries.append ?_
  cases creator with
  | none => exact .refl _
  | some user => exact h.creatorRoles.map _

namespace Store

/-- The same triples are held whatever the order of the rows. -/
theorem Reordered.grants_perm {s t : Store} (h : s.Reordered t) : t.grants.Perm s.grants :=
  (h.userGrants.map _).append (h.groupGrants.map _)

/-! ### The rows that are written -/

/-- Which triples of a list are new does not depend on its order. -/
theorem newGrants_perm (s : Store) {gs gs' : List Grant} (h : gs'.Perm gs) :
    (s.newGrants gs').Perm (s.newGrants gs) := by
  refine (List.perm_ext_iff_of_nodup (s.nodup_newGrants gs') (s.nodup_newGrants gs)).2 ?_
  intro g
  rw [mem_newGrants, mem_newGrants, h.mem_iff]

/-- **What storing several triples comes to:** the rows of those that are new, behind the others. -/
theorem insertGrants_eq (s : Store) (gs : List Grant) :
    s.insertGrants gs = { s with
      userGrants := s.userGrants ++ (s.newGrants gs).flatMap Grant.userRows
      groupGrants := s.groupGrants ++ (s.newGrants gs).flatMap Grant.groupRows } := by
  induction gs generalizing s with
  | nil => simp [insertGrants, newGrants, distinct, distinctBy]
  | cons g gs ih =>
    have hrest : s.insertGrants (g :: gs) = (s.insertGrant g).insertGrants gs := rfl
    rw [hrest, ih, newGrants_cons]
    by_cases hg : g ∈ s.grants
    · rw [if_pos hg, insertGrant_of_mem hg, List.nil_append]
    · -- the rows of the first triple stand before those of the others
      have hfirst : s.insertGrant g = { s with
          userGrants := s.userGrants ++ g.userRows
          groupGrants := s.groupGrants ++ g.groupRows } := by
        rw [insertGrant, if_neg hg, if_neg hg]
      simp only [hfirst, if_neg hg, List.singleton_append, List.flatMap_cons, List.append_assoc]

theorem reordered_withPlan (s : Store) {plan plan' : List (Principal × Option String)}
    (h : plan'.Perm plan) (project : String) (reading : Nat) :
    (s.withPlan plan project reading).Reordered (s.withPlan plan' project reading) := by
  have hnew := s.newGrants_perm (h.filterMap (plannedGrant? (.project (some project))))
  rw [withPlan, withPlan, insertGrants_eq, insertGrants_eq]
  refine ⟨?_, ?_, rfl⟩
  · exact (hnew.flatMap_right Grant.userRows).append_left s.userGrants
  · exact (hnew.flatMap_right Grant.groupRows).append_left s.groupGrants

end Store

/-! ### Applications -/

/-- An application goes through in one order when it does in another. -/
theorem applySnapshot_ok_of_reordered {t t' : Snapshot} (h : t.Reordered t') {faults : Faults}
    {project creator : Option String} {s : Session}
    (hok : ∃ a u, applySnapshot faults t' project creator s = .ok a u) :
    ∃ a u, applySnapshot faults t project creator s = .ok a u := by
  obtain ⟨id, hid, hthere, hspare, hplan⟩ := applySnapshot_ok_iff.1 hok
  have hperm := h.plan creator
  -- as many writes are made, and the same entries are asked
  refine applySnapshot_ok_iff.2 ⟨id, hid, hthere, hperm.length_eq ▸ hspare, ?_⟩
  intro w hw
  exact hplan w (hperm.mem_iff.2 hw)

/-- **The order in which the entries are gone through does not matter.** Whatever strikes from
outside, an application goes through in one order exactly when it does in another. If it goes
through, all that is seen, committed, marked and reported is the same, but for the order of the
rows of grants; the report counts the rows written. If it does not, the same rows are seen and the
same are committed. And where nothing strikes and the project is there, it goes through exactly
when each entry can be stored on its own, and each role of the creator as well, if there is one. -/
theorem enumeration_order_irrelevant {t t' : Snapshot} (h : t.Reordered t') (faults : Faults)
    (project creator : Option String) (s : Session) :
    ((∃ a u, applySnapshot faults t project creator s = .ok a u) ↔
      ∃ a u, applySnapshot faults t' project creator s = .ok a u) ∧
    (∀ a u a' u', applySnapshot faults t project creator s = .ok a u →
      applySnapshot faults t' project creator s = .ok a' u' →
        u.working.Reordered u'.working ∧ u.committed.Reordered u'.committed ∧
          u'.clock = u.clock ∧ u'.log = u.log) ∧
    (∀ e u e' u', applySnapshot faults t project creator s = .error e u →
      applySnapshot faults t' project creator s = .error e' u' →
        u'.working = u.working ∧ u'.committed = u.committed) ∧
    (s.Reachable → ∀ p, s.working.project? project = some p →
      ((∃ a u, applySnapshot .none t project creator s = .ok a u) ↔
        (∀ e, e ∈ t.groups ∨ e ∈ t.users → s.working.Storable (e.principal, e.role)) ∧
          ∀ user, creator = some user → ∀ role, (role, true) ∈ t.characteristics →
            Text.isBlank role = false ∧ s.working.hasUser user = true)) := by
  refine ⟨⟨applySnapshot_ok_of_reordered h.symm, applySnapshot_ok_of_reordered h⟩, ?_, ?_, ?_⟩
  · intro a u a' u' hok hok'
    obtain ⟨-, p, hp, rfl⟩ := applySnapshot_eq_ok hok
    obtain ⟨-, p', hp', rfl⟩ := applySnapshot_eq_ok hok'
    obtain rfl : p = p' := Option.some.inj (hp.symm.trans hp')
    have hperm := h.plan creator
    have hrows := s.working.reordered_withPlan hperm p.id (s.clock + 1)
    have hcount := (s.working.newGrants_perm
      (hperm.filterMap (plannedGrant? (.project (some p.id))))).length_eq
    refine ⟨hrows, hrows, rfl, ?_⟩
    simp only [plannedGrants, h.id, hcount]
  · intro e u e' u' herror herror'
    rcases applySnapshot_eq_error herror with ⟨hnone, -, rfl⟩ | ⟨p, -, hp, -, -, hback⟩
    · rcases applySnapshot_eq_error herror' with ⟨-, -, rfl⟩ | ⟨p, -, hp, -⟩
      · exact ⟨rfl, rfl⟩
      · cases hnone.symm.trans hp
    · rcases applySnapshot_eq_error herror' with ⟨hnone, -⟩ | ⟨-, -, -, -, -, hback'⟩
      · cases hnone.symm.trans hp
      · -- both have been rolled back to what was committed
        exact ⟨hback'.1.trans hback.1.symm, hback'.2.trans hback.2.symm⟩
  · intro hs p hp
    obtain ⟨hmem, rfl⟩ := Store.mem_of_project? hp
    have hproject : s.working.hasProject p.id = true := Store.hasProject_of_mem hmem
    rw [applySnapshot_ok_iff, ← Snapshot.storable_plan_iff]
    constructor
    · rintro ⟨id, hid, -, -, hplan⟩ w hw
      cases hid
      exact (hs.sound.1.canGrant_iff hproject).1 (hplan w hw)
    · intro hstorable
      refine ⟨p.id, rfl, hproject, Faults.spare_none _, fun w hw => ?_⟩
      exact (hs.sound.1.canGrant_iff hproject).2 (hstorable w hw)

/-- The template of the sample with its entries of groups the other way round. -/
def reversedSnapshot : Snapshot := { sampleSnapshot with groups := sampleSnapshot.groups.reverse }

/-- The rows of groups come to stand the other way round, and the same triples are held. The pending
grant is met by an entry of a user and by a role of the creator, and is in no order written
again. -/
theorem sample_reordered :
    ∃ u u', applySnapshot .none sampleSnapshot (some "p") (some "u") Session.sample =
        .ok sampleSnapshot u ∧
      applySnapshot .none reversedSnapshot (some "p") (some "u") Session.sample =
        .ok reversedSnapshot u' ∧
      u.working.groupGrants ≠ u'.working.groupGrants ∧ u'.working.grants.Perm u.working.grants ∧
      u'.log = u.log := by
  have horder : sampleSnapshot.Reordered reversedSnapshot :=
    ⟨rfl, rfl, List.reverse_perm _, .refl _, .refl _⟩
  obtain ⟨u, hu⟩ : ∃ u, applySnapshot .none sampleSnapshot (some "p") (some "u")
      Session.sample = .ok sampleSnapshot u := ⟨_, rfl⟩
  obtain ⟨u', hu'⟩ : ∃ u', applySnapshot .none reversedSnapshot (some "p") (some "u")
      Session.sample = .ok reversedSnapshot u' := ⟨_, rfl⟩
  obtain ⟨hrows, -, -, hlog⟩ :=
    (enumeration_order_irrelevant horder .none (some "p") (some "u") Session.sample).2.1
      _ _ _ _ hu hu'
  refine ⟨u, u', hu, hu', ?_, hrows.grants_perm, hlog⟩
  cases hu
  cases hu'
  decide +kernel

end RoleGrants
