import RoleGrants.Proofs.GlobalHolders

/-!
# Revoking in bulk

All grants of a group, or all grants on a project, can be taken away in three ways: by one call, by
a call for each of them, and by deleting the group or the project, whose grants go with it. The
three go by different columns of different tables. `bulk_revocations_agree` says that they leave the
same rows, and that the one call answers with the sum of what the many answer.

What each of them comes to is said on the rows, by the triples that the rows stand for: a store
sheds the triples that are picked (`Store.Sheds`), and this settles its rows of grants. For the
calls one after another it is an induction along the order in which they come
(`Session.revoke_each`). A call counts the rows that are still there, so the order does not matter,
and a triple that is revoked once more counts none.
-/

open RoleGrants.Action

namespace RoleGrants

/-! ### Rows of grants -/

/-- What stands for the group of a row is a group exactly when the row has that group. -/
theorem Holder.ofGroup_eq_group_iff {group : Option String} {id : String} :
    Holder.ofGroup group = .group id ↔ group = some id :=
  @Holder.ofGroup_inj group (some id)

namespace Store

/-- The same rows of grants are in two stores, in the same order. -/
def SameGrantRows (s t : Store) : Prop :=
  t.userGrants = s.userGrants ∧ t.groupGrants = s.groupGrants

/-- **A store has shed the triples that are picked:** their rows are gone from both tables, and all
other rows of grants are as they were. -/
structure Sheds (s : Store) (picked : Grant → Bool) (t : Store) : Prop where
  userGrants : t.userGrants = s.userGrants.filter fun r => !picked r.grant
  groupGrants : t.groupGrants = s.groupGrants.filter fun r => !picked r.grant

variable {s t u : Store} {picked picked' : Grant → Bool}

namespace Sheds

theorem grants (h : s.Sheds picked t) : t.grants = s.grants.filter fun g => !picked g := by
  simp only [Store.grants, h.userGrants, h.groupGrants, List.filter_append, List.filter_map]
  rfl

theorem mem_grants_iff (h : s.Sheds picked t) {g : Grant} :
    g ∈ t.grants ↔ g ∈ s.grants ∧ picked g = false := by
  rw [h.grants, List.mem_filter, Bool.not_eq_true']

theorem mem_userGrants (h : s.Sheds picked t) {r : UserGrant} (hr : r ∈ s.userGrants)
    (hkept : picked r.grant = false) : r ∈ t.userGrants := by
  rw [h.userGrants]
  exact List.mem_filter.2 ⟨hr, congrArg not hkept⟩

theorem mem_groupGrants (h : s.Sheds picked t) {r : GroupGrant} (hr : r ∈ s.groupGrants)
    (hkept : picked r.grant = false) : r ∈ t.groupGrants := by
  rw [h.groupGrants]
  exact List.mem_filter.2 ⟨hr, congrArg not hkept⟩

/-- What is shed settles the rows that are left. -/
theorem sameGrantRows (ht : s.Sheds picked t) (hu : s.Sheds picked u) : t.SameGrantRows u :=
  ⟨hu.userGrants.trans ht.userGrants.symm, hu.groupGrants.trans ht.groupGrants.symm⟩

/-- Only triples that are held are shed. -/
theorem congr (h : s.Sheds picked t) (hsame : ∀ g ∈ s.grants, picked g = picked' g) :
    s.Sheds picked' t where
  userGrants := by
    rw [h.userGrants]
    refine List.filter_congr fun r hr => ?_
    rw [hsame r.grant (mem_grants.2 (.inl ⟨r, hr, rfl⟩))]
  groupGrants := by
    rw [h.groupGrants]
    refine List.filter_congr fun r hr => ?_
    rw [hsame r.grant (mem_grants.2 (.inr ⟨r, hr, rfl⟩))]

theorem trans (h : s.Sheds picked t) (h' : t.Sheds picked' u) :
    s.Sheds (fun g => picked g || picked' g) u where
  userGrants := by
    rw [h'.userGrants, h.userGrants, List.filter_filter]
    simp only [Bool.not_or, Bool.and_comm]
  groupGrants := by
    rw [h'.groupGrants, h.groupGrants, List.filter_filter]
    simp only [Bool.not_or, Bool.and_comm]

theorem mark {v : Session} (h : s.Sheds picked v.working) (scope : Scope) :
    s.Sheds picked (v.mark scope).working := by
  rw [v.working_mark]
  exact ⟨h.userGrants, h.groupGrants⟩

end Sheds

theorem sheds_removeGrant (s : Store) (g : Grant) :
    s.Sheds (fun g' => decide (g' = g)) (s.removeGrant (some g)) where
  userGrants := by simp only [removeGrant, Option.some.injEq]
  groupGrants := by simp only [removeGrant, Option.some.injEq]

theorem sheds_dropGroupGrants (s : Store) (id : String) :
    s.Sheds (fun g => decide (g.holder = .group id)) (s.dropGroupGrants (·.group == some id)) where
  userGrants := by
    -- no row of a user holds for a group
    refine (List.filter_eq_self.2 fun r _ => ?_).symm
    have hother : r.grant.holder ≠ .group id := fun h => nomatch h
    rw [decide_eq_false hother, Bool.not_false]
  groupGrants := by
    refine List.filter_congr fun r _ => ?_
    have hholder : r.grant.holder = .group id ↔ r.group = some id := Holder.ofGroup_eq_group_iff
    simp only [hholder, beq_eq_decide]

/-- The cascade of a group takes its grants, and those of no other holder. -/
theorem sheds_deleteGroup (s : Store) (id : String) :
    s.Sheds (fun g => decide (g.holder = .group id)) (s.deleteRow .group id) where
  userGrants := (s.sheds_dropGroupGrants id).userGrants
  groupGrants := by
    rw [← (s.sheds_dropGroupGrants id).groupGrants]
    simp only [deleteRow, deleteGroup, removeGroups, dropGroupGrants, any_beq_eq]

theorem sheds_dropGrantsOn (s : Store) (project : String) :
    s.Sheds (fun g => decide (g.project = some project)) (s.dropGrantsOn (some project)) where
  userGrants := List.filter_congr fun r _ => congrArg not (beq_eq_decide r.project (some project))
  groupGrants := List.filter_congr fun r _ => congrArg not (beq_eq_decide r.project (some project))

/-- The cascade of a project takes the grants on it, whoever holds them. -/
theorem sheds_deleteProject (s : Store) (project : String) :
    s.Sheds (fun g => decide (g.project = some project)) (s.deleteRow .project project) where
  userGrants := (s.sheds_dropGrantsOn project).userGrants
  groupGrants := (s.sheds_dropGrantsOn project).groupGrants

/-! ### Counting rows -/

/-- The rows that are counted for a group are those of its triples. -/
theorem countP_groupGrants_eq (s : Store) (id : String) :
    s.groupGrants.countP (·.group == some id) =
      s.grants.countP fun g => decide (g.holder = .group id) := by
  have husers : (s.userGrants.map UserGrant.grant).countP
      (fun g => decide (g.holder = .group id)) = 0 := by
    refine List.countP_eq_zero.2 fun g hg hpicked => ?_
    obtain ⟨r, -, rfl⟩ := List.mem_map.1 hg
    exact absurd (of_decide_eq_true hpicked) fun h => nomatch h
  have hgroups : (s.groupGrants.map GroupGrant.grant).countP
      (fun g => decide (g.holder = .group id)) = s.groupGrants.countP (·.group == some id) := by
    rw [List.countP_map]
    refine List.countP_congr fun r _ => ?_
    have hholder : r.grant.holder = .group id ↔ r.group = some id := Holder.ofGroup_eq_group_iff
    rw [Function.comp_apply, decide_eq_true_iff, hholder, beq_iff_eq]
  rw [grants, List.countP_append, husers, hgroups, Nat.zero_add]

/-- The rows that are counted on a project are those of the triples on it. -/
theorem countGrantsOn_eq (s : Store) (project : String) :
    s.countGrantsOn (some project) =
      s.grants.countP fun g => decide (g.project = some project) := by
  rw [grants, List.countP_append, List.countP_map, List.countP_map, countGrantsOn]
  simp only [beq_eq_decide]
  rfl

/-- Nothing is left of what is shed. -/
theorem Sheds.countP_eq_zero (h : s.Sheds picked t) : t.grants.countP picked = 0 := by
  refine List.countP_eq_zero.2 fun g hg hpicked => ?_
  have hkept := (h.mem_grants_iff.1 hg).2
  rw [hpicked] at hkept
  cases hkept

end Store

/-! ### Revoking one by one -/

/-- What stands for one of several values stands for the first of them, or is left when that one is
gone and stands for another. -/
theorem countP_mem_cons {α : Type} [DecidableEq α] (a : α) (as xs : List α) :
    xs.countP (fun x => decide (x ∈ a :: as)) =
      xs.countP (fun x => decide (x = a)) +
        (xs.filter fun x => !decide (x = a)).countP fun x => decide (x ∈ as) := by
  rw [List.countP_eq_countP_filter_add xs _ fun x => decide (x = a), List.countP_filter,
    List.countP_filter, List.countP_filter]
  congr 1
  · refine List.countP_congr fun x _ => ?_
    by_cases hx : x = a <;> simp [hx]
  · refine List.countP_congr fun x _ => ?_
    by_cases hx : x = a <;> simp [hx]

/-- The scope of a triple. -/
def Grant.scope (g : Grant) : Scope :=
  match g.project with
  | none => .global
  | some project => .project (some project)

/-- Whom a triple is granted to. -/
def Holder.principal : Holder → Principal
  | .user id => .user (some id)
  | .group id => .group (some id)
  | .anyone => .anyone

/-- The call that revokes a triple. -/
def Grant.revocation (g : Grant) : GrantCall :=
  match g.holder with
  | .user id => .revokeFromUser (some id) (some g.role) g.scope
  | .group id => .revokeFromGroup (.group (some id)) (some g.role) g.scope
  | .anyone => .revokeFromGroup .anyone (some g.role) g.scope

namespace Grant

@[simp] theorem projectId_scope (g : Grant) : g.scope.projectId = g.project := by
  unfold scope
  cases g.project <;> rfl

@[simp] theorem grant?_principal (g : Grant) :
    g.holder.principal.grant? (some g.role) g.project = some g := by
  obtain ⟨holder, project, role⟩ := g
  cases holder <;> rfl

theorem removes_revocation (g : Grant) :
    g.revocation.Removes g.holder.principal g.role g.scope := by
  unfold revocation
  cases g.holder with
  | user id => exact .user
  | group id => exact .group
  | anyone => exact .anyone

end Grant

/-- The calls that revoke triples one after another. -/
def revocations (order : List Grant) : List Call :=
  order.map fun g => .grants g.revocation

namespace Session

/-- A triple is revoked whether or not it is held, and the rows that it had are counted. -/
theorem serve_revocation (s : Session) (g : Grant) :
    s.serve (.grants g.revocation) =
      (.ok (.count (s.working.countGrant (some g))), (s.removeGrant (some g)).mark g.scope) := by
  rw [serve_grants, g.removes_revocation.run s, Grant.projectId_scope, Grant.grant?_principal]

/-- The answers to a run of calls. -/
def answersTo : Session → List Call → List (Except Failure Answer)
  | _, [] => []
  | s, c :: calls => (s.serve c).1 :: (s.serve c).2.answersTo calls

/-- **Revoking one by one.** The triples that are named are shed, and the calls together count as
many rows as there are of them. -/
theorem revoke_each (s : Session) (order : List Grant) :
    ∃ counts : List Nat,
      s.answersTo (revocations order) = counts.map (fun n => .ok (.count n)) ∧
      counts.sum = s.working.grants.countP (fun g => decide (g ∈ order)) ∧
      s.working.Sheds (fun g => decide (g ∈ order)) (s.serveAll (revocations order)).working := by
  -- the start is generalised: the induction goes along the triples that are still to be revoked
  induction order generalizing s with
  | nil =>
    refine ⟨[], rfl, ?_, ?_, ?_⟩
    · simp
    · simp [revocations, serveAll]
    · simp [revocations, serveAll]
  | cons g order ih =>
    obtain ⟨counts, hanswers, hsum, hsheds⟩ := ih (s.serve (.grants g.revocation)).2
    rw [serve_revocation] at hanswers hsum hsheds
    have hfirst : s.working.Sheds (fun g' => decide (g' = g))
        ((s.removeGrant (some g)).mark g.scope).working :=
      (s.working.sheds_removeGrant g).mark g.scope
    refine ⟨s.working.countGrant (some g) :: counts, ?_, ?_, ?_⟩
    · rw [List.map_cons, ← hanswers, revocations, List.map_cons, answersTo, serve_revocation]
      rfl
    · rw [List.sum_cons, hsum, hfirst.grants, countP_mem_cons, Store.countGrant]
      simp only [Option.some.injEq]
    · -- what is shed first and what is shed afterwards are together what is named
      have hboth : s.working.Sheds (fun g' => decide (g' ∈ g :: order)) _ :=
        (hfirst.trans hsheds).congr fun g' _ => by simp
      rw [revocations, List.map_cons, serveAll, List.foldl_cons, serve_revocation]
      exact hboth

/-! ### The three ways -/

/-- **Three ways of revoking agree.** One call takes the picked triples away and counts `n` rows.
Naming these triples one by one, in whatever order, leaves the same rows of grants, and the counts
add up to `n`; deleting what they refer to leaves the same rows of grants as well. -/
structure RevokesInBulk (s : Session) (picked : Grant → Bool) (bulk deletion : Call) (n : Nat)
    (t : Session) : Prop where
  served : s.serve bulk = (.ok (.count n), t)
  sheds : s.working.Sheds picked t.working
  one_by_one : ∀ order : List Grant,
    (∀ g, g ∈ order ↔ g ∈ s.working.grants ∧ picked g = true) →
      ∃ counts : List Nat, s.answersTo (revocations order) = counts.map (fun n => .ok (.count n)) ∧
        n = counts.sum ∧ t.working.SameGrantRows (s.serveAll (revocations order)).working
  by_deletion : ∃ u, s.serve deletion = (.ok (.flag true), u) ∧ t.working.SameGrantRows u.working

/-- That three ways agree is settled by what each of them sheds. -/
theorem RevokesInBulk.of_sheds {s t u : Session} {picked : Grant → Bool} {bulk deletion : Call}
    {n : Nat} (hserve : s.serve bulk = (.ok (.count n), t))
    (hn : n = s.working.grants.countP picked) (ht : s.working.Sheds picked t.working)
    (hdelete : s.serve deletion = (.ok (.flag true), u))
    (hu : s.working.Sheds picked u.working) : s.RevokesInBulk picked bulk deletion n t where
  served := hserve
  sheds := ht
  one_by_one := by
    intro order horder
    obtain ⟨counts, hanswers, hsum, hsheds⟩ := s.revoke_each order
    -- among the triples that are held, those that are named are those that are picked
    have hsame : ∀ g ∈ s.working.grants, decide (g ∈ order) = picked g := by
      intro g hg
      rw [Bool.eq_iff_iff, decide_eq_true_iff, horder, and_iff_right hg]
    refine ⟨counts, hanswers, ?_, ht.sameGrantRows (hsheds.congr hsame)⟩
    rw [hn, hsum]
    exact List.countP_congr fun g hg => by rw [hsame g hg]
  by_deletion := ⟨u, hdelete, ht.sameGrantRows hu⟩

/-- A row that is there is deleted. -/
theorem serve_delete_of_hasRow {s : Session} {kind : RowKind} {id : String}
    (hrow : s.working.hasRow kind id = true) :
    s.serve (.change (.delete kind (some id))) = (.ok (.flag true), { s with
      working := s.working.deleteRow kind id, committed := s.working.deleteRow kind id }) := by
  rw [serve_delete, Option.filter_some, if_pos hrow]

theorem serve_revokeAllOnProject (s : Session) (project : Option String) :
    s.serve (.grants (.revokeAllOnProject project)) =
      (.ok (.count (s.working.countGrantsOn project)),
        { s with working := s.working.dropGrantsOn project }.mark (.project project)) := by
  rw [serve_grants, GrantCall.run, map_run, revokeAllOnProject_run]

theorem serve_countGrantsOn (s : Session) (project : Option String) :
    s.serve (.ask (.countGrantsOn project)) =
      (.ok (.count (s.working.countGrantsOn project)), s) := rfl

end Session

/-- **Three ways of revoking in bulk agree.** Revoking all that a stored group holds, revoking each
of these grants in whatever order, and deleting the group leave the same rows of grants, and the one
call answers with the sum of the answers of the many. The same holds for the grants on a stored
project, whoever holds them. That many are counted on the project before, and none afterwards. What
Anyone holds is untouched by the first, and what is held globally or on another project by the
second. -/
theorem bulk_revocations_agree (s : Session) :
    (∀ id, s.working.hasGroup id = true → ∃ n t,
      s.RevokesInBulk (fun g => decide (g.holder = .group id))
        (.grants (.revokeAllOfGroup (some id))) (.change (.delete .group (some id))) n t ∧
      ∀ r ∈ s.working.groupGrants, r.group = none → r ∈ t.working.groupGrants) ∧
    ∀ project, s.working.hasProject project = true → ∃ n t,
      s.RevokesInBulk (fun g => decide (g.project = some project))
        (.grants (.revokeAllOnProject (some project))) (.change (.delete .project (some project)))
        n t ∧
      s.serve (.ask (.countGrantsOn (some project))) = (.ok (.count n), s) ∧
      t.serve (.ask (.countGrantsOn (some project))) = (.ok (.count 0), t) ∧
      (∀ r ∈ s.working.userGrants, r.project ≠ some project → r ∈ t.working.userGrants) ∧
      ∀ r ∈ s.working.groupGrants, r.project ≠ some project → r ∈ t.working.groupGrants := by
  refine ⟨?_, ?_⟩
  · intro id hid
    have hrow : s.working.hasRow .group id = true := hid
    have hsheds := s.working.sheds_dropGroupGrants id
    have hbulk : s.RevokesInBulk (fun g => decide (g.holder = .group id)) _ _ _ _ :=
      .of_sheds (s.serve_revokeAllOfGroup (some id)) (s.working.countP_groupGrants_eq id)
        hsheds (Session.serve_delete_of_hasRow hrow) (s.working.sheds_deleteGroup id)
    refine ⟨_, _, hbulk, fun r hr hanyone => hsheds.mem_groupGrants hr ?_⟩
    rw [GroupGrant.grant, hanyone]
    rfl
  · intro project hproject
    have hrow : s.working.hasRow .project project = true := hproject
    have hsheds := (s.working.sheds_dropGrantsOn project).mark
      (v := { s with working := s.working.dropGrantsOn (some project) }) (.project (some project))
    have hbulk : s.RevokesInBulk (fun g => decide (g.project = some project)) _ _ _ _ :=
      .of_sheds (s.serve_revokeAllOnProject (some project))
        (s.working.countGrantsOn_eq project) hsheds (Session.serve_delete_of_hasRow hrow)
        (s.working.sheds_deleteProject project)
    refine ⟨_, _, hbulk, s.serve_countGrantsOn (some project), ?_, ?_, ?_⟩
    · rw [Session.serve_countGrantsOn, Store.countGrantsOn_eq, hsheds.countP_eq_zero]
    · exact fun r hr hother => hsheds.mem_userGrants hr (decide_eq_false hother)
    · exact fun r hr hother => hsheds.mem_groupGrants hr (decide_eq_false hother)

/-- Calls that grant a role to the group of the sample globally and on a project, and to Anyone
there. -/
def grantedTwiceCalls : List Call := sampleCalls ++ [
  .grants (.grantToGroup (.group (some "g")) (some "scan") .global true),
  .grants (.grantToGroup (.group (some "g")) (some "scan") (.project (some "p")) true),
  .grants (.grantToGroup .anyone (some "scan") (.project (some "p")) true)]

/-- The two grants of the group are revoked at once, or the later one first, or with the group. On
the project three grants are revoked, of a user, of the group and of Anyone. -/
theorem sample_revoked_in_bulk :
    ∃ s t u : Session, s = Session.serveAll {} grantedTwiceCalls ∧
      s.serve (.grants (.revokeAllOfGroup (some "g"))) = (.ok (.count 2), t) ∧
      (∃ counts : List Nat, counts.sum = 2 ∧
        s.answersTo (revocations
          [⟨.group "g", some "p", "scan"⟩, ⟨.group "g", none, "scan"⟩]) =
            counts.map fun n => .ok (.count n)) ∧
      ⟨none, none, some "p", "scan"⟩ ∈ t.working.groupGrants ∧
      s.serve (.grants (.revokeAllOnProject (some "p"))) = (.ok (.count 3), u) ∧
      u.serve (.ask (.countGrantsOn (some "p"))) = (.ok (.count 0), u) := by
  let s : Session := .serveAll {} grantedTwiceCalls
  have hgrants : s.working.grants = [⟨.user "u", some "p", "admin"⟩, ⟨.group "g", none, "scan"⟩,
      ⟨.group "g", some "p", "scan"⟩, ⟨.anyone, some "p", "scan"⟩] := by
    decide +kernel
  have htwo : (s.serve (.grants (.revokeAllOfGroup (some "g")))).1 = .ok (.count 2) := by
    decide +kernel
  have hthree : (s.serve (.grants (.revokeAllOnProject (some "p")))).1 = .ok (.count 3) := by
    decide +kernel
  obtain ⟨n, t, hgroup, hanyone⟩ :=
    (bulk_revocations_agree s).1 "g" (by decide +kernel)
  obtain ⟨m, u, hproject, -, hnone, -⟩ :=
    (bulk_revocations_agree s).2 "p" (by decide +kernel)
  rw [hgroup.served] at htwo
  cases htwo
  rw [hproject.served] at hthree
  cases hthree
  obtain ⟨counts, hanswers, hsum, -⟩ := hgroup.one_by_one
    [⟨.group "g", some "p", "scan"⟩, ⟨.group "g", none, "scan"⟩] (by
      intro g
      rw [hgrants]
      constructor
      · intro hg
        simp only [List.mem_cons, List.not_mem_nil, or_false] at hg
        rcases hg with rfl | rfl <;> simp
      · rintro ⟨hg, hholder⟩
        simp only [List.mem_cons, List.not_mem_nil, or_false] at hg
        rcases hg with rfl | rfl | rfl | rfl <;> simp at hholder ⊢)
  refine ⟨s, t, u, rfl, hgroup.served, ⟨counts, hsum.symm, hanswers⟩, ?_, hproject.served, hnone⟩
  exact hanyone _ (by decide +kernel) rfl

end RoleGrants
