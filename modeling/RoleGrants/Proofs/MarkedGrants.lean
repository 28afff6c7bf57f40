import RoleGrants.Proofs.AppliedGrants
import RoleGrants.Proofs.ProjectMark
import RoleGrants.Proofs.RevokedGrant
import RoleGrants.Proofs.WrittenTable

/-!
# The mark of a project tells whether its grants have changed

Whoever remembers what is held on a project can go by its mark: at two moments of a run at which
the mark is the same, the same triples are held there (`mark_determines_grants`). The calls of the
run have to mark what they change (`Call.marks`); granting that leaves the mark to its caller,
revoking all grants of a group, and grants that are inserted or deleted with their rows do not.

That a call is a run of steps that mind the marks is shown for each of them by what is known of it
already. Granting and revoking come to one change of grants on a scope and its mark
(`GrantCall.regrants`), by their closed forms. An application that succeeds is such a step and a
commit, and one that fails has rolled back. All other calls make moves that touch no grants
(`Session.Steps.markSteps`), for which it matters that a new project cannot have grants: whatever
is held is held on a project that is there.
-/

open RoleGrants.Action

namespace RoleGrants

/-! ### Changes that touch no grants -/

/-- Changes that leave the grants and the marks alone. -/
def Change.KeepsGrants : Change → Prop
  | .insert (.userGrant ..) | .insert (.groupGrant ..) | .refresh .. | .dropUserGrants _
  | .dropGroupGrants _ | .delete .. => False
  | _ => True

theorem Change.IsEditing.keepsGrants {c : Change} (h : c.IsEditing) : c.KeepsGrants := by
  cases c with
  | insert draft => cases draft <;> trivial
  | _ => trivial

theorem Change.KeepsGrants.grants_eq {c : Change} {s t : Store} (hc : c.KeepsGrants)
    (hrun : c.run s = .ok t) : t.grants = s.grants := by
  have hspared : ¬ c.Writes .userGrants ∧ ¬ c.Writes .groupGrants := by
    cases c with
    | insert draft => cases draft <;> first | exact hc.elim | exact ⟨nofun, nofun⟩
    | refresh | dropUserGrants | dropGroupGrants | delete => exact hc.elim
    | _ => exact ⟨nofun, nofun⟩
  have husers : t.userGrants = s.userGrants := Change.frame hrun hspared.1
  have hgroups : t.groupGrants = s.groupGrants := Change.frame hrun hspared.2
  rw [Store.grants, Store.grants, husers, hgroups]

/-- A project on which something is held is there. -/
theorem Store.Sound.exists_project? {s : Store} (hs : s.Sound) {g : Grant} (hg : g ∈ s.grants)
    {project : String} (hproject : g.project = some project) :
    ∃ p, s.project? (some project) = some p := by
  have hknows := (Bool.and_eq_true_iff.1 (hs.knows_of_mem_grants hg)).2
  rw [hproject, Option.all_some] at hknows
  exact exists_project?_iff.2 ⟨project, rfl, hknows⟩

/-- A new project has no mark and no grants, and the others are what they were. -/
theorem Store.Sound.evolves_addProject {s t : Store} (hs : s.Sound) {id : String}
    {key organization qualifier : Option String}
    (hadd : s.addProject id key organization qualifier = .ok t) (n m : Nat) : s.Evolves n m t := by
  obtain ⟨k, -, -, -, rfl⟩ := addProject_eq_ok hadd
  intro project mark hmark
  rw [markOf?, project?, List.find?_append] at hmark
  cases hfound : s.projects.find? (some ·.id == some project) with
  | some p =>
    rw [hfound] at hmark
    exact .kept (by rw [markOf?, project?, hfound]; exact hmark) (.refl project s)
  | none =>
    rw [hfound, Option.none_or] at hmark
    obtain ⟨p, hp, rfl⟩ := Option.map_eq_some_iff.1 hmark
    obtain rfl := List.mem_singleton.1 (List.mem_of_find?_eq_some hp)
    refine .created fun g hg hproject => ?_
    obtain ⟨q, hq⟩ := hs.exists_project? hg hproject
    exact absurd (hq.symm.trans hfound) (Option.some_ne_none q)

theorem Change.evolves {c : Change} {s t : Store} (hc : c.KeepsGrants) (hs : s.Sound)
    (hrun : c.run s = .ok t) (n m : Nat) : s.Evolves n m t := by
  by_cases hprojects : c.Writes .projects
  · cases c with
    | addProject id key organization qualifier => exact hs.evolves_addProject hrun n m
    | refresh | delete => exact hc.elim
    | insert draft => cases draft <;> cases hprojects
    | _ => cases hprojects
  · exact .of_eq (Change.frame hrun hprojects) (hc.grants_eq hrun)

namespace Session

theorem Steps.clock_le {allowed : Move → Prop} {s t : Session} (h : Steps allowed s t) :
    s.clock ≤ t.clock := by
  induction h with
  | refl => exact Nat.le_refl _
  | tail _ hmove ih =>
    obtain ⟨m, -, hstep⟩ := hmove
    cases hstep with
    | tick => exact Nat.le_succ_of_le ih
    | _ => exact ih

theorem Steps.sound {allowed : Move → Prop} {s t : Session} (h : Steps allowed s t)
    (hs : s.InBoth Store.Sound) : t.InBoth Store.Sound :=
  h.invariant (fun _ _ _ _ hfits hrun hs => Change.sound hfits hrun hs) hs

/-- A run of moves that touches no grants minds the marks. -/
theorem Steps.markSteps {allowed : Move → Prop} {s t : Session}
    (hallowed : ∀ c, allowed (.change c) → c.KeepsGrants) (hs : s.InBoth Store.Sound)
    (h : Steps allowed s t) : MarkSteps s t := by
  induction h with
  | refl => exact .refl
  | @tail u t hbefore hmove ih =>
    refine ih.tail ?_
    obtain ⟨m, hm, hstep⟩ := hmove
    cases hstep with
    | change hfits hrun =>
      have hsound : u.working.Sound := (Steps.sound hbefore hs).1
      exact .work (Nat.le_refl _) (Change.evolves (hallowed _ hm) hsound hrun _ _) rfl
    | tick => exact .work (Nat.le_succ _) (.of_eq rfl rfl) rfl
    | report => exact .work (Nat.le_refl _) (.of_eq rfl rfl) rfl
    | commit => exact .commit (Nat.le_refl _) rfl rfl
    | rollback => exact .rollback (Nat.le_refl _) rfl rfl

end Session

/-- A report changes neither rows nor marks. -/
theorem Session.Steps.markSteps_of_reports {s t : Session}
    (h : Steps (fun m => ∃ e, m = .report e) s t) : MarkSteps s t := by
  refine Relation.ReflTransGen.mono ?_ _ _ h
  rintro u v ⟨m, ⟨e, rfl⟩, hstep⟩
  cases hstep
  exact .work (Nat.le_refl _) (.of_eq rfl rfl) rfl

/-! ### Actions that mind the marks -/

namespace Action

variable {α β : Type}

/-- From a session, an action is a run of steps that mind the marks. -/
def MindsMarks (x : Action α) (s : Session) : Prop := Session.MarkSteps s (x.after s)

theorem MovesBy.mindsMarks {allowed : Move → Prop} {x : Action α} {s : Session}
    (hallowed : ∀ c, allowed (.change c) → c.KeepsGrants) (hs : s.InBoth Store.Sound)
    (h : MovesBy allowed x s) : MindsMarks x s :=
  Session.Steps.markSteps hallowed hs h

/-- What only reports, or does nothing at all. -/
theorem MindsMarks.of_reports {x : Action α} {s : Session}
    (h : MovesBy (fun m => ∃ e, m = .report e) x s) : MindsMarks x s :=
  Session.Steps.markSteps_of_reports h

theorem MindsMarks.of_error {x : Action α} {s : Session} {f : Failure} (h : x s = .error f s) :
    MindsMarks x s := by
  rw [MindsMarks, after, h]
  exact .refl

theorem MindsMarks.of_ok {x : Action α} {a : α} {s t : Session} (h : x s = .ok a t)
    (hsteps : Session.MarkSteps s t) : MindsMarks x s := by
  rw [MindsMarks, after, h]
  exact hsteps

theorem MindsMarks.bind {x : Action α} {f : α → Action β} {s : Session} (hx : MindsMarks x s)
    (hf : ∀ a t, x s = .ok a t → MindsMarks (f a) t) : MindsMarks (x >>= f) s := by
  rw [MindsMarks, after] at hx ⊢
  rw [bind_run]
  cases h : x s with
  | ok a t =>
    rw [h] at hx
    exact hx.trans (hf a t h)
  | error e t =>
    rw [h] at hx
    exact hx

theorem MindsMarks.map {x : Action α} {s : Session} (f : α → β) (hx : MindsMarks x s) :
    MindsMarks (f <$> x) s :=
  hx.bind fun _ _ _ => .of_ok rfl .refl

end Action

/-! ### Granting and revoking -/

namespace Store

theorem sameOn_removeGrant {s : Store} {g : Option Grant} {project : String}
    (h : ∀ g', g = some g' → g'.project ≠ some project) :
    SameOn project s (s.removeGrant g) := by
  intro g' hg'
  rw [mem_grants_removeGrant]
  refine ⟨fun hmem => ⟨hmem, ?_⟩, fun hmem => hmem.1⟩
  rintro rfl
  exact h g' rfl hg'

theorem sameOn_dropGrantsOn {s : Store} {project : Option String} {other : String}
    (h : some other ≠ project) : SameOn other s (s.dropGrantsOn project) := by
  intro g hg
  have hne : g.project ≠ project := fun hproject => h (hg.symm.trans hproject)
  rw [grants_dropGrantsOn, List.mem_filter, Bool.not_eq_true', beq_eq_false_iff_ne]
  exact (and_iff_left hne).symm

theorem sameOn_insertGrants {s : Store} {gs : List Grant} {project : String}
    (h : ∀ g ∈ gs, g.project ≠ some project) : SameOn project s (s.insertGrants gs) := by
  intro g hg
  rw [(s.grants_insertGrants_perm gs).mem_iff, List.mem_append, mem_newGrants]
  refine ⟨.inl, ?_⟩
  rintro (hmem | ⟨hmem, -⟩)
  · exact hmem
  · exact absurd hg (h g hmem)

theorem sameOn_insertGrant {s : Store} {g : Grant} {project : String}
    (h : g.project ≠ some project) : SameOn project s (s.insertGrant g) := by
  have hone : ∀ g' ∈ [g], g'.project ≠ some project := by simpa using h
  exact sameOn_insertGrants hone

/-- Every project but the marked one keeps its mark, and so it has to keep its grants. -/
theorem evolves_refresh {s t : Store} {project : String} {n : Nat}
    (hprojects : t.projects = s.projects)
    (hsame : ∀ other, other ≠ project → SameOn other s t) :
    Evolves n (n + 1) s (t.refresh project (n + 1)) := by
  intro other mark hmark
  rw [markOf?, project?_refresh, Option.map_map] at hmark
  obtain ⟨p, hp, rfl⟩ := Option.map_eq_some_iff.1 hmark
  obtain ⟨-, hid⟩ := mem_of_project? hp
  have hid : other = p.id := Option.some.inj hid
  by_cases hmarked : p.id = project
  · simp only [Function.comp, if_pos (beq_iff_eq.2 hmarked)]
    exact .marked (Nat.lt_succ_self n) (Nat.le_refl _)
  · simp only [Function.comp, if_neg (mt beq_iff_eq.1 hmarked)]
    rw [project?, hprojects] at hp
    refine .kept ?_ (hsame other (hid ▸ hmarked))
    rw [markOf?, project?, hp]
    rfl

end Store

/-- **Changing grants on a scope and marking it is one step.** -/
theorem Session.markStep_mark {s : Session} {t : Store} (scope : Scope)
    (hprojects : t.projects = s.working.projects)
    (hsame : ∀ project, some project ≠ scope.projectId → Store.SameOn project s.working t) :
    s.MarkStep ({ s with working := t }.mark scope) := by
  unfold Session.mark
  cases hscope : scope.projectId with
  | none =>
    refine .work (Nat.le_refl _) ?_ rfl
    intro project mark hmark
    rw [Store.markOf?, Store.project?, hprojects] at hmark
    have hfree : some project ≠ scope.projectId := hscope ▸ Option.some_ne_none project
    exact .kept hmark (hsame project hfree)
  | some project =>
    refine .work (Nat.le_succ _) (Store.evolves_refresh hprojects fun other hother => ?_) rfl
    exact hsame other (by rw [hscope]; exact fun h => hother (Option.some.inj h))

namespace Action

variable {α β : Type}

/-- **Changing what is held on a scope and marking it.** The action fails with the session as it
was, or it ends with other grants on the scope alone and with the mark that goes with them. -/
inductive Regrants (x : Action α) (s : Session) : Prop where
  | failed {f : Failure} (hrun : x s = .error f s) : Regrants x s
  | marked {a : α} {scope : Scope} {store : Store}
      (hrun : x s = .ok a ({ s with working := store }.mark scope))
      (hprojects : store.projects = s.working.projects)
      (hsame : ∀ project, some project ≠ scope.projectId →
        Store.SameOn project s.working store) : Regrants x s

theorem Regrants.map {x : Action α} {s : Session} (f : α → β) (h : Regrants x s) :
    Regrants (f <$> x) s := by
  cases h with
  | failed hrun => exact .failed (by rw [map_run, hrun])
  | marked hrun hprojects hsame => exact .marked (by rw [map_run, hrun]) hprojects hsame

/-- What comes before and leaves the session as it is may end the action, and changes nothing. -/
theorem Regrants.bind {x : Action α} {f : α → Action β} {s : Session} (hx : x.after s = s)
    (hf : ∀ a, Regrants (f a) s) : Regrants (x >>= f) s := by
  unfold after at hx
  cases h : x s with
  | ok a t =>
    obtain rfl : t = s := by rwa [h] at hx
    have hrest : (x >>= f) t = f a t := by rw [bind_run, h]
    cases hf a with
    | failed hrun => exact .failed (hrest.trans hrun)
    | marked hrun hprojects hsame => exact .marked (hrest.trans hrun) hprojects hsame
  | error e t =>
    obtain rfl : t = s := by rwa [h] at hx
    exact .failed (by rw [bind_run, h])

theorem after_accepted (r : Except Refusal α) (s : Session) : (accepted r).after s = s := by
  cases r <;> rfl

theorem after_usable (r : Except Misuse α) (s : Session) : (usable r).after s = s := by
  cases r <;> rfl

theorem Regrants.mindsMarks {x : Action α} {s : Session} (h : Regrants x s) : MindsMarks x s := by
  cases h with
  | failed hrun => exact .of_error hrun
  | marked hrun hprojects hsame =>
    exact .of_ok hrun (.single (Session.markStep_mark _ hprojects hsame))

end Action

/-- Granting to a user or to a group with the mark left on. -/
theorem regrants_of_grantable {x : Action Bool} {principal : Principal} {role : Option String}
    {scope : Scope} {s : Session}
    (hx : x s = match s.working.grantable principal role scope.projectId with
      | .ok g => .ok (decide (g ∉ s.working.grants)) ((s.insertGrant g).mark scope)
      | .error f => .error f s) : Regrants x s := by
  cases hg : s.working.grantable principal role scope.projectId with
  | ok g =>
    rw [hg] at hx
    obtain ⟨⟨holder, r, -, -, rfl⟩, -⟩ := Store.grantable_eq_ok.1 hg
    refine .marked hx rfl fun project hproject => ?_
    exact Store.sameOn_insertGrant hproject.symm
  | error f =>
    rw [hg] at hx
    exact .failed hx

theorem grantToGroup_regrants (group role : Option String) (scope : Scope) (s : Session) :
    Regrants (grantToGroup group role scope true) s :=
  regrants_of_grantable (grantToGroup_run group role scope true s)

/-- Revoking from a user or from a group. -/
theorem regrants_of_removeGrant {x : Action Nat} {principal : Principal} {role : Option String}
    {scope : Scope} {n : Nat} {s : Session}
    (hx : x s = .ok n ((s.removeGrant (principal.grant? role scope.projectId)).mark scope)) :
    Regrants x s := by
  refine .marked hx rfl fun project hproject => ?_
  refine Store.sameOn_removeGrant fun g hg => ?_
  obtain ⟨holder, -, hg⟩ := Option.bind_eq_some_iff.1 hg
  obtain ⟨r, -, rfl⟩ := Option.map_eq_some_iff.1 hg
  exact hproject.symm

/-- Whether a call marks the project whose grants it changes. -/
def GrantCall.marks : GrantCall → Bool
  | .grant .. | .revokeAllOfGroup _ => false
  | .grantToUser _ _ _ marking | .grantToGroup _ _ _ marking => marking
  | _ => true

/-- **A call that marks** changes grants on one scope and marks it, or fails and changes nothing. -/
theorem GrantCall.regrants {c : GrantCall} (hc : c.marks = true) (s : Session) :
    Regrants c.run s := by
  cases c with
  | grant principal role scope => cases hc
  | revokeAllOfGroup group => cases hc
  | grantToUser user role scope marking =>
    obtain rfl : marking = true := hc
    exact .map _ (regrants_of_grantable (grantToUser_run user role scope true s))
  | grantToGroup group role scope marking =>
    obtain rfl : marking = true := hc
    refine .bind (after_accepted _ s) fun _ => ?_
    refine .bind (after_usable _ s) fun id => ?_
    exact .map _ (grantToGroup_regrants id role scope s)
  | grantToNamedGroup organization name role scope =>
    refine .map _ (.bind rfl fun found => ?_)
    refine .bind (after_accepted _ s) fun group => ?_
    exact grantToGroup_regrants group.storedId role scope s
  | revokeFromUser user role scope =>
    exact .map _ (regrants_of_removeGrant (revokeFromUser_run user role scope s))
  | revokeFromGroup group role scope =>
    refine .bind (after_usable _ s) fun id => ?_
    exact .map _ (regrants_of_removeGrant (revokeFromGroup_run id role scope s))
  | revokeAllOnProject project =>
    refine .map _ (.marked (revokeAllOnProject_run project s) rfl fun other hother => ?_)
    exact Store.sameOn_dropGrantsOn hother
  | refresh scope =>
    exact .map _ (.marked (refreshGrants_run scope s) rfl fun project _ => .refl project s.working)

theorem GrantCall.mindsMarks {c : GrantCall} (hc : c.marks = true) (s : Session) :
    MindsMarks c.run s :=
  (c.regrants hc s).mindsMarks

/-! ### Applying templates -/

/-- An application that succeeds changes grants on its project only, marks it and commits; one that
fails leaves the session as it is, or rolls back. -/
theorem applySnapshot_mindsMarks (faults : Faults) (t : Snapshot) (project creator : Option String)
    (s : Session) : MindsMarks (applySnapshot faults t project creator) s := by
  have hclock := Session.Steps.clock_le (applySnapshot_moves faults t project creator s)
  unfold MindsMarks
  unfold after at hclock ⊢
  cases h : applySnapshot faults t project creator s with
  | ok t' u =>
    obtain ⟨-, p, -, rfl⟩ := applySnapshot_eq_ok h
    have hsame : ∀ other, some other ≠ some p.id → Store.SameOn other s.working
        (s.working.insertGrants (plannedGrants (.project (some p.id)) (t.plan creator))) := by
      intro other hother
      refine Store.sameOn_insertGrants fun g hg hproject => hother ?_
      exact hproject.symm.trans (planned_project hg)
    have hstep := Session.markStep_mark (.project (some p.id))
      (s.working.projects_insertGrants _) hsame
    exact .tail (.single hstep) (.commit (Nat.le_refl _) rfl rfl)
  | error e u =>
    rw [h] at hclock
    rcases applySnapshot_eq_error h with ⟨-, -, rfl⟩ | ⟨_, _, -, -, -, hback⟩
    · exact .refl
    · exact .single (.rollback hclock hback.1 hback.2)

theorem applyTemplate_mindsMarks (faults : Faults) (template project creator : Option String)
    (s : Session) : MindsMarks (applyTemplate faults template project creator) s := by
  refine .bind (.of_reports (resolveTemplate_moves template s)) ?_
  intro t u _
  exact applySnapshot_mindsMarks faults t project creator u

theorem applyDefault_mindsMarks (faults : Faults) (selector : String)
    (project creator : Option String) (s : Session) :
    MindsMarks (applyDefault faults selector project creator) s := by
  refine .bind (.of_reports (resolveDefault_moves (fun e => ⟨e, rfl⟩) _ s)) ?_
  intro found u _
  cases found with
  | none =>
    refine .bind (.of_reports (.report ⟨_, rfl⟩)) ?_
    intro _ v _
    exact .of_reports (.pure none v)
  | some t =>
    refine .bind (applySnapshot_mindsMarks faults t project creator u) ?_
    intro applied v _
    exact .of_reports (.pure (some applied) v)

/-! ### Command lines -/

namespace CommandLine

theorem application_mindsMarks (selector project : String) (template creator : Option String)
    (s : Session) : MindsMarks (application selector project template creator) s := by
  unfold application
  split
  · exact applyDefault_mindsMarks _ _ _ _ s
  · exact applyDefault_mindsMarks _ _ _ _ s
  · exact .map _ (applyTemplate_mindsMarks _ _ _ _ s)

theorem applying_markSteps (selector project : String) (template creator : Option String)
    (s : Session) : Session.MarkSteps s (applying selector project template creator s).2 := by
  have hsteps := application_mindsMarks selector project template creator s
  unfold MindsMarks after at hsteps
  unfold applying
  split
  · next h =>
    rw [h] at hsteps
    exact hsteps
  · next h =>
    rw [h] at hsteps
    exact hsteps.trans (failing_steps (fun e => ⟨e, rfl⟩) _ _ _).markSteps_of_reports

theorem Command.run_markSteps (selector : String) (command : Command) (s : Session) :
    Session.MarkSteps s (command.run selector s).2 := by
  cases command with
  | createTables => exact .single (.work (Nat.le_refl _) (.of_eq rfl rfl) rfl)
  | apply project template creator => exact applying_markSteps selector project template creator s
  | applyDefault project creator => exact applying_markSteps selector project none creator s
  | check role key qualifier user =>
    have hsteps : Session.Steps (fun m => ∃ e, m = .report e) s
        (checking selector role key qualifier user s).2 :=
      checking_steps (fun e => ⟨e, rfl⟩) selector role key qualifier user s
    exact hsteps.markSteps_of_reports

theorem run_markSteps (host : Host) (settings : Settings) (arguments : List String) (s : Session) :
    Session.MarkSteps s (run host settings arguments s).2 := by
  have hback : ∀ t : Session, t.MarkStep t.rollback := fun t => .rollback (Nat.le_refl _) rfl rfl
  rcases session_run host settings arguments s with ⟨command, -, hrun⟩ | hrun
  · rw [hrun]
    exact .head (hback s) (.tail (Command.run_markSteps _ command s.rollback) (hback _))
  · rw [hrun]
    exact .refl

end CommandLine

/-! ### All calls -/

/-- Whether a change of a row leaves the grants and the marks alone. -/
def RowChange.leavesGrants : RowChange → Bool
  | .delete .. | .insert (.userGrant ..) | .insert (.groupGrant ..) => false
  | _ => true

theorem RowChange.Makes.keepsGrants {c : RowChange} {d : Change} (hc : c.leavesGrants = true)
    (h : c.Makes d) : d.KeepsGrants := by
  cases c with
  | delete kind id => cases hc
  | insert draft =>
    obtain rfl : d = .insert draft := h
    cases draft with
    | userGrant => cases hc
    | groupGrant => cases hc
    | _ => trivial
  | addGroup id organization name =>
    obtain ⟨_, -, rfl⟩ := h
    trivial
  | addMember user group =>
    obtain ⟨_, _, -, -, rfl⟩ := h
    trivial
  | removeMember user group =>
    obtain ⟨_, _, -, -, rfl⟩ := h
    trivial
  | renameGroup group name =>
    obtain ⟨_, _, -, -, rfl⟩ := h
    trivial
  | _ =>
    cases h
    trivial

/-- Whether a call marks every project whose grants it changes. Granting without the mark, revoking
all grants of a group, inserting rows of grants and deleting rows do not. -/
def Call.marks : Call → Bool
  | .change c => c.leavesGrants
  | .grants c => c.marks
  | _ => true

theorem Call.mindsMarks {c : Call} (hc : c.marks = true) {s : Session}
    (hs : s.InBoth Store.Sound) : MindsMarks c.run s := by
  cases c with
  | change c =>
    refine .map _ ((c.run_moves s).mindsMarks ?_ hs)
    rintro d (hd | ⟨d', hmakes, hd⟩)
    · cases hd
    · cases hd
      exact hmakes.keepsGrants hc
  | grants c => exact c.mindsMarks hc s
  | ask q => exact .of_reports (q.run_moves s)
  | templates c => exact (c.run_moves s).mindsMarks (fun _ h => h.keepsGrants) hs
  | applyTemplate faults template project creator =>
    exact .map _ (applyTemplate_mindsMarks faults template project creator s)
  | applySnapshot faults snapshot project creator =>
    exact .map _ (applySnapshot_mindsMarks faults snapshot project creator s)
  | applyDraft faults draft project creator =>
    refine .bind (.of_reports (.usable _ s)) ?_
    intro snapshot t _
    exact .map _ (applySnapshot_mindsMarks faults snapshot project creator t)
  | applyDefault faults selector project creator =>
    exact .map _ (applyDefault_mindsMarks faults selector project creator s)
  | check selector outage user role key qualifier =>
    refine .bind (.of_reports
      (simulate_moves (fun e => ⟨e, rfl⟩) selector outage user role key qualifier s)) ?_
    intro advice t _
    exact .of_reports (adviceAnswer_moves advice t)
  | commit => exact .map _ (.of_ok rfl (.single (.commit (Nat.le_refl _) rfl rfl)))
  | rollback => exact .map _ (.of_ok rfl (.single (.rollback (Nat.le_refl _) rfl rfl)))
  | commandLine host settings arguments =>
    have hcommit : s.MarkStep s.commit := .commit (Nat.le_refl _) rfl rfl
    have hrun := CommandLine.run_markSteps host settings arguments s.commit
    exact .map _ (.of_ok rfl (.head hcommit hrun))

namespace Session

theorem sound_serve {s : Session} (hs : s.InBoth Store.Sound) (c : Call) :
    (s.serve c).2.InBoth Store.Sound :=
  (serve_steps s c).sound hs

/-- **Serving a call minds the marks**, if the call does. -/
theorem serve_markSteps {s : Session} (hs : s.InBoth Store.Sound) {c : Call}
    (hc : c.marks = true) : MarkSteps s (s.serve c).2 := by
  have hsteps := c.mindsMarks hc hs
  unfold MindsMarks after at hsteps
  unfold serve
  split
  · next h =>
    rw [h] at hsteps
    exact hsteps
  · next h =>
    rw [h] at hsteps
    exact hsteps.tail (.rollback (Nat.le_refl _) rfl rfl)
  · next h =>
    rw [h] at hsteps
    exact hsteps

/-- Along a run of such calls the marks can be trusted. -/
theorem settled_serveAll {r : Store} {s : Session} {calls : List Call}
    (hcalls : ∀ c ∈ calls, c.marks = true) (hs : s.InBoth Store.Sound) (h : s.Settled r) :
    (s.serveAll calls).Settled r := by
  unfold serveAll
  induction calls generalizing s with
  | nil => exact h
  | cons c calls ih =>
    have hc : c.marks = true := hcalls c List.mem_cons_self
    exact ih (fun c' hc' => hcalls c' (List.mem_cons_of_mem c hc')) (sound_serve hs c)
      ((serve_markSteps hs hc).settled h)

/-- What is seen at one moment of such a run and what is seen at a later one. -/
theorem coherent_take_add {calls : List Call} (hcalls : ∀ c ∈ calls, c.marks = true) (i k : Nat) :
    (serveAll {} (calls.take i)).working.Coherent (serveAll {} (calls.take (i + k))).working := by
  have hempty : InBoth Store.Sound {} := ⟨Store.sound_empty, Store.sound_empty⟩
  have hfirst : ∀ c ∈ calls.take i, c.marks = true := fun c hc => hcalls c (List.mem_of_mem_take hc)
  have hrest : ∀ c ∈ (calls.drop i).take k, c.marks = true :=
    fun c hc => hcalls c (List.mem_of_mem_drop (List.mem_of_mem_take hc))
  have hlater : serveAll {} (calls.take (i + k)) =
      serveAll (serveAll {} (calls.take i)) ((calls.drop i).take k) := by
    rw [List.take_add, serveAll_append]
  have hsound : InBoth Store.Sound (serveAll {} (calls.take i)) :=
    ReachedBy.sound ⟨calls.take i, hfirst, rfl⟩
  -- the rows of the earlier moment are held fixed from there on
  have hnow := (settled_serveAll hfirst hempty settled_empty).now
  rw [hlater]
  exact (settled_serveAll hrest hsound hnow).past.1

end Session

/-- **The mark of a project is a sound key for what is held on it.** Take any run of calls that mark
what they change. If a project has the same mark at two moments of the run, or none at both, then
the same triples are held on it, whatever has been committed or rolled back in between. -/
theorem mark_determines_grants {calls : List Call} (hcalls : ∀ c ∈ calls, c.marks = true)
    (i j : Nat) {project : String} {p q : Project}
    (hp : (Session.serveAll {} (calls.take i)).working.project? (some project) = some p)
    (hq : (Session.serveAll {} (calls.take j)).working.project? (some project) = some q)
    (hmark : p.refreshedAt = q.refreshedAt) :
    ∀ g : Grant, g.project = some project →
      (g ∈ (Session.serveAll {} (calls.take i)).working.grants ↔
        g ∈ (Session.serveAll {} (calls.take j)).working.grants) := by
  have hpmark : (Session.serveAll {} (calls.take i)).working.markOf? project =
      some p.refreshedAt := by
    rw [Store.markOf?, hp]
    rfl
  have hqmark : (Session.serveAll {} (calls.take j)).working.markOf? project =
      some p.refreshedAt := by
    rw [Store.markOf?, hq, hmark]
    rfl
  rcases Nat.le_total i j with hij | hij
  · obtain ⟨k, rfl⟩ := Nat.exists_eq_add_of_le hij
    exact Session.coherent_take_add hcalls i k project _ hpmark hqmark
  · obtain ⟨k, rfl⟩ := Nat.exists_eq_add_of_le hij
    exact (Session.coherent_take_add hcalls j k project _ hqmark hpmark).symm

/-- Calls that set up the sample with nothing pending, grant a role on the project and take the
grant back again. -/
def rolledBackCalls : List Call := sampleCalls.take 11 ++ [
  .grants (.grantToUser (some "u") (some "admin") (.project (some "p")) true),
  .rollback]

/-- The project of the sample has a mark while the role is granted and none before and after, and so
the role is not granted any more. -/
theorem sample_unmarked :
    (Session.serveAll {} (rolledBackCalls.take 12)).working.markOf? "p" = some (some 1) ∧
      ⟨.user "u", some "p", "admin"⟩ ∈
        (Session.serveAll {} (rolledBackCalls.take 12)).working.grants ∧
      ⟨.user "u", some "p", "admin"⟩ ∉
        (Session.serveAll {} (rolledBackCalls.take 13)).working.grants := by
  have hcalls : ∀ c ∈ rolledBackCalls, c.marks = true := by decide
  have hbefore : ⟨.user "u", some "p", "admin"⟩ ∉
      (Session.serveAll {} (rolledBackCalls.take 11)).working.grants := by
    decide +kernel
  refine ⟨by decide +kernel, by decide +kernel, fun hheld => hbefore ?_⟩
  exact (mark_determines_grants hcalls 11 13 rfl rfl rfl _ rfl).2 hheld

end RoleGrants
