import RoleGrants.Proofs.ApplicableSnapshot

/-!
# How an action ends the transaction

What a session has changed is pending until one of its calls commits, and a rollback gives back what
was committed last. An action ends the transaction (`Action.Commits`) when all that is seen at its
end is committed, and when it makes no difference to it what had been committed before: then
whatever was pending has become permanent with it. The second half is what a rollback on the way
would break.

Whether an action commits may depend on its answer, and so `Action.Ends` carries a condition on the
answer. It is shown along the definitions. What comes before the commit works on the rows that are
seen alone (`Action.LeavesOpen`), and what comes behind it only reports and answers. Changes of rows
commit when they answer true, template editing always but for an entry that was there already, and
applications when they go through.
-/

open RoleGrants.Action

namespace RoleGrants

/-- The session with other rows committed. -/
def Session.withCommitted (s : Session) (r : Store) : Session := { s with committed := r }

/-! ### Actions and the transaction -/

namespace Action

variable {α β : Type}

/-- **From a session, an action leaves the transaction open.** It works on the rows that are seen,
whatever is committed, or it fails with the committed rows as they were. -/
inductive LeavesOpen (x : Action α) (s : Session) : Prop where
  | ok {a : α} {t : Session} (hrun : ∀ r, x (s.withCommitted r) = .ok a (t.withCommitted r)) :
      LeavesOpen x s
  | failed {f : Failure} {t : Session} (hrun : x s = .error f t)
      (hcommitted : t.committed = s.committed) : LeavesOpen x s

/-- **From a session, an action ends the transaction.** What is seen at its end is committed, and
what was pending before counts no less than what was committed. -/
structure Commits (x : Action α) (s : Session) : Prop where
  permanent : (x.after s).committed = (x.after s).working
  pending : ∀ r, x (s.withCommitted r) = x s

/-- **How an action ends, as to the transaction.** It has ended it if it succeeds with an answer of
those that say so; otherwise the committed rows are as they were. -/
inductive Ends (commits : α → Prop) (x : Action α) (s : Session) : Prop where
  | committed {a : α} {t : Session} (hrun : x s = .ok a t) (ha : commits a) (h : Commits x s) :
      Ends commits x s
  | left {a : α} {t : Session} (hrun : x s = .ok a t) (ha : ¬ commits a)
      (h : t.committed = s.committed) : Ends commits x s
  | failed {f : Failure} {t : Session} (hrun : x s = .error f t)
      (h : t.committed = s.committed) : Ends commits x s

section Use

variable {commits : α → Prop} {x : Action α} {s t : Session} {a : α}

theorem Ends.commits_of (h : Ends commits x s) (hrun : x s = .ok a t) (ha : commits a) :
    Commits x s := by
  cases h with
  | committed _ _ h => exact h
  | left hrun' hnot _ =>
    cases hrun.symm.trans hrun'
    exact absurd ha hnot
  | failed hrun' _ => cases hrun.symm.trans hrun'

theorem Ends.leaves_of (h : Ends commits x s) (hnot : ∀ a t, x s = .ok a t → ¬ commits a) :
    (x.after s).committed = s.committed := by
  unfold after
  cases h with
  | committed hrun ha _ => exact absurd ha (hnot _ _ hrun)
  | left hrun _ h => rw [hrun]; exact h
  | failed hrun h => rw [hrun]; exact h

end Use

/-! ### What leaves the transaction open -/

namespace LeavesOpen

variable {s : Session}

theorem reading (f : Store → α) : LeavesOpen (reading f) s :=
  .ok (a := f s.working) (t := s) fun _ => rfl

theorem changing (f : Store → Store) : LeavesOpen (changing f) s :=
  .ok (t := { s with working := f s.working }) fun _ => rfl

theorem report (e : Event) : LeavesOpen (report e) s :=
  .ok (t := { s with log := s.log ++ [e] }) fun _ => rfl

theorem pure (a : α) : LeavesOpen (Pure.pure a) s := .ok (t := s) fun _ => rfl

theorem throw (f : Failure) : LeavesOpen (MonadExcept.throw f : Action α) s := .failed rfl rfl

theorem accepted (r : Except Refusal α) : LeavesOpen (accepted r) s := by
  cases r with
  | ok a => exact .ok (t := s) fun _ => rfl
  | error r => exact .failed rfl rfl

theorem usable (r : Except Misuse α) : LeavesOpen (usable r) s := by
  cases r with
  | ok a => exact .ok (t := s) fun _ => rfl
  | error m => exact .failed rfl rfl

theorem writing (f : Store → Except StoreError Store) : LeavesOpen (writing f) s := by
  cases h : f s.working with
  | ok store =>
    refine .ok (a := ()) (t := { s with working := store }) fun r => ?_
    exact writing_eq_ok.2 ⟨store, h, rfl⟩
  | error e => exact .failed (writing_eq_error.2 ⟨e, h, rfl, rfl⟩) rfl

theorem bind {x : Action α} {f : α → Action β} (hx : LeavesOpen x s)
    (hf : ∀ a t, x s = .ok a t → LeavesOpen (f a) t) : LeavesOpen (x >>= f) s := by
  cases hx with
  | @ok a t hrun =>
    have hhere : x s = .ok a (t.withCommitted s.committed) := hrun s.committed
    have hrest : (x >>= f) s = f a (t.withCommitted s.committed) := by rw [bind_run, hhere]
    cases hf a _ hhere with
    | @ok b u hf =>
      refine .ok (a := b) (t := u) fun r => ?_
      rw [bind_run, hrun r]
      exact hf r
    | failed hf hcommitted => exact .failed (hrest.trans hf) hcommitted
  | failed hrun hcommitted => exact .failed (by rw [bind_run, hrun]) hcommitted

end LeavesOpen

/-! ### What ends the transaction -/

/-- What comes behind an action and changes nothing. -/
theorem after_bind {x : Action α} {f : α → Action β} {s : Session}
    (hf : ∀ a t, (f a).after t = t) : (x >>= f).after s = x.after s := by
  unfold after at hf ⊢
  rw [bind_run]
  cases x s with
  | ok a t => exact hf a t
  | error e t => rfl

theorem after_map (f : α → β) (x : Action α) (s : Session) : (f <$> x).after s = x.after s :=
  after_bind fun _ _ => rfl

namespace Commits

variable {x : Action α} {s : Session}

theorem bind {f : α → Action β} (hx : Commits x s) (hf : ∀ a t, (f a).after t = t) :
    Commits (x >>= f) s := by
  refine ⟨?_, fun r => ?_⟩
  · rw [after_bind hf]
    exact hx.permanent
  · rw [bind_run, bind_run, hx.pending r]

theorem map (f : α → β) (hx : Commits x s) : Commits (f <$> x) s :=
  hx.bind fun _ _ => rfl

end Commits

namespace Ends

variable {s : Session}

/-- What leaves the transaction open has no answer that says otherwise. -/
theorem of_open {commits : α → Prop} {x : Action α} (hx : LeavesOpen x s)
    (hnot : ∀ a, ¬ commits a) : Ends commits x s := by
  cases hx with
  | ok hrun => exact .left (hrun s.committed) (hnot _) rfl
  | failed hrun h => exact .failed hrun h

/-- What comes before and leaves the transaction open. -/
theorem bind {commits : β → Prop} {x : Action α} {f : α → Action β} (hx : LeavesOpen x s)
    (hf : ∀ a t, x s = .ok a t → Ends commits (f a) t) : Ends commits (x >>= f) s := by
  cases hx with
  | failed hrun hcommitted => exact .failed (by rw [bind_run, hrun]) hcommitted
  | @ok a t hrun =>
    have hhere : x s = .ok a (t.withCommitted s.committed) := hrun s.committed
    have hrest : (x >>= f) s = f a (t.withCommitted s.committed) := by rw [bind_run, hhere]
    cases hf a _ hhere with
    | committed hf ha hends =>
      refine .committed (hrest.trans hf) ha ⟨?_, fun r => ?_⟩
      · have hpermanent := hends.permanent
        unfold after at hpermanent ⊢
        rw [hrest]
        exact hpermanent
      · -- the first action hands on what is committed, and the second one does not look at it
        rw [hrest, bind_run, hrun r]
        exact hends.pending r
    | left hf ha h => exact .left (hrest.trans hf) ha h
    | failed hf h => exact .failed (hrest.trans hf) h

/-- What answers behind the end of the transaction. -/
theorem map {commits : β → Prop} {x : Action α} (f : α → β)
    (h : Ends (fun a => commits (f a)) x s) : Ends commits (f <$> x) s := by
  cases h with
  | committed hrun ha hends => exact .committed (by rw [map_run, hrun]) ha (hends.map f)
  | left hrun ha h => exact .left (by rw [map_run, hrun]) ha h
  | failed hrun h => exact .failed (by rw [map_run, hrun]) h

theorem commit_return {commits : α → Prop} {a : α} (ha : commits a) :
    Ends commits (do commit; return a) s :=
  .committed rfl ha ⟨rfl, fun _ => rfl⟩

end Ends

end Action

/-! ### Changing rows -/

section Rows

variable {s : Session}

theorem insertRow_ends (f : Store → Except StoreError Store) :
    Ends (· = true) (insertRow f) s :=
  .bind (.writing f) fun _ _ _ => .commit_return rfl

theorem changeRow_ends (f : Store → Store) : Ends (· = true) (changeRow f) s :=
  .bind (.changing f) fun _ _ _ => .commit_return rfl

/-- Where nothing was to be changed, nothing is committed. -/
theorem return_false_ends : Ends (· = true) (pure false) s :=
  .left rfl Bool.false_ne_true rfl

theorem setMember_ends (wanted : Bool) (user group : Option String) :
    Ends (· = true) (setMember wanted user group) s := by
  refine .bind (.reading _) fun u t _ => ?_
  refine .bind (.reading _) fun g v _ => ?_
  cases u with
  | none => exact return_false_ends
  | some u =>
    cases g with
    | none => exact return_false_ends
    | some g =>
      refine .bind (.reading _) fun already w _ => ?_
      -- what is so already is left alone
      cases already == wanted with
      | true => exact return_false_ends
      | false => exact changeRow_ends _

/-- **A change of a row commits when it answers true.** -/
theorem RowChange.run_ends (c : RowChange) : Ends (· = true) c.run s := by
  cases c with
  | addOrganization | addUser | addProject | insert => exact insertRow_ends _
  | addGroup id organization name =>
    exact .bind (.accepted _) fun _ _ _ => insertRow_ends _
  | addMember user group => exact setMember_ends true user group
  | removeMember user group => exact setMember_ends false user group
  | renameGroup group name =>
    refine .bind (.reading _) fun g t _ => ?_
    cases g with
    | none => exact return_false_ends
    | some g => exact .bind (.accepted _) fun _ _ _ => insertRow_ends _
  | delete kind id =>
    cases id with
    | none => exact return_false_ends
    | some id =>
      refine .bind (.reading _) fun has t _ => ?_
      cases has with
      | false => exact return_false_ends
      | true => exact changeRow_ends _

end Rows

/-! ### Editing templates -/

/-- Whether an editing call has committed, told by its answer: all of them do that go through, but
for an entry that was there already. -/
def TemplateCall.commitsOn : TemplateCall → Answer → Bool
  | .create .., _ | .removeUser .., _ | .removeGroup .., _ | .setCharacteristic .., _ => true
  | .addUser .., .flag added | .addGroup .., .flag added => added
  | _, _ => false

section Templates

variable {s : Session}

theorem requireTemplate_open (id : Option String) : LeavesOpen (requireTemplate id) s :=
  .bind (.reading _) fun _ _ _ => .accepted _

theorem resolveTemplate_open (id : Option String) : LeavesOpen (resolveTemplate id) s :=
  .bind (requireTemplate_open id) fun _ _ _ => .reading _

theorem resolveDefault_open (selector : Option String) :
    LeavesOpen (resolveDefault selector) s := by
  unfold resolveDefault
  split
  · exact .pure none
  · exact .pure none
  · refine .bind (.reading _) fun found t _ => ?_
    cases found with
    | none => exact .bind (.report _) fun _ _ _ => .pure none
    | some template => exact .reading _

theorem createTemplate_ends {commits : Template → Prop} (hall : ∀ t, commits t) (id : String)
    (organization name description : Option String) :
    Ends commits (createTemplate id organization name description) s := by
  refine .bind (.accepted _) fun name t _ => ?_
  refine .bind (.reading _) fun taken u _ => ?_
  have hrest : ∀ v, Ends commits (do
      writing (·.addTemplate id organization (some name) description)
      commit
      report (.templateCreated id name)
      return (⟨id, organization, name, description⟩ : Template)) v := by
    intro v
    refine .bind (.writing _) fun _ w _ => ?_
    exact .committed rfl (hall _) ⟨rfl, fun _ => rfl⟩
  cases taken with
  | none => exact hrest u
  | some other => exact .bind (.throw _) fun _ v _ => hrest v

/-- An entry that is there already is left alone, and nothing is committed. -/
theorem writeEntry_ends (present : Bool) (f : Store → Except StoreError Store) :
    Ends (· = true)
      (do
        if present then return false
        writing f
        commit
        return true : Action Bool) s := by
  cases present with
  | true => exact return_false_ends
  | false => exact .bind (.writing f) fun _ _ _ => .commit_return rfl

theorem addUserEntry_ends (template user role : Option String) :
    Ends (· = true) (addUserEntry template user role) s := by
  refine .bind (.accepted _) fun r t _ => ?_
  refine .bind (requireTemplate_open template) fun found u _ => ?_
  refine .bind (.reading _) fun known v _ => ?_
  cases known with
  | some known => exact .bind (.reading _) fun present _ _ => writeEntry_ends present _
  | none =>
    refine .bind (.throw _) fun _ w _ => ?_
    exact .bind (.reading _) fun present _ _ => writeEntry_ends present _

theorem addGroupEntry_ends (template group role : Option String) :
    Ends (· = true) (addGroupEntry template group role) s := by
  refine .bind (.accepted _) fun r t _ => ?_
  refine .bind (requireTemplate_open template) fun found u _ => ?_
  exact .bind (.reading _) fun present _ _ => writeEntry_ends present _

theorem setCharacteristic_ends {commits : Characteristic → Prop} (hall : ∀ c, commits c)
    (template role : Option String) (flag : Option Bool) :
    Ends commits (setCharacteristic template role flag) s := by
  refine .bind (.accepted _) fun r t _ => ?_
  refine .bind (requireTemplate_open template) fun found u _ => ?_
  refine .bind (.reading _) fun present v _ => ?_
  cases present with
  | true => exact .bind (.writing _) fun _ _ _ => .commit_return (hall _)
  | false => exact .bind (.writing _) fun _ _ _ => .commit_return (hall _)

/-- **Editing commits** as its answer says. -/
theorem TemplateCall.run_ends (c : TemplateCall) :
    Ends (fun a => c.commitsOn a = true) c.run s := by
  cases c with
  | create id organization name description =>
    exact .map _ (createTemplate_ends (fun _ => rfl) id organization name description)
  | addUser template user role => exact .map _ (addUserEntry_ends template user role)
  | addGroup template group role =>
    refine .bind (.accepted _) fun _ _ _ => ?_
    refine .bind (requireTemplate_open template) fun _ _ _ => ?_
    refine .bind (.usable _) fun id _ _ => ?_
    exact .map _ (addGroupEntry_ends template id role)
  | removeUser template user role =>
    refine .map _ (.bind (.reading _) fun present _ _ => ?_)
    -- whether or not there was an entry to be removed
    exact .bind (.changing _) fun _ _ _ => .commit_return rfl
  | removeGroup template group role =>
    refine .bind (.usable _) fun id _ _ => ?_
    refine .map _ (.bind (.reading _) fun present _ _ => ?_)
    exact .bind (.changing _) fun _ _ _ => .commit_return rfl
  | setCharacteristic template role flag =>
    exact .map _ (setCharacteristic_ends (fun _ => rfl) template role flag)
  | resolve id => exact .map _ (.of_open (resolveTemplate_open id) fun _ => Bool.false_ne_true)
  | resolveDefault selector =>
    exact .map _ (.of_open (resolveDefault_open selector) fun _ => Bool.false_ne_true)

end Templates

/-! ### Applying templates -/

section Applications

variable {s : Session}

/-- **An application commits when it goes through.** -/
theorem applySnapshot_ends {commits : Snapshot → Prop} (hall : ∀ t, commits t) (faults : Faults)
    (t : Snapshot) (project creator : Option String) :
    Ends commits (applySnapshot faults t project creator) s := by
  cases h : applySnapshot faults t project creator s with
  | ok t' u =>
    obtain ⟨rfl, p, hp, hu⟩ := applySnapshot_eq_ok h
    have hpermanent : u.committed = u.working := by rw [hu]
    refine .committed h (hall t') ⟨?_, fun r => ?_⟩
    · unfold after
      rw [h]
      exact hpermanent
    · -- it goes through from there as well, since that is asked of the rows that are seen
      have hgoes := applySnapshot_ok_iff.1 ⟨t', u, h⟩
      obtain ⟨t'', u', h'⟩ : ∃ t'' u', applySnapshot faults t' project creator
          (s.withCommitted r) = .ok t'' u' := applySnapshot_ok_iff.2 hgoes
      obtain ⟨rfl, p', hp', hu'⟩ := applySnapshot_eq_ok h'
      cases hp.symm.trans hp'
      rw [h, h', hu, hu']
      rfl
  | error e u =>
    refine .failed h ?_
    rcases applySnapshot_eq_error h with ⟨-, -, rfl⟩ | ⟨_, _, -, -, -, hback⟩
    · rfl
    · exact hback.2

theorem applyTemplate_ends {commits : Snapshot → Prop} (hall : ∀ t, commits t) (faults : Faults)
    (template project creator : Option String) :
    Ends commits (applyTemplate faults template project creator) s :=
  .bind (resolveTemplate_open template) fun t _ _ =>
    applySnapshot_ends hall faults t project creator

/-- Without a default template nothing is done and nothing is committed. -/
theorem applyDefault_ends (faults : Faults) (selector : String) (project creator : Option String) :
    Ends (fun t => t.isSome = true) (applyDefault faults selector project creator) s := by
  refine .bind (resolveDefault_open _) fun found u _ => ?_
  cases found with
  | none => exact .left rfl Bool.false_ne_true rfl
  | some t =>
    exact .map some (applySnapshot_ends (fun _ => rfl) faults t project creator)

end Applications

end RoleGrants
