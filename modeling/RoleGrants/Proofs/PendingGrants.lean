import RoleGrants.Proofs.FailedCall
import RoleGrants.Proofs.TemplateEdits
import RoleGrants.Proofs.Transaction
import RoleGrants.Proofs.WrittenTable

/-!
# What is pending are grants

A session may have changed what it has not committed, and a rollback takes that away. In a reachable
session nothing can be taken away but grants and the marks on projects: every other table is
committed as it is seen (`Session.PendsOnlyGrants`). So whatever is rolled back, no group, no user,
no membership and no template changes by it.

Two things carry this. Changing a row and editing a template make one change at most and commit it
with what is pending, with nothing in between (`Action.CommitsAtOnce`). Every other call changes
grants and marks alone, whether or not it ends the transaction, and so each of its moves keeps the
other tables together.
-/

open RoleGrants.Action

namespace RoleGrants

/-! ### Changes that are committed at once -/

/-- The change that an editing call comes to, once its arguments are looked at. -/
def TemplateCall.Makes : TemplateCall → Change → Prop
  | .create id organization name description, d =>
    ∃ n, templateNameOf name = .ok n ∧ d = .addTemplate id organization (some n) description
  | .addUser template user role, d =>
    ∃ r, roleOf role = .ok r ∧ d = .insert (.templateUser none template user (some r))
  | .addGroup template group role, d =>
    ∃ id r, group.groupId = .ok id ∧ roleOf role = .ok r ∧
      d = .insert (.templateGroup none template id (some r))
  | .removeUser template user role, d =>
    d = .dropTemplateUsers (TemplateUser.isFor template user role)
  | .removeGroup template group role, d =>
    ∃ id, group.groupId = .ok id ∧ d = .dropTemplateGroups (TemplateGroup.isFor template id role)
  | .setCharacteristic template role flag, d =>
    ∃ t r, template = some t ∧ roleOf role = .ok r ∧
      (d = .setFlag t r flag ∨ d = .insert (.characteristic none template (some r) flag))
  | .resolve _, _ | .resolveDefault _, _ => False

namespace Action

variable {α β : Type} {allowed : Change → Prop} {s : Session}

/-- **From a session, an action commits at once:** it leaves the rows as they are, or it makes one
of the allowed changes and commits it with all that is pending. -/
inductive CommitsAtOnce (allowed : Change → Prop) (x : Action α) (s : Session) : Prop where
  | still (hworking : (x.after s).working = s.working)
      (hcommitted : (x.after s).committed = s.committed) : CommitsAtOnce allowed x s
  | made {d : Change} (hd : allowed d) (hrun : d.run s.working = .ok (x.after s).working)
      (hcommitted : (x.after s).committed = (x.after s).working) : CommitsAtOnce allowed x s

namespace CommitsAtOnce

theorem of_after_eq {x : Action α} (h : x.after s = s) : CommitsAtOnce allowed x s :=
  .still (by rw [h]) (by rw [h])

/-- What is committed at once is told by the session that is left. -/
theorem congr {x : Action α} {y : Action β} (hx : CommitsAtOnce allowed x s)
    (h : y.after s = x.after s) : CommitsAtOnce allowed y s := by
  cases hx with
  | still hworking hcommitted => exact .still (by rw [h, hworking]) (by rw [h, hcommitted])
  | made hd hrun hcommitted => exact .made hd (by rw [h, hrun]) (by rw [h, hcommitted])

theorem map {x : Action α} (f : α → β) (hx : CommitsAtOnce allowed x s) :
    CommitsAtOnce allowed (f <$> x) s :=
  hx.congr (after_map f x s)

/-- What only looks comes before. -/
theorem look {x : Action α} {f : α → Action β} (hstill : x.after s = s)
    (hf : ∀ a, x s = .ok a s → CommitsAtOnce allowed (f a) s) :
    CommitsAtOnce allowed (x >>= f) s := by
  unfold after at hstill
  cases hrun : x s with
  | ok a t =>
    obtain rfl : t = s := by rwa [hrun] at hstill
    refine (hf a hrun).congr ?_
    unfold after
    rw [bind_run, hrun]
  | error e t =>
    obtain rfl : t = s := by rwa [hrun] at hstill
    refine of_after_eq ?_
    unfold after
    rw [bind_run, hrun]

/-- What is read is read off the rows that are seen. -/
theorem read {f : Store → α} {g : α → Action β}
    (hg : CommitsAtOnce allowed (g (f s.working)) s) : CommitsAtOnce allowed (reading f >>= g) s :=
  hg.congr rfl

variable {d : Change} {rest : Action α}

/-- A write with the commit behind it. What comes behind the commit leaves the rows alone. -/
theorem written {f : Store → Except StoreError Store} (hf : f s.working = d.run s.working)
    (hd : allowed d) (hrest : ∀ t, (rest.after t).working = t.working ∧
      (rest.after t).committed = t.committed) :
    CommitsAtOnce allowed (do writing f; commit; rest) s := by
  cases hrun : d.run s.working with
  | ok r =>
    have hafter : (do writing f; commit; rest : Action α).after s =
        rest.after { s with working := r, committed := r } := by
      unfold after
      rw [bind_run, writing, hf, hrun]
      rfl
    obtain ⟨hworking, hcommitted⟩ := hrest { s with working := r, committed := r }
    refine .made hd ?_ ?_
    · rw [hafter, hworking, hrun]
    · rw [hafter, hworking, hcommitted]
  | error e =>
    refine of_after_eq ?_
    unfold after
    rw [bind_run, writing, hf, hrun]

theorem changed {f : Store → Store} {a : α} (hf : d.run s.working = .ok (f s.working))
    (hd : allowed d) : CommitsAtOnce allowed (do changing f; commit; return a) s :=
  .made hd hf rfl

end CommitsAtOnce

end Action

/-! ### Changing rows -/

section Rows

variable {s : Session}

theorem insertRow_atOnce {allowed : Change → Prop} {d : Change}
    {f : Store → Except StoreError Store} (hf : f s.working = d.run s.working) (hd : allowed d) :
    CommitsAtOnce allowed (insertRow f) s :=
  .written hf hd fun _ => ⟨rfl, rfl⟩

theorem setMember_atOnce {allowed : Change → Prop} (wanted : Bool) (user group : Option String)
    (hallowed : ∀ u g, user = some u → group = some g →
      allowed (if wanted then .join u g else .leave u g)) :
    CommitsAtOnce allowed (setMember wanted user group) s := by
  refine .read (.read ?_)
  cases huser : s.working.user? user with
  | none => exact .of_after_eq rfl
  | some u =>
    cases hgroup : s.working.group? group with
    | none => exact .of_after_eq rfl
    | some g =>
      have hd := hallowed u.id g.id (Store.mem_of_user? huser).2 (Store.mem_of_group? hgroup).2
      refine .read ?_
      split
      · exact .of_after_eq rfl
      · cases wanted with
        | true => exact .changed (d := .join u.id g.id) rfl hd
        | false => exact .changed (d := .leave u.id g.id) rfl hd

/-- **Changing a row commits at once.** -/
theorem RowChange.run_atOnce (c : RowChange) : CommitsAtOnce c.Makes c.run s := by
  cases c with
  | addOrganization id key name =>
    exact insertRow_atOnce (d := .addOrganization id key name) rfl rfl
  | addUser id login active => exact insertRow_atOnce (d := .addUser id login active) rfl rfl
  | addGroup id organization name =>
    refine .look (after_accepted _ s) fun n hn => ?_
    obtain ⟨hname, -⟩ := accepted_eq_ok.1 hn
    exact insertRow_atOnce (d := .addGroup id organization n) rfl ⟨n, hname, rfl⟩
  | addProject id key organization qualifier =>
    exact insertRow_atOnce (d := .addProject id key organization qualifier) rfl rfl
  | addMember user group =>
    exact setMember_atOnce true user group fun u g hu hg => ⟨u, g, hu, hg, rfl⟩
  | removeMember user group =>
    exact setMember_atOnce false user group fun u g hu hg => ⟨u, g, hu, hg, rfl⟩
  | renameGroup group name =>
    refine .read ?_
    cases hgroup : s.working.group? group with
    | none => exact .of_after_eq rfl
    | some g =>
      refine .look (after_accepted _ s) fun n hn => ?_
      obtain ⟨hname, -⟩ := accepted_eq_ok.1 hn
      exact insertRow_atOnce (d := .renameGroup g n) rfl
        ⟨g, n, (Store.mem_of_group? hgroup).2, hname, rfl⟩
  | delete kind id =>
    cases id with
    | none => exact .of_after_eq rfl
    | some id =>
      refine .read ?_
      split
      · exact .changed (d := .delete kind id) rfl ⟨id, rfl, rfl⟩
      · exact .of_after_eq rfl
  | insert draft => exact insertRow_atOnce (d := .insert draft) rfl rfl

end Rows

/-! ### Editing templates -/

section Templates

variable {s : Session}

/-- A template that is required is found by its id. -/
theorem requireTemplate_eq_ok {id : Option String} {t : Template} {u : Session}
    (h : requireTemplate id s = .ok t u) : id = some t.id := by
  obtain ⟨hfound, -⟩ := accepted_eq_ok.1 (read_eq_ok.1 h)
  cases id with
  | none => cases hfound
  | some id =>
    unfold Store.findTemplate at hfound
    dsimp only at hfound
    split at hfound
    · next x hx =>
      cases hfound
      exact (Store.mem_of_template? hx).2
    · cases hfound

theorem writeEntry_atOnce {allowed : Change → Prop} {d : Change} (present : Bool)
    {f : Store → Except StoreError Store} (hf : f s.working = d.run s.working) (hd : allowed d) :
    CommitsAtOnce allowed
      (do
        if present then return false
        writing f
        commit
        return true : Action Bool) s := by
  cases present with
  | true => exact .of_after_eq rfl
  | false => exact .written hf hd fun _ => ⟨rfl, rfl⟩

theorem createTemplate_atOnce (id : String) (organization name description : Option String) :
    CommitsAtOnce (TemplateCall.create id organization name description).Makes
      (createTemplate id organization name description) s := by
  refine .look (after_accepted _ s) fun n hn => .read ?_
  obtain ⟨hname, -⟩ := accepted_eq_ok.1 hn
  cases s.working.templateNamed? organization (some n) with
  | some other => exact .of_after_eq rfl
  | none =>
    exact .written (d := .addTemplate id organization (some n) description) rfl ⟨n, hname, rfl⟩
      fun _ => ⟨rfl, rfl⟩

theorem addUserEntry_atOnce (template user role : Option String) :
    CommitsAtOnce (TemplateCall.addUser template user role).Makes
      (addUserEntry template user role) s := by
  refine .look (after_accepted _ s) fun r hr => ?_
  refine .look (after_requireTemplate _ s) fun t ht => .read ?_
  obtain ⟨hrole, -⟩ := accepted_eq_ok.1 hr
  obtain rfl := requireTemplate_eq_ok ht
  cases s.working.user? user with
  | none => exact .of_after_eq rfl
  | some known =>
    exact .read (writeEntry_atOnce (d := .insert (.templateUser none (some t.id) user (some r))) _
      rfl ⟨r, hrole, rfl⟩)

theorem addGroupEntry_atOnce (template : Option String) {group : Principal} {id : Option String}
    (hid : group.groupId = .ok id) (role : Option String) :
    CommitsAtOnce (TemplateCall.addGroup template group role).Makes
      (addGroupEntry template id role) s := by
  refine .look (after_accepted _ s) fun r hr => ?_
  refine .look (after_requireTemplate _ s) fun t ht => .read ?_
  obtain ⟨hrole, -⟩ := accepted_eq_ok.1 hr
  obtain rfl := requireTemplate_eq_ok ht
  exact writeEntry_atOnce (d := .insert (.templateGroup none (some t.id) id (some r))) _ rfl
    ⟨id, r, hid, hrole, rfl⟩

theorem setCharacteristic_atOnce (template role : Option String) (flag : Option Bool) :
    CommitsAtOnce (TemplateCall.setCharacteristic template role flag).Makes
      (setCharacteristic template role flag) s := by
  refine .look (after_accepted _ s) fun r hr => ?_
  refine .look (after_requireTemplate _ s) fun t ht => .read ?_
  obtain ⟨hrole, -⟩ := accepted_eq_ok.1 hr
  obtain rfl := requireTemplate_eq_ok ht
  split
  · exact .written (d := .setFlag t.id r flag) rfl ⟨t.id, r, rfl, hrole, .inl rfl⟩
      fun _ => ⟨rfl, rfl⟩
  · exact .written (d := .insert (.characteristic none (some t.id) (some r) flag)) rfl
      ⟨t.id, r, rfl, hrole, .inr rfl⟩ fun _ => ⟨rfl, rfl⟩

theorem usable_eq_ok {α : Type} {r : Except Misuse α} {a : α} {t : Session}
    (h : usable r s = .ok a t) : r = .ok a := by
  cases r with
  | ok b => cases h; rfl
  | error m => cases h

/-- **Editing a template commits at once.** -/
theorem TemplateCall.run_atOnce (c : TemplateCall) : CommitsAtOnce c.Makes c.run s := by
  cases c with
  | create id organization name description =>
    exact (createTemplate_atOnce id organization name description).map _
  | addUser template user role => exact (addUserEntry_atOnce template user role).map _
  | addGroup template group role =>
    refine .look (after_accepted _ s) fun _ _ => ?_
    refine .look (after_requireTemplate _ s) fun _ _ => ?_
    refine .look (after_usable _ s) fun id hid => ?_
    exact (addGroupEntry_atOnce template (usable_eq_ok hid) role).map _
  | removeUser template user role =>
    refine .map _ (.read ?_)
    exact .changed (d := .dropTemplateUsers (TemplateUser.isFor template user role)) rfl rfl
  | removeGroup template group role =>
    refine .look (after_usable _ s) fun id hid => .map _ (.read ?_)
    exact .changed (d := .dropTemplateGroups (TemplateGroup.isFor template id role)) rfl
      ⟨id, usable_eq_ok hid, rfl⟩
  | setCharacteristic template role flag =>
    exact (setCharacteristic_atOnce template role flag).map _
  | resolve id =>
    refine .map _ (.look (after_requireTemplate id s) fun t _ => ?_)
    exact .of_after_eq rfl
  | resolveDefault selector =>
    refine .map _ ?_
    cases selector with
    | none => exact .of_after_eq rfl
    | some selector =>
      obtain ⟨log, hrun⟩ := resolveDefault_run selector s
      exact .still (by unfold after; rw [hrun]) (by unfold after; rw [hrun])

end Templates

/-! ### Tables that agree -/

/-- The tables of which something may be pending: those of grants, and the projects with their
marks. -/
def Table.MayPend : Table → Prop
  | .userGrants | .groupGrants | .projects => True
  | _ => False

/-- Granting and revoking write grants and marks alone. -/
theorem Change.IsGranting.mayPend {c : Change} {k : Table} (h : c.IsGranting) (hk : c.Writes k) :
    k.MayPend := by
  cases c with
  | insert draft =>
    cases draft with
    | userGrant | groupGrant =>
      cases hk
      trivial
    | _ => cases h
  | refresh | dropUserGrants | dropGroupGrants =>
    cases hk
    trivial
  | _ => cases h

/-! ### Pending changes -/

namespace Session

/-- **Only grants are pending:** what is seen of any other table is committed, but for the marks on
projects. -/
def PendsOnlyGrants (s : Session) : Prop :=
  ∀ k : Table, ¬ k.MayPend → s.committed.SameIn s.working k

theorem pendsOnlyGrants_of_eq {s : Session} (h : s.committed = s.working) : s.PendsOnlyGrants := by
  intro k _
  rw [h]
  exact .refl _ k

end Session

namespace Session.PendsOnlyGrants

variable {s t : Session}

/-- A move keeps the other tables together, if it changes grants and marks alone. -/
theorem step {m : Move} (h : s.PendsOnlyGrants) (hm : ∀ c, m = .change c → c.IsGranting)
    (hstep : Step s m t) : t.PendsOnlyGrants := by
  cases hstep with
  | change _ hrun =>
    intro k hk
    have hleft := Change.frame hrun fun hwrites => hk ((hm _ rfl).mayPend hwrites)
    exact (h k hk).trans hleft
  | tick | report => exact h
  | commit | rollback => exact pendsOnlyGrants_of_eq rfl

theorem steps {allowed : Move → Prop} (h : s.PendsOnlyGrants)
    (hallowed : ∀ c, allowed (.change c) → c.IsGranting) (hsteps : Steps allowed s t) :
    t.PendsOnlyGrants := by
  induction hsteps with
  | refl => exact h
  | tail _ hmove ih =>
    obtain ⟨m, hm, hstep⟩ := hmove
    exact ih.step (fun c hc => hallowed c (hc ▸ hm)) hstep

theorem atOnce {allowed : Change → Prop} {x : Action Answer} (h : s.PendsOnlyGrants)
    (hx : CommitsAtOnce allowed x s) : (x.after s).PendsOnlyGrants := by
  cases hx with
  | still hworking hcommitted =>
    intro k hk
    rw [hworking, hcommitted]
    exact h k hk
  | made _ _ hcommitted => exact pendsOnlyGrants_of_eq hcommitted

end Session.PendsOnlyGrants

/-- Whether a call changes grants and marks alone, and no other rows. -/
def Call.keepsToGrants : Call → Bool
  | .change _ | .templates _ => false
  | _ => true

theorem Call.granting_of_allows {c : Call} (hc : c.keepsToGrants = true) {d : Change}
    (h : c.Allows (.change d)) : d.IsGranting := by
  cases c with
  | change | templates => cases hc
  | grants c => exact GrantCall.Allows.granting h
  | ask => exact h.elim
  | check =>
    obtain ⟨e, he⟩ := h
    cases he
  | commit | rollback => cases h
  | _ => exact Change.IsAdding.granting h

theorem Session.PendsOnlyGrants.serve {s : Session} (h : s.PendsOnlyGrants) (c : Call) :
    (s.serve c).2.PendsOnlyGrants := by
  have hafter : (c.run.after s).PendsOnlyGrants := by
    cases c with
    | change c => exact h.atOnce (c.run_atOnce.map _)
    | templates c => exact h.atOnce c.run_atOnce
    | _ => exact h.steps (fun _ => Call.granting_of_allows rfl) (Call.run_moves _ s)
  rcases s.serve_after c with hserve | hserve
  · rw [hserve]
    exact hafter
  · rw [hserve]
    exact pendsOnlyGrants_of_eq rfl

/-- **In a reachable session only grants are pending,** and marks on projects. -/
theorem Session.ReachedBy.pendsOnlyGrants {kind : Call → Prop} {s : Session}
    (h : s.ReachedBy kind) : s.PendsOnlyGrants := by
  obtain ⟨calls, -, rfl⟩ := h
  exact serveAll_preserves (fun c _ _ hs => hs.serve c) (pendsOnlyGrants_of_eq rfl)

end RoleGrants
