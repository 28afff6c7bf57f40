import Mathlib.Logic.Relation
import RoleGrants.Call

/-!
# Sessions step by step

A session as a transition system. A move changes the rows that are seen, takes a reading of the
clock, reports an event, commits or rolls back (`Move`), and `Session.Step` says what each of them
does and when it is possible. Everything that can be asked of a session is a run of such moves
(`serve_steps`), and `Call.Allows` says of which: a question makes none, granting neither commits
nor rolls back, a change of a row makes that change and commits.

So a property of the rows is settled for every run of calls by looking at the single changes.
`Steps.invariant` carries a property that no allowed change breaks through a run, in both views of
the session at once: a commit copies the rows that are seen over the committed ones, a rollback
the other way, and neither makes new rows.
-/

open RoleGrants.Action

namespace RoleGrants

/-! ### Moves -/

/-- A change of the rows, as data. -/
inductive Change where
  | addOrganization (id : String) (key name : Option String)
  | addUser (id : String) (login : Option String) (active : Option Bool)
  | addGroup (id : String) (organization : Option String) (name : String)
  | addProject (id : String) (key organization qualifier : Option String)
  | addTemplate (id : String) (organization name description : Option String)
  | insert (draft : RowDraft)
  | renameGroup (group : Group) (name : String)
  | setFlag (template role : String) (flag : Option Bool)
  | refresh (project : String) (reading : Nat)
  | join (user group : String)
  | leave (user group : String)
  | dropUserGrants (picked : UserGrant → Bool)
  | dropGroupGrants (picked : GroupGrant → Bool)
  | dropTemplateUsers (picked : TemplateUser → Bool)
  | dropTemplateGroups (picked : TemplateGroup → Bool)
  | delete (kind : RowKind) (id : String)

/-- The rows after a change, unless the store rejects it. -/
def Change.run (s : Store) : Change → Except StoreError Store
  | .addOrganization id key name => s.addOrganization id key name
  | .addUser id login active => s.addUser id login active
  | .addGroup id organization name => s.addGroup id organization name
  | .addProject id key organization qualifier => s.addProject id key organization qualifier
  | .addTemplate id organization name description =>
    s.addTemplate id organization name description
  | .insert draft => s.insertDraft draft
  | .renameGroup group name => s.renameGroup group name
  | .setFlag template role flag => s.setFlag template role flag
  | .refresh project reading => .ok (s.refresh project reading)
  | .join user group => .ok (s.join user group)
  | .leave user group => .ok (s.leave user group)
  | .dropUserGrants picked => .ok (s.dropUserGrants picked)
  | .dropGroupGrants picked => .ok (s.dropGroupGrants picked)
  | .dropTemplateUsers picked =>
    .ok { s with templateUsers := s.templateUsers.filter fun e => !picked e }
  | .dropTemplateGroups picked =>
    .ok { s with templateGroups := s.templateGroups.filter fun e => !picked e }
  | .delete kind id => .ok (s.deleteRow kind id)

/-- What has been seen to before a change is tried: a group has a name that it may have, only stored
groups are renamed, a project is marked with the last reading of the clock, and only a stored user
joins a stored group, once. -/
def Change.Fits (s : Session) : Change → Prop
  | .addGroup _ _ name => groupNameOf (some name) = .ok name
  | .renameGroup group name => group ∈ s.working.groups ∧ groupNameOf (some name) = .ok name
  | .refresh _ reading => reading = s.clock
  | .join user group =>
    s.working.hasUser user = true ∧ s.working.hasGroup group = true ∧
      s.working.isMember user group = false
  | _ => True

inductive Move where
  | change (c : Change)
  | tick
  | report (e : Event)
  | commit
  | rollback

namespace Session

/-- **One move of a session.** -/
inductive Step : Session → Move → Session → Prop where
  | change {s : Session} {c : Change} {store : Store} (hfits : c.Fits s)
      (hrun : c.run s.working = .ok store) : Step s (.change c) { s with working := store }
  | tick {s : Session} : Step s .tick { s with clock := s.clock + 1 }
  | report {s : Session} {e : Event} : Step s (.report e) { s with log := s.log ++ [e] }
  | commit {s : Session} : Step s .commit s.commit
  | rollback {s : Session} : Step s .rollback s.rollback

/-- A run of allowed moves. -/
def Steps (allowed : Move → Prop) : Session → Session → Prop :=
  Relation.ReflTransGen fun s t => ∃ m, allowed m ∧ Step s m t

theorem Steps.single {allowed : Move → Prop} {s t : Session} {m : Move} (hm : allowed m)
    (h : Step s m t) : Steps allowed s t :=
  Relation.ReflTransGen.single ⟨m, hm, h⟩

theorem Steps.refl (allowed : Move → Prop) (s : Session) : Steps allowed s s :=
  Relation.ReflTransGen.refl

theorem Steps.trans {allowed : Move → Prop} {s t u : Session} (h : Steps allowed s t)
    (h' : Steps allowed t u) : Steps allowed s u :=
  Relation.ReflTransGen.trans h h'

instance (allowed : Move → Prop) : Trans (Steps allowed) (Steps allowed) (Steps allowed) :=
  ⟨Steps.trans⟩

theorem Steps.mono {allowed allowed' : Move → Prop} {s t : Session}
    (h : Steps allowed s t) (himp : ∀ m, allowed m → allowed' m) : Steps allowed' s t :=
  Relation.ReflTransGen.mono (fun _ _ ⟨m, hm, hstep⟩ => ⟨m, himp m hm, hstep⟩) _ _ h

/-- A property of the rows holds in both views of a session. -/
def InBoth (P : Store → Prop) (s : Session) : Prop :=
  P s.working ∧ P s.committed

/-- **Invariants of the rows.** What no allowed change breaks holds in both views after every run of
allowed moves. -/
theorem Steps.invariant {P : Store → Prop} {allowed : Move → Prop} {s t : Session}
    (hP : ∀ s c store, allowed (.change c) → c.Fits s → c.run s.working = .ok store →
      P s.working → P store)
    (h : Steps allowed s t) (hs : InBoth P s) : InBoth P t := by
  -- along the run: the last move is looked at from a session that has the property in both views
  induction h with
  | refl => exact hs
  | tail _ hmove ih =>
    obtain ⟨m, hm, hstep⟩ := hmove
    cases hstep with
    | change hfits hrun => exact ⟨hP _ _ _ hm hfits hrun ih.1, ih.2⟩
    | tick => exact ih
    | report => exact ih
    | commit => exact ⟨ih.1, ih.1⟩
    | rollback => exact ⟨ih.2, ih.2⟩

/-- Without a commit the committed rows stay. -/
theorem Steps.committed_eq {allowed : Move → Prop} {s t : Session} (hallowed : ¬ allowed .commit)
    (h : Steps allowed s t) : t.committed = s.committed := by
  induction h with
  | refl => rfl
  | tail _ hmove ih =>
    obtain ⟨m, hm, hstep⟩ := hmove
    cases hstep with
    | commit => exact absurd hm hallowed
    | _ => exact ih

/-- Without a rollback, what no allowed change breaks holds of the rows that are seen, whatever is
committed. -/
theorem Steps.working_invariant {P : Store → Prop} {allowed : Move → Prop} {s t : Session}
    (hallowed : ¬ allowed .rollback)
    (hP : ∀ c r r', allowed (.change c) → c.run r = .ok r' → P r → P r')
    (h : Steps allowed s t) (hs : P s.working) : P t.working := by
  induction h with
  | refl => exact hs
  | tail _ hmove ih =>
    obtain ⟨m, hm, hstep⟩ := hmove
    cases hstep with
    | change _ hrun => exact hP _ _ _ hm hrun ih
    | rollback => exact absurd hm hallowed
    | _ => exact ih

/-- Without a report, all of which are of the level `info` or above, the log stays. -/
theorem Steps.log_eq {allowed : Move → Prop} {s t : Session} (hallowed : ∀ e, ¬ allowed (.report e))
    (h : Steps allowed s t) : t.log = s.log := by
  induction h with
  | refl => rfl
  | tail _ hmove ih =>
    obtain ⟨m, hm, hstep⟩ := hmove
    cases hstep with
    | report => exact absurd hm (hallowed _)
    | _ => exact ih

end Session

/-! ### Actions as runs -/

namespace Action

variable {α β : Type} {allowed : Move → Prop}

/-- The session that an action leaves behind, whether it succeeds or fails. -/
def after (x : Action α) (s : Session) : Session :=
  match x s with
  | .ok _ t | .error _ t => t

/-- From a session, an action is a run of allowed moves. -/
def MovesBy (allowed : Move → Prop) (x : Action α) (s : Session) : Prop :=
  Session.Steps allowed s (x.after s)

theorem MovesBy.mono {allowed' : Move → Prop} {x : Action α} {s : Session}
    (h : MovesBy allowed x s) (himp : ∀ m, allowed m → allowed' m) : MovesBy allowed' x s :=
  Session.Steps.mono h himp

/-- An action that leaves the session as it is makes no move. -/
theorem MovesBy.still {x : Action α} {s : Session} (h : x.after s = s) : MovesBy allowed x s := by
  rw [MovesBy, h]
  exact .refl allowed s

theorem MovesBy.pure (a : α) (s : Session) : MovesBy allowed (Pure.pure a) s :=
  .still rfl

theorem MovesBy.reading (f : Store → α) (s : Session) : MovesBy allowed (reading f) s :=
  .still rfl

theorem MovesBy.throw (f : Failure) (s : Session) :
    MovesBy allowed (MonadExcept.throw f : Action α) s :=
  .still rfl

theorem MovesBy.accepted (r : Except Refusal α) (s : Session) : MovesBy allowed (accepted r) s := by
  cases r <;> exact .still rfl

theorem MovesBy.usable (r : Except Misuse α) (s : Session) : MovesBy allowed (usable r) s := by
  cases r <;> exact .still rfl

theorem MovesBy.strike (f : Option Failure) (s : Session) : MovesBy allowed (strike f) s := by
  cases f <;> exact .still rfl

theorem MovesBy.report {e : Event} {s : Session} (h : allowed (.report e)) :
    MovesBy allowed (report e) s :=
  .single h .report

theorem MovesBy.commit {s : Session} (h : allowed .commit) : MovesBy allowed commit s :=
  .single h .commit

theorem MovesBy.rollback {s : Session} (h : allowed .rollback) : MovesBy allowed rollback s :=
  .single h .rollback

theorem MovesBy.changing {c : Change} {f : Store → Store} {s : Session}
    (hf : c.run s.working = .ok (f s.working)) (hfits : c.Fits s) (h : allowed (.change c)) :
    MovesBy allowed (changing f) s :=
  .single h (.change hfits hf)

theorem MovesBy.writing {c : Change} {f : Store → Except StoreError Store} {s : Session}
    (hf : f s.working = c.run s.working) (hfits : c.Fits s) (h : allowed (.change c)) :
    MovesBy allowed (writing f) s := by
  rw [MovesBy, after, Action.writing, hf]
  -- a change that the store rejects is no move
  cases hrun : c.run s.working with
  | ok store => exact .single h (.change hfits hrun)
  | error e => exact .refl allowed s

theorem MovesBy.bind {x : Action α} {f : α → Action β} {s : Session} (hx : MovesBy allowed x s)
    (hf : ∀ a t, x s = .ok a t → MovesBy allowed (f a) t) : MovesBy allowed (x >>= f) s := by
  rw [MovesBy, after] at hx ⊢
  rw [bind_run]
  -- the second action moves on from where the first one ended, unless that one failed
  cases h : x s with
  | ok a t =>
    rw [h] at hx
    exact hx.trans (hf a t h)
  | error e t =>
    rw [h] at hx
    exact hx

theorem MovesBy.map {x : Action α} {s : Session} (f : α → β) (hx : MovesBy allowed x s) :
    MovesBy allowed (f <$> x) s :=
  hx.bind fun _ _ _ => .pure _ _

theorem MovesBy.tryCatch {x : Action α} {handler : Failure → Action α} {s : Session}
    (hx : MovesBy allowed x s)
    (hhandler : ∀ f t, x s = .error f t → MovesBy allowed (handler f) t) :
    MovesBy allowed (MonadExcept.tryCatch x handler) s := by
  rw [MovesBy, after] at hx ⊢
  rw [tryCatch_run]
  cases h : x s with
  | ok a t =>
    rw [h] at hx
    exact hx
  | error f t =>
    rw [h] at hx
    -- what the handler goes on from is the session as the failure left it
    exact hx.trans (hhandler f t h)

end Action

end RoleGrants
