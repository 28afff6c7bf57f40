import RoleGrants.Proofs.MarkedGrants

/-!
# Calls that fail

A call of the engine checks, looks things up, writes and ends the transaction, each call in an order
of its own. `failed_call_leaves_no_trace` says that whatever the order is, a call that fails has
done nothing: a refusal leaves the session as it was, and a store error is followed by a rollback to
the rows that had been committed before.

It is carried by one judgement on actions. An action fails first (`Action.FailsFirst`) when it ends
with a failure only where it has done nothing yet. What only looks may stand before such an action
(`FailsFirst.look`), and behind it only what never fails (`FailsFirst.act`): the mark on a project,
the commit, a report. So a check that came behind a write would not fit in.

The judgement also keeps the kinds of failures apart. Granting, looking up and editing refuse
what is not found or malformed; to be refused for the storage's sake is a matter of applications.
-/

open RoleGrants.Action

namespace RoleGrants

variable {α β : Type}

/-! ### Failures -/

/-- A refusal of what is not found or malformed. -/
def Refusal.IsPlain (r : Refusal) : Prop := r.kind = .notFound ∨ r.kind = .invalid

/-- What granting, looking up and editing may end with: a plain refusal, a store error or a
misuse. -/
def Failure.IsPlain : Failure → Prop
  | .refused r => r.IsPlain
  | .store _ | .misused _ => True
  | .fault _ => False

/-- A rule refuses plainly. -/
def RefusesPlainly (answer : Except Refusal α) : Prop :=
  ∀ r, answer = .error r → r.IsPlain

theorem RefusesPlainly.ok (a : α) : RefusesPlainly (.ok a : Except Refusal α) :=
  fun _ h => nomatch h

theorem RefusesPlainly.error {r : Refusal} (hr : r.IsPlain) :
    RefusesPlainly (.error r : Except Refusal α) := by
  rintro _ ⟨⟩
  exact hr

theorem RefusesPlainly.map {answer : Except Refusal α} (h : RefusesPlainly answer) (f : α → β) :
    RefusesPlainly (answer.map f) := by
  cases answer with
  | ok a => exact .ok (f a)
  | error r => exact .error (h r rfl)

/-! ### Actions that fail first -/

namespace Action

/-- From no session does an action fail. -/
def Succeeds (x : Action α) : Prop := ∀ s f t, x s ≠ .error f t

theorem Succeeds.pure (a : α) : Succeeds (Pure.pure a) := fun _ _ _ h => nomatch h

theorem Succeeds.commit : Succeeds commit := fun _ _ _ h => nomatch h

theorem Succeeds.report (e : Event) : Succeeds (report e) := fun _ _ _ h => nomatch h

theorem Succeeds.bind {x : Action α} {f : α → Action β} (hx : Succeeds x)
    (hf : ∀ a, Succeeds (f a)) : Succeeds (x >>= f) := by
  intro s e t h
  rcases bind_eq_error.1 h with h | ⟨a, u, -, h⟩
  · exact hx s e t h
  · exact hf a u e t h

/-- **From a session, an action fails first:** where it fails, and that is plainly, it has done
nothing. -/
def FailsFirst (x : Action α) (s : Session) : Prop :=
  ∀ f t, x s = .error f t → t = s ∧ f.IsPlain

namespace FailsFirst

variable {s : Session}

theorem of_succeeds {x : Action α} (hx : Succeeds x) : FailsFirst x s :=
  fun f t h => absurd h (hx s f t)

theorem accepted {answer : Except Refusal α} (h : RefusesPlainly answer) :
    FailsFirst (accepted answer) s := by
  intro f t hrun
  obtain ⟨r, hr, rfl, rfl⟩ := accepted_eq_error.1 hrun
  exact ⟨rfl, h r hr⟩

theorem refuse {r : Refusal} (hr : r.IsPlain) : FailsFirst (refuse r : Action α) s := by
  rintro f t ⟨⟩
  exact ⟨rfl, hr⟩

theorem usable (answer : Except Misuse α) : FailsFirst (usable answer) s := by
  intro f t hrun
  cases answer <;> cases hrun
  exact ⟨rfl, trivial⟩

/-- A write that the store rejects is not made. -/
theorem writing (f : Store → Except StoreError Store) : FailsFirst (writing f) s := by
  intro e t hrun
  obtain ⟨e', -, rfl, rfl⟩ := writing_eq_error.1 hrun
  exact ⟨rfl, trivial⟩

/-- What only looks comes before. -/
theorem look {x : Action α} {f : α → Action β} (hx : FailsFirst x s) (hstill : x.after s = s)
    (hf : ∀ a, x s = .ok a s → FailsFirst (f a) s) : FailsFirst (x >>= f) s := by
  intro e t h
  rcases bind_eq_error.1 h with hfirst | ⟨a, u, hrun, hrest⟩
  · exact hx e t hfirst
  · rw [after, hrun] at hstill
    obtain rfl : u = s := hstill
    exact hf a hrun e t hrest

/-- What is read is read off the rows that are seen. -/
theorem read {f : Store → α} {g : α → Action β} (hg : FailsFirst (g (f s.working)) s) :
    FailsFirst (reading f >>= g) s :=
  hg

/-- What never fails comes behind. -/
theorem act {x : Action α} {f : α → Action β} (hx : FailsFirst x s) (hf : ∀ a, Succeeds (f a)) :
    FailsFirst (x >>= f) s := by
  intro e t h
  rcases bind_eq_error.1 h with h | ⟨a, u, -, h⟩
  · exact hx e t h
  · exact absurd h (hf a u e t)

theorem map {x : Action α} (f : α → β) (hx : FailsFirst x s) : FailsFirst (f <$> x) s :=
  hx.act fun a => .pure (f a)

end FailsFirst

end Action

/-! ### What is looked at -/

theorem roleOf_plain (role : Option String) : RefusesPlainly (roleOf role) := by
  intro r h
  rw [roleOf_eq_error h]
  exact .inr rfl

theorem templateNameOf_plain (name : Option String) : RefusesPlainly (templateNameOf name) := by
  unfold templateNameOf
  split
  · split
    · exact .error (.inr rfl)
    · exact .ok _
  · exact .error (.inr rfl)

theorem groupNameOf_plain (name : Option String) : RefusesPlainly (groupNameOf name) := by
  unfold groupNameOf
  split
  · split
    · exact .error (.inr rfl)
    · split
      · exact .error (.inr rfl)
      · exact .ok _
  · exact .error (.inr rfl)

namespace Store

variable {s : Store}

theorem findTemplate_plain (id organization name : Option String) :
    RefusesPlainly (s.findTemplate id organization name) := by
  unfold findTemplate
  split
  · split
    · exact .ok _
    · exact .error (.inl rfl)
  · split
    · exact .ok _
    · exact .error (.inl rfl)
  · exact .error (.inr rfl)

theorem storedGroup_plain (r : GroupReference) : RefusesPlainly (s.storedGroup r) := by
  unfold storedGroup
  split
  · split
    · exact .ok _
    · exact .error (.inl rfl)
  · split
    · exact .ok _
    · exact .error (.inl rfl)

theorem check_plain (r : GroupReference) : RefusesPlainly r.check := by
  unfold GroupReference.check
  split
  · split
    · exact .error (.inr rfl)
    · exact .ok _
  · split
    · exact .error (.inr rfl)
    · exact .ok _

theorem findGroup_plain (r : GroupReference) : RefusesPlainly (s.findGroup r) := by
  unfold findGroup
  cases hcheck : r.check with
  | error e => exact .error (check_plain r e hcheck)
  | ok u =>
    change RefusesPlainly (if r.designatesAnyone then _ else _)
    split
    · exact .error (.inl rfl)
    · exact storedGroup_plain r

theorem findGroupOrAnyone_plain (r : GroupReference) : RefusesPlainly (s.findGroupOrAnyone r) := by
  unfold findGroupOrAnyone
  cases hcheck : r.check with
  | error e => exact .error (check_plain r e hcheck)
  | ok u =>
    change RefusesPlainly (if r.designatesAnyone then _ else _)
    split
    · exact .ok _
    · exact storedGroup_plain r

end Store

theorem Question.answer_plain (q : Question) (s : Store) : RefusesPlainly (q.answer s) := by
  cases q with
  | findGroup reference => exact (s.findGroup_plain reference).map _
  | findGroupOrAnyone reference => exact (s.findGroupOrAnyone_plain reference).map _
  | findTemplate id organization name => exact (s.findTemplate_plain id organization name).map _
  | _ => exact .ok _

/-! ### Granting and revoking -/

section Grants

variable {s : Session}

theorem refreshGrants_succeeds (scope : Scope) : Succeeds (refreshGrants scope) := by
  intro s f t h
  rw [refreshGrants_run] at h
  cases h

theorem refreshIf_succeeds (wanted : Bool) (scope : Scope) : Succeeds (refreshIf wanted scope) := by
  cases wanted
  · exact .pure ()
  · exact refreshGrants_succeeds scope

/-- The mark on the project and the answer come behind the write. -/
theorem writeUnless_failsFirst (held : Bool) (f : Store → Except StoreError Store) (scope : Scope)
    (refresh : Bool) :
    FailsFirst
      (do
        if !held then writing f
        refreshIf refresh scope
        return !held : Action Bool) s := by
  have hrest : Succeeds (do refreshIf refresh scope; return !held : Action Bool) :=
    (refreshIf_succeeds refresh scope).bind fun _ => .pure _
  cases held with
  | true => exact .of_succeeds hrest
  | false => exact (FailsFirst.writing f).act fun _ => hrest

theorem grantToUser_failsFirst (user role : Option String) (scope : Scope) (refresh : Bool) :
    FailsFirst (grantToUser user role scope refresh) s := by
  refine (FailsFirst.accepted (roleOf_plain role)).look (after_accepted _ s) fun r _ => ?_
  exact .read (writeUnless_failsFirst _ _ scope refresh)

theorem grantToGroup_failsFirst (group role : Option String) (scope : Scope) (refresh : Bool) :
    FailsFirst (grantToGroup group role scope refresh) s := by
  refine (FailsFirst.accepted (roleOf_plain role)).look (after_accepted _ s) fun r _ => ?_
  exact .read (writeUnless_failsFirst _ _ scope refresh)

theorem grantTo_failsFirst (principal : Principal) (role : Option String) (scope : Scope) :
    FailsFirst (grantTo principal role scope) s := by
  cases principal with
  | user id => exact grantToUser_failsFirst id role scope false
  | group id => exact grantToGroup_failsFirst id role scope false
  | anyone => exact grantToGroup_failsFirst none role scope false
  | unsupported value => exact .refuse (.inr rfl)

theorem revoke_succeeds {take : Action Nat} (htake : Succeeds take) (scope : Scope) :
    Succeeds (do let count ← take; refreshGrants scope; return count : Action Nat) :=
  htake.bind fun _ => (refreshGrants_succeeds scope).bind fun _ => .pure _

theorem takeUserGrants_succeeds (picked : UserGrant → Bool) : Succeeds (takeUserGrants picked) :=
  fun _ _ _ h => nomatch h

theorem takeGroupGrants_succeeds (picked : GroupGrant → Bool) :
    Succeeds (takeGroupGrants picked) :=
  fun _ _ _ h => nomatch h

theorem GrantCall.run_failsFirst (c : GrantCall) : FailsFirst c.run s := by
  cases c with
  | grant principal role scope => exact (grantTo_failsFirst principal role scope).map _
  | grantToUser user role scope marking =>
    exact (grantToUser_failsFirst user role scope marking).map _
  | grantToGroup group role scope marking =>
    refine (FailsFirst.accepted (roleOf_plain role)).look (after_accepted _ s) fun _ _ => ?_
    refine (FailsFirst.usable _).look (after_usable _ s) fun id _ => ?_
    exact (grantToGroup_failsFirst id role scope marking).map _
  | grantToNamedGroup organization name role scope =>
    refine .map _ (.read ?_)
    refine (FailsFirst.accepted (s.working.findGroupOrAnyone_plain _)).look (after_accepted _ s)
      fun group _ => ?_
    exact grantToGroup_failsFirst group.storedId role scope true
  | revokeFromUser user role scope =>
    exact .of_succeeds ((revoke_succeeds (takeUserGrants_succeeds _) scope).bind fun _ => .pure _)
  | revokeFromGroup group role scope =>
    refine (FailsFirst.usable _).look (after_usable _ s) fun id _ => ?_
    exact .of_succeeds ((revoke_succeeds (takeGroupGrants_succeeds _) scope).bind fun _ => .pure _)
  | revokeAllOfGroup group =>
    exact .of_succeeds ((takeGroupGrants_succeeds _).bind fun _ => .pure _)
  | revokeAllOnProject project =>
    refine .of_succeeds (.bind ?_ fun _ => .pure _)
    refine (takeUserGrants_succeeds _).bind fun users => ?_
    refine (takeGroupGrants_succeeds _).bind fun groups => ?_
    exact (refreshGrants_succeeds _).bind fun _ => .pure _
  | refresh scope => exact .of_succeeds ((refreshGrants_succeeds scope).bind fun _ => .pure _)

end Grants

/-! ### Editing templates -/

section Templates

variable {s : Session}

/-- The commit and the answer come behind the write. -/
theorem writeEntry_failsFirst (present : Bool) (f : Store → Except StoreError Store) :
    FailsFirst
      (do
        if present then return false
        writing f
        commit
        return true : Action Bool) s := by
  cases present with
  | true => exact .of_succeeds (.pure false)
  | false => exact (FailsFirst.writing f).act fun _ => Succeeds.commit.bind fun _ => .pure true

theorem requireTemplate_failsFirst (id : Option String) : FailsFirst (requireTemplate id) s :=
  .read (.accepted (s.working.findTemplate_plain id none none))

theorem after_requireTemplate (id : Option String) (s : Session) :
    (requireTemplate id).after s = s :=
  after_accepted _ s

theorem createTemplate_failsFirst (id : String) (organization name description : Option String) :
    FailsFirst (createTemplate id organization name description) s := by
  refine (FailsFirst.accepted (templateNameOf_plain name)).look (after_accepted _ s) fun n _ => ?_
  refine .read ?_
  cases s.working.templateNamed? organization (some n) with
  | some other => exact (FailsFirst.refuse (.inr rfl)).look rfl fun _ h => nomatch h
  | none =>
    refine (FailsFirst.writing _).act fun _ => ?_
    exact Succeeds.commit.bind fun _ => (Succeeds.report _).bind fun _ => .pure _

theorem addUserEntry_failsFirst (template user role : Option String) :
    FailsFirst (addUserEntry template user role) s := by
  refine (FailsFirst.accepted (roleOf_plain role)).look (after_accepted _ s) fun r _ => ?_
  refine (requireTemplate_failsFirst template).look (after_requireTemplate _ s) fun found _ => ?_
  refine .read ?_
  cases s.working.user? user with
  | none => exact (FailsFirst.refuse (.inl rfl)).look rfl fun _ h => nomatch h
  | some known => exact .read (writeEntry_failsFirst _ _)

theorem addGroupEntry_failsFirst (template group role : Option String) :
    FailsFirst (addGroupEntry template group role) s := by
  refine (FailsFirst.accepted (roleOf_plain role)).look (after_accepted _ s) fun r _ => ?_
  refine (requireTemplate_failsFirst template).look (after_requireTemplate _ s) fun found _ => ?_
  exact .read (writeEntry_failsFirst _ _)

theorem setCharacteristic_failsFirst (template role : Option String) (flag : Option Bool) :
    FailsFirst (setCharacteristic template role flag) s := by
  refine (FailsFirst.accepted (roleOf_plain role)).look (after_accepted _ s) fun r _ => ?_
  refine (requireTemplate_failsFirst template).look (after_requireTemplate _ s) fun found _ => ?_
  refine .read ?_
  have hrest : Succeeds
      (do commit; return (⟨none, found.id, r, flag.getD false⟩ : Characteristic)) :=
    Succeeds.commit.bind fun _ => .pure _
  -- a flag left open is found out by the write itself, and the commit stands behind either write
  split
  · exact (FailsFirst.writing _).act fun _ => hrest
  · exact (FailsFirst.writing _).act fun _ => hrest

theorem resolveDefault_succeeds (selector : Option String) :
    Succeeds (resolveDefault selector) := by
  unfold resolveDefault
  split
  · exact .pure none
  · exact .pure none
  · refine Succeeds.bind (fun _ _ _ h => nomatch h) fun found => ?_
    cases found with
    | none => exact (Succeeds.report _).bind fun _ => .pure none
    | some t => exact fun _ _ _ h => nomatch h

theorem TemplateCall.run_failsFirst (c : TemplateCall) : FailsFirst c.run s := by
  cases c with
  | create id organization name description =>
    exact (createTemplate_failsFirst id organization name description).map _
  | addUser template user role => exact (addUserEntry_failsFirst template user role).map _
  | addGroup template group role =>
    refine (FailsFirst.accepted (roleOf_plain role)).look (after_accepted _ s) fun _ _ => ?_
    refine (requireTemplate_failsFirst template).look (after_requireTemplate _ s) fun _ _ => ?_
    refine (FailsFirst.usable _).look (after_usable _ s) fun id _ => ?_
    exact (addGroupEntry_failsFirst template id role).map _
  | removeUser template user role => exact .of_succeeds fun _ _ _ h => nomatch h
  | removeGroup template group role =>
    refine (FailsFirst.usable _).look (after_usable _ s) fun id _ => ?_
    exact .of_succeeds fun _ _ _ h => nomatch h
  | setCharacteristic template role flag =>
    exact (setCharacteristic_failsFirst template role flag).map _
  | resolve id =>
    refine .map _ ((requireTemplate_failsFirst id).look (after_requireTemplate id s) fun t _ => ?_)
    exact .of_succeeds fun _ _ _ h => nomatch h
  | resolveDefault selector => exact .map _ (.of_succeeds (resolveDefault_succeeds selector))

end Templates

/-! ### Changing rows -/

section Rows

variable {s : Session}

theorem insertRow_failsFirst (f : Store → Except StoreError Store) : FailsFirst (insertRow f) s :=
  (FailsFirst.writing f).act fun _ => Succeeds.commit.bind fun _ => .pure true

theorem setMember_failsFirst (wanted : Bool) (user group : Option String) :
    FailsFirst (setMember wanted user group) s := by
  refine .read (.read ?_)
  cases s.working.user? user with
  | none => exact .of_succeeds (.pure false)
  | some u =>
    cases s.working.group? group with
    | none => exact .of_succeeds (.pure false)
    | some g =>
      refine .read ?_
      split
      · exact .of_succeeds (.pure false)
      · exact .of_succeeds fun _ _ _ h => nomatch h

theorem RowChange.run_failsFirst (c : RowChange) : FailsFirst c.run s := by
  cases c with
  | addOrganization | addUser | addProject | insert => exact insertRow_failsFirst _
  | addGroup id organization name =>
    refine (FailsFirst.accepted (groupNameOf_plain name)).look (after_accepted _ s) fun n _ => ?_
    exact insertRow_failsFirst _
  | addMember user group => exact setMember_failsFirst true user group
  | removeMember user group => exact setMember_failsFirst false user group
  | renameGroup group name =>
    refine .read ?_
    cases s.working.group? group with
    | none => exact .of_succeeds (.pure false)
    | some g =>
      refine (FailsFirst.accepted (groupNameOf_plain name)).look (after_accepted _ s)
        fun n _ => ?_
      exact insertRow_failsFirst _
  | delete kind id =>
    cases id with
    | none => exact .of_succeeds (.pure false)
    | some id =>
      refine .read ?_
      split
      · exact .of_succeeds fun _ _ _ h => nomatch h
      · exact .of_succeeds (.pure false)

end Rows

/-! ### Calls -/

/-- The calls of the engine's services: granting, questions and template editing. -/
def Call.isOfServices : Call → Bool
  | .grants _ | .ask _ | .templates _ => true
  | _ => false

theorem Call.run_failsFirst {c : Call} (hc : c.isOfServices = true) (s : Session) :
    FailsFirst c.run s := by
  cases c with
  | grants c => exact c.run_failsFirst
  | ask q => exact .read (.accepted (q.answer_plain s.working))
  | templates c => exact c.run_failsFirst
  | _ => cases hc

/-- A call that fails first leaves the session as it is, and a store error is followed by a
rollback. -/
theorem Session.serve_of_failsFirst {s t : Session} {c : Call} {f : Failure}
    (hc : FailsFirst c.run s) (hserve : s.serve c = (.error f, t)) :
    f.IsPlain ∧ t = match f with
      | .store _ => s.rollback
      | _ => s := by
  unfold serve at hserve
  split at hserve
  · cases hserve
  · next e u hrun =>
    cases hserve
    obtain ⟨rfl, hplain⟩ := hc _ _ hrun
    exact ⟨hplain, rfl⟩
  · next e u hstore hrun =>
    cases hserve
    obtain ⟨rfl, hplain⟩ := hc _ _ hrun
    refine ⟨hplain, ?_⟩
    cases f with
    | store e => exact absurd rfl (hstore e)
    | _ => rfl

/-- **A failed call leaves no trace.** Whatever is pending in a session and whatever the arguments
of the call are: where granting, a question or template editing is refused, something was not found
or is malformed, and the session is as it was, with its rows, its committed rows, its clock and its
log. Where the store rejects a row, the rollback that follows gives back what was committed before,
and nothing else has changed. The same calls can end with a misuse, which leaves the session alone
as well, and in no other way. -/
theorem failed_call_leaves_no_trace {s t : Session} {c : Call} (hc : c.isOfServices = true)
    {f : Failure} (hserve : s.serve c = (.error f, t)) :
    (∃ r, f = .refused r ∧ (r.kind = .notFound ∨ r.kind = .invalid) ∧ t = s) ∨
    (∃ e, f = .store e ∧ t = { s with working := s.committed }) ∨
    (∃ m, f = .misused m ∧ t = s) := by
  obtain ⟨hplain, ht⟩ := Session.serve_of_failsFirst (c.run_failsFirst hc s) hserve
  cases f with
  | refused r => exact .inl ⟨r, rfl, hplain, ht⟩
  | store e => exact .inr (.inl ⟨e, rfl, ht⟩)
  | misused m => exact .inr (.inr ⟨m, rfl, ht⟩)
  | fault message => exact hplain.elim

/-- With a grant pending, an entry for an unknown user is refused and the grant stays pending; the
entry for a missing group gets as far as the store, and the rollback takes the grant away. -/
theorem sample_failed_calls :
    Session.sample.working ≠ Session.sample.committed ∧
      Session.sample.serve (.templates (.addUser (some "t") (some "v") (some "scan"))) =
        (.error (.refused (.noUser (some "v"))), Session.sample) ∧
      Session.sample.serve (.templates (.addGroup (some "t") (.group (some "h")) (some "scan"))) =
        (.error (.store .missingParent),
          { Session.sample with working := Session.sample.committed }) := by
  refine ⟨by decide +kernel, ?_, ?_⟩
  · have hserve : Session.sample.serve
        (.templates (.addUser (some "t") (some "v") (some "scan"))) =
          (.error (.refused (.noUser (some "v"))), _) := rfl
    obtain ⟨r, -, -, ht⟩ | ⟨e, he, -⟩ | ⟨m, hm, -⟩ := failed_call_leaves_no_trace rfl hserve
    · rw [hserve, ht]
    · cases he
    · cases hm
  · have hserve : Session.sample.serve
        (.templates (.addGroup (some "t") (.group (some "h")) (some "scan"))) =
          (.error (.store .missingParent), _) := rfl
    obtain ⟨r, hr, -⟩ | ⟨e, -, ht⟩ | ⟨m, hm, -⟩ := failed_call_leaves_no_trace rfl hserve
    · cases hr
    · rw [hserve, ht]
    · cases hm

end RoleGrants
