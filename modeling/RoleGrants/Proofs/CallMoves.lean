import RoleGrants.Proofs.CommandOutcome
import RoleGrants.Proofs.SessionStep
import RoleGrants.Proofs.StoredGrant
import RoleGrants.Proofs.StoredRow

/-!
# The moves of each call

Which moves a call may make (`Call.Allows`), and that it makes no others (`Call.run_moves`). A
question makes none. Granting adds grants and reads the clock, revoking takes grants away as well,
and neither commits nor rolls back. Template editing changes templates, and what it puts into one
has a role that has been found to be one. A change of a row makes that change and commits. An
application adds grants like granting, and ends the transaction either way. A command line makes the
moves of its command between two rollbacks, or none.

The proofs follow the definitions of the actions, a sequence by a sequence and a handler by a
handler. Serving a call is its moves and perhaps a rollback (`Session.serve_steps`), so what no
allowed change breaks holds of every reachable session (`Session.ReachedBy.invariant`). The calls
that lead there may be restricted to those of a kind.
-/

open RoleGrants.Action

namespace RoleGrants

/-! ### Kinds of moves -/

/-- The changes of granting. -/
def Change.IsAdding : Change → Prop
  | .insert (.userGrant ..) | .insert (.groupGrant ..) | .refresh .. => True
  | _ => False

/-- The changes of granting and revoking. -/
def Change.IsGranting : Change → Prop
  | .insert (.userGrant ..) | .insert (.groupGrant ..) | .refresh .. | .dropUserGrants _
  | .dropGroupGrants _ => True
  | _ => False

/-- The changes of template editing. An entry or a characteristic comes in with a role that is
one. -/
def Change.IsEditing : Change → Prop
  | .insert (.templateUser _ _ _ role) | .insert (.templateGroup _ _ _ role)
  | .insert (.characteristic _ _ role _) => ∃ r, roleOf role = .ok r
  | .addTemplate .. | .setFlag .. | .dropTemplateUsers _ | .dropTemplateGroups _ => True
  | _ => False

/-- The changes of editing what is in a template. They bring no template along. -/
def Change.EditsEntries (c : Change) : Prop :=
  c.IsEditing ∧
    ∀ id organization name description, c ≠ .addTemplate id organization name description

namespace Move

/-- Granting adds grants and reads the clock, and leaves the transaction open. -/
def Adding : Move → Prop
  | .change c => c.IsAdding
  | .tick => True
  | _ => False

/-- Granting and revoking changes grants and reads the clock, and leaves the transaction open. -/
def Granting : Move → Prop
  | .change c => c.IsGranting
  | .tick => True
  | _ => False

/-- Editing templates changes them, commits and reports. -/
def Editing : Move → Prop
  | .change c => c.IsEditing
  | .commit | .report _ => True
  | _ => False

/-- Editing what is in a template changes that, commits and reports. -/
def EditingEntries : Move → Prop
  | .change c => c.EditsEntries
  | .commit | .report _ => True
  | _ => False

/-- Applying a template adds grants, ends the transaction either way and reports. -/
def Applying : Move → Prop
  | .change c => c.IsAdding
  | _ => True

end Move

theorem Change.IsAdding.granting {c : Change} (h : c.IsAdding) : c.IsGranting := by
  cases c with
  | insert draft =>
    cases draft with
    | userGrant | groupGrant => trivial
    | _ => cases h
  | refresh => trivial
  | _ => cases h

theorem Move.Adding.granting {m : Move} (h : m.Adding) : m.Granting := by
  cases m with
  | change c => exact Change.IsAdding.granting h
  | tick => trivial
  | _ => cases h

theorem Move.EditingEntries.editing {m : Move} (h : m.EditingEntries) : m.Editing := by
  cases m with
  | change c => exact h.1
  | _ => exact h

theorem Move.Adding.applying {m : Move} (h : m.Adding) : m.Applying := by
  cases m with
  | change c => exact h
  | _ => trivial

/-- The change that a change of a row comes to, once its arguments are looked at. -/
def RowChange.Makes : RowChange → Change → Prop
  | .addOrganization id key name, d => d = .addOrganization id key name
  | .addUser id login active, d => d = .addUser id login active
  | .addGroup id organization name, d =>
    ∃ n, groupNameOf name = .ok n ∧ d = .addGroup id organization n
  | .addProject id key organization qualifier, d => d = .addProject id key organization qualifier
  | .addMember user group, d => ∃ u g, user = some u ∧ group = some g ∧ d = .join u g
  | .removeMember user group, d => ∃ u g, user = some u ∧ group = some g ∧ d = .leave u g
  | .renameGroup group name, d =>
    ∃ g n, group = some g.id ∧ groupNameOf name = .ok n ∧ d = .renameGroup g n
  | .delete kind id, d => ∃ i, id = some i ∧ d = .delete kind i
  | .insert draft, d => d = .insert draft

/-- A change of a row makes the change and commits. -/
def RowChange.Allows (c : RowChange) (m : Move) : Prop :=
  m = .commit ∨ ∃ d, c.Makes d ∧ m = .change d

/-- Only what revokes may take grants away. -/
def GrantCall.Allows : GrantCall → Move → Prop
  | .revokeFromUser .. | .revokeFromGroup .. | .revokeAllOfGroup _ | .revokeAllOnProject _ =>
    Move.Granting
  | _ => Move.Adding

theorem GrantCall.Allows.granting {c : GrantCall} {m : Move} (h : c.Allows m) : m.Granting := by
  cases c with
  | revokeFromUser | revokeFromGroup | revokeAllOfGroup | revokeAllOnProject => exact h
  | _ => exact Move.Adding.granting h

/-- **What a call may do.** -/
def Call.Allows : Call → Move → Prop
  | .change c => c.Allows
  | .grants c => c.Allows
  | .ask _ => fun _ => False
  | .templates _ => Move.Editing
  | .applyTemplate .. | .applySnapshot .. | .applyDraft .. | .applyDefault ..
  | .commandLine .. => Move.Applying
  | .check .. => fun m => ∃ e, m = .report e
  | .commit => fun m => m = .commit
  | .rollback => fun m => m = .rollback

/-! ### Granting and revoking -/

theorem refreshGrants_moves (scope : Scope) (s : Session) :
    MovesBy Move.Adding (refreshGrants scope) s := by
  unfold refreshGrants
  cases scope.projectId with
  | none => exact .pure () s
  | some project =>
    have htick : MovesBy Move.Adding readClock s := .single (m := .tick) trivial .tick
    refine .bind htick ?_
    intro reading t ht
    -- the mark is the reading that has just been taken
    cases ht
    exact .changing (c := .refresh project _) rfl rfl trivial

theorem refreshIf_moves (wanted : Bool) (scope : Scope) (s : Session) :
    MovesBy Move.Adding (refreshIf wanted scope) s := by
  cases wanted
  · exact .pure () s
  · exact refreshGrants_moves scope s

/-- Writing what is not held yet and marking the project, for a row of either table. -/
theorem writeUnless_moves (held : Bool) (draft : RowDraft) (scope : Scope) (refresh : Bool)
    (s : Session) (h : (Change.insert draft).IsAdding) :
    MovesBy Move.Adding
      (do
        if !held then writing (·.insertDraft draft)
        refreshIf refresh scope
        return !held : Action Bool) s := by
  have hrest : ∀ t, MovesBy Move.Adding
      (do refreshIf refresh scope; return !held : Action Bool) t := by
    intro t
    refine .bind (refreshIf_moves refresh scope t) ?_
    intro _ u _
    exact .pure _ u
  cases held with
  | true => exact hrest s
  | false =>
    have hwrite : MovesBy Move.Adding (writing (·.insertDraft draft)) s :=
      .writing (c := .insert draft) rfl trivial h
    refine .bind hwrite ?_
    intro _ t _
    exact hrest t

theorem grantToUser_moves (user role : Option String) (scope : Scope) (refresh : Bool)
    (s : Session) : MovesBy Move.Adding (grantToUser user role scope refresh) s := by
  refine .bind (.accepted _ s) ?_
  intro r t _
  refine .bind (.reading _ t) ?_
  intro held u _
  exact writeUnless_moves held (.userGrant none user scope.projectId (some r)) scope refresh u
    trivial

theorem grantToGroup_moves (group role : Option String) (scope : Scope) (refresh : Bool)
    (s : Session) : MovesBy Move.Adding (grantToGroup group role scope refresh) s := by
  refine .bind (.accepted _ s) ?_
  intro r t _
  refine .bind (.reading _ t) ?_
  intro held u _
  exact writeUnless_moves held (.groupGrant none group scope.projectId (some r)) scope refresh u
    trivial

theorem grantTo_moves (principal : Principal) (role : Option String) (scope : Scope)
    (s : Session) : MovesBy Move.Adding (grantTo principal role scope) s := by
  cases principal with
  | user id => exact grantToUser_moves id role scope false s
  | group id => exact grantToGroup_moves id role scope false s
  | anyone => exact grantToGroup_moves none role scope false s
  | unsupported value => exact .throw _ s

theorem takeUserGrants_moves (picked : UserGrant → Bool) (s : Session) :
    MovesBy Move.Granting (takeUserGrants picked) s := by
  refine .bind (.reading _ s) ?_
  intro count t _
  have hdrop : MovesBy Move.Granting (changing (·.dropUserGrants picked)) t :=
    .changing (c := .dropUserGrants picked) rfl trivial trivial
  refine .bind hdrop ?_
  intro _ u _
  exact .pure _ u

theorem takeGroupGrants_moves (picked : GroupGrant → Bool) (s : Session) :
    MovesBy Move.Granting (takeGroupGrants picked) s := by
  refine .bind (.reading _ s) ?_
  intro count t _
  have hdrop : MovesBy Move.Granting (changing (·.dropGroupGrants picked)) t :=
    .changing (c := .dropGroupGrants picked) rfl trivial trivial
  refine .bind hdrop ?_
  intro _ u _
  exact .pure _ u

/-- Marking the project behind a revocation. -/
theorem refreshAfter_moves (scope : Scope) (count : Nat) (s : Session) :
    MovesBy Move.Granting (do refreshGrants scope; return count : Action Nat) s := by
  refine .bind ((refreshGrants_moves scope s).mono fun _ => Move.Adding.granting) ?_
  intro _ t _
  exact .pure _ t

theorem GrantCall.run_moves (c : GrantCall) (s : Session) : MovesBy c.Allows c.run s := by
  cases c with
  | grant principal role scope => exact .map _ (grantTo_moves principal role scope s)
  | grantToUser user role scope marking =>
    exact .map _ (grantToUser_moves user role scope marking s)
  | grantToGroup group role scope marking =>
    refine .bind (.accepted _ s) ?_
    intro _ t _
    refine .bind (.usable _ t) ?_
    intro id u _
    exact .map _ (grantToGroup_moves id role scope marking u)
  | grantToNamedGroup organization name role scope =>
    refine .map _ (.bind (.reading _ s) ?_)
    intro found t _
    refine .bind (.accepted _ t) ?_
    intro group u _
    exact grantToGroup_moves group.storedId role scope true u
  | revokeFromUser user role scope =>
    refine .map _ (.bind (takeUserGrants_moves _ s) ?_)
    intro count t _
    exact refreshAfter_moves scope count t
  | revokeFromGroup group role scope =>
    refine .bind (.usable _ s) ?_
    intro id t _
    refine .map _ (.bind (takeGroupGrants_moves _ t) ?_)
    intro count u _
    exact refreshAfter_moves scope count u
  | revokeAllOfGroup group => exact .map _ (takeGroupGrants_moves _ s)
  | revokeAllOnProject project =>
    refine .map _ (.bind (takeUserGrants_moves _ s) ?_)
    intro users t _
    refine .bind (takeGroupGrants_moves _ t) ?_
    intro groups u _
    exact refreshAfter_moves (.project project) (users + groups) u
  | refresh scope => exact .map _ (refreshGrants_moves scope s)

/-! ### Editing templates -/

theorem requireTemplate_moves {allowed : Move → Prop} (id : Option String) (s : Session) :
    MovesBy allowed (requireTemplate id) s := by
  refine .bind (.reading _ s) ?_
  intro found t _
  exact .accepted found t

theorem resolveTemplate_moves {allowed : Move → Prop} (id : Option String) (s : Session) :
    MovesBy allowed (resolveTemplate id) s := by
  refine .bind (requireTemplate_moves id s) ?_
  intro found t _
  exact .reading _ t

theorem resolveDefault_moves {allowed : Move → Prop} (h : ∀ e, allowed (.report e))
    (selector : Option String) (s : Session) : MovesBy allowed (resolveDefault selector) s := by
  unfold resolveDefault
  split
  · exact .pure _ s
  · exact .pure _ s
  · refine .bind (.reading _ s) ?_
    intro found t _
    cases found with
    | none =>
      refine .bind (.report (h _)) ?_
      intro _ u _
      exact .pure _ u
    | some template => exact .reading _ t

theorem createTemplate_moves (id : String) (organization name description : Option String)
    (s : Session) : MovesBy Move.Editing (createTemplate id organization name description) s := by
  refine .bind (.accepted _ s) ?_
  intro name t _
  refine .bind (.reading _ t) ?_
  intro taken u _
  have hrest : ∀ v, MovesBy Move.Editing (do
      writing (·.addTemplate id organization (some name) description)
      commit
      report (.templateCreated id name)
      return (⟨id, organization, name, description⟩ : Template)) v := by
    intro v
    refine .bind (.writing (c := .addTemplate id organization (some name) description) rfl trivial
      trivial) ?_
    intro _ w _
    refine .bind (.commit trivial) ?_
    intro _ x _
    refine .bind (.report trivial) ?_
    intro _ y _
    exact .pure _ y
  -- a name that is taken ends the call here; nothing behind it has to be looked at
  cases taken with
  | none => exact hrest u
  | some other =>
    refine .bind (.throw _ u) ?_
    intro _ v _
    exact hrest v

/-- Writing an entry that is not there yet and committing. -/
theorem writeEntry_moves (present : Bool) (draft : RowDraft) (s : Session)
    (h : (Change.insert draft).IsEditing) :
    MovesBy Move.EditingEntries
      (do
        if present then return false
        writing (·.insertDraft draft)
        commit
        return true : Action Bool) s := by
  cases present with
  | true => exact .pure _ s
  | false =>
    refine .bind (.writing (c := .insert draft) rfl trivial ⟨h, nofun⟩) ?_
    intro _ t _
    refine .bind (.commit trivial) ?_
    intro _ u _
    exact .pure _ u

/-- A role that has been accepted is one. -/
theorem isRole_of_accepted {role : Option String} {r : String} {s t : Session}
    (h : accepted (roleOf role) s = .ok r t) : ∃ r', roleOf (some r) = .ok r' := by
  obtain ⟨hrole, -⟩ := accepted_eq_ok.1 h
  obtain ⟨rfl, hblank⟩ := roleOf_eq_ok.1 hrole
  exact ⟨r, hrole⟩

theorem addUserEntry_moves (template user role : Option String) (s : Session) :
    MovesBy Move.EditingEntries (addUserEntry template user role) s := by
  refine .bind (.accepted _ s) ?_
  intro r t hr
  refine .bind (requireTemplate_moves template t) ?_
  intro found u _
  refine .bind (.reading _ u) ?_
  intro known v _
  have hrest : ∀ w, MovesBy Move.EditingEntries (do
      let present ← reading (·.templateUsers.any fun e =>
        e.template == found.id && some e.user == user && e.role == r)
      if present then return false
      writing (·.addTemplateUser none (some found.id) user (some r))
      commit
      return true : Action Bool) w := by
    intro w
    refine .bind (.reading _ w) ?_
    intro present x _
    exact writeEntry_moves present (.templateUser none (some found.id) user (some r)) x
      (isRole_of_accepted hr)
  cases known with
  | some known => exact hrest v
  | none =>
    refine .bind (.throw _ v) ?_
    intro _ w _
    exact hrest w

theorem addGroupEntry_moves (template group role : Option String) (s : Session) :
    MovesBy Move.EditingEntries (addGroupEntry template group role) s := by
  refine .bind (.accepted _ s) ?_
  intro r t hr
  refine .bind (requireTemplate_moves template t) ?_
  intro found u _
  refine .bind (.reading _ u) ?_
  intro present v _
  exact writeEntry_moves present (.templateGroup none (some found.id) group (some r)) v
    (isRole_of_accepted hr)

theorem setCharacteristic_moves (template role : Option String) (flag : Option Bool)
    (s : Session) : MovesBy Move.EditingEntries (setCharacteristic template role flag) s := by
  refine .bind (.accepted _ s) ?_
  intro r t hr
  refine .bind (requireTemplate_moves template t) ?_
  intro found u _
  refine .bind (.reading _ u) ?_
  intro present v _
  have hrest : ∀ w, MovesBy Move.EditingEntries (do
      commit
      return (⟨none, found.id, r, flag.getD false⟩ : Characteristic)) w := by
    intro w
    refine .bind (.commit trivial) ?_
    intro _ x _
    exact .pure _ x
  cases present with
  | true =>
    refine .bind (.writing (c := .setFlag found.id r flag) rfl trivial ⟨trivial, nofun⟩) ?_
    intro _ w _
    exact hrest w
  | false =>
    -- only a new characteristic brings its role along
    refine .bind (.writing (c := .insert (.characteristic none (some found.id) (some r) flag)) rfl
      trivial ⟨isRole_of_accepted hr, nofun⟩) ?_
    intro _ w _
    exact hrest w

/-- Taking entries away commits whether or not there were any. -/
theorem dropEntries_moves {c : Change} {f : Store → Store} {s : Session}
    (hf : c.run s.working = .ok (f s.working)) (hfits : c.Fits s) (h : c.EditsEntries)
    (present : Bool) :
    MovesBy Move.EditingEntries (do changing f; commit; return present : Action Bool) s := by
  refine .bind (.changing hf hfits h) ?_
  intro _ t _
  refine .bind (.commit trivial) ?_
  intro _ u _
  exact .pure _ u

/-- Whether an editing call creates a template. -/
def TemplateCall.creates : TemplateCall → Bool
  | .create .. => true
  | _ => false

/-- Only what creates a template brings one along. -/
theorem TemplateCall.run_movesEntries {c : TemplateCall} (hc : c.creates = false) (s : Session) :
    MovesBy Move.EditingEntries c.run s := by
  cases c with
  | create id organization name description => cases hc
  | addUser template user role => exact .map _ (addUserEntry_moves template user role s)
  | addGroup template group role =>
    refine .bind (.accepted _ s) ?_
    intro _ t _
    refine .bind (requireTemplate_moves template t) ?_
    intro _ u _
    refine .bind (.usable _ u) ?_
    intro id v _
    exact .map _ (addGroupEntry_moves template id role v)
  | removeUser template user role =>
    refine .map _ (.bind (.reading _ s) ?_)
    intro present t _
    exact dropEntries_moves (c := .dropTemplateUsers (TemplateUser.isFor template user role)) rfl
      trivial ⟨trivial, nofun⟩ present
  | removeGroup template group role =>
    refine .bind (.usable _ s) ?_
    intro id t _
    refine .map _ (.bind (.reading _ t) ?_)
    intro present u _
    exact dropEntries_moves (c := .dropTemplateGroups (TemplateGroup.isFor template id role)) rfl
      trivial ⟨trivial, nofun⟩ present
  | setCharacteristic template role flag =>
    exact .map _ (setCharacteristic_moves template role flag s)
  | resolve id => exact .map _ (resolveTemplate_moves id s)
  | resolveDefault selector => exact .map _ (resolveDefault_moves (fun _ => trivial) selector s)

theorem TemplateCall.run_moves (c : TemplateCall) (s : Session) :
    MovesBy Move.Editing c.run s := by
  cases hc : c.creates with
  | false => exact (run_movesEntries hc s).mono fun _ => Move.EditingEntries.editing
  | true =>
    cases c with
    | create id organization name description =>
      exact .map _ (createTemplate_moves id organization name description s)
    | _ => cases hc

/-! ### Applying templates -/

theorem writeGrants_moves (faults : Faults) (scope : Scope) (start : Nat)
    (plan : List (Principal × Option String)) (s : Session) :
    MovesBy Move.Adding (writeGrants faults scope start plan) s := by
  induction plan generalizing start s with
  | nil => exact .pure _ s
  | cons w rest ih =>
    refine .bind (.strike _ s) ?_
    intro _ t _
    refine .bind (grantTo_moves w.1 w.2 scope t) ?_
    intro fresh u _
    refine .bind (ih (start + 1) u) ?_
    intro more v _
    exact .pure _ v

theorem carryOut_moves (faults : Faults) (plan : List (Principal × Option String))
    (project : String) (s : Session) : MovesBy Move.Applying (carryOut faults plan project) s := by
  refine .bind ((writeGrants_moves faults _ 0 plan s).mono fun _ => Move.Adding.applying) ?_
  intro written t _
  refine .bind (.strike _ t) ?_
  intro _ u _
  refine .bind ((refreshGrants_moves _ u).mono fun _ => Move.Adding.applying) ?_
  intro _ v _
  refine .bind (.strike _ v) ?_
  intro _ w _
  refine .bind (.commit trivial) ?_
  intro _ x _
  exact .pure written x

theorem abandon_moves (template : Option String) (project : String) (f : Failure) (s : Session) :
    MovesBy Move.Applying (abandon template project f) s := by
  refine .bind (.rollback trivial) ?_
  intro _ t _
  -- one event either way, and then the failure
  cases f <;> exact .bind (.report trivial) fun _ u _ => .throw _ u

theorem applySnapshot_moves (faults : Faults) (t : Snapshot) (project creator : Option String)
    (s : Session) : MovesBy Move.Applying (applySnapshot faults t project creator) s := by
  refine .bind (.reading _ s) ?_
  intro found u _
  cases found with
  | none => exact .throw _ u
  | some p =>
    -- an attempt that fails has made its moves too, and the rollback is one more
    have hattempt : MovesBy Move.Applying
        (tryCatch (carryOut faults (t.plan creator) p.id) (abandon t.id p.id)) u := by
      refine .tryCatch (carryOut_moves faults _ p.id u) ?_
      intro f v _
      exact abandon_moves t.id p.id f v
    refine .bind hattempt ?_
    intro written v _
    refine .bind (.report trivial) ?_
    intro _ w _
    exact .pure t w

theorem applyTemplate_moves (faults : Faults) (template project creator : Option String)
    (s : Session) : MovesBy Move.Applying (applyTemplate faults template project creator) s := by
  refine .bind (resolveTemplate_moves template s) ?_
  intro t u _
  exact applySnapshot_moves faults t project creator u

theorem applyDefault_moves (faults : Faults) (selector : String) (project creator : Option String)
    (s : Session) : MovesBy Move.Applying (applyDefault faults selector project creator) s := by
  refine .bind (resolveDefault_moves (fun _ => trivial) _ s) ?_
  intro found u _
  cases found with
  | none =>
    refine .bind (.report trivial) ?_
    intro _ v _
    exact .pure none v
  | some t =>
    refine .bind (applySnapshot_moves faults t project creator u) ?_
    intro applied v _
    exact .pure (some applied) v

theorem simulate_moves {allowed : Move → Prop} (h : ∀ e, allowed (.report e)) (selector : String)
    (outage : Option StoreError) (user role key qualifier : Option String) (s : Session) :
    MovesBy allowed (simulate selector outage user role key qualifier) s := by
  refine .bind (resolveDefault_moves h _ s) ?_
  intro found t _
  cases found with
  | none => exact .pure _ t
  | some template => exact .reading _ t

/-! ### Changing rows -/

theorem groupNameOf_eq_ok {name : Option String} {n : String} (h : groupNameOf name = .ok n) :
    name = some n := by
  unfold groupNameOf at h
  split at h
  · next name =>
    split at h
    · cases h
    · split at h <;> cases h
      rfl
  · cases h

theorem insertRow_moves {c : RowChange} {d : Change} {f : Store → Except StoreError Store}
    {s : Session} (hc : c.Makes d) (hf : f s.working = d.run s.working) (hfits : d.Fits s) :
    MovesBy c.Allows (insertRow f) s := by
  refine .bind (.writing hf hfits (.inr ⟨d, hc, rfl⟩)) ?_
  intro _ t _
  refine .bind (.commit (.inl rfl)) ?_
  intro _ u _
  exact .pure true u

theorem changeRow_moves {c : RowChange} {d : Change} {f : Store → Store} {s : Session}
    (hc : c.Makes d) (hf : d.run s.working = .ok (f s.working)) (hfits : d.Fits s) :
    MovesBy c.Allows (changeRow f) s := by
  refine .bind (.changing hf hfits (.inr ⟨d, hc, rfl⟩)) ?_
  intro _ t _
  refine .bind (.commit (.inl rfl)) ?_
  intro _ u _
  exact .pure true u

/-- What is read is read off the rows of the session, which stays as it is. -/
theorem reading_eq_ok {α : Type} {f : Store → α} {s t : Session} {a : α}
    (h : reading f s = .ok a t) : f s.working = a ∧ t = s := by
  cases h
  exact ⟨rfl, rfl⟩

theorem setMember_moves (wanted : Bool) (user group : Option String) (s : Session) :
    MovesBy (if wanted then RowChange.addMember user group
      else RowChange.removeMember user group).Allows (setMember wanted user group) s := by
  refine .bind (.reading _ s) ?_
  intro u t hu
  obtain ⟨hu, rfl⟩ := reading_eq_ok hu
  refine .bind (.reading _ t) ?_
  intro g v hg
  obtain ⟨hg, rfl⟩ := reading_eq_ok hg
  cases u with
  | none => exact .pure _ _
  | some u =>
    cases g with
    | none => exact .pure _ _
    | some g =>
      -- both are stored, as joining asks
      obtain ⟨humem, rfl⟩ := Store.mem_of_user? hu
      obtain ⟨hgmem, rfl⟩ := Store.mem_of_group? hg
      refine .bind (.reading _ _) ?_
      intro already w his
      obtain ⟨his, rfl⟩ := reading_eq_ok his
      -- what is so already is left alone
      cases wanted with
      | false =>
        cases already with
        | false => exact .pure _ _
        | true =>
          exact changeRow_moves (c := .removeMember _ _) (d := .leave u.id g.id)
            ⟨_, _, rfl, rfl, rfl⟩ rfl trivial
      | true =>
        cases already with
        | false =>
          exact changeRow_moves (c := .addMember _ _) (d := .join u.id g.id)
            ⟨_, _, rfl, rfl, rfl⟩ rfl
            ⟨Store.hasUser_of_mem humem, Store.hasGroup_of_mem hgmem, his⟩
        | true => exact .pure _ _

theorem RowChange.run_moves (c : RowChange) (s : Session) : MovesBy c.Allows c.run s := by
  cases c with
  | addOrganization id key name => exact insertRow_moves rfl rfl trivial
  | addUser id login active => exact insertRow_moves rfl rfl trivial
  | addGroup id organization name =>
    refine .bind (.accepted _ s) ?_
    intro n t haccepted
    obtain ⟨hn, rfl⟩ := accepted_eq_ok.1 haccepted
    have hname : groupNameOf (some n) = .ok n := groupNameOf_eq_ok hn ▸ hn
    exact insertRow_moves (d := .addGroup id organization n) ⟨n, hn, rfl⟩ rfl hname
  | addProject id key organization qualifier => exact insertRow_moves rfl rfl trivial
  | addMember user group => exact setMember_moves true user group s
  | removeMember user group => exact setMember_moves false user group s
  | renameGroup group name =>
    refine .bind (.reading _ s) ?_
    intro g t hg
    obtain ⟨hg, rfl⟩ := reading_eq_ok hg
    cases g with
    | none => exact .pure _ _
    | some g =>
      obtain ⟨hmem, rfl⟩ := Store.mem_of_group? hg
      refine .bind (.accepted _ _) ?_
      intro n u haccepted
      obtain ⟨hn, rfl⟩ := accepted_eq_ok.1 haccepted
      have hname : groupNameOf (some n) = .ok n := groupNameOf_eq_ok hn ▸ hn
      exact insertRow_moves (d := .renameGroup g n) ⟨g, n, rfl, hn, rfl⟩ rfl ⟨hmem, hname⟩
  | delete kind id =>
    cases id with
    | none => exact .pure _ s
    | some id =>
      refine .bind (.reading _ s) ?_
      intro has t _
      cases has with
      | false => exact .pure _ t
      | true => exact changeRow_moves (d := .delete kind id) ⟨id, rfl, rfl⟩ rfl trivial
  | insert draft => exact insertRow_moves (d := .insert draft) rfl rfl trivial

/-! ### Command lines and calls -/

namespace CommandLine

theorem failing_steps {allowed : Move → Prop} (h : ∀ e, allowed (.report e)) (command : String)
    (f : Failure) (s : Session) : Session.Steps allowed s (failing command f s).2 := by
  cases f with
  | refused r => exact .single (h _) .report
  | _ => exact .refl _ s

theorem application_moves (selector project : String) (template creator : Option String)
    (s : Session) : MovesBy Move.Applying (application selector project template creator) s := by
  unfold application
  split
  · exact applyDefault_moves _ _ _ _ s
  · exact applyDefault_moves _ _ _ _ s
  · exact .map _ (applyTemplate_moves _ _ _ _ s)

theorem applying_steps (selector project : String) (template creator : Option String)
    (s : Session) :
    Session.Steps Move.Applying s (applying selector project template creator s).2 := by
  have hmoves := application_moves selector project template creator s
  unfold MovesBy after at hmoves
  -- a failure is reported behind the moves of the application
  unfold applying
  split
  · next h =>
    rw [h] at hmoves
    exact hmoves
  · next h =>
    rw [h] at hmoves
    exact hmoves.trans (failing_steps (fun _ => trivial) _ _ _)

theorem checking_steps {allowed : Move → Prop} (h : ∀ e, allowed (.report e))
    (selector role key qualifier : String) (user : Option String) (s : Session) :
    Session.Steps allowed s (checking selector role key qualifier user s).2 := by
  have hmoves := simulate_moves h selector none user (some role) (some key) (some qualifier) s
  unfold MovesBy after at hmoves
  unfold checking
  split
  · next hrun =>
    rw [hrun] at hmoves
    exact hmoves.trans (failing_steps h _ _ _)
  · next hrun =>
    rw [hrun] at hmoves
    split
    · exact hmoves
    · exact hmoves.trans (failing_steps h _ _ _)

theorem Command.run_steps (selector : String) (command : Command) (s : Session) :
    Session.Steps Move.Applying s (command.run selector s).2 := by
  cases command with
  | createTables => exact .single (m := .report _) trivial .report
  | apply project template creator => exact applying_steps selector project template creator s
  | applyDefault project creator => exact applying_steps selector project none creator s
  | check role key qualifier user =>
    exact checking_steps (fun _ => trivial) selector role key qualifier user s

theorem run_steps (host : Host) (settings : Settings) (arguments : List String) (s : Session) :
    Session.Steps Move.Applying s (run host settings arguments s).2 := by
  rcases session_run host settings arguments s with ⟨command, -, hrun⟩ | hrun
  · -- the command begins with what is committed, and what it has not committed is lost
    rw [hrun]
    calc Session.Steps Move.Applying s s.rollback := .single (m := .rollback) trivial .rollback
      Session.Steps Move.Applying _ (command.run settings.defaultTemplate s.rollback).2 :=
        Command.run_steps settings.defaultTemplate command s.rollback
      Session.Steps Move.Applying _ _ := .single (m := .rollback) trivial .rollback
  · rw [hrun]
    exact .refl _ s

end CommandLine

theorem Question.run_moves {allowed : Move → Prop} (q : Question) (s : Session) :
    MovesBy allowed q.run s := by
  refine .bind (.reading _ s) ?_
  intro answer t _
  exact .accepted answer t

theorem adviceAnswer_moves {allowed : Move → Prop} (a : Advice StoreError) (s : Session) :
    MovesBy allowed (adviceAnswer a) s := by
  unfold adviceAnswer
  cases a.answer with
  | ok granted => exact .pure _ s
  | error e => exact .throw _ s

theorem runCommandLine_moves (host : CommandLine.Host) (settings : Settings)
    (arguments : List String) (s : Session) :
    MovesBy Move.Applying (runCommandLine host settings arguments) s := by
  have hcommit : Session.Steps Move.Applying s s.commit := .single (m := .commit) trivial .commit
  exact hcommit.trans (CommandLine.run_steps host settings arguments s.commit)

/-- **A call makes only the moves that it may.** -/
theorem Call.run_moves (c : Call) (s : Session) : MovesBy c.Allows c.run s := by
  cases c with
  | change c => exact .map _ (c.run_moves s)
  | grants c => exact c.run_moves s
  | ask q => exact q.run_moves s
  | templates c => exact c.run_moves s
  | applyTemplate faults template project creator =>
    exact .map _ (applyTemplate_moves faults template project creator s)
  | applySnapshot faults snapshot project creator =>
    exact .map _ (applySnapshot_moves faults snapshot project creator s)
  | applyDraft faults draft project creator =>
    refine .bind (.usable _ s) ?_
    intro snapshot t _
    exact .map _ (applySnapshot_moves faults snapshot project creator t)
  | applyDefault faults selector project creator =>
    exact .map _ (applyDefault_moves faults selector project creator s)
  | check selector outage user role key qualifier =>
    refine .bind (simulate_moves (fun e => ⟨e, rfl⟩) selector outage user role key qualifier s) ?_
    intro advice t _
    exact adviceAnswer_moves advice t
  | commit => exact .map _ (.commit rfl)
  | rollback => exact .map _ (.rollback rfl)
  | commandLine host settings arguments =>
    exact .map _ (runCommandLine_moves host settings arguments s)

namespace Session

theorem serve_of_ok {s t : Session} {c : Call} {a : Answer} (h : c.run s = .ok a t) :
    s.serve c = (.ok a, t) := by
  unfold serve
  rw [h]

theorem run_of_serve {s t : Session} {c : Call} {a : Answer} (h : s.serve c = (.ok a, t)) :
    c.run s = .ok a t := by
  unfold serve at h
  split at h
  · next hrun =>
    cases h
    exact hrun
  · cases h
  · cases h

/-- **A question is answered from the rows,** or refused, and the session stays as it is. -/
theorem serve_ask (s : Session) (q : Question) :
    s.serve (.ask q) = ((q.answer s.working).mapError .refused, s) := by
  unfold serve Call.run Question.run
  simp only [bind_run, reading_run]
  cases q.answer s.working <;> rfl

/-- Serving a call is a run of the moves that the call makes, and of a rollback where the store
rejected a row. -/
theorem serve_steps_of {allowed : Move → Prop} {s : Session} {c : Call}
    (h : MovesBy allowed c.run s) : Steps (fun m => allowed m ∨ m = .rollback) s (s.serve c).2 := by
  have hmoves : MovesBy (fun m => allowed m ∨ m = .rollback) c.run s := h.mono fun _ => .inl
  unfold MovesBy after at hmoves
  unfold serve
  -- only a store error is followed by a rollback
  split
  · next h =>
    rw [h] at hmoves
    exact hmoves
  · next e t h =>
    rw [h] at hmoves
    have hback : Steps (fun m => allowed m ∨ m = .rollback) t t.rollback :=
      .single (m := .rollback) (.inr rfl) .rollback
    exact hmoves.trans hback
  · next h =>
    rw [h] at hmoves
    exact hmoves

/-- **Serving a call is a run of its moves**, and of a rollback where the store rejected a row. -/
theorem serve_steps (s : Session) (c : Call) :
    Steps (fun m => c.Allows m ∨ m = .rollback) s (s.serve c).2 :=
  serve_steps_of (c.run_moves s)

theorem serveAll_append (s : Session) (calls calls' : List Call) :
    s.serveAll (calls ++ calls') = (s.serveAll calls).serveAll calls' :=
  List.foldl_append

/-- What no call of a run breaks holds at the end of the run. -/
theorem serveAll_preserves {P : Session → Prop} {s : Session} {calls : List Call}
    (hP : ∀ c ∈ calls, ∀ s, P s → P (s.serve c).2) (hs : P s) : P (s.serveAll calls) :=
  List.foldlRecOn calls _ hs fun s hs c hc => hP c hc s hs

/-- What a call leaves behind is what its action does, or the rollback behind it. -/
theorem serve_after (s : Session) (c : Call) :
    (s.serve c).2 = c.run.after s ∨ (s.serve c).2 = (c.run.after s).rollback := by
  unfold serve after
  cases c.run s with
  | ok a t => exact .inl rfl
  | error f t =>
    cases f with
    | store e => exact .inr rfl
    | _ => exact .inl rfl

/-- **A run of calls is a run of their moves,** and of rollbacks. -/
theorem serveAll_steps (s : Session) (calls : List Call) :
    Steps (fun m => (∃ c ∈ calls, c.Allows m) ∨ m = .rollback) s (s.serveAll calls) := by
  unfold serveAll
  -- the start is generalised: the induction goes along the calls that are still to come
  induction calls generalizing s with
  | nil => exact .refl _ s
  | cons c calls ih =>
    have hfirst := (serve_steps s c).mono fun m hm =>
      hm.imp_left fun h => (⟨c, List.mem_cons_self, h⟩ : ∃ c' ∈ c :: calls, c'.Allows m)
    have hrest := (ih (s.serve c).2).mono fun m hm =>
      hm.imp_left fun ⟨c', hc', h⟩ =>
        (⟨c', List.mem_cons_of_mem c hc', h⟩ : ∃ c' ∈ c :: calls, c'.Allows m)
    exact hfirst.trans hrest

/-- **Invariants along a run of calls.** What no change breaks that one of the calls may make holds
in both views of the session at the end of the run. -/
theorem serveAll_invariant {P : Store → Prop} {s : Session} {calls : List Call}
    (hP : ∀ c ∈ calls, ∀ s d store, c.Allows (.change d) → d.Fits s →
      d.run s.working = .ok store → P s.working → P store)
    (hs : InBoth P s) : InBoth P (s.serveAll calls) := by
  refine Steps.invariant ?_ (serveAll_steps s calls) hs
  rintro s d store (⟨c, hc, hallowed⟩ | hrollback) hfits hrun hs
  · exact hP c hc s d store hallowed hfits hrun hs
  · cases hrollback

/-! ### Reachable sessions -/

/-- A session to which a run of calls leads from an empty store, all of them of a kind. -/
def ReachedBy (kind : Call → Prop) (s : Session) : Prop :=
  ∃ calls : List Call, (∀ c ∈ calls, kind c) ∧ serveAll {} calls = s

/-- **A reachable session:** any run of calls leads to it from an empty store. -/
def Reachable (s : Session) : Prop := s.ReachedBy fun _ => True

/-- **Invariants of reachable sessions.** What holds of the empty store, and is broken by no
change that a call of the kind may make, holds of the rows that a reachable session sees and of
those that it has committed. -/
theorem ReachedBy.invariant {kind : Call → Prop} {P : Store → Prop} {s : Session}
    (hempty : P {})
    (hP : ∀ c, kind c → ∀ s d store, c.Allows (.change d) → d.Fits s →
      d.run s.working = .ok store → P s.working → P store)
    (h : s.ReachedBy kind) : InBoth P s := by
  obtain ⟨calls, hkind, rfl⟩ := h
  have hstart : InBoth P {} := ⟨hempty, hempty⟩
  exact serveAll_invariant (fun c hc => hP c (hkind c hc)) hstart

end Session

end RoleGrants
