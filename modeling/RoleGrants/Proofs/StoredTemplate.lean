import RoleGrants.Proofs.StoredSnapshot
import RoleGrants.Proofs.WrittenTable

/-!
# Applying stored templates

A template that is stored can be applied. Two invariants carry this. The constraints of the store
(`Store.Sound`) see to it that the users and groups of its entries exist, and that nothing is held
by a user who does not. Template editing sees to it that no role in a template is blank
(`Store.RolesKept`); the store does not know what a role is, so this holds only where no entry has
been inserted as a row (`Call.insertsEntry`).

So each entry of a stored template can be granted, and the only entries of a plan left to doubt are
those of the creator, who is looked up nowhere before the first write. `stored_template_applicable`
says when an application succeeds and what each other one is refused with.
-/

open RoleGrants.Action

namespace RoleGrants

/-! ### The roles in templates -/

/-- Every role in a template is one. -/
structure Store.RolesKept (s : Store) : Prop where
  users : ∀ e ∈ s.templateUsers, Text.isBlank e.role = false
  groups : ∀ e ∈ s.templateGroups, Text.isBlank e.role = false
  characteristics : ∀ c ∈ s.characteristics, Text.isBlank c.role = false

/-- What a change puts into a template comes with a role that is one. -/
def Change.EntersRoles : Change → Prop
  | .insert (.templateUser _ _ _ role) | .insert (.templateGroup _ _ _ role)
  | .insert (.characteristic _ _ role _) => ∃ r, roleOf role = .ok r
  | _ => True

theorem Store.RolesKept.of_subset {s t : Store} (h : s.RolesKept)
    (husers : t.templateUsers ⊆ s.templateUsers) (hgroups : t.templateGroups ⊆ s.templateGroups)
    (hcharacteristics : t.characteristics ⊆ s.characteristics) : t.RolesKept :=
  ⟨fun e he => h.users e (husers he), fun e he => h.groups e (hgroups he),
    fun c hc => h.characteristics c (hcharacteristics hc)⟩

theorem Store.RolesKept.deleteRow {s : Store} (h : s.RolesKept) (kind : RowKind) (id : String) :
    (s.deleteRow kind id).RolesKept := by
  cases kind with
  | organization =>
    -- entries of groups may go twice over: with their group, or with their template
    exact h.of_subset List.filter_sublist.subset
      (List.filter_sublist.trans List.filter_sublist).subset List.filter_sublist.subset
  | user => exact h.of_subset List.filter_sublist.subset (List.Subset.refl _) (List.Subset.refl _)
  | group => exact h.of_subset (List.Subset.refl _) List.filter_sublist.subset (List.Subset.refl _)
  | project => exact h.of_subset (List.Subset.refl _) (List.Subset.refl _) (List.Subset.refl _)
  | template =>
    exact h.of_subset List.filter_sublist.subset List.filter_sublist.subset
      List.filter_sublist.subset

/-- A role that has been found to be one is not blank. -/
theorem isBlank_of_roleOf {r : String} (h : ∃ r', roleOf (some r) = .ok r') :
    Text.isBlank r = false := by
  obtain ⟨r', h⟩ := h
  obtain ⟨heq, hblank⟩ := roleOf_eq_ok.1 h
  cases heq
  exact hblank

theorem Change.rolesKept_of_unwritten {c : Change} {s t : Store} (hrun : c.run s = .ok t)
    (husers : ¬ c.Writes .templateUsers) (hgroups : ¬ c.Writes .templateGroups)
    (hcharacteristics : ¬ c.Writes .characteristics) (h : s.RolesKept) : t.RolesKept := by
  have husers : t.templateUsers = s.templateUsers := frame hrun husers
  have hgroups : t.templateGroups = s.templateGroups := frame hrun hgroups
  have hcharacteristics : t.characteristics = s.characteristics := frame hrun hcharacteristics
  exact ⟨fun e he => h.users e (husers ▸ he), fun e he => h.groups e (hgroups ▸ he),
    fun e he => h.characteristics e (hcharacteristics ▸ he)⟩

/-- **No change makes a role in a template blank**, unless it puts one in. -/
theorem Change.rolesKept {c : Change} {s t : Store} (hc : c.EntersRoles) (hrun : c.run s = .ok t)
    (h : s.RolesKept) : t.RolesKept := by
  cases c with
  | insert draft =>
    cases draft with
    | templateUser rowId template user role =>
      obtain ⟨_, _, r, -, -, rfl, -, -, -, rfl⟩ := Store.addTemplateUser_eq_ok hrun
      refine { h with users := fun e he => ?_ }
      rcases List.mem_append.1 he with he | he
      · exact h.users e he
      · rw [List.mem_singleton.1 he]
        exact isBlank_of_roleOf hc
    | templateGroup rowId template group role =>
      obtain ⟨_, r, -, rfl, -, -, -, rfl⟩ := Store.addTemplateGroup_eq_ok hrun
      refine { h with groups := fun e he => ?_ }
      rcases List.mem_append.1 he with he | he
      · exact h.groups e he
      · rw [List.mem_singleton.1 he]
        exact isBlank_of_roleOf hc
    | characteristic rowId template role flag =>
      obtain ⟨_, r, -, rfl, -, -, rfl⟩ := Store.addCharacteristic_eq_ok hrun
      refine { h with characteristics := fun e he => ?_ }
      rcases List.mem_append.1 he with he | he
      · exact h.characteristics e he
      · rw [List.mem_singleton.1 he]
        exact isBlank_of_roleOf hc
    | _ => exact rolesKept_of_unwritten hrun nofun nofun nofun h
  | setFlag template role flag =>
    -- the flag changes and the role stays
    obtain ⟨f, -, rfl⟩ := Store.setFlag_eq_ok hrun
    refine { h with characteristics := fun c hc => ?_ }
    obtain ⟨c', hc', rfl⟩ := List.mem_map.1 hc
    split <;> exact h.characteristics c' hc'
  | dropTemplateUsers picked =>
    cases hrun
    exact h.of_subset List.filter_sublist.subset (List.Subset.refl _) (List.Subset.refl _)
  | dropTemplateGroups picked =>
    cases hrun
    exact h.of_subset (List.Subset.refl _) List.filter_sublist.subset (List.Subset.refl _)
  | delete kind id => cases hrun; exact h.deleteRow kind id
  -- what is left writes no entries
  | _ => exact rolesKept_of_unwritten hrun nofun nofun nofun h

/-! ### Entries inserted as rows -/

/-- Whether a change of a row inserts an entry of a template around template editing. -/
def RowChange.insertsEntry : RowChange → Bool
  | .insert (.templateUser ..) | .insert (.templateGroup ..) | .insert (.characteristic ..) => true
  | _ => false

def Call.insertsEntry : Call → Bool
  | .change c => c.insertsEntry
  | _ => false

theorem Change.IsGranting.entersRoles {d : Change} (h : d.IsGranting) : d.EntersRoles := by
  cases d with
  | insert draft =>
    cases draft with
    | templateUser | templateGroup | characteristic => cases h
    | _ => trivial
  | _ => trivial

theorem Change.IsEditing.entersRoles {d : Change} (h : d.IsEditing) : d.EntersRoles := by
  cases d with
  | insert draft =>
    cases draft with
    | templateUser | templateGroup | characteristic => exact h
    | _ => trivial
  | _ => trivial

theorem RowChange.Makes.entersRoles {c : RowChange} {d : Change} (hc : c.insertsEntry = false)
    (h : c.Makes d) : d.EntersRoles := by
  cases c with
  | insert draft =>
    cases h
    cases draft with
    | templateUser | templateGroup | characteristic => cases hc
    | _ => trivial
  | addGroup => obtain ⟨_, -, rfl⟩ := h; trivial
  | addMember | removeMember => obtain ⟨_, _, -, -, rfl⟩ := h; trivial
  | renameGroup => obtain ⟨_, _, -, -, rfl⟩ := h; trivial
  | delete => obtain ⟨_, -, rfl⟩ := h; trivial
  | _ => cases h; trivial

theorem Call.entersRoles {c : Call} {d : Change} (hc : c.insertsEntry = false)
    (h : c.Allows (.change d)) : d.EntersRoles := by
  cases c with
  | change c =>
    rcases h with h | ⟨d', hmakes, h⟩
    · cases h
    · cases h
      exact hmakes.entersRoles hc
  | templates => exact Change.IsEditing.entersRoles h
  | grants => exact Change.IsGranting.entersRoles (GrantCall.Allows.granting h)
  | applyTemplate | applySnapshot | applyDraft | applyDefault | commandLine =>
    exact Change.IsGranting.entersRoles (Change.IsAdding.granting h)
  | ask => cases h
  | check => obtain ⟨_, h⟩ := h; cases h
  | commit | rollback => cases h

/-- **No role in a template is blank** unless an entry has been inserted as a row. -/
theorem Session.ReachedBy.rolesKept {s : Session}
    (h : s.ReachedBy fun c => c.insertsEntry = false) : s.InBoth Store.RolesKept :=
  h.invariant ⟨fun _ he => (nomatch he), fun _ he => (nomatch he), fun _ he => (nomatch he)⟩
    fun _ hkind _ _ _ hallowed _ hrun hs =>
      Change.rolesKept (Call.entersRoles hkind hallowed) hrun hs

/-! ### What an application of a stored template comes to -/

/-- Whether the creator can be given what a template keeps for one: there is none, or it is a stored
user, or nothing is kept for one. -/
def Store.AdmitsCreator (s : Store) (template : String) (creator : Option String) : Prop :=
  creator = none ∨ (∃ user, creator = some user ∧ s.hasUser user = true) ∨
    ∀ c ∈ s.characteristics, c.template = template → c.forCreator = false

section Plan

variable {s : Store} {t : Template} {project : String}

theorem Store.grantable_of_knows {principal : Principal} {role : Option String} {holder : Holder}
    {r : String} (hholder : principal.holder? = some holder) (hrole : role = some r)
    (hblank : Text.isBlank r = false) (hknows : s.knows ⟨holder, some project, r⟩ = true) :
    s.grantable principal role (some project) = .ok ⟨holder, some project, r⟩ :=
  grantable_eq_ok.2 ⟨⟨holder, r, hholder, roleOf_eq_ok.2 ⟨hrole, hblank⟩, rfl⟩, .inr hknows⟩

/-- Each entry of a stored template can be granted. -/
theorem Store.Sound.grantable_entry (hs : s.Sound) (hroles : s.RolesKept) {e : Entry}
    (he : e ∈ (s.snapshot t).groups ∨ e ∈ (s.snapshot t).users)
    (hproject : s.hasProject project = true) :
    ∃ g, s.grantable e.principal e.role (some project) = .ok g := by
  rcases he with he | he
  · -- the role has been kept, and the group has been kept with its entry
    obtain ⟨r, hr, -, hrole, hprincipal⟩ := mem_groups_snapshot he
    have hholder : e.principal.holder? = some (.ofGroup r.group) := by
      rw [hprincipal]
      cases r.group <;> rfl
    refine ⟨_, grantable_of_knows hholder hrole (hroles.groups r hr) ?_⟩
    rw [knows_ofGroup]
    refine Bool.and_eq_true_iff.2 ⟨?_, hproject⟩
    cases hgroup : r.group with
    | none => rfl
    | some id =>
      obtain ⟨g, hg, rfl⟩ := hs.templateGroup_group r hr id hgroup
      exact hasGroup_of_mem hg
  · obtain ⟨r, hr, -, hrole, hprincipal, huser⟩ := mem_users_snapshot he
    have hholder : e.principal.holder? = some (.user r.user) := by
      rw [hprincipal]
      rfl
    refine ⟨_, grantable_of_knows hholder hrole (hroles.users r hr) ?_⟩
    rw [knows_user]
    exact Bool.and_eq_true_iff.2 ⟨huser, hproject⟩

/-- What is kept for the creator can be granted to a stored user only. -/
theorem Store.Sound.grantable_creator (hs : s.Sound) (hroles : s.RolesKept) (user : String)
    {role : String} (hrole : (role, true) ∈ (s.snapshot t).characteristics)
    (hproject : s.hasProject project = true) :
    s.grantable (.user (some user)) (some role) (some project) =
      if s.hasUser user then .ok ⟨.user user, some project, role⟩
      else .error (.store .missingParent) := by
  obtain ⟨c, hc, -, rfl, -⟩ := hs.mem_characteristics_snapshot.1 hrole
  -- a triple held already would be of a stored user too, so only the rows are looked at
  have hknows : s.knows ⟨.user user, some project, c.role⟩ = s.hasUser user := by
    rw [knows_user, Option.all_some, hproject, Bool.and_true]
  have hchecked := hs.checkedTriple_eq (hroles.characteristics c hc) (some (.user user))
    (some project)
  simp only [hknows] at hchecked
  exact hchecked

/-- Each entry of the plan can be granted, or it is one of an unknown creator. -/
theorem Store.Sound.grantable_plan (hs : s.Sound) (hroles : s.RolesKept)
    (hproject : s.hasProject project = true) {creator : Option String}
    {w : Principal × Option String} (hw : w ∈ (s.snapshot t).plan creator) :
    (∃ g, s.grantable w.1 w.2 (some project) = .ok g) ∨
      ¬ s.AdmitsCreator t.id creator ∧
        s.grantable w.1 w.2 (some project) = .error (.store .missingParent) := by
  rcases Snapshot.mem_plan.1 hw with ⟨e, he, rfl⟩ | ⟨user, role, rfl, hrole, rfl⟩
  · exact .inl (hs.grantable_entry hroles he hproject)
  · have hgrantable := hs.grantable_creator hroles user hrole hproject
    cases huser : s.hasUser user with
    | true =>
      rw [huser, if_pos rfl] at hgrantable
      exact .inl ⟨_, hgrantable⟩
    | false =>
      rw [huser, if_neg Bool.false_ne_true] at hgrantable
      refine .inr ⟨?_, hgrantable⟩
      obtain ⟨c, hc, htemplate, -, hflag⟩ := hs.mem_characteristics_snapshot.1 hrole
      rintro (h | ⟨u, h, hknown⟩ | h)
      · cases h
      · cases h
        rw [huser] at hknown
        cases hknown
      · rw [h c hc htemplate] at hflag
        cases hflag

/-- An unknown creator for whom something is kept has an entry that cannot be granted. -/
theorem Store.Sound.exists_plan_error (hs : s.Sound) (hroles : s.RolesKept)
    (hproject : s.hasProject project = true) {creator : Option String}
    (hcreator : ¬ s.AdmitsCreator t.id creator) :
    ∃ w ∈ (s.snapshot t).plan creator,
      s.grantable w.1 w.2 (some project) = .error (.store .missingParent) := by
  -- there is a creator, it is not stored, and something is kept for it
  obtain ⟨hsome, hunknown, hkept⟩ : creator ≠ none ∧
      (¬ ∃ user, creator = some user ∧ s.hasUser user = true) ∧
      ¬ ∀ c ∈ s.characteristics, c.template = t.id → c.forCreator = false := by
    rw [AdmitsCreator, not_or, not_or] at hcreator
    exact hcreator
  obtain ⟨user, rfl⟩ := Option.ne_none_iff_exists'.1 hsome
  have huser : s.hasUser user = false :=
    Bool.eq_false_iff.2 fun h => hunknown ⟨user, rfl, h⟩
  simp only [Classical.not_forall] at hkept
  obtain ⟨c, hc, htemplate, hflag⟩ := hkept
  have hrole : (c.role, true) ∈ (s.snapshot t).characteristics :=
    hs.mem_characteristics_snapshot.2 ⟨c, hc, htemplate, rfl, by simpa using hflag⟩
  refine ⟨_, Snapshot.mem_plan.2 (.inr ⟨user, c.role, rfl, hrole, rfl⟩), ?_⟩
  rw [hs.grantable_creator hroles user hrole hproject, huser, if_neg Bool.false_ne_true]

end Plan

/-- An application without failures from outside, of a stored template to a stored project. -/
theorem applySnapshot_stored {s : Session} {t : Template} {p : Project} {project : Option String}
    (hs : s.working.Sound) (hroles : s.working.RolesKept)
    (hp : s.working.project? project = some p) (creator : Option String) :
    (s.working.AdmitsCreator t.id creator ∧
        ∃ u, applySnapshot .none (s.working.snapshot t) project creator s =
          .ok (s.working.snapshot t) u) ∨
      ¬ s.working.AdmitsCreator t.id creator ∧
        ∃ u, applySnapshot .none (s.working.snapshot t) project creator s =
          .error (.refused (.notApplied (some t.id) p.id .missingParent)) u := by
  obtain ⟨hmem, rfl⟩ := Store.mem_of_project? hp
  have hproject : s.working.hasProject p.id = true := Store.hasProject_of_mem hmem
  rw [applySnapshot_run, hp]
  simp only [carryOut_run]
  cases hwrites : writeGrants .none (.project (some p.id)) 0
      ((s.working.snapshot t).plan creator) s with
  | ok n v =>
    refine .inl ⟨?_, _, rfl⟩
    -- an unknown creator would have stopped the writing
    by_cases hcreator : s.working.AdmitsCreator t.id creator
    · exact hcreator
    · obtain ⟨w, hw, herror⟩ := hs.exists_plan_error hroles hproject hcreator
      obtain ⟨g, hg⟩ := (canGrant_of_writeGrants hwrites).2 w hw
      have hg : s.working.grantable w.1 w.2 (some p.id) = .ok g := hg
      rw [herror] at hg
      cases hg
  | error f v =>
    -- nothing strikes from outside, so an entry could not be granted: one of the creator
    rcases (writeGrants_eq_error hwrites).1 with ⟨i, -, hfault⟩ | ⟨w, hw, herror⟩
    · cases hfault
    · have herror : s.working.grantable w.1 w.2 (some p.id) = .error f := herror
      rcases hs.grantable_plan hroles hproject hw with ⟨g, hg⟩ | ⟨hcreator, hparent⟩
      · rw [herror] at hg
        cases hg
      · rw [herror] at hparent
        cases hparent
        exact .inr ⟨hcreator, _, rfl⟩

/-- An application of a template by its id is one of its snapshot. -/
theorem applyTemplate_run (faults : Faults) (template : String) (project creator : Option String)
    (s : Session) :
    applyTemplate faults (some template) project creator s =
      match s.working.template? (some template) with
      | some t => applySnapshot faults (s.working.snapshot t) project creator s
      | none => .error (.refused (.noTemplateWithId template)) s := by
  have hrun := TemplateSource.apply_run faults (.stored (some template)) project creator s
  rw [TemplateSource.apply, TemplateSource.resolve, Store.findTemplate] at hrun
  rw [hrun]
  cases s.working.template? (some template) <;> rfl

/-- The four ways in which an application of a stored template can end by itself. -/
theorem applyTemplate_outcome {s : Session} (hs : s.working.Sound) (hroles : s.working.RolesKept)
    (template : String) (project creator : Option String) :
    ((∀ t ∈ s.working.templates, t.id ≠ template) ∧
      applyTemplate .none (some template) project creator s =
        .error (.refused (.noTemplateWithId template)) s) ∨
    (∃ t ∈ s.working.templates, t.id = template) ∧
      (((∀ p ∈ s.working.projects, project ≠ some p.id) ∧
        applyTemplate .none (some template) project creator s =
          .error (.refused (.noProject project)) s) ∨
      ∃ p ∈ s.working.projects, project = some p.id ∧
        ((s.working.AdmitsCreator template creator ∧
          ∃ t u, applyTemplate .none (some template) project creator s = .ok t u) ∨
        ¬ s.working.AdmitsCreator template creator ∧
          ∃ u, applyTemplate .none (some template) project creator s =
            .error (.refused (.notApplied (some template) p.id .missingParent)) u)) := by
  rw [applyTemplate_run]
  cases ht : s.working.template? (some template) with
  | none =>
    refine .inl ⟨fun t hmem hid => ?_, rfl⟩
    have hnone := List.find?_eq_none.1 ht t hmem
    exact hnone (by simp [hid])
  | some t =>
    obtain ⟨hmem, hid⟩ := Store.mem_of_template? ht
    cases hid
    refine .inr ⟨⟨t, hmem, rfl⟩, ?_⟩
    -- the project is looked up before anything is written
    cases hp : s.working.project? project with
    | none =>
      refine .inl ⟨fun p hmem hid => ?_, by simp only [applySnapshot_run, hp]⟩
      have hnone := List.find?_eq_none.1 hp p hmem
      exact hnone (by simp [hid])
    | some p =>
      obtain ⟨hpmem, hid⟩ := Store.mem_of_project? hp
      refine .inr ⟨p, hpmem, hid, ?_⟩
      rcases applySnapshot_stored (t := t) hs hroles hp creator with
        ⟨hcreator, u, h⟩ | ⟨hcreator, u, h⟩
      · exact .inl ⟨hcreator, _, u, h⟩
      · exact .inr ⟨hcreator, u, h⟩

/-- **A stored template can be applied.** In a session reached without entries inserted as rows,
and with nothing striking from outside, an application succeeds exactly when the template and the
project are there and the creator can be given what the template keeps for one. Otherwise the
first of the three that fails is told, the last as a reference of the store that dangles. Neither
a malformed value nor a key that is taken is ever the reason. -/
theorem stored_template_applicable {s : Session}
    (hs : s.ReachedBy fun c => c.insertsEntry = false) (template : String)
    (project creator : Option String) :
    ((∃ t u, applyTemplate .none (some template) project creator s = .ok t u) ↔
      (∃ t ∈ s.working.templates, t.id = template) ∧
        (∃ p ∈ s.working.projects, project = some p.id) ∧
        s.working.AdmitsCreator template creator) ∧
    ((∀ t ∈ s.working.templates, t.id ≠ template) →
      applyTemplate .none (some template) project creator s =
        .error (.refused (.noTemplateWithId template)) s) ∧
    ((∃ t ∈ s.working.templates, t.id = template) →
      (∀ p ∈ s.working.projects, project ≠ some p.id) →
        applyTemplate .none (some template) project creator s =
          .error (.refused (.noProject project)) s) ∧
    ((∃ t ∈ s.working.templates, t.id = template) →
      ∀ p ∈ s.working.projects, project = some p.id →
        ¬ s.working.AdmitsCreator template creator →
          ∃ u, applyTemplate .none (some template) project creator s =
            .error (.refused (.notApplied (some template) p.id .missingParent)) u) ∧
    ∀ e u, applyTemplate .none (some template) project creator s = .error e u →
      ∃ r, e = .refused r ∧ r.kind ≠ .invalid ∧
        ∀ columns, r.cause ≠ some (.duplicate columns) := by
  rcases applyTemplate_outcome hs.sound.1 hs.rolesKept.1 template project creator with
    ⟨hmissing, h⟩ | ⟨⟨t, ht, hid⟩, ⟨hmissing, h⟩ | ⟨p, hp, rfl, ⟨hcreator, t', u, h⟩ |
      ⟨hcreator, u, h⟩⟩⟩
  · -- no such template
    have hnone : ¬ ∃ t ∈ s.working.templates, t.id = template := by
      rintro ⟨t, ht, hid⟩
      exact hmissing t ht hid
    rw [h]
    refine ⟨⟨?_, ?_⟩, ?_, ?_, ?_, ?_⟩
    · rintro ⟨_, _, hok⟩
      cases hok
    · rintro ⟨hthere, -⟩
      exact absurd hthere hnone
    · intro _
      rfl
    · intro hthere
      exact absurd hthere hnone
    · intro hthere
      exact absurd hthere hnone
    · intro e u herror
      cases herror
      exact ⟨_, rfl, nofun, nofun⟩
  · -- no such project
    have hnone : ¬ ∃ p ∈ s.working.projects, project = some p.id := by
      rintro ⟨p, hp, heq⟩
      exact hmissing p hp heq
    rw [h]
    refine ⟨⟨?_, ?_⟩, ?_, ?_, ?_, ?_⟩
    · rintro ⟨_, _, hok⟩
      cases hok
    · rintro ⟨-, hproject, -⟩
      exact absurd hproject hnone
    · intro hmissing
      exact absurd hid (hmissing t ht)
    · intro _ _
      rfl
    · intro _ p hp heq
      exact absurd ⟨p, hp, heq⟩ hnone
    · intro e u herror
      cases herror
      exact ⟨_, rfl, nofun, nofun⟩
  · -- it goes through
    rw [h]
    refine ⟨⟨?_, ?_⟩, ?_, ?_, ?_, ?_⟩
    · intro _
      exact ⟨⟨t, ht, hid⟩, ⟨p, hp, rfl⟩, hcreator⟩
    · intro _
      exact ⟨t', u, rfl⟩
    · intro hmissing
      exact absurd hid (hmissing t ht)
    · intro _ hmissing
      exact absurd rfl (hmissing p hp)
    · intro _ _ _ _ hunknown
      exact absurd hcreator hunknown
    · intro e u herror
      cases herror
  · -- the creator is unknown
    rw [h]
    refine ⟨⟨?_, ?_⟩, ?_, ?_, ?_, ?_⟩
    · rintro ⟨_, _, hok⟩
      cases hok
    · rintro ⟨-, -, hknown⟩
      exact absurd hknown hcreator
    · intro hmissing
      exact absurd hid (hmissing t ht)
    · intro _ hmissing
      exact absurd rfl (hmissing p hp)
    · intro _ q _ hq _
      rw [Option.some.inj hq]
      exact ⟨u, rfl⟩
    · intro e u herror
      cases herror
      exact ⟨_, rfl, nofun, nofun⟩

/-- The template of the sample keeps a role for the creator, so an unknown one is an obstacle. -/
theorem sample_applicable :
    (∃ t u, applyTemplate .none (some "t") (some "q") (some "u") Session.sample = .ok t u) ∧
      ∃ u, applyTemplate .none (some "t") (some "q") (some "nobody") Session.sample =
        .error (.refused (.notApplied (some "t") "q" .missingParent)) u := by
  have hs : Session.sample.ReachedBy fun c => c.insertsEntry = false :=
    ⟨sampleCalls, by decide, rfl⟩
  have ht : ∃ t ∈ Session.sample.working.templates, t.id = "t" := by decide +kernel
  refine ⟨(stored_template_applicable hs "t" (some "q") (some "u")).1.2 ⟨ht, ?_, ?_⟩, ?_⟩
  · decide +kernel
  · exact .inr (.inl ⟨"u", rfl, by decide +kernel⟩)
  · refine (stored_template_applicable hs "t" (some "q") (some "nobody")).2.2.2.1 ht
      ⟨"q", "lab", "TRK", none, none⟩ (by decide +kernel) rfl ?_
    rintro (h | ⟨user, h, hknown⟩ | h)
    · cases h
    · cases h
      exact absurd hknown (by decide +kernel)
    · exact absurd (h ⟨none, "t", "admin", true⟩ (by decide +kernel) rfl) nofun

end RoleGrants
