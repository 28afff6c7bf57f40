import RoleGrants.Proofs.Deletion
import RoleGrants.Proofs.StoredFact
import RoleGrants.Proofs.TemplateEdits

/-!
# References of template entries

An edit that adds an entry or sets a flag is for a role and names rows: the template, and the user
or the group of the entry (`TemplateEdit.Names`). The role is checked first, then the template, then
the user, and what is found wanting is refused and nothing is done. The group is not checked. A
group that is not stored is found out by the store, which rejects the entry, and with the rollback
that follows all that was pending is gone. `entry_edits_refused_or_rejected` says so, and that there
is no other way to fail.

That no other rejection is left rests on the test before the write. An entry is written only when no
row states it yet, and then no key is in the way (`Store.insertDraft_of_new`). Nor is an entry for a
missing group ever passed over as one that is there, because whatever is stated refers to stored
rows (`Store.Sound.hasParents_of_mem_facts`).
-/

open RoleGrants.Action

namespace RoleGrants

/-! ### Rows that are looked up -/

section Lookup

variable {α : Type}

/-- Nothing is found by an id exactly when no row has it. -/
theorem find?_id_eq_none_iff {rows : List α} {id : α → String} {v : String} :
    rows.find? (fun r => some (id r) == some v) = none ↔ rows.any (id · == v) = false := by
  simp only [List.find?_eq_none, List.any_eq_false, Option.some_beq_some]

end Lookup

namespace Store

variable {s : Store} {id : String}

theorem template?_eq_none_iff : s.template? (some id) = none ↔ s.hasTemplate id = false :=
  find?_id_eq_none_iff

theorem user?_eq_none_iff : s.user? (some id) = none ↔ s.hasUser id = false :=
  find?_id_eq_none_iff

end Store

/-! ### Writing what is not stated yet -/

section Parents

variable {α β : Type} {rows : List α} {column : α → Option String} {parents : List β}
  {id : β → String} {r : α}

/-- The row that a row refers to is there, if it refers to one. -/
theorem Refers.all_any (h : Refers rows column parents id) (hr : r ∈ rows) :
    (column r).all (fun v => parents.any (id · == v)) = true := by
  cases hv : column r with
  | none => rfl
  | some v =>
    obtain ⟨p, hp, hid⟩ := h r hr v hv
    exact List.any_eq_true.2 ⟨p, hp, beq_iff_eq.2 hid⟩

end Parents

namespace Store

variable {s : Store} {f : Fact}

/-- Whatever is stated refers to rows that are there. -/
theorem Sound.hasParents_of_mem_facts (h : s.Sound) (hf : f ∈ s.facts) : s.hasParents f = true := by
  cases f with
  | userGrant user project role =>
    obtain ⟨r, hr, rfl, rfl, rfl⟩ := mem_facts.1 hf
    rw [hasParents, Bool.and_eq_true]
    exact ⟨h.userGrant_user.all_any hr, h.userGrant_project.all_any hr⟩
  | groupGrant group project role =>
    obtain ⟨r, hr, rfl, rfl, rfl⟩ := mem_facts.1 hf
    rw [hasParents, Bool.and_eq_true]
    exact ⟨h.groupGrant_group.all_any hr, h.groupGrant_project.all_any hr⟩
  | templateUser template user role =>
    obtain ⟨r, hr, rfl, rfl, rfl⟩ := mem_facts.1 hf
    rw [hasParents, Bool.and_eq_true]
    exact ⟨h.templateUser_template.all_any hr, h.templateUser_user.all_any hr⟩
  | templateGroup template group role =>
    obtain ⟨r, hr, rfl, rfl, rfl⟩ := mem_facts.1 hf
    rw [hasParents, Bool.and_eq_true]
    exact ⟨h.templateGroup_template.all_any hr, h.templateGroup_group.all_any hr⟩
  | characteristic template role =>
    obtain ⟨r, hr, rfl, rfl⟩ := mem_facts.1 hf
    exact h.characteristic_template.all_any hr

/-- A row that states something new is kept out by its references alone, in its table. -/
theorem insertDraft_of_table {α : Type} {keys : List (Key α)} {fact : α → Fact} {table : String}
    {rowId : α → Option String} (h : FactTable keys fact table rowId) (row : α)
    (put : List α → Store) {d : RowDraft} {rows : List α} (hid : rowId row = none)
    (hnew : fact row ∉ rows.map fact)
    (hrun : s.insertDraft d = (accept keys (s.hasParents (fact row)) rows row).map put) :
    ∃ t, s.insertDraft d =
      if s.hasParents (fact row) then .ok t else .error .missingParent := by
  have hfresh : Fresh keys rows row := by
    intro r hr hclash
    rcases h.clash_keys_iff.1 hclash with hsame | ⟨id, hsome, -⟩
    · exact hnew (List.mem_map.2 ⟨r, hr, hsame.symm⟩)
    · rw [hid] at hsome
      cases hsome
  refine ⟨put (rows ++ [row]), ?_⟩
  rw [hrun, accept_of_fresh hfresh]
  split <;> rfl

/-- **What is stated nowhere is kept out by its references alone,** when the row brings no id. -/
theorem insertDraft_of_new {d : RowDraft} (hd : d.fact? = some f) (hid : d.rowId = none)
    (hnew : f ∉ s.facts) :
    ∃ t, s.insertDraft d = if s.hasParents f then .ok t else .error .missingParent := by
  unfold RowDraft.fact? at hd
  split at hd <;> cases hd
  · next rowId user project role =>
    refine insertDraft_of_table UserGrant.factTable ⟨rowId, user, project, role⟩
      (fun rows => { s with userGrants := rows }) hid ?_ rfl
    simpa [mem_facts, UserGrant.fact] using hnew
  · next rowId group project role =>
    refine insertDraft_of_table GroupGrant.factTable ⟨rowId, group, project, role⟩
      (fun rows => { s with groupGrants := rows }) hid ?_ rfl
    simpa [mem_facts, GroupGrant.fact] using hnew
  · next rowId template user role =>
    refine insertDraft_of_table TemplateUser.factTable ⟨rowId, template, user, role⟩
      (fun rows => { s with templateUsers := rows }) hid ?_ rfl
    simpa [mem_facts, TemplateUser.fact] using hnew
  · next rowId template group role =>
    refine insertDraft_of_table TemplateGroup.factTable ⟨rowId, template, group, role⟩
      (fun rows => { s with templateGroups := rows }) hid ?_ rfl
    simpa [mem_facts, TemplateGroup.fact] using hnew
  · next rowId template role flag =>
    refine insertDraft_of_table Characteristic.factTable ⟨rowId, template, role, flag.getD false⟩
      (fun rows => { s with characteristics := rows }) hid ?_ rfl
    simpa [mem_facts, Characteristic.fact] using hnew

end Store

/-- **Writing an entry unless it is there:** it is answered exactly if what the entry refers to is
stored. -/
theorem writeEntry_run {s : Session} (hs : s.working.Sound) {present : Bool} {d : RowDraft}
    {f : Fact} (hd : d.fact? = some f) (hid : d.rowId = none)
    (hpresent : present = true ↔ f ∈ s.working.facts) :
    ∃ b t, (do
      if present then return false
      writing (·.insertDraft d)
      commit
      return true : Action Bool) s =
        if s.working.hasParents f then .ok b t else .error (.store .missingParent) s := by
  cases hp : present with
  | true =>
    -- the store is not asked, and it need not be
    have hparents := hs.hasParents_of_mem_facts (hpresent.1 hp)
    exact ⟨false, s, (if_pos hparents).symm⟩
  | false =>
    have hnew : f ∉ s.working.facts := by
      rw [← hpresent, hp]
      exact Bool.false_ne_true
    obtain ⟨t, ht⟩ := Store.insertDraft_of_new hd hid hnew
    refine ⟨true, { s with working := t, committed := t }, ?_⟩
    simp only [Bool.false_eq_true, if_false, bind_run]
    cases hparents : s.working.hasParents f with
    | true =>
      rw [hparents, if_pos rfl] at ht
      have hwrite : writing (·.insertDraft d) s = .ok () { s with working := t } :=
        writing_eq_ok.2 ⟨t, ht, rfl⟩
      rw [hwrite]
      rfl
    | false =>
      rw [hparents, if_neg Bool.false_ne_true] at ht
      rw [writing_eq_error.2 ⟨_, ht, rfl, rfl⟩]
      rfl

/-! ### What an edit comes to -/

/-- **The rows that an entry edit names,** and the role that it is for: the template comes first,
then the user or the group of the entry. -/
inductive TemplateEdit.Names : TemplateEdit → String → List RowReference → Prop where
  | user {template user role : String} :
      Names (.addUser template user role) role [⟨.template, template⟩, ⟨.user, user⟩]
  | group {template group role : String} :
      Names (.addGroup template (some group) role) role [⟨.template, template⟩, ⟨.group, group⟩]
  | anyone {template role : String} :
      Names (.addGroup template none role) role [⟨.template, template⟩]
  | flag {template role : String} {flag : Bool} :
      Names (.setFlag template role flag) role [⟨.template, template⟩]

/-- The row that is referred to is stored. -/
def Store.Has (s : Store) (row : RowReference) : Prop := s.hasRow row.kind row.id = true

instance (s : Store) (row : RowReference) : Decidable (s.Has row) :=
  inferInstanceAs (Decidable (_ = true))

/-- **What an entry edit comes to.** It is refused for its role, or for a row that is checked and
missing; it is rejected for a missing row that is not checked; or it is answered. -/
inductive TemplateEdit.Outcome (s : Session) (edit : TemplateEdit) (role : String)
    (named : List RowReference) : Prop where
  | blank (hrole : Text.isBlank role = true)
      (hrun : edit.call.run s = .error (.refused .blankRole) s) : Outcome s edit role named
  | missing {row : RowReference} {r : Refusal} (hrole : Text.isBlank role = false)
      (hrow : row ∈ named) (hkind : row.kind ≠ .group) (habsent : ¬ s.working.Has row)
      (hr : r.kind = .notFound) (hrun : edit.call.run s = .error (.refused r) s) :
      Outcome s edit role named
  | rejected {row : RowReference} (hrole : Text.isBlank role = false)
      (hrow : row ∈ named) (habsent : ¬ s.working.Has row)
      (hothers : ∀ row ∈ named, row.kind ≠ .group → s.working.Has row)
      (hrun : edit.call.run s = .error (.store .missingParent) s) : Outcome s edit role named
  | answered {a : Answer} {t : Session} (hrole : Text.isBlank role = false)
      (hall : ∀ row ∈ named, s.working.Has row) (hrun : edit.call.run s = .ok a t) :
      Outcome s edit role named

namespace TemplateEdit

variable {s : Session}

/-- The checks of a role and a template, and what follows on them. -/
theorem checked_run {α : Type} (role template : String) (next : String → Template → Action α)
    (s : Session) :
    (do
      let r ← accepted (roleOf (some role))
      let x ← requireTemplate (some template)
      next r x : Action α) s =
      if Text.isBlank role then .error (.refused .blankRole) s
      else match s.working.template? (some template) with
        | none => .error (.refused (.noTemplateWithId template)) s
        | some x => next role x s := by
  rw [bind_run]
  cases hrole : Text.isBlank role with
  | true =>
    have hroleOf : roleOf (some role) = .error .blankRole := by
      rw [roleOf, if_pos hrole]
    rw [hroleOf]
    rfl
  | false =>
    rw [roleOf_eq_ok.2 ⟨rfl, hrole⟩]
    dsimp only [accepted, pure_run]
    rw [bind_run, requireTemplate_run]
    cases s.working.template? (some template) <;> rfl

/-- What is left to be seen of an edit once its role and its template have been checked. -/
theorem Outcome.of_checked {α : Type} {edit : TemplateEdit} {role template : String}
    {others : List RowReference} {f : α → Answer} {x : Action α}
    {next : String → Template → Action α}
    (hcall : edit.call.run s = (f <$> x) s)
    (hx : x s = (do
      let r ← accepted (roleOf (some role))
      let y ← requireTemplate (some template)
      next r y : Action α) s)
    (hnext : ∀ y, Text.isBlank role = false → y ∈ s.working.templates → y.id = template →
      edit.call.run s = (f <$> next role y) s →
        Outcome s edit role (⟨.template, template⟩ :: others)) :
    Outcome s edit role (⟨.template, template⟩ :: others) := by
  rw [map_run, hx, checked_run] at hcall
  cases hrole : Text.isBlank role with
  | true =>
    rw [if_pos hrole] at hcall
    exact .blank hrole hcall
  | false =>
    rw [if_neg (Bool.eq_false_iff.1 hrole)] at hcall
    cases hy : s.working.template? (some template) with
    | none =>
      rw [hy] at hcall
      have habsent : ¬ s.working.Has ⟨.template, template⟩ :=
        Bool.eq_false_iff.1 (Store.template?_eq_none_iff.1 hy)
      exact .missing hrole List.mem_cons_self (fun h => nomatch h) habsent rfl hcall
    | some y =>
      rw [hy] at hcall
      obtain ⟨hmem, hid⟩ := Store.mem_of_template? hy
      exact hnext y hrole hmem (Option.some.inj hid).symm (hcall.trans (map_run f _ s).symm)

/-- With the template and the user stored, the entry is answered. -/
theorem userEntry_run (hs : s.working.Sound) {y : Template} (hy : y ∈ s.working.templates)
    {user : String} (huser : s.working.hasUser user = true) (role : String) :
    ∃ b t, (do
      let present ← reading (·.templateUsers.any fun e =>
        e.template == y.id && some e.user == some user && e.role == role)
      if present then return false
      writing (·.addTemplateUser none (some y.id) (some user) (some role))
      commit
      return true : Action Bool) s = .ok b t := by
  have hpresent : (s.working.templateUsers.any fun e =>
      e.template == y.id && some e.user == some user && e.role == role) = true ↔
        Fact.templateUser y.id user role ∈ s.working.facts := by
    simp [Store.mem_facts, and_assoc]
  have htemplate : s.working.hasTemplate y.id = true := any_id_of_mem hy
  obtain ⟨b, t, hwrite⟩ := writeEntry_run hs
    (d := .templateUser none (some y.id) (some user) (some role)) rfl rfl hpresent
  rw [Store.hasParents, htemplate, huser, Bool.and_self, if_pos rfl] at hwrite
  exact ⟨b, t, hwrite⟩

theorem outcome_addUser (hs : s.working.Sound) (template user role : String) :
    Outcome s (.addUser template user role) role [⟨.template, template⟩, ⟨.user, user⟩] := by
  refine .of_checked rfl rfl fun y hrole hy hid hrun => ?_
  subst hid
  have htemplate : s.working.Has ⟨.template, y.id⟩ := any_id_of_mem hy
  rw [map_run, bind_run, reading_run] at hrun
  dsimp only at hrun
  -- the user is looked up before the entry is
  cases hu : s.working.user? (some user) with
  | none =>
    have habsent : ¬ s.working.Has ⟨.user, user⟩ :=
      Bool.eq_false_iff.1 (Store.user?_eq_none_iff.1 hu)
    rw [hu] at hrun
    exact .missing hrole (List.mem_cons_of_mem _ List.mem_cons_self) (fun h => nomatch h) habsent
      rfl hrun
  | some u =>
    obtain ⟨hmem, hid⟩ := Store.mem_of_user? hu
    have huser : s.working.hasUser user = true := Option.some.inj hid ▸ Store.hasUser_of_mem hmem
    obtain ⟨b, t, hwrite⟩ := userEntry_run hs hy huser role
    rw [hu, Option.isNone_some, if_neg Bool.false_ne_true, hwrite] at hrun
    exact .answered hrole
      (List.forall_mem_cons.2 ⟨htemplate, List.forall_mem_singleton.2 huser⟩) hrun

/-- The checks of a role and a template are made twice for an entry of a group or of Anyone, and the
second time they find what they found the first time. -/
theorem run_addGroup (template : String) (group : Option String) (role : String) (s : Session) :
    (TemplateEdit.addGroup template group role).call.run s =
      (Answer.flag <$> addGroupEntry (some template) group (some role)) s := by
  have hcall : (TemplateEdit.addGroup template group role).call.run s = (do
      let _ ← accepted (roleOf (some role))
      let _ ← requireTemplate (some template)
      Answer.flag <$> addGroupEntry (some template) group (some role) : Action Answer) s := by
    cases group <;> rfl
  have hentry : addGroupEntry (some template) group (some role) s = _ :=
    checked_run role template _ s
  rw [hcall, checked_run, map_run, hentry]
  cases Text.isBlank role with
  | true => rfl
  | false => cases s.working.template? (some template) <;> rfl

/-- With the template stored, an entry of Anyone is answered, and one of a group exactly if the
group is stored. -/
theorem groupEntry_run (hs : s.working.Sound) {y : Template} (hy : y ∈ s.working.templates)
    (group : Option String) (role : String) :
    ∃ b t, (do
      let present ← reading (·.templateGroups.any fun e =>
        e.template == y.id && e.group == group && e.role == role)
      if present then return false
      writing (·.addTemplateGroup none (some y.id) group (some role))
      commit
      return true : Action Bool) s =
        if group.all s.working.hasGroup then .ok b t else .error (.store .missingParent) s := by
  have hpresent : (s.working.templateGroups.any fun e =>
      e.template == y.id && e.group == group && e.role == role) = true ↔
        Fact.templateGroup y.id group role ∈ s.working.facts := by
    simp [Store.mem_facts, and_assoc]
  have htemplate : s.working.hasTemplate y.id = true := any_id_of_mem hy
  obtain ⟨b, t, hwrite⟩ := writeEntry_run hs
    (d := .templateGroup none (some y.id) group (some role)) rfl rfl hpresent
  rw [Store.hasParents, htemplate, Bool.true_and] at hwrite
  exact ⟨b, t, hwrite⟩

theorem outcome_addGroup (hs : s.working.Sound) (template group role : String) :
    Outcome s (.addGroup template (some group) role) role
      [⟨.template, template⟩, ⟨.group, group⟩] := by
  refine .of_checked (run_addGroup template (some group) role s) rfl fun y hrole hy hid hrun => ?_
  subst hid
  have htemplate : s.working.Has ⟨.template, y.id⟩ := any_id_of_mem hy
  obtain ⟨b, t, hwrite⟩ := groupEntry_run hs hy (some group) role
  rw [map_run, hwrite, Option.all_some] at hrun
  cases hgroup : s.working.hasGroup group with
  | true =>
    rw [hgroup, if_pos rfl] at hrun
    exact .answered hrole
      (List.forall_mem_cons.2 ⟨htemplate, List.forall_mem_singleton.2 hgroup⟩) hrun
  | false =>
    rw [hgroup, if_neg Bool.false_ne_true] at hrun
    -- the template has been found, and so the group is what is missing
    refine .rejected hrole (List.mem_cons_of_mem _ List.mem_cons_self) (Bool.eq_false_iff.1 hgroup)
      (List.forall_mem_cons.2 ⟨fun _ => htemplate, ?_⟩) hrun
    exact List.forall_mem_singleton.2 fun hkind => absurd rfl hkind

theorem outcome_addAnyone (hs : s.working.Sound) (template role : String) :
    Outcome s (.addGroup template none role) role [⟨.template, template⟩] := by
  refine .of_checked (run_addGroup template none role s) rfl fun y hrole hy hid hrun => ?_
  subst hid
  obtain ⟨b, t, hwrite⟩ := groupEntry_run hs hy none role
  rw [map_run, hwrite, Option.all_none, if_pos rfl] at hrun
  exact .answered hrole (List.forall_mem_singleton.2 (any_id_of_mem hy)) hrun

/-- With the template stored, a flag is set where it is and added where it is not. -/
theorem flag_run {y : Template} (hy : y ∈ s.working.templates) (role : String) (flag : Bool) :
    ∃ c t, (do
      let present ← reading (·.characteristics.any fun c => c.template == y.id && c.role == role)
      if present then writing (·.setFlag y.id role (some flag))
      else writing (·.addCharacteristic none (some y.id) (some role) (some flag))
      commit
      return ⟨none, y.id, role, flag⟩ : Action Characteristic) s = .ok c t := by
  have hpresent : (s.working.characteristics.any fun c => c.template == y.id && c.role == role) =
      true ↔ Fact.characteristic y.id role ∈ s.working.facts := by
    simp [Store.mem_facts]
  have htemplate : s.working.hasTemplate y.id = true := any_id_of_mem hy
  rw [bind_run, reading_run]
  dsimp only
  cases hp : s.working.characteristics.any fun c => c.template == y.id && c.role == role with
  | true => exact ⟨_, _, rfl⟩
  | false =>
    have hnew : Fact.characteristic y.id role ∉ s.working.facts := by
      rw [← hpresent, hp]
      exact Bool.false_ne_true
    obtain ⟨t, ht⟩ := Store.insertDraft_of_new
      (d := .characteristic none (some y.id) (some role) (some flag)) rfl rfl hnew
    rw [Store.hasParents, htemplate, if_pos rfl] at ht
    have hwrite : writing (·.addCharacteristic none (some y.id) (some role) (some flag)) s =
        .ok () { s with working := t } := writing_eq_ok.2 ⟨t, ht, rfl⟩
    simp only [Bool.false_eq_true, if_false, bind_run, hwrite]
    exact ⟨_, _, rfl⟩

theorem outcome_setFlag (template role : String) (flag : Bool) :
    Outcome s (.setFlag template role flag) role [⟨.template, template⟩] := by
  refine .of_checked rfl rfl fun y hrole hy hid hrun => ?_
  subst hid
  obtain ⟨c, t, hwrite⟩ := flag_run hy role flag
  have hanswer : (TemplateEdit.setFlag y.id role flag).call.run s = .ok (.characteristic c) t :=
    hrun.trans (map_eq_ok.2 ⟨c, hwrite, rfl⟩)
  exact .answered hrole (List.forall_mem_singleton.2 (any_id_of_mem hy)) hanswer

/-- **Every entry edit comes to one of the four outcomes.** -/
theorem outcome (hs : s.working.Sound) {edit : TemplateEdit} {role : String}
    {named : List RowReference} (h : edit.Names role named) : Outcome s edit role named := by
  cases h with
  | user => exact outcome_addUser hs _ _ _
  | group => exact outcome_addGroup hs _ _ _
  | anyone => exact outcome_addAnyone hs _ _
  | flag => exact outcome_setFlag _ _ _

end TemplateEdit

/-! ### Calls -/

/-- A call is refused with a class of refusals, and nothing is done. -/
def Session.Refuses (s : Session) (c : Call) (kind : RefusalClass) : Prop :=
  ∃ r : Refusal, r.kind = kind ∧ s.serve c = (.error (.refused r), s)

theorem Session.refuses_of_run {s : Session} {edit : TemplateEdit} {r : Refusal}
    (h : edit.call.run s = .error (.refused r) s) : s.Refuses (.templates edit.call) r.kind := by
  have hcall : (Call.templates edit.call).run s = .error (.refused r) s := h
  refine ⟨r, rfl, ?_⟩
  rw [serve, hcall]

/-- What is answered leaves the grants alone. -/
theorem Session.grants_of_edited {s t : Session} (hs : s.InBoth Store.Sound) {edit : TemplateEdit}
    {a : Answer} (h : s.serve (.templates edit.call) = (.ok a, t)) :
    t.working.grants = s.working.grants := by
  obtain ⟨-, -, hsame, -⟩ := Session.edited hs h
  rw [hsame]
  rfl

/-- **Entry edits are refused for what is checked and rejected for what is not.** An edit that adds
an entry or sets a flag is refused as malformed if its role is blank. With another role it is
answered, and leaves the grants alone, if all rows that it names are stored; it is refused as not
found if the template or the user is not; and if only the group is not, the store rejects the entry
for its reference and the session is rolled back. What is refused changes nothing. -/
theorem entry_edits_refused_or_rejected {s : Session} (hs : s.Reachable) {edit : TemplateEdit}
    {role : String} {named : List RowReference} (h : edit.Names role named) :
    (Text.isBlank role = true → s.Refuses (.templates edit.call) .invalid) ∧
    (Text.isBlank role = false →
      ((∀ row ∈ named, s.working.Has row) →
        ∃ a t, s.serve (.templates edit.call) = (.ok a, t) ∧
          t.working.grants = s.working.grants) ∧
      ((∃ row ∈ named, row.kind ≠ .group ∧ ¬ s.working.Has row) →
        s.Refuses (.templates edit.call) .notFound) ∧
      ((∀ row ∈ named, row.kind ≠ .group → s.working.Has row) →
        (∃ row ∈ named, ¬ s.working.Has row) →
          s.serve (.templates edit.call) = (.error (.store .missingParent), s.rollback))) := by
  -- each outcome settles one of the parts, and the hypotheses of the others are against it
  cases TemplateEdit.outcome hs.sound.1 h with
  | blank hrole hrun =>
    refine ⟨fun _ => Session.refuses_of_run hrun, fun hother => ?_⟩
    exact absurd hrole (Bool.eq_false_iff.1 hother)
  | missing hrole hrow hkind habsent hr hrun =>
    refine ⟨fun hblank => absurd hblank (Bool.eq_false_iff.1 hrole), fun _ => ⟨?_, ?_, ?_⟩⟩
    · exact fun hall => absurd (hall _ hrow) habsent
    · exact fun _ => hr ▸ Session.refuses_of_run hrun
    · exact fun hothers => absurd (hothers _ hrow hkind) habsent
  | rejected hrole hrow habsent hothers hrun =>
    refine ⟨fun hblank => absurd hblank (Bool.eq_false_iff.1 hrole), fun _ => ⟨?_, ?_, ?_⟩⟩
    · exact fun hall => absurd (hall _ hrow) habsent
    · rintro ⟨row, hrow', hkind, habsent'⟩
      exact absurd (hothers row hrow' hkind) habsent'
    · intro _ _
      have hcall : (Call.templates edit.call).run s = .error (.store .missingParent) s := hrun
      rw [Session.serve, hcall]
  | @answered a t hrole hall hrun =>
    refine ⟨fun hblank => absurd hblank (Bool.eq_false_iff.1 hrole), fun _ => ⟨?_, ?_, ?_⟩⟩
    · have hserve : s.serve (.templates edit.call) = (.ok a, t) := Session.serve_of_ok hrun
      exact fun _ => ⟨a, t, hserve, Session.grants_of_edited hs.sound hserve⟩
    · rintro ⟨row, hrow, -, habsent⟩
      exact absurd (hall row hrow) habsent
    · rintro - ⟨row, hrow, habsent⟩
      exact absurd (hall row hrow) habsent

/-- In the sample a user who is not there is refused an entry and the pending grant is kept, and an
entry of Anyone is answered. -/
theorem sample_entry_refused :
    Session.sample.Refuses (.templates (.addUser (some "t") (some "w") (some "scan"))) .notFound ∧
      ∃ a t, Session.sample.serve (.templates (.addGroup (some "t") .anyone (some "scan"))) =
          (.ok a, t) ∧
        t.working.grants = Session.sample.working.grants := by
  have hs : Session.sample.Reachable := ⟨sampleCalls, fun _ _ => trivial, rfl⟩
  have htemplate : Session.sample.working.Has ⟨.template, "t"⟩ := by decide +kernel
  have hnouser : ¬ Session.sample.working.Has ⟨.user, "w"⟩ := by decide +kernel
  obtain ⟨-, huser⟩ := entry_edits_refused_or_rejected hs
    (TemplateEdit.Names.user : (TemplateEdit.addUser "t" "w" "scan").Names "scan" _)
  obtain ⟨-, hanyone⟩ := entry_edits_refused_or_rejected hs
    (TemplateEdit.Names.anyone : (TemplateEdit.addGroup "t" none "scan").Names "scan" _)
  refine ⟨?_, ?_⟩
  · obtain ⟨-, hmissing, -⟩ := huser (by decide)
    exact hmissing ⟨⟨.user, "w"⟩, List.mem_cons_of_mem _ List.mem_cons_self, by decide, hnouser⟩
  · obtain ⟨hstored, -⟩ := hanyone (by decide)
    exact hstored (List.forall_mem_singleton.2 htemplate)

/-- An entry for a group that is not stored ends in a store error, and the grant that was pending is
gone. -/
theorem entry_of_missing_group_rejected :
    ∃ s : Session, s.Reachable ∧ s.working.Has ⟨.template, "t"⟩ ∧ ¬ s.working.Has ⟨.group, "h"⟩ ∧
      (s.serve (.templates (.addGroup (some "t") (.group (some "h")) (some "scan")))).1 =
        .error (.store .missingParent) ∧
      ⟨.user "u", some "p", "admin"⟩ ∈ s.working.grants ∧
      ⟨.user "u", some "p", "admin"⟩ ∉
        (s.serve (.templates (.addGroup (some "t") (.group (some "h")) (some "scan")))
          ).2.working.grants := by
  refine ⟨Session.sample, ⟨sampleCalls, fun _ _ => trivial, rfl⟩, ?_, ?_, rfl, ?_, ?_⟩
  · decide +kernel
  · decide +kernel
  · decide +kernel
  · decide +kernel

end RoleGrants
