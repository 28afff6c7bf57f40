import RoleGrants.Proofs.MarkedGrants
import RoleGrants.Proofs.TemplateContent

/-!
# Runs of template edits

`template_edits_refine_updates` says that editing templates by calls is updating a catalogue: a call
that is answered changes what the templates are resolved to as `TemplateEdit.update` says, answers
by what the catalogue held before, and leaves the grants, the memberships and the projects alone. So
a run of such calls folds the updates over the catalogue.

What is left to be seen is what each call writes (`TemplateEdit.done_of_run`). Each checks other
things before, and a removal does not even look the template up; but once it is answered, a call has
done to the rows what `TemplateEdit.apply` says, and the contents follow by
`TemplateEdit.catalogue_apply`. A removal from a template that is not stored finds no entry, because
entries refer to stored templates.
-/

open RoleGrants.Action

namespace RoleGrants

/-! ### What a call writes -/

section Written

variable {s t : Session}

theorem templateNameOf_eq_ok {name n : String} (h : templateNameOf (some name) = .ok n) :
    n = name := by
  have h : (if Text.isBlank name then .error .blankTemplateName else .ok name :
    Except Refusal String) = .ok n := h
  split at h
  · cases h
  · cases h
    rfl

/-- Entries and flags are for a template that is stored. -/
theorem checked_eq_ok {α : Type} {role template : String} {next : String → Template → Action α}
    {b : α}
    (h : (do
      let r ← accepted (roleOf (some role))
      let x ← requireTemplate (some template)
      next r x : Action α) s = .ok b t) :
    ∃ x, s.working.template? (some template) = some x ∧ x.id = template ∧
      next role x s = .ok b t := by
  obtain ⟨r, u, hrole, hrest⟩ := bind_eq_ok.1 h
  obtain ⟨hr, rfl⟩ := accepted_eq_ok.1 hrole
  obtain ⟨hrole, -⟩ := roleOf_eq_ok.1 hr
  obtain ⟨x, v, hx, hnext⟩ := bind_eq_ok.1 hrest
  rw [requireTemplate_run] at hx
  split at hx
  · next y hy =>
    cases hx
    obtain ⟨-, hid⟩ := Store.mem_of_template? hy
    exact ⟨x, hy, (Option.some.inj hid).symm, Option.some.inj hrole ▸ hnext⟩
  · cases hx

/-- What is read is read off the rows. -/
theorem read_eq_ok {α β : Type} {f : Store → α} {next : α → Action β} {b : β} :
    (reading f >>= next) s = .ok b t ↔ next (f s.working) s = .ok b t := Iff.rfl

/-- A write with the commit behind it. -/
theorem written_eq_ok {α : Type} {f : Store → Except StoreError Store} {a b : α}
    (h : (do writing f; commit; return a : Action α) s = .ok b t) :
    f s.working = .ok t.working ∧ t.clock = s.clock ∧ b = a := by
  obtain ⟨_, u, hwrite, h⟩ := bind_eq_ok.1 h
  obtain ⟨store, hstore, rfl⟩ := writing_eq_ok.1 hwrite
  cases h
  exact ⟨hstore, rfl, rfl⟩

/-- Something is new when it was not present. -/
theorem iff_not_of_eq_not {b present : Bool} {P : Prop} (hb : b = !present)
    (hpresent : present = true ↔ P) : b = true ↔ ¬ P := by
  rw [hb, ← hpresent, Bool.not_eq_true', Bool.not_eq_true]

/-- An entry is written unless it is there already. -/
theorem writeEntry_eq_ok {present b : Bool} {f : Store → Except StoreError Store} {grown : Store}
    (hf : ∀ store, f s.working = .ok store → store = grown)
    (h : (do
      if present then return false
      writing f
      commit
      return true : Action Bool) s = .ok b t) :
    t.working = (if present then s.working else grown) ∧ t.clock = s.clock ∧ b = !present := by
  cases present with
  | true =>
    cases h
    exact ⟨rfl, rfl, rfl⟩
  | false =>
    obtain ⟨hwrite, hclock, hb⟩ := written_eq_ok h
    exact ⟨hf _ hwrite, hclock, hb⟩

end Written

/-! ### Edits that are answered -/

namespace TemplateEdit

/-- **What an edit is answered with,** by the catalogue before it. -/
def Answers (login : String → Option String) (cat : Catalogue) (edit : TemplateEdit) (a : Answer) :
    Prop :=
  match edit with
  | .create id organization name description =>
    cat id = none ∧ a = .template (some ⟨id, organization, name, description⟩)
  | .addUser template user role =>
    ∃ k added, cat template = some k ∧ a = .flag added ∧
      (added = true ↔ ⟨.user (some user), login user, some role⟩ ∉ k.users)
  | .addGroup template group role =>
    ∃ k added, cat template = some k ∧ a = .flag added ∧
      (added = true ↔ groupEntry group role ∉ k.groups)
  | .removeUser template user role =>
    ∃ removed, a = .flag removed ∧ (removed = true ↔
      ∃ k, cat template = some k ∧ ⟨.user (some user), login user, some role⟩ ∈ k.users)
  | .removeGroup template group role =>
    ∃ removed, a = .flag removed ∧ (removed = true ↔
      ∃ k, cat template = some k ∧ groupEntry group role ∈ k.groups)
  | .setFlag template role flag =>
    ∃ k, cat template = some k ∧ a = .characteristic ⟨none, template, role, flag⟩

/-- What has been done when an edit is answered. -/
structure Done (edit : TemplateEdit) (s : Session) (a : Answer) (t : Session) : Prop where
  working : t.working = edit.apply s.working
  clock : t.clock = s.clock
  answers : edit.Answers s.working.loginOf s.working.catalogue a

variable {s t : Session} {a : Answer}

theorem done_create {id name : String} {organization description : Option String}
    (h : (TemplateEdit.create id organization name description).call.run s = .ok a t) :
    (TemplateEdit.create id organization name description).Done s a t := by
  obtain ⟨x, hrun, rfl⟩ := map_eq_ok.1 h
  obtain ⟨n, u, hn, hnext⟩ := bind_eq_ok.1 hrun
  obtain ⟨hname, hu⟩ := accepted_eq_ok.1 hn
  obtain rfl := templateNameOf_eq_ok hname
  subst hu
  have htaken := read_eq_ok.1 hnext
  cases hother : u.working.templateNamed? organization (some n) with
  | some other =>
    rw [hother] at htaken
    cases htaken
  | none =>
    rw [hother] at htaken
    obtain ⟨_, v, hwrite, hrest⟩ := bind_eq_ok.1 htaken
    obtain ⟨store, hstore, rfl⟩ := writing_eq_ok.1 hwrite
    obtain ⟨m, hm, -, hfresh, rfl⟩ := Store.addTemplate_eq_ok hstore
    cases hm
    cases hrest
    refine ⟨rfl, rfl, ?_, rfl⟩
    -- the store takes no template whose id another one has
    have hnone : u.working.template? (some id) = none := by
      refine List.find?_eq_none.2 fun y hy hid => hfresh y hy (Template.clash_of_id ?_)
      exact (Option.some.inj (beq_iff_eq.1 hid)).symm
    rw [Store.catalogue, hnone, Option.map_none]

theorem done_addUser {template user role : String}
    (h : (TemplateEdit.addUser template user role).call.run s = .ok a t) :
    (TemplateEdit.addUser template user role).Done s a t := by
  obtain ⟨added, hrun, rfl⟩ := map_eq_ok.1 h
  obtain ⟨x, hx, rfl, hchecked⟩ := checked_eq_ok hrun
  have hknown := read_eq_ok.1 hchecked
  have hgrown : ∀ store, s.working.addTemplateUser none (some x.id) (some user) (some role) =
      .ok store → store = { s.working with
        templateUsers := s.working.templateUsers ++ [⟨none, x.id, user, role⟩] } := by
    intro store hstore
    obtain ⟨_, _, _, ⟨⟩, ⟨⟩, ⟨⟩, -, -, -, hgrown⟩ := Store.addTemplateUser_eq_ok hstore
    exact hgrown
  cases hu : s.working.user? (some user) with
  | none =>
    rw [hu] at hknown
    cases hknown
  | some u =>
    rw [hu] at hknown
    obtain ⟨hworking, hclock, hadded⟩ := writeEntry_eq_ok hgrown (read_eq_ok.1 hknown)
    exact ⟨hworking, hclock, s.working.contentOf x, added, Store.catalogue_of_template? hx, rfl,
      iff_not_of_eq_not hadded (any_iff_mem_entriesOf Store.isFor_user_iff)⟩

theorem done_addGroup {template : String} {group : Option String} {role : String}
    (h : (TemplateEdit.addGroup template group role).call.run s = .ok a t) :
    (TemplateEdit.addGroup template group role).Done s a t := by
  -- role and template are checked before the group is looked at, and again with the entry
  obtain ⟨y, hy, rfl, hgroup⟩ := checked_eq_ok h
  have hrun : (Answer.flag <$> addGroupEntry (some y.id) group (some role)) s = .ok a t := by
    cases group <;> exact hgroup
  obtain ⟨added, hentry, rfl⟩ := map_eq_ok.1 hrun
  obtain ⟨x, hx, hid, hchecked⟩ := checked_eq_ok hentry
  have hgrown : ∀ store, s.working.addTemplateGroup none (some x.id) group (some role) =
      .ok store → store = { s.working with
        templateGroups := s.working.templateGroups ++ [⟨none, x.id, group, role⟩] } := by
    intro store hstore
    obtain ⟨_, _, ⟨⟩, ⟨⟩, -, -, -, hgrown⟩ := Store.addTemplateGroup_eq_ok hstore
    exact hgrown
  obtain ⟨hworking, hclock, hadded⟩ := writeEntry_eq_ok hgrown (read_eq_ok.1 hchecked)
  rw [hid] at hworking hadded
  refine ⟨hworking, hclock, s.working.contentOf y, added, Store.catalogue_of_template? hy, rfl, ?_⟩
  exact iff_not_of_eq_not hadded (any_iff_mem_entriesOf isFor_group_iff)

theorem done_removeUser (hs : s.working.Sound) {template user role : String}
    (h : (TemplateEdit.removeUser template user role).call.run s = .ok a t) :
    (TemplateEdit.removeUser template user role).Done s a t := by
  obtain ⟨removed, hrun, rfl⟩ := map_eq_ok.1 h
  cases read_eq_ok.1 hrun
  refine ⟨rfl, rfl, _, rfl, ?_⟩
  -- the rows are asked and not the template, but a row that is found refers to a stored one
  rw [any_iff_mem_entriesOf Store.isFor_user_iff]
  exact (hs.mem_catalogue hs.templateUser_template fun _ => rfl).symm

theorem done_removeGroup (hs : s.working.Sound) {template : String} {group : Option String}
    {role : String} (h : (TemplateEdit.removeGroup template group role).call.run s = .ok a t) :
    (TemplateEdit.removeGroup template group role).Done s a t := by
  have hrun : (Answer.flag <$> removeGroupEntry (some template) group (some role)) s = .ok a t := by
    cases group <;> exact h
  obtain ⟨removed, hentry, rfl⟩ := map_eq_ok.1 hrun
  cases read_eq_ok.1 hentry
  refine ⟨rfl, rfl, _, rfl, ?_⟩
  rw [any_iff_mem_entriesOf isFor_group_iff]
  exact (hs.mem_catalogue hs.templateGroup_template fun _ => rfl).symm

theorem done_setFlag {template role : String} {flag : Bool}
    (h : (TemplateEdit.setFlag template role flag).call.run s = .ok a t) :
    (TemplateEdit.setFlag template role flag).Done s a t := by
  obtain ⟨c, hrun, rfl⟩ := map_eq_ok.1 h
  obtain ⟨x, hx, rfl, hchecked⟩ := checked_eq_ok hrun
  have hwrite := read_eq_ok.1 hchecked
  -- a flag that is there is set in its place, so that no role comes to have two
  cases hp : s.working.characteristics.any fun c => c.template == x.id && c.role == role with
  | true =>
    rw [hp] at hwrite
    obtain ⟨hstore, hclock, rfl⟩ := written_eq_ok hwrite
    obtain ⟨_, ⟨⟩, hset⟩ := Store.setFlag_eq_ok hstore
    refine ⟨?_, hclock, s.working.contentOf x, Store.catalogue_of_template? hx, rfl⟩
    rw [hset, apply, if_pos hp]
  | false =>
    rw [hp] at hwrite
    obtain ⟨hstore, hclock, rfl⟩ := written_eq_ok hwrite
    obtain ⟨_, _, ⟨⟩, ⟨⟩, -, -, hgrown⟩ := Store.addCharacteristic_eq_ok hstore
    refine ⟨?_, hclock, s.working.contentOf x, Store.catalogue_of_template? hx, rfl⟩
    rw [hgrown, apply, if_neg (Bool.eq_false_iff.1 hp)]
    rfl

/-- **An edit that is answered is done.** -/
theorem done_of_run (hs : s.working.Sound) {edit : TemplateEdit} (h : edit.call.run s = .ok a t) :
    edit.Done s a t := by
  cases edit with
  | create id organization name description => exact done_create h
  | addUser template user role => exact done_addUser h
  | addGroup template group role => exact done_addGroup h
  | removeUser template user role => exact done_removeUser hs h
  | removeGroup template group role => exact done_removeGroup hs h
  | setFlag template role flag => exact done_setFlag h

end TemplateEdit

/-! ### What edits leave alone -/

/-- Two stores with the same rows except for templates, their entries and their flags. -/
def Store.SameApartFromTemplates (s t : Store) : Prop :=
  t = { s with
    templates := t.templates
    templateUsers := t.templateUsers
    templateGroups := t.templateGroups
    characteristics := t.characteristics }

namespace Store.SameApartFromTemplates

variable {s t u : Store}

theorem refl (s : Store) : s.SameApartFromTemplates s := rfl

theorem trans (hst : s.SameApartFromTemplates t) (htu : t.SameApartFromTemplates u) :
    s.SameApartFromTemplates u := by
  unfold SameApartFromTemplates at hst htu ⊢
  rw [htu, hst]

theorem loginOf (h : s.SameApartFromTemplates t) : t.loginOf = s.loginOf := by
  rw [h]
  rfl

end Store.SameApartFromTemplates

theorem TemplateEdit.apply_sameApart (edit : TemplateEdit) (s : Store) :
    s.SameApartFromTemplates (edit.apply s) := by
  cases edit with
  | addUser | addGroup | setFlag =>
    rw [apply]
    split <;> exact rfl
  | create | removeUser | removeGroup => exact rfl

/-! ### Runs -/

namespace Session

/-- Every call of a run is answered. -/
def AnswersAll (s : Session) : List Call → Prop
  | [] => True
  | c :: calls => (∃ a, (s.serve c).1 = .ok a) ∧ (s.serve c).2.AnswersAll calls

variable {s t : Session}

/-- An edit that is answered changes the catalogue, and of the rest of the rows nothing. -/
theorem edited (hs : s.InBoth Store.Sound) {edit : TemplateEdit} {a : Answer}
    (h : s.serve (.templates edit.call) = (.ok a, t)) :
    t.catalogue = edit.update s.working.loginOf s.catalogue ∧
      edit.Answers s.working.loginOf s.catalogue a ∧
      s.working.SameApartFromTemplates t.working ∧ t.clock = s.clock := by
  have hdone : edit.Done s a t := TemplateEdit.done_of_run hs.1 (run_of_serve h)
  have ht : t.InBoth Store.Sound := by
    have hserved := sound_serve hs (.templates edit.call)
    rwa [h] at hserved
  -- the rows that are left are sound, so they too can be read as contents
  have happlied : (edit.apply s.working).Sound := hdone.working ▸ ht.1
  rw [catalogue_eq hs.1, catalogue_eq ht.1, hdone.working]
  exact ⟨edit.catalogue_apply hs.1 happlied, hdone.answers, edit.apply_sameApart s.working,
    hdone.clock⟩

theorem edited_all (hs : s.InBoth Store.Sound) {edits : List TemplateEdit}
    (h : s.AnswersAll (edits.map fun e => .templates e.call)) :
    (s.serveAll (edits.map fun e => .templates e.call)).catalogue =
        edits.foldl (fun cat e => e.update s.working.loginOf cat) s.catalogue ∧
      s.working.SameApartFromTemplates
        (s.serveAll (edits.map fun e => .templates e.call)).working ∧
      (s.serveAll (edits.map fun e => .templates e.call)).clock = s.clock := by
  unfold serveAll
  induction edits generalizing s with
  | nil => exact ⟨rfl, .refl _, rfl⟩
  | cons e edits ih =>
    obtain ⟨⟨a, ha⟩, hrest⟩ := h
    obtain ⟨hcat, -, hsame, hclock⟩ := edited hs (Prod.ext ha rfl)
    obtain ⟨hfold, hsame', hclock'⟩ := ih (sound_serve hs _) hrest
    refine ⟨?_, hsame.trans hsame', hclock'.trans hclock⟩
    -- no edit changes a login
    rw [hcat, hsame.loginOf] at hfold
    exact hfold

end Session

/-- **Editing templates refines updates of sets and maps.** In a reachable session an edit that is
answered adds one entry, takes one away, sets one flag or adds an empty template, and what any
template is resolved to is otherwise the same. The answer says whether the entry was there before.
Grants, memberships and projects with their marks stay. So a run of such edits folds the updates. -/
theorem template_edits_refine_updates {s : Session} (hs : s.Reachable) :
    (∀ (edit : TemplateEdit) (a : Answer) (t : Session),
      s.serve (.templates edit.call) = (.ok a, t) →
        t.catalogue = edit.update s.working.loginOf s.catalogue ∧
        edit.Answers s.working.loginOf s.catalogue a ∧
        s.working.SameApartFromTemplates t.working ∧ t.clock = s.clock) ∧
    ∀ edits : List TemplateEdit,
      s.AnswersAll (edits.map fun e => .templates e.call) →
        (s.serveAll (edits.map fun e => .templates e.call)).catalogue =
          edits.foldl (fun cat e => e.update s.working.loginOf cat) s.catalogue ∧
        s.working.SameApartFromTemplates
          (s.serveAll (edits.map fun e => .templates e.call)).working ∧
        (s.serveAll (edits.map fun e => .templates e.call)).clock = s.clock :=
  ⟨fun _ _ _ h => Session.edited hs.sound h, fun _ h => Session.edited_all hs.sound h⟩

/-- Anyone loses a role in the template of the sample, a user gets it, and a flag is taken back. -/
theorem sample_edited :
    ∃ k, (Session.sample.serveAll [
        .templates (.removeGroup (some "t") .anyone (some "browse")),
        .templates (.addUser (some "t") (some "u") (some "browse")),
        .templates (.setCharacteristic (some "t") (some "admin") (some false))]).catalogue "t" =
          some k ∧
      ⟨.anyone, none, some "browse"⟩ ∉ k.groups ∧
      ⟨.user (some "u"), some "ann", some "browse"⟩ ∈ k.users ∧
      k.flags "admin" = some false := by
  have hs : Session.sample.Reachable := ⟨sampleCalls, fun _ _ => trivial, rfl⟩
  have hrun := (template_edits_refine_updates hs).2
    [.removeGroup "t" none "browse", .addUser "t" "u" "browse", .setFlag "t" "admin" false]
    ⟨⟨.flag true, rfl⟩, ⟨.flag true, rfl⟩, ⟨.characteristic ⟨none, "t", "admin", false⟩, rfl⟩,
      trivial⟩
  exact ⟨_, congrFun hrun.1 "t", fun h => h.2 rfl, .inl rfl, rfl⟩

end RoleGrants
