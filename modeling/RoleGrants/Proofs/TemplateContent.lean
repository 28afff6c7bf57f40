import Mathlib.Data.Set.Insert
import RoleGrants.Proofs.SnapshotRows

/-!
# Template editing as updates of sets and maps

What a template grants, without its rows: a set of entries for groups and Anyone, a set of entries
for users, and a partial map from roles to flags (`Content`). A session holds a catalogue of such
contents, one for the id of each stored template, as it is resolved (`Session.catalogue`).

`TemplateEdit.update` says what an edit does to a catalogue, and `TemplateEdit.apply` what it does
to the rows. The two agree (`TemplateEdit.catalogue_apply`): whatever an edit does to the rows of
one table is an update of one part of one content. The parts do not interfere, since an entry of
Anyone is a row without a group and no row of any group; and the id of a new template is one to
which no row refers yet.
-/

open RoleGrants.Action

namespace RoleGrants

/-! ### Updates at one id -/

section ModifyAt

variable {β : Type}

/-- A family with one of its values updated. -/
def modifyAt (home : String) (f : β → β) (family : String → β) : String → β :=
  Function.update family home (f (family home))

theorem modifyAt_apply (home : String) (f : β → β) (family : String → β) (id : String) :
    modifyAt home f family id = if id = home then f (family id) else family id := by
  unfold modifyAt
  split
  · next hid => rw [hid, Function.update_self]
  · next hid => exact Function.update_of_ne hid _ _

end ModifyAt

/-! ### Entries as a set -/

section Entries

variable {α : Type}

/-- The entries of the rows of one template. -/
def entriesOf (rows : List α) (template : α → String) (entry : α → Entry) (id : String) :
    Set Entry :=
  {e | ∃ r ∈ rows, template r = id ∧ e = entry r}

variable {rows : List α} {template : α → String} {entry : α → Entry}

theorem mem_entriesOf {id : String} {e : Entry} :
    e ∈ entriesOf rows template entry id ↔ ∃ r ∈ rows, template r = id ∧ e = entry r := Iff.rfl

/-- An id to which no row refers has no entries. -/
theorem entriesOf_eq_empty {id : String} (h : ∀ r ∈ rows, template r ≠ id) :
    entriesOf rows template entry id = ∅ := by
  refine Set.eq_empty_of_forall_notMem fun e he => ?_
  obtain ⟨r, hr, hid, -⟩ := mem_entriesOf.1 he
  exact h r hr hid

/-- A row adds its entry to those of its template. -/
theorem entriesOf_snoc (row : α) :
    entriesOf (rows ++ [row]) template entry =
      modifyAt (template row) (insert (entry row)) (entriesOf rows template entry) := by
  funext id
  ext e
  have hsnoc : e ∈ entriesOf (rows ++ [row]) template entry id ↔
      e ∈ entriesOf rows template entry id ∨ (template row = id ∧ e = entry row) := by
    simp only [mem_entriesOf, List.mem_append, List.mem_singleton, or_and_right, exists_or,
      exists_eq_left]
  rw [hsnoc, modifyAt_apply]
  -- only at the template of the row can the entry be a new one
  split
  · next hid => rw [Set.mem_insert_iff, or_comm, hid, and_iff_right rfl]
  · next hid => exact or_iff_left fun h => hid h.1.symm

/-- An entry that is there already is not added. -/
theorem entriesOf_of_mem {home : String} {e : Entry} (h : e ∈ entriesOf rows template entry home) :
    entriesOf rows template entry =
      modifyAt home (insert e) (entriesOf rows template entry) := by
  rw [modifyAt, Set.insert_eq_of_mem h, Function.update_eq_self]

variable {picked : α → Bool} {home : String} {e : Entry}

/-- Where the rows go that stand for one entry of one template, this entry goes. -/
theorem entriesOf_filter
    (hpicked : ∀ r, picked r = true ↔ template r = home ∧ entry r = e) :
    entriesOf (rows.filter fun r => !picked r) template entry =
      modifyAt home (· \ {e}) (entriesOf rows template entry) := by
  funext id
  ext e'
  have hkept : e' ∈ entriesOf (rows.filter fun r => !picked r) template entry id ↔
      e' ∈ entriesOf rows template entry id ∧ ¬ (id = home ∧ e' = e) := by
    simp only [mem_entriesOf, List.mem_filter, Bool.not_eq_true', Bool.eq_false_iff, ne_eq, hpicked]
    constructor
    · rintro ⟨r, ⟨hr, hnot⟩, rfl, rfl⟩
      exact ⟨⟨r, hr, rfl, rfl⟩, hnot⟩
    · rintro ⟨⟨r, hr, rfl, rfl⟩, hnot⟩
      exact ⟨r, ⟨hr, hnot⟩, rfl, rfl⟩
  rw [hkept, modifyAt_apply]
  split
  · next hid => rw [Set.mem_sdiff, Set.mem_singleton_iff, and_iff_right hid]
  · next hid => exact and_iff_left fun h => hid h.1

/-- Some row stands for an entry where the entry is one of its template. -/
theorem any_iff_mem_entriesOf
    (hpicked : ∀ r, picked r = true ↔ template r = home ∧ entry r = e) :
    rows.any picked = true ↔ e ∈ entriesOf rows template entry home := by
  simp only [List.any_eq_true, hpicked, mem_entriesOf, @eq_comm _ e]

end Entries

/-! ### Flags as a map -/

/-- The flags of the characteristics of one template. -/
def flagMap (rows : List Characteristic) (id role : String) : Option Bool :=
  (rows.find? fun c => c.template == id && c.role == role).map (·.forCreator)

section Flags

variable {rows : List Characteristic} {template role : String} {flag : Bool}

/-- One flag of one template is set, and no other is touched. -/
theorem modifyAt_flag_apply (family : String → String → Option Bool) (id r : String) :
    modifyAt template (Function.update · role (some flag)) family id r =
      if id = template ∧ r = role then some flag else family id r := by
  rw [modifyAt_apply, ite_and]
  split
  · exact Function.update_apply ..
  · rfl

/-- A flag of a role that has none yet. -/
theorem flagMap_snoc
    (habsent : (rows.any fun c => c.template == template && c.role == role) = false) :
    flagMap (rows ++ [⟨none, template, role, flag⟩]) =
      modifyAt template (Function.update · role (some flag)) (flagMap rows) := by
  funext id r
  rw [modifyAt_flag_apply, flagMap, List.find?_append, List.find?_singleton]
  simp only [Bool.and_eq_true, beq_iff_eq, @eq_comm _ template, @eq_comm _ role]
  split
  · next hhere =>
    obtain ⟨rfl, rfl⟩ := hhere
    rw [List.find?_eq_none.2 (List.any_eq_false.1 habsent)]
    rfl
  · rw [Option.or_none, flagMap]

/-- A flag of a role that has one is set in its place. -/
theorem flagMap_map
    (hpresent : (rows.any fun c => c.template == template && c.role == role) = true) :
    flagMap (rows.map fun c =>
        if c.template == template && c.role == role then { c with forCreator := flag } else c) =
      modifyAt template (Function.update · role (some flag)) (flagMap rows) := by
  funext id r
  -- setting a flag does not change which characteristic is found
  have hsame : ∀ c : Characteristic,
      ((if c.template == template && c.role == role then { c with forCreator := flag } else c :
        Characteristic).template == id &&
      (if c.template == template && c.role == role then { c with forCreator := flag } else c :
        Characteristic).role == r) = (c.template == id && c.role == r) := by
    intro c
    split <;> rfl
  rw [modifyAt_flag_apply, flagMap, List.find?_map, Option.map_map, flagMap]
  simp only [Function.comp_def, hsame]
  cases hfound : rows.find? fun c => c.template == id && c.role == r with
  | none =>
    have hnone : ¬ (id = template ∧ r = role) := by
      rintro ⟨rfl, rfl⟩
      rw [List.any_eq_true] at hpresent
      obtain ⟨c, hc, hthis⟩ := hpresent
      exact List.find?_eq_none.1 hfound c hc hthis
    rw [if_neg hnone]
    rfl
  | some c =>
    obtain ⟨rfl, rfl⟩ : c.template = id ∧ c.role = r := by simpa using List.find?_some hfound
    simp only [Option.map_some, Bool.and_eq_true, beq_iff_eq]
    split <;> rfl

end Flags

/-! ### Contents -/

/-- **What a template grants,** in no order. -/
structure Content where
  id : Option String
  name : Option String
  groups : Set Entry
  users : Set Entry
  flags : String → Option Bool

/-- A template without entries and flags. -/
def Content.empty (id name : String) : Content := ⟨some id, some name, ∅, ∅, fun _ => none⟩

/-- The content of a snapshot. -/
def Snapshot.content (shot : Snapshot) : Content where
  id := shot.id
  name := shot.name
  groups := {e | e ∈ shot.groups}
  users := {e | e ∈ shot.users}
  flags role := (shot.characteristics.find? (·.1 == role)).map (·.2)

/-- The contents of stored templates, by their ids. -/
abbrev Catalogue := String → Option Content

/-- A catalogue after an update of the content under one id, if there is one. -/
def Catalogue.modify (cat : Catalogue) (id : String) (f : Content → Content) : Catalogue :=
  modifyAt id (Option.map f) cat

/-- **The catalogue of a session:** what each id is resolved to. -/
def Session.catalogue (s : Session) : Catalogue := fun id =>
  match s.serve (.templates (.resolve (some id))) with
  | (.ok (.snapshot (some shot)), _) => some shot.content
  | _ => none

namespace Store

variable {s t : Store}

/-- The content of a template, off the rows. -/
def contentOf (s : Store) (t : Template) : Content where
  id := some t.id
  name := some t.name
  groups := entriesOf s.templateGroups (·.template) (fun r => groupEntry r.group r.role) t.id
  users := entriesOf s.templateUsers (·.template) (fun r => s.userEntry r.user r.role) t.id
  flags := flagMap s.characteristics t.id

/-- The catalogue, off the rows. -/
def catalogue (s : Store) : Catalogue := fun id => (s.template? (some id)).map s.contentOf

/-- The flags of a snapshot are looked up like the characteristics of its template. -/
theorem find?_flagsOf (s : Store) (template role : String) :
    ((s.flagsOf template).find? (·.1 == role)).map (·.2) =
      flagMap s.characteristics template role := by
  rw [flagMap, flagsOf, List.find?_map, List.find?_filter, Option.map_map]
  simp only [Function.comp_def, ← Bool.and_eq_true, Bool.decide_eq_true]

theorem Sound.content_snapshot (h : s.Sound) (t : Template) :
    (s.snapshot t).content = s.contentOf t := by
  have hgroups : {e | e ∈ (s.snapshot t).groups} = (s.contentOf t).groups :=
    Set.ext fun e => h.mem_groups_snapshot_iff
  have husers : {e | e ∈ (s.snapshot t).users} = (s.contentOf t).users :=
    Set.ext fun e => h.mem_users_snapshot_iff
  rw [Snapshot.content, hgroups, husers, h.characteristics_snapshot]
  simp only [find?_flagsOf]
  rfl

end Store

section Catalogue

variable {s : Store}

theorem Store.catalogue_of_template? {id : String} {t : Template}
    (h : s.template? (some id) = some t) : s.catalogue id = some (s.contentOf t) := by
  rw [Store.catalogue, h, Option.map_some]

/-- Rows that refer to stored templates have all their entries in the catalogue. -/
theorem Store.Sound.mem_catalogue (h : s.Sound) {α : Type} {rows : List α} {template : α → String}
    {entry : α → Entry} (hrefers : Refers rows (fun r => some (template r)) s.templates (·.id))
    {part : Content → Set Entry}
    (hpart : ∀ t, part (s.contentOf t) = entriesOf rows template entry t.id) {id : String}
    {e : Entry} :
    (∃ k, s.catalogue id = some k ∧ e ∈ part k) ↔ e ∈ entriesOf rows template entry id := by
  constructor
  · rintro ⟨k, hk, he⟩
    obtain ⟨t, ht, rfl⟩ := Option.map_eq_some_iff.1 hk
    obtain ⟨-, hid⟩ := Store.mem_of_template? ht
    rw [hpart] at he
    exact Option.some.inj hid ▸ he
  · rintro ⟨r, hr, rfl, rfl⟩
    obtain ⟨t, ht, hid⟩ := hrefers r hr _ rfl
    refine ⟨s.contentOf t, ?_, ?_⟩
    · rw [← hid, Store.catalogue_of_template? (h.template?_eq ht)]
    · rw [hpart]
      exact ⟨r, hr, hid.symm, rfl⟩

end Catalogue

/-- What an id is resolved to can be read off the rows. -/
theorem Session.catalogue_eq {s : Session} (h : s.working.Sound) :
    s.catalogue = s.working.catalogue := by
  funext id
  unfold catalogue serve Store.catalogue
  rw [Call.run, TemplateCall.run, map_run, resolveTemplate_run]
  cases s.working.template? (some id) with
  | none => rfl
  | some t => exact congrArg some (h.content_snapshot t)

/-! ### Edits -/

/-- **The edits of templates:** creating one, adding and removing an entry for a user or for a
group, and setting a flag. Without a group an entry is for Anyone. -/
inductive TemplateEdit where
  | create (id : String) (organization : Option String) (name : String)
    (description : Option String)
  | addUser (template user role : String)
  | addGroup (template : String) (group : Option String) (role : String)
  | removeUser (template user role : String)
  | removeGroup (template : String) (group : Option String) (role : String)
  | setFlag (template role : String) (flag : Bool)

namespace TemplateEdit

/-- The call that makes an edit. -/
def call : TemplateEdit → TemplateCall
  | .create id organization name description => .create id organization (some name) description
  | .addUser template user role => .addUser (some template) (some user) (some role)
  | .addGroup template group role => .addGroup (some template) (.ofGroup group) (some role)
  | .removeUser template user role => .removeUser (some template) (some user) (some role)
  | .removeGroup template group role => .removeGroup (some template) (.ofGroup group) (some role)
  | .setFlag template role flag => .setCharacteristic (some template) (some role) (some flag)

/-- **An edit as an update of a catalogue.** A user comes in with the login that the user has. -/
def update (login : String → Option String) (edit : TemplateEdit) (cat : Catalogue) : Catalogue :=
  match edit with
  | .create id _ name _ =>
    Function.update cat id (some (.empty id name))
  | .addUser template user role => cat.modify template fun k =>
    { k with users := insert ⟨.user (some user), login user, some role⟩ k.users }
  | .addGroup template group role => cat.modify template fun k =>
    { k with groups := insert (groupEntry group role) k.groups }
  | .removeUser template user role => cat.modify template fun k =>
    { k with users := k.users \ {⟨.user (some user), login user, some role⟩} }
  | .removeGroup template group role => cat.modify template fun k =>
    { k with groups := k.groups \ {groupEntry group role} }
  | .setFlag template role flag => cat.modify template fun k =>
    { k with flags := Function.update k.flags role (some flag) }

/-- **What an edit does to the rows.** A row that states what is stated already is not added
again. -/
def apply (s : Store) : TemplateEdit → Store
  | .create id organization name description =>
    { s with templates := s.templates ++ [⟨id, organization, name, description⟩] }
  | .addUser template user role =>
    if s.templateUsers.any (TemplateUser.isFor (some template) (some user) (some role)) then s
    else { s with templateUsers := s.templateUsers ++ [⟨none, template, user, role⟩] }
  | .addGroup template group role =>
    if s.templateGroups.any (TemplateGroup.isFor (some template) group (some role)) then s
    else { s with templateGroups := s.templateGroups ++ [⟨none, template, group, role⟩] }
  | .removeUser template user role =>
    { s with templateUsers :=
        s.templateUsers.filter fun e => !e.isFor (some template) (some user) (some role) }
  | .removeGroup template group role =>
    { s with templateGroups :=
        s.templateGroups.filter fun e => !e.isFor (some template) group (some role) }
  | .setFlag template role flag =>
    if s.characteristics.any fun c => c.template == template && c.role == role then
      { s with characteristics := s.characteristics.map fun c =>
          if c.template == template && c.role == role then { c with forCreator := flag } else c }
    else { s with characteristics := s.characteristics ++ [⟨none, template, role, flag⟩] }

end TemplateEdit

/-! ### A new template -/

namespace Store

variable {s : Store}

/-- No row refers to an id that no template has. -/
theorem Sound.contentOf_eq_empty (h : s.Sound) {t : Template}
    (hfresh : ∀ x ∈ s.templates, x.id ≠ t.id) : s.contentOf t = .empty t.id t.name := by
  have hother : ∀ id, (∃ x ∈ s.templates, x.id = id) → id ≠ t.id := by
    rintro _ ⟨x, hx, rfl⟩
    exact hfresh x hx
  have hgroups : ∀ r ∈ s.templateGroups, r.template ≠ t.id := fun r hr =>
    hother _ (h.templateGroup_template r hr _ rfl)
  have husers : ∀ r ∈ s.templateUsers, r.template ≠ t.id := fun r hr =>
    hother _ (h.templateUser_template r hr _ rfl)
  have hflags : flagMap s.characteristics t.id = fun _ => none := by
    funext role
    rw [flagMap, List.find?_eq_none.2, Option.map_none]
    intro c hc
    simp [hother _ (h.characteristic_template c hc _ rfl)]
  rw [contentOf, entriesOf_eq_empty hgroups, entriesOf_eq_empty husers, hflags, Content.empty]

/-- A new template adds an empty content and keeps the others. -/
theorem Sound.catalogue_templates (h : s.Sound) {new : Template}
    (hfresh : ∀ x ∈ s.templates, x.id ≠ new.id) :
    ({ s with templates := s.templates ++ [new] } : Store).catalogue =
      Function.update s.catalogue new.id (some (.empty new.id new.name)) := by
  have hfound : ∀ id, ({ s with templates := s.templates ++ [new] } : Store).template? (some id) =
      (s.template? (some id)).or (if new.id = id then some new else none) := by
    intro id
    simp [template?, List.find?_append, List.find?_singleton]
  funext id
  rw [catalogue, hfound]
  by_cases hid : id = new.id
  · have hnone : s.template? (some new.id) = none :=
      List.find?_eq_none.2 fun x hx => by simpa using hfresh x hx
    rw [hid, Function.update_self, hnone, if_pos rfl]
    exact congrArg some (h.contentOf_eq_empty hfresh)
  · rw [Function.update_of_ne hid, if_neg (Ne.symm hid), Option.or_none]
    rfl

end Store

/-! ### Rows of one table -/

namespace Store

variable {s : Store}

/-- Where the templates stay and only the content of one of them changes, one content of the
catalogue changes. -/
theorem catalogue_modify {t : Store} {template : String} {f : Content → Content}
    (htemplates : t.templates = s.templates)
    (hcontent : ∀ x, t.contentOf x = if x.id = template then f (s.contentOf x) else s.contentOf x) :
    t.catalogue = s.catalogue.modify template f := by
  funext id
  have hfound : t.template? (some id) = s.template? (some id) := by
    rw [template?, template?, htemplates]
  rw [Catalogue.modify, modifyAt_apply, catalogue, catalogue, hfound]
  cases hx : s.template? (some id) with
  | none => split <;> rfl
  | some x =>
    obtain ⟨-, hid⟩ := mem_of_template? hx
    obtain rfl : id = x.id := Option.some.inj hid
    rw [Option.map_some, hcontent x]
    split <;> rfl

/-- A change in the rows of users, seen in the sets of entries. -/
theorem catalogue_templateUsers {rows : List TemplateUser} {template : String}
    (f : Set Entry → Set Entry)
    (h : entriesOf rows (·.template) (fun r => s.userEntry r.user r.role) =
      modifyAt template f
        (entriesOf s.templateUsers (·.template) fun r => s.userEntry r.user r.role)) :
    ({ s with templateUsers := rows } : Store).catalogue =
      s.catalogue.modify template fun k => { k with users := f k.users } := by
  refine catalogue_modify rfl fun x => ?_
  have hcontent : ({ s with templateUsers := rows } : Store).contentOf x =
      { s.contentOf x with
        users := entriesOf rows (·.template) (fun r => s.userEntry r.user r.role) x.id } := rfl
  rw [hcontent, h, modifyAt_apply]
  split <;> rfl

theorem catalogue_templateGroups {rows : List TemplateGroup} {template : String}
    (f : Set Entry → Set Entry)
    (h : entriesOf rows (·.template) (fun r => groupEntry r.group r.role) =
      modifyAt template f
        (entriesOf s.templateGroups (·.template) fun r => groupEntry r.group r.role)) :
    ({ s with templateGroups := rows } : Store).catalogue =
      s.catalogue.modify template fun k => { k with groups := f k.groups } := by
  refine catalogue_modify rfl fun x => ?_
  have hcontent : ({ s with templateGroups := rows } : Store).contentOf x =
      { s.contentOf x with
        groups := entriesOf rows (·.template) (fun r => groupEntry r.group r.role) x.id } := rfl
  rw [hcontent, h, modifyAt_apply]
  split <;> rfl

theorem catalogue_characteristics {rows : List Characteristic} {template : String}
    (f : (String → Option Bool) → String → Option Bool)
    (h : flagMap rows = modifyAt template f (flagMap s.characteristics)) :
    ({ s with characteristics := rows } : Store).catalogue =
      s.catalogue.modify template fun k => { k with flags := f k.flags } := by
  refine catalogue_modify rfl fun x => ?_
  have hcontent : ({ s with characteristics := rows } : Store).contentOf x =
      { s.contentOf x with flags := flagMap rows x.id } := rfl
  rw [hcontent, h, modifyAt_apply]
  split <;> rfl

theorem userEntry_inj {user user' role role' : String} :
    s.userEntry user role = s.userEntry user' role' ↔ user = user' ∧ role = role' := by
  constructor
  · intro h
    have hprincipal : Principal.user (some user) = .user (some user') := congrArg Entry.principal h
    have hrole : some role = some role' := congrArg Entry.role h
    exact ⟨by simpa using hprincipal, by simpa using hrole⟩
  · rintro ⟨rfl, rfl⟩
    rfl

/-- The rows that stand for an entry of a user. -/
theorem isFor_user_iff {template user role : String} (r : TemplateUser) :
    r.isFor (some template) (some user) (some role) = true ↔
      r.template = template ∧ s.userEntry r.user r.role = s.userEntry user role := by
  rw [userEntry_inj]
  simp [TemplateUser.isFor, and_assoc]

end Store

theorem groupEntry_inj {group group' : Option String} {role role' : String} :
    groupEntry group role = groupEntry group' role' ↔ group = group' ∧ role = role' := by
  simp [groupEntry, Principal.ofGroup_inj]

/-- The rows that stand for an entry of a group, or of Anyone. -/
theorem isFor_group_iff {template : String} {group : Option String} {role : String}
    (r : TemplateGroup) :
    r.isFor (some template) group (some role) = true ↔
      r.template = template ∧ groupEntry r.group r.role = groupEntry group role := by
  rw [groupEntry_inj]
  simp [TemplateGroup.isFor, and_assoc]

/-! ### Edits and updates -/

section Apply

variable {s : Store}

/-- **An edit of the rows is an update of the contents.** -/
theorem TemplateEdit.catalogue_apply (edit : TemplateEdit) (hs : s.Sound)
    (ht : (edit.apply s).Sound) :
    (edit.apply s).catalogue = edit.update s.loginOf s.catalogue := by
  cases edit with
  | create id organization name description =>
    -- the store takes no two templates with one id
    refine hs.catalogue_templates fun x hx hid => ?_
    exact (List.pairwise_append.1 ht.templates).2.2 x hx _ List.mem_cons_self
      (Template.clash_of_id hid)
  | addUser template user role =>
    rw [apply]
    split
    · next hpresent =>
      refine Store.catalogue_templateUsers (insert (s.userEntry user role)) (entriesOf_of_mem ?_)
      exact (any_iff_mem_entriesOf Store.isFor_user_iff).1 hpresent
    · exact Store.catalogue_templateUsers (insert (s.userEntry user role)) (entriesOf_snoc _)
  | addGroup template group role =>
    rw [apply]
    split
    · next hpresent =>
      refine Store.catalogue_templateGroups (insert (groupEntry group role)) (entriesOf_of_mem ?_)
      exact (any_iff_mem_entriesOf isFor_group_iff).1 hpresent
    · exact Store.catalogue_templateGroups (insert (groupEntry group role)) (entriesOf_snoc _)
  | removeUser template user role =>
    exact Store.catalogue_templateUsers (· \ {s.userEntry user role})
      (entriesOf_filter Store.isFor_user_iff)
  | removeGroup template group role =>
    exact Store.catalogue_templateGroups (· \ {groupEntry group role})
      (entriesOf_filter isFor_group_iff)
  | setFlag template role flag =>
    rw [apply]
    split
    · next hpresent =>
      exact Store.catalogue_characteristics (Function.update · role (some flag))
        (flagMap_map hpresent)
    · next habsent =>
      exact Store.catalogue_characteristics (Function.update · role (some flag))
        (flagMap_snoc (Bool.eq_false_iff.2 habsent))

end Apply

end RoleGrants
