import RoleGrants.Proofs.UniqueKey

/-!
# Storing one row

What an insertion that the store took comes to, table by table: the columns that need a value have
one, no row that is there clashes with the new one, the rows that it refers to exist, and the row
stands at the end of its table. The other tables are as they were. The same is said of the two
changes of a stored row that the store may reject.

These are all there is to know of an insertion; nothing behind this module opens one again. The last
section does the same for a row that is looked up by its id.
-/

namespace RoleGrants

variable {α β : Type}

/-- A row that the store takes is one more at the end, is fresh, and its parents exist. -/
theorem accept_eq_ok {keys : List (Key α)} {parents : Bool} {rows rows' : List α} {row : α}
    (h : accept keys parents rows row = .ok rows') :
    Fresh keys rows row ∧ parents = true ∧ rows' = rows ++ [row] := by
  obtain ⟨hnone, hparents, hrows⟩ := accept_eq_ok_iff.1 h
  exact ⟨clashing?_eq_none_iff_fresh.1 hnone, hparents, hrows⟩

theorem required_eq_ok {column : String} {value : Option α} {a : α}
    (h : required column value = .ok a) : value = some a := by
  cases value with
  | none => cases h
  | some b => cases h; rfl

theorem ok_of_bind {ε : Type} {first : Except ε α} {next : α → Except ε β} {b : β}
    (h : first >>= next = .ok b) : ∃ a, first = .ok a ∧ next a = .ok b := by
  rcases first with e | a
  · cases h
  · exact ⟨a, rfl, h⟩

namespace Store

variable {s t : Store}

theorem addOrganization_eq_ok {id : String} {key name : Option String}
    (h : s.addOrganization id key name = .ok t) :
    ∃ k n, key = some k ∧ name = some n ∧
      Fresh Organization.keys s.organizations ⟨id, k, n⟩ ∧
      t = { s with organizations := s.organizations ++ [⟨id, k, n⟩] } := by
  obtain ⟨k, hk, h⟩ := ok_of_bind h
  obtain ⟨n, hn, h⟩ := ok_of_bind h
  obtain ⟨rows, hrows, h⟩ := ok_of_bind h
  obtain ⟨hfresh, -, rfl⟩ := accept_eq_ok hrows
  cases h
  exact ⟨k, n, required_eq_ok hk, required_eq_ok hn, hfresh, rfl⟩

theorem addUser_eq_ok {id : String} {login : Option String} {active : Option Bool}
    (h : s.addUser id login active = .ok t) :
    ∃ l, login = some l ∧ Fresh User.keys s.users ⟨id, l, active.getD true⟩ ∧
      t = { s with users := s.users ++ [⟨id, l, active.getD true⟩] } := by
  obtain ⟨l, hl, h⟩ := ok_of_bind h
  obtain ⟨rows, hrows, h⟩ := ok_of_bind h
  obtain ⟨hfresh, -, rfl⟩ := accept_eq_ok hrows
  cases h
  exact ⟨l, required_eq_ok hl, hfresh, rfl⟩

theorem addGroup_eq_ok {id : String} {organization : Option String} {name : String}
    (h : s.addGroup id organization name = .ok t) :
    ∃ o, organization = some o ∧ s.hasOrganization o = true ∧
      Fresh Group.keys s.groups ⟨id, o, name⟩ ∧
      t = { s with groups := s.groups ++ [⟨id, o, name⟩] } := by
  obtain ⟨o, ho, h⟩ := ok_of_bind h
  obtain ⟨rows, hrows, h⟩ := ok_of_bind h
  obtain ⟨hfresh, hparents, rfl⟩ := accept_eq_ok hrows
  cases h
  exact ⟨o, required_eq_ok ho, hparents, hfresh, rfl⟩

theorem addProject_eq_ok {id : String} {key organization qualifier : Option String}
    (h : s.addProject id key organization qualifier = .ok t) :
    ∃ k, key = some k ∧ organization.all s.hasOrganization = true ∧
      Fresh Project.keys s.projects
        ⟨id, k, qualifier.getD defaultQualifier, organization, none⟩ ∧
      t = { s with projects := s.projects ++
        [⟨id, k, qualifier.getD defaultQualifier, organization, none⟩] } := by
  obtain ⟨k, hk, h⟩ := ok_of_bind h
  obtain ⟨rows, hrows, h⟩ := ok_of_bind h
  obtain ⟨hfresh, hparents, rfl⟩ := accept_eq_ok hrows
  cases h
  exact ⟨k, required_eq_ok hk, hparents, hfresh, rfl⟩

theorem addTemplate_eq_ok {id : String} {organization name description : Option String}
    (h : s.addTemplate id organization name description = .ok t) :
    ∃ n, name = some n ∧ organization.all s.hasOrganization = true ∧
      Fresh Template.keys s.templates ⟨id, organization, n, description⟩ ∧
      t = { s with templates := s.templates ++ [⟨id, organization, n, description⟩] } := by
  obtain ⟨n, hn, h⟩ := ok_of_bind h
  obtain ⟨rows, hrows, h⟩ := ok_of_bind h
  obtain ⟨hfresh, hparents, rfl⟩ := accept_eq_ok hrows
  cases h
  exact ⟨n, required_eq_ok hn, hparents, hfresh, rfl⟩

theorem addUserGrant_eq_ok {rowId user project role : Option String}
    (h : s.addUserGrant rowId user project role = .ok t) :
    ∃ u r, user = some u ∧ role = some r ∧ s.hasUser u = true ∧
      project.all s.hasProject = true ∧
      Fresh UserGrant.keys s.userGrants ⟨rowId, u, project, r⟩ ∧
      t = { s with userGrants := s.userGrants ++ [⟨rowId, u, project, r⟩] } := by
  obtain ⟨u, hu, h⟩ := ok_of_bind h
  obtain ⟨r, hr, h⟩ := ok_of_bind h
  obtain ⟨rows, hrows, h⟩ := ok_of_bind h
  obtain ⟨hfresh, hparents, rfl⟩ := accept_eq_ok hrows
  obtain ⟨huser, hproject⟩ := Bool.and_eq_true_iff.1 hparents
  cases h
  exact ⟨u, r, required_eq_ok hu, required_eq_ok hr, huser, hproject, hfresh, rfl⟩

theorem addGroupGrant_eq_ok {rowId group project role : Option String}
    (h : s.addGroupGrant rowId group project role = .ok t) :
    ∃ r, role = some r ∧ group.all s.hasGroup = true ∧ project.all s.hasProject = true ∧
      Fresh GroupGrant.keys s.groupGrants ⟨rowId, group, project, r⟩ ∧
      t = { s with groupGrants := s.groupGrants ++ [⟨rowId, group, project, r⟩] } := by
  obtain ⟨r, hr, h⟩ := ok_of_bind h
  obtain ⟨rows, hrows, h⟩ := ok_of_bind h
  obtain ⟨hfresh, hparents, rfl⟩ := accept_eq_ok hrows
  obtain ⟨hgroup, hproject⟩ := Bool.and_eq_true_iff.1 hparents
  cases h
  exact ⟨r, required_eq_ok hr, hgroup, hproject, hfresh, rfl⟩

theorem addTemplateUser_eq_ok {rowId template user role : Option String}
    (h : s.addTemplateUser rowId template user role = .ok t) :
    ∃ e u r, template = some e ∧ user = some u ∧ role = some r ∧ s.hasTemplate e = true ∧
      s.hasUser u = true ∧ Fresh TemplateUser.keys s.templateUsers ⟨rowId, e, u, r⟩ ∧
      t = { s with templateUsers := s.templateUsers ++ [⟨rowId, e, u, r⟩] } := by
  obtain ⟨e, he, h⟩ := ok_of_bind h
  obtain ⟨u, hu, h⟩ := ok_of_bind h
  obtain ⟨r, hr, h⟩ := ok_of_bind h
  obtain ⟨rows, hrows, h⟩ := ok_of_bind h
  obtain ⟨hfresh, hparents, rfl⟩ := accept_eq_ok hrows
  obtain ⟨htemplate, huser⟩ := Bool.and_eq_true_iff.1 hparents
  cases h
  exact ⟨e, u, r, required_eq_ok he, required_eq_ok hu, required_eq_ok hr, htemplate, huser,
    hfresh, rfl⟩

theorem addTemplateGroup_eq_ok {rowId template group role : Option String}
    (h : s.addTemplateGroup rowId template group role = .ok t) :
    ∃ e r, template = some e ∧ role = some r ∧ s.hasTemplate e = true ∧
      group.all s.hasGroup = true ∧
      Fresh TemplateGroup.keys s.templateGroups ⟨rowId, e, group, r⟩ ∧
      t = { s with templateGroups := s.templateGroups ++ [⟨rowId, e, group, r⟩] } := by
  obtain ⟨e, he, h⟩ := ok_of_bind h
  obtain ⟨r, hr, h⟩ := ok_of_bind h
  obtain ⟨rows, hrows, h⟩ := ok_of_bind h
  obtain ⟨hfresh, hparents, rfl⟩ := accept_eq_ok hrows
  obtain ⟨htemplate, hgroup⟩ := Bool.and_eq_true_iff.1 hparents
  cases h
  exact ⟨e, r, required_eq_ok he, required_eq_ok hr, htemplate, hgroup, hfresh, rfl⟩

theorem addCharacteristic_eq_ok {rowId template role : Option String} {flag : Option Bool}
    (h : s.addCharacteristic rowId template role flag = .ok t) :
    ∃ e r, template = some e ∧ role = some r ∧ s.hasTemplate e = true ∧
      Fresh Characteristic.keys s.characteristics ⟨rowId, e, r, flag.getD false⟩ ∧
      t = { s with characteristics :=
        s.characteristics ++ [⟨rowId, e, r, flag.getD false⟩] } := by
  obtain ⟨e, he, h⟩ := ok_of_bind h
  obtain ⟨r, hr, h⟩ := ok_of_bind h
  obtain ⟨rows, hrows, h⟩ := ok_of_bind h
  obtain ⟨hfresh, hparents, rfl⟩ := accept_eq_ok hrows
  cases h
  exact ⟨e, r, required_eq_ok he, required_eq_ok hr, hparents, hfresh, rfl⟩

/-- A renamed group is compared with the other groups only. -/
theorem renameGroup_eq_ok {group : Group} {name : String} (h : s.renameGroup group name = .ok t) :
    Fresh Group.keys (s.groups.filter (·.id != group.id)) { group with name } ∧
      t = { s with groups :=
        s.groups.map fun g => if g.id == group.id then { g with name } else g } := by
  unfold renameGroup at h
  split at h
  · cases h
  · next hnone =>
    cases h
    exact ⟨clashing?_eq_none_iff_fresh.1 hnone, rfl⟩

theorem setFlag_eq_ok {template role : String} {flag : Option Bool}
    (h : s.setFlag template role flag = .ok t) :
    ∃ f, flag = some f ∧
      t = { s with characteristics := s.characteristics.map fun c =>
        if c.template == template && c.role == role then { c with forCreator := f } else c } := by
  obtain ⟨f, hf, h⟩ := ok_of_bind h
  cases h
  exact ⟨f, required_eq_ok hf, rfl⟩

end Store

/-! ### Looking a row up -/

section Lookup

variable {rows : List α} {idOf : α → String} {row : α}

theorem mem_of_find?_id {id : Option String}
    (h : rows.find? (fun r => some (idOf r) == id) = some row) :
    row ∈ rows ∧ id = some (idOf row) := by
  refine ⟨List.mem_of_find?_eq_some h, ?_⟩
  have hid := List.find?_some h
  exact (beq_iff_eq.1 hid).symm

/-- A change of columns other than the id is seen by the lookup. -/
theorem find?_id_map {f : α → α} (hf : ∀ r, idOf (f r) = idOf r) (id : Option String) :
    (rows.map f).find? (fun r => some (idOf r) == id) =
      (rows.find? fun r => some (idOf r) == id).map f := by
  rw [List.find?_map]
  simp only [Function.comp_def, hf]

theorem any_id_of_mem (h : row ∈ rows) : rows.any (idOf · == idOf row) = true :=
  List.any_eq_true.2 ⟨row, h, beq_self_eq_true (idOf row)⟩

end Lookup

namespace Store

variable {s : Store} {id : Option String}

theorem mem_of_user? {u : User} (h : s.user? id = some u) : u ∈ s.users ∧ id = some u.id :=
  mem_of_find?_id h

theorem mem_of_group? {g : Group} (h : s.group? id = some g) : g ∈ s.groups ∧ id = some g.id :=
  mem_of_find?_id h

theorem mem_of_project? {p : Project} (h : s.project? id = some p) :
    p ∈ s.projects ∧ id = some p.id :=
  mem_of_find?_id h

/-- What is looked up after a mark is what was, with the mark if it is the marked project. -/
theorem project?_refresh (s : Store) (project : String) (reading : Nat) :
    (s.refresh project reading).project? id = (s.project? id).map fun p =>
      if p.id == project then { p with refreshedAt := some reading } else p :=
  find?_id_map (fun p => by split <;> rfl) id

theorem mem_of_template? {t : Template} (h : s.template? id = some t) :
    t ∈ s.templates ∧ id = some t.id :=
  mem_of_find?_id h

theorem hasUser_of_mem {u : User} (h : u ∈ s.users) : s.hasUser u.id = true := any_id_of_mem h

theorem hasGroup_of_mem {g : Group} (h : g ∈ s.groups) : s.hasGroup g.id = true := any_id_of_mem h

theorem hasProject_of_mem {p : Project} (h : p ∈ s.projects) : s.hasProject p.id = true :=
  any_id_of_mem h

/-- A mark brings no project along and takes none away. -/
@[simp] theorem hasProject_refresh (s : Store) (project : String) (reading : Nat) (id : String) :
    (s.refresh project reading).hasProject id = s.hasProject id := by
  simp only [hasProject, refresh, List.any_map]
  congr 1
  funext p
  simp only [Function.comp]
  split <;> rfl

/-- A project is found by its id when it is there. -/
theorem exists_project?_iff :
    (∃ p, s.project? id = some p) ↔ ∃ project, id = some project ∧ s.hasProject project = true := by
  constructor
  · rintro ⟨p, hp⟩
    obtain ⟨hmem, rfl⟩ := mem_of_project? hp
    exact ⟨p.id, rfl, hasProject_of_mem hmem⟩
  · rintro ⟨project, rfl, hthere⟩
    obtain ⟨p, hp, hid⟩ := List.any_eq_true.1 hthere
    refine Option.isSome_iff_exists.1 (List.find?_isSome.2 ⟨p, hp, ?_⟩)
    rw [beq_iff_eq.1 hid]
    exact beq_self_eq_true _

end Store

end RoleGrants
