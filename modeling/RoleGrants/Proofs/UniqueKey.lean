import RoleGrants.Store.Insert

/-!
# Rows that may not stand together

The unique keys of a table, read as one relation between its rows. `Clash keys a b` says that some
key keeps the two rows apart, and one equation for each table says what that comes to in its
columns.

A key compares present values only, so the keys over a row with a column that may be missing come
in groups: one over all the columns, and for each such column one that leaves it out and covers
just the rows that lack it. Together they compare the columns with a missing value counting as
equal to a missing one, neither more nor less. What they compare is the `Fact` that a row states,
and that the keys of a table are of this shape is `FactTable`. The ids of the rows themselves
clash only where a caller chose both of them, by the last key of each table
(`FactTable.clash_keys_iff`).
-/

namespace RoleGrants

variable {α : Type}

/-- Some key of the table keeps the two rows apart. -/
def Clash (keys : List (Key α)) (a b : α) : Prop :=
  ∃ k ∈ keys, k.clashes a b = true

theorem Key.clashes_comm (k : Key α) (a b : α) : k.clashes a b = k.clashes b a := by
  rw [Bool.eq_iff_iff, Key.clashes_iff, Key.clashes_iff]
  constructor
  · rintro ⟨ha, hb, h⟩
    exact ⟨hb, ha, fun c hc => (h c hc).imp fun _ hv => hv.symm⟩
  · rintro ⟨hb, ha, h⟩
    exact ⟨ha, hb, fun c hc => (h c hc).imp fun _ hv => hv.symm⟩

theorem Clash.symm {keys : List (Key α)} {a b : α} (h : Clash keys a b) : Clash keys b a := by
  obtain ⟨k, hk, hc⟩ := h
  exact ⟨k, hk, (k.clashes_comm b a).trans hc⟩

/-- No row that is there clashes with a new one. -/
def Fresh (keys : List (Key α)) (rows : List α) (row : α) : Prop :=
  ∀ r ∈ rows, ¬ Clash keys row r

/-- No key stands against a row exactly when the row is fresh. -/
theorem clashing?_eq_none_iff_fresh {keys : List (Key α)} {rows : List α} {row : α} :
    clashing? keys rows row = none ↔ Fresh keys rows row := by
  rw [clashing?_eq_none_iff]
  constructor
  · rintro h r hr ⟨k, hk, hc⟩
    rw [h k hk r hr] at hc
    cases hc
  · intro h k hk r hr
    rw [Bool.eq_false_iff]
    exact fun hc => h r hr ⟨k, hk, hc⟩

/-- A fresh row is kept out by its references alone. -/
theorem accept_of_fresh {keys : List (Key α)} {parents : Bool} {rows : List α} {row : α}
    (h : Fresh keys rows row) :
    accept keys parents rows row =
      if parents then .ok (rows ++ [row]) else .error .missingParent := by
  rw [accept, clashing?_eq_none_iff_fresh.2 h]

/-! ### Facts -/

/-- **What a row states.** All its columns but the id of the row itself and, for a characteristic,
but the flag. A missing group or project is a value like any other. -/
inductive Fact where
  | userGrant (user : String) (project : Option String) (role : String)
  | groupGrant (group project : Option String) (role : String)
  | templateUser (template user role : String)
  | templateGroup (template : String) (group : Option String) (role : String)
  | characteristic (template role : String)
  deriving DecidableEq

def UserGrant.fact (g : UserGrant) : Fact := .userGrant g.user g.project g.role

def GroupGrant.fact (g : GroupGrant) : Fact := .groupGrant g.group g.project g.role

def TemplateUser.fact (e : TemplateUser) : Fact := .templateUser e.template e.user e.role

def TemplateGroup.fact (e : TemplateGroup) : Fact := .templateGroup e.template e.group e.role

def Characteristic.fact (c : Characteristic) : Fact := .characteristic c.template c.role

/-- The key of a table over the id of the row itself. -/
def Key.ofRowId (table : String) (rowId : α → Option String) : Key α :=
  ⟨table, [⟨"id", rowId⟩], fun _ => true⟩

theorem Key.columnNames_ofRowId (table : String) (rowId : α → Option String) :
    (Key.ofRowId table rowId).columnNames = [table ++ ".id"] := by
  simp [columnNames, ofRowId, String.append_assoc]

theorem clash_nil_iff {a b : α} : Clash [] a b ↔ False := by
  simp [Clash]

theorem clash_cons_iff {k : Key α} {keys : List (Key α)} {a b : α} :
    Clash (k :: keys) a b ↔ k.clashes a b = true ∨ Clash keys a b := by
  simp [Clash]

theorem clash_append_iff {keys keys' : List (Key α)} {a b : α} :
    Clash (keys ++ keys') a b ↔ Clash keys a b ∨ Clash keys' a b := by
  simp [Clash, or_and_right, exists_or]

theorem clash_ofRowId_iff {table : String} {rowId : α → Option String} {a b : α} :
    Clash [Key.ofRowId table rowId] a b ↔ ∃ id, rowId a = some id ∧ rowId b = some id := by
  simp [Clash, Key.clashes_iff, Key.ofRowId]

/-- **The keys of a table of facts.** The last one keeps the ids of rows apart, and the others the
rows that state the same. None of these tells of the id. -/
structure FactTable (keys : List (Key α)) (fact : α → Fact) (table : String)
    (rowId : α → Option String) : Prop where
  last : keys = keys.dropLast ++ [.ofRowId table rowId]
  clash_iff : ∀ a b, Clash keys.dropLast a b ↔ fact a = fact b
  idColumn : ∀ k ∈ keys.dropLast, table ++ ".id" ∉ k.columnNames

/-- Two rows of a table of facts clash when they state the same, or by ids of their own. -/
theorem FactTable.clash_keys_iff {keys : List (Key α)} {fact : α → Fact} {table : String}
    {rowId : α → Option String} (h : FactTable keys fact table rowId) {a b : α} :
    Clash keys a b ↔ fact a = fact b ∨ ∃ id, rowId a = some id ∧ rowId b = some id := by
  rw [h.last, clash_append_iff, h.clash_iff, clash_ofRowId_iff]

theorem UserGrant.factTable : FactTable keys fact "user_roles" (·.rowId) where
  last := rfl
  clash_iff := by
    rintro ⟨_, user, project, role⟩ ⟨_, user', project', role'⟩
    simp only [keys, List.dropLast, clash_cons_iff, clash_nil_iff, Key.clashes_iff, fact]
    -- the key over all columns decides where both rows have a project, the narrower one where
    -- neither has
    cases project <;> cases project' <;> simp [and_comm, eq_comm]
  idColumn := by decide

theorem GroupGrant.factTable : FactTable keys fact "group_roles" (·.rowId) where
  last := rfl
  clash_iff := by
    rintro ⟨_, group, project, role⟩ ⟨_, group', project', role'⟩
    simp only [keys, List.dropLast, clash_cons_iff, clash_nil_iff, Key.clashes_iff, fact]
    -- two columns may be missing, so each of four keys decides for one shape of the rows
    cases group <;> cases group' <;> cases project <;> cases project' <;> simp [eq_comm]
  idColumn := by decide

theorem TemplateUser.factTable : FactTable keys fact "perm_templates_users" (·.rowId) where
  last := rfl
  clash_iff := by
    rintro ⟨_, template, user, role⟩ ⟨_, template', user', role'⟩
    simp only [keys, List.dropLast, clash_cons_iff, clash_nil_iff, Key.clashes_iff, fact]
    simp [eq_comm]
  idColumn := by decide

theorem TemplateGroup.factTable : FactTable keys fact "perm_templates_groups" (·.rowId) where
  last := rfl
  clash_iff := by
    rintro ⟨_, template, group, role⟩ ⟨_, template', group', role'⟩
    simp only [keys, List.dropLast, clash_cons_iff, clash_nil_iff, Key.clashes_iff, fact]
    cases group <;> cases group' <;> simp [and_comm, eq_comm]
  idColumn := by decide

theorem Characteristic.factTable :
    FactTable keys fact "perm_tpl_characteristics" (·.rowId) where
  last := rfl
  clash_iff := by
    rintro ⟨_, template, role, flag⟩ ⟨_, template', role', flag'⟩
    simp only [keys, List.dropLast, clash_cons_iff, clash_nil_iff, Key.clashes_iff, fact]
    simp [eq_comm]
  idColumn := by decide

/-! ### Grants -/

theorem Holder.ofGroup_inj {a b : Option String} : Holder.ofGroup a = .ofGroup b ↔ a = b := by
  cases a <;> cases b <;> simp [Holder.ofGroup]

/-- Two grants of users clash when they are the same triple, or by ids of their own. -/
theorem UserGrant.clash_iff {a b : UserGrant} :
    Clash UserGrant.keys a b ↔
      a.grant = b.grant ∨ ∃ id, a.rowId = some id ∧ b.rowId = some id := by
  have hsame : a.fact = b.fact ↔ a.grant = b.grant := by simp [fact, grant]
  rw [factTable.clash_keys_iff, hsame]

/-- Two grants of groups clash when they are the same triple, or by ids of their own. -/
theorem GroupGrant.clash_iff {a b : GroupGrant} :
    Clash GroupGrant.keys a b ↔
      a.grant = b.grant ∨ ∃ id, a.rowId = some id ∧ b.rowId = some id := by
  have hsame : a.fact = b.fact ↔ a.grant = b.grant := by
    simp [fact, grant, Holder.ofGroup_inj]
  rw [factTable.clash_keys_iff, hsame]

end RoleGrants
