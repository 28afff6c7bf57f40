import RoleGrants.Proofs.ApplicationOutcome
import RoleGrants.Proofs.Integrity

/-!
# A store as a set of facts

A row of a grant or of an entry of a template states a fact, and a store is a set of facts. No two
rows of a reachable store state the same (`Store.Sound.nodup_facts`), and a row that is inserted as
it is comes to a clash of keys exactly when what it states is stated already (`facts_are_sets`).

What an insertion comes to is read off the shape of the keys once, for all five tables
(`FactTable.accept_outcome`): the keys over what a row states are tried first, and so an id that is
taken is told only of a row that states something new.
-/

open RoleGrants.Action

namespace RoleGrants

variable {α : Type}

/-! ### What is stated -/

/-- What the rows of a store state, row by row. -/
def Store.facts (s : Store) : List Fact :=
  s.userGrants.map UserGrant.fact ++ (s.groupGrants.map GroupGrant.fact ++
    (s.templateUsers.map TemplateUser.fact ++ (s.templateGroups.map TemplateGroup.fact ++
      s.characteristics.map Characteristic.fact)))

theorem Store.count_facts (s : Store) (f : Fact) :
    s.facts.count f = (s.userGrants.map UserGrant.fact).count f +
      (s.groupGrants.map GroupGrant.fact).count f +
      (s.templateUsers.map TemplateUser.fact).count f +
      (s.templateGroups.map TemplateGroup.fact).count f +
      (s.characteristics.map Characteristic.fact).count f := by
  simp only [facts, List.count_append]
  omega

/-- A fact is stated by the rows of one table only. -/
theorem Store.mem_facts {s : Store} {f : Fact} :
    f ∈ s.facts ↔ match f with
      | .userGrant user project role =>
        ∃ g ∈ s.userGrants, g.user = user ∧ g.project = project ∧ g.role = role
      | .groupGrant group project role =>
        ∃ g ∈ s.groupGrants, g.group = group ∧ g.project = project ∧ g.role = role
      | .templateUser template user role =>
        ∃ e ∈ s.templateUsers, e.template = template ∧ e.user = user ∧ e.role = role
      | .templateGroup template group role =>
        ∃ e ∈ s.templateGroups, e.template = template ∧ e.group = group ∧ e.role = role
      | .characteristic template role =>
        ∃ c ∈ s.characteristics, c.template = template ∧ c.role = role := by
  cases f <;> simp [facts, UserGrant.fact, GroupGrant.fact, TemplateUser.fact, TemplateGroup.fact,
    Characteristic.fact]

/-- Whether the rows that a fact refers to exist. -/
def Store.hasParents (s : Store) : Fact → Bool
  | .userGrant user project _ => s.hasUser user && project.all s.hasProject
  | .groupGrant group project _ => group.all s.hasGroup && project.all s.hasProject
  | .templateUser template user _ => s.hasTemplate template && s.hasUser user
  | .templateGroup template group _ => s.hasTemplate template && group.all s.hasGroup
  | .characteristic template _ => s.hasTemplate template

namespace RowDraft

/-- What a row to be inserted states. One that lacks a column it needs states nothing, and a
template is no fact. -/
def fact? : RowDraft → Option Fact
  | .userGrant _ (some user) project (some role) => some (.userGrant user project role)
  | .groupGrant _ group project (some role) => some (.groupGrant group project role)
  | .templateUser _ (some t) (some user) (some role) => some (.templateUser t user role)
  | .templateGroup _ (some t) group (some role) => some (.templateGroup t group role)
  | .characteristic _ (some t) (some role) _ => some (.characteristic t role)
  | _ => none

/-- The id that a row to be inserted brings along, if it does. -/
def rowId : RowDraft → Option String
  | .userGrant rowId .. | .groupGrant rowId .. | .templateUser rowId ..
  | .templateGroup rowId .. | .characteristic rowId .. => rowId
  | .template id .. => some id

/-- The column of that id. -/
def idColumn : RowDraft → String
  | .userGrant .. => "user_roles.id"
  | .groupGrant .. => "group_roles.id"
  | .templateUser .. => "perm_templates_users.id"
  | .templateGroup .. => "perm_templates_groups.id"
  | .characteristic .. => "perm_tpl_characteristics.id"
  | .template .. => "permission_templates.id"

end RowDraft

/-- The ids of the rows in the table of a row to be inserted. -/
def Store.rowIds (s : Store) : RowDraft → List (Option String)
  | .userGrant .. => s.userGrants.map (·.rowId)
  | .groupGrant .. => s.groupGrants.map (·.rowId)
  | .templateUser .. => s.templateUsers.map (·.rowId)
  | .templateGroup .. => s.templateGroups.map (·.rowId)
  | .characteristic .. => s.characteristics.map (·.rowId)
  | .template .. => s.templates.map (some ·.id)

/-- A row to be inserted brings an id along that a row of its table has. One that brings none is
given an id that no row has. -/
def Store.HasRowId (s : Store) (d : RowDraft) : Prop :=
  ∃ id, d.rowId = some id ∧ some id ∈ s.rowIds d

/-! ### Inserting into one table -/

section Table

variable {keys : List (Key α)} {fact : α → Fact} {table : String} {rowId : α → Option String}
  {rows : List α} {row : α}

theorem FactTable.nodup (h : FactTable keys fact table rowId) (hrows : Apart keys rows) :
    (rows.map fact).Nodup := by
  refine List.pairwise_map.2 (hrows.imp fun hab hfact => hab ?_)
  exact h.clash_keys_iff.2 (.inl hfact)

/-- What tells the facts of some rows tells the rows. -/
theorem FactTable.nodup_map {β : Type} (h : FactTable keys fact table rowId)
    (hrows : Apart keys rows) {f : α → β}
    (hf : ∀ a ∈ rows, ∀ b ∈ rows, f a = f b → fact a = fact b) : (rows.map f).Nodup := by
  refine List.pairwise_map.2 (hrows.imp_of_mem fun ha hb hab heq => hab ?_)
  exact h.clash_keys_iff.2 (.inl (hf _ ha _ hb heq))

/-- Some key of a list stands against a row exactly when the row clashes with one that is there. -/
theorem clashing?_isSome_iff {ks : List (Key α)} :
    (∃ k, clashing? ks rows row = some k) ↔ ∃ r ∈ rows, Clash ks row r := by
  rw [← Option.isSome_iff_exists, clashing?, List.find?_isSome]
  simp only [List.any_eq_true, Clash]
  constructor
  · rintro ⟨k, hk, r, hr, hc⟩
    exact ⟨r, hr, k, hk, hc⟩
  · rintro ⟨r, hr, k, hk, hc⟩
    exact ⟨k, hk, r, hr, hc⟩

/-- **What an insertion into a table of facts comes to.** The row states what is stated already, or
it brings an id that is taken, or it is kept out by its references alone. -/
theorem FactTable.accept_outcome (h : FactTable keys fact table rowId) (parents : Bool)
    (rows : List α) (row : α) :
    (fact row ∈ rows.map fact ∧ ∃ columns, table ++ ".id" ∉ columns ∧
        accept keys parents rows row = .error (.duplicate columns)) ∨
      fact row ∉ rows.map fact ∧
        (((∃ id, rowId row = some id ∧ some id ∈ rows.map rowId) ∧
          accept keys parents rows row = .error (.duplicate [table ++ ".id"])) ∨
        (¬ ∃ id, rowId row = some id ∧ some id ∈ rows.map rowId) ∧
          accept keys parents rows row =
            if parents then .ok (rows ++ [row]) else .error .missingParent) := by
  have hfact : (∃ k, clashing? keys.dropLast rows row = some k) ↔ fact row ∈ rows.map fact := by
    rw [clashing?_isSome_iff, List.mem_map]
    simp only [h.clash_iff, eq_comm]
  have hid : (∃ k, clashing? [Key.ofRowId table rowId] rows row = some k) ↔
      ∃ id, rowId row = some id ∧ some id ∈ rows.map rowId := by
    rw [clashing?_isSome_iff]
    simp only [clash_ofRowId_iff, List.mem_map]
    constructor
    · rintro ⟨r, hr, id, hrow, hid⟩
      exact ⟨id, hrow, r, hr, hid⟩
    · rintro ⟨id, hrow, r, hr, hid⟩
      exact ⟨r, hr, id, hrow, hid⟩
  -- the key over the id is tried behind all others
  have hsplit : clashing? keys rows row =
      (clashing? keys.dropLast rows row).or (clashing? [Key.ofRowId table rowId] rows row) :=
    calc clashing? keys rows row
      _ = clashing? (keys.dropLast ++ [.ofRowId table rowId]) rows row :=
        congrArg (clashing? · rows row) h.last
      _ = _ := List.find?_append
  rw [← hfact, ← hid]
  unfold accept
  rw [hsplit]
  cases hfirst : clashing? keys.dropLast rows row with
  | some k =>
    exact .inl ⟨⟨k, rfl⟩, _, h.idColumn k (List.mem_of_find?_eq_some hfirst), rfl⟩
  | none =>
    refine .inr ⟨nofun, ?_⟩
    cases hlast : clashing? [Key.ofRowId table rowId] rows row with
    | some k =>
      have hk : k = Key.ofRowId table rowId :=
        List.mem_singleton.1 (List.mem_of_find?_eq_some hlast)
      subst hk
      exact .inl ⟨⟨_, rfl⟩, by rw [← Key.columnNames_ofRowId]; rfl⟩
    | none => exact .inr ⟨nofun, rfl⟩

end Table

/-- **No two rows state the same**, in one table because of its keys, and in two of them because
each states facts of a kind of its own. -/
theorem Store.Sound.nodup_facts {s : Store} (h : s.Sound) : s.facts.Nodup := by
  have hentries : (s.templateUsers.map TemplateUser.fact ++
      (s.templateGroups.map TemplateGroup.fact ++
        s.characteristics.map Characteristic.fact)).Nodup := by
    refine List.nodup_append.2 ⟨TemplateUser.factTable.nodup h.templateUsers,
      List.nodup_append.2 ⟨TemplateGroup.factTable.nodup h.templateGroups,
        Characteristic.factTable.nodup h.characteristics, ?_⟩, ?_⟩
    · simp [TemplateGroup.fact, Characteristic.fact]
    · simp [or_imp, forall_and, TemplateUser.fact, TemplateGroup.fact, Characteristic.fact]
  refine List.nodup_append.2 ⟨UserGrant.factTable.nodup h.userGrants,
    List.nodup_append.2 ⟨GroupGrant.factTable.nodup h.groupGrants, hentries, ?_⟩, ?_⟩
  · simp [or_imp, forall_and, GroupGrant.fact, TemplateUser.fact, TemplateGroup.fact,
      Characteristic.fact]
  · simp [or_imp, forall_and, UserGrant.fact, GroupGrant.fact, TemplateUser.fact,
      TemplateGroup.fact, Characteristic.fact]

/-! ### Inserting into a store -/

namespace Store

/-- **What an insertion into a store comes to.** The row states what is stated already, or it brings
an id that is taken, or it refers to a row that is missing, or what it states is added. -/
inductive InsertOutcome (s : Store) (d : RowDraft) (f : Fact) : Prop where
  | stated {columns : List String} (hfact : f ∈ s.facts) (hcolumns : d.idColumn ∉ columns)
      (hrun : s.insertDraft d = .error (.duplicate columns)) : InsertOutcome s d f
  | idTaken (hfact : f ∉ s.facts) (hid : s.HasRowId d)
      (hrun : s.insertDraft d = .error (.duplicate [d.idColumn])) : InsertOutcome s d f
  | dangling (hfact : f ∉ s.facts) (hid : ¬ s.HasRowId d) (hparents : s.hasParents f = false)
      (hrun : s.insertDraft d = .error .missingParent) : InsertOutcome s d f
  | stored {t : Store} (hfact : f ∉ s.facts) (hid : ¬ s.HasRowId d)
      (hrun : s.insertDraft d = .ok t) (ht : t.facts.Perm (f :: s.facts)) : InsertOutcome s d f

variable {s : Store}

/-- What an insertion into a store comes to, from what it comes to in its table. `hmem` says that
no other table states the fact of the row, and `hput` that the row adds it. -/
theorem insertOutcome_of_table {keys : List (Key α)} {fact : α → Fact} {table : String}
    {rowId : α → Option String} (h : FactTable keys fact table rowId) (row : α)
    (put : List α → Store) {d : RowDraft} {rows : List α} (hid : d.rowId = rowId row)
    (hids : s.rowIds d = rows.map rowId)
    (hcolumn : d.idColumn = table ++ ".id")
    (hrun : s.insertDraft d = (accept keys (s.hasParents (fact row)) rows row).map put)
    (hmem : fact row ∈ s.facts ↔ fact row ∈ rows.map fact)
    (hput : (put (rows ++ [row])).facts.Perm (fact row :: s.facts)) :
    s.InsertOutcome d (fact row) := by
  have htaken : s.HasRowId d ↔ ∃ id, rowId row = some id ∧ some id ∈ rows.map rowId := by
    rw [HasRowId, hid, hids]
  rcases h.accept_outcome (s.hasParents (fact row)) rows row with
    ⟨hstated, columns, hcolumns, haccept⟩ | ⟨hnew, ⟨hid, haccept⟩ | ⟨hid, haccept⟩⟩
  · exact .stated (hmem.2 hstated) (hcolumn ▸ hcolumns) (by rw [hrun, haccept]; rfl)
  · exact .idTaken (mt hmem.1 hnew) (htaken.2 hid) (by rw [hrun, haccept, hcolumn]; rfl)
  · rw [haccept] at hrun
    cases hparents : s.hasParents (fact row) with
    | true =>
      rw [hparents, if_pos rfl] at hrun
      exact .stored (mt hmem.1 hnew) (mt htaken.1 hid) hrun hput
    | false =>
      rw [hparents, if_neg Bool.false_ne_true] at hrun
      exact .dangling (mt hmem.1 hnew) (mt htaken.1 hid) hparents hrun

theorem insertOutcome (s : Store) {d : RowDraft} {f : Fact} (hf : d.fact? = some f) :
    s.InsertOutcome d f := by
  unfold RowDraft.fact? at hf
  split at hf <;> cases hf
  · next rowId user project role =>
    refine insertOutcome_of_table UserGrant.factTable ⟨rowId, user, project, role⟩
      (fun rows => { s with userGrants := rows }) rfl rfl rfl rfl ?_ ?_
    · simp [mem_facts, UserGrant.fact]
    · exact List.perm_iff_count.2 fun f => by simp [count_facts, List.count_cons]; omega
  · next rowId group project role =>
    refine insertOutcome_of_table GroupGrant.factTable ⟨rowId, group, project, role⟩
      (fun rows => { s with groupGrants := rows }) rfl rfl rfl rfl ?_ ?_
    · simp [mem_facts, GroupGrant.fact]
    · exact List.perm_iff_count.2 fun f => by simp [count_facts, List.count_cons]; omega
  · next rowId template user role =>
    refine insertOutcome_of_table TemplateUser.factTable ⟨rowId, template, user, role⟩
      (fun rows => { s with templateUsers := rows }) rfl rfl rfl rfl ?_ ?_
    · simp [mem_facts, TemplateUser.fact]
    · exact List.perm_iff_count.2 fun f => by simp [count_facts, List.count_cons]; omega
  · next rowId template group role =>
    refine insertOutcome_of_table TemplateGroup.factTable ⟨rowId, template, group, role⟩
      (fun rows => { s with templateGroups := rows }) rfl rfl rfl rfl ?_ ?_
    · simp [mem_facts, TemplateGroup.fact]
    · exact List.perm_iff_count.2 fun f => by simp [count_facts, List.count_cons]; omega
  · next rowId template role flag =>
    refine insertOutcome_of_table Characteristic.factTable ⟨rowId, template, role, flag.getD false⟩
      (fun rows => { s with characteristics := rows }) rfl rfl rfl rfl ?_ ?_
    · simp [mem_facts, Characteristic.fact]
    · exact List.perm_iff_count.2 fun f => by simp [count_facts, List.count_cons]; omega

end Store

/-! ### Inserting into a session -/

/-- A row that the store takes is committed with all that is pending, and one that it rejects takes
with it all that is pending. -/
theorem Session.serve_insert (s : Session) (d : RowDraft) :
    s.serve (.change (.insert d)) =
      match s.working.insertDraft d with
      | .ok store => (.ok (.flag true), { s with working := store, committed := store })
      | .error e => (.error (.store e), s.rollback) := by
  unfold Session.serve Call.run RowChange.run insertRow
  simp only [Functor.map, EStateM.map, bind_run, writing]
  cases s.working.insertDraft d <;> rfl

/-- **Grants and entries of templates are sets.** No fact is stated twice by the rows that a
reachable session sees, nor by those that it has committed. A row with all the columns it needs is
refused for a clash of keys exactly when what it states is stated already; the one other clash is
over an id of its own that is taken, and it is told by that column. A row that states something
new, refers to stored rows and brings no such id is stored. -/
theorem facts_are_sets {s : Session} (hs : s.Reachable) :
    s.InBoth (fun rows => rows.facts.Nodup) ∧
    ∀ (d : RowDraft) (f : Fact), d.fact? = some f →
      (f ∈ s.working.facts ↔ ∃ columns, d.idColumn ∉ columns ∧
        (s.serve (.change (.insert d))).1 = .error (.store (.duplicate columns))) ∧
      (¬ s.working.HasRowId d → (f ∈ s.working.facts ↔ ∃ columns,
        (s.serve (.change (.insert d))).1 = .error (.store (.duplicate columns)))) ∧
      (f ∉ s.working.facts → ¬ s.working.HasRowId d → s.working.hasParents f = true →
        ∃ t : Store, t.facts.Perm (f :: s.working.facts) ∧
          s.serve (.change (.insert d)) =
            (.ok (.flag true), { s with working := t, committed := t })) := by
  refine ⟨⟨hs.sound.1.nodup_facts, hs.sound.2.nodup_facts⟩, ?_⟩
  intro d f hf
  rw [Session.serve_insert]
  cases s.working.insertOutcome hf with
  | stated hfact hcolumns hrun =>
    rw [hrun]
    exact ⟨⟨fun _ => ⟨_, hcolumns, rfl⟩, fun _ => hfact⟩,
      fun _ => ⟨fun _ => ⟨_, rfl⟩, fun _ => hfact⟩, fun hnew => absurd hfact hnew⟩
  | idTaken hnew hid hrun =>
    rw [hrun]
    refine ⟨⟨fun hfact => absurd hfact hnew, ?_⟩, fun hfree => absurd hid hfree,
      fun _ hfree => absurd hid hfree⟩
    -- the clash is told by the column of the id
    rintro ⟨columns, hcolumns, herror⟩
    cases herror
    exact absurd List.mem_cons_self hcolumns
  | dangling hnew hid hparents hrun =>
    rw [hrun]
    refine ⟨⟨fun hfact => absurd hfact hnew, ?_⟩, fun _ => ⟨fun hfact => absurd hfact hnew, ?_⟩, ?_⟩
    · rintro ⟨columns, -, herror⟩
      cases herror
    · rintro ⟨columns, herror⟩
      cases herror
    · intro _ _ hexist
      rw [hparents] at hexist
      cases hexist
  | stored hnew hid hrun ht =>
    rw [hrun]
    refine ⟨⟨fun hfact => absurd hfact hnew, ?_⟩, fun _ => ⟨fun hfact => absurd hfact hnew, ?_⟩,
      fun _ _ _ => ⟨_, ht, rfl⟩⟩
    · rintro ⟨columns, -, herror⟩
      cases herror
    · rintro ⟨columns, herror⟩
      cases herror

/-- Anyone's grant of a role on a project is another one than that of a group, and is refused when
it is inserted once more. -/
theorem sample_facts :
    ∃ s : Session, s.Reachable ∧
      s.working.facts.Nodup ∧ Fact.groupGrant none (some "p") "scan" ∈ s.working.facts ∧
      (∃ columns, (s.serve (.change (.insert
        (.groupGrant none none (some "p") (some "scan"))))).1 =
          .error (.store (.duplicate columns))) ∧
      ∃ t : Store, s.serve (.change (.insert
        (.groupGrant none (some "g") (some "p") (some "scan")))) =
          (.ok (.flag true), { s with working := t, committed := t }) := by
  let s : Session := .serveAll {} (sampleCalls ++
    [.change (.insert (.groupGrant none none (some "p") (some "scan")))])
  have hs : s.Reachable := ⟨_, fun _ _ => trivial, rfl⟩
  have hfact : Fact.groupGrant none (some "p") "scan" ∈ s.working.facts := by decide +kernel
  have hnew : Fact.groupGrant (some "g") (some "p") "scan" ∉ s.working.facts := by decide +kernel
  have hparents : s.working.hasParents (.groupGrant (some "g") (some "p") "scan") = true := by
    decide +kernel
  obtain ⟨hnodup, hinsert⟩ := facts_are_sets hs
  obtain ⟨hagain, -, -⟩ := hinsert (.groupGrant none none (some "p") (some "scan")) _ rfl
  obtain ⟨-, -, hstored⟩ := hinsert (.groupGrant none (some "g") (some "p") (some "scan")) _ rfl
  obtain ⟨columns, -, hrefused⟩ := hagain.1 hfact
  -- neither row brings an id along
  obtain ⟨t, -, ht⟩ := hstored hnew (by rintro ⟨id, hid, -⟩; cases hid) hparents
  exact ⟨s, hs, hnodup.1, hfact, ⟨columns, hrefused⟩, t, ht⟩

end RoleGrants
