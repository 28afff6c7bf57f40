import RoleGrants.Proofs.AppliedGrants

/-!
# Snapshots of stored templates

What is in the snapshot of a stored template, in terms of the rows. Its entries are the rows of the
template without repetition, so each has a principal with an id and a role; the entries of users are
of stored users only. The flags are those of the characteristics: a template has one characteristic
for a role, and so no flag is set twice on the way into the map.
-/

namespace RoleGrants

variable {s : Store} {t : Template} {e : Entry}

namespace Store

/-- A group entry is a row of the template, and Anyone stands where the row has no group. -/
theorem mem_groups_snapshot (he : e ∈ (s.snapshot t).groups) :
    ∃ r ∈ s.templateGroups, r.template = t.id ∧ e.role = some r.role ∧
      e.principal = match r.group with
        | some id => .group (some id)
        | none => .anyone := by
  obtain ⟨r, hr, rfl⟩ := List.mem_map.1 (mem_of_mem_distinctBy he)
  obtain ⟨hr, htemplate⟩ := List.mem_filter.1 hr
  exact ⟨r, hr, beq_iff_eq.1 htemplate, rfl, rfl⟩

/-- A user entry is a row of the template whose user is stored. -/
theorem mem_users_snapshot (he : e ∈ (s.snapshot t).users) :
    ∃ r ∈ s.templateUsers, r.template = t.id ∧ e.role = some r.role ∧
      e.principal = .user (some r.user) ∧ s.hasUser r.user = true := by
  obtain ⟨r, hr, he⟩ := List.mem_flatMap.1 (mem_of_mem_distinctBy he)
  obtain ⟨u, hu, rfl⟩ := List.mem_map.1 he
  obtain ⟨hr, htemplate⟩ := List.mem_filter.1 hr
  obtain ⟨hu, hid⟩ := List.mem_filter.1 hu
  refine ⟨r, hr, beq_iff_eq.1 htemplate, rfl, rfl, ?_⟩
  rw [← beq_iff_eq.1 hid]
  exact hasUser_of_mem hu

end Store

/-! ### Flags -/

/-- Flags of different roles go into the map as they are. -/
theorem foldl_putFlag (flags acc : List (String × Bool))
    (h : ((acc ++ flags).map (·.1)).Nodup) :
    flags.foldl (fun acc f => putFlag acc f.1 f.2) acc = acc ++ flags := by
  induction flags generalizing acc with
  | nil => rw [List.foldl_nil, List.append_nil]
  | cons f flags ih =>
    -- no flag of the role is in the map yet, so none is overwritten
    have hnew : acc.any (·.1 == f.1) = false := by
      rw [List.any_eq_false]
      intro f' hf' heq
      rw [List.map_append, List.nodup_append] at h
      exact h.2.2 _ (List.mem_map_of_mem hf') f.1 (List.mem_map_of_mem List.mem_cons_self)
        (beq_iff_eq.1 heq)
    have hput : putFlag acc f.1 f.2 = acc ++ [f] := by
      rw [putFlag, hnew]
      rfl
    rw [List.foldl_cons, hput, ih (acc ++ [f]) (by simpa using h), List.append_assoc]
    rfl

/-- The roles of a template's characteristics differ. -/
theorem Store.Sound.nodup_flagsOf (h : s.Sound) (template : String) :
    ((s.flagsOf template).map (·.1)).Nodup := by
  rw [Store.flagsOf, List.map_map]
  refine List.pairwise_map.2 ?_
  -- two characteristics of one template and role would clash
  refine (h.characteristics.filter _).imp_of_mem fun {a b} ha hb hab hrole => hab ?_
  have hta : a.template = template := by simpa using (List.mem_filter.1 ha).2
  have htb : b.template = template := by simpa using (List.mem_filter.1 hb).2
  have hrole : a.role = b.role := hrole
  simp [Clash, Characteristic.keys, Key.clashes, hta, htb, hrole]

/-- The flags of a snapshot are those of the characteristics. -/
theorem Store.Sound.characteristics_snapshot (h : s.Sound) (t : Template) :
    (s.snapshot t).characteristics = s.flagsOf t.id :=
  foldl_putFlag (s.flagsOf t.id) [] (h.nodup_flagsOf t.id)

/-- A role is flagged for the creator when its characteristic is. -/
theorem Store.Sound.mem_characteristics_snapshot (h : s.Sound) {role : String} {flag : Bool} :
    (role, flag) ∈ (s.snapshot t).characteristics ↔
      ∃ c ∈ s.characteristics, c.template = t.id ∧ c.role = role ∧ c.forCreator = flag := by
  rw [h.characteristics_snapshot, Store.flagsOf, List.mem_map]
  constructor
  · rintro ⟨c, hc, heq⟩
    obtain ⟨hc, htemplate⟩ := List.mem_filter.1 hc
    cases heq
    exact ⟨c, hc, beq_iff_eq.1 htemplate, rfl, rfl⟩
  · rintro ⟨c, hc, htemplate, rfl, rfl⟩
    exact ⟨c, List.mem_filter.2 ⟨hc, beq_iff_eq.2 htemplate⟩, rfl⟩

end RoleGrants
