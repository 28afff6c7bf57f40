import RoleGrants.Proofs.AppliedGrants
import RoleGrants.Proofs.SnapshotRows

/-!
# The effect of an application

What a template says is in its rows, and what comes of it are grants. Between the two stands a
snapshot: it is read off the rows, and what is written are its triples. `application_effect` says
what an application that succeeds has done, in terms of the triples of the snapshot that was
applied, and for a stored template in terms of the rows (`Store.RowsGrant`).

The written part is known from `applySnapshot_eq_ok`, for any snapshot. That no row is lost or
merged on the way into the snapshot holds of stored templates in a reachable session only
(`Store.Sound.grants_snapshot_iff`).
-/

open RoleGrants.Action

namespace RoleGrants

/-! ### What the rows of a template stand for -/

/-- **The triples that the rows of a template give** on a project. A row gives its role to its user,
or to its group, or to Anyone if it has no group, and a characteristic that is set gives its role to
the creator, if there is one. -/
inductive Store.RowsGrant (s : Store) (template : String) (creator : Option String)
    (project : String) : Grant → Prop where
  | user {r : TemplateUser} (hr : r ∈ s.templateUsers) (htemplate : r.template = template) :
      RowsGrant s template creator project ⟨.user r.user, some project, r.role⟩
  | group {r : TemplateGroup} (hr : r ∈ s.templateGroups) (htemplate : r.template = template) :
      RowsGrant s template creator project ⟨.ofGroup r.group, some project, r.role⟩
  | creator {c : Characteristic} {user : String} (hc : c ∈ s.characteristics)
      (htemplate : c.template = template) (hflag : c.forCreator = true)
      (huser : creator = some user) :
      RowsGrant s template creator project ⟨.user user, some project, c.role⟩

theorem Principal.holder?_ofGroup (group : Option String) :
    (Principal.ofGroup group).holder? = some (.ofGroup group) := by
  cases group <;> rfl

/-- **The triples of a stored template are those of its rows.** -/
theorem Store.Sound.grants_snapshot_iff {s : Store} (h : s.Sound) {t : Template}
    {creator : Option String} {project : String} {g : Grant} :
    (s.snapshot t).Grants creator project g ↔ s.RowsGrant t.id creator project g := by
  constructor
  · intro hg
    cases hg with
    | entry he hholder hrole =>
      rcases he with he | he
      · obtain ⟨r, hr, htemplate, rfl⟩ := h.mem_groups_snapshot_iff.1 he
        cases hrole
        cases (Principal.holder?_ofGroup r.group).symm.trans hholder
        exact .group hr htemplate
      · obtain ⟨r, hr, htemplate, rfl⟩ := h.mem_users_snapshot_iff.1 he
        cases hrole
        cases hholder
        exact .user hr htemplate
    | creator huser hrole =>
      obtain ⟨c, hc, htemplate, rfl, hflag⟩ := h.mem_characteristics_snapshot.1 hrole
      exact .creator hc htemplate hflag huser
  · intro hg
    cases hg with
    | user hr htemplate =>
      exact .entry (.inr (h.mem_users_snapshot_iff.2 ⟨_, hr, htemplate, rfl⟩)) rfl rfl
    | group hr htemplate =>
      exact .entry (.inl (h.mem_groups_snapshot_iff.2 ⟨_, hr, htemplate, rfl⟩))
        (Principal.holder?_ofGroup _) rfl
    | creator hc htemplate hflag huser =>
      exact .creator huser (h.mem_characteristics_snapshot.2 ⟨_, hc, htemplate, rfl, hflag⟩)

/-- What a stored template is resolved to is the snapshot of a template with the id. -/
theorem TemplateSource.resolve_stored_eq_ok {s : Store} {id : String} {t : Snapshot}
    (h : (TemplateSource.stored (some id)).resolve s = .ok t) :
    ∃ stored ∈ s.templates, stored.id = id ∧ t = s.snapshot stored := by
  simp only [resolve, Store.findTemplate] at h
  cases hfound : s.template? (some id) with
  | none =>
    rw [hfound] at h
    cases h
  | some stored =>
    rw [hfound] at h
    cases h
    obtain ⟨hstored, hid⟩ := Store.mem_of_template? hfound
    exact ⟨stored, hstored, (Option.some.inj hid).symm, rfl⟩

/-! ### A successful application -/

variable {faults : Faults}

/-- **The effect of an application.** What is held afterwards is what was held and, each once, the
triples of the snapshot that were not. The report counts these, the project is marked with the one
new reading of the clock even if there are none, nothing else is touched, and all that is seen is
committed. No triple comes to be stored twice, and in a reachable session none was. There the
triples of a stored template are those that its rows give. -/
theorem application_effect {source : TemplateSource} {project creator : Option String}
    {s u : Session} {t : Snapshot} (h : source.apply faults project creator s = .ok t u) :
    source.resolve s.working = .ok t ∧
      ∃ p, s.working.project? project = some p ∧
        (∃ new : List Grant, new.Nodup ∧
          (∀ g, g ∈ new ↔ t.Grants creator p.id g ∧ g ∉ s.working.grants) ∧
          u.working.grants.Perm (s.working.grants ++ new) ∧
          u.log = s.log ++ [.templateApplied t.id p.id new.length creator.isSome]) ∧
        (∀ g, g ∈ u.working.grants ↔ g ∈ s.working.grants ∨ t.Grants creator p.id g) ∧
        (s.working.grants.Nodup → u.working.grants.Nodup) ∧
        (s.Reachable → s.working.grants.Nodup) ∧
        u.clock = s.clock + 1 ∧
        u.working.project? (some p.id) = some { p with refreshedAt := some u.clock } ∧
        s.working.AgreeOff p.id u.working ∧
        u.committed = u.working ∧
        (s.Reachable → ∀ id, source = .stored (some id) →
          (∃ stored ∈ s.working.templates, stored.id = id) ∧ t.id = some id ∧
            ∀ g, t.Grants creator p.id g ↔ s.working.RowsGrant id creator p.id g) := by
  rw [TemplateSource.apply_run] at h
  cases hsource : source.resolve s.working with
  | error r => rw [hsource] at h; cases h
  | ok t' =>
    rw [hsource] at h
    obtain ⟨rfl, p, hp, rfl⟩ := applySnapshot_eq_ok h
    have hperm := s.working.grants_withPlan_perm (t.plan creator) p.id (s.clock + 1)
    have hnew : ∀ g, g ∈ s.working.newGrants (plannedGrants (.project (some p.id))
        (t.plan creator)) ↔ t.Grants creator p.id g ∧ g ∉ s.working.grants := by
      intro g
      rw [Store.mem_newGrants, mem_plannedGrants]
    have hmark := Store.project?_withPlan hp (t.plan creator) (s.clock + 1)
    have hframe := s.working.agreeOff_withPlan (t.plan creator) p.id (s.clock + 1)
    refine ⟨rfl, p, hp, ⟨_, s.working.nodup_newGrants _, hnew, hperm, rfl⟩, ?_, ?_, ?_, rfl, hmark,
      hframe, rfl, ?_⟩
    · intro g
      exact Store.mem_grants_withPlan
    · intro hs
      exact Store.nodup_grants_withPlan hs _ _ _
    · -- the keys of the two tables see to it
      intro hs
      exact hs.sound.1.nodup_grants
    · rintro hs id rfl
      obtain ⟨stored, hstored, rfl, rfl⟩ := TemplateSource.resolve_stored_eq_ok hsource
      exact ⟨⟨stored, hstored, rfl⟩, rfl, fun g => hs.sound.1.grants_snapshot_iff⟩

/-- The pending grant of the sample is one of the triples of its template, and is still stored
once. A row without a group gives its role to Anyone. -/
theorem sample_applied :
    ∃ t u, TemplateSource.apply .none (some "p") (some "u") (.stored (some "t")) Session.sample =
        .ok t u ∧
      ⟨.user "u", some "p", "admin"⟩ ∈ u.working.grants ∧
      ⟨.anyone, some "p", "browse"⟩ ∈ u.working.grants ∧ u.working.grants.Nodup ∧
      u.committed = u.working := by
  obtain ⟨t, u, h⟩ : ∃ t u, TemplateSource.apply .none (some "p") (some "u")
      (.stored (some "t")) Session.sample = .ok t u := ⟨_, _, rfl⟩
  have hs : Session.sample.Reachable := ⟨sampleCalls, fun _ _ => trivial, rfl⟩
  obtain ⟨-, p, hp, -, hmem, hnodup, hreach, -, -, -, hcommitted, hrows⟩ := application_effect h
  cases hp
  refine ⟨t, u, h, (hmem _).2 (.inl (by decide +kernel)), (hmem _).2 (.inr ?_), hnodup (hreach hs),
    hcommitted⟩
  obtain ⟨-, -, hgrants⟩ := hrows hs "t" rfl
  have hrow : ⟨none, "t", none, "browse"⟩ ∈ Session.sample.working.templateGroups := by
    decide +kernel
  exact (hgrants _).2 (.group hrow rfl)

end RoleGrants
