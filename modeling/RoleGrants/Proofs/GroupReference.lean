import RoleGrants.Proofs.GrantByName

/-!
# References to groups

A group is referred to by its id, or by its organization and its name. Two lookups take such a
reference: one knows stored groups alone, the other admits Anyone. `group_references_agree` says
that they part at Anyone and nowhere else, that both find every stored group by either reference to
it, and that they find nothing that was not referred to.

There are four things that a reference can come to: it is malformed, it is to Anyone, it is to a
stored group, or it is to nothing (`GroupReference.Resolution`). Which of them it is decides both
lookups at once, and the clauses of the result are read off it. That no two of the four are the case
together is no matter of the lookups but of the rows. A group is the only one of its name in its
organization because the store is sound, and no reference to it is one to Anyone because the names
of groups are apart from the reserved one.
-/

open RoleGrants.Action

namespace RoleGrants

/-! ### References -/

namespace GroupReference

/-- **A reference is malformed:** it has an id together with an organization or a name, or neither
an id nor a name. -/
def Malformed (r : GroupReference) : Prop :=
  (r.id ≠ none ∧ (r.organization ≠ none ∨ r.name ≠ none)) ∨ (r.id = none ∧ r.name = none)

/-- **A reference is to a group:** by the id of the group alone, or by its organization and its
name. -/
inductive IsTo (g : Group) : GroupReference → Prop where
  | byId : IsTo g ⟨some g.id, none, none⟩
  | byName : IsTo g ⟨none, some g.organization, some g.name⟩

/-- **A reference is to Anyone:** it has no id, and its name spells the reserved one, in whatever
organization. -/
def IsToAnyone (r : GroupReference) : Prop :=
  r.id = none ∧ ∃ name, r.name = some name ∧ SpellsAnyone name

variable {r : GroupReference} {g : Group}

/-- A reference that is not malformed is an id, or a name with or without an organization. -/
theorem cases_of_not_malformed (h : ¬ r.Malformed) :
    (∃ id, r = ⟨some id, none, none⟩) ∨
      ∃ organization name, r = ⟨none, organization, some name⟩ := by
  obtain ⟨_ | id, organization, name⟩ := r
  · cases name with
    | none => exact absurd (.inr ⟨rfl, rfl⟩) h
    | some name => exact .inr ⟨organization, name, rfl⟩
  · cases organization with
    | some o => exact absurd (.inl ⟨nofun, .inl nofun⟩) h
    | none =>
      cases name with
      | some n => exact absurd (.inl ⟨nofun, .inr nofun⟩) h
      | none => exact .inl ⟨id, rfl⟩

/-- The check lets pass what is not malformed. -/
theorem check_eq_ok (h : ¬ r.Malformed) : r.check = .ok () := by
  rcases cases_of_not_malformed h with ⟨id, rfl⟩ | ⟨organization, name, rfl⟩ <;> rfl

theorem Malformed.check_eq (h : r.Malformed) : ∃ e, r.check = .error e ∧ e.kind = .invalid := by
  obtain ⟨id, organization, name⟩ := r
  unfold check
  rcases h with ⟨hid, hother⟩ | ⟨hid, hname⟩
  · obtain ⟨i, rfl⟩ := Option.ne_none_iff_exists'.1 hid
    have hother : (organization.isSome || name.isSome) = true := by
      rw [Bool.or_eq_true, Option.isSome_iff_ne_none, Option.isSome_iff_ne_none]
      exact hother
    exact ⟨.conflictingGroupReference, if_pos hother, rfl⟩
  · cases hid
    cases hname
    exact ⟨.missingGroupReference, rfl, rfl⟩

theorem designatesAnyone_iff : r.designatesAnyone = true ↔ r.IsToAnyone := by
  obtain ⟨id, organization, name⟩ := r
  rw [designatesAnyone, Bool.and_eq_true, Option.isNone_iff_eq_none, IsToAnyone]
  refine and_congr_right fun _ => ?_
  cases name with
  | none =>
    constructor
    · intro h
      cases h
    · rintro ⟨_, ⟨⟩, _⟩
  | some name => simp [isAnyone_iff]

theorem IsTo.not_malformed (h : r.IsTo g) : ¬ r.Malformed := by
  cases h <;> simp [Malformed]

theorem IsToAnyone.not_malformed (h : r.IsToAnyone) : ¬ r.Malformed := by
  obtain ⟨hid, name, hname, -⟩ := h
  simp [Malformed, hid, hname]

/-- A reference to a group is not one to Anyone, if the group has a name that it may have. -/
theorem IsTo.not_isToAnyone (h : r.IsTo g) (hname : ¬ SpellsAnyone g.name) : ¬ r.IsToAnyone := by
  rintro ⟨hid, name, hr, hspells⟩
  cases h with
  | byId => cases hid
  | byName =>
    cases hr
    exact hname hspells

/-- A reference is to one stored group at most. -/
theorem IsTo.eq {s : Store} (hs : s.Sound) {g' : Group} (hg : g ∈ s.groups) (hg' : g' ∈ s.groups)
    (h : r.IsTo g) (h' : r.IsTo g') : g = g' := by
  refine hs.groups.eq_of_clash hg hg' ?_
  -- a reference cannot be by id to one group and by name to another
  cases h with
  | byId =>
    generalize hid : g.id = id at h'
    cases h'
    exact Group.clash_of_id hid
  | byName =>
    generalize horganization : g.organization = organization, hname : g.name = name at h'
    cases h'
    exact Group.clash_of_name horganization hname

end GroupReference

/-! ### What a reference comes to -/

/-- **What the two lookups make of a reference**, the one of stored groups and the one that admits
Anyone. -/
inductive GroupReference.Resolution (s : Store) (r : GroupReference) :
    Except Refusal FoundGroup → Except Refusal FoundGroup → Prop where
  | malformed {e : Refusal} (h : r.Malformed) (he : e.kind = .invalid) :
      Resolution s r (.error e) (.error e)
  | anyone {e : Refusal} (h : r.IsToAnyone) (he : e.kind = .notFound) :
      Resolution s r (.error e) (.ok .anyone)
  | found {g : Group} (hg : g ∈ s.groups) (h : r.IsTo g) :
      Resolution s r (.ok (.ofGroup g)) (.ok (.ofGroup g))
  | missing {e : Refusal} (h : ¬ r.Malformed) (hanyone : ¬ r.IsToAnyone)
      (hnone : ∀ g ∈ s.groups, ¬ r.IsTo g) (he : e.kind = .notFound) :
      Resolution s r (.error e) (.error e)

namespace Store

variable {s : Store} {r : GroupReference}

/-- Among the stored groups there is one that the reference is to, or it is not found. -/
theorem storedGroup_cases (s : Store) (h : ¬ r.Malformed) :
    (∃ g ∈ s.groups, r.IsTo g ∧ s.storedGroup r = .ok (.ofGroup g)) ∨
      ∃ e, s.storedGroup r = .error e ∧ e.kind = .notFound ∧ ∀ g ∈ s.groups, ¬ r.IsTo g := by
  unfold storedGroup
  rcases GroupReference.cases_of_not_malformed h with ⟨id, rfl⟩ | ⟨organization, name, rfl⟩ <;>
    dsimp only
  · cases hfound : s.group? (some id) with
    | some g =>
      obtain ⟨hg, hid⟩ := mem_of_group? hfound
      cases hid
      exact .inl ⟨g, hg, .byId, rfl⟩
    | none =>
      refine .inr ⟨_, rfl, rfl, fun g hg hto => ?_⟩
      cases hto
      exact List.find?_eq_none.1 hfound g hg (beq_self_eq_true _)
  · cases hfound : s.groupNamed? organization (some name) with
    | some g =>
      obtain ⟨hg, horganization, hname⟩ := groupNamed?_eq_some hfound
      subst horganization hname
      exact .inl ⟨g, hg, .byName, rfl⟩
    | none =>
      refine .inr ⟨_, rfl, rfl, fun g hg hto => ?_⟩
      cases hto
      exact List.find?_eq_none.1 hfound g hg (by simp)

/-- **Every reference comes to one of the four.** -/
theorem resolution (s : Store) (r : GroupReference) :
    r.Resolution s (s.findGroup r) (s.findGroupOrAnyone r) := by
  unfold findGroup findGroupOrAnyone
  by_cases hmalformed : r.Malformed
  · obtain ⟨e, he, hkind⟩ := hmalformed.check_eq
    rw [he]
    exact .malformed hmalformed hkind
  rw [GroupReference.check_eq_ok hmalformed]
  -- the reserved name is seen to before the rows are
  by_cases hanyone : r.IsToAnyone
  · rw [if_pos (GroupReference.designatesAnyone_iff.2 hanyone),
      if_pos (GroupReference.designatesAnyone_iff.2 hanyone)]
    exact .anyone hanyone rfl
  · rw [if_neg (mt GroupReference.designatesAnyone_iff.1 hanyone),
      if_neg (mt GroupReference.designatesAnyone_iff.1 hanyone)]
    rcases s.storedGroup_cases hmalformed with ⟨g, hg, hto, hstored⟩ | ⟨e, hstored, hkind, hnone⟩
    · rw [hstored]
      exact .found hg hto
    · rw [hstored]
      exact .missing hmalformed hanyone hnone hkind

end Store

/-! ### Asking a session -/

/-- A call is refused, with a refusal of a class. -/
def Refused (kind : RefusalClass) (answer : Except Failure Answer) : Prop :=
  ∃ e : Refusal, answer = .error (.refused e) ∧ e.kind = kind

/-- **How a reference is to be answered**, when stored groups are asked for and when Anyone is
admitted.
-/
structure GroupReference.ResolvedIn (s : Store) (r : GroupReference)
    (stored orAnyone : Except Failure Answer) : Prop where
  /-- every stored group is found by a reference to it -/
  complete : ∀ g ∈ s.groups, r.IsTo g →
    stored = .ok (.group (.group g.id g.organization)) ∧
      orAnyone = .ok (.group (.group g.id g.organization))
  /-- what is found is a stored group that was referred to -/
  sound : ∀ id organization,
    stored = .ok (.group (.group id organization)) ∨
        orAnyone = .ok (.group (.group id organization)) →
      ∃ g ∈ s.groups, r.IsTo g ∧ g.id = id ∧ g.organization = organization
  malformed : (Refused .invalid stored ↔ r.Malformed) ∧ (Refused .invalid orAnyone ↔ r.Malformed)
  anyone : r.IsToAnyone → Refused .notFound stored ∧ orAnyone = .ok (.group .anyone)
  agree : ¬ r.Malformed → ¬ r.IsToAnyone →
    orAnyone = stored ∧ (Refused .notFound stored ∨
      ∃ g ∈ s.groups, stored = .ok (.group (.group g.id g.organization)))

section Answers

variable {kind : RefusalClass}

theorem refused_error {e : Refusal} : Refused kind (.error (.refused e)) ↔ e.kind = kind := by
  constructor
  · rintro ⟨e', h, hkind⟩
    cases h
    exact hkind
  · exact fun h => ⟨e, rfl, h⟩

theorem not_refused_ok {a : Answer} : ¬ Refused kind (.ok a) := by
  rintro ⟨e, h, -⟩
  cases h

theorem not_invalid_of_notFound {e : Refusal} (h : e.kind = .notFound) :
    ¬ Refused .invalid (.error (.refused e)) := by
  rw [refused_error, h]
  decide

end Answers

/-- What the lookups make of a reference is what is to be answered, where no group is taken for
another one or for Anyone. -/
theorem GroupReference.Resolution.resolvedIn {s : Store} {r : GroupReference}
    {stored orAnyone : Except Refusal FoundGroup} (hs : s.Sound) (hnames : s.NamesApart)
    (h : r.Resolution s stored orAnyone) :
    r.ResolvedIn s ((stored.map .group).mapError .refused)
      ((orAnyone.map .group).mapError .refused) := by
  cases h with
  | malformed h he =>
    have hrefused : Refused .invalid (.error (.refused _)) := refused_error.2 he
    exact {
      complete := fun g _ hto => absurd h hto.not_malformed
      sound := by rintro id organization (hok | hok) <;> cases hok
      malformed := ⟨iff_of_true hrefused h, iff_of_true hrefused h⟩
      anyone := fun hanyone => absurd h hanyone.not_malformed
      agree := fun hnot => absurd h hnot }
  | anyone h he =>
    exact {
      -- a stored group of this name would be referred to as well
      complete := fun g hg hto => absurd h (hto.not_isToAnyone (hnames g hg).2)
      sound := by rintro id organization (hok | hok) <;> cases hok
      malformed := ⟨iff_of_false (not_invalid_of_notFound he) h.not_malformed,
        iff_of_false not_refused_ok h.not_malformed⟩
      anyone := fun _ => ⟨refused_error.2 he, rfl⟩
      agree := fun _ hnot => absurd h hnot }
  | @found g hg h =>
    have hok {f : FoundGroup} : ¬ Refused .invalid (.ok (.group f)) := not_refused_ok
    exact {
      complete := fun g' hg' hto => by
        rw [h.eq hs hg hg' hto]
        exact ⟨rfl, rfl⟩
      sound := by
        rintro id organization (hok | hok)
        all_goals
          cases hok
          exact ⟨g, hg, h, rfl, rfl⟩
      malformed := ⟨iff_of_false hok h.not_malformed, iff_of_false hok h.not_malformed⟩
      anyone := fun hanyone => absurd hanyone (h.not_isToAnyone (hnames g hg).2)
      agree := fun _ _ => ⟨rfl, .inr ⟨g, hg, rfl⟩⟩ }
  | missing h hanyone hnone he =>
    have hnot : ¬ Refused .invalid (.error (.refused _)) := not_invalid_of_notFound he
    exact {
      complete := fun g hg hto => absurd hto (hnone g hg)
      sound := by rintro id organization (hok | hok) <;> cases hok
      malformed := ⟨iff_of_false hnot h, iff_of_false hnot h⟩
      anyone := fun hto => absurd hto hanyone
      agree := fun _ _ => ⟨rfl, .inl (refused_error.2 he)⟩ }

/-- **References to groups are resolved consistently.** In a reachable session every stored group is
found by its id and by its organization and name, whether or not Anyone is admitted, and only a
group that was referred to is ever found. A reference is invalid, to both lookups, exactly when it
has an id together with something else, or neither an id nor a name. Otherwise they answer alike or
refuse alike, because nothing is found, but for a name that spells the reserved one: it is Anyone's
in every organization, existing or not, and not that of a group. The session stays as it is. -/
theorem group_references_agree {s : Session} (hs : s.Reachable) (r : GroupReference) :
    ∃ stored orAnyone,
      s.serve (.ask (.findGroup r)) = (stored, s) ∧
      s.serve (.ask (.findGroupOrAnyone r)) = (orAnyone, s) ∧
      r.ResolvedIn s.working stored orAnyone := by
  have hresolution :
      r.Resolution s.working (s.working.findGroup r) (s.working.findGroupOrAnyone r) :=
    s.working.resolution r
  refine ⟨_, _, s.serve_ask (.findGroup r), s.serve_ask (.findGroupOrAnyone r), ?_⟩
  -- what a lookup comes to is said of any store; that it is right needs a reachable one
  exact hresolution.resolvedIn hs.sound.1 hs.namesApart.1

/-- The group of the sample is found by its name, and the reserved name is not found among the
groups of an organization that is not there. -/
theorem sample_references :
    Session.sample.serve (.ask (.findGroup ⟨none, some "o", some "devs"⟩)) =
        (.ok (.group (.group "g" "o")), Session.sample) ∧
      Session.sample.serve (.ask (.findGroupOrAnyone ⟨none, some "nowhere", some "AnyOne"⟩)) =
        (.ok (.group .anyone), Session.sample) ∧
      Refused .notFound
        (Session.sample.serve (.ask (.findGroup ⟨none, some "nowhere", some "AnyOne"⟩))).1 := by
  have hs : Session.sample.Reachable := ⟨sampleCalls, fun _ _ => trivial, rfl⟩
  have hg : ⟨"g", "o", "devs"⟩ ∈ Session.sample.working.groups := by decide +kernel
  have hanyone : GroupReference.IsToAnyone ⟨none, some "nowhere", some "AnyOne"⟩ :=
    ⟨rfl, "AnyOne", rfl, isAnyone_iff.1 (by decide)⟩
  obtain ⟨_, _, hstored, -, hresolved⟩ :=
    group_references_agree hs ⟨none, some "o", some "devs"⟩
  obtain ⟨_, _, hstored', horAnyone, hresolved'⟩ :=
    group_references_agree hs ⟨none, some "nowhere", some "AnyOne"⟩
  obtain ⟨hrefused, hfound⟩ := hresolved'.anyone hanyone
  refine ⟨?_, ?_, ?_⟩
  · rw [hstored, (hresolved.complete _ hg .byName).1]
  · rw [horAnyone, hfound]
  · rw [hstored']
    exact hrefused

end RoleGrants
