import RoleGrants.Proofs.ReservedName

/-!
# Granting by name

A role can be granted to a group by its name in an organization, and the roles of groups are read by
name. The two go by different rules. Granting looks for one group in one organization, or takes the
reserved name for Anyone; reading selects the rows of whoever goes by the name.
`named_grant_read_back` says that they meet: what is granted by a name is read by it, on the scope
and nowhere else, and nobody else's reading changes.

What is granted is one triple, of the holder that the name is for (`Store.NamedIn`). Which readings
change is then a matter of the names that this holder goes by. These are the name itself, because no
two groups have one id, and for Anyone all spellings of the reserved word
(`Store.Sound.goesBy_iff`).
-/

open RoleGrants.Action

namespace RoleGrants

/-! ### Whom a name is for -/

/-- **Whom a name is for in an organization:** Anyone, where it spells the reserved word, and
otherwise the stored group of the organization that has the name. -/
def Store.NamedIn (s : Store) (organization : Option String) (name : String) : Holder → Prop
  | .user _ => False
  | .group id => ¬ SpellsAnyone name ∧
    ∃ g ∈ s.groups, g.id = id ∧ some g.organization = organization ∧ g.name = name
  | .anyone => SpellsAnyone name

/-- Two names select the same grants: they are one name, or both spell the reserved word. -/
def SameHolderName (name other : String) : Prop :=
  other = name ∨ SpellsAnyone name ∧ SpellsAnyone other

namespace Store

variable {s : Store} {organization : Option String} {name : String}

/-- A reference by name, taken apart. -/
theorem findGroupOrAnyone_named (s : Store) (organization : Option String) (name : String) :
    s.findGroupOrAnyone ⟨none, organization, some name⟩ =
      if isAnyone (some name) then .ok .anyone
      else match s.groupNamed? organization (some name) with
        | some g => .ok (.ofGroup g)
        | none => .error (.noGroupNamed name) := rfl

theorem groupNamed?_eq_some {g : Group} (h : s.groupNamed? organization (some name) = some g) :
    g ∈ s.groups ∧ some g.organization = organization ∧ g.name = name := by
  have hpicked := List.find?_some h
  simp only [Bool.and_eq_true, beq_iff_eq, Option.some.injEq] at hpicked
  exact ⟨List.mem_of_find?_eq_some h, hpicked⟩

/-- What is found is what the name is for. -/
theorem namedIn_of_findGroupOrAnyone {found : FoundGroup}
    (h : s.findGroupOrAnyone ⟨none, organization, some name⟩ = .ok found) :
    s.NamedIn organization name (.ofGroup found.storedId) := by
  rw [findGroupOrAnyone_named] at h
  split at h
  · next hreserved =>
    cases h
    exact isAnyone_iff.1 hreserved
  · next hreserved =>
    cases hg : s.groupNamed? organization (some name) with
    | none =>
      rw [hg] at h
      cases h
    | some g =>
      rw [hg] at h
      cases h
      obtain ⟨hmem, hnamed⟩ := groupNamed?_eq_some hg
      exact ⟨mt isAnyone_iff.2 hreserved, g, hmem, rfl, hnamed⟩

/-- Whom a name is for is found. -/
theorem Sound.findGroupOrAnyone_of_namedIn (hs : s.Sound) {holder : Holder}
    (h : s.NamedIn organization name holder) :
    ∃ found, s.findGroupOrAnyone ⟨none, organization, some name⟩ = .ok found ∧
      holder = .ofGroup found.storedId := by
  cases holder with
  | user id => exact h.elim
  | group id =>
    obtain ⟨hother, g, hg, rfl, rfl, rfl⟩ := h
    exact ⟨.group g.id g.organization, hs.findGroupOrAnyone_eq hg hother, rfl⟩
  | anyone =>
    have hreserved : isAnyone (some name) = true := isAnyone_iff.2 h
    refine ⟨.anyone, ?_, rfl⟩
    rw [findGroupOrAnyone_named, if_pos hreserved]

/-- A group that a name is for is there. -/
theorem NamedIn.hasGroup {group : Option String}
    (h : s.NamedIn organization name (.ofGroup group)) : group.all s.hasGroup = true := by
  cases group with
  | none => rfl
  | some id =>
    obtain ⟨-, g, hg, rfl, -⟩ := h
    exact List.any_eq_true.2 ⟨g, hg, beq_self_eq_true g.id⟩

/-- **The names that a holder goes by** are the one that was meant and, for Anyone, all that spell
the reserved word. -/
theorem Sound.goesBy_iff (hs : s.Sound) {holder : Holder} (h : s.NamedIn organization name holder)
    {other : String} : holder.GoesBy s (some other) ↔ SameHolderName name other := by
  cases holder with
  | user id => exact h.elim
  | anyone =>
    have hname : SpellsAnyone name := h
    refine isAnyone_iff.trans ?_
    constructor
    · exact fun hother => .inr ⟨hname, hother⟩
    · rintro (rfl | ⟨-, hother⟩)
      · exact hname
      · exact hother
  | group id =>
    obtain ⟨hname, g, hg, rfl, -, rfl⟩ := h
    constructor
    · rintro ⟨-, g', hg', hid, hother⟩
      -- a group of this id is the group itself
      obtain rfl : g' = g := hs.groups.eq_of_clash hg' hg (Group.clash_of_id hid)
      exact .inl (Option.some.inj hother).symm
    · rintro (rfl | ⟨hreserved, -⟩)
      · exact ⟨Bool.eq_false_iff.2 (mt isAnyone_iff.1 hname), g, hg, rfl, rfl⟩
      · exact absurd hreserved hname

end Store

/-! ### Reading after a grant -/

/-- A store has one triple more, and the same users and groups. -/
structure Store.Gains (s : Store) (g : Grant) (t : Store) : Prop where
  mem_grants : ∀ g', g' ∈ t.grants ↔ g' ∈ s.grants ∨ g' = g
  groups : t.groups = s.groups

namespace Store.Gains

variable {s t : Store} {g : Grant} {name : Option String} {scope : Scope}

/-- Where the holder goes by the name, the role comes to what is read on the scope. -/
theorem rolesOfGroupNamed_of_goesBy (h : s.Gains g t) (hgoes : g.holder.GoesBy s name)
    (hscope : scope.projectId = g.project) :
    t.rolesOfGroupNamed name scope =
      sortTexts (distinct (g.role :: s.rolesOfGroupNamed name scope)) := by
  refine sortTexts_distinct_ext fun role => ?_
  change role ∈ t.rolesOfGroupNamed name scope ↔ _
  rw [mem_sortTexts_distinct, List.mem_cons, mem_rolesOfGroupNamed, mem_rolesOfGroupNamed]
  constructor
  · rintro ⟨g', ⟨hg', hgoes'⟩, hproject, rfl⟩
    rw [Holder.goesBy_congr h.groups] at hgoes'
    rcases (h.mem_grants g').1 hg' with hold | rfl
    · exact .inr ⟨g', ⟨hold, hgoes'⟩, hproject, rfl⟩
    · exact .inl rfl
  · rintro (rfl | ⟨g', ⟨hg', hgoes'⟩, hproject, rfl⟩)
    · refine ⟨g, ⟨(h.mem_grants g).2 (.inr rfl), ?_⟩, hscope.symm, rfl⟩
      exact (Holder.goesBy_congr h.groups).2 hgoes
    · refine ⟨g', ⟨(h.mem_grants g').2 (.inl hg'), ?_⟩, hproject, rfl⟩
      exact (Holder.goesBy_congr h.groups).2 hgoes'

/-- Where it does not, or on another scope, the same is read as before. -/
theorem rolesOfGroupNamed_eq (h : s.Gains g t)
    (hother : ¬ g.holder.GoesBy s name ∨ scope.projectId ≠ g.project) :
    t.rolesOfGroupNamed name scope = s.rolesOfGroupNamed name scope := by
  refine sortTexts_distinct_ext fun role => ?_
  change role ∈ t.rolesOfGroupNamed name scope ↔ role ∈ s.rolesOfGroupNamed name scope
  rw [mem_rolesOfGroupNamed, mem_rolesOfGroupNamed]
  refine exists_congr fun g' => ?_
  rw [Holder.goesBy_congr h.groups, h.mem_grants]
  constructor
  · rintro ⟨⟨hold | rfl, hgoes⟩, hproject, hrole⟩
    · exact ⟨⟨hold, hgoes⟩, hproject, hrole⟩
    · -- the new triple is not read here
      rcases hother with hnot | hne
      · exact absurd hgoes hnot
      · exact absurd hproject.symm hne
  · rintro ⟨⟨hold, hgoes⟩, hrest⟩
    exact ⟨⟨.inl hold, hgoes⟩, hrest⟩

end Store.Gains

/-- What is granted to a group or to Anyone is read by no login. -/
theorem rolesOfLogin_insertGrant (s : Store) (group project : Option String) (role : String)
    (login : Option String) (scope : Scope) :
    (s.insertGrant ⟨.ofGroup group, project, role⟩).rolesOfLogin login scope =
      s.rolesOfLogin login scope := by
  have hrows : (s.insertGrant ⟨.ofGroup group, project, role⟩).userGrants = s.userGrants := by
    rw [Store.insertGrant, Grant.userRows_ofGroup, List.append_nil, ite_self]
  rw [Store.rolesOfLogin, hrows]
  rfl

/-! ### The grant -/

/-- When a triple of a group or of Anyone passes the checks: whatever it refers to is there, whether
or not it is held already. -/
theorem Store.Sound.checkedTriple_ofGroup_eq_ok {s : Store} (hs : s.Sound)
    {group project : Option String} {role : String} {g : Grant} :
    s.checkedTriple (some (.ofGroup group)) (some role) project = .ok g ↔
      Text.isBlank role = false ∧
        (group.all s.hasGroup = true ∧ project.all s.hasProject = true) ∧
        g = ⟨.ofGroup group, project, role⟩ := by
  rw [checkedTriple_eq_ok]
  constructor
  · rintro ⟨⟨_, r, ⟨⟩, hr, rfl⟩, hadmits⟩
    obtain ⟨⟨⟩, hrole⟩ := roleOf_eq_ok.1 hr
    -- what is held already refers to rows that are there
    have hknows := hadmits.elim hs.knows_of_mem_grants id
    rw [knows_ofGroup, Bool.and_eq_true] at hknows
    exact ⟨hrole, hknows, rfl⟩
  · rintro ⟨hrole, hknows, rfl⟩
    refine ⟨⟨_, role, rfl, roleOf_eq_ok.2 ⟨rfl, hrole⟩, rfl⟩, .inr ?_⟩
    rw [knows_ofGroup, Bool.and_eq_true]
    exact hknows

namespace Session

variable {s t : Session} {organization : Option String} {name role : String} {scope : Scope}

/-- **Granting by name, in closed form.** -/
theorem run_grantToNamedGroup (s : Session) (organization name role : Option String)
    (scope : Scope) :
    (GrantCall.grantToNamedGroup organization name role scope).run s =
      match s.working.findGroupOrAnyone ⟨none, organization, name⟩ with
      | .error r => .error (.refused r) s
      | .ok found =>
        match s.working.checkedTriple (some (.ofGroup found.storedId)) role scope.projectId with
        | .ok g => .ok (.flag (decide (g ∉ s.working.grants))) ((s.insertGrant g).mark scope)
        | .error f => .error f s := by
  rw [GrantCall.run, map_run, RoleGrants.grantToNamedGroup, bind_run, reading_run]
  dsimp only
  cases s.working.findGroupOrAnyone ⟨none, organization, name⟩ with
  | error r => rfl
  | ok found =>
    have hchecks : s.working.grantable (.group found.storedId) role scope.projectId =
        s.working.checkedTriple (some (.ofGroup found.storedId)) role scope.projectId := rfl
    rw [bind_run]
    dsimp only [accepted, pure_run]
    rw [grantToGroup_run, hchecks]
    cases s.working.checkedTriple (some (.ofGroup found.storedId)) role scope.projectId <;> rfl

/-- **When granting by name succeeds, and what it does:** the name is for somebody, the role is not
blank, the project is there, and the triple is granted to whom the name is for. -/
theorem run_grantToNamedGroup_eq_ok (hs : s.working.Sound) {a : Answer} :
    (GrantCall.grantToNamedGroup organization (some name) (some role) scope).run s = .ok a t ↔
      ∃ holder, s.working.NamedIn organization name holder ∧ Text.isBlank role = false ∧
        scope.projectId.all s.working.hasProject = true ∧
        a = .flag (decide (⟨holder, scope.projectId, role⟩ ∉ s.working.grants)) ∧
        t = (s.insertGrant ⟨holder, scope.projectId, role⟩).mark scope := by
  rw [run_grantToNamedGroup]
  constructor
  · intro h
    cases hfound : s.working.findGroupOrAnyone ⟨none, organization, some name⟩ with
    | error r =>
      rw [hfound] at h
      cases h
    | ok found =>
      rw [hfound] at h
      dsimp only at h
      cases hg : s.working.checkedTriple (some (.ofGroup found.storedId)) (some role)
          scope.projectId with
      | error f =>
        rw [hg] at h
        cases h
      | ok g =>
        rw [hg] at h
        cases h
        obtain ⟨hrole, ⟨-, hproject⟩, rfl⟩ := hs.checkedTriple_ofGroup_eq_ok.1 hg
        exact ⟨_, Store.namedIn_of_findGroupOrAnyone hfound, hrole, hproject, rfl, rfl⟩
  · rintro ⟨holder, hname, hrole, hproject, rfl, rfl⟩
    obtain ⟨found, hfound, rfl⟩ := hs.findGroupOrAnyone_of_namedIn hname
    rw [hfound]
    dsimp only
    rw [hs.checkedTriple_ofGroup_eq_ok.2 ⟨hrole, ⟨hname.hasGroup, hproject⟩, rfl⟩]

/-- A triple more in a store, and a project marked. -/
theorem gains_insertGrant_mark (s : Session) (g : Grant) (scope : Scope) :
    s.working.Gains g ((s.insertGrant g).mark scope).working := by
  rw [working_mark]
  exact ⟨fun _ => Store.mem_grants_insertGrant, rfl⟩

theorem rolesOfLogin_mark (s : Session) (scope : Scope) (login : Option String) (scope' : Scope) :
    (s.mark scope).working.rolesOfLogin login scope' = s.working.rolesOfLogin login scope' := by
  rw [working_mark]
  rfl

end Session

/-- **What is granted by name is read by name.** Granting a role by name succeeds exactly when the
name is for somebody in the organization, the role is not blank and the project is there. It then
answers that the grant is new exactly when whom the name is for did not hold the role on the scope.
What is read by the name on the scope is what was read before, with the role, and for Anyone by
every name that spells the reserved word. By every other name, by every name on another scope, and
for every login the same is read as before. -/
theorem named_grant_read_back {s : Session} (hs : s.Reachable) (organization : Option String)
    (name role : String) (scope : Scope) :
    ((∃ answer t,
      s.serve (.grants (.grantToNamedGroup organization (some name) (some role) scope)) =
        (.ok answer, t)) ↔
      (∃ holder, s.working.NamedIn organization name holder) ∧ Text.isBlank role = false ∧
        scope.projectId.all s.working.hasProject = true) ∧
    ∀ answer t,
      s.serve (.grants (.grantToNamedGroup organization (some name) (some role) scope)) =
        (.ok answer, t) →
      ∃ holder, s.working.NamedIn organization name holder ∧
        answer = .flag (decide (⟨holder, scope.projectId, role⟩ ∉ s.working.grants)) ∧
        (∀ other scope', SameHolderName name other → scope'.projectId = scope.projectId →
          t.working.rolesOfGroupNamed (some other) scope' =
            sortTexts (distinct (role :: s.working.rolesOfGroupNamed (some other) scope'))) ∧
        (∀ other scope', ¬ SameHolderName name other ∨ scope'.projectId ≠ scope.projectId →
          t.working.rolesOfGroupNamed (some other) scope' =
            s.working.rolesOfGroupNamed (some other) scope') ∧
        ∀ login scope',
          t.working.rolesOfLogin login scope' = s.working.rolesOfLogin login scope' := by
  have hsound := hs.sound.1
  refine ⟨⟨?_, ?_⟩, ?_⟩
  · rintro ⟨answer, t, hserve⟩
    obtain ⟨holder, hname, hrole, hproject, -⟩ :=
      (Session.run_grantToNamedGroup_eq_ok hsound).1 (Session.run_of_serve hserve)
    exact ⟨⟨holder, hname⟩, hrole, hproject⟩
  · rintro ⟨⟨holder, hname⟩, hrole, hproject⟩
    have hrun := (Session.run_grantToNamedGroup_eq_ok hsound).2
      ⟨holder, hname, hrole, hproject, rfl, rfl⟩
    exact ⟨_, _, Session.serve_of_ok hrun⟩
  · intro answer t hserve
    obtain ⟨holder, hname, -, -, rfl, rfl⟩ :=
      (Session.run_grantToNamedGroup_eq_ok hsound).1 (Session.run_of_serve hserve)
    have hgains := s.gains_insertGrant_mark ⟨holder, scope.projectId, role⟩ scope
    refine ⟨holder, hname, rfl, ?_, ?_, ?_⟩
    · intro other scope' hother hscope
      exact hgains.rolesOfGroupNamed_of_goesBy ((hsound.goesBy_iff hname).2 hother) hscope
    · intro other scope' hother
      exact hgains.rolesOfGroupNamed_eq (hother.imp_left (mt (hsound.goesBy_iff hname).1))
    · intro login scope'
      -- whatever the name is for, it is no user
      obtain ⟨found, -, rfl⟩ := hsound.findGroupOrAnyone_of_namedIn hname
      rw [Session.rolesOfLogin_mark]
      exact rolesOfLogin_insertGrant _ _ _ _ _ _

/-- A role is granted to Anyone by one spelling of the reserved word and read by another, on its
project and not globally. The group of the sample is granted a role by name as well, and Anyone does
not get it. -/
theorem sample_granted_by_name :
    (∃ t, Session.sample.serve (.grants
        (.grantToNamedGroup none (some "anyOne") (some "scan") (.project (some "p")))) =
          (.ok (.flag true), t) ∧
      t.working.rolesOfGroupNamed (some "ANYONE") (.project (some "p")) = ["scan"] ∧
      t.working.rolesOfGroupNamed (some "ANYONE") .global = []) ∧
    ∃ t, Session.sample.serve (.grants
        (.grantToNamedGroup (some "o") (some "devs") (some "scan") .global)) =
          (.ok (.flag true), t) ∧
      t.working.rolesOfGroupNamed (some "devs") .global = ["scan"] ∧
      t.working.rolesOfGroupNamed (some "anyone") .global = [] := by
  have hs : Session.sample.Reachable := ⟨sampleCalls, fun _ _ => trivial, rfl⟩
  have hanyone : SpellsAnyone "anyOne" := isAnyone_iff.1 (by decide)
  have hcapitals : SpellsAnyone "ANYONE" := isAnyone_iff.1 (by decide)
  have hdevs : ¬ SpellsAnyone "devs" := mt isAnyone_iff.2 (by decide)
  refine ⟨?_, ?_⟩
  · obtain ⟨t, hserve⟩ : ∃ t, Session.sample.serve (.grants
        (.grantToNamedGroup none (some "anyOne") (some "scan") (.project (some "p")))) =
          (.ok (.flag true), t) := ⟨_, rfl⟩
    obtain ⟨holder, -, -, hsame, hother, -⟩ :=
      (named_grant_read_back hs none "anyOne" "scan" (.project (some "p"))).2 _ t hserve
    refine ⟨t, hserve, ?_, ?_⟩
    · rw [hsame "ANYONE" _ (.inr ⟨hanyone, hcapitals⟩) rfl]
      decide +kernel
    · rw [hother "ANYONE" .global (.inr (by decide))]
      decide +kernel
  · obtain ⟨t, hserve⟩ : ∃ t, Session.sample.serve (.grants
        (.grantToNamedGroup (some "o") (some "devs") (some "scan") .global)) =
          (.ok (.flag true), t) := ⟨_, rfl⟩
    obtain ⟨holder, -, -, hsame, hother, -⟩ :=
      (named_grant_read_back hs (some "o") "devs" "scan" .global).2 _ t hserve
    have hanother : ¬ SameHolderName "devs" "anyone" := by
      rintro (hsame | ⟨hdevs', -⟩)
      · exact absurd hsame (by decide)
      · exact hdevs hdevs'
    refine ⟨t, hserve, ?_, ?_⟩
    · rw [hsame "devs" .global (.inl rfl) rfl]
      decide +kernel
    · rw [hother "anyone" .global (.inl hanother)]
      decide +kernel

end RoleGrants
