import RoleGrants.Proofs.AdviceAgreement

/-!
# When the groups of a user are looked up

The advice of a template looks at Anyone's entries first, then at those of the user, at the roles of
the creator and at the entries of groups, and it stops where the matter is settled. Only the last of
these needs the groups of the user, and looking them up may fail. `lazy_advice` says that the order
does not show in the answer, which is yes exactly when one of the four gives the role, and that the
lookup is made once where it decides, and not at all where it does not. So a lookup that fails ends
the advice just where it is made.

Who is looked up is noted by the lookup itself, so what is said of lookups is said of those that
were made. A role is given outright, or it is left to the groups of the user
(`Snapshot.LeavesToGroups`), or neither, and everything else is a case analysis along these three.
-/

open RoleGrants.Action

namespace RoleGrants

variable {ε : Type}

namespace Snapshot

/-- **A template gives a role outright**, whatever the groups of the user: by an entry of Anyone, or
to a user who is present by an entry of the user or as the creator. -/
inductive GivesOutright (t : Snapshot) (user role : Option String) : Prop where
  | anyone {e : Entry} (he : e ∈ t.groups) (hprincipal : e.principal = .anyone)
      (hrole : e.role = role) : GivesOutright t user role
  | user {e : Entry} (hpresent : user ≠ none) (he : e ∈ t.users)
      (hprincipal : e.principal = .user user) (hrole : e.role = role) : GivesOutright t user role
  | creator {r : String} (hpresent : user ≠ none) (hrole : role = some r)
      (hflag : (r, true) ∈ t.characteristics) : GivesOutright t user role

/-- A template gives a role to the members of a group. -/
def GivesMembersOf (t : Snapshot) (group role : Option String) : Prop :=
  ∃ e ∈ t.groups, e.principal = .group group ∧ e.role = role

/-- **A template leaves a role to the groups of the user:** it is not given outright to a user who
is present, and some group has it. -/
structure LeavesToGroups (t : Snapshot) (user role : Option String) : Prop where
  present : user ≠ none
  notOutright : ¬ t.GivesOutright user role
  group : ∃ g, t.GivesMembersOf g role

variable {t : Snapshot} {user role : Option String}

/-! ### What is given outright -/

theorem mem_groupIdsFor_iff {group : Option String} :
    group ∈ t.groupIdsFor role ↔ t.GivesMembersOf group role := by
  rw [mem_groupIdsFor, GivesMembersOf]
  simp only [and_comm]

/-- Without a user only Anyone's entries give a role. -/
theorem givesOutright_none_iff : t.GivesOutright none role ↔ t.hasAnyoneEntry role = true := by
  rw [hasAnyoneEntry_iff]
  constructor
  · intro h
    cases h with
    | anyone he hprincipal hrole => exact ⟨_, he, hprincipal, hrole⟩
    | user hpresent => exact absurd rfl hpresent
    | creator hpresent => exact absurd rfl hpresent
  · rintro ⟨e, he, hprincipal, hrole⟩
    exact .anyone he hprincipal hrole

theorem givesOutright_some_iff {u : String} :
    t.GivesOutright (some u) role ↔
      (t.hasAnyoneEntry role ||
        (t.hasUserEntry (some u) role || t.hasCreatorRole role)) = true := by
  rw [Bool.or_eq_true, Bool.or_eq_true, hasAnyoneEntry_iff, hasUserEntry_iff, hasCreatorRole_iff]
  constructor
  · intro h
    cases h with
    | anyone he hprincipal hrole => exact .inl ⟨_, he, hprincipal, hrole⟩
    | user _ he hprincipal hrole => exact .inr (.inl ⟨_, he, hprincipal, hrole⟩)
    | creator _ hrole hflag => exact .inr (.inr ⟨_, hrole, hflag⟩)
  · rintro (⟨e, he, hprincipal, hrole⟩ | ⟨e, he, hprincipal, hrole⟩ | ⟨r, hrole, hflag⟩)
    · exact .anyone he hprincipal hrole
    · exact .user nofun he hprincipal hrole
    · exact .creator nofun hrole hflag

/-! ### The advice -/

/-- **What advice is to be.** It is yes when the role is given outright or to a group of the user.
The groups are looked up once where the matter is left to them, and otherwise not at all; and it is
such a lookup whose failure ends the advice. -/
structure Advises (t : Snapshot) (groupsOf : String → Except ε (List String))
    (user role : Option String) (a : Advice ε) : Prop where
  granted : a.answer = .ok true ↔ t.GivesOutright user role ∨
    ∃ u own g, user = some u ∧ groupsOf u = .ok own ∧ g ∈ own ∧ t.GivesMembersOf (some g) role
  failed : ∀ e, a.answer = .error e ↔
    t.LeavesToGroups user role ∧ ∃ u, user = some u ∧ groupsOf u = .error e
  lookedUp : t.LeavesToGroups user role → ∃ u, user = some u ∧ a.lookups = [u]
  spared : ¬ t.LeavesToGroups user role → a.lookups = []

/-- What is answered without a lookup is as it is to be. -/
theorem advises_of_settled {groupsOf : String → Except ε (List String)} {b : Bool}
    (hb : b = true ↔ t.GivesOutright user role)
    (hsettled : t.GivesOutright user role ∨ user = none ∨ ∀ g, ¬ t.GivesMembersOf g role) :
    t.Advises groupsOf user role ⟨.ok b, []⟩ := by
  have hleft : ¬ t.LeavesToGroups user role := by
    rintro ⟨hpresent, hnot, g, hg⟩
    rcases hsettled with h | h | h
    · exact hnot h
    · exact hpresent h
    · exact h g hg
  refine ⟨?_, fun e => ⟨nofun, fun h => absurd h.1 hleft⟩, fun h => absurd h hleft, fun _ => rfl⟩
  constructor
  · intro h
    exact .inl (hb.1 (Except.ok.inj h))
  · rintro (h | ⟨u, own, g, rfl, -, -, hg⟩)
    · rw [hb.2 h]
    · -- a group has the role, so it is for being given outright that no group is asked
      rcases hsettled with h | h | h
      · rw [hb.2 h]
      · cases h
      · exact absurd hg (h (some g))

/-- What the groups of the user decide is as it is to be. -/
theorem advises_of_left {groupsOf : String → Except ε (List String)} {u : String}
    (h : t.LeavesToGroups (some u) role) :
    t.Advises groupsOf (some u) role
      ⟨(groupsOf u).map fun own => (t.groupIdsFor role).any fun g => g.any own.contains, [u]⟩ := by
  refine ⟨?_, ?_, fun _ => ⟨u, rfl, rfl⟩, fun hnot => absurd h hnot⟩
  · -- nothing is given outright, so the groups that are looked up decide alone
    rw [or_iff_right h.notOutright]
    cases hown : groupsOf u with
    | ok own =>
      have hany : (((t.groupIdsFor role).any fun g => g.any own.contains) = true) ↔
          ∃ g ∈ own, t.GivesMembersOf (some g) role := by
        rw [any_groupIdsFor_iff]
        constructor
        · rintro ⟨e, he, hrole, g, hg, hprincipal⟩
          exact ⟨g, hg, e, he, hprincipal, hrole⟩
        · rintro ⟨g, hg, e, he, hprincipal, hrole⟩
          exact ⟨e, he, hrole, g, hg, hprincipal⟩
      simp [Except.map, hany, hown]
    | error e => simp [Except.map, hown]
  · intro e
    rw [and_iff_right h]
    cases hown : groupsOf u <;> simp [Except.map, hown]

/-- **The advice is what it is to be.** -/
theorem advises_advise (t : Snapshot) (groupsOf : String → Except ε (List String))
    (user role : Option String) : t.Advises groupsOf user role (t.advise groupsOf user role) := by
  cases user with
  | none =>
    rw [advise_none]
    exact advises_of_settled givesOutright_none_iff.symm (.inr (.inl rfl))
  | some u =>
    rw [advise_some]
    split
    · next h =>
      have houtright : t.GivesOutright (some u) role := givesOutright_some_iff.2 h
      exact advises_of_settled (iff_of_true rfl houtright) (.inl houtright)
    · next h =>
      have hnot : ¬ t.GivesOutright (some u) role := mt givesOutright_some_iff.1 h
      -- the groups are looked at only now
      split
      · next hgroups =>
        refine advises_of_settled (iff_of_false nofun hnot) (.inr (.inr fun g hg => ?_))
        rw [← mem_groupIdsFor_iff, hgroups] at hg
        cases hg
      · next hgroups =>
        obtain ⟨g, hg⟩ := List.exists_mem_of_ne_nil _ hgroups
        exact advises_of_left ⟨nofun, hnot, g, mem_groupIdsFor_iff.1 hg⟩

end Snapshot

/-! ### The advice of a session -/

/-- The groups of a user as they are stored, or the outage that keeps them from being looked up. -/
def Store.groupsUnder (s : Store) (outage : Option StoreError) (user : String) :
    Except StoreError (List String) :=
  outage.elim (.ok (s.groupsOf (some user))) .error

/-- A session gives the advice of its default template, or ends with the failure of the lookup. -/
theorem Session.serve_check {s : Session} {selector : String} {t : Snapshot}
    (h : s.working.defaultSnapshot? selector = some t) (outage : Option StoreError)
    (user role key qualifier : Option String) :
    (s.serve (.check selector outage user role key qualifier)).1 =
      match t.advise (s.working.groupsUnder outage) user role with
      | ⟨.ok granted, lookups⟩ => .ok (.advice granted lookups)
      | ⟨.error e, _⟩ => .error (.store e) := by
  -- finding the default template writes to the log only
  obtain ⟨log, hresolve⟩ := resolveDefault_run selector s
  rw [h] at hresolve
  have hrun : (Call.check selector outage user role key qualifier).run s =
      adviceAnswer (t.advise (s.working.groupsUnder outage) user role) { s with log } := by
    unfold Call.run simulate
    simp only [bind_run, hresolve, reading_run]
    rfl
  unfold serve
  rw [hrun]
  rcases t.advise (s.working.groupsUnder outage) user role with ⟨_ | _, _⟩ <;> rfl

/-- **Groups are looked up where they decide.** For every snapshot, every user or none, every role
and every way to look groups up, the advice is yes exactly when Anyone's entries, those of the user,
the roles of the creator or the entries of the groups of the user give the role. The lookup is made
once when the first three do not and some group has the role, and otherwise not at all; its failure
ends the advice exactly then. What a session answers by its default template is of this kind,
whatever the key and the qualifier of the project, with the groups that are stored, or with an
outage in place of them. -/
theorem lazy_advice (t : Snapshot) (groupsOf : String → Except ε (List String))
    (user role : Option String) :
    t.Advises groupsOf user role (t.advise groupsOf user role) ∧
    ∀ (s : Session) (selector : String) (outage : Option StoreError)
      (key qualifier : Option String),
      s.working.defaultSnapshot? selector = some t →
        ∃ answer lookups,
          t.Advises (s.working.groupsUnder outage) user role ⟨answer, lookups⟩ ∧
          (s.serve (.check selector outage user role key qualifier)).1 = match answer with
            | .ok granted => .ok (.advice granted lookups)
            | .error e => .error (.store e) := by
  refine ⟨t.advises_advise groupsOf user role, fun s selector outage key qualifier h => ?_⟩
  have hadvises := t.advises_advise (s.working.groupsUnder outage) user role
  rw [Session.serve_check h]
  rcases hadvice : t.advise (s.working.groupsUnder outage) user role with ⟨answer, lookups⟩
  rw [hadvice] at hadvises
  exact ⟨answer, lookups, hadvises, by cases answer <;> rfl⟩

/-- While no groups can be looked up, the template of the sample still gives a role of Anyone, and
the role of a group is not known. -/
theorem sample_outage :
    (sampleSnapshot.advise (fun _ => .error "down") (some "u") (some "browse")).answer = .ok true ∧
      (sampleSnapshot.advise (fun _ => .error "down") (some "u") (some "scan")).answer =
        .error "down" := by
  have hanyone : ⟨.anyone, none, some "browse"⟩ ∈ sampleSnapshot.groups := by decide +kernel
  have hgroup : ⟨.group (some "g"), none, some "scan"⟩ ∈ sampleSnapshot.groups := by decide +kernel
  have hleft : sampleSnapshot.LeavesToGroups (some "u") (some "scan") := by
    refine ⟨nofun, ?_, some "g", _, hgroup, rfl, rfl⟩
    rw [Snapshot.givesOutright_some_iff]
    decide +kernel
  obtain ⟨hbrowse, -⟩ :=
    lazy_advice sampleSnapshot (fun _ => .error "down") (some "u") (some "browse")
  obtain ⟨hscan, -⟩ :=
    lazy_advice sampleSnapshot (fun _ => .error "down") (some "u") (some "scan")
  exact ⟨hbrowse.granted.2 (.inl (.anyone hanyone rfl rfl)),
    (hscan.failed _).2 ⟨hleft, "u", rfl, rfl⟩⟩

end RoleGrants
