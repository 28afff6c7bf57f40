import RoleGrants.Proofs.GlobalHolders
import RoleGrants.Proofs.NamedRoles

/-!
# Memberships read in a batch

The groups of one user are read off the memberships as ids. For many users at once they are read by
login and as names, through a join of three tables, and the members of a group are counted without
looking at a user. `batch_reads_agree` says that the three tell the same memberships.

A join yields a row for each way to complete a membership, so it could drop one or multiply it. It
does neither, because the rows are sound: a login is that of one user, and every membership refers
to one stored group (`Store.Sound.joinedGroups_map_id`). Its rows are put in order and entered under
their logins one by one, which comes to reading login by login (`Store.groupNamesByLogin_eq`). The
names are then those of the groups of the user, each as often as there are such groups. And counting
memberships is counting users because nobody is twice in a group and nobody is in it who is not
stored (`Store.Sound.countMembers_eq`).
-/

namespace RoleGrants

/-! ### The order of first appearance -/

/-- Distinct values stand in the order in which the list first has them. -/
theorem pairwise_idxOf_distinct {α : Type} [DecidableEq α] [BEq α] [LawfulBEq α] (xs : List α) :
    (distinct xs).Pairwise fun a b => xs.idxOf a < xs.idxOf b := by
  induction xs with
  | nil => exact .nil
  | cons x xs ih =>
    -- the first value comes before all others, and these are one place further back
    have hrest : ((distinct xs).filter (· ≠ x)).Pairwise fun a b =>
        (x :: xs).idxOf a < (x :: xs).idxOf b := by
      refine (ih.filter _).imp_of_mem fun {a b} ha hb hab => ?_
      have hax : a ≠ x := by simpa using (List.mem_filter.1 ha).2
      have hbx : b ≠ x := by simpa using (List.mem_filter.1 hb).2
      rw [List.idxOf_cons_ne xs hax.symm, List.idxOf_cons_ne xs hbx.symm]
      exact Nat.succ_lt_succ hab
    refine List.pairwise_cons.2 ⟨fun b hb => ?_, hrest⟩
    have hbx : b ≠ x := by simpa using (List.mem_filter.1 hb).2
    rw [List.idxOf_cons_self, List.idxOf_cons_ne xs hbx.symm]
    exact Nat.succ_pos _

/-! ### Lists of lists -/

/-- Leaving out what contributes nothing changes nothing. -/
theorem flatMap_filter_of_nil {α β : Type} {p : α → Bool} {f : α → List β} {xs : List α}
    (h : ∀ x ∈ xs, p x = false → f x = []) : (xs.filter p).flatMap f = xs.flatMap f := by
  induction xs with
  | nil => rfl
  | cons x xs ih =>
    have hrest := ih fun y hy => h y (List.mem_cons_of_mem _ hy)
    cases hx : p x with
    | true => rw [List.filter_cons_of_pos hx, List.flatMap_cons, List.flatMap_cons, hrest]
    | false =>
      rw [List.filter_cons_of_neg (by simp [hx]), List.flatMap_cons, hrest,
        h x List.mem_cons_self hx, List.nil_append]

/-! ### Memberships -/

theorem Membership.eq_of_columns {a b : Membership} (huser : a.user = b.user)
    (hgroup : a.group = b.group) : a = b := by
  obtain ⟨_, _⟩ := a
  obtain ⟨_, _⟩ := b
  cases huser
  cases hgroup
  rfl

namespace Store

/-- The groups that a user's memberships are joined with. -/
def joinedGroups (s : Store) (user : String) : List Group :=
  (s.memberships.filter (·.user == user)).flatMap fun m => s.groups.filter (·.id == m.group)

/-- The names of the groups of the user with a login, in order, one for each group. -/
def groupNamesOf (s : Store) (login : Option String) : List String :=
  sortTexts <| (s.users.filter (some ·.login == login)).flatMap fun u =>
    (s.joinedGroups u.id).map (·.name)

theorem mem_of_mem_joinedGroups {s : Store} {user : String} {g : Group}
    (h : g ∈ s.joinedGroups user) : g ∈ s.groups := by
  obtain ⟨m, -, hg⟩ := List.mem_flatMap.1 h
  exact (List.mem_filter.1 hg).1

namespace Sound

variable {s : Store} (h : s.Sound)
include h

/-- The groups of a user are those of the memberships, each of which is there once. -/
theorem groupsOf_eq (user : String) :
    s.groupsOf (some user) = (s.memberships.filter (·.user == user)).map (·.group) := by
  refine distinct_of_nodup (List.Nodup.map_on (fun a ha b hb => ?_) (h.memberships.filter _))
  have ha : a.user = user := by simpa using (List.mem_filter.1 ha).2
  have hb : b.user = user := by simpa using (List.mem_filter.1 hb).2
  exact Membership.eq_of_columns (ha.trans hb.symm)

/-- **The join finds the group of every membership,** and no other. -/
theorem joinedGroups_map_id (user : String) :
    (s.joinedGroups user).map (·.id) = s.groupsOf (some user) := by
  rw [h.groupsOf_eq, joinedGroups, List.map_flatMap, List.map_eq_flatMap]
  refine List.flatMap_congr fun m hm => ?_
  obtain ⟨g, hg, hid⟩ := h.membership_group m (List.mem_filter.1 hm).1 m.group rfl
  have hfilter : s.groups.filter (·.id == m.group) = [g] := by
    refine h.groups.filter_eq hg (by simpa using hid) fun a b ha hb => Group.clash_of_id ?_
    have ha : a.id = m.group := by simpa using ha
    have hb : b.id = m.group := by simpa using hb
    rw [ha, hb]
  exact (congrArg (List.map (·.id)) hfilter).trans (congrArg List.singleton hid)

/-- The login of a stored user is that of no other, and the names are those of the groups of this
one. -/
theorem groupNamesOf_eq {u : User} (hu : u ∈ s.users) :
    s.groupNamesOf (some u.login) = sortTexts ((s.joinedGroups u.id).map (·.name)) := by
  have hfilter : s.users.filter (some ·.login == some u.login) = [u] := by
    refine h.users.filter_eq hu (by simp) fun a b ha hb => User.clash_of_login ?_
    have ha : a.login = u.login := by simpa using ha
    have hb : b.login = u.login := by simpa using hb
    rw [ha, hb]
  rw [groupNamesOf, hfilter, List.flatMap_singleton]

/-- The users in the memberships of a group, each once. -/
theorem nodup_members (group : String) :
    ((s.memberships.filter (some ·.group == some group)).map (·.user)).Nodup := by
  refine List.Nodup.map_on (fun a ha b hb huser => ?_) (h.memberships.filter _)
  have ha : a.group = group := by simpa using (List.mem_filter.1 ha).2
  have hb : b.group = group := by simpa using (List.mem_filter.1 hb).2
  exact Membership.eq_of_columns huser (ha.trans hb.symm)

/-- **Members are counted by counting users.** -/
theorem countMembers_eq (group : String) :
    s.countMembers (some group) =
      {u | u ∈ s.users ∧ group ∈ s.groupsOf (some u.id)}.ncard := by
  let members := (s.memberships.filter (some ·.group == some group)).map (·.user)
  -- every member is stored, so the ids of the users that are meant are those of the members
  have himage : User.id '' {u | u ∈ s.users ∧ group ∈ s.groupsOf (some u.id)} =
      {i | i ∈ members} := by
    ext i
    constructor
    · rintro ⟨u, ⟨-, hg⟩, rfl⟩
      obtain ⟨_, hid, hm⟩ := mem_groupsOf.1 hg
      cases hid
      exact List.mem_map.2 ⟨_, List.mem_filter.2 ⟨hm, beq_self_eq_true _⟩, rfl⟩
    · intro hi
      obtain ⟨⟨v, g⟩, hpicked, rfl⟩ := List.mem_map.1 hi
      obtain ⟨hm, hgroup⟩ := List.mem_filter.1 hpicked
      obtain ⟨u, hu, hid⟩ := h.membership_user _ hm v rfl
      have hgroup : g = group := by simpa using hgroup
      subst hgroup hid
      exact ⟨u, ⟨hu, mem_groupsOf.2 ⟨_, rfl, hm⟩⟩, rfl⟩
  have hinj : Set.InjOn User.id {u | u ∈ s.users ∧ group ∈ s.groupsOf (some u.id)} :=
    fun a ha b hb hid => h.users.eq_of_clash ha.1 hb.1 (User.clash_of_id hid)
  calc s.countMembers (some group) = members.length := by
        rw [countMembers, List.countP_eq_length_filter, List.length_map]
    _ = {i | i ∈ members}.ncard := by
        rw [← length_distinct, distinct_of_nodup (h.nodup_members group)]
    _ = _ := by rw [← himage, hinj.ncard_image]

end Sound

/-! ### Reading by logins -/

theorem loginThenName_iff {a b : String × String} :
    loginThenName a b = true ↔ a.1 < b.1 ∨ a.1 = b.1 ∧ a.2 ≤ b.2 := by
  simp [loginThenName]

/-- Rows that are put in order are in order: it is transitive, and any two rows can be ordered. -/
theorem pairwise_mergeSort_loginThenName (rows : List (String × String)) :
    (rows.mergeSort loginThenName).Pairwise fun a b => loginThenName a b = true := by
  refine List.pairwise_mergeSort (fun a b c hab hbc => ?_) (fun a b => ?_) rows
  · rw [loginThenName_iff] at hab hbc ⊢
    rcases hab with hab | ⟨hab, hnames⟩ <;> rcases hbc with hbc | ⟨hbc, hnames'⟩
    · exact .inl (String.lt_trans hab hbc)
    · exact .inl (hbc ▸ hab)
    · exact .inl (hab ▸ hbc)
    · exact .inr ⟨hab.trans hbc, String.le_trans hnames hnames'⟩
  · rw [Bool.or_eq_true, loginThenName_iff, loginThenName_iff]
    by_cases hlogins : a.1 = b.1
    · rcases String.le_total a.2 b.2 with hnames | hnames
      · exact .inl (.inr ⟨hlogins, hnames⟩)
      · exact .inr (.inr ⟨hlogins.symm, hnames⟩)
    · by_cases hlt : a.1 < b.1
      · exact .inl (.inl hlt)
      · have hle : b.1 ≤ a.1 := String.not_lt.1 hlt
        have hback : b.1 < a.1 := String.not_le.1 fun h => hlogins (String.le_antisymm h hle)
        exact .inr (.inl hback)

/-- Entering rows puts the names of each login behind those it has, in the order of the rows. -/
theorem foldl_enterName (rows : List (String × String)) (logins : List (Option String))
    (held : Option String → List String) :
    rows.foldl enterName (logins.map fun login => (login, held login)) =
      logins.map fun login =>
        (login, held login ++ (rows.filter (some ·.1 == login)).map (·.2)) := by
  induction rows generalizing held with
  | nil => simp
  | cons row rows ih =>
    have hentered : enterName (logins.map fun login => (login, held login)) row =
        logins.map fun login =>
          (login, if login == some row.1 then held login ++ [row.2] else held login) := by
      rw [enterName, List.map_map]
      refine List.map_congr_left fun login _ => ?_
      by_cases h : login = some row.1 <;> simp [h]
    rw [List.foldl_cons, hentered, ih]
    refine List.map_congr_left fun login _ => ?_
    by_cases h : some row.1 = login
    · subst h
      simp
    · simp [h, Ne.symm h]

/-- Of a login that is asked for, the join has the names of the groups of the users with it. -/
theorem map_filter_joinedNames {s : Store} {logins : List (Option String)} {login : Option String}
    (h : login ∈ logins) :
    ((s.joinedNames logins).filter (some ·.1 == login)).map (·.2) =
      (s.users.filter (some ·.login == login)).flatMap fun u =>
        (s.joinedGroups u.id).map (·.name) := by
  -- what a user has in the join is under the login of this user
  let under (u : User) : List String :=
    if some u.login = login then (s.joinedGroups u.id).map (·.name) else []
  have hunder : ∀ u : User, (((s.joinedGroups u.id).map fun g => (u.login, g.name)).filter
      (some ·.1 == login)).map (·.2) = under u := by
    intro u
    by_cases hu : some u.login = login <;> simp [under, hu, List.filter_map, Function.comp_def]
  calc ((s.joinedNames logins).filter (some ·.1 == login)).map (·.2)
      = (s.users.filter fun u => logins.contains (some u.login)).flatMap under := by
        have hrows : s.joinedNames logins =
            (s.users.filter fun u => logins.contains (some u.login)).flatMap fun u =>
              (s.joinedGroups u.id).map fun g => (u.login, g.name) := by
          simp only [joinedNames, joinedGroups, List.map_flatMap]
        rw [hrows, List.filter_flatMap, List.map_flatMap]
        exact List.flatMap_congr fun u _ => hunder u
    _ = s.users.flatMap under := by
        refine flatMap_filter_of_nil fun u _ hu => if_neg ?_
        rintro rfl
        simp [h] at hu
    _ = (s.users.filter (some ·.login == login)).flatMap under := by
        refine (flatMap_filter_of_nil fun u _ hu => if_neg ?_).symm
        simpa using hu
    _ = _ := by
        refine List.flatMap_congr fun u hu => if_pos ?_
        simpa using (List.mem_filter.1 hu).2

/-- **The join in order lists the names of each login in order.** -/
theorem map_filter_mergeSort {s : Store} {logins : List (Option String)} {login : Option String}
    (h : login ∈ logins) :
    (((s.joinedNames logins).mergeSort loginThenName).filter (some ·.1 == login)).map (·.2) =
      s.groupNamesOf login := by
  have hsorted := pairwise_mergeSort_loginThenName (s.joinedNames logins)
  have hnames : ((((s.joinedNames logins).mergeSort loginThenName).filter
      (some ·.1 == login)).map (·.2)).Pairwise (· ≤ ·) := by
    refine List.pairwise_map.2 ((hsorted.filter _).imp_of_mem fun {a b} ha hb hab => ?_)
    have ha : some a.1 = login := by simpa using (List.mem_filter.1 ha).2
    have hb : some b.1 = login := by simpa using (List.mem_filter.1 hb).2
    have heq : a.1 = b.1 := Option.some.inj (ha.trans hb.symm)
    rcases loginThenName_iff.1 hab with hlt | ⟨-, hle⟩
    · exact absurd (heq ▸ hlt) (String.lt_irrefl _)
    · exact hle
  have hperm : ((((s.joinedNames logins).mergeSort loginThenName).filter
      (some ·.1 == login)).map (·.2)).Perm (s.groupNamesOf login) := by
    refine (((List.mergeSort_perm _ _).filter _).map _).trans ?_
    rw [map_filter_joinedNames h]
    exact (List.mergeSort_perm _ _).symm
  exact hperm.eq_of_pairwise (fun _ _ _ _ hab hba => String.le_antisymm hab hba) hnames
    (pairwise_sortTexts _)

/-- **The names are read login by login.** -/
theorem groupNamesByLogin_eq (s : Store) (logins : List (Option String)) :
    s.groupNamesByLogin logins =
      (distinct logins).map fun login => (login, s.groupNamesOf login) := by
  rw [groupNamesByLogin, foldl_enterName]
  refine List.map_congr_left fun login hlogin => ?_
  rw [List.nil_append, map_filter_mergeSort (mem_distinct.1 hlogin)]

theorem groupNamesOf_of_unknown {s : Store} {login : Option String}
    (h : ∀ u ∈ s.users, login ≠ some u.login) : s.groupNamesOf login = [] := by
  have hnone : s.users.filter (some ·.login == login) = [] :=
    List.filter_eq_nil_iff.2 fun u hu hlogin => h u hu (beq_iff_eq.1 hlogin).symm
  rw [groupNamesOf, hnone, List.flatMap_nil, sortTexts, List.mergeSort_nil]

theorem map_fst_groupNamesByLogin (s : Store) (logins : List (Option String)) :
    (s.groupNamesByLogin logins).map (·.1) = distinct logins := by
  rw [groupNamesByLogin_eq, List.map_map]
  exact List.map_id _

theorem mem_groupNamesByLogin {s : Store} {logins : List (Option String)} {login : Option String}
    {names : List String} (h : (login, names) ∈ s.groupNamesByLogin logins) :
    names = s.groupNamesOf login := by
  rw [groupNamesByLogin_eq] at h
  obtain ⟨l, -, hl⟩ := List.mem_map.1 h
  cases hl
  rfl

/-- **What reading by logins is to list**, where `own` are the groups of each user. There is one
entry for each login, in the order of their first appearance. That of a stored user has the names of
the groups of the user in order, each as often as there are such groups, and every other one is
empty. -/
structure ListsByLogin (s : Store) (own : String → List String) (logins : List (Option String))
    (entries : List (Option String × List String)) : Prop where
  keys : ∀ login, login ∈ entries.map (·.1) ↔ login ∈ logins
  order : (entries.map (·.1)).Pairwise fun a b => logins.idxOf a < logins.idxOf b
  names : ∀ u ∈ s.users, ∀ names, (some u.login, names) ∈ entries →
    names.Pairwise (· ≤ ·) ∧ ∃ groups : List Group, (∀ g ∈ groups, g ∈ s.groups) ∧
      (groups.map (·.id)).Perm (own u.id) ∧ names.Perm (groups.map (·.name))
  others : ∀ login, (∀ u ∈ s.users, login ≠ some u.login) →
    ∀ names, (login, names) ∈ entries → names = []

theorem Sound.listsByLogin {s : Store} (h : s.Sound) (logins : List (Option String)) :
    s.ListsByLogin (fun u => sortTexts (s.groupsOf (some u))) logins
      (s.groupNamesByLogin logins) where
  keys := by
    intro login
    rw [map_fst_groupNamesByLogin, mem_distinct]
  order := by
    rw [map_fst_groupNamesByLogin]
    exact pairwise_idxOf_distinct logins
  names := by
    intro u hu names hnames
    rw [mem_groupNamesByLogin hnames, h.groupNamesOf_eq hu]
    refine ⟨pairwise_sortTexts _, s.joinedGroups u.id, fun g => mem_of_mem_joinedGroups, ?_, ?_⟩
    · rw [h.joinedGroups_map_id]
      exact (List.mergeSort_perm _ _).symm
    · exact List.mergeSort_perm _ _
  others := by
    intro login hunknown names hnames
    rw [mem_groupNamesByLogin hnames, groupNamesOf_of_unknown hunknown]

end Store

/-- **Batch reads agree with single ones.** In a reachable session, let `own` be the answers to the
question for the groups of one user. For every list of logins, repeated, unknown and missing ones
included, the group names are those of the groups in `own`, in order and login by login; and for
every group the members that are counted are the stored users with the group in `own`. Asking leaves
the session as it is. -/
theorem batch_reads_agree {s : Session} (hs : s.Reachable) :
    ∃ own : String → List String,
      (∀ u, s.serve (.ask (.groupsOf (some u))) = (.ok (.texts (own u)), s) ∧ (own u).Nodup) ∧
      (∀ logins, ∃ entries,
        s.serve (.ask (.groupNamesByLogin logins)) = (.ok (.groupNames entries), s) ∧
          s.working.ListsByLogin own logins entries) ∧
      ∀ g, ∃ n, s.serve (.ask (.countMembers (some g))) = (.ok (.count n), s) ∧
        n = {u | u ∈ s.working.users ∧ g ∈ own u.id}.ncard := by
  have hsound : s.working.Sound := hs.sound.1
  refine ⟨fun u => sortTexts (s.working.groupsOf (some u)), ?_, ?_, ?_⟩
  · intro u
    exact ⟨s.serve_ask _, (List.mergeSort_perm _ _).nodup_iff.2 (nodup_distinct _)⟩
  · intro logins
    exact ⟨_, s.serve_ask _, hsound.listsByLogin logins⟩
  · intro g
    refine ⟨_, s.serve_ask _, ?_⟩
    -- the order in which the groups are listed does not count
    simp only [sortTexts, List.mem_mergeSort]
    exact hsound.countMembers_eq g

/-- A user of two groups that have one name in two organizations: the name is listed twice. Nothing
is listed for a missing login. -/
theorem sample_namesakes_listed :
    ∃ s : Session, s.Reachable ∧ ∃ entries,
      s.serve (.ask (.groupNamesByLogin [some "gone", some "ann", none, some "ann"])) =
          (.ok (.groupNames entries), s) ∧
        (some "ann", ["devs", "devs"]) ∈ entries ∧ (none, []) ∈ entries := by
  let s : Session := .serveAll {} (sampleCalls ++ [
    .change (.addOrganization "o2" (some "two") (some "Two")),
    .change (.addGroup "h" (some "o2") (some "devs")),
    .change (.addMember (some "u") (some "h"))])
  have hs : s.Reachable := ⟨_, fun _ _ => trivial, rfl⟩
  have huser : ⟨"u", "ann", true⟩ ∈ s.working.users := by decide +kernel
  have hdevs : ∀ g ∈ s.working.groups, g.name = "devs" := by decide +kernel
  have htwo : (s.working.groupsOf (some "u")).length = 2 := by decide +kernel
  obtain ⟨own, hown, hlists, -⟩ := batch_reads_agree hs
  obtain ⟨entries, hserve, hentries⟩ := hlists [some "gone", some "ann", none, some "ann"]
  refine ⟨s, hs, entries, hserve, ?_, ?_⟩
  · obtain ⟨⟨_, names⟩, hmem, rfl⟩ := List.mem_map.1 ((hentries.keys (some "ann")).2 (by decide))
    obtain ⟨-, groups, hstored, hids, hnames⟩ := hentries.names _ huser names hmem
    have hlength : names.length = 2 := by
      have hread : sortTexts (s.working.groupsOf (some "u")) = own "u" :=
        Answer.texts.inj (Except.ok.inj (congrArg Prod.fst (hown "u").1))
      calc names.length = groups.length := by rw [hnames.length_eq, List.length_map]
        _ = (own "u").length := by rw [← hids.length_eq, List.length_map]
        _ = 2 := by rw [← hread, sortTexts, List.length_mergeSort, htwo]
    have hall : ∀ name ∈ names, name = "devs" := by
      intro name hname
      obtain ⟨g, hg, rfl⟩ := List.mem_map.1 (hnames.mem_iff.1 hname)
      exact hdevs g (hstored g hg)
    have hboth : names = ["devs", "devs"] := List.eq_replicate_iff.2 ⟨hlength, hall⟩
    rwa [hboth] at hmem
  · obtain ⟨⟨_, names⟩, hmem, rfl⟩ := List.mem_map.1 ((hentries.keys none).2 (by decide))
    rwa [hentries.others none (fun _ _ => (Option.some_ne_none _).symm) names hmem] at hmem

end RoleGrants
