import Mathlib.Data.Set.Card
import RoleGrants.Proofs.Deletion
import RoleGrants.Proofs.GrantSet

/-!
# Who holds a role globally

How many users hold a role globally is counted with one group left out, to see beforehand whether
anybody would be left without it. `removal_preview` says that what is counted is what comes of it,
whether the grants of the group are revoked or the group itself is deleted.

The two removals have little in common. One takes grants away and leaves everybody a member, the
other takes the members along, and without a group the first one is about Anyone's grants. What
matters of both is said by `Store.Loses`: the triples of the group are gone and no others, and the
members of all other groups are as they were. The sets that are counted (`Store.ownHolders`,
`Store.memberHolders`) need no more.

The count is of ids in the rows, each once (`Store.countHolders_eq`). Who holds the role both ways
is counted twice, but nobody is overlooked: what is counted is empty exactly when nobody holds the
role (`Store.countHolders_eq_zero_iff`).
-/

open RoleGrants.Action

namespace RoleGrants

/-! ### Counting distinct values -/

section Distinct

variable {α : Type} [DecidableEq α]

theorem finite_setOf_mem (xs : List α) : {x | x ∈ xs}.Finite := by
  rw [← List.coe_toFinset]
  exact xs.toFinset.finite_toSet

/-- A set that a list runs through has as many members as the list has distinct values. -/
theorem length_distinct (xs : List α) : (distinct xs).length = {x | x ∈ xs}.ncard := by
  have hsame : {x | x ∈ xs} = ((distinct xs).toFinset : Set α) := by
    ext x
    simp [mem_distinct]
  rw [hsame, Set.ncard_coe_finset, List.toFinset_card_of_nodup (nodup_distinct xs)]

end Distinct

namespace Store

/-! ### Holders -/

/-- The users who hold a role globally by a grant of their own. -/
def ownHolders (s : Store) (role : Option String) : Set String :=
  {u | ∃ r, role = some r ∧ ⟨.user u, none, r⟩ ∈ s.grants}

/-- The users who belong to a group that holds a role globally, where one group is left out. -/
def memberHolders (s : Store) (role leftOut : Option String) : Set String :=
  {u | ∃ g r, role = some r ∧ some g ≠ leftOut ∧ ⟨.group g, none, r⟩ ∈ s.grants ∧
    ⟨u, g⟩ ∈ s.memberships}

/-- **A user holds a role globally**, directly or as a member of a group. What Anyone holds does not
count. -/
def HoldsGlobally (s : Store) (role : Option String) (user : String) : Prop :=
  ∃ g ∈ s.grants, g.project = none ∧ some g.role = role ∧ g.holder ≠ .anyone ∧
    g.holder.StandsFor s (some user)

variable {s t : Store} {role leftOut group : Option String} {u : String}

theorem holdsGlobally_iff :
    s.HoldsGlobally role u ↔ u ∈ s.ownHolders role ∨ u ∈ s.memberHolders role none := by
  constructor
  · rintro ⟨⟨holder, _, r⟩, hg, rfl, rfl, hholder, hstands⟩
    cases holder with
    | user id =>
      cases hstands
      exact .inl ⟨r, rfl, hg⟩
    | group id =>
      obtain ⟨v, hv, hmember⟩ := mem_groupsOf.1 hstands
      cases hv
      exact .inr ⟨id, r, rfl, nofun, hg, hmember⟩
    | anyone => exact absurd rfl hholder
  · rintro (⟨r, rfl, hg⟩ | ⟨id, r, rfl, -, hg, hmember⟩)
    · exact ⟨_, hg, rfl, rfl, nofun, rfl⟩
    · exact ⟨_, hg, rfl, rfl, nofun, mem_groupsOf.2 ⟨u, rfl, hmember⟩⟩

/-! ### What is counted -/

theorem mem_grants_user {user role : String} {project : Option String} :
    ⟨.user user, project, role⟩ ∈ s.grants ↔
      ∃ r ∈ s.userGrants, r.user = user ∧ r.project = project ∧ r.role = role := by
  rw [← hasUserGrant_iff]
  simp [hasUserGrant, and_assoc]

theorem mem_grants_ofGroup {project : Option String} {role : String} :
    ⟨.ofGroup group, project, role⟩ ∈ s.grants ↔
      ∃ r ∈ s.groupGrants, r.group = group ∧ r.project = project ∧ r.role = role := by
  rw [← hasGroupGrant_iff]
  simp [hasGroupGrant, and_assoc]

/-- A grant of Anyone counts no member, whether or not a group is left out. -/
theorem countsGlobally_iff {g : GroupGrant} :
    countsGlobally role leftOut g = true ↔
      ∃ id, g.group = some id ∧ some id ≠ leftOut ∧ g.project = none ∧ some g.role = role := by
  cases hgroup : g.group <;> cases leftOut <;>
    simp [countsGlobally, hgroup, and_comm]

/-- The users of the rows that are counted for themselves. -/
theorem ownHolders_eq (s : Store) (role : Option String) :
    s.ownHolders role = {u | u ∈ (s.userGrants.filter fun g =>
      some g.role == role && g.project.isNone).map (·.user)} := by
  ext u
  change (∃ r, role = some r ∧ _) ↔ u ∈ List.map _ _
  simp only [mem_grants_user, List.mem_map, List.mem_filter, Bool.and_eq_true, beq_iff_eq,
    Option.isNone_iff_eq_none]
  constructor
  · rintro ⟨r, rfl, row, hrow, huser, hproject, rfl⟩
    exact ⟨row, ⟨hrow, rfl, hproject⟩, huser⟩
  · rintro ⟨row, ⟨hrow, rfl, hproject⟩, huser⟩
    exact ⟨row.role, rfl, row, hrow, huser, hproject, rfl⟩

/-- The users of the memberships that are counted. -/
theorem memberHolders_eq (s : Store) (role leftOut : Option String) :
    s.memberHolders role leftOut = {u | u ∈ (s.memberships.filter fun m =>
      (s.groupGrants.filter (countsGlobally role leftOut)).any (·.group == some m.group)).map
        (·.user)} := by
  ext u
  change (∃ g r, role = some r ∧ some g ≠ leftOut ∧ ⟨.ofGroup (some g), none, r⟩ ∈ s.grants ∧ _) ↔
    u ∈ List.map _ _
  simp only [mem_grants_ofGroup, List.mem_map, List.mem_filter, List.any_eq_true, beq_iff_eq,
    countsGlobally_iff]
  constructor
  · rintro ⟨g, r, rfl, hleft, ⟨row, hrow, hgroup, hproject, rfl⟩, hmember⟩
    exact ⟨_, ⟨hmember, row, ⟨hrow, g, hgroup, hleft, hproject, rfl⟩, hgroup⟩, rfl⟩
  · rintro ⟨m, ⟨hmember, row, ⟨hrow, g, hgroup, hleft, hproject, rfl⟩, hmgroup⟩, rfl⟩
    obtain rfl : g = m.group := Option.some.inj (hgroup.symm.trans hmgroup)
    exact ⟨m.group, row.role, rfl, hleft, ⟨row, hrow, hgroup, hproject, rfl⟩, hmember⟩

theorem finite_ownHolders (s : Store) (role : Option String) : (s.ownHolders role).Finite := by
  rw [ownHolders_eq]
  exact finite_setOf_mem _

theorem finite_memberHolders (s : Store) (role leftOut : Option String) :
    (s.memberHolders role leftOut).Finite := by
  rw [memberHolders_eq]
  exact finite_setOf_mem _

/-- **What is counted** are the users who hold the role by a grant of their own, and the users who
do as members. -/
theorem countHolders_eq (s : Store) (role leftOut : Option String) :
    s.countHolders role leftOut =
      (s.ownHolders role).ncard + (s.memberHolders role leftOut).ncard := by
  rw [ownHolders_eq, memberHolders_eq, ← length_distinct, ← length_distinct]
  rfl

/-- Nobody is counted exactly when nobody holds the role. -/
theorem countHolders_eq_zero_iff :
    s.countHolders role none = 0 ↔ ∀ u, ¬ s.HoldsGlobally role u := by
  rw [countHolders_eq, Nat.add_eq_zero_iff, Set.ncard_eq_zero (s.finite_ownHolders role),
    Set.ncard_eq_zero (s.finite_memberHolders role none), Set.eq_empty_iff_forall_notMem,
    Set.eq_empty_iff_forall_notMem, ← forall_and]
  exact forall_congr' fun u => by rw [holdsGlobally_iff, not_or]

/-- Who is counted is a stored user. -/
theorem Sound.hasUser_of_holder (h : s.Sound)
    (hu : u ∈ s.ownHolders role ∨ u ∈ s.memberHolders role leftOut) : s.hasUser u = true := by
  rcases hu with ⟨r, -, hg⟩ | ⟨g, r, -, -, -, hmember⟩
  · have hknows := h.knows_of_mem_grants hg
    rw [knows_user] at hknows
    exact (Bool.and_eq_true_iff.1 hknows).1
  · exact h.hasUser_of_membership hmember

/-! ### Losing a group -/

/-- **A store has lost what a group held**, and perhaps its members. Without a group it has lost
what Anyone held. -/
structure Loses (s : Store) (group : Option String) (t : Store) : Prop where
  grants : ∀ g, g ∈ t.grants ↔ g ∈ s.grants ∧ g.holder ≠ .ofGroup group
  memberships : ∀ m : Membership, some m.group ≠ group → (m ∈ t.memberships ↔ m ∈ s.memberships)

namespace Loses

/-- What users hold by themselves stays. -/
theorem ownHolders (h : s.Loses group t) (role : Option String) :
    t.ownHolders role = s.ownHolders role := by
  ext u
  refine exists_congr fun r => and_congr_right fun _ => ?_
  rw [h.grants]
  -- the holder is a user, and so never what is lost
  exact and_iff_left (by cases group <;> nofun)

/-- The members that are left are those of the other groups. -/
theorem memberHolders (h : s.Loses group t) (role : Option String) :
    t.memberHolders role none = s.memberHolders role group := by
  ext u
  refine exists_congr fun g => exists_congr fun r => and_congr_right fun _ => ?_
  have hother : Holder.group g ≠ .ofGroup group ↔ some g ≠ group :=
    not_congr (@Holder.ofGroup_inj (some g) group)
  rw [h.grants, hother]
  -- memberships of the group itself may be gone, but neither side counts them
  constructor
  · rintro ⟨-, ⟨hg, hne⟩, hmember⟩
    exact ⟨hne, hg, (h.memberships _ hne).1 hmember⟩
  · rintro ⟨hne, hg, hmember⟩
    exact ⟨nofun, ⟨hg, hne⟩, (h.memberships _ hne).2 hmember⟩

theorem countHolders (h : s.Loses group t) (role : Option String) :
    t.countHolders role none = s.countHolders role group := by
  rw [countHolders_eq, countHolders_eq, h.ownHolders, h.memberHolders]

end Loses

theorem loses_dropGroupGrants (s : Store) (group : Option String) :
    s.Loses group (s.dropGroupGrants (·.group == group)) where
  grants _ := mem_grants_dropGroupGrants
  memberships _ _ := Iff.rfl

/-- A group that is deleted takes its grants and its members along, and nothing of another group. -/
theorem loses_deleteGroup (s : Store) (id : String) : s.Loses (some id) (s.deleteGroup id) where
  grants g := by
    rw [← mem_grants_dropGroupGrants]
    simp only [Store.grants, deleteGroup, removeGroups, dropGroupGrants, any_beq_eq]
  memberships m hother := by
    have hgroup : m.group ≠ id := fun h => hother (congrArg some h)
    simp [deleteGroup, removeGroups, hgroup]

end Store

/-! ### The preview -/

namespace Session

variable {s t : Session}

theorem serve_countHolders (s : Session) (role leftOut : Option String) :
    s.serve (.ask (.countHolders role leftOut)) =
      (.ok (.count (s.working.countHolders role leftOut)), s) := rfl

/-- After a session has lost a group, as many are counted as were without the group. -/
theorem previewed {role group : Option String} (h : s.working.Loses group t.working) :
    t.serve (.ask (.countHolders role none)) =
        (.ok (.count (s.working.countHolders role group)), t) ∧
      (s.working.countHolders role group = 0 ↔ ∀ u, ¬ t.working.HoldsGlobally role u) := by
  rw [serve_countHolders, ← h.countHolders]
  exact ⟨rfl, Store.countHolders_eq_zero_iff⟩

end Session

/-- **The preview of a removal is its effect.** In a reachable session, counting the holders of a
global role with a group left out gives the number of users with a grant of their own, plus the
number of users who belong to another group that holds the role. The same number is counted after
all grants of the group are revoked, and after a stored group is deleted; and it is zero exactly
when nobody then holds the role. -/
theorem removal_preview {s : Session} (hs : s.Reachable) (role group : Option String) :
    ∃ n, s.serve (.ask (.countHolders role group)) = (.ok (.count n), s) ∧
      ((s.working.ownHolders role).Finite ∧ (s.working.memberHolders role group).Finite ∧
        n = (s.working.ownHolders role).ncard + (s.working.memberHolders role group).ncard ∧
        ∀ u, u ∈ s.working.ownHolders role ∨ u ∈ s.working.memberHolders role group →
          s.working.hasUser u = true) ∧
      (∃ k t, s.serve (.grants (.revokeAllOfGroup group)) = (.ok (.count k), t) ∧
        t.serve (.ask (.countHolders role none)) = (.ok (.count n), t) ∧
        (n = 0 ↔ ∀ u, ¬ t.working.HoldsGlobally role u)) ∧
      ∀ id, group = some id → s.working.hasGroup id = true →
        ∃ t, s.serve (.change (.delete .group group)) = (.ok (.flag true), t) ∧
          t.serve (.ask (.countHolders role none)) = (.ok (.count n), t) ∧
          (n = 0 ↔ ∀ u, ¬ t.working.HoldsGlobally role u) := by
  refine ⟨_, s.serve_countHolders role group, ⟨s.working.finite_ownHolders role,
    s.working.finite_memberHolders role group, s.working.countHolders_eq role group, ?_⟩, ?_, ?_⟩
  · exact fun u hu => hs.sound.1.hasUser_of_holder hu
  · exact ⟨_, _, s.serve_revokeAllOfGroup group,
      Session.previewed (s.working.loses_dropGroupGrants group)⟩
  · rintro id rfl hid
    have hrow : s.working.hasRow .group id = true := hid
    have hserve := s.serve_delete .group (some id)
    rw [Option.filter_some, if_pos hrow] at hserve
    exact ⟨_, hserve, Session.previewed (s.working.loses_deleteGroup id)⟩

/-- A user who holds a role both ways counts twice, and once without the group. -/
theorem sample_previewed :
    ∃ s t : Session, s.Reachable ∧
      (s.serve (.ask (.countHolders (some "admin") none))).1 = .ok (.count 2) ∧
      s.serve (.change (.delete .group (some "g"))) = (.ok (.flag true), t) ∧
      t.serve (.ask (.countHolders (some "admin") none)) = (.ok (.count 1), t) ∧
      ∃ u, t.working.HoldsGlobally (some "admin") u := by
  let s : Session := .serveAll {} (sampleCalls ++ [
    .grants (.grant (.user (some "u")) (some "admin") .global),
    .grants (.grant (.group (some "g")) (some "admin") .global)])
  have hs : s.Reachable := ⟨_, fun _ _ => trivial, rfl⟩
  have hgroup : s.working.hasGroup "g" = true := by decide +kernel
  have hone : (s.serve (.ask (.countHolders (some "admin") (some "g")))).1 = .ok (.count 1) := by
    decide +kernel
  obtain ⟨n, hcount, -, -, hdelete⟩ := removal_preview hs (some "admin") (some "g")
  obtain ⟨t, hserve, hafter, hnobody⟩ := hdelete "g" rfl hgroup
  rw [hcount] at hone
  cases hone
  refine ⟨s, t, hs, by decide +kernel, hserve, hafter, ?_⟩
  by_contra hnone
  exact absurd (hnobody.2 (not_exists.1 hnone)) (by decide)

end RoleGrants
