import RoleGrants.Grant.Read
import RoleGrants.Proofs.StoredGrant

/-!
# Roles read by the name of a group

The roles of groups are asked for by name, and the answer is read off the table in which Anyone's
grants stand among those of groups. `Holder.GoesBy` says whom a name stands for: the reserved one
for Anyone and for nobody else, every other one for the groups of that name, in whatever
organization. What is read are the roles of the triples of these holders on the scope
(`mem_rolesOfGroupNamed`).

The answer is a set, listed in order and with each role once. So two stores answer alike as soon
as the same triples are held by whom the name stands for (`rolesOfGroupNamed_congr`), whatever else
tells them apart and in whatever order their rows have come in.
-/

namespace RoleGrants

/-! ### Sets of texts, as they are listed -/

theorem pairwise_sortTexts (texts : List String) : (sortTexts texts).Pairwise (· ≤ ·) := by
  have hsorted : (sortTexts texts).Pairwise fun a b => decide (a ≤ b) = true := by
    refine List.pairwise_mergeSort (fun a b c hab hbc => ?_) (fun a b => ?_) texts
    · exact decide_eq_true (String.le_trans (of_decide_eq_true hab) (of_decide_eq_true hbc))
    · rw [Bool.or_eq_true, decide_eq_true_iff, decide_eq_true_iff]
      exact String.le_total a b
  exact hsorted.imp fun hab => of_decide_eq_true hab

/-- Texts in order are told by which texts they are and how often. -/
theorem sortTexts_eq_of_perm {xs ys : List String} (h : xs.Perm ys) :
    sortTexts xs = sortTexts ys := by
  have hperm : (sortTexts xs).Perm (sortTexts ys) :=
    ((List.mergeSort_perm xs _).trans h).trans (List.mergeSort_perm ys _).symm
  exact hperm.eq_of_pairwise (fun _ _ _ _ hab hba => String.le_antisymm hab hba)
    (pairwise_sortTexts xs) (pairwise_sortTexts ys)

/-- A set of texts is listed alike, in whatever order and however often its texts are come
across. -/
theorem sortTexts_distinct_eq {xs ys : List String} (h : ∀ x, x ∈ xs ↔ x ∈ ys) :
    sortTexts (distinct xs) = sortTexts (distinct ys) := by
  refine sortTexts_eq_of_perm ?_
  refine (List.perm_ext_iff_of_nodup (nodup_distinct xs) (nodup_distinct ys)).2 fun x => ?_
  rw [mem_distinct, mem_distinct]
  exact h x

theorem mem_sortTexts_distinct {x : String} {xs : List String} :
    x ∈ sortTexts (distinct xs) ↔ x ∈ xs := by
  rw [sortTexts, List.mem_mergeSort, mem_distinct]

/-- Sets of texts are listed alike if they list the same texts. -/
theorem sortTexts_distinct_ext {xs ys : List String}
    (h : ∀ x, x ∈ sortTexts (distinct xs) ↔ x ∈ sortTexts (distinct ys)) :
    sortTexts (distinct xs) = sortTexts (distinct ys) := by
  refine sortTexts_distinct_eq fun x => ?_
  rw [← mem_sortTexts_distinct, h x, mem_sortTexts_distinct]

/-- A set of texts is listed in strict order, so that no text comes twice. -/
theorem pairwise_lt_sortTexts_distinct (xs : List String) :
    (sortTexts (distinct xs)).Pairwise (· < ·) := by
  have hnodup : (sortTexts (distinct xs)).Nodup :=
    (List.mergeSort_perm _ _).nodup_iff.2 (nodup_distinct xs)
  refine (pairwise_sortTexts _).imp₂ (fun _ _ hle hne => ?_) hnodup
  exact String.not_le.1 fun hge => hne (String.le_antisymm hle hge)

/-! ### Whom a name stands for -/

/-- **Whom the name of a group stands for.** The reserved name stands for Anyone, another one for
every stored group that has it, and none for a user. -/
def Holder.GoesBy (s : Store) (name : Option String) : Holder → Prop
  | .user _ => False
  | .group id => isAnyone name = false ∧ ∃ g ∈ s.groups, g.id = id ∧ some g.name = name
  | .anyone => isAnyone name = true

section Names

variable {s t : Store} {name : Option String} {holder : Holder}

/-- The reserved name stands for Anyone only. -/
theorem Holder.goesBy_of_isAnyone (h : isAnyone name = true) :
    holder.GoesBy s name ↔ holder = .anyone := by
  cases holder with
  | user id => simp [GoesBy]
  | group id => simp [GoesBy, h]
  | anyone => simp [GoesBy, h]

/-- Every other name stands for groups only. -/
theorem Holder.GoesBy.eq_group (hgoes : holder.GoesBy s name) (h : isAnyone name = false) :
    ∃ id, holder = .group id := by
  cases holder with
  | user id => exact hgoes.elim
  | group id => exact ⟨id, rfl⟩
  | anyone =>
    have hgoes : isAnyone name = true := hgoes
    rw [h] at hgoes
    cases hgoes

theorem Holder.goesBy_congr (h : t.groups = s.groups) :
    holder.GoesBy t name ↔ holder.GoesBy s name := by
  cases holder <;> simp only [GoesBy, h]

end Names

namespace Store

variable {s t : Store} {name : Option String} {scope : Scope}

/-- What stands for the group of a row goes by a name: Anyone by the reserved one, a stored group by
its own. -/
theorem goesBy_ofGroup {group : Option String} :
    (Holder.ofGroup group).GoesBy s name ↔
      if isAnyone name then group = none
      else ∃ g ∈ s.groups, some g.id = group ∧ some g.name = name := by
  cases group <;> cases h : isAnyone name <;> simp [Holder.ofGroup, Holder.GoesBy, h]

/-- A row of a group is picked when its holder goes by the name. -/
theorem picked_iff {r : GroupGrant} :
    (r ∈ if isAnyone name then
        (s.groupGrants.filter (·.project == scope.projectId)).filter (·.group.isNone)
      else (s.groupGrants.filter (·.project == scope.projectId)).filter fun g =>
        s.groups.any fun h => some h.id == g.group && some h.name == name) ↔
      r ∈ s.groupGrants ∧ r.project = scope.projectId ∧ r.grant.holder.GoesBy s name := by
  have hgoes : r.grant.holder.GoesBy s name ↔ _ := goesBy_ofGroup
  rw [hgoes]
  split <;> simp [and_comm]

/-- **What is read by a name** are the roles of those whom it stands for. -/
theorem mem_rolesOfGroupNamed {role : String} :
    role ∈ s.rolesOfGroupNamed name scope ↔
      ∃ g, (g ∈ s.grants ∧ g.holder.GoesBy s name) ∧ g.project = scope.projectId ∧
        g.role = role := by
  rw [rolesOfGroupNamed, mem_sortTexts_distinct, List.mem_map]
  constructor
  · rintro ⟨r, hr, rfl⟩
    obtain ⟨hmem, hproject, hgoes⟩ := picked_iff.1 hr
    exact ⟨r.grant, ⟨mem_grants.2 (.inr ⟨r, hmem, rfl⟩), hgoes⟩, hproject, rfl⟩
  · rintro ⟨g, ⟨hg, hgoes⟩, hproject, hrole⟩
    rcases mem_grants.1 hg with ⟨r, hr, rfl⟩ | ⟨r, hr, rfl⟩
    · -- no name stands for a user
      exact hgoes.elim
    · exact ⟨r, picked_iff.2 ⟨hr, hproject, hgoes⟩, hrole⟩

/-- **Stores answer alike** in which the same is held by whom a name stands for. -/
theorem rolesOfGroupNamed_congr
    (h : ∀ g : Grant,
      g ∈ t.grants ∧ g.holder.GoesBy t name ↔ g ∈ s.grants ∧ g.holder.GoesBy s name)
    (scope : Scope) : t.rolesOfGroupNamed name scope = s.rolesOfGroupNamed name scope := by
  refine sortTexts_distinct_ext fun role => ?_
  change role ∈ t.rolesOfGroupNamed name scope ↔ role ∈ s.rolesOfGroupNamed name scope
  rw [mem_rolesOfGroupNamed, mem_rolesOfGroupNamed]
  exact exists_congr fun g => and_congr_left' (h g)

end Store

end RoleGrants
