/-!
# Distinct values

Entries, roles and ids are read as sets, and a set is kept as a list in order of first appearance.
`distinctBy` keeps the first value of each key; `mem_distinct` and `nodup_distinct` say that the
list of distinct values has the same members, each once.
-/

namespace RoleGrants

variable {α β : Type}

/-- The values of a list, of each key the first one only. -/
def distinctBy [DecidableEq β] (key : α → β) : List α → List α
  | [] => []
  | x :: xs => x :: (distinctBy key xs).filter (key · ≠ key x)

/-- The values of a list in order of first appearance. -/
def distinct [DecidableEq α] (xs : List α) : List α :=
  distinctBy id xs

/-- For each value the position of the first value of its key. -/
def firstPositions [DecidableEq β] (key : α → β) (xs : List α) : List Nat :=
  xs.map fun x => xs.findIdx (key · = key x)

theorem mem_of_mem_distinctBy [DecidableEq β] {key : α → β} {x : α} {xs : List α}
    (h : x ∈ distinctBy key xs) : x ∈ xs := by
  induction xs with
  | nil => exact h
  | cons y ys ih =>
    rcases List.mem_cons.1 h with rfl | h
    · exact List.mem_cons_self
    · exact List.mem_cons_of_mem _ (ih (List.mem_filter.1 h).1)

/-- Every key of the list still has a value. -/
theorem exists_mem_distinctBy [DecidableEq β] {key : α → β} {x : α} {xs : List α} (h : x ∈ xs) :
    ∃ y ∈ distinctBy key xs, key y = key x := by
  induction xs with
  | nil => cases h
  | cons z zs ih =>
    by_cases hz : key x = key z
    · exact ⟨z, List.mem_cons_self, hz.symm⟩
    · rcases List.mem_cons.1 h with rfl | h
      · exact absurd rfl hz
      · obtain ⟨y, hy, hk⟩ := ih h
        exact ⟨y, List.mem_cons_of_mem _ (List.mem_filter.2 ⟨hy, by simpa [hk] using hz⟩), hk⟩

/-- No two values that are kept have one key. -/
theorem nodup_map_distinctBy [DecidableEq β] (key : α → β) (xs : List α) :
    ((distinctBy key xs).map key).Nodup := by
  induction xs with
  | nil => exact List.nodup_nil
  | cons x xs ih =>
    have hsub : ((distinctBy key xs).filter (key · ≠ key x)).map key |>.Sublist
        ((distinctBy key xs).map key) := List.filter_sublist.map key
    refine List.nodup_cons.2 ⟨fun h => ?_, hsub.nodup ih⟩
    obtain ⟨y, hy, hk⟩ := List.mem_map.1 h
    simpa [hk] using (List.mem_filter.1 hy).2

/-- Where no two values have one key, all of them are kept. -/
theorem distinctBy_of_nodup [DecidableEq β] {key : α → β} {xs : List α}
    (h : (xs.map key).Nodup) : distinctBy key xs = xs := by
  induction xs with
  | nil => rfl
  | cons x xs ih =>
    obtain ⟨hx, hxs⟩ := List.nodup_cons.1 h
    rw [distinctBy, ih hxs, List.filter_eq_self.2 fun y hy => ?_]
    have hne : key y ≠ key x := fun hk => hx (hk ▸ List.mem_map_of_mem hy)
    exact decide_eq_true hne

theorem distinct_of_nodup [DecidableEq α] {xs : List α} (h : xs.Nodup) : distinct xs = xs :=
  distinctBy_of_nodup (by rwa [List.map_id])

theorem mem_distinct [DecidableEq α] {x : α} {xs : List α} : x ∈ distinct xs ↔ x ∈ xs := by
  refine ⟨mem_of_mem_distinctBy, fun h => ?_⟩
  obtain ⟨y, hy, hk⟩ : ∃ y ∈ distinctBy id xs, id y = id x := exists_mem_distinctBy h
  have hyx : y = x := hk
  exact hyx ▸ hy

theorem nodup_distinct [DecidableEq α] (xs : List α) : (distinct xs).Nodup := by
  have h := nodup_map_distinctBy id xs
  rwa [List.map_id] at h

end RoleGrants
