import RoleGrants.Distinct
import RoleGrants.Proofs.StoredGrant
import RoleGrants.Template.Application

/-!
# Writing a plan

The writes of an application, one after another, in closed form. An entry of the plan comes to the
same whichever entries have been written before it (`Store.grantable_insertGrant`), so whether the
whole plan can be written is settled by the rows as they were at its start:
`writeGrants_of_canGrant` and `writeGrants_eq_ok` say that it goes through exactly when nothing
strikes from outside and every entry can be granted on its own, and then its triples are stored
and the number answered is that of the triples that were not there before.

`writeGrants_eq_error` is the other outcome: a failure from outside, or one of the entries that
cannot be granted. What was committed is not touched in either case.
-/

open RoleGrants.Action

namespace RoleGrants

/-- The triple of an entry of a plan. -/
def plannedGrant? (scope : Scope) (w : Principal × Option String) : Option Grant :=
  w.1.grant? w.2 scope.projectId

/-- The triples that a plan stores, in the order of writing. -/
def plannedGrants (scope : Scope) (plan : List (Principal × Option String)) : List Grant :=
  plan.filterMap (plannedGrant? scope)

/-- An entry of a plan can be granted on its own. -/
def Store.CanGrant (s : Store) (scope : Scope) (w : Principal × Option String) : Prop :=
  ∃ g, s.grantable w.1 w.2 scope.projectId = .ok g

theorem plannedGrant?_of_grantable {s : Store} {scope : Scope} {w : Principal × Option String}
    {g : Grant} (h : s.grantable w.1 w.2 scope.projectId = .ok g) :
    plannedGrant? scope w = some g := by
  obtain ⟨⟨holder, r, hholder, hrole, rfl⟩, -⟩ := Store.grantable_eq_ok.1 h
  rw [plannedGrant?, Principal.grant?, hholder, (roleOf_eq_ok.1 hrole).1]
  rfl

/-! ### Storing several triples -/

namespace Store

/-- The store with the triples that are not there yet. -/
def insertGrants (s : Store) (gs : List Grant) : Store := gs.foldl insertGrant s

/-- Grants are no part of the table of projects. -/
@[simp] theorem projects_insertGrants (s : Store) (gs : List Grant) :
    (s.insertGrants gs).projects = s.projects := by
  induction gs generalizing s with
  | nil => rfl
  | cons g gs ih => exact ih (s.insertGrant g)

/-- The triples of a list that a store does not hold, each once. -/
def newGrants (s : Store) (gs : List Grant) : List Grant :=
  (distinct gs).filter (· ∉ s.grants)

theorem mem_newGrants {s : Store} {gs : List Grant} {g : Grant} :
    g ∈ s.newGrants gs ↔ g ∈ gs ∧ g ∉ s.grants := by
  rw [newGrants, List.mem_filter, mem_distinct, decide_eq_true_iff]

theorem nodup_newGrants (s : Store) (gs : List Grant) : (s.newGrants gs).Nodup :=
  (nodup_distinct gs).filter _

/-- The first triple is new or it is not, and the others are new if they are new after it. -/
theorem newGrants_cons (s : Store) (g : Grant) (gs : List Grant) :
    s.newGrants (g :: gs) =
      (if g ∈ s.grants then [] else [g]) ++ (s.insertGrant g).newGrants gs := by
  have hrest : ((distinct gs).filter (· ≠ g)).filter (· ∉ s.grants) =
      (s.insertGrant g).newGrants gs := by
    rw [newGrants, List.filter_filter]
    refine List.filter_congr fun g' _ => ?_
    rw [← Bool.decide_and, decide_eq_decide, mem_grants_insertGrant, not_or]
  -- a later copy of the first triple is dropped, and would not be new after it
  calc s.newGrants (g :: gs)
      = (g :: (distinct gs).filter (· ≠ g)).filter (· ∉ s.grants) := rfl
    _ = (if g ∈ s.grants then [] else [g]) ++
          ((distinct gs).filter (· ≠ g)).filter (· ∉ s.grants) := by
        by_cases h : g ∈ s.grants <;> simp [h]
    _ = (if g ∈ s.grants then [] else [g]) ++ (s.insertGrant g).newGrants gs := by rw [hrest]

/-- **What is held after several triples have been stored:** what was held, and the new ones. -/
theorem grants_insertGrants_perm (s : Store) (gs : List Grant) :
    (s.insertGrants gs).grants.Perm (s.grants ++ s.newGrants gs) := by
  induction gs generalizing s with
  | nil => simp [insertGrants, newGrants, distinct, distinctBy]
  | cons g gs ih =>
    have hfirst : ((s.insertGrant g).grants ++ (s.insertGrant g).newGrants gs).Perm
        (s.grants ++ s.newGrants (g :: gs)) := by
      rw [newGrants_cons]
      by_cases h : g ∈ s.grants
      · rw [if_pos h, insertGrant_of_mem h, List.nil_append]
      · rw [if_neg h, ← List.append_assoc]
        exact (grants_insertGrant_perm h).append_right _
    exact (ih (s.insertGrant g)).trans hfirst

end Store

/-! ### The writes -/

section Writes

variable {faults : Faults} {scope : Scope}

theorem writeGrants_cons (start : Nat) (w : Principal × Option String)
    (rest : List (Principal × Option String)) (s : Session) :
    writeGrants faults scope start (w :: rest) s =
      match faults.atWrite start with
      | some f => .error f s
      | none =>
        match s.working.grantable w.1 w.2 scope.projectId with
        | .error f => .error f s
        | .ok g =>
          match writeGrants faults scope (start + 1) rest (s.insertGrant g) with
          | .ok n t => .ok ((decide (g ∉ s.working.grants)).toNat + n) t
          | .error f t => .error f t := by
  obtain ⟨principal, role⟩ := w
  rw [writeGrants, bind_run]
  cases faults.atWrite start with
  | some f => rfl
  | none =>
    simp only [strike, pure_run, bind_run, grantTo_run]
    cases s.working.grantable principal role scope.projectId with
    | error f => rfl
    | ok g =>
      simp only []
      cases writeGrants faults scope (start + 1) rest (s.insertGrant g) <;> rfl

/-- A plan that goes through has had its first entry granted and the rest written after it. -/
theorem writeGrants_cons_eq_ok {start n : Nat} {w : Principal × Option String}
    {rest : List (Principal × Option String)} {s t : Session}
    (h : writeGrants faults scope start (w :: rest) s = .ok n t) :
    faults.atWrite start = none ∧
      ∃ g m, s.working.grantable w.1 w.2 scope.projectId = .ok g ∧
        writeGrants faults scope (start + 1) rest (s.insertGrant g) = .ok m t := by
  rw [writeGrants_cons] at h
  cases hstart : faults.atWrite start with
  | some f => rw [hstart] at h; cases h
  | none =>
    cases hg : s.working.grantable w.1 w.2 scope.projectId with
    | error f => rw [hstart, hg] at h; cases h
    | ok g =>
      rw [hstart, hg] at h
      cases hrest : writeGrants faults scope (start + 1) rest (s.insertGrant g) with
      | error f u => simp only [hrest] at h; cases h
      | ok m u =>
        simp only [hrest] at h
        cases h
        exact ⟨rfl, g, m, rfl, hrest⟩

/-- A plan that does not go through is struck at its first entry, or that entry cannot be granted,
or it stops in the rest. -/
theorem writeGrants_cons_eq_error {start : Nat} {w : Principal × Option String}
    {rest : List (Principal × Option String)} {s t : Session} {f : Failure}
    (h : writeGrants faults scope start (w :: rest) s = .error f t) :
    (faults.atWrite start = some f ∧ t = s) ∨
      faults.atWrite start = none ∧
        ((s.working.grantable w.1 w.2 scope.projectId = .error f ∧ t = s) ∨
          ∃ g, s.working.grantable w.1 w.2 scope.projectId = .ok g ∧
            writeGrants faults scope (start + 1) rest (s.insertGrant g) = .error f t) := by
  rw [writeGrants_cons] at h
  cases hstart : faults.atWrite start with
  | some f' =>
    rw [hstart] at h
    cases h
    exact .inl ⟨rfl, rfl⟩
  | none =>
    cases hg : s.working.grantable w.1 w.2 scope.projectId with
    | error f' =>
      rw [hstart, hg] at h
      cases h
      exact .inr ⟨rfl, .inl ⟨rfl, rfl⟩⟩
    | ok g =>
      rw [hstart, hg] at h
      cases hrest : writeGrants faults scope (start + 1) rest (s.insertGrant g) with
      | ok m u => simp only [hrest] at h; cases h
      | error f' u =>
        simp only [hrest] at h
        cases h
        exact .inr ⟨rfl, .inr ⟨g, rfl, hrest⟩⟩

/-- The entries behind a written one can be granted when they could be before it. -/
theorem canGrant_insertGrant {s : Store} {w : Principal × Option String} {g : Grant}
    (hg : s.grantable w.1 w.2 scope.projectId = .ok g) (w' : Principal × Option String) :
    (s.insertGrant g).CanGrant scope w' ↔ s.CanGrant scope w' := by
  have hadmits : g ∈ s.grants ∨ s.knows g = true := (Store.grantable_eq_ok.1 hg).2
  unfold Store.CanGrant
  rw [Store.grantable_insertGrant hadmits]

/-- **A plan goes through** when nothing strikes and each of its entries can be granted. -/
theorem writeGrants_of_canGrant {plan : List (Principal × Option String)} {start : Nat}
    {s : Session} (hfaults : ∀ i < plan.length, faults.atWrite (start + i) = none)
    (hplan : ∀ w ∈ plan, s.working.CanGrant scope w) :
    writeGrants faults scope start plan s =
      .ok ((s.working.newGrants (plannedGrants scope plan)).length)
        { s with working := s.working.insertGrants (plannedGrants scope plan) } := by
  induction plan generalizing start s with
  | nil => rfl
  | cons w rest ih =>
    obtain ⟨g, hg⟩ := hplan w List.mem_cons_self
    have hstart : faults.atWrite start = none := hfaults 0 (by simp)
    have hfaultsRest : ∀ i < rest.length, faults.atWrite (start + 1 + i) = none := by
      intro i hi
      have hshift : start + 1 + i = start + (i + 1) := by omega
      rw [hshift]
      exact hfaults (i + 1) (by simpa using hi)
    -- the rest is written from the session with the first triple, and can be granted there as well
    have hplanRest : ∀ w' ∈ rest, (s.insertGrant g).working.CanGrant scope w' := by
      intro w' hw'
      exact (canGrant_insertGrant hg w').2 (hplan w' (List.mem_cons_of_mem w hw'))
    have hrest := ih hfaultsRest hplanRest
    have hgrants : plannedGrants scope (w :: rest) = g :: plannedGrants scope rest := by
      rw [plannedGrants, List.filterMap_cons, plannedGrant?_of_grantable hg, plannedGrants]
    rw [writeGrants_cons, hstart, hg, hgrants, Store.newGrants_cons, List.length_append]
    simp only [hrest]
    by_cases hmem : g ∈ s.working.grants
    · simp only [hmem, not_true_eq_false, decide_false, Bool.toNat_false, if_true, List.length_nil]
      rfl
    · simp only [hmem, not_false_eq_true, decide_true, Bool.toNat_true, if_false,
        List.length_singleton]
      rfl

/-- A plan that went through was not struck, and each of its entries could be granted at its
start. -/
theorem canGrant_of_writeGrants {plan : List (Principal × Option String)} {start n : Nat}
    {s t : Session} (h : writeGrants faults scope start plan s = .ok n t) :
    (∀ i < plan.length, faults.atWrite (start + i) = none) ∧
      ∀ w ∈ plan, s.working.CanGrant scope w := by
  induction plan generalizing start n s t with
  | nil => exact ⟨fun i hi => absurd hi (Nat.not_lt_zero i), fun w hw => (nomatch hw)⟩
  | cons w rest ih =>
    obtain ⟨hstart, g, m, hg, hrest⟩ := writeGrants_cons_eq_ok h
    obtain ⟨hfaults, hplan⟩ := ih hrest
    constructor
    · intro i hi
      -- positions in the rest are one less than in the plan
      cases i with
      | zero => exact hstart
      | succ i =>
        have hshift : start + (i + 1) = start + 1 + i := by omega
        rw [hshift]
        exact hfaults i (by simpa using hi)
    · intro w' hw'
      rcases List.mem_cons.1 hw' with rfl | hw'
      · exact ⟨g, hg⟩
      · exact (canGrant_insertGrant hg w').1 (hplan w' hw')

/-- **What a plan that went through has done.** Its triples are stored, and the answer is the
number of those that were not there. -/
theorem writeGrants_eq_ok {plan : List (Principal × Option String)} {start n : Nat} {s t : Session}
    (h : writeGrants faults scope start plan s = .ok n t) :
    n = (s.working.newGrants (plannedGrants scope plan)).length ∧
      t = { s with working := s.working.insertGrants (plannedGrants scope plan) } := by
  obtain ⟨hfaults, hplan⟩ := canGrant_of_writeGrants h
  rw [writeGrants_of_canGrant hfaults hplan] at h
  cases h
  exact ⟨rfl, rfl⟩

/-- A plan that did not go through was struck from outside, or one of its entries cannot be granted.
Nothing is committed, marked or reported by then. -/
theorem writeGrants_eq_error {plan : List (Principal × Option String)} {start : Nat}
    {s t : Session} {f : Failure} (h : writeGrants faults scope start plan s = .error f t) :
    ((∃ i < plan.length, faults.atWrite (start + i) = some f) ∨
        ∃ w ∈ plan, s.working.grantable w.1 w.2 scope.projectId = .error f) ∧
      t.committed = s.committed := by
  induction plan generalizing start s with
  | nil => cases h
  | cons w rest ih =>
    rcases writeGrants_cons_eq_error h with
      ⟨hstart, rfl⟩ | ⟨hstart, ⟨hg, rfl⟩ | ⟨g, hg, hrest⟩⟩
    · exact ⟨.inl ⟨0, by simp, hstart⟩, rfl⟩
    · exact ⟨.inr ⟨w, List.mem_cons_self, hg⟩, rfl⟩
    · obtain ⟨hcause, hcommitted⟩ := ih hrest
      refine ⟨?_, hcommitted⟩
      -- what ended the rest is told of the rows at the start of the plan
      rcases hcause with ⟨i, hi, hf⟩ | ⟨w', hw', hf⟩
      · have hshift : start + (i + 1) = start + 1 + i := by omega
        refine .inl ⟨i + 1, by simpa using hi, ?_⟩
        rw [hshift]
        exact hf
      · have hadmits : g ∈ s.working.grants ∨ s.working.knows g = true :=
          (Store.grantable_eq_ok.1 hg).2
        refine .inr ⟨w', List.mem_cons_of_mem w hw', ?_⟩
        rw [← Store.grantable_insertGrant hadmits]
        exact hf

end Writes

end RoleGrants
