import RoleGrants.Proofs.ApplicationOutcome
import RoleGrants.Proofs.Integrity
import RoleGrants.Proofs.RevokedGrant

/-!
# Grants as a set of triples

Granting and revoking a role of one principal on one scope, seen from outside. A session holds a
set of triples; a grant adds one to it and a revocation takes one away, whatever the table, the
columns without a value and the state of the session (`grants_refine_set`).

`GrantCall.Inserts` and `GrantCall.Removes` say which calls these are and for which triple. All of
them come to the two closed forms of `StoredGrant` and `RevokedGrant` and then to a mark, and
`Session.Regranted` says what such a step leaves: the triples that are held, the one mark and the
reading of the clock that goes with it, and everything else as it was. Where rows stand apart a
triple has one row or none. Where they refer to stored rows, the rows that a triple needs decide
whether it can be granted (`Store.Sound.checkedTriple_eq`), since what is held already has them.
-/

open RoleGrants.Action

namespace RoleGrants

/-! ### Granting and revoking one triple -/

/-- The calls that grant a role to a principal on a scope, and whether they mark the project. -/
inductive GrantCall.Inserts : GrantCall → Principal → String → Scope → Bool → Prop where
  | any {principal : Principal} {role : String} {scope : Scope}
      (hprincipal : ∀ value, principal ≠ .unsupported value) :
      Inserts (.grant principal (some role) scope) principal role scope false
  | user {id : Option String} {role : String} {scope : Scope} {marking : Bool} :
      Inserts (.grantToUser id (some role) scope marking) (.user id) role scope marking
  | group {id : Option String} {role : String} {scope : Scope} {marking : Bool} :
      Inserts (.grantToGroup (.group id) (some role) scope marking) (.group id) role scope marking
  | anyone {role : String} {scope : Scope} {marking : Bool} :
      Inserts (.grantToGroup .anyone (some role) scope marking) .anyone role scope marking

/-- The calls that revoke a role of a principal on a scope. -/
inductive GrantCall.Removes : GrantCall → Principal → String → Scope → Prop where
  | user {id : Option String} {role : String} {scope : Scope} :
      Removes (.revokeFromUser id (some role) scope) (.user id) role scope
  | group {id : Option String} {role : String} {scope : Scope} :
      Removes (.revokeFromGroup (.group id) (some role) scope) (.group id) role scope
  | anyone {role : String} {scope : Scope} :
      Removes (.revokeFromGroup .anyone (some role) scope) .anyone role scope

section Run

variable {c : GrantCall} {principal : Principal} {role : String} {scope : Scope}

/-- What granting to a user or to a group comes to, with the mark of the global scope where the mark
is left out. -/
theorem flag_run_of_checkedTriple {x : Action Bool} {holder : Option Holder} {marking : Bool}
    {s : Session}
    (hx : x s = match s.working.checkedTriple holder (some role) scope.projectId with
      | .ok g => .ok (decide (g ∉ s.working.grants))
          (if marking then (s.insertGrant g).mark scope else s.insertGrant g)
      | .error f => .error f s) :
    (Answer.flag <$> x) s =
      match s.working.checkedTriple holder (some role) scope.projectId with
      | .ok g => .ok (.flag (decide (g ∉ s.working.grants)))
          ((s.insertGrant g).mark (if marking then scope else .global))
      | .error f => .error f s := by
  rw [map_run, hx]
  cases s.working.checkedTriple holder (some role) scope.projectId with
  | ok g => cases marking <;> rfl
  | error f => rfl

/-- Whichever call it is, a grant is of the one triple. -/
theorem GrantCall.Inserts.run {marking : Bool} (h : c.Inserts principal role scope marking)
    (hrole : Text.isBlank role = false) (s : Session) :
    c.run s = match s.working.checkedTriple principal.holder? (some role) scope.projectId with
      | .ok g => .ok (.flag (decide (g ∉ s.working.grants)))
          ((s.insertGrant g).mark (if marking then scope else .global))
      | .error f => .error f s := by
  have hrole : roleOf (some role) = .ok role := roleOf_eq_ok.2 ⟨rfl, hrole⟩
  cases h with
  | any hprincipal =>
    cases principal with
    | user id => exact flag_run_of_checkedTriple (grantToUser_run id (some role) scope false s)
    | group id => exact flag_run_of_checkedTriple (grantToGroup_run id (some role) scope false s)
    | anyone => exact flag_run_of_checkedTriple (grantToGroup_run none (some role) scope false s)
    | unsupported value => exact absurd rfl (hprincipal value)
  | user => exact flag_run_of_checkedTriple (grantToUser_run _ (some role) scope _ s)
  | group =>
    rw [GrantCall.run, hrole]
    exact flag_run_of_checkedTriple (grantToGroup_run _ (some role) scope _ s)
  | anyone =>
    rw [GrantCall.run, hrole]
    exact flag_run_of_checkedTriple (grantToGroup_run none (some role) scope _ s)

/-- Whichever call it is, a revocation is of the one triple. -/
theorem GrantCall.Removes.run (h : c.Removes principal role scope) (s : Session) :
    c.run s = .ok (.count (s.working.countGrant (principal.grant? (some role) scope.projectId)))
      ((s.removeGrant (principal.grant? (some role) scope.projectId)).mark scope) := by
  cases h with
  | user =>
    rw [GrantCall.run, map_run, revokeFromUser_run]
  | @group id =>
    refine (map_run Answer.count (RoleGrants.revokeFromGroup id (some role) scope) s).trans ?_
    rw [revokeFromGroup_run]
  | anyone =>
    refine (map_run Answer.count (RoleGrants.revokeFromGroup none (some role) scope) s).trans ?_
    rw [revokeFromGroup_run]
    rfl

end Run

/-! ### The set of triples -/

namespace Session

/-- **A session after its grants have become others and a project has been marked.** `held` says
which triples are held then, each once, and `marked` is the project that is marked with the new
reading of the clock. Without one the clock is not read. Nothing else is touched; of the log that
says that no event of the level `info` or above has been reported. -/
structure Regranted (s : Session) (held : Grant → Prop) (marked : Option String) (t : Session) :
    Prop where
  mem_grants : ∀ g, g ∈ t.working.grants ↔ held g
  nodup : t.working.grants.Nodup
  clock : t.clock = s.clock + if marked.isSome then 1 else 0
  projects : t.working.projects = s.working.projects.map fun p =>
    if some p.id = marked then { p with refreshedAt := some t.clock } else p
  rest : t.working = { s.working with
    userGrants := t.working.userGrants
    groupGrants := t.working.groupGrants
    projects := t.working.projects }
  committed : t.committed = s.committed
  log : t.log = s.log

theorem regranted_mark {s : Session} {store : Store} {held : Grant → Prop}
    (hgrants : ∀ g, g ∈ store.grants ↔ held g) (hnodup : store.grants.Nodup)
    (hrest : store = { s.working with
      userGrants := store.userGrants, groupGrants := store.groupGrants }) (scope : Scope) :
    s.Regranted held scope.projectId ({ s with working := store }.mark scope) := by
  have hprojects : store.projects = s.working.projects := by rw [hrest]
  unfold mark
  cases scope.projectId with
  | none => exact ⟨hgrants, hnodup, rfl, by simp [hprojects], hrest ▸ rfl, rfl, rfl⟩
  | some project =>
    refine ⟨hgrants, hnodup, rfl, ?_, ?_, rfl, rfl⟩
    · simp [Store.refresh, hprojects]
    · rw [hrest]
      rfl

end Session

namespace Store

theorem nodup_grants_insertGrant {s : Store} (h : s.grants.Nodup) (g : Grant) :
    (s.insertGrant g).grants.Nodup := by
  by_cases hg : g ∈ s.grants
  · rwa [insertGrant_of_mem hg]
  · rw [(grants_insertGrant_perm hg).nodup_iff, List.nodup_append]
    refine ⟨h, by simp, ?_⟩
    rintro g' hg' _ hmem rfl
    exact hg (List.mem_singleton.1 hmem ▸ hg')

theorem countGrant_some {s : Store} (h : s.grants.Nodup) (g : Grant) :
    s.countGrant (some g) = if g ∈ s.grants then 1 else 0 := by
  rw [← h.count, List.count_eq_countP, countGrant]
  exact List.countP_congr fun g' _ => by simp

@[simp] theorem countGrant_none (s : Store) : s.countGrant none = 0 := by
  simp [countGrant]

end Store

/-- Everybody but a user without an id can hold a triple. -/
theorem GrantCall.Inserts.eq_user_none {c : GrantCall} {principal : Principal} {role : String}
    {scope : Scope} {marking : Bool} (h : c.Inserts principal role scope marking)
    (hnone : principal.holder? = none) : principal = .user none := by
  cases principal with
  | user id =>
    cases id with
    | none => rfl
    | some id => cases hnone
  | group id => cases hnone
  | anyone => cases hnone
  | unsupported value =>
    cases h with
    | any hprincipal => exact absurd rfl (hprincipal value)

theorem Session.serve_grants (s : Session) (c : GrantCall) :
    s.serve (.grants c) = match c.run s with
      | .ok answer t => (.ok answer, t)
      | .error (.store e) t => (.error (.store e), t.rollback)
      | .error f t => (.error f, t) := rfl

/-- Revoking all that a group holds is never refused. -/
theorem Session.serve_revokeAllOfGroup (s : Session) (group : Option String) :
    s.serve (.grants (.revokeAllOfGroup group)) =
      (.ok (.count (s.working.groupGrants.countP (·.group == group))),
        { s with working := s.working.dropGroupGrants (·.group == group) }) := by
  rw [serve_grants, GrantCall.run, map_run, revokeAllOfGroup_run]

/-- **The grants of a session are a set of triples.** A grant adds its triple and answers whether it
was new, or fails because the holder or the project is missing, or because a user has no id; what
fails is rolled back, and no key is ever in the way. A revocation takes its triple away and answers
with the number of rows, one or none. A project that is to be marked is marked with the one reading
of the clock, whether or not anything has changed. All other triples, rows and marks stay. -/
theorem grants_refine_set {s : Session} (hs : s.Reachable) {role : String}
    (hrole : Text.isBlank role = false) (scope : Scope) :
    (∀ c principal marking, GrantCall.Inserts c principal role scope marking →
      (principal = .user none ∧ s.serve (.grants c) =
        (.error (.store (.missingValue "user_roles.user_id")), s.rollback)) ∨
      ∃ g, principal.grant? (some role) scope.projectId = some g ∧
        ((s.working.knows g = false ∧
          s.serve (.grants c) = (.error (.store .missingParent), s.rollback)) ∨
        s.working.knows g = true ∧ ∃ t,
          s.serve (.grants c) = (.ok (.flag (decide (g ∉ s.working.grants))), t) ∧
          s.Regranted (fun g' => g' ∈ s.working.grants ∨ g' = g)
            (if marking then scope.projectId else none) t)) ∧
    (∀ c principal, GrantCall.Removes c principal role scope →
      ∃ n t, s.serve (.grants c) = (.ok (.count n), t) ∧
        (n = if principal.grant? (some role) scope.projectId ∈ s.working.grants.map some
          then 1 else 0) ∧
        s.Regranted (fun g => g ∈ s.working.grants ∧
          some g ≠ principal.grant? (some role) scope.projectId) scope.projectId t) := by
  have hsound := hs.sound.1
  have hnodup := hsound.nodup_grants
  refine ⟨?_, ?_⟩
  · intro c principal marking hc
    rw [Session.serve_grants, hc.run hrole s, hsound.checkedTriple_eq hrole]
    cases hholder : principal.holder? with
    | none => exact .inl ⟨hc.eq_user_none hholder, rfl⟩
    | some holder =>
      have hg : principal.grant? (some role) scope.projectId =
          some ⟨holder, scope.projectId, role⟩ := by
        rw [Principal.grant?, hholder]
        rfl
      refine .inr ⟨_, hg, ?_⟩
      dsimp only
      cases hknows : s.working.knows ⟨holder, scope.projectId, role⟩ with
      | false => exact .inl ⟨rfl, rfl⟩
      | true =>
        refine .inr ⟨rfl, _, rfl, ?_⟩
        have hmarked : (if marking then scope.projectId else none) =
            (if marking then scope else Scope.global).projectId := by
          cases marking <;> rfl
        rw [hmarked]
        exact Session.regranted_mark (fun _ => Store.mem_grants_insertGrant)
          (Store.nodup_grants_insertGrant hnodup _) rfl _
  · intro c principal hc
    rw [Session.serve_grants, hc.run s]
    refine ⟨_, _, rfl, ?_, ?_⟩
    · cases principal.grant? (some role) scope.projectId with
      | none => simp
      | some g => simp [Store.countGrant_some hnodup g]
    · refine Session.regranted_mark (fun _ => Store.mem_grants_removeGrant) ?_ rfl scope
      rw [Store.grants_removeGrant]
      exact hnodup.filter _

/-- A role that a user holds on a project is another triple than that of Anyone: this one can be
granted, and there is none to be revoked before. -/
theorem sample_grant_set :
    (∃ t, Session.sample.serve
        (.grants (.grantToGroup .anyone (some "admin") (.project (some "p")) true)) =
          (.ok (.flag true), t) ∧
      ∀ g, g ∈ t.working.grants ↔
        g ∈ Session.sample.working.grants ∨ g = ⟨.anyone, some "p", "admin"⟩) ∧
    ∃ t, Session.sample.serve
        (.grants (.revokeFromGroup .anyone (some "admin") (.project (some "p")))) =
          (.ok (.count 0), t) ∧ ⟨.user "u", some "p", "admin"⟩ ∈ t.working.grants := by
  have hs : Session.sample.Reachable := ⟨sampleCalls, fun _ _ => trivial, rfl⟩
  have hrole : Text.isBlank "admin" = false := by decide +kernel
  have hheld : ⟨.user "u", some "p", "admin"⟩ ∈ Session.sample.working.grants := by
    decide +kernel
  have hnew : ⟨.anyone, some "p", "admin"⟩ ∉ Session.sample.working.grants := by decide +kernel
  have hknows : Session.sample.working.knows ⟨.anyone, some "p", "admin"⟩ = true := by
    decide +kernel
  obtain ⟨hinsert, hremove⟩ := grants_refine_set hs hrole (.project (some "p"))
  refine ⟨?_, ?_⟩
  · obtain ⟨hnone, -⟩ | ⟨g, hg, ⟨hdangling, -⟩ | ⟨-, t, hserve, ht⟩⟩ :=
      hinsert _ _ true .anyone
    · cases hnone
    · obtain rfl : ⟨.anyone, some "p", "admin"⟩ = g := Option.some.inj hg
      cases hknows.symm.trans hdangling
    · obtain rfl : ⟨.anyone, some "p", "admin"⟩ = g := Option.some.inj hg
      exact ⟨t, by rw [hserve, decide_eq_true hnew], ht.mem_grants⟩
  · obtain ⟨n, t, hserve, rfl, ht⟩ := hremove _ _ .anyone
    have hnone : (Principal.anyone).grant? (some "admin") (Scope.project (some "p")).projectId ∉
        Session.sample.working.grants.map some := by
      decide +kernel
    rw [if_neg hnone] at hserve
    exact ⟨t, hserve, (ht.mem_grants _).2 ⟨hheld, by decide⟩⟩

end RoleGrants
