import RoleGrants.Proofs.GrantSet
import RoleGrants.Proofs.MarkedGrants

/-!
# Who marks what changes

A project is to be marked by whatever changes its grants. Of granting and revoking, called one at a
time, this holds for every call but those that leave the mark out, and for one more that does not:
revoking all that a group holds takes grants away on any number of projects and marks none of them
(`changed_grants_are_marked`, `revocation_of_group_unmarked`).

For the calls that mark the reason is `GrantCall.regrants`: the grants change on one scope and the
mark goes there. What is left to be seen is that the project is there to be marked. It is, because
a grant on it is held before the call or after it, and whatever is held is held on a stored project
(`Store.Sound.exists_project?`).
-/

open RoleGrants.Action

namespace RoleGrants

/-- The mark on a project that is there is the new reading of the clock. -/
theorem Session.markOf?_mark {s : Session} {scope : Scope} {project : String} {p : Project}
    (hscope : scope.projectId = some project) (hp : s.working.project? (some project) = some p) :
    (s.mark scope).working.markOf? project = some (some (s.clock + 1)) ∧
      (s.mark scope).clock = s.clock + 1 := by
  obtain ⟨-, hid⟩ := Store.mem_of_project? hp
  have hid : p.id = project := (Option.some.inj hid).symm
  unfold mark
  rw [hscope]
  refine ⟨?_, rfl⟩
  rw [Store.markOf?, Store.project?_refresh, hp, Option.map_some, Option.map_some,
    if_pos (beq_iff_eq.2 hid)]

/-- The mark touches no grants. -/
theorem Session.sameOn_mark (s : Session) (scope : Scope) (project : String) :
    Store.SameOn project s.working (s.mark scope).working := by
  rw [working_mark]
  exact .refl project s.working

/-- The mark brings no project along. -/
theorem Session.exists_project?_of_mark {s : Session} {scope : Scope} {project : String}
    {p : Project} (hp : (s.mark scope).working.project? (some project) = some p) :
    ∃ q, s.working.project? (some project) = some q := by
  unfold mark at hp
  cases hscope : scope.projectId with
  | none =>
    rw [hscope] at hp
    exact ⟨p, hp⟩
  | some marked =>
    simp only [hscope, Store.project?_refresh] at hp
    obtain ⟨q, hq, -⟩ := Option.map_eq_some_iff.1 hp
    exact ⟨q, hq⟩

/-- Where the grants on a project differ, one of the two stores holds something there. -/
theorem Store.exists_grant_of_not_sameOn {project : String} {s t : Store}
    (h : ¬ SameOn project s t) :
    ∃ g : Grant, g.project = some project ∧ (g ∈ s.grants ∨ g ∈ t.grants) := by
  by_contra hnone
  refine h fun g hg => ?_
  have hs : g ∉ s.grants := fun hmem => hnone ⟨g, hg, .inl hmem⟩
  have ht : g ∉ t.grants := fun hmem => hnone ⟨g, hg, .inr hmem⟩
  exact iff_of_false hs ht

/-- A call that marks has marked the project on which the grants have changed. -/
theorem Action.Regrants.marks_changed {α : Type} {x : Action α} {s : Session}
    (h : Regrants x s) (hs : s.working.Sound) (ht : (x.after s).working.Sound) {project : String}
    (hchanged : ¬ Store.SameOn project s.working (x.after s).working) :
    (x.after s).working.markOf? project = some (some (s.clock + 1)) ∧
      (x.after s).clock = s.clock + 1 := by
  unfold after at ht hchanged ⊢
  cases h with
  | failed hrun =>
    rw [hrun] at hchanged
    exact absurd (.refl project s.working) hchanged
  | @marked a scope store hrun hprojects hsame =>
    rw [hrun] at ht hchanged ⊢
    -- elsewhere than on the scope the grants are the same
    have hscope : scope.projectId = some project := by
      by_contra hother
      refine hchanged ?_
      exact (hsame project (Ne.symm hother)).trans
        (Session.sameOn_mark { s with working := store } scope project)
    obtain ⟨g, hg, hheld⟩ := Store.exists_grant_of_not_sameOn hchanged
    have hthere : ∃ p, store.project? (some project) = some p := by
      rcases hheld with hbefore | hafter
      · obtain ⟨p, hp⟩ := hs.exists_project? hbefore hg
        refine ⟨p, ?_⟩
        rw [Store.project?, hprojects]
        exact hp
      · obtain ⟨p, hp⟩ := ht.exists_project? hafter hg
        exact Session.exists_project?_of_mark hp
    obtain ⟨p, hp⟩ := hthere
    exact Session.markOf?_mark (s := { s with working := store }) hscope hp

/-- **What changes is marked, but for the grants of a whole group.** A call that marks leaves every
project whose grants it has changed with a reading of the clock taken during the call. Revoking all
that a group holds takes its grants away wherever they are, and no project gets a mark. -/
theorem changed_grants_are_marked {s : Session} (hs : s.Reachable) :
    (∀ c : GrantCall, c.marks = true → ∀ project,
      ¬ Store.SameOn project s.working (c.run.after s).working →
        ∃ reading, (c.run.after s).working.markOf? project = some (some reading) ∧
          s.clock < reading ∧ reading ≤ (c.run.after s).clock) ∧
    ∀ group, ∃ n t, s.serve (.grants (.revokeAllOfGroup group)) = (.ok (.count n), t) ∧
      (∀ g, g ∈ t.working.grants ↔ g ∈ s.working.grants ∧ g.holder ≠ .ofGroup group) ∧
      (∀ project, t.working.markOf? project = s.working.markOf? project) ∧
      t.clock = s.clock := by
  refine ⟨?_, ?_⟩
  · intro c hc project hchanged
    have hafter : (c.run.after s).working.Sound := (Session.Steps.sound (c.run_moves s) hs.sound).1
    obtain ⟨hmark, hclock⟩ := (c.regrants hc s).marks_changed hs.sound.1 hafter hchanged
    exact ⟨s.clock + 1, hmark, Nat.lt_succ_self _, Nat.le_of_eq hclock.symm⟩
  · intro group
    have hrun := revokeAllOfGroup_run group s
    have hserve : s.serve (.grants (.revokeAllOfGroup group)) =
        (.ok (.count (s.working.groupGrants.countP (·.group == group))),
          { s with working := s.working.dropGroupGrants (·.group == group) }) := by
      rw [Session.serve_grants, GrantCall.run, map_run, hrun]
    exact ⟨_, _, hserve, fun _ => Store.mem_grants_dropGroupGrants, fun _ => rfl, rfl⟩

/-- A pending grant that is revoked marks its project, which had no mark before. -/
theorem sample_marked :
    ¬ Store.SameOn "p" Session.sample.working
        ((GrantCall.revokeFromUser (some "u") (some "admin") (.project (some "p"))).run.after
          Session.sample).working ∧
      ∃ reading,
        ((GrantCall.revokeFromUser (some "u") (some "admin") (.project (some "p"))).run.after
          Session.sample).working.markOf? "p" = some (some reading) ∧
        Session.sample.clock < reading := by
  have hs : Session.sample.Reachable := ⟨sampleCalls, fun _ _ => trivial, rfl⟩
  have hchanged : ¬ Store.SameOn "p" Session.sample.working
      ((GrantCall.revokeFromUser (some "u") (some "admin") (.project (some "p"))).run.after
        Session.sample).working := by
    intro hsame
    have hheld : ⟨.user "u", some "p", "admin"⟩ ∈ Session.sample.working.grants := by
      decide +kernel
    have hgone := (hsame _ rfl).1 hheld
    revert hgone
    decide +kernel
  obtain ⟨reading, hmark, hnew, -⟩ := (changed_grants_are_marked hs).1 _ rfl "p" hchanged
  exact ⟨hchanged, reading, hmark, hnew⟩

/-- Calls that grant a role to the group of the sample on a project and commit it. -/
def grantedGroupCalls : List Call := sampleCalls ++ [
  .grants (.grantToGroup (.group (some "g")) (some "scan") (.project (some "p")) true),
  .commit]

/-- Revoking all that the group holds changes the grants on the project, whose mark is still the
reading of the clock at which the role was granted. -/
theorem revocation_of_group_unmarked :
    ∃ s : Session, s.Reachable ∧
      ¬ Store.SameOn "p" s.working
        ((GrantCall.revokeAllOfGroup (some "g")).run.after s).working ∧
      ¬ ∃ reading, ((GrantCall.revokeAllOfGroup (some "g")).run.after s).working.markOf? "p" =
          some (some reading) ∧ s.clock < reading := by
  refine ⟨Session.serveAll {} grantedGroupCalls, ⟨_, fun _ _ => trivial, rfl⟩, ?_, ?_⟩
  · intro hsame
    have hheld : ⟨.group "g", some "p", "scan"⟩ ∈
        (Session.serveAll {} grantedGroupCalls).working.grants := by
      decide +kernel
    have hgone := (hsame _ rfl).1 hheld
    revert hgone
    decide +kernel
  · rintro ⟨reading, hmark, hnew⟩
    have hold : ((GrantCall.revokeAllOfGroup (some "g")).run.after
        (Session.serveAll {} grantedGroupCalls)).working.markOf? "p" = some (some 1) := by
      decide +kernel
    have hclock : (Session.serveAll {} grantedGroupCalls).clock = 1 := by decide +kernel
    rw [hold] at hmark
    cases hmark
    rw [hclock] at hnew
    exact Nat.lt_irrefl 1 hnew

end RoleGrants
