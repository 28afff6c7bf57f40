import RoleGrants.Call
import RoleGrants.Proofs.PlannedWrites

/-!
# How an application ends

An application, of a stored template or of a snapshot at hand, ends in one of three ways: refused
before its first write with the session as it was, committed, or with everything rolled back to what
was committed before it. `application_all_or_nothing` tells which, for every session, whatever the
caller has pending in it, and for every point at which a failure can strike.

`Strikes` is what ends an application between its first write and its commit. It does not look at
the rollback: it names the entry at which the writing of the plan stops, with what has been
written before it, or else the mark or the commit. `carryOut_eq_error_iff` says that it is neither
more nor less than a failing attempt. The attempt itself has committed nothing by then
(`committed_of_carryOut`), so the rollback that follows ends where the application began, less
what was pending.

How the failure is told depends on its kind alone (`Failure.ToldAs`).
-/

open RoleGrants.Action

namespace RoleGrants

/-- A failure as an application reports it: one of the store becomes a refusal that carries it,
every other one stays what it is. -/
def Failure.reported (template : Option String) (project : String) : Failure → Failure
  | .store e => .refused (.notApplied template project e)
  | f => f

/-- The event that goes with the report. -/
def Failure.applicationEvent (template : Option String) (project : String) : Failure → Event
  | .store _ => .applicationFailed template project
  | _ => .applicationAborted template project

theorem abandon_run (template : Option String) (project : String) (f : Failure) (s : Session) :
    abandon template project f s =
      .error (f.reported template project)
        { s.rollback with log := s.log ++ [f.applicationEvent template project] } := by
  cases f <;> rfl

section Application

variable {faults : Faults}

theorem carryOut_run (plan : List (Principal × Option String)) (project : String) (s : Session) :
    carryOut faults plan project s =
      match writeGrants faults (.project (some project)) 0 plan s with
      | .error f t => .error f t
      | .ok n t =>
        match faults.atRefresh, faults.atCommit with
        | some f, _ => .error f t
        | none, some f => .error f (t.mark (.project (some project)))
        | none, none => .ok n (t.mark (.project (some project))).commit := by
  unfold carryOut
  rw [bind_run]
  cases writeGrants faults (.project (some project)) 0 plan s with
  | error f t => rfl
  | ok n t =>
    cases faults.atRefresh with
    | some f => rfl
    | none =>
      simp only [strike, pure_run, bind_run, refreshGrants_run]
      cases faults.atCommit <;> rfl

theorem applySnapshot_run (t : Snapshot) (project creator : Option String) (s : Session) :
    applySnapshot faults t project creator s =
      match s.working.project? project with
      | none => .error (.refused (.noProject project)) s
      | some p =>
        match carryOut faults (t.plan creator) p.id s with
        | .ok n u =>
          .ok t { u with log := u.log ++ [.templateApplied t.id p.id n creator.isSome] }
        | .error f u =>
          .error (f.reported t.id p.id)
            { u.rollback with log := u.log ++ [f.applicationEvent t.id p.id] } := by
  unfold applySnapshot
  -- the project is looked up outside of what is rolled back
  rw [bind_run, reading_run]
  cases s.working.project? project with
  | none => rfl
  | some p =>
    simp only [bind_run, tryCatch_run]
    cases carryOut faults (t.plan creator) p.id s with
    | ok n u => rfl
    | error f u => simp only [abandon_run]

/-- An application that fails between its first write and its commit has committed nothing. -/
theorem committed_of_carryOut {plan : List (Principal × Option String)} {project : String}
    {s t : Session} {f : Failure} (h : carryOut faults plan project s = .error f t) :
    t.committed = s.committed := by
  rw [carryOut_run] at h
  split at h
  · next hwrites =>
    cases h
    exact (writeGrants_eq_error hwrites).2
  · next n u hwrites =>
    -- the writes and the mark change the rows seen; the commit alone touches the others
    obtain ⟨-, rfl⟩ := writeGrants_eq_ok hwrites
    split at h <;> cases h <;> rfl

/-! ### What can strike -/

/-- **What ends an application between its first write and its commit.** A failure strikes from
outside, at the write of an entry after the entries before it have been written, at the mark or at
the commit; or the write of an entry fails by itself. -/
inductive Strikes (faults : Faults) (project : String) (plan : List (Principal × Option String))
    (s : Session) : Failure → Prop where
  | atWrite {before rest : List (Principal × Option String)} {w : Principal × Option String}
      {n : Nat} {t : Session} {f : Failure} (hplan : plan = before ++ w :: rest)
      (hbefore : writeGrants faults (.project (some project)) 0 before s = .ok n t)
      (hfault : faults.atWrite before.length = some f) : Strikes faults project plan s f
  | inWrite {before rest : List (Principal × Option String)} {w : Principal × Option String}
      {n : Nat} {t u : Session} {f : Failure} (hplan : plan = before ++ w :: rest)
      (hbefore : writeGrants faults (.project (some project)) 0 before s = .ok n t)
      (hfault : faults.atWrite before.length = none)
      (hwrite : grantTo w.1 w.2 (.project (some project)) t = .error f u) :
      Strikes faults project plan s f
  | atRefresh {n : Nat} {t : Session} {f : Failure}
      (hplan : writeGrants faults (.project (some project)) 0 plan s = .ok n t)
      (hfault : faults.atRefresh = some f) : Strikes faults project plan s f
  | atCommit {n : Nat} {t : Session} {f : Failure}
      (hplan : writeGrants faults (.project (some project)) 0 plan s = .ok n t)
      (hrefresh : faults.atRefresh = none) (hfault : faults.atCommit = some f) :
      Strikes faults project plan s f

/-- Writing a plan is writing its beginning and then the rest. -/
theorem writeGrants_append {scope : Scope} (before after : List (Principal × Option String))
    (start : Nat) (s : Session) :
    writeGrants faults scope start (before ++ after) s =
      match writeGrants faults scope start before s with
      | .error f t => .error f t
      | .ok n t =>
        match writeGrants faults scope (start + before.length) after t with
        | .error f u => .error f u
        | .ok m u => .ok (n + m) u := by
  induction before generalizing start s with
  | nil =>
    simp only [List.nil_append, List.length_nil, Nat.add_zero, writeGrants, pure_run]
    cases writeGrants faults scope start after s <;> simp
  | cons w before ih =>
    rw [List.cons_append, writeGrants_cons, writeGrants_cons]
    cases faults.atWrite start with
    | some f => rfl
    | none =>
      cases s.working.grantable w.1 w.2 scope.projectId with
      | error f => rfl
      | ok g =>
        -- the count of writes made goes on where the beginning ends
        have hlength : start + (w :: before).length = start + 1 + before.length := by
          rw [List.length_cons, Nat.add_comm before.length, Nat.add_assoc]
        simp only [ih, hlength]
        cases writeGrants faults scope (start + 1) before (s.insertGrant g) with
        | error f t => rfl
        | ok n t =>
          cases hafter : writeGrants faults scope (start + 1 + before.length) after t with
          | error f u => simp only [hafter]
          | ok m u =>
            simp only [hafter]
            rw [Nat.add_assoc]

/-- A plan that does not go through stops at the write of one of its entries, after the entries
before it have been written. -/
theorem exists_stop_of_writeGrants {scope : Scope} {plan : List (Principal × Option String)}
    {start : Nat} {s t : Session} {f : Failure}
    (h : writeGrants faults scope start plan s = .error f t) :
    ∃ before w rest n u, plan = before ++ w :: rest ∧
      writeGrants faults scope start before s = .ok n u ∧
      (faults.atWrite (start + before.length) = some f ∨
        faults.atWrite (start + before.length) = none ∧
          ∃ v, grantTo w.1 w.2 scope u = .error f v) := by
  induction plan generalizing start s with
  | nil => cases h
  | cons w rest ih =>
    rcases writeGrants_cons_eq_error h with
      ⟨hstart, rfl⟩ | ⟨hstart, ⟨hg, rfl⟩ | ⟨g, hg, hrest⟩⟩
    · exact ⟨[], w, rest, 0, t, rfl, rfl, .inl hstart⟩
    · exact ⟨[], w, rest, 0, t, rfl, rfl, .inr ⟨hstart, t, by rw [grantTo_run, hg]⟩⟩
    · -- the writing stops in the rest, and the first entry joins those before the stop
      obtain ⟨before, w', rest', n, v, rfl, hbefore, hstop⟩ := ih hrest
      have hlength : start + (w :: before).length = start + 1 + before.length := by
        rw [List.length_cons, Nat.add_comm before.length, Nat.add_assoc]
      have hjoined : writeGrants faults scope start (w :: before) s =
          .ok ((decide (g ∉ s.working.grants)).toNat + n) v := by
        rw [writeGrants_cons, hstart, hg]
        simp only [hbefore]
      refine ⟨w :: before, w', rest', _, v, rfl, hjoined, ?_⟩
      rw [hlength]
      exact hstop

/-- An application fails between its first write and its commit exactly when something strikes, and
with what strikes. -/
theorem carryOut_eq_error_iff {plan : List (Principal × Option String)} {project : String}
    {s : Session} {f : Failure} :
    (∃ t, carryOut faults plan project s = .error f t) ↔ Strikes faults project plan s f := by
  constructor
  · -- an attempt that failed is read from its beginning
    rintro ⟨t, h⟩
    rw [carryOut_run] at h
    split at h
    · next hwrites =>
      cases h
      obtain ⟨before, w, rest, n, u, hplan, hbefore, hstop⟩ := exists_stop_of_writeGrants hwrites
      rw [Nat.zero_add] at hstop
      rcases hstop with hfault | ⟨hfault, v, hwrite⟩
      · exact .atWrite hplan hbefore hfault
      · exact .inWrite hplan hbefore hfault hwrite
    · next n u hwrites =>
      split at h
      · next hfault =>
        cases h
        exact .atRefresh hwrites hfault
      · next hrefresh hfault =>
        cases h
        exact .atCommit hwrites hrefresh hfault
      · cases h
  · -- the attempt is run up to where it is struck
    intro h
    cases h with
    | atWrite hplan hbefore hfault =>
      rw [carryOut_run, hplan, writeGrants_append, hbefore]
      simp only [writeGrants_cons, Nat.zero_add, hfault]
      exact ⟨_, rfl⟩
    | @inWrite before rest w n t u f hplan hbefore hfault hwrite =>
      have hg : t.working.grantable w.1 w.2 (Scope.project (some project)).projectId =
          .error f := by
        rw [grantTo_run] at hwrite
        split at hwrite
        · cases hwrite
        · next hg =>
          cases hwrite
          exact hg
      rw [carryOut_run, hplan, writeGrants_append, hbefore]
      simp only [writeGrants_cons, Nat.zero_add, hfault, hg]
      exact ⟨_, rfl⟩
    | atRefresh hplan hfault =>
      rw [carryOut_run, hplan]
      simp only [hfault]
      exact ⟨_, rfl⟩
    | atCommit hplan hrefresh hfault =>
      rw [carryOut_run, hplan]
      simp only [hrefresh, hfault]
      exact ⟨_, rfl⟩

end Application

/-! ### Stored templates and snapshots at hand -/

/-- What is applied: a stored template by its id, or a snapshot that the caller has at hand. -/
inductive TemplateSource where
  | stored (id : Option String)
  | atHand (t : Snapshot)

namespace TemplateSource

/-- The snapshot that is applied, read off the rows where a template is stored. -/
def resolve (s : Store) : TemplateSource → Except Refusal Snapshot
  | .stored id => (s.findTemplate id none none).map s.snapshot
  | .atHand t => .ok t

/-- Applies what is meant to a project on behalf of a creator. -/
def apply (faults : Faults) (project creator : Option String) : TemplateSource → Action Snapshot
  | .stored id => applyTemplate faults id project creator
  | .atHand t => applySnapshot faults t project creator

theorem apply_run (faults : Faults) (source : TemplateSource) (project creator : Option String)
    (s : Session) :
    source.apply faults project creator s =
      match source.resolve s.working with
      | .error r => .error (.refused r) s
      | .ok t => applySnapshot faults t project creator s := by
  cases source with
  | atHand t => rfl
  | stored id =>
    simp only [apply, applyTemplate, resolveTemplate, requireTemplate, resolve, bind_run,
      reading_run]
    cases s.working.findTemplate id none none <;> rfl

end TemplateSource

/-- Both the rows that are seen and the rows that are committed are those committed before. -/
def Session.RollsBackTo (s t : Session) : Prop :=
  t.working = s.committed ∧ t.committed = s.committed

/-- How a failure is told by an application. A failure of the store is told as a refusal of the
storage class that carries it, any other failure as it is. -/
def Failure.ToldAs (f e : Failure) : Prop :=
  match f with
  | .store c => ∃ r, e = .refused r ∧ r.kind = .storage ∧ r.kind.status = 503 ∧ r.cause = some c
  | f => e = f

theorem Failure.toldAs_reported (template : Option String) (project : String) (f : Failure) :
    f.ToldAs (f.reported template project) := by
  cases f with
  | store c => exact ⟨_, rfl, rfl, rfl, rfl⟩
  | refused r => rfl
  | misused m => rfl
  | fault message => rfl

/-- A failure that strikes ends the application with everything rolled back. -/
theorem applySnapshot_of_strikes {faults : Faults} {t : Snapshot} {project creator : Option String}
    {p : Project} {s : Session} {f : Failure} (hp : s.working.project? project = some p)
    (h : Strikes faults p.id (t.plan creator) s f) :
    ∃ e u, applySnapshot faults t project creator s = .error e u ∧ s.RollsBackTo u ∧
      f.ToldAs e := by
  obtain ⟨u, hu⟩ := carryOut_eq_error_iff.2 h
  have hcommitted : u.committed = s.committed := committed_of_carryOut hu
  rw [applySnapshot_run, hp]
  simp only [hu]
  exact ⟨_, _, rfl, ⟨hcommitted, hcommitted⟩, f.toldAs_reported t.id p.id⟩

/-- An application that fails was refused before its first write, or something struck. -/
theorem applySnapshot_eq_error {faults : Faults} {t : Snapshot} {project creator : Option String}
    {s u : Session} {e : Failure} (h : applySnapshot faults t project creator s = .error e u) :
    (s.working.project? project = none ∧ e = .refused (.noProject project) ∧ u = s) ∨
      ∃ p f, s.working.project? project = some p ∧ Strikes faults p.id (t.plan creator) s f ∧
        f.ToldAs e ∧ s.RollsBackTo u := by
  rw [applySnapshot_run] at h
  cases hp : s.working.project? project with
  | none =>
    rw [hp] at h
    cases h
    exact .inl ⟨rfl, rfl, rfl⟩
  | some p =>
    simp only [hp] at h
    cases hcarry : carryOut faults (t.plan creator) p.id s with
    | ok n v => rw [hcarry] at h; cases h
    | error f v =>
      rw [hcarry] at h
      cases h
      have hcommitted : v.committed = s.committed := committed_of_carryOut hcarry
      exact .inr ⟨p, f, rfl, carryOut_eq_error_iff.1 ⟨v, hcarry⟩, f.toldAs_reported t.id p.id,
        hcommitted, hcommitted⟩

/-- An entry that cannot be granted is enough for something to strike. -/
theorem exists_strikes_of_grantable_eq_error (faults : Faults) {project : String}
    {plan : List (Principal × Option String)} {s : Session} {w : Principal × Option String}
    {f : Failure} (hw : w ∈ plan)
    (h : s.working.grantable w.1 w.2 (some project) = .error f) :
    ∃ f', Strikes faults project plan s f' := by
  cases hcarry : carryOut faults plan project s with
  | error f' t => exact ⟨f', carryOut_eq_error_iff.1 ⟨t, hcarry⟩⟩
  | ok n t =>
    rw [carryOut_run] at hcarry
    cases hwrites : writeGrants faults (.project (some project)) 0 plan s with
    | error f' u => rw [hwrites] at hcarry; cases hcarry
    | ok m u =>
      obtain ⟨g, hg⟩ := (canGrant_of_writeGrants hwrites).2 w hw
      have hgrant : s.working.grantable w.1 w.2 (some project) = .ok g := hg
      rw [hgrant] at h
      cases h

/-- **An application is all or nothing.** Where something strikes, and so in particular where an
entry cannot be granted, it fails, the failure is told by its kind, and what is seen and what is
committed are the rows committed before. A missing template, a missing project and a template
without an id are told before anything is done, and the session stays as it is, with all that was
pending. No other failure is possible. -/
theorem application_all_or_nothing (faults : Faults) (source : TemplateSource)
    (project creator : Option String) (s : Session) :
    (∀ t p f, source.resolve s.working = .ok t → s.working.project? project = some p →
      Strikes faults p.id (t.plan creator) s f →
        ∃ e u, source.apply faults project creator s = .error e u ∧ s.RollsBackTo u ∧
          f.ToldAs e) ∧
    (∀ t p w f, source.resolve s.working = .ok t → s.working.project? project = some p →
      w ∈ t.plan creator → s.working.grantable w.1 w.2 (some p.id) = .error f →
        ∃ f' e u, Strikes faults p.id (t.plan creator) s f' ∧
          source.apply faults project creator s = .error e u ∧ s.RollsBackTo u ∧ f'.ToldAs e) ∧
    (source = .stored none →
      ∃ r, source.apply faults project creator s = .error (.refused r) s ∧ r.kind = .invalid) ∧
    (∀ id, source = .stored (some id) → s.working.template? (some id) = none →
      source.apply faults project creator s = .error (.refused (.noTemplateWithId id)) s ∧
        (Refusal.noTemplateWithId id).kind = .notFound) ∧
    (∀ t, source.resolve s.working = .ok t → s.working.project? project = none →
      source.apply faults project creator s = .error (.refused (.noProject project)) s ∧
        (Refusal.noProject project).kind = .notFound) ∧
    (∀ e u, source.apply faults project creator s = .error e u →
      (∃ r, source.resolve s.working = .error r ∧ e = .refused r ∧ u = s) ∨
      (∃ t, source.resolve s.working = .ok t ∧ s.working.project? project = none ∧
        e = .refused (.noProject project) ∧ u = s) ∨
      ∃ t p f, source.resolve s.working = .ok t ∧ s.working.project? project = some p ∧
        Strikes faults p.id (t.plan creator) s f ∧ f.ToldAs e ∧ s.RollsBackTo u) := by
  rw [TemplateSource.apply_run]
  refine ⟨?_, ?_, ?_, ?_, ?_, ?_⟩
  · -- something strikes
    intro t p f ht hp hstrikes
    rw [ht]
    exact applySnapshot_of_strikes hp hstrikes
  · -- an entry cannot be granted, and so something strikes, there or before it
    intro t p w f ht hp hw hf
    obtain ⟨f', hstrikes⟩ := exists_strikes_of_grantable_eq_error faults hw hf
    obtain ⟨e, u, happly, hback, htold⟩ := applySnapshot_of_strikes hp hstrikes
    rw [ht]
    exact ⟨f', e, u, hstrikes, happly, hback, htold⟩
  · -- no id
    rintro rfl
    exact ⟨.ambiguousTemplateReference, rfl, rfl⟩
  · -- no template
    rintro id rfl hid
    simp only [TemplateSource.resolve, Store.findTemplate, hid]
    exact ⟨rfl, rfl⟩
  · -- no project
    intro t ht hp
    rw [ht]
    exact ⟨by simp only [applySnapshot_run, hp], rfl⟩
  · -- there is no other way to fail
    intro e u h
    cases ht : source.resolve s.working with
    | error r =>
      rw [ht] at h
      cases h
      exact .inl ⟨r, rfl, rfl, rfl⟩
    | ok t =>
      rw [ht] at h
      rcases applySnapshot_eq_error h with ⟨hp, he, hu⟩ | ⟨p, f, hp, hstrikes, htold, hback⟩
      · exact .inr (.inl ⟨t, rfl, hp, he, hu⟩)
      · exact .inr (.inr ⟨t, p, f, rfl, hp, hstrikes, htold, hback⟩)

/-! ### A session with something pending -/

/-- Calls that set up two projects and a template with an entry of each kind, and leave a grant on
the first project pending. -/
def sampleCalls : List Call := [
  .change (.addOrganization "o" (some "main") (some "Main")),
  .change (.addUser "u" (some "ann") none),
  .change (.addGroup "g" (some "o") (some "devs")),
  .change (.addMember (some "u") (some "g")),
  .change (.addProject "p" (some "shop") (some "o") none),
  .change (.addProject "q" (some "lab") none none),
  .templates (.create "t" (some "o") (some "default") none),
  .templates (.addGroup (some "t") (.group (some "g")) (some "scan")),
  .templates (.addGroup (some "t") .anyone (some "browse")),
  .templates (.addUser (some "t") (some "u") (some "admin")),
  .templates (.setCharacteristic (some "t") (some "admin") (some true)),
  .grants (.grant (.user (some "u")) (some "admin") (.project (some "p")))]

/-- The session after these calls. -/
def Session.sample : Session := serveAll {} sampleCalls

/-- The template of the sample with its entries. -/
def sampleSnapshot : Snapshot :=
  Session.sample.working.snapshot ⟨"t", some "o", "default", none⟩

/-- A store that stops answering at the second write takes the pending grant away as well. -/
theorem sample_rolled_back :
    Session.sample.working ≠ Session.sample.committed ∧
      ∃ e u, TemplateSource.apply (.afterWrites 1 (.store (.unavailable "disk full"))) (some "p")
          (some "u") (.stored (some "t")) Session.sample = .error e u ∧
        Session.sample.RollsBackTo u ∧ (Failure.store (.unavailable "disk full")).ToldAs e := by
  have hpending : Session.sample.working ≠ Session.sample.committed := by decide +kernel
  refine ⟨hpending, ?_⟩
  refine (application_all_or_nothing _ _ _ _ _).1 _ ⟨"p", "shop", "TRK", some "o", none⟩ _ rfl
    rfl ?_
  -- the entry of the group is written, and the store fails at that of Anyone
  exact @Strikes.atWrite _ _ _ _ [(.group (some "g"), some "scan")] _ _ _ _ _ rfl rfl rfl

end RoleGrants
