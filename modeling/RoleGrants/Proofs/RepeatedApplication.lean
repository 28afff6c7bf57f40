import RoleGrants.Proofs.ApplicableSnapshot
import RoleGrants.Proofs.KeptGrant

/-!
# Applications one after another

Applications only add grants, and what one of them adds is a set that no other changes. So a list
of applications ends with the same grants in whatever order it is gone through, and however often
each of its members is (`applications_commute`).

Two facts about a single application carry this. What is held after it is what was held and its
own triples (`Application.mem_grants_of_run`); and it does not decide about the next one, which can
be carried out after it exactly when it could be before (`Application.succeeds_of_run`), since
neither the rows that are referred to nor what counts as held with them is changed.

The triples of an application stay as long as nothing is deleted (`Session.keeps_serveAll`). It has
committed them, so that not even a rollback takes them back, and when it is carried out again there
is nothing left for it to write.
-/

open RoleGrants.Action

namespace RoleGrants

/-! ### Storing what is held -/

namespace Store

/-- Storing triples that are held already is nothing. -/
theorem insertGrants_of_subset {s : Store} {gs : List Grant} (h : ∀ g ∈ gs, g ∈ s.grants) :
    s.insertGrants gs = s := by
  induction gs with
  | nil => rfl
  | cons g gs ih =>
    have hfirst : s.insertGrant g = s := insertGrant_of_mem (h g List.mem_cons_self)
    calc s.insertGrants (g :: gs)
        = (s.insertGrant g).insertGrants gs := rfl
      _ = s.insertGrants gs := by rw [hfirst]
      _ = s := ih fun g' hg' => h g' (List.mem_cons_of_mem g hg')

/-- None of them is new. -/
theorem newGrants_of_subset {s : Store} {gs : List Grant} (h : ∀ g ∈ gs, g ∈ s.grants) :
    s.newGrants gs = [] := by
  refine List.eq_nil_iff_forall_not_mem.2 fun g hg => ?_
  obtain ⟨hmem, hnew⟩ := mem_newGrants.1 hg
  exact hnew (h g hmem)

/-! ### What an application leaves to the next one -/

@[simp] theorem hasProject_withPlan (s : Store) (plan : List (Principal × Option String))
    (project : String) (reading : Nat) (id : String) :
    (s.withPlan plan project reading).hasProject id = s.hasProject id := by
  rw [withPlan, hasProject_refresh, hasProject, projects_insertGrants]
  rfl

/-- The rows that a triple refers to are the same after an application. -/
theorem knows_withPlan (s : Store) (plan : List (Principal × Option String)) (project : String)
    (reading : Nat) (g : Grant) :
    (s.withPlan plan project reading).knows g = s.knows g := by
  have hframe := s.agreeOff_withPlan plan project reading
  have huser : (s.withPlan plan project reading).hasUser = s.hasUser := by
    funext id
    rw [hasUser, hasUser, hframe.users]
  have hgroup : (s.withPlan plan project reading).hasGroup = s.hasGroup := by
    funext id
    rw [hasGroup, hasGroup, hframe.groups]
  have hproject : (s.withPlan plan project reading).hasProject = s.hasProject :=
    funext (s.hasProject_withPlan plan project reading)
  unfold knows
  rw [huser, hgroup, hproject]

/-- A grant comes to the same before and after an application whose entries could be granted. -/
theorem canGrant_withPlan {s : Store} {plan : List (Principal × Option String)} {project : String}
    (hplan : ∀ w ∈ plan, s.CanGrant (.project (some project)) w) (reading : Nat) (scope : Scope)
    (w : Principal × Option String) :
    (s.withPlan plan project reading).CanGrant scope w ↔ s.CanGrant scope w := by
  unfold CanGrant
  rw [grantable_congr fun g => ?_]
  rw [(s.grants_withPlan_perm plan project reading).mem_iff, List.mem_append, mem_newGrants,
    knows_withPlan]
  constructor
  · rintro ((hheld | ⟨hnew, -⟩) | hknows)
    · exact .inl hheld
    · -- a triple of the plan was held or refers to stored rows, or it could not be granted
      obtain ⟨w', hw', hg⟩ := List.mem_filterMap.1 hnew
      obtain ⟨g', hg'⟩ := hplan w' hw'
      obtain rfl : g' = g := Option.some.inj ((plannedGrant?_of_grantable hg').symm.trans hg)
      exact (grantable_eq_ok.1 hg').2
    · exact .inr hknows
  · rintro (hheld | hknows)
    · exact .inl (.inl hheld)
    · exact .inr hknows

end Store

/-! ### Applications as data -/

/-- A snapshot that is applied to a project on behalf of a creator. -/
structure Application where
  snapshot : Snapshot
  project : Option String
  creator : Option String
  deriving DecidableEq, Repr

namespace Application

/-- Carries an application out, with nothing striking from outside. -/
def run (a : Application) : Action Snapshot := applySnapshot .none a.snapshot a.project a.creator

/-- Carries applications out one after another. -/
def runAll : List Application → Action Unit
  | [] => pure ()
  | a :: rest => do
    let _ ← a.run
    runAll rest

/-- An application goes through in a session. -/
def Succeeds (a : Application) (s : Session) : Prop := ∃ t u, a.run s = .ok t u

/-- **The triples of an application.** -/
def Grants (a : Application) (g : Grant) : Prop :=
  ∃ project, a.project = some project ∧ a.snapshot.Grants a.creator project g

theorem succeeds_iff {a : Application} {s : Session} :
    a.Succeeds s ↔ ∃ id, a.project = some id ∧ s.working.hasProject id = true ∧
      ∀ w ∈ a.snapshot.plan a.creator, s.working.CanGrant (.project (some id)) w := by
  rw [Succeeds, run, applySnapshot_ok_iff]
  constructor
  · rintro ⟨id, hid, hthere, -, hplan⟩
    exact ⟨id, hid, hthere, hplan⟩
  · rintro ⟨id, hid, hthere, hplan⟩
    exact ⟨id, hid, hthere, Faults.spare_none _, hplan⟩

section Run

variable {a b : Application} {faults : Faults} {s u : Session} {t : Snapshot}

/-- What is held after an application is what was held, and its own triples. -/
theorem mem_grants_of_run
    (h : applySnapshot faults a.snapshot a.project a.creator s = .ok t u) {g : Grant} :
    g ∈ u.working.grants ↔ g ∈ s.working.grants ∨ a.Grants g := by
  obtain ⟨-, p, hp, rfl⟩ := applySnapshot_eq_ok h
  obtain ⟨-, hid⟩ := Store.mem_of_project? hp
  have hown : a.Grants g ↔ a.snapshot.Grants a.creator p.id g := by
    constructor
    · rintro ⟨project, hproject, hg⟩
      cases hid.symm.trans hproject
      exact hg
    · intro hg
      exact ⟨p.id, hid, hg⟩
  rw [hown]
  exact Store.mem_grants_withPlan

/-- An application does not decide about the next one. -/
theorem succeeds_of_run (h : b.run s = .ok t u) : a.Succeeds u ↔ a.Succeeds s := by
  obtain ⟨id, hid, -, -, hplan⟩ := applySnapshot_ok_iff.1 ⟨t, u, h⟩
  obtain ⟨-, p, hp, rfl⟩ := applySnapshot_eq_ok h
  obtain ⟨-, hpid⟩ := Store.mem_of_project? hp
  cases hid.symm.trans hpid
  rw [succeeds_iff, succeeds_iff]
  simp only [Store.hasProject_withPlan, Store.canGrant_withPlan hplan]

end Run

/-! ### Lists of applications -/

theorem runAll_cons (a : Application) (rest : List Application) (s : Session) :
    runAll (a :: rest) s = match a.run s with
      | .ok _ u => runAll rest u
      | .error e u => .error e u := by
  rw [runAll, bind_run]
  cases a.run s <;> rfl

/-- **A list goes through** exactly when each of its members does on its own. -/
theorem runAll_ok_iff {apps : List Application} {s : Session} :
    (∃ t, runAll apps s = .ok () t) ↔ ∀ a ∈ apps, a.Succeeds s := by
  induction apps generalizing s with
  | nil => exact ⟨fun _ a ha => (nomatch ha), fun _ => ⟨s, rfl⟩⟩
  | cons a rest ih =>
    rw [runAll_cons, List.forall_mem_cons]
    cases h : a.run s with
    | error e u =>
      have hfails : ¬ a.Succeeds s := by
        rintro ⟨t, v, hok⟩
        cases h.symm.trans hok
      exact ⟨fun ⟨_, hok⟩ => (nomatch hok), fun ⟨hfirst, _⟩ => absurd hfirst hfails⟩
    | ok t u =>
      -- the others are asked after the first one, and answer as they do before it
      have hrest : (∀ b ∈ rest, b.Succeeds u) ↔ ∀ b ∈ rest, b.Succeeds s := by
        simp only [succeeds_of_run h]
      have hfirst : a.Succeeds s := ⟨t, u, h⟩
      rw [and_iff_right hfirst, ← hrest]
      exact ih

/-- **What is held after a list** is what was held, and the triples of each member. -/
theorem mem_grants_runAll {apps : List Application} {s t : Session} (h : runAll apps s = .ok () t)
    {g : Grant} :
    g ∈ t.working.grants ↔ g ∈ s.working.grants ∨ ∃ a ∈ apps, a.Grants g := by
  induction apps generalizing s with
  | nil =>
    cases h
    simp
  | cons a rest ih =>
    rw [runAll_cons] at h
    cases hfirst : a.run s with
    | error e u => rw [hfirst] at h; cases h
    | ok x u =>
      rw [hfirst] at h
      rw [ih h, mem_grants_of_run hfirst, or_assoc]
      simp only [List.mem_cons, exists_eq_or_imp]

end Application

/-! ### The same application again -/

/-- An application whose triples are all held goes through and writes nothing. -/
theorem Application.run_of_held {a : Application} {s : Session} {id : String}
    (hid : a.project = some id) (hthere : s.working.hasProject id = true)
    (hplan : ∀ w ∈ a.snapshot.plan a.creator, ∃ g ∈ s.working.grants,
      s.working.grantable w.1 w.2 (some id) = .ok g) :
    ∃ u, a.run s = .ok a.snapshot u ∧
      u.working = s.working.refresh id (s.clock + 1) ∧
      u.log = s.log ++ [.templateApplied a.snapshot.id id 0 a.creator.isSome] := by
  have hheld : ∀ g ∈ plannedGrants (.project (some id)) (a.snapshot.plan a.creator),
      g ∈ s.working.grants := by
    intro g hg
    obtain ⟨w, hw, hwg⟩ := List.mem_filterMap.1 hg
    obtain ⟨g', hg', hgrantable⟩ := hplan w hw
    have hplanned : plannedGrant? (.project (some id)) w = some g' :=
      plannedGrant?_of_grantable hgrantable
    cases hplanned.symm.trans hwg
    exact hg'
  have hsucceeds : a.Succeeds s := by
    refine Application.succeeds_iff.2 ⟨id, hid, hthere, fun w hw => ?_⟩
    obtain ⟨g, -, hgrantable⟩ := hplan w hw
    exact ⟨g, hgrantable⟩
  obtain ⟨t, u, hrun⟩ := hsucceeds
  obtain ⟨rfl, p, hp, rfl⟩ := applySnapshot_eq_ok hrun
  obtain ⟨-, hpid⟩ := Store.mem_of_project? hp
  cases hid.symm.trans hpid
  refine ⟨_, hrun, ?_, ?_⟩
  · rw [Store.withPlan, Store.insertGrants_of_subset hheld]
  · rw [Store.newGrants_of_subset hheld]
    rfl

/-- An application that has gone through writes nothing when it is carried out again, as long as
nothing has been deleted. -/
theorem Application.run_again {a : Application} {faults : Faults} {s u : Session} {t : Snapshot}
    (h : applySnapshot faults a.snapshot a.project a.creator s = .ok t u) {calls : List Call}
    (hcalls : ∀ c ∈ calls, c.deletes = false) :
    ∃ id v, a.run (u.serveAll calls) = .ok t v ∧
      v.working = (u.serveAll calls).working.refresh id ((u.serveAll calls).clock + 1) ∧
      v.log = (u.serveAll calls).log ++ [.templateApplied t.id id 0 a.creator.isSome] := by
  obtain ⟨id, hid, hthere, -, hplan⟩ := applySnapshot_ok_iff.1 ⟨t, u, h⟩
  obtain ⟨rfl, p, hp, hu⟩ := applySnapshot_eq_ok h
  obtain ⟨-, hpid⟩ := Store.mem_of_project? hp
  cases hid.symm.trans hpid
  have hworking :
      u.working = s.working.withPlan (a.snapshot.plan a.creator) p.id (s.clock + 1) := by
    rw [hu]
  -- its triples and its project are in both views, because it has committed
  have hcommitted : u.committed = u.working := by rw [hu]
  have hafter : ∀ g ∈ plannedGrants (.project (some p.id)) (a.snapshot.plan a.creator),
      g ∈ u.working.grants := by
    intro g hg
    rw [hworking]
    exact Store.mem_grants_withPlan.2 (.inr (mem_plannedGrants.1 hg))
  have hproject : u.working.hasProject p.id = true := by
    rw [hworking, Store.hasProject_withPlan]
    exact hthere
  have hboth : u.InBoth u.working.Keeps := by
    refine ⟨.refl _, ?_⟩
    rw [hcommitted]
    exact .refl _
  have hkept : u.working.Keeps (u.serveAll calls).working := (Session.keeps_serveAll hcalls hboth).1
  have hstill := hkept.projects p.id hproject
  obtain ⟨v, hrun, hnow, hlog⟩ := Application.run_of_held hid hstill fun w hw => by
    -- what stood for the entry then stands for it now, and is held
    obtain ⟨g, hg⟩ := hplan w hw
    have hplanned : g ∈ plannedGrants (.project (some p.id)) (a.snapshot.plan a.creator) :=
      List.mem_filterMap.2 ⟨w, hw, plannedGrant?_of_grantable hg⟩
    have hthen := hkept.grants g (hafter g hplanned)
    exact ⟨g, hthen, Store.grantable_eq_ok.2 ⟨(Store.grantable_eq_ok.1 hg).1, .inl hthen⟩⟩
  exact ⟨p.id, v, hrun, hnow, hlog⟩

/-- **Applications commute and are idempotent.** A list of applications goes through exactly when
each of its members does on its own. Then so does every list with the same members, in any order
and with any of them repeated, and all these lists end with what was held and the triples of each
member. And an application that has gone through goes through again and reports that no row was
written, with the same triples held, after every run of calls that delete nothing. -/
theorem applications_commute (s : Session) (apps : List Application) :
    ((∃ t, Application.runAll apps s = .ok () t) ↔ ∀ a ∈ apps, a.Succeeds s) ∧
    ((∀ a ∈ apps, a.Succeeds s) → ∀ order : List Application, (∀ a, a ∈ order ↔ a ∈ apps) →
      ∃ t, Application.runAll order s = .ok () t ∧
        ∀ g, g ∈ t.working.grants ↔ g ∈ s.working.grants ∨ ∃ a ∈ apps, a.Grants g) ∧
    ∀ (a : Application) faults t u,
      applySnapshot faults a.snapshot a.project a.creator s = .ok t u →
        ∀ calls : List Call, (∀ c ∈ calls, c.deletes = false) →
          ∃ id v, a.run (u.serveAll calls) = .ok t v ∧
            v.working.grants = (u.serveAll calls).working.grants ∧
            v.log = (u.serveAll calls).log ++ [.templateApplied t.id id 0 a.creator.isSome] := by
  refine ⟨Application.runAll_ok_iff, ?_, ?_⟩
  · intro hsucceed order hsame
    have horder : ∀ a ∈ order, a.Succeeds s := fun a ha => hsucceed a ((hsame a).1 ha)
    obtain ⟨t, hrun⟩ := Application.runAll_ok_iff.2 horder
    refine ⟨t, hrun, fun g => ?_⟩
    rw [Application.mem_grants_runAll hrun]
    simp only [hsame]
  · intro a faults t u h calls hcalls
    obtain ⟨id, v, hrun, hworking, hlog⟩ := Application.run_again h hcalls
    refine ⟨id, v, hrun, ?_, hlog⟩
    rw [hworking]
    rfl

/-- The template of the sample, for a project without a creator and for another one with a creator
who has an entry as well. -/
def labApplication : Application := ⟨sampleSnapshot, some "q", none⟩

def shopApplication : Application := ⟨sampleSnapshot, some "p", some "u"⟩

/-- Both go through in an order that has one of them twice. A grant that is made after an
application and taken back by a rollback does not keep the application from finding all its own
triples again. -/
theorem sample_applied_again :
    (∃ t, Application.runAll [labApplication, shopApplication, labApplication] Session.sample =
        .ok () t ∧
      ∀ g, g ∈ t.working.grants ↔ g ∈ Session.sample.working.grants ∨
        ∃ a ∈ [shopApplication, labApplication], a.Grants g) ∧
    ∃ u id v, shopApplication.run Session.sample = .ok sampleSnapshot u ∧
      shopApplication.run (u.serveAll [.grants (.grant .anyone (some "scan") (.project (some "p"))),
        .rollback]) = .ok sampleSnapshot v ∧
      ∃ events, v.log = events ++ [.templateApplied "t" id 0 true] := by
  obtain ⟨-, hreorder, hrepeat⟩ :=
    applications_commute Session.sample [shopApplication, labApplication]
  constructor
  · refine hreorder ?_ _ fun a => ?_
    · simp only [List.forall_mem_cons]
      exact ⟨⟨_, _, rfl⟩, ⟨_, _, rfl⟩, List.forall_mem_nil _⟩
    · simp only [List.mem_cons, List.not_mem_nil, or_false]
      grind
  · obtain ⟨u, hu⟩ : ∃ u, shopApplication.run Session.sample = .ok sampleSnapshot u := ⟨_, rfl⟩
    obtain ⟨id, v, hv, -, hlog⟩ := hrepeat shopApplication .none _ u hu
      [.grants (.grant .anyone (some "scan") (.project (some "p"))), .rollback] (by decide)
    exact ⟨u, id, v, hu, hv, _, hlog⟩

end RoleGrants
