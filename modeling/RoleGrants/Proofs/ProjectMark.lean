import RoleGrants.Proofs.SessionStep
import RoleGrants.Proofs.StoredGrant

/-!
# Marks on projects

A project is marked with the reading of the clock at which its grants were last changed. Who has
read what is held on a project need not read it again while the mark stays: two stores of one run
that have the same mark on a project have the same grants there (`Store.Coherent`).

This is a matter of the past and not of one store, so it is carried along a run for a store that
is held fixed while the session goes on (`Session.Settled`). Two facts carry it. No mark is ahead
of the clock, so a new mark is none that was there at any time before; and a project without a
mark has no grants, so one that has just been created agrees with every store in which it was not
marked either (`Store.MarkedBy`). A step of a session works on the rows so that each project is
marked anew, keeps its mark and its grants, or is new; or it commits, or it rolls back
(`Session.MarkStep`). The last two put one of the two views in the place of the other, which is why
these are compared with each other as well.
-/

namespace RoleGrants

namespace Store

/-! ### Comparing two stores -/

/-- The mark of a project that is there. A project that has never been marked has none. -/
def markOf? (s : Store) (project : String) : Option (Option Nat) :=
  (s.project? (some project)).map (·.refreshedAt)

/-- The same triples are held on a project. -/
def SameOn (project : String) (s t : Store) : Prop :=
  ∀ g : Grant, g.project = some project → (g ∈ s.grants ↔ g ∈ t.grants)

/-- **The same mark stands for the same grants.** -/
def Coherent (s t : Store) : Prop :=
  ∀ project mark, s.markOf? project = some mark → t.markOf? project = some mark →
    SameOn project s t

/-- No mark is ahead of the clock, and nothing is held on a project without a mark. -/
structure MarkedBy (clock : Nat) (s : Store) : Prop where
  le_clock : ∀ project reading, s.markOf? project = some (some reading) → reading ≤ clock
  unmarked : ∀ project, s.markOf? project = some none → ∀ g ∈ s.grants, g.project ≠ some project

/-- What has become of a project with a mark, while the clock went on from `n` to `m`. -/
inductive EvolvedTo (n m : Nat) (s t : Store) (project : String) : Option Nat → Prop where
  | marked {reading : Nat} (hnew : n < reading) (hle : reading ≤ m) :
      EvolvedTo n m s t project (some reading)
  | kept {mark : Option Nat} (hmark : s.markOf? project = some mark)
      (hsame : SameOn project s t) : EvolvedTo n m s t project mark
  | created (hnone : ∀ g ∈ t.grants, g.project ≠ some project) : EvolvedTo n m s t project none

/-- **One store has become another**, while the clock went on from `n` to `m`. -/
def Evolves (n m : Nat) (s t : Store) : Prop :=
  ∀ project mark, t.markOf? project = some mark → EvolvedTo n m s t project mark

theorem SameOn.refl (project : String) (s : Store) : SameOn project s s := fun _ _ => .rfl

theorem SameOn.symm {project : String} {s t : Store} (h : SameOn project s t) :
    SameOn project t s :=
  fun g hg => (h g hg).symm

theorem SameOn.trans {project : String} {s t u : Store} (h : SameOn project s t)
    (h' : SameOn project t u) : SameOn project s u :=
  fun g hg => (h g hg).trans (h' g hg)

theorem Coherent.refl (s : Store) : Coherent s s := fun project _ _ _ => .refl project s

theorem Coherent.symm {s t : Store} (h : Coherent s t) : Coherent t s :=
  fun project mark ht hs => (h project mark hs ht).symm

theorem MarkedBy.mono {n m : Nat} {s : Store} (h : MarkedBy n s) (hle : n ≤ m) : MarkedBy m s :=
  ⟨fun project reading hmark => Nat.le_trans (h.le_clock project reading hmark) hle, h.unmarked⟩

/-- Every project keeps its mark where the projects and the grants stay as they are. -/
theorem Evolves.of_eq {n m : Nat} {s t : Store} (hprojects : t.projects = s.projects)
    (hgrants : t.grants = s.grants) : Evolves n m s t := by
  intro project mark hmark
  rw [markOf?, project?, hprojects] at hmark
  refine .kept hmark fun g _ => ?_
  rw [hgrants]

theorem MarkedBy.evolves {n m : Nat} {s t : Store} (hs : MarkedBy n s) (h : Evolves n m s t)
    (hle : n ≤ m) : MarkedBy m t := by
  constructor
  · intro project reading hmark
    cases h project _ hmark with
    | marked hnew hle => exact hle
    | kept hbefore hsame => exact Nat.le_trans (hs.le_clock project reading hbefore) hle
  · intro project hmark g hg hproject
    cases h project _ hmark with
    | kept hbefore hsame =>
      exact hs.unmarked project hbefore g ((hsame g hproject).2 hg) hproject
    | created hnone => exact hnone g hg hproject

/-- A store of the past that was coherent with what is now still is so afterwards. -/
theorem Coherent.evolves {n m : Nat} {r s t : Store} (h : Coherent r s) (hr : MarkedBy n r)
    (hevolves : Evolves n m s t) : Coherent r t := by
  intro project mark hrmark htmark
  cases hevolves project mark htmark with
  | marked hnew hle =>
    -- a mark of the past would be a reading already taken
    exact absurd (hr.le_clock project _ hrmark) (Nat.not_le.2 hnew)
  | kept hmark hsame => exact (h project mark hrmark hmark).trans hsame
  | created hnone =>
    intro g hg
    exact iff_of_false (fun hmem => hr.unmarked project hrmark g hmem hg)
      fun hmem => hnone g hmem hg

end Store

/-! ### Steps of a session -/

namespace Session

/-- **A step that minds the marks.** It works on the rows and leaves the committed ones, or it
commits, or it rolls back. The clock may go on in each of them. -/
inductive MarkStep (s t : Session) : Prop where
  | work (hclock : s.clock ≤ t.clock)
      (hworking : s.working.Evolves s.clock t.clock t.working)
      (hcommitted : t.committed = s.committed) : MarkStep s t
  | commit (hclock : s.clock ≤ t.clock) (hworking : t.working = s.working)
      (hcommitted : t.committed = s.working) : MarkStep s t
  | rollback (hclock : s.clock ≤ t.clock) (hworking : t.working = s.committed)
      (hcommitted : t.committed = s.committed) : MarkStep s t

/-- **The marks of a session can be trusted**, in both views of it, between the two, and in
comparison with a store of the past. -/
structure Settled (r : Store) (s : Session) : Prop where
  marked : s.InBoth (Store.MarkedBy s.clock)
  between : s.committed.Coherent s.working
  past_marked : r.MarkedBy s.clock
  past : s.InBoth r.Coherent

/-- Where nothing is pending there is one store to be trusted. -/
theorem Settled.of_view {r view : Store} {s : Session} (hworking : s.working = view)
    (hcommitted : s.committed = view) (hview : view.MarkedBy s.clock) (hr : r.MarkedBy s.clock)
    (hpast : r.Coherent view) : s.Settled r := by
  refine ⟨⟨hworking ▸ hview, hcommitted ▸ hview⟩, ?_, hr, hworking ▸ hpast, hcommitted ▸ hpast⟩
  rw [hworking, hcommitted]
  exact .refl _

theorem settled_empty : Settled {} {} := by
  have hnone : ∀ project mark, ({} : Store).markOf? project ≠ some mark := fun _ _ => nofun
  have hmarked : Store.MarkedBy 0 {} :=
    ⟨fun _ _ h => absurd h (hnone _ _), fun _ h => absurd h (hnone _ _)⟩
  exact .of_view rfl rfl hmarked hmarked (.refl _)

/-- What is seen now is a store of the past from now on. -/
theorem Settled.now {r : Store} {s : Session} (h : s.Settled r) : s.Settled s.working :=
  { h with
    past_marked := h.marked.1
    past := ⟨.refl _, h.between.symm⟩ }

/-- **No step that minds the marks spoils them.** -/
theorem MarkStep.settled {r : Store} {s t : Session} (h : MarkStep s t) (hs : s.Settled r) :
    t.Settled r := by
  cases h with
  | work hclock hworking hcommitted =>
    have hmarked := hs.marked.2.mono hclock
    have hpast := hs.past.2
    have hbetween := hs.between.evolves hs.marked.2 hworking
    rw [← hcommitted] at hmarked hpast hbetween
    exact ⟨⟨hs.marked.1.evolves hworking hclock, hmarked⟩, hbetween, hs.past_marked.mono hclock,
      hs.past.1.evolves hs.past_marked hworking, hpast⟩
  | commit hclock hworking hcommitted =>
    exact .of_view hworking hcommitted (hs.marked.1.mono hclock) (hs.past_marked.mono hclock)
      hs.past.1
  | rollback hclock hworking hcommitted =>
    exact .of_view hworking hcommitted (hs.marked.2.mono hclock) (hs.past_marked.mono hclock)
      hs.past.2

/-- A run of such steps. -/
def MarkSteps : Session → Session → Prop := Relation.ReflTransGen MarkStep

theorem MarkSteps.settled {r : Store} {s t : Session} (h : MarkSteps s t) (hs : s.Settled r) :
    t.Settled r := by
  induction h with
  | refl => exact hs
  | tail _ hstep ih => exact hstep.settled ih

end Session

end RoleGrants
