import RoleGrants.Membership
import RoleGrants.Template.Edit

/-!
# Advice on projects that do not exist yet

Would a user hold a role on a project provisioned now with the default template? The advice follows
the entries of the template, the user being taken for the creator of the project. It goes from one
test to the next and stops where the matter is settled (`Snapshot.evaluate`); the groups of the user
are looked up behind all other tests. The looking up is a parameter: it may come from the store, and
it may fail. The evaluation keeps no record of it. It is the way of looking up that notes each user
it is asked for (`recorded`), and the advice is handed out with these notes.

The project is named by a key and a qualifier. They are for debug events, which are not kept, and
nothing else reads them.
-/

namespace RoleGrants

variable {ε : Type}

/-- Advice, and the users whose groups were looked up for it. -/
structure Advice (ε : Type) where
  answer : Except ε Bool
  lookups : List String

/-- Looking groups up, which may fail; the users looked up are noted in order. -/
abbrev Looking (ε : Type) := ExceptT ε (StateM (List String))

/-- Looks up the groups of a user, and notes the user. -/
def recorded (groupsOf : String → Except ε (List String)) (user : String) :
    Looking ε (List String) :=
  fun noted => (groupsOf user, noted ++ [user])

/-- A lookup goes on with the groups or ends the run, and the user is noted either way. -/
theorem recorded_bind_run {α : Type} (groupsOf : String → Except ε (List String)) (user : String)
    (f : List String → Looking ε α) (noted : List String) :
    (recorded groupsOf user >>= f).run.run noted = match groupsOf user with
      | .ok own => (f own).run.run (noted ++ [user])
      | .error e => (.error e, noted ++ [user]) := by
  have hrun : ∀ r, groupsOf user = r →
      recorded groupsOf user = fun noted => (r, noted ++ [user]) := by
    rintro _ rfl
    rfl
  cases h : groupsOf user with
  | ok own => rw [hrun _ h]; rfl
  | error e => rw [hrun _ h]; rfl

namespace Snapshot

/-- Whether a template gives a role to a user, taken for the creator. Without a user, an anonymous
visitor, only entries of Anyone count. -/
def evaluate {m : Type → Type} [Monad m] (t : Snapshot) (groupsOf : String → m (List String))
    (user role : Option String) : m Bool := do
  if t.hasAnyoneEntry role then return true
  match user with
  | none => return false
  | some u =>
    if t.hasUserEntry user role then return true
    if t.hasCreatorRole role then return true
    let groups := t.groupIdsFor role
    if groups.isEmpty then return false
    let own ← groupsOf u
    return groups.any fun g => g.any own.contains

/-- The advice of a template, with the given way to look up the groups of a user. -/
def advise (t : Snapshot) (groupsOf : String → Except ε (List String))
    (user role : Option String) : Advice ε :=
  let run := (t.evaluate (recorded groupsOf) user role).run.run []
  ⟨run.1, run.2⟩

/-- Without a user nothing is looked up, and only Anyone's entries are looked at. -/
theorem advise_none (t : Snapshot) (groupsOf : String → Except ε (List String))
    (role : Option String) : t.advise groupsOf none role = ⟨.ok (t.hasAnyoneEntry role), []⟩ := by
  unfold advise evaluate
  cases t.hasAnyoneEntry role <;> rfl

/-- The evaluation for a user who is present. -/
theorem evaluate_some {m : Type → Type} [Monad m] (t : Snapshot)
    (groupsOf : String → m (List String)) (u : String) (role : Option String) :
    t.evaluate groupsOf (some u) role =
      if t.hasAnyoneEntry role || (t.hasUserEntry (some u) role || t.hasCreatorRole role) then
        pure true
      else if t.groupIdsFor role = [] then pure false
      else do
        let own ← groupsOf u
        return (t.groupIdsFor role).any fun g => g.any own.contains := by
  unfold evaluate
  cases t.hasAnyoneEntry role <;> cases t.hasUserEntry (some u) role <;>
    cases t.hasCreatorRole role <;> simp

/-- The advice for a user who is present, with the one lookup that is noted where the groups
decide. -/
theorem advise_some (t : Snapshot) (groupsOf : String → Except ε (List String)) (u : String)
    (role : Option String) :
    t.advise groupsOf (some u) role =
      if t.hasAnyoneEntry role || (t.hasUserEntry (some u) role || t.hasCreatorRole role) then
        ⟨.ok true, []⟩
      else if t.groupIdsFor role = [] then ⟨.ok false, []⟩
      else
        ⟨(groupsOf u).map fun own => (t.groupIdsFor role).any fun g => g.any own.contains,
          [u]⟩ := by
  rw [advise, evaluate_some]
  split
  · rfl
  · split
    · rfl
    · rw [recorded_bind_run]
      cases groupsOf u <;> rfl

end Snapshot

/-- The advice when no template is applied: nothing would be granted. -/
def Advice.nothing : Advice ε := ⟨.ok false, []⟩

/-- The advice of the default template on a project with a key and a qualifier. `outage` is what
looking up memberships ends with, if they cannot be looked up. -/
def simulate (selector : String) (outage : Option StoreError)
    (user role _key _qualifier : Option String) : Action (Advice StoreError) := do
  match ← resolveDefault (some selector) with
  | none => return .nothing
  | some t =>
    Action.reading fun s =>
      t.advise (fun u => outage.elim (.ok (s.groupsOf (some u))) .error) user role

end RoleGrants
