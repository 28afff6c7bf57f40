import RoleGrants.Grant.Write
import RoleGrants.Template.Edit

/-!
# Applying templates

A template is applied to a project by granting, on the project, what its entries say: first the
roles of groups and Anyone, then those of users, then the roles of the creator to whoever provisions
the project, if anybody does. The project is marked as changed, and everything the session has
pending is committed.

An application is one transaction. The grants to be written are data (`Snapshot.plan`), writing them
is a fold (`writeGrants`), and whatever strikes from the first write up to the commit rolls the
session back (`abandon`). A missing template or project ends the call before that, with nothing
rolled back.

Failures from outside can strike at every write, at the mark and at the commit; `Faults` says where.
-/

namespace RoleGrants

open RoleGrants.Action

/-- Failures that strike an application from outside: at its n-th write, counted from zero, at the
mark on the project, and at the commit. -/
structure Faults where
  atWrite : Nat → Option Failure := fun _ => none
  atRefresh : Option Failure := none
  atCommit : Option Failure := none

namespace Faults

/-- Nothing strikes. -/
def none : Faults := {}

/-- A failure strikes at every write but the first `n`. -/
def afterWrites (n : Nat) (failure : Failure) : Faults where
  atWrite i := if n ≤ i then some failure else Option.none

end Faults

/-- What an application grants on its project: the principals and roles, in the order of writing. -/
def Snapshot.plan (t : Snapshot) (creator : Option String) : List (Principal × Option String) :=
  (t.groups ++ t.users).map (fun e => (e.principal, e.role)) ++
    match creator with
    | some user => t.creatorRoles.map fun role => (.user (some user), some role)
    | none => []

/-- Grants the planned roles on a project, counting the rows written. `start` writes have been made
before. -/
def writeGrants (faults : Faults) (scope : Scope) (start : Nat) :
    List (Principal × Option String) → Action Nat
  | [] => pure 0
  | (principal, role) :: rest => do
    strike (faults.atWrite start)
    let fresh ← grantTo principal role scope
    let more ← writeGrants faults scope (start + 1) rest
    return fresh.toNat + more

/-- Writes the planned grants, marks the project and commits. -/
def carryOut (faults : Faults) (plan : List (Principal × Option String)) (project : String) :
    Action Nat := do
  let scope := Scope.project (some project)
  let written ← writeGrants faults scope 0 plan
  -- one mark for the whole application: the single writes leave it out
  strike faults.atRefresh
  refreshGrants scope
  strike faults.atCommit
  commit
  return written

/-- Ends an application that a failure struck: everything is rolled back and the failure reported. A
failure of the store becomes a refusal, every other one stays what it is. -/
def abandon (template : Option String) (project : String) (failure : Failure) : Action Nat := do
  -- what the caller had pending before the application is lost as well
  rollback
  match failure with
  | .store e => do
    report (.applicationFailed template project)
    refuse (.notApplied template project e)
  | other => do
    report (.applicationAborted template project)
    throw other

/-- Applies a snapshot to a project on behalf of a creator, and answers with the snapshot. -/
def applySnapshot (faults : Faults) (t : Snapshot) (project creator : Option String) :
    Action Snapshot := do
  match ← reading (·.project? project) with
  | none => refuse (.noProject project)
  | some p => do
    -- from here on the call ends committed or rolled back, never in between
    let written ← tryCatch (carryOut faults (t.plan creator) p.id) (abandon t.id p.id)
    report (.templateApplied t.id p.id written creator.isSome)
    return t

/-- Applies the template with an id to a project. -/
def applyTemplate (faults : Faults) (template project creator : Option String) :
    Action Snapshot := do
  let t ← resolveTemplate template
  applySnapshot faults t project creator

/-- Applies the default template to a project; without a default template nothing is done. -/
def applyDefault (faults : Faults) (selector : String) (project creator : Option String) :
    Action (Option Snapshot) := do
  match ← resolveDefault (some selector) with
  | none => do
    report (.noDefaultTemplate project selector)
    return none
  | some t => do
    let applied ← applySnapshot faults t project creator
    return some applied

end RoleGrants
