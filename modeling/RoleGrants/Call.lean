import RoleGrants.CommandLine.Run
import RoleGrants.Grant.Read
import RoleGrants.RowChange

/-!
# Calls on a session

All that can be asked of a session, as data: changes of rows, grants, questions, template editing,
applications, advice, the end of a transaction, and a command line. `Call.run` is the action that a
call stands for. `Session.serve` is the session after it, and it alone decides what a failure means
for the rows: after a store error the session rolls back, after any other failure it goes on as it
is. `Session.serveAll` is a whole run.
-/

namespace RoleGrants

/-- What a call is answered with. -/
inductive Answer where
  | nothing
  | flag (value : Bool)
  | count (value : Nat)
  | texts (values : List String)
  | groupNames (byLogin : List (Option String × List String))
  | group (found : FoundGroup)
  | template (found : Option Template)
  | characteristic (found : Characteristic)
  | snapshot (found : Option Snapshot)
  | listing (rows : Listing)
  | advice (granted : Bool) (lookups : List String)
  | outcome (ended : CommandLine.Outcome)
  deriving DecidableEq, Repr

/-- Granting and revoking. -/
inductive GrantCall where
  | grant (principal : Principal) (role : Option String) (scope : Scope)
  | grantToUser (user role : Option String) (scope : Scope) (refresh : Bool)
  | grantToGroup (group : Principal) (role : Option String) (scope : Scope) (refresh : Bool)
  | grantToNamedGroup (organization name role : Option String) (scope : Scope)
  | revokeFromUser (user role : Option String) (scope : Scope)
  | revokeFromGroup (group : Principal) (role : Option String) (scope : Scope)
  | revokeAllOfGroup (group : Option String)
  | revokeAllOnProject (project : Option String)
  | refresh (scope : Scope)
  deriving DecidableEq, Repr

/-- Questions, which change nothing. -/
inductive Question where
  | rolesOfGroupNamed (name : Option String) (scope : Scope)
  | rolesOfLogin (login : Option String) (scope : Scope)
  | countGrantsOn (project : Option String)
  | projectsWithRole (role user : Option String)
  | countHolders (role excluded : Option String)
  | groupsOf (user : Option String)
  | groupNamesByLogin (logins : List (Option String))
  | countMembers (group : Option String)
  | findGroup (reference : GroupReference)
  | findGroupOrAnyone (reference : GroupReference)
  | template (id : Option String)
  | templateNamed (organization name : Option String)
  | findTemplate (id organization name : Option String)
  | listing
  deriving DecidableEq, Repr

/-- Editing and resolving templates. -/
inductive TemplateCall where
  | create (id : String) (organization name description : Option String)
  | addUser (template user role : Option String)
  | addGroup (template : Option String) (group : Principal) (role : Option String)
  | removeUser (template user role : Option String)
  | removeGroup (template : Option String) (group : Principal) (role : Option String)
  | setCharacteristic (template role : Option String) (flag : Option Bool)
  | resolve (id : Option String)
  | resolveDefault (selector : Option String)
  deriving DecidableEq, Repr

inductive Call where
  | change (c : RowChange)
  | grants (c : GrantCall)
  | ask (q : Question)
  | templates (c : TemplateCall)
  | applyTemplate (faults : Faults) (template project creator : Option String)
  | applySnapshot (faults : Faults) (snapshot : Snapshot) (project creator : Option String)
  | applyDraft (faults : Faults) (draft : SnapshotDraft) (project creator : Option String)
  | applyDefault (faults : Faults) (selector : String) (project creator : Option String)
  | check (selector : String) (outage : Option StoreError)
      (user role key qualifier : Option String)
  | commit
  | rollback
  | commandLine (host : CommandLine.Host) (settings : Settings) (arguments : List String)

open RoleGrants.Action

def GrantCall.run : GrantCall → Action Answer
  | .grant principal role scope => .flag <$> grantTo principal role scope
  | .grantToUser user role scope marking =>
    .flag <$> RoleGrants.grantToUser user role scope marking
  | .grantToGroup group role scope marking => do
    -- a wrong role is told before a wrong group
    let _ ← accepted (roleOf role)
    let id ← usable group.groupId
    .flag <$> RoleGrants.grantToGroup id role scope marking
  | .grantToNamedGroup organization name role scope =>
    .flag <$> RoleGrants.grantToNamedGroup organization name role scope
  | .revokeFromUser user role scope => .count <$> RoleGrants.revokeFromUser user role scope
  | .revokeFromGroup group role scope => do
    let id ← usable group.groupId
    .count <$> RoleGrants.revokeFromGroup id role scope
  | .revokeAllOfGroup group => .count <$> RoleGrants.revokeAllOfGroup group
  | .revokeAllOnProject project => .count <$> RoleGrants.revokeAllOnProject project
  | .refresh scope => (fun _ => .nothing) <$> refreshGrants scope

/-- The answer to a question, from the rows alone. -/
def Question.answer (s : Store) : Question → Except Refusal Answer
  | .rolesOfGroupNamed name scope => .ok (.texts (s.rolesOfGroupNamed name scope))
  | .rolesOfLogin login scope => .ok (.texts (s.rolesOfLogin login scope))
  | .countGrantsOn project => .ok (.count (s.countGrantsOn project))
  | .projectsWithRole role user => .ok (.texts (s.projectsWithRole role user))
  | .countHolders role excluded => .ok (.count (s.countHolders role excluded))
  | .groupsOf user => .ok (.texts (sortTexts (s.groupsOf user)))
  | .groupNamesByLogin logins => .ok (.groupNames (s.groupNamesByLogin logins))
  | .countMembers group => .ok (.count (s.countMembers group))
  | .findGroup reference => (s.findGroup reference).map .group
  | .findGroupOrAnyone reference => (s.findGroupOrAnyone reference).map .group
  | .template id => .ok (.template (s.template? id))
  | .templateNamed organization name => .ok (.template (s.templateNamed? organization name))
  | .findTemplate id organization name =>
    (s.findTemplate id organization name).map fun t => .template (some t)
  | .listing => .ok (.listing s.listing)

def Question.run (q : Question) : Action Answer := do
  accepted (← reading q.answer)

def TemplateCall.run : TemplateCall → Action Answer
  | .create id organization name description =>
    (fun t => .template (some t)) <$> createTemplate id organization name description
  | .addUser template user role => .flag <$> addUserEntry template user role
  | .addGroup template group role => do
    -- a wrong role or template is told before a wrong group
    let _ ← accepted (roleOf role)
    let _ ← requireTemplate template
    let id ← usable group.groupId
    .flag <$> addGroupEntry template id role
  | .removeUser template user role => .flag <$> removeUserEntry template user role
  | .removeGroup template group role => do
    let id ← usable group.groupId
    .flag <$> removeGroupEntry template id role
  | .setCharacteristic template role flag =>
    .characteristic <$> RoleGrants.setCharacteristic template role flag
  | .resolve id => (fun t => .snapshot (some t)) <$> resolveTemplate id
  | .resolveDefault selector => .snapshot <$> RoleGrants.resolveDefault selector

/-- Advice as an answer; a lookup that failed ends the call. -/
def adviceAnswer (a : Advice StoreError) : Action Answer :=
  match a.answer with
  | .ok granted => pure (.advice granted a.lookups)
  | .error e => throw (.store e)

/-- Runs a command line on the same store: the session commits before, and sees afterwards what the
command has committed. -/
def runCommandLine (host : CommandLine.Host) (settings : Settings) (arguments : List String) :
    Action CommandLine.Outcome := fun s =>
  let (outcome, s) := CommandLine.run host settings arguments s.commit
  .ok outcome s

/-- The action that a call stands for. -/
def Call.run : Call → Action Answer
  | .change c => .flag <$> c.run
  | .grants c => c.run
  | .ask q => q.run
  | .templates c => c.run
  | .applyTemplate faults template project creator =>
    (fun t => .snapshot (some t)) <$> RoleGrants.applyTemplate faults template project creator
  | .applySnapshot faults snapshot project creator =>
    (fun t => .snapshot (some t)) <$> RoleGrants.applySnapshot faults snapshot project creator
  | .applyDraft faults draft project creator => do
    let snapshot ← usable draft.build
    (fun t => .snapshot (some t)) <$> RoleGrants.applySnapshot faults snapshot project creator
  | .applyDefault faults selector project creator =>
    .snapshot <$> RoleGrants.applyDefault faults selector project creator
  | .check selector outage user role key qualifier => do
    adviceAnswer (← simulate selector outage user role key qualifier)
  | .commit => (fun _ => .nothing) <$> Action.commit
  | .rollback => (fun _ => .nothing) <$> Action.rollback
  | .commandLine host settings arguments => .outcome <$> runCommandLine host settings arguments

namespace Session

/-- A session with what it answers to a call. -/
def serve (s : Session) (c : Call) : Except Failure Answer × Session :=
  match c.run s with
  | .ok answer s => (.ok answer, s)
  -- a store that rejected a row takes nothing more before a rollback
  | .error (.store e) s => (.error (.store e), s.rollback)
  | .error f s => (.error f, s)

/-- A session after a run of calls. -/
def serveAll (s : Session) (calls : List Call) : Session :=
  calls.foldl (fun s c => (s.serve c).2) s

end Session

end RoleGrants
