import RoleGrants.Literal

/-!
# Events

What the engine reports about its work, apart from its answers: one event per template created,
applied or not applied, per default template that could not be found, and per failed command.

These are all events of the level `info` and above. At the level `debug` the engine also tells of
every grant it inserts and of every simulation it answers; those events are left out here, so that
a log which stays the same may have gained some of them.
-/

namespace RoleGrants

/-- How grave an event is, from the level on at which events are kept. -/
inductive Severity where
  | info
  | warning
  | error
  deriving DecidableEq, Repr

inductive Event where
  | templateCreated (template name : String)
  | templateApplied (template : Option String) (project : String) (written : Nat)
    (withCreator : Bool)
  /-- the store failed an application, which was rolled back -/
  | applicationFailed (template : Option String) (project : String)
  /-- something else ended an application, which was rolled back -/
  | applicationAborted (template : Option String) (project : String)
  /-- the selector names a template that is not there -/
  | defaultTemplateMissing (selector : String)
  | noDefaultTemplate (project : Option String) (selector : String)
  | commandFailed (command message : String)
  | tablesCreated
  deriving DecidableEq, Repr

namespace Event

def severity : Event → Severity
  | .templateCreated .. | .templateApplied .. | .tablesCreated => .info
  | .defaultTemplateMissing .. | .noDefaultTemplate .. => .warning
  | .applicationFailed .. | .applicationAborted .. | .commandFailed .. => .error

/-- The wording of an event. -/
def title : Event → String
  | .templateCreated .. => "Permission template created"
  | .templateApplied .. => "Permission template applied"
  | .applicationFailed .. => "Failed to apply permission template, rolled back"
  | .applicationAborted .. => "Permission template application aborted, rolled back"
  | .defaultTemplateMissing .. => "Default permission template not found"
  | .noDefaultTemplate .. => "No default permission template, project left without template grants"
  | .commandFailed .. => "Command failed"
  | .tablesCreated => "Database tables created"

/-- A text that may be absent. -/
def fieldOf : Option String → Literal
  | some s => .text s
  | none => .null

/-- What an event carries beside its wording. -/
def fields : Event → List (String × Literal)
  | .templateCreated template name => [("template_id", .text template), ("name", .text name)]
  | .templateApplied template project written withCreator =>
    [("template_id", fieldOf template), ("project_id", .text project),
      ("grants_written", .whole written), ("with_creator", .flag withCreator)]
  | .applicationFailed template project | .applicationAborted template project =>
    [("template_id", fieldOf template), ("project_id", .text project)]
  | .defaultTemplateMissing selector => [("template_id", .text selector)]
  | .noDefaultTemplate project selector =>
    [("project_id", fieldOf project), ("selector", .text selector)]
  | .commandFailed command message => [("command", .text command), ("error", .text message)]
  | .tablesCreated => [("dialect", .text "sqlite")]

end Event

end RoleGrants
