import RoleGrants.Text.Quoted

/-!
# Failures

A call ends without an answer in one of four ways. The engine refuses it (`Refusal`): a reference
that names nothing, a value that is malformed, an application that could not be stored. The store
rejects a row (`StoreError`): a missing value, a key that is taken, a reference that dangles. A
value is used as what it is not (`Misuse`). Or a fault from outside strikes (`Failure.fault`). Each
is kept as its cause; the wording is one function.
-/

namespace RoleGrants

/-- Why the store rejects a change. -/
inductive StoreError where
  /-- a column that must have a value has none -/
  | missingValue (column : String)
  /-- another row has the same values in the columns of a unique key -/
  | duplicate (columns : List String)
  /-- a column refers to a row that does not exist -/
  | missingParent
  /-- the storage itself does not answer -/
  | unavailable (message : String)
  deriving DecidableEq, Repr

namespace StoreError

/-- The text of a rejection. -/
def message : StoreError → String
  | .missingValue column => String.join ["NOT NULL constraint failed: ", column]
  | .duplicate columns =>
    String.join ["UNIQUE constraint failed: ", String.intercalate ", " columns]
  | .missingParent => "FOREIGN KEY constraint failed"
  | .unavailable message => message

/-- A rejection of one row, as opposed to a storage that does not answer. -/
def isConstraint : StoreError → Bool
  | .unavailable _ => false
  | _ => true

end StoreError

/-- Why the engine refuses a call. -/
inductive Refusal where
  | blankRole
  | unsupportedPrincipal (shown : String)
  | blankGroupName
  | reservedGroupName (name : String)
  | conflictingGroupReference
  | missingGroupReference
  | blankTemplateName
  | templateNameTaken (name : String)
  | ambiguousTemplateReference
  | noGroupWithId (id : String)
  | noGroupNamed (name : String)
  | noTemplateWithId (id : String)
  | noTemplateNamed (name : String)
  | noProject (id : Option String)
  | noUser (id : Option String)
  /-- applying a template struck a store error, and everything was rolled back -/
  | notApplied (template : Option String) (project : String) (cause : StoreError)
  /-- a value is refused with a wording of the caller's -/
  | invalid (message : String)
  deriving DecidableEq, Repr

/-- The three classes of refusals. -/
inductive RefusalClass where
  | notFound
  | invalid
  | storage
  deriving DecidableEq, Repr

namespace RefusalClass

/-- The name of a class. -/
def name : RefusalClass → String
  | .notFound => "NotFoundError"
  | .invalid => "ValidationError"
  | .storage => "StorageError"

/-- The name of the class of refusals that belong to no other. -/
def baseName : String := "PermgateError"

/-- The status code of a class. -/
def status : RefusalClass → Nat
  | .notFound => 404
  | .invalid => 400
  | .storage => 503

/-- The wording of a refusal that comes without one. -/
def defaultMessage : RefusalClass → String
  | .notFound => "Resource not found"
  | .invalid => "Validation failed"
  | .storage => "Storage failure"

end RefusalClass

namespace Refusal

/-- The class of a refusal. -/
def kind : Refusal → RefusalClass
  | .noGroupWithId _ | .noGroupNamed _ | .noTemplateWithId _ | .noTemplateNamed _ | .noProject _
  | .noUser _ => .notFound
  | .notApplied .. => .storage
  | _ => .invalid

/-- The store error behind a refusal. -/
def cause : Refusal → Option StoreError
  | .notApplied _ _ e => some e
  | _ => none

/-- The text of a refusal. -/
def message : Refusal → String
  | .blankRole => "Role must be a non-empty string"
  | .unsupportedPrincipal shown => String.join ["Unsupported principal: ", shown]
  | .blankGroupName => "Group name must not be empty"
  | .reservedGroupName name =>
    String.join ["Group name '", name, "' is reserved for the virtual Anyone group"]
  | .conflictingGroupReference => "Either group id or couple organization/group name must be set"
  | .missingGroupReference => "Group name or group id must be provided"
  | .blankTemplateName => "Template name must not be empty"
  | .templateNameTaken name =>
    String.join ["A template with the name '", name, "' already exists"]
  | .ambiguousTemplateReference => "Template id or template name must be provided, not both"
  | .noGroupWithId id => String.join ["No group with id '", id, "'"]
  | .noGroupNamed name => String.join ["No group with name '", name, "'"]
  | .noTemplateWithId id => String.join ["Permission template with id '", id, "' is not found"]
  | .noTemplateNamed name => String.join ["Permission template with name '", name, "' is not found"]
  | .noProject id => String.join ["Project with id '", Text.plainOption id, "' is not found"]
  | .noUser id => String.join ["User with id '", Text.plainOption id, "' is not found"]
  | .notApplied template project _ =>
    String.join ["Could not apply permission template '", Text.plainOption template,
      "' to project '", project, "'"]
  | .invalid message => message

end Refusal

/-- What a value is used as that it is not. Kinds of values go by their names. -/
inductive Misuse where
  /-- a value of a kind whose values cannot be in a set -/
  | noMember (kind : String)
  /-- a value of a kind without the part that is asked for -/
  | lacksPart (kind part : String)
  /-- a refusal of a class is made up without the part that it must have -/
  | missingPart (refusalClass part : String)
  /-- a refusal of a class is made up of more parts than it has -/
  | tooManyParts (refusalClass : String) (least most given : Nat)
  deriving DecidableEq, Repr

namespace Misuse

/-- The text of a misuse. The refusal that is made up counts as a part of itself. -/
def message : Misuse → String
  | .noMember kind => String.join ["unhashable type: '", kind, "'"]
  | .lacksPart kind part => String.join ["'", kind, "' object has no attribute '", part, "'"]
  | .missingPart refusalClass part =>
    String.join [refusalClass, ".__init__() missing 1 required positional argument: '", part, "'"]
  | .tooManyParts refusalClass least most given =>
    String.join [refusalClass, ".__init__() takes from ", toString (least + 1), " to ",
      toString (most + 1), " positional arguments but ", toString (given + 1), " were given"]

end Misuse

/-- How a call ends without an answer. -/
inductive Failure where
  | refused (refusal : Refusal)
  | store (error : StoreError)
  | misused (misuse : Misuse)
  | fault (message : String)
  deriving DecidableEq, Repr

/-- The text of a failure. -/
def Failure.message : Failure → String
  | .refused refusal => refusal.message
  | .store error => error.message
  | .misused misuse => misuse.message
  | .fault message => message

end RoleGrants
