import RoleGrants.Text.Blank
import RoleGrants.Text.LetterCase
import RoleGrants.Failure
import RoleGrants.Literal

/-!
# Names of roles and groups

Roles are opaque texts: any text that is not blank is a role, and no order among roles is implied. A
group may have any name that is not blank and does not spell the reserved word, in whatever letter
case; the reserved word designates Anyone wherever a group is given by name.
-/

namespace RoleGrants

/-- The name that designates Anyone. -/
def anyoneName : String := "Anyone"

/-- Whether a name spells the reserved word. An absent name does not. -/
def isAnyone : Option String → Bool
  | some name => Text.small name == Text.small anyoneName
  | none => false

/-- Whether a value spells the reserved word, about which only texts can be asked. -/
def spellsAnyone : Literal → Except Misuse Bool
  | .null => .ok false
  | .text name => .ok (isAnyone (some name))
  | other => .error (.lacksPart other.kindName "lower")

/-- A role, if the text given is one. -/
def roleOf : Option String → Except Refusal String
  | some role => if Text.isBlank role then .error .blankRole else .ok role
  | none => .error .blankRole

/-- The name of a stored group, if the text given may be one. -/
def groupNameOf : Option String → Except Refusal String
  | some name =>
    if Text.isBlank name then .error .blankGroupName
    else if isAnyone (some name) then .error (.reservedGroupName name)
    else .ok name
  | none => .error .blankGroupName

/-- The name of a stored group, if the value given may be one. What counts as false is as good as no
name. -/
def groupNameOfValue : Literal → Except Failure String
  | .text name => (groupNameOf (some name)).mapError .refused
  | other =>
    if other.isTruthy then .error (.misused (.lacksPart other.kindName "strip"))
    else .error (.refused .blankGroupName)

/-- The name of a template, if the text given may be one. -/
def templateNameOf : Option String → Except Refusal String
  | some name => if Text.isBlank name then .error .blankTemplateName else .ok name
  | none => .error .blankTemplateName

end RoleGrants
