import RoleGrants.Literal
import RoleGrants.Text.Lowercase

/-!
# The environment

The environment holds texts under names, in the order in which they came. How it is read is a
choice: the letter case of names may count or not, empty texts may count or not, something may stand
before every name, and one text may stand for no value. Where several entries answer to a name, the
last one counts.
-/

namespace RoleGrants

/-- Names and their texts. -/
abbrev Environment := List (String × String)

/-- How an environment is read. -/
structure EnvironmentRules where
  caseMatters : Bool := true
  /-- whether an empty text is no entry at all -/
  ignoresEmpty : Bool := false
  /-- what stands before every name that is looked up -/
  namePrefix : String := ""
  /-- the text that stands for no value -/
  nullText : Option String := none
  deriving DecidableEq, Repr

namespace EnvironmentRules

/-- What counts of a name. -/
def key (r : EnvironmentRules) (name : String) : String :=
  if r.caseMatters then name else String.ofList (Text.lowered name.toList)

/-- Whether an entry answers to a name. -/
def answers (r : EnvironmentRules) (name : String) (entry : String × String) : Bool :=
  r.key entry.1 == r.key (r.namePrefix ++ name) && !(r.ignoresEmpty && entry.2 == "")

/-- The value of a text. -/
def value (r : EnvironmentRules) (s : String) : Literal :=
  if r.nullText == some s then .null else .text s

/-- What an environment says of a name. -/
def find? (r : EnvironmentRules) (e : Environment) (name : String) : Option Literal :=
  (e.reverse.find? (r.answers name)).map fun entry => r.value entry.2

end EnvironmentRules

end RoleGrants
