import RoleGrants.Environment
import RoleGrants.Store.Listing

/-!
# Settings

Six settings configure the program. A value given by the caller wins over one of the environment,
and without either the default stands. The environment knows texts only and may hold anything else
beside the settings; a caller may give a value of any kind, but no unknown name. All faults are told
at once.

Beside settings a caller may give options, which say where settings come from and how the
environment is read. The environment being the only source, most of them change nothing.
-/

namespace RoleGrants

structure Settings where
  /-- where the program runs -/
  deployment : String := "development"
  logLevel : String := "INFO"
  /-- `json`, or anything else for lines meant for people -/
  logFormat : String := "console"
  databaseAddress : String := "sqlite:///./permgate.db"
  /-- whether statements to the database are logged -/
  databaseEcho : Bool := false
  /-- the id of the template for new projects; it may name no template at all -/
  defaultTemplate : String := ""
  deriving DecidableEq, Repr

/-- The names of the settings, as the environment and callers write them. -/
def Settings.names : List String :=
  ["APP_ENV", "LOG_LEVEL", "LOG_FORMAT", "DATABASE_URL", "DATABASE_ECHO",
    "DEFAULT_PERMISSION_TEMPLATE"]

/-- The names of the options that a caller may give. -/
def Settings.optionNames : List String :=
  ["_case_sensitive", "_nested_model_default_partial_update", "_env_prefix", "_env_prefix_target",
    "_env_file", "_env_file_encoding", "_env_ignore_empty", "_env_nested_delimiter",
    "_env_nested_max_split", "_env_parse_none_str", "_env_parse_enums", "_cli_prog_name",
    "_cli_parse_args", "_cli_settings_source", "_cli_parse_none_str", "_cli_hide_none_type",
    "_cli_avoid_json", "_cli_enforce_required", "_cli_use_class_docs_for_groups",
    "_cli_exit_on_error", "_cli_prefix", "_cli_flag_prefix_char", "_cli_implicit_flags",
    "_cli_ignore_unknown_args", "_cli_kebab_case", "_cli_shortcuts", "_secrets_dir",
    "_build_sources"]

/-- What is wrong with a setting. -/
inductive SettingFault where
  /-- a text or a whole number that is no truth value -/
  | notBoolean (name : String)
  /-- a value of a kind that has no truth values -/
  | notBooleanKind (name : String)
  | notText (name : String)
  | unknown (name : String)
  deriving DecidableEq, Repr

namespace SettingFault

def message : SettingFault → String
  | .notBoolean name => name ++ ":bool_parsing"
  | .notBooleanKind name => name ++ ":bool_type"
  | .notText name => name ++ ":string_type"
  | .unknown name => name ++ ":extra_forbidden"

/-- The text for all faults, in order. -/
def summary (faults : List SettingFault) : String :=
  String.intercalate ", " (sortTexts (faults.map message))

end SettingFault

namespace Settings

/-- The words for true and for false, in any letter case. -/
def trueWords : List String := ["1", "on", "t", "true", "y", "yes"]

def falseWords : List String := ["0", "off", "f", "false", "n", "no"]

/-- The truth value that a text spells. -/
def booleanOfText? (s : String) : Option Bool :=
  let word := s.toList.map Char.toLower
  if trueWords.any (·.toList == word) then some true
  else if falseWords.any (·.toList == word) then some false
  else none

/-- Whether a whole number fits into 64 bits, beyond which it is of a kind without truth values. -/
def fitsWord (n : Int) : Bool :=
  decide (Int64.minValue.toInt ≤ n ∧ n ≤ Int64.maxValue.toInt)

/-- The truth value of a whole number: 0 and 1 only. -/
def booleanOfWhole (name : String) (n : Int) : Except SettingFault Bool :=
  if n = 1 then .ok true
  else if n = 0 then .ok false
  else if fitsWord n then .error (.notBoolean name)
  else .error (.notBooleanKind name)

/-- The truth value of a number with a fraction: that of the whole number it is. The least number of
64 bits does not count as one here. -/
def booleanOfFraction (name : String) (whole? : Option Int) : Except SettingFault Bool :=
  match whole? with
  | some n =>
    if n = Int64.minValue.toInt then .error (.notBooleanKind name) else booleanOfWhole name n
  | none => .error (.notBooleanKind name)

/-- A truth value: a flag, a word, or a number 0 or 1. -/
def boolean (name : String) : Literal → Except SettingFault Bool
  | .flag b => .ok b
  | .text s => (booleanOfText? s).elim (.error (.notBoolean name)) .ok
  | .whole n => booleanOfWhole name n
  | .fraction s m e => booleanOfFraction name (Literal.wholeOfFraction? s m e)
  | .null | .list _ | .record _ => .error (.notBooleanKind name)

def text (name : String) : Literal → Except SettingFault String
  | .text s => .ok s
  | _ => .error (.notText name)

/-- The value of a name among pairs; the first one counts. -/
def valueOf {α : Type} (pairs : List (String × α)) (name : String) : Option α :=
  (pairs.find? (·.1 == name)).map (·.2)

/-- The faults of a list of results. -/
def faultOf {α : Type} : Except SettingFault α → List SettingFault
  | .ok _ => []
  | .error f => [f]

/-- The value of an option; null leaves it out. -/
def option? (given : List (String × Literal)) (name : String) : Option Literal :=
  (valueOf given name).filter (· != .null)

/-- How the options have the environment read. -/
def environmentRules (given : List (String × Literal)) : EnvironmentRules where
  caseMatters := (option? given "_case_sensitive").elim true Literal.isTruthy
  ignoresEmpty := (option? given "_env_ignore_empty").elim false Literal.isTruthy
  namePrefix := ((option? given "_env_prefix").bind Literal.text?).getD ""
  nullText := (option? given "_env_parse_none_str").bind Literal.text?

/-- Reads the settings off the environment and the caller's values. -/
def load (environment : Environment) (given : List (String × Literal)) :
    Except (List SettingFault) Settings :=
  let rules := environmentRules given
  let value {α : Type} (read : String → Literal → Except SettingFault α) (name : String)
      (default : α) : Except SettingFault α :=
    match valueOf given name with
    | some v => read name v
    | none => (rules.find? environment name).elim (.ok default) (read name)
  let d : Settings := {}
  let unknown := (given.map (·.1)).filter fun name =>
    !(names.contains name || optionNames.contains name)
  match value text "APP_ENV" d.deployment, value text "LOG_LEVEL" d.logLevel,
    value text "LOG_FORMAT" d.logFormat, value text "DATABASE_URL" d.databaseAddress,
    value boolean "DATABASE_ECHO" d.databaseEcho,
    value text "DEFAULT_PERMISSION_TEMPLATE" d.defaultTemplate, unknown with
  | .ok a, .ok b, .ok c, .ok d, .ok e, .ok f, [] => .ok ⟨a, b, c, d, e, f⟩
  | a, b, c, d, e, f, unknown =>
    .error (faultOf a ++ faultOf b ++ faultOf c ++ faultOf d ++ faultOf e ++ faultOf f ++
      unknown.map .unknown)

/-- The scheme of database addresses that some hosts still hand out, and the one that is
understood. -/
def shortScheme : String := "postgres://"

def longScheme : String := "postgresql://"

/-- The address of the database, with the scheme that is understood. -/
def databaseUrl (s : Settings) : String :=
  if shortScheme.toList.isPrefixOf s.databaseAddress.toList then
    longScheme ++ String.ofList (s.databaseAddress.toList.drop shortScheme.length)
  else s.databaseAddress

end Settings

end RoleGrants
