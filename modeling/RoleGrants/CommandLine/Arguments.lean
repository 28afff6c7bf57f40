import RoleGrants.Store.Insert

/-!
# Command line arguments

    init-db
    apply --project ID [--template ID] [--creator USER]
    apply-default --project ID [--creator USER]
    check --role ROLE --project-key KEY [--qualifier QUALIFIER] [--user USER]

Every option takes a value, given as the next argument, whatever that is, or behind an equals sign;
the last value counts. Options have one spelling each. Two hyphens alone end the options. Before the
command, and instead of its arguments, `--help` and before the command `--version` may stand; the
first of them wins over what is missing or too much, but not over an option that is wrong. What
stands where the command should and names none is looked at once more for these two.

A command line is read in two parts: up to the name of the command (`Leading.ofArguments`), and what
follows the name (`requestOf`).
-/

namespace RoleGrants.CommandLine

/-- What is to be done. -/
inductive Command where
  | createTables
  | apply (project : String) (template creator : Option String)
  | applyDefault (project : String) (creator : Option String)
  | check (role key qualifier : String) (user : Option String)
  deriving DecidableEq, Repr

/-- What a command line asks for. Help is on a command, or on the program. -/
inductive Request where
  | version
  | help (command : Option String)
  | run (command : Command)
  deriving DecidableEq, Repr

/-- Why a command line asks for nothing. -/
inductive UsageError where
  | noSuchOption (option : String)
  | missingValue (option : String)
  | unexpectedValue (option : String)
  | missingOption (option : String)
  | unexpectedArgument (argument : String)
  | missingCommand
  | noSuchCommand (name : String)
  deriving DecidableEq, Repr

namespace UsageError

def message : UsageError → String
  | .noSuchOption option => String.join ["No such option: ", option]
  | .missingValue option => String.join ["Option '", option, "' requires an argument."]
  | .unexpectedValue option => String.join ["Option '", option, "' does not take a value."]
  | .missingOption option => String.join ["Missing option '", option, "'."]
  | .unexpectedArgument argument => String.join ["Got unexpected extra argument (", argument, ")"]
  | .missingCommand => "Missing command."
  | .noSuchCommand name => String.join ["No such command '", name, "'."]

end UsageError

/-- An argument taken for an option: the name, and the value behind an equals sign. -/
def splitOption (argument : String) : String × Option String :=
  let cs := argument.toList
  match cs.dropWhile (· != '=') with
  | [] => (argument, none)
  | _ :: value => (String.ofList (cs.takeWhile (· != '=')), some (String.ofList value))

/-- Whether an argument has the form of an option: more than one character, the first a hyphen. -/
def isOption (argument : String) : Bool :=
  match argument.toList with
  | '-' :: _ :: _ => true
  | _ => false

/-- Arguments sorted into switches, options with their values, and the rest, each in order. -/
structure Arguments where
  switches : List String := []
  options : List (String × String) := []
  rest : List String := []
  deriving DecidableEq, Repr

/-- The options that may stand in one place: those without a value and those with one. Where options
and other arguments may not mix, the first other argument ends the options. -/
structure Grammar where
  switches : List String
  options : List String
  mixed : Bool

/-- Sorts arguments, of which those in `acc` have been seen. -/
def Grammar.read (g : Grammar) (acc : Arguments) : List String → Except UsageError Arguments
  | [] => .ok acc
  | argument :: others =>
    if argument == "--" then .ok { acc with rest := acc.rest ++ others }
    else if isOption argument then
      let (name, value) := splitOption argument
      if g.switches.contains name then
        if value.isSome then .error (.unexpectedValue name)
        else g.read { acc with switches := acc.switches ++ [name] } others
      else if g.options.contains name then
        match value, others with
        | some value, others => g.read { acc with options := acc.options ++ [(name, value)] } others
        | none, value :: others =>
          g.read { acc with options := acc.options ++ [(name, value)] } others
        | none, [] => .error (.missingValue name)
      else .error (.noSuchOption name)
    else if g.mixed then g.read { acc with rest := acc.rest ++ [argument] } others
    else .ok { acc with rest := acc.rest ++ argument :: others }

/-- The last value of an option. -/
def Arguments.value? (a : Arguments) (option : String) : Option String :=
  ((a.options.filter (·.1 == option)).getLast?).map (·.2)

/-- The value of an option that must be there. -/
def Arguments.value (a : Arguments) (option : String) : Except UsageError String :=
  (a.value? option).elim (.error (.missingOption option)) .ok

/-- The options of a command. -/
def optionsOf : String → Option (List String)
  | "init-db" => some []
  | "apply" => some ["--project", "--template", "--creator"]
  | "apply-default" => some ["--project", "--creator"]
  | "check" => some ["--role", "--project-key", "--qualifier", "--user"]
  | _ => none

/-- A command with its arguments sorted. -/
def commandOf (name : String) (a : Arguments) : Except UsageError Command := do
  match name with
  | "init-db" => return .createTables
  | "apply" => return .apply (← a.value "--project") (a.value? "--template") (a.value? "--creator")
  | "apply-default" => return .applyDefault (← a.value "--project") (a.value? "--creator")
  | "check" =>
    return .check (← a.value "--role") (← a.value "--project-key")
      ((a.value? "--qualifier").getD Store.defaultQualifier) (a.value? "--user")
  | other => .error (.noSuchCommand other)

/-- What a command with the given options and the arguments after it ask for. -/
def requestOf (name : String) (options arguments : List String) : Except UsageError Request :=
  match Grammar.read ⟨["--help"], options, true⟩ {} arguments with
  | .error e => .error e
  | .ok a =>
    -- help is given before anything is found missing or too much
    if !a.switches.isEmpty then .ok (.help (some name))
    else
      match commandOf name a, a.rest with
      | .error e, _ => .error e
      | .ok _, argument :: _ => .error (.unexpectedArgument argument)
      | .ok command, [] => .ok (.run command)

/-- The switches before the command. -/
def leadingGrammar : Grammar := ⟨["--version", "--help"], [], false⟩

/-- What the first switch before the command asks for. -/
def Arguments.leading? (a : Arguments) : Option Request :=
  a.switches.head?.map fun switch => if switch == "--version" then .version else .help none

/-- What arguments ask for that follow no switch and name no command. They are read once more from
where the command should stand: a switch behind two hyphens is one after all. -/
def unknownRequest (name : String) (others : List String) : Except UsageError Request :=
  (leadingGrammar.read {} (name :: others)).bind fun a =>
    a.leading?.elim (.error (.noSuchCommand name)) .ok

/-- What a command line comes to before the arguments of its command are read: it asks for something
that takes no command, or it names a command, which has options and is followed by arguments. -/
inductive Leading where
  | asks (request : Request)
  | command (name : String) (options arguments : List String)
  deriving DecidableEq, Repr

/-- Reads a command line up to the name of the command. -/
def Leading.ofArguments (arguments : List String) : Except UsageError Leading :=
  match leadingGrammar.read {} arguments with
  | .error e => .error e
  | .ok a =>
    match a.leading?, a.rest with
    | some request, _ => .ok (.asks request)
    | none, [] => .error .missingCommand
    | none, name :: others =>
      match optionsOf name with
      | some options => .ok (.command name options others)
      | none => (unknownRequest name others).map .asks

/-- What a command line asks for. -/
def Request.ofArguments (arguments : List String) : Except UsageError Request :=
  match Leading.ofArguments arguments with
  | .error e => .error e
  | .ok (.asks request) => .ok request
  | .ok (.command name options others) => requestOf name options others

end RoleGrants.CommandLine
