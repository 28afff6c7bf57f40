import RoleGrants.CommandLine.Arguments
import RoleGrants.Logging
import RoleGrants.Markup.Printed
import RoleGrants.Settings
import RoleGrants.Simulation
import RoleGrants.Template.Application
import RoleGrants.Text.ControlSequence
import RoleGrants.Text.LineEnd

/-!
# Running the command line

A command works in a session of its own on the committed rows, and what it has not committed at its
end is dropped. It ends with status 0 and a line of output, with status 1 and the message of a
refusal, or with status 2 if the command line asks for nothing. What it applied is committed before
the closing line is printed, and that line is markup in which the name of the template and the id of
the project stand as they are: if they do not make markup, the command ends with status 1 all the
same.

Before a command begins, two things may end it, with status 1 and nothing done. Logging is set up as
soon as the command is named, and only then are the arguments of the command read; and there must be
an engine for the address of the database. Engines and the pages of help are not of this program,
they are brought by a `Host`.
-/

namespace RoleGrants.CommandLine

/-- What is there besides the program. -/
structure Host where
  /-- the page of help on a command, or on the program -/
  helpPage : Option String → String
  /-- what making an engine for the address of a database ends with, if there is none for it -/
  engineFault? : String → Option String

/-- What ends a command other than a refusal. -/
inductive Uncaught where
  | logging (fault : LoggingFault)
  | engine (message : String)
  | failure (f : Failure)
  | markup (e : Markup.MarkupError)
  deriving DecidableEq, Repr

/-- How a command ends, with what it wrote. -/
structure Outcome where
  status : Nat
  output : String := ""
  errorOutput : String := ""
  uncaught : Option Uncaught := none
  deriving DecidableEq, Repr

/-- A message on the error output, which is no terminal: control sequences are left out. -/
def errorLine (message : String) : String :=
  let line := String.join ["Error: ", message, "\n"]
  String.ofList (Text.withLineFeeds (Text.withoutControlSequences line.toList))

/-- The end of a command line that is used wrongly. -/
def misusing (e : UsageError) : Outcome := ⟨2, "", errorLine e.message, none⟩

/-- The end of a command that something ended which is not caught. -/
def crashing (e : Uncaught) : Outcome := ⟨1, "", "", some e⟩

/-- The end of a command with a line of marked-up output. -/
def printing (line : String) : Outcome :=
  match Markup.printed line with
  | .ok text => ⟨0, text, "", none⟩
  | .error e => crashing (.markup e)

/-- The end of a command that failed, and the event that reports it. -/
def failing (command : String) (f : Failure) (s : Session) : Outcome × Session :=
  match f with
  | .refused r =>
    (⟨1, "", errorLine r.message, none⟩,
      { s with log := s.log ++ [.commandFailed command r.message] })
  | other => (crashing (.failure other), s)

/-- The closing line of an application. -/
def applicationLine (project : String) : Option Snapshot → String
  | none => "[yellow]No default template configured, nothing applied[/yellow]"
  | some t =>
    String.join ["[green]Applied template '", Text.plainOption t.name, "'[/green] (",
      Text.plainOption t.id, ") to project ", project]

/-- Applies the template named, or else the default one: an empty name is none. -/
def application (selector project : String) (template creator : Option String) :
    Action (Option Snapshot) :=
  match template with
  | none | some "" => applyDefault .none selector (some project) creator
  | some id => some <$> applyTemplate .none (some id) (some project) creator

/-- Applies a template and tells which. -/
def applying (selector project : String) (template creator : Option String) (s : Session) :
    Outcome × Session :=
  match application selector project template creator s with
  | .ok applied s => (printing (applicationLine project applied), s)
  | .error f s => failing "apply" f s

/-- Prints the advice of the default template. -/
def checking (selector role key qualifier : String) (user : Option String) (s : Session) :
    Outcome × Session :=
  match simulate selector none user (some role) (some key) (some qualifier) s with
  | .error f s => failing "check" f s
  | .ok advice s =>
    match advice.answer with
    | .ok granted => (⟨0, if granted then "true\n" else "false\n", "", none⟩, s)
    | .error e => failing "check" (.store e) s

/-- Runs a command in the given session. The tables are always there, so creating them changes
nothing. -/
def Command.run (selector : String) (command : Command) (s : Session) : Outcome × Session :=
  match command with
  | .createTables =>
    (printing "[green]Database tables created[/green]", { s with log := s.log ++ [.tablesCreated] })
  | .apply project template creator => applying selector project template creator s
  | .applyDefault project creator => applying selector project none creator s
  | .check role key qualifier user => checking selector role key qualifier user s

def versionLine : String := "permgate, version 0.1.0\n"

/-- Carries out what is asked for on the committed rows of a session. -/
def Request.carryOut (host : Host) (settings : Settings) (request : Request) (s : Session) :
    Outcome × Session :=
  match request with
  | .version => (⟨0, versionLine, "", none⟩, s)
  | .help command => (⟨0, host.helpPage command, "", none⟩, s)
  | .run command =>
    match host.engineFault? settings.databaseUrl with
    | some message => (crashing (.engine message), s)
    | none =>
      -- the command sees committed rows only, and leaves committed rows only
      let (outcome, s) := command.run settings.defaultTemplate s.rollback
      (outcome, s.rollback)

/-- Runs a command line on the committed rows of a session. -/
def run (host : Host) (settings : Settings) (arguments : List String) (s : Session) :
    Outcome × Session :=
  match Leading.ofArguments arguments with
  | .error e => (misusing e, s)
  | .ok (.asks request) => request.carryOut host settings s
  | .ok (.command name options others) =>
    match settings.logConfiguration.level.fault? with
    | some fault => (crashing (.logging fault), s)
    | none =>
      match requestOf name options others with
      | .error e => (misusing e, s)
      | .ok request => request.carryOut host settings s

end RoleGrants.CommandLine
