import RoleGrants.Settings
import RoleGrants.Text.LetterCase

/-!
# Logging

How events are written is chosen by two settings: the least level that is written, and whether lines
are meant for machines or for people. A level is chosen by its name, and names of the same form go
to values that are no levels; with one of these logging is not set up (`LogLevel.fault?`).
-/

namespace RoleGrants

/-- What the name of a level stands for. -/
inductive LogLevel where
  | number (value : Nat)
  /-- the layout of a plain line -/
  | layout (pattern : String)
  /-- the layouts of a line, one for each style of writing them -/
  | layouts (patterns : List (String × String))
  deriving DecidableEq, Repr

/-- Why logging cannot be set up. -/
inductive LoggingFault where
  /-- a text that names no level -/
  | unknownLevel (text : String)
  /-- neither a number nor a text -/
  | noLevel
  deriving DecidableEq, Repr

namespace LogLevel

/-- The level from which on events are written unless another one is named. -/
def standard : LogLevel := .number 20

def named : List (String × LogLevel) :=
  [("CRITICAL", .number 50), ("FATAL", .number 50), ("ERROR", .number 40), ("WARNING", .number 30),
    ("WARN", .number 30), ("INFO", standard), ("DEBUG", .number 10), ("NOTSET", .number 0),
    ("BASIC_FORMAT", .layout "%(levelname)s:%(name)s:%(message)s"),
    ("_STYLES", .layouts [("%", "%(levelname)s:%(name)s:%(message)s"),
      ("\x7b", "\x7blevelname\x7d:\x7bname\x7d:\x7bmessage\x7d"),
      ("$", "$\x7blevelname\x7d:$\x7bname\x7d:$\x7bmessage\x7d")])]

/-- What a name in any letter case stands for; one that is unknown stands for the standard level. -/
def ofName (name : String) : LogLevel := (Settings.valueOf named (Text.capitals name)).getD standard

/-- What setting up logging with a level ends with, if it is none. -/
def fault? : LogLevel → Option LoggingFault
  | .number _ => none
  | .layout pattern => some (.unknownLevel pattern)
  | .layouts _ => some .noLevel

end LogLevel

/-- What logging is configured with. -/
structure LogConfiguration where
  level : LogLevel
  format : String
  /-- the steps through which an event goes, the last of which writes it -/
  processors : List String
  deriving DecidableEq, Repr

/-- The configuration that the settings choose. -/
def Settings.logConfiguration (s : Settings) : LogConfiguration where
  level := .ofName s.logLevel
  format := "%(message)s"
  processors :=
    ["filter_by_level", "add_logger_name", "add_log_level", "PositionalArgumentsFormatter",
      "TimeStamper", "StackInfoRenderer", "ExceptionRenderer", "UnicodeDecoder",
      if s.logFormat == "json" then "JSONRenderer" else "ConsoleRenderer"]

end RoleGrants
