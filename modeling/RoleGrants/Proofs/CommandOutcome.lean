import RoleGrants.CommandLine.Run

/-!
# How a command line ends

A command line that asks for a command runs it where commands begin (`Host.Starts`), and does
nothing else. `RunCases` lists the four ways in which a command line ends, each with the session
that it leaves, and `run_cases` says that there are no others.

The ways are not told apart by what is asked for alone. Logging is set up between the name of a
command and its arguments, so where that fails, a command line that is used wrongly or asks for help
may end like one whose command does not begin.

Where only the session counts, `session_run` is enough. `run_of_starts` and `run_of_not_starts` are
for a command line whose command is known.
-/

namespace RoleGrants.CommandLine

/-- **Commands begin** on a host and under settings: logging can be set up, and there is an engine
for the database. -/
structure Host.Starts (host : Host) (settings : Settings) : Prop where
  logging : settings.logConfiguration.level.fault? = none
  engine : host.engineFault? settings.databaseUrl = none

/-- **What a command line comes to.** Either the command that it asks for is run, from committed
rows to committed rows, or nothing is done: it is used wrongly, or it asks to be told something, or
commands do not begin. -/
inductive RunCases (host : Host) (settings : Settings) (arguments : List String) (s : Session) :
    Outcome × Session → Prop where
  | command {command : Command} (h : Request.ofArguments arguments = .ok (.run command))
      (hstarts : host.Starts settings) :
      RunCases host settings arguments s
        ((command.run settings.defaultTemplate s.rollback).1,
          (command.run settings.defaultTemplate s.rollback).2.rollback)
  | misused {e : UsageError} (h : Request.ofArguments arguments = .error e) :
      RunCases host settings arguments s (misusing e, s)
  | told {request : Request} {o : Outcome} (h : Request.ofArguments arguments = .ok request)
      (hrequest : ∀ command, request ≠ .run command) (hstatus : o.status = 0) :
      RunCases host settings arguments s (o, s)
  | crashed {e : Uncaught} (h : ¬ host.Starts settings) :
      RunCases host settings arguments s (crashing e, s)

/-! ### All ways -/

theorem carryOut_cases {host : Host} {settings : Settings} {arguments : List String}
    {request : Request} (h : Request.ofArguments arguments = .ok request)
    (hlogging : (∃ command, request = .run command) →
      settings.logConfiguration.level.fault? = none) (s : Session) :
    RunCases host settings arguments s (request.carryOut host settings s) := by
  cases request with
  | version => exact .told h nofun rfl
  | help command => exact .told h nofun rfl
  | run command =>
    unfold Request.carryOut
    cases hengine : host.engineFault? settings.databaseUrl with
    | none => exact .command h ⟨hlogging ⟨command, rfl⟩, hengine⟩
    | some message =>
      refine .crashed fun hstarts => ?_
      cases hengine.symm.trans hstarts.engine

/-- A switch asks for no command. -/
theorem Arguments.leading?_ne_run (a : Arguments) (command : Command) :
    a.leading? ≠ some (.run command) := by
  intro h
  obtain ⟨switch, -, hswitch⟩ := Option.map_eq_some_iff.1 h
  split at hswitch <;> cases hswitch

/-- What is no command asks for no command either. -/
theorem unknownRequest_ne_run (name : String) (others : List String) (command : Command) :
    unknownRequest name others ≠ .ok (.run command) := by
  unfold unknownRequest
  cases leadingGrammar.read {} (name :: others) with
  | error e => exact nofun
  | ok a =>
    intro h
    cases ha : a.leading? with
    | none =>
      simp only [Except.bind, ha] at h
      cases h
    | some request =>
      simp only [Except.bind, ha] at h
      cases h
      exact a.leading?_ne_run command ha

/-- What asks for something before there is a command asks for none. -/
theorem Leading.asks_ne_run {arguments : List String} {request : Request}
    (h : Leading.ofArguments arguments = .ok (.asks request)) (command : Command) :
    request ≠ .run command := by
  rintro rfl
  unfold Leading.ofArguments at h
  split at h
  · cases h
  · next a _ =>
    split at h
    · next request ha =>
      cases h
      exact a.leading?_ne_run command ha
    · cases h
    · next name others _ _ =>
      split at h
      · cases h
      · -- what is no command is read once more for switches
        cases hunknown : unknownRequest name others with
        | error e =>
          rw [hunknown] at h
          cases h
        | ok request =>
          rw [hunknown] at h
          cases h
          exact unknownRequest_ne_run name others command hunknown

/-- **A command line ends in one of the four ways.** -/
theorem run_cases (host : Host) (settings : Settings) (arguments : List String) (s : Session) :
    RunCases host settings arguments s (run host settings arguments s) := by
  unfold run
  cases hleading : Leading.ofArguments arguments with
  | error e => exact .misused (by rw [Request.ofArguments, hleading])
  | ok leading =>
    cases leading with
    | asks request =>
      have h : Request.ofArguments arguments = .ok request := by rw [Request.ofArguments, hleading]
      refine carryOut_cases h ?_ s
      rintro ⟨command, rfl⟩
      exact absurd rfl (Leading.asks_ne_run hleading command)
    | command name options others =>
      have hrequest : Request.ofArguments arguments = requestOf name options others := by
        rw [Request.ofArguments, hleading]
      -- logging comes before the arguments of the command
      cases hlogging : settings.logConfiguration.level.fault? with
      | some fault =>
        refine .crashed fun hstarts => ?_
        cases hlogging.symm.trans hstarts.logging
      | none =>
        dsimp only
        cases hrest : requestOf name options others with
        | error e => exact .misused (hrequest.trans hrest)
        | ok request => exact carryOut_cases (hrequest.trans hrest) (fun _ => hlogging) s

/-! ### The session, and a command that is known -/

/-- The session behind a command line is that of a command on the committed rows, without what the
command has not committed, or nothing has been done to it. -/
theorem session_run (host : Host) (settings : Settings) (arguments : List String) (s : Session) :
    (∃ command, Request.ofArguments arguments = .ok (.run command) ∧
      (run host settings arguments s).2 =
        (command.run settings.defaultTemplate s.rollback).2.rollback) ∨
    (run host settings arguments s).2 = s := by
  have hcases := run_cases host settings arguments s
  generalize run host settings arguments s = r at hcases ⊢
  cases hcases with
  | command h hstarts => exact .inl ⟨_, h, rfl⟩
  | misused h => exact .inr rfl
  | told h hrequest hstatus => exact .inr rfl
  | crashed h => exact .inr rfl

/-- A command that is asked for is run where commands begin. -/
theorem run_of_starts {host : Host} {settings : Settings} {arguments : List String}
    {command : Command} (h : Request.ofArguments arguments = .ok (.run command))
    (hstarts : host.Starts settings) (s : Session) :
    run host settings arguments s =
      ((command.run settings.defaultTemplate s.rollback).1,
        (command.run settings.defaultTemplate s.rollback).2.rollback) := by
  have hcases := run_cases host settings arguments s
  generalize run host settings arguments s = r at hcases ⊢
  cases hcases with
  | command h' _ =>
    cases h.symm.trans h'
    rfl
  | misused h' => cases h.symm.trans h'
  | told h' hrequest _ =>
    cases h.symm.trans h'
    exact absurd rfl (hrequest command)
  | crashed hnot => exact absurd hstarts hnot

/-- Elsewhere it is not run, and nothing is done. -/
theorem run_of_not_starts {host : Host} {settings : Settings} {arguments : List String}
    {command : Command} (h : Request.ofArguments arguments = .ok (.run command))
    (hnot : ¬ host.Starts settings) (s : Session) :
    ∃ e, run host settings arguments s = (crashing e, s) := by
  have hcases := run_cases host settings arguments s
  generalize run host settings arguments s = r at hcases ⊢
  cases hcases with
  | command _ hstarts => exact absurd hstarts hnot
  | misused h' => cases h.symm.trans h'
  | told h' hrequest _ =>
    cases h.symm.trans h'
    exact absurd rfl (hrequest command)
  | crashed _ => exact ⟨_, rfl⟩

end RoleGrants.CommandLine
