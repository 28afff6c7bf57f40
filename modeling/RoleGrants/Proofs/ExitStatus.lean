import RoleGrants.Proofs.AppliedGrants
import RoleGrants.Proofs.ClosingLine
import RoleGrants.Proofs.CommitPoint
import RoleGrants.Proofs.DefaultTemplate
import RoleGrants.Proofs.StoredTemplate

/-!
# What the exit status of an application tells

A command line that asks for an application, where commands begin, can end in three ways. The
application goes through, is committed, and its closing line is printed (`AsksFor.run_of_applies`);
there is no default template, and the line that says so is printed (`AsksFor.run_of_lacks`); or it
fails, and the committed rows are as before (`AsksFor.run_of_failed`). The failure and the missing
template are told by the status. So is an application that went through, but only if its closing
line can be printed: this line comes after the commit, and if it is an error the status says that
nothing was done.

`AsksFor` turns the command line into the call that it asks for. From there on
`AsksFor.exists_application` is all that is used of the command line, and how a call ends its
transaction is known already (`application_ends`).
-/

open RoleGrants.Action

namespace RoleGrants

/-- The default template is to be applied, and there is none. -/
def Call.LacksTemplate (s : Store) : Call → Prop
  | .applyDefault _ selector _ _ => ¬ s.NamesDefault selector
  | _ => False

namespace CommandLine

/-- **The application that a command line asks for**, as a call: of the template named, or of the
default one if none is named or its name is empty. -/
inductive AsksFor (settings : Settings) (arguments : List String) (project : String)
    (creator : Option String) : Call → Prop where
  | template {id : String} (hid : id ≠ "")
      (h : Request.ofArguments arguments = .ok (.run (.apply project (some id) creator))) :
      AsksFor settings arguments project creator
        (.applyTemplate .none (some id) (some project) creator)
  | noTemplate {template : Option String} (hnone : template = none ∨ template = some "")
      (h : Request.ofArguments arguments = .ok (.run (.apply project template creator))) :
      AsksFor settings arguments project creator
        (.applyDefault .none settings.defaultTemplate (some project) creator)
  | default (h : Request.ofArguments arguments = .ok (.run (.applyDefault project creator))) :
      AsksFor settings arguments project creator
        (.applyDefault .none settings.defaultTemplate (some project) creator)

/-- **The exit status tells what has become of an application.** It is zero if the application went
through and its rows are those committed, or if there was no template and the committed rows are as
before, and for no other reason; if it is not zero, the committed rows are as before. -/
structure ExitTells (call : Call) (s : Session) (r : Outcome × Session) : Prop where
  zero_iff : r.1.status = 0 ↔
    (∃ t u, call.Applies s.rollback t u ∧ r.2.committed = u.working) ∨
      (call.LacksTemplate s.committed ∧ r.2.committed = s.committed)
  unchanged : r.1.status ≠ 0 → r.2.committed = s.committed

section Applications

variable {host : Host} {settings : Settings} {arguments : List String} {project : String}
  {creator : Option String} {call : Call} {s : Session}

/-! ### From the command line to the call -/

theorem application_default {template : Option String}
    (hnone : template = none ∨ template = some "") (selector project : String)
    (creator : Option String) :
    application selector project template creator =
      applyDefault .none selector (some project) creator := by
  rcases hnone with rfl | rfl <;> rfl

theorem application_template {id : String} (hid : id ≠ "") (selector project : String)
    (creator : Option String) :
    application selector project (some id) creator =
      some <$> applyTemplate .none (some id) (some project) creator := by
  unfold application
  split
  · next h => cases h
  · next h => exact absurd (Option.some.inj h) hid
  · next h =>
    cases h
    rfl

/-- Nothing is applied where there is no default template, and only there. -/
theorem applyDefault_none_iff {faults : Faults} {selector : String}
    {project creator : Option String} :
    (∃ u, applyDefault faults selector project creator s = .ok none u) ↔
      ¬ s.working.NamesDefault selector := by
  constructor
  · rintro ⟨u, h⟩ hnames
    -- the template is found, and then it is applied or the application fails
    obtain ⟨t, -, hdefault⟩ := resolveDefault_of_names hnames
    unfold applyDefault at h
    rw [bind_run, hdefault] at h
    obtain ⟨t, v, -, h⟩ := bind_eq_ok.1 h
    cases h
  · intro hnames
    unfold applyDefault
    rw [bind_run, resolveDefault_of_not_names hnames]
    exact ⟨_, rfl⟩

theorem applies_default_iff {faults : Faults} {selector : String} {project creator : Option String}
    {t : Snapshot} {u : Session} :
    (Call.applyDefault faults selector project creator).Applies s t u ↔
      applyDefault faults selector project creator s = .ok (some t) u :=
  ⟨fun h => by cases h; assumption, .default⟩

theorem applies_template_iff {faults : Faults} {template project creator : Option String}
    {t : Snapshot} {u : Session} :
    (Call.applyTemplate faults template project creator).Applies s t u ↔
      applyTemplate faults template project creator s = .ok t u :=
  ⟨fun h => by cases h; assumption, .template⟩

theorem AsksFor.exists_command (h : AsksFor settings arguments project creator call) :
    ∃ command, Request.ofArguments arguments = .ok (.run command) := by
  cases h <;> exact ⟨_, by assumption⟩

/-- **A command line that asks for an application runs one** on the committed rows. It applies what
the call applies, and nothing if the call lacks its template. -/
theorem AsksFor.exists_application (h : AsksFor settings arguments project creator call)
    (hstarts : host.Starts settings) :
    ∃ template,
      (∀ s, run host settings arguments s =
        ((applying settings.defaultTemplate project template creator s.rollback).1,
          (applying settings.defaultTemplate project template creator s.rollback).2.rollback)) ∧
      (∀ s t u, call.Applies s t u ↔
        application settings.defaultTemplate project template creator s = .ok (some t) u) ∧
      ∀ s, call.LacksTemplate s.working ↔
        ∃ u, application settings.defaultTemplate project template creator s = .ok none u := by
  cases h with
  | @template id hid h =>
    refine ⟨some id, run_of_starts h hstarts, fun s t u => ?_, fun s => ?_⟩
    · rw [applies_template_iff, application_template hid, map_eq_ok]
      simp
    · rw [application_template hid]
      simp [map_eq_ok, Call.LacksTemplate]
  | @noTemplate template hnone h =>
    -- whichever way no template is named, the default one is meant
    refine ⟨template, run_of_starts h hstarts, fun s t u => ?_, fun s => ?_⟩
    · rw [applies_default_iff, application_default hnone]
    · rw [application_default hnone, applyDefault_none_iff]
      rfl
  | default h =>
    exact ⟨none, run_of_starts h hstarts, fun s t u => applies_default_iff,
      fun s => applyDefault_none_iff.symm⟩

/-! ### What an application commits -/

theorem application_ends (selector project : String) (template creator : Option String)
    (s : Session) :
    Ends (fun t => t.isSome = true) (application selector project template creator) s := by
  unfold application
  split
  · exact applyDefault_ends ..
  · exact applyDefault_ends ..
  · exact .map some (applyTemplate_ends (fun _ => rfl) ..)

theorem committed_of_applied {selector : String} {template : Option String} {t : Snapshot}
    {u : Session} (h : application selector project template creator s = .ok (some t) u) :
    u.committed = u.working := by
  have hcommits := (application_ends selector project template creator s).commits_of h rfl
  have hpermanent := hcommits.permanent
  unfold after at hpermanent
  rw [h] at hpermanent
  exact hpermanent

/-- An application that applies nothing leaves the committed rows as they are. -/
theorem committed_of_not_applied {selector : String} {template : Option String}
    (hnot : ∀ t u, application selector project template creator s ≠ .ok (some t) u) :
    ((application selector project template creator).after s).committed = s.committed := by
  refine (application_ends selector project template creator s).leaves_of ?_
  rintro found u hrun hfound
  obtain ⟨t, rfl⟩ := Option.isSome_iff_exists.1 hfound
  exact hnot t u hrun

/-- The grants after a snapshot has been applied. -/
theorem mem_grants_of_applySnapshot {faults : Faults} {t t' : Snapshot} {u : Session}
    (h : applySnapshot faults t (some project) creator s = .ok t' u) (g : Grant) :
    g ∈ u.working.grants ↔ g ∈ s.working.grants ∨ t'.Grants creator project g := by
  obtain ⟨rfl, p, hp, rfl⟩ := applySnapshot_eq_ok h
  obtain ⟨-, hid⟩ := Store.mem_of_project? hp
  rw [Option.some.inj hid]
  exact Store.mem_grants_withPlan

theorem mem_grants_of_applyDefault {faults : Faults} {selector : String} {t : Snapshot}
    {u : Session} (h : applyDefault faults selector (some project) creator s = .ok (some t) u)
    (g : Grant) :
    g ∈ u.working.grants ↔ g ∈ s.working.grants ∨ t.Grants creator project g := by
  obtain ⟨hfound, hrest⟩ := applyDefault_eq_ok h
  rw [← hfound] at hrest
  obtain ⟨log, happly⟩ := hrest
  exact mem_grants_of_applySnapshot happly g

/-- The grants after what a command line asks for: those before, and those of the template. -/
theorem AsksFor.mem_grants (h : AsksFor settings arguments project creator call) {t : Snapshot}
    {u : Session} (happlies : call.Applies s t u) (g : Grant) :
    g ∈ u.working.grants ↔ g ∈ s.working.grants ∨ t.Grants creator project g := by
  cases h with
  | template hid h =>
    have happly := applies_template_iff.1 happlies
    rw [applyTemplate_run] at happly
    split at happly
    · exact mem_grants_of_applySnapshot happly g
    · cases happly
  | noTemplate hnone h => exact mem_grants_of_applyDefault (applies_default_iff.1 happlies) g
  | default h => exact mem_grants_of_applyDefault (applies_default_iff.1 happlies) g

/-! ### How it ends -/

/-- An application that went through is committed, and then its closing line is printed. -/
theorem AsksFor.run_of_applies (h : AsksFor settings arguments project creator call)
    (hstarts : host.Starts settings) {t : Snapshot} {u : Session}
    (happlies : call.Applies s.rollback t u) :
    (run host settings arguments s).1 = printing (applicationLine project (some t)) ∧
      (run host settings arguments s).2.committed = u.working := by
  obtain ⟨template, hrun, hiff, -⟩ := h.exists_application hstarts
  have happlication := (hiff _ t u).1 happlies
  rw [hrun s, applying, happlication]
  exact ⟨rfl, committed_of_applied happlication⟩

/-- Without a template the line that says so is printed, and nothing else is done. -/
theorem AsksFor.run_of_lacks (h : AsksFor settings arguments project creator call)
    (hstarts : host.Starts settings) (hlacks : call.LacksTemplate s.committed) :
    (run host settings arguments s).1.status = 0 ∧
      (run host settings arguments s).2.committed = s.committed := by
  obtain ⟨template, hrun, -, hiff⟩ := h.exists_application hstarts
  obtain ⟨u, hnone⟩ := (hiff s.rollback).1 hlacks
  have hcommitted := committed_of_not_applied fun t v hsome => by cases hnone.symm.trans hsome
  unfold after at hcommitted
  rw [hnone] at hcommitted
  rw [hrun s, applying, hnone]
  exact ⟨status_noDefault project, hcommitted⟩

theorem failing_ends (command : String) (f : Failure) (s : Session) :
    (failing command f s).1.status = 1 ∧ (failing command f s).2.committed = s.committed := by
  cases f <;> exact ⟨rfl, rfl⟩

/-- Everything else is a failure, and the committed rows are as before. -/
theorem AsksFor.run_of_failed (h : AsksFor settings arguments project creator call)
    (hstarts : host.Starts settings) (hnot : ∀ t u, ¬ call.Applies s.rollback t u)
    (hlacks : ¬ call.LacksTemplate s.committed) :
    (run host settings arguments s).1.status = 1 ∧
      (run host settings arguments s).2.committed = s.committed := by
  obtain ⟨template, hrun, happlies, hnone⟩ := h.exists_application hstarts
  have hcommitted := committed_of_not_applied fun t u hsome =>
    hnot t u ((happlies s.rollback t u).2 hsome)
  unfold after at hcommitted
  rw [hrun s, applying]
  cases happlication : application settings.defaultTemplate project template creator s.rollback with
  | ok found u =>
    -- both answers are ruled out
    cases found with
    | none => exact absurd ((hnone s.rollback).2 ⟨u, happlication⟩) hlacks
    | some t => exact absurd ((happlies s.rollback t u).2 happlication) (hnot t u)
  | error f u =>
    rw [happlication] at hcommitted
    obtain ⟨hstatus, hkept⟩ := failing_ends "apply" f u
    exact ⟨hstatus, hkept.trans hcommitted⟩

/-- Where what is applied can be reported, the status tells what has become of it. -/
theorem AsksFor.exitTells (h : AsksFor settings arguments project creator call)
    (hstarts : host.Starts settings)
    (hreportable : ∀ t u, call.Applies s.rollback t u → Reportable project t) :
    ExitTells call s (run host settings arguments s) := by
  by_cases happlies : ∃ t u, call.Applies s.rollback t u
  · -- it went through, and the closing line is printed
    obtain ⟨t, u, happlies⟩ := happlies
    obtain ⟨hprinted, hcommitted⟩ := h.run_of_applies hstarts happlies
    have hstatus : (run host settings arguments s).1.status = 0 := by
      rw [hprinted]
      exact status_applied_iff.2 (hreportable t u happlies)
    exact ⟨iff_of_true hstatus (.inl ⟨t, u, happlies, hcommitted⟩),
      fun hne => absurd hstatus hne⟩
  · have hnot : ∀ t u, ¬ call.Applies s.rollback t u := fun t u h => happlies ⟨t, u, h⟩
    by_cases hlacks : call.LacksTemplate s.committed
    · -- there is no template, and the committed rows say nothing else
      obtain ⟨hstatus, hcommitted⟩ := h.run_of_lacks hstarts hlacks
      exact ⟨iff_of_true hstatus (.inr ⟨hlacks, hcommitted⟩), fun hne => absurd hstatus hne⟩
    · -- it failed, so neither reason for a zero is there
      obtain ⟨hstatus, hcommitted⟩ := h.run_of_failed hstarts hnot hlacks
      refine ⟨iff_of_false ?_ ?_, fun _ => hcommitted⟩
      · rw [hstatus]
        exact Nat.one_ne_zero
      · rintro (⟨t, u, h, -⟩ | ⟨h, -⟩)
        · exact hnot t u h
        · exact hlacks h

/-! ### Command lines that ask for no application -/

theorem exists_asksFor_of_apply (settings : Settings) {template : Option String}
    (h : Request.ofArguments arguments = .ok (.run (.apply project template creator))) :
    ∃ call, AsksFor settings arguments project creator call := by
  by_cases hnone : template = none ∨ template = some ""
  · exact ⟨_, .noTemplate hnone h⟩
  · rw [not_or] at hnone
    obtain ⟨id, rfl⟩ := Option.ne_none_iff_exists'.1 hnone.1
    exact ⟨_, .template (fun hid => hnone.2 (congrArg some hid)) h⟩

/-- Where no application is asked for, the committed rows stay. -/
theorem committed_run_of_not_asksFor
    (hnot : ∀ project creator call, ¬ AsksFor settings arguments project creator call) :
    (run host settings arguments s).2.committed = s.committed := by
  rcases session_run host settings arguments s with ⟨command, hrequest, hrun⟩ | hrun
  · rw [hrun]
    cases command with
    | createTables => rfl
    | apply project template creator =>
      obtain ⟨call, h⟩ := exists_asksFor_of_apply settings hrequest
      exact absurd h (hnot project creator call)
    | applyDefault project creator =>
      exact absurd (.default hrequest) (hnot project creator _)
    | check role key qualifier user =>
      -- advice is only reported
      have hsteps : Session.Steps (fun m => ∃ e, m = .report e) s.rollback
          (checking settings.defaultTemplate role key qualifier user s.rollback).2 :=
        checking_steps (fun e => ⟨e, rfl⟩) _ _ _ _ _ _
      have hreports : ¬ ∃ e, Move.commit = .report e := by
        rintro ⟨e, h⟩
        cases h
      have hkept := hsteps.committed_eq hreports
      exact hkept
  · rw [hrun]

/-- The name of a command is taken for no option, and what follows belongs to the command. -/
theorem ofArguments_command {name : String} {options : List String} (rest : List String)
    (hdashes : (name == "--") = false) (hname : isOption name = false)
    (hoptions : optionsOf name = some options) :
    Request.ofArguments (name :: rest) = requestOf name options rest := by
  have hread : leadingGrammar.read {} (name :: rest) = .ok { rest := name :: rest } := by
    rw [Grammar.read, hdashes, hname]
    rfl
  rw [Request.ofArguments, Leading.ofArguments, hread]
  simp only [Arguments.leading?, List.head?_nil, Option.map_none, hoptions]

/-- What the arguments of a command ask for: nothing, help, or that command. -/
theorem requestOf_cases (name : String) (options arguments : List String) :
    (∃ e, requestOf name options arguments = .error e) ∨
      requestOf name options arguments = .ok (.help (some name)) ∨
      ∃ a command, commandOf name a = .ok command ∧
        requestOf name options arguments = .ok (.run command) := by
  unfold requestOf
  split
  · exact .inl ⟨_, rfl⟩
  · next a _ =>
    split
    · exact .inr (.inl rfl)
    · split
      · exact .inl ⟨_, rfl⟩
      · exact .inl ⟨_, rfl⟩
      · next command hcommand _ => exact .inr (.inr ⟨a, command, hcommand, rfl⟩)

/-- A command that applies templates is used wrongly, or help on it is asked for, or an
application. -/
theorem ofArguments_cases (settings : Settings) {name : String}
    (hname : name = "apply" ∨ name = "apply-default") (rest : List String) :
    (∃ e, Request.ofArguments (name :: rest) = .error e) ∨
      Request.ofArguments (name :: rest) = .ok (.help (some name)) ∨
      ∃ project creator call, AsksFor settings (name :: rest) project creator call := by
  obtain ⟨options, hrequest⟩ : ∃ options,
      Request.ofArguments (name :: rest) = requestOf name options rest := by
    rcases hname with rfl | rfl
    · exact ⟨_, ofArguments_command rest (by decide +kernel) (by decide +kernel) rfl⟩
    · exact ⟨_, ofArguments_command rest (by decide +kernel) (by decide +kernel) rfl⟩
  rcases requestOf_cases name options rest with ⟨e, hcase⟩ | hcase | ⟨a, command, hcommand, hcase⟩
  · exact .inl ⟨e, hrequest.trans hcase⟩
  · exact .inr (.inl (hrequest.trans hcase))
  · rw [hcase] at hrequest
    refine .inr (.inr ?_)
    rcases hname with rfl | rfl
    · -- a project is named, so this is the command with its options
      obtain ⟨project, -, hcommand⟩ := ok_of_bind hcommand
      cases hcommand
      obtain ⟨call, h⟩ := exists_asksFor_of_apply settings hrequest
      exact ⟨_, _, call, h⟩
    · obtain ⟨project, -, hcommand⟩ := ok_of_bind hcommand
      cases hcommand
      exact ⟨_, _, _, .default hrequest⟩

/-- **How a command line ends that asks for no application**, though it names a command that applies
templates: it is used wrongly, help is asked for, or commands do not begin. -/
inductive EndsUnasked (host : Host) (settings : Settings) (arguments : List String) (status : Nat) :
    Prop where
  | misused {e : UsageError} (h : Request.ofArguments arguments = .error e) (hstatus : status = 2) :
      EndsUnasked host settings arguments status
  | help {command : Option String} (h : Request.ofArguments arguments = .ok (.help command))
      (hstatus : status = 0) : EndsUnasked host settings arguments status
  | crashed (h : ¬ host.Starts settings) (hstatus : status = 1) :
      EndsUnasked host settings arguments status

theorem endsUnasked {name : String} (hname : name = "apply" ∨ name = "apply-default")
    {rest : List String}
    (hnot : ∀ project creator call, ¬ AsksFor settings (name :: rest) project creator call) :
    EndsUnasked host settings (name :: rest) (run host settings (name :: rest) s).1.status := by
  have hasked : (∃ e, Request.ofArguments (name :: rest) = .error e) ∨
      Request.ofArguments (name :: rest) = .ok (.help (some name)) := by
    rcases ofArguments_cases settings hname rest with he | hhelp | ⟨project, creator, call, h⟩
    · exact .inl he
    · exact .inr hhelp
    · exact absurd h (hnot project creator call)
  have hcases := run_cases host settings (name :: rest) s
  generalize run host settings (name :: rest) s = r at hcases ⊢
  cases hcases with
  | command h _ =>
    -- it is no command that is asked for
    rcases hasked with ⟨e, he⟩ | hhelp
    · cases h.symm.trans he
    · cases h.symm.trans hhelp
  | misused h => exact .misused h rfl
  | told h _ hstatus =>
    rcases hasked with ⟨e, he⟩ | hhelp
    · cases h.symm.trans he
    · exact .help hhelp hstatus
  | crashed h => exact .crashed h rfl

end Applications

/-- A command line that applies a template on behalf of nobody. -/
def applyLine (project template : String) : List String :=
  ["apply", "--project", project, "--template", template]

theorem asksFor_applyLine (settings : Settings) (project : String) {template : String}
    (hne : template ≠ "") :
    AsksFor settings (applyLine project template) project none
      (.applyTemplate .none (some template) (some project) none) :=
  .template hne rfl

/-- **What the exit status of an application tells.** For every host, all settings, arguments and
stored rows: if commands begin and the closing line of what is applied can be printed, a command
line that asks for an application ends with status zero exactly when the application went through
and is committed, or when there was no default template and nothing was done; and with any other
status the committed rows are as before. If commands do not begin, for the level of logging or the
address of the database, it ends with status 1 and nothing is done.

The closing line is printed behind the commit. Whatever it holds, what went through is committed,
the grants of the template on the project among it, and the status is zero only if the line can be
printed. It can if there are no brackets in the name and the id of the template and in the id of the
project, and it cannot if one of them brings a closing tag: then the status says that nothing was
done, and the rows are there.

A command line that asks for no application leaves the committed rows alone. Behind the name of a
command that applies templates it ends with status 2 if it is used wrongly, with status 0 if it asks
for help, and with status 1 if commands do not begin. -/
theorem exit_status_tells_application (host : Host) (settings : Settings) (arguments : List String)
    (s : Session) :
    (∀ project creator call, AsksFor settings arguments project creator call →
      host.Starts settings →
      ((∀ t u, call.Applies s.rollback t u → Reportable project t) →
        ExitTells call s (run host settings arguments s)) ∧
      ∀ t u, call.Applies s.rollback t u →
        (run host settings arguments s).2.committed = u.working ∧
        (∀ g, g ∈ u.working.grants ↔ g ∈ s.committed.grants ∨ t.Grants creator project g) ∧
        ((run host settings arguments s).1.status = 0 ↔ Reportable project t) ∧
        (¬ Reportable project t →
          ∃ e, (run host settings arguments s).1 = ⟨1, "", "", some (.markup e)⟩)) ∧
    (∀ project creator call, AsksFor settings arguments project creator call →
      ¬ host.Starts settings →
        (run host settings arguments s).1.status = 1 ∧ (run host settings arguments s).2 = s) ∧
    ((∀ project creator call, ¬ AsksFor settings arguments project creator call) →
      (run host settings arguments s).2.committed = s.committed ∧
        ∀ name rest, arguments = name :: rest → name = "apply" ∨ name = "apply-default" →
          EndsUnasked host settings arguments (run host settings arguments s).1.status) ∧
    (∀ project t, PlainTexts project t → Reportable project t) ∧
    (∀ project t, BringsClosingTag project t → ¬ Reportable project t) := by
  refine ⟨fun project creator call h hstarts => ⟨h.exitTells hstarts, fun t u happlies => ?_⟩,
    fun project creator call h hnot => ?_, fun hnot => ⟨committed_run_of_not_asksFor hnot, ?_⟩,
    fun project t h => h.reportable, fun project t h => h.not_reportable⟩
  · obtain ⟨hprinted, hcommitted⟩ := h.run_of_applies hstarts happlies
    rw [hprinted]
    exact ⟨hcommitted, h.mem_grants happlies, status_applied_iff, printing_of_not_reportable⟩
  · obtain ⟨command, hrequest⟩ := h.exists_command
    obtain ⟨e, hrun⟩ := run_of_not_starts hrequest hnot s
    rw [hrun]
    exact ⟨rfl, rfl⟩
  · rintro name rest rfl hname
    exact endsUnasked hname hnot

/-- A host without help, on which the address of a database other than the standard one has no
engine. -/
def plainHost : Host where
  helpPage := fun _ => ""
  engineFault? := fun url => if url == "sqlite:///./permgate.db" then none else some "no engine"

theorem plainHost_starts : plainHost.Starts {} := ⟨by decide +kernel, by decide +kernel⟩

/-- The template of the sample is applied, no text of its closing line holds a bracket, and the
status is zero; under another name it could not have been reported. A project that is not there is
told by the status, and so is one that is not named, and nothing is done. Nothing is done either
under a name that is no level, or without an engine. -/
theorem sample_exit_status :
    (run plainHost {} (applyLine "q" "t") Session.sample).1.status = 0 ∧
      ⟨.group "g", some "q", "scan"⟩ ∈
        (run plainHost {} (applyLine "q" "t") Session.sample).2.committed.grants ∧
      ¬ Reportable "q" { sampleSnapshot with name := some "[/x]" } ∧
      (run plainHost {} (applyLine "nowhere" "t") Session.sample).1.status ≠ 0 ∧
      (run plainHost {} (applyLine "nowhere" "t") Session.sample).2.committed =
        Session.sample.committed ∧
      (run plainHost {} ["apply"] Session.sample).2.committed = Session.sample.committed ∧
      (∀ settings ∈ [({ logLevel := "_styles" } : Settings), { databaseAddress := "nodb://" }],
        (run plainHost settings (applyLine "q" "t") Session.sample).1.status = 1 ∧
          (run plainHost settings (applyLine "q" "t") Session.sample).2 = Session.sample) := by
  have hne : "t" ≠ "" := by decide
  obtain ⟨happlications, -, -, hplain, hclosing⟩ :=
    exit_status_tells_application plainHost {} (applyLine "q" "t") Session.sample
  -- the project is there
  obtain ⟨u, happlies⟩ : ∃ u, (Call.applyTemplate .none (some "t") (some "q") none).Applies
      Session.sample.rollback sampleSnapshot u := ⟨_, .template rfl⟩
  obtain ⟨hcommitted, hgrants, hstatus, -⟩ :=
    (happlications _ _ _ (asksFor_applyLine {} "q" hne) plainHost_starts).2 _ _ happlies
  have hreportable : Reportable "q" sampleSnapshot :=
    hplain _ _ ⟨by decide +kernel, by decide +kernel, by decide +kernel⟩
  have hgranted : sampleSnapshot.Grants none "q" ⟨.group "g", some "q", "scan"⟩ :=
    .entry (e := ⟨.group (some "g"), none, some "scan"⟩) (by decide +kernel) rfl rfl
  have hcloses : BringsClosingTag "q" { sampleSnapshot with name := some "[/x]" } :=
    .name ⟨[], ['x'], [], by decide +kernel, by decide, by decide, List.not_mem_nil⟩
  -- the project is not there
  have hnot : ∀ t v, ¬ (Call.applyTemplate .none (some "t") (some "nowhere") none).Applies
      Session.sample.rollback t v := by
    intro t v h
    cases applies_template_iff.1 h
  have htells := ((exit_status_tells_application plainHost {} (applyLine "nowhere" "t")
    Session.sample).1 _ _ _ (asksFor_applyLine {} "nowhere" hne) plainHost_starts).1
      fun t v h => absurd h (hnot t v)
  have hnonzero : (run plainHost {} (applyLine "nowhere" "t") Session.sample).1.status ≠ 0 := by
    intro hzero
    rcases htells.zero_iff.1 hzero with ⟨t, v, h, -⟩ | ⟨h, -⟩
    · exact hnot t v h
    · exact h
  -- no project is named
  have hnothing : ∀ project creator call, ¬ AsksFor {} ["apply"] project creator call := by
    rintro project creator call (⟨-, h⟩ | ⟨-, h⟩ | h) <;> cases h
  have hkept :=
    ((exit_status_tells_application plainHost {} ["apply"] Session.sample).2.2.1 hnothing).1
  refine ⟨hstatus.2 hreportable, ?_, hclosing _ _ hcloses, hnonzero, htells.unchanged hnonzero,
    hkept, fun settings hsettings => ?_⟩
  · rw [hcommitted]
    exact (hgrants _).2 (.inr hgranted)
  · have hnostart : ¬ plainHost.Starts settings := by
      rcases List.mem_pair.1 hsettings with rfl | rfl
      · exact fun h => absurd h.logging (by decide +kernel)
      · exact fun h => absurd h.engine (by decide +kernel)
    exact (exit_status_tells_application plainHost settings (applyLine "q" "t")
      Session.sample).2.1 _ _ _ (asksFor_applyLine settings "q" hne) hnostart

/-- Calls that store a project, and a template whose name is a closing tag. -/
def closingTagCalls : List Call := [
  .change (.addOrganization "o1" (some "o1") (some "Main")),
  .change (.addProject "p1" (some "shop") (some "o1") none),
  .templates (.create "t1" (some "o1") (some "[/x]") none),
  .templates (.addGroup (some "t1") .anyone (some "user"))]

/-- The session after these calls. -/
def closingTagSession : Session := Session.serveAll {} closingTagCalls

/-- The template is applied and committed, and the status says that nothing was done. -/
theorem closing_tag_exits_after_commit :
    closingTagSession.committed.grants = [] ∧
      (∃ e, (run plainHost {} (applyLine "p1" "t1") closingTagSession).1 =
        ⟨1, "", "", some (.markup e)⟩) ∧
      (run plainHost {} (applyLine "p1" "t1") closingTagSession).2.committed.grants =
        [⟨.anyone, some "p1", "user"⟩] := by
  have hne : "t1" ≠ "" := by decide
  have hasks := asksFor_applyLine {} "p1" hne
  obtain ⟨t, u, hname, hgrants, happlies⟩ : ∃ t u, t.name = some "[/x]" ∧
      u.working.grants = [⟨.anyone, some "p1", "user"⟩] ∧
      (Call.applyTemplate .none (some "t1") (some "p1") none).Applies
        closingTagSession.rollback t u := ⟨_, _, rfl, rfl, .template rfl⟩
  obtain ⟨hprinted, hcommitted⟩ := hasks.run_of_applies plainHost_starts happlies
  have hcloses : BringsClosingTag "p1" t := by
    refine .name ⟨[], ['x'], [], ?_, by decide, by decide, List.not_mem_nil⟩
    rw [hname]
    decide +kernel
  refine ⟨rfl, ?_, ?_⟩
  · rw [hprinted]
    exact printing_of_not_reportable hcloses.not_reportable
  · rw [hcommitted, hgrants]

end CommandLine

end RoleGrants
