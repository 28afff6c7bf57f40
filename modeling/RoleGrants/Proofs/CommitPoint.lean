import RoleGrants.Proofs.KeptGrant
import RoleGrants.Proofs.Transaction

/-!
# Who ends the transaction

Some calls commit always, some with one of their answers only and some never; `Call.CommitsIn` lists
those that do. At each of them everything pending becomes permanent, every other call leaves the
committed rows as they are, and so what a rollback gives back behind a run of calls is what was
seen at the last of them (`commit_points`).

For the calls that commit this is what is known of their actions (`Call.CommitsIn.commits`). The
calls that never commit need nothing of this: they make no such move (`Call.Allows`), and the
committed rows stay (`Steps.committed_eq`). A run is taken apart at its last commit point
(`exists_last_commit`), behind which the transaction stays open.
-/

open RoleGrants.Action

namespace RoleGrants

/-! ### Commit points -/

/-- What an application has applied, and the session as it then stands. -/
inductive Call.Applies (s : Session) : Call → Snapshot → Session → Prop where
  | template {faults : Faults} {template project creator : Option String} {t : Snapshot}
      {u : Session} (h : RoleGrants.applyTemplate faults template project creator s = .ok t u) :
      Applies s (.applyTemplate faults template project creator) t u
  | snapshot {faults : Faults} {snapshot t : Snapshot} {project creator : Option String}
      {u : Session} (h : RoleGrants.applySnapshot faults snapshot project creator s = .ok t u) :
      Applies s (.applySnapshot faults snapshot project creator) t u
  | draft {faults : Faults} {draft : SnapshotDraft} {snapshot t : Snapshot}
      {project creator : Option String} {u : Session} (hdraft : draft.build = .ok snapshot)
      (h : RoleGrants.applySnapshot faults snapshot project creator s = .ok t u) :
      Applies s (.applyDraft faults draft project creator) t u
  | default {faults : Faults} {selector : String} {project creator : Option String} {t : Snapshot}
      {u : Session}
      (h : RoleGrants.applyDefault faults selector project creator s = .ok (some t) u) :
      Applies s (.applyDefault faults selector project creator) t u

/-- **The commit points:** a change of a row that answers true, an editing call with an answer that
says so, an application that goes through, and a commit. A command line is one as well, since the
session commits before it. -/
inductive Call.CommitsIn (s : Session) : Call → Prop where
  | change {c : RowChange} {t : Session} (h : c.run s = .ok true t) : CommitsIn s (.change c)
  | templates {c : TemplateCall} {answer : Answer} {t : Session} (h : c.run s = .ok answer t)
      (hanswer : c.commitsOn answer = true) : CommitsIn s (.templates c)
  | application {c : Call} {t : Snapshot} {u : Session} (h : c.Applies s t u) : CommitsIn s c
  | commit : CommitsIn s .commit
  | commandLine {host : CommandLine.Host} {settings : Settings} {arguments : List String} :
      CommitsIn s (.commandLine host settings arguments)

/-- Whether a call only reads: a question, advice, or a template with its entries. -/
def Call.reads : Call → Bool
  | .ask _ | .check .. | .templates (.resolve _) | .templates (.resolveDefault _) => true
  | _ => false

section Calls

variable {s : Session} {c : Call}

theorem Call.not_commitsIn_of_reads (hreads : c.reads = true) : ¬ c.CommitsIn s := by
  intro h
  cases h with
  | @templates c _ _ hrun hanswer =>
    -- what is resolved has no answer that commits
    cases c with
    | resolve | resolveDefault => cases hanswer
    | _ => cases hreads
  | application happlies => cases happlies <;> cases hreads
  | _ => cases hreads

/-- A draft that makes a snapshot is applied as that snapshot. -/
theorem Call.run_applyDraft {faults : Faults} {draft : SnapshotDraft} {t : Snapshot}
    {project creator : Option String} (hdraft : draft.build = .ok t) :
    (Call.applyDraft faults draft project creator).run =
      (Call.applySnapshot faults t project creator).run := by
  show (usable draft.build >>= fun t =>
    (fun t => Answer.snapshot (some t)) <$> RoleGrants.applySnapshot faults t project creator) = _
  rw [hdraft]
  rfl

/-- A command leaves committed rows only. -/
theorem CommandLine.committed_run (host : CommandLine.Host) (settings : Settings)
    (arguments : List String) (s : Session) (hs : s.committed = s.working) :
    (CommandLine.run host settings arguments s).2.committed =
      (CommandLine.run host settings arguments s).2.working := by
  rcases CommandLine.session_run host settings arguments s with ⟨command, -, hrun⟩ | hrun
  · rw [hrun]
    rfl
  · rw [hrun]
    exact hs

theorem Call.Applies.commits {t : Snapshot} {u : Session} (h : c.Applies s t u) :
    c.run.Commits s := by
  cases h with
  | template h => exact .map _ ((applyTemplate_ends (fun _ => trivial) ..).commits_of h trivial)
  | snapshot h => exact .map _ ((applySnapshot_ends (fun _ => trivial) ..).commits_of h trivial)
  | draft hdraft h =>
    rw [Call.run_applyDraft hdraft]
    exact .map _ ((applySnapshot_ends (fun _ => trivial) ..).commits_of h trivial)
  | default h => exact .map _ ((applyDefault_ends ..).commits_of h rfl)

/-- An application that has gone through is answered. -/
theorem Call.Applies.answered {t : Snapshot} {u : Session} (h : c.Applies s t u) :
    ∃ a, c.run s = .ok a u := by
  cases h with
  | template h => exact ⟨_, by rw [Call.run, map_run, h]⟩
  | default h => exact ⟨_, by rw [Call.run, map_run, h]⟩
  | snapshot h => exact ⟨_, by rw [Call.run, map_run, h]⟩
  | draft hdraft h => exact ⟨_, by rw [Call.run_applyDraft hdraft, Call.run, map_run, h]⟩

/-- A commit point is answered. -/
theorem Call.CommitsIn.answered (h : c.CommitsIn s) : ∃ a t, c.run s = .ok a t := by
  cases h with
  | change h => exact ⟨_, _, by rw [Call.run, map_run, h]⟩
  | templates h _ => exact ⟨_, _, h⟩
  | application h =>
    obtain ⟨a, ha⟩ := h.answered
    exact ⟨a, _, ha⟩
  | commit => exact ⟨_, _, rfl⟩
  | commandLine => exact ⟨_, _, rfl⟩

/-- At a commit point the transaction is ended. -/
theorem Call.CommitsIn.commits (h : c.CommitsIn s) : c.run.Commits s := by
  cases h with
  | change h => exact .map _ ((RowChange.run_ends _).commits_of h rfl)
  | templates h hanswer => exact (TemplateCall.run_ends _).commits_of h hanswer
  | application h => exact h.commits
  | commit => exact ⟨rfl, fun _ => rfl⟩
  | commandLine =>
    refine ⟨?_, fun _ => rfl⟩
    exact CommandLine.committed_run _ _ _ s.commit rfl

theorem applySnapshot_leaves {faults : Faults} {t : Snapshot} {project creator : Option String}
    (hnot : ∀ t' u, applySnapshot faults t project creator s ≠ .ok t' u) :
    ((Call.applySnapshot faults t project creator).run.after s).committed = s.committed := by
  rw [Call.run, after_map]
  exact (applySnapshot_ends (fun _ => trivial) faults t project creator).leaves_of
    fun t' u hrun _ => hnot t' u hrun

/-- Everywhere else the committed rows stay. -/
theorem Call.leaves_of_not_commitsIn (h : ¬ c.CommitsIn s) :
    (c.run.after s).committed = s.committed := by
  cases c with
  | change c =>
    rw [Call.run, after_map]
    refine c.run_ends.leaves_of ?_
    rintro _ t hrun rfl
    exact h (.change hrun)
  | templates c => exact c.run_ends.leaves_of fun a t hrun ha => h (.templates hrun ha)
  | applyTemplate faults template project creator =>
    rw [Call.run, after_map]
    exact (applyTemplate_ends (fun _ => trivial) ..).leaves_of
      fun t u hrun _ => h (.application (.template hrun))
  | applySnapshot faults t project creator =>
    exact applySnapshot_leaves fun t' u hrun => h (.application (.snapshot hrun))
  | applyDraft faults draft project creator =>
    cases hdraft : draft.build with
    | error m =>
      -- what cannot be in a set makes no snapshot, and nothing is begun
      have hrun : (Call.applyDraft faults draft project creator).run s = .error (.misused m) s := by
        show (usable draft.build >>= _) s = _
        rw [hdraft]
        rfl
      unfold after
      rw [hrun]
    | ok t =>
      rw [Call.run_applyDraft hdraft]
      exact applySnapshot_leaves fun t' u hrun => h (.application (.draft hdraft hrun))
  | applyDefault faults selector project creator =>
    rw [Call.run, after_map]
    refine (applyDefault_ends ..).leaves_of fun t u hrun ht => ?_
    obtain ⟨t, rfl⟩ := Option.isSome_iff_exists.1 ht
    exact h (.application (.default hrun))
  | commit => exact absurd .commit h
  | commandLine host settings arguments => exact absurd .commandLine h
  | grants c =>
    have hgranting : ¬ c.Allows .commit := fun h => GrantCall.Allows.granting h
    exact Session.Steps.committed_eq hgranting (c.run_moves s)
  | ask q => exact Session.Steps.committed_eq id (Call.run_moves (.ask q) s)
  | check =>
    exact Session.Steps.committed_eq (by rintro ⟨_, h⟩; cases h) (Call.run_moves (.check ..) s)
  | rollback => exact Session.Steps.committed_eq (fun h => nomatch h) (Call.run_moves .rollback s)

end Calls

/-! ### Serving calls -/

namespace Session

/-- The rollback behind a store error leaves the committed rows alone. -/
theorem committed_serve (s : Session) (c : Call) :
    (s.serve c).2.committed = (c.run.after s).committed := by
  unfold serve after
  cases c.run s with
  | ok a t => rfl
  | error e t => cases e <;> rfl

theorem permanent_serve {s : Session} {c : Call} (h : c.run.Commits s) :
    (s.serve c).2.committed = (s.serve c).2.working := by
  have hpermanent := h.permanent
  unfold after at hpermanent
  unfold serve
  cases hrun : c.run s with
  | ok a t =>
    rw [hrun] at hpermanent
    exact hpermanent
  | error e t =>
    rw [hrun] at hpermanent
    cases e with
    | store e => rfl
    | _ => exact hpermanent

/-- What is pending counts as committed. -/
theorem serve_commit {s : Session} {c : Call} (h : c.run.Commits s) :
    s.commit.serve c = s.serve c := by
  have hpending : c.run s.commit = c.run s := h.pending s.working
  unfold serve
  rw [hpending]

/-- The grants that are pending at a commit point are committed there, unless the call deletes. -/
theorem mem_committed_serve {s : Session} {c : Call} (h : c.run.Commits s)
    (hc : c.deletes = false) {g : Grant} (hg : g ∈ s.working.grants) :
    g ∈ (s.serve c).2.committed.grants := by
  have hcalls : ∀ c' ∈ [c], c'.deletes = false := by
    intro c' hc'
    cases List.mem_singleton.1 hc'
    exact hc
  have hstart : s.commit.InBoth s.working.Keeps := ⟨.refl _, .refl _⟩
  have hkept : s.working.Keeps (s.commit.serve c).2.committed := (keeps_serveAll hcalls hstart).2
  rw [serve_commit h] at hkept
  exact hkept.grants g hg

/-- **None of the calls of a run is a commit point.** -/
def StaysOpen : Session → List Call → Prop
  | _, [] => True
  | s, c :: calls => ¬ c.CommitsIn s ∧ StaysOpen (s.serve c).2 calls

/-- As long as the transaction stays open, the committed rows are those of its beginning. -/
theorem StaysOpen.committed_eq {s : Session} {calls : List Call} (h : s.StaysOpen calls) :
    (s.serveAll calls).committed = s.committed := by
  induction calls generalizing s with
  | nil => rfl
  | cons c calls ih =>
    obtain ⟨hfirst, hrest⟩ := h
    calc (s.serveAll (c :: calls)).committed
        = (s.serve c).2.committed := ih hrest
      _ = (c.run.after s).committed := s.committed_serve c
      _ = s.committed := Call.leaves_of_not_commitsIn hfirst

/-- A run has a last commit point, or none. -/
theorem exists_last_commit (s : Session) (calls : List Call) :
    s.StaysOpen calls ∨ ∃ before c after, calls = before ++ c :: after ∧
      c.CommitsIn (s.serveAll before) ∧ (s.serveAll (before ++ [c])).StaysOpen after := by
  induction calls generalizing s with
  | nil => exact .inl trivial
  | cons c calls ih =>
    rcases ih (s.serve c).2 with hopen | ⟨before, c', after, rfl, hcommits, hopen⟩
    · by_cases hcommits : c.CommitsIn s
      · exact .inr ⟨[], c, calls, rfl, hcommits, hopen⟩
      · exact .inl ⟨hcommits, hopen⟩
    · exact .inr ⟨c :: before, c', after, rfl, hcommits, hopen⟩

/-- Granting and revoking are no commit points. -/
theorem staysOpen_grants (s : Session) (calls : List GrantCall) :
    s.StaysOpen (calls.map .grants) := by
  induction calls generalizing s with
  | nil => trivial
  | cons c calls ih =>
    refine ⟨?_, ih _⟩
    rintro (_ | _ | h)
    cases h

/-- What a run of grants and revocations has done is taken back by a rollback. -/
theorem rollback_grants (s : Session) (calls : List GrantCall) :
    (s.serveAll (calls.map .grants)).rollback =
      { s.rollback with clock := (s.serveAll (calls.map .grants)).clock } := by
  have hcommitted := (s.staysOpen_grants calls).committed_eq
  have hlog : (s.serveAll (calls.map .grants)).log = s.log := by
    refine Steps.log_eq ?_ (s.serveAll_steps (calls.map .grants))
    rintro e (⟨c, hc, hallowed⟩ | hallowed)
    · obtain ⟨c, -, rfl⟩ := List.mem_map.1 hc
      exact GrantCall.Allows.granting hallowed
    · cases hallowed
  unfold rollback
  rw [hcommitted, hlog]

end Session

/-- **Who ends the transaction.** At a commit point all that is seen is committed, as if everything
pending had been committed before, and no pending grant is lost but to a deletion. No other call
touches the committed rows: no granting, nothing that only reads, and no call that fails. So what a
rollback gives back behind a run of calls is what the session saw at the last commit point of the
run, or what had been committed at its beginning if there is none; and where nothing was pending,
granting and revoking leave nothing behind but the readings of the clock. -/
theorem commit_points (s : Session) :
    (∀ c : Call, c.CommitsIn s →
      (s.serve c).2.committed = (s.serve c).2.working ∧ s.commit.serve c = s.serve c ∧
        (c.deletes = false → ∀ g ∈ s.working.grants, g ∈ (s.serve c).2.committed.grants)) ∧
    (∀ c : Call, ¬ c.CommitsIn s → (s.serve c).2.committed = s.committed) ∧
    (∀ c : GrantCall, (s.serve (.grants c)).2.committed = s.committed) ∧
    (∀ c : Call, c.reads = true → (s.serve c).2.committed = s.committed) ∧
    (∀ c e t, s.serve c = (.error e, t) → ¬ c.CommitsIn s ∧ t.committed = s.committed) ∧
    (∀ calls : List Call,
      (s.StaysOpen calls ∧ (s.serveAll calls).rollback.working = s.committed) ∨
        ∃ before c after, calls = before ++ c :: after ∧ c.CommitsIn (s.serveAll before) ∧
          (s.serveAll (before ++ [c])).StaysOpen after ∧
          (s.serveAll calls).rollback.working = (s.serveAll (before ++ [c])).working) ∧
    ∀ calls : List GrantCall, s.committed = s.working →
      ∃ n, (s.serveAll (calls.map .grants)).rollback = { s with clock := n } := by
  have hleaves : ∀ c : Call, ¬ c.CommitsIn s → (s.serve c).2.committed = s.committed := by
    intro c hc
    rw [s.committed_serve]
    exact Call.leaves_of_not_commitsIn hc
  refine ⟨?_, hleaves, ?_, ?_, ?_, ?_, ?_⟩
  · intro c hc
    have hcommits := hc.commits
    exact ⟨Session.permanent_serve hcommits, Session.serve_commit hcommits,
      fun hdeletes g hg => Session.mem_committed_serve hcommits hdeletes hg⟩
  · intro c
    exact hleaves _ (s.staysOpen_grants [c]).1
  · intro c hreads
    exact hleaves c (Call.not_commitsIn_of_reads hreads)
  · intro c e t hserve
    have hc : ¬ c.CommitsIn s := by
      intro hc
      obtain ⟨a, u, hrun⟩ := hc.answered
      cases (Session.serve_of_ok hrun).symm.trans hserve
    have hsame := hleaves c hc
    rw [hserve] at hsame
    exact ⟨hc, hsame⟩
  · intro calls
    rcases s.exists_last_commit calls with hopen | ⟨before, c, after, rfl, hcommits, hopen⟩
    · exact .inl ⟨hopen, hopen.committed_eq⟩
    · refine .inr ⟨before, c, after, rfl, hcommits, hopen, ?_⟩
      have hpoint : s.serveAll (before ++ [c]) = ((s.serveAll before).serve c).2 :=
        s.serveAll_append before [c]
      have hrun : s.serveAll (before ++ c :: after) =
          (s.serveAll (before ++ [c])).serveAll after := by
        rw [← Session.serveAll_append, List.append_assoc]
        rfl
      calc (s.serveAll (before ++ c :: after)).rollback.working
          = ((s.serveAll (before ++ [c])).serveAll after).committed := by rw [hrun]; rfl
        _ = (s.serveAll (before ++ [c])).committed := hopen.committed_eq
        _ = (s.serveAll (before ++ [c])).working := by
          rw [hpoint]
          exact Session.permanent_serve hcommits.commits
  · intro calls hnothing
    refine ⟨(s.serveAll (calls.map .grants)).clock, ?_⟩
    rw [s.rollback_grants calls, Session.rollback, hnothing]

/-- Removing an entry that is not there answers false, and the pending grant of the sample is
committed with it. Adding one that is there answers false as well, and leaves the grant pending.
Once it is committed, a rollback takes back another grant and a failing one, and leaves this one. -/
theorem sample_commit_points :
    (⟨.user "u", some "p", "admin"⟩ : Grant) ∉ Session.sample.committed.grants ∧
      (∃ t, Session.sample.serve (.templates (.removeUser (some "t") (some "u") (some "scan"))) =
          (.ok (.flag false), t) ∧ ⟨.user "u", some "p", "admin"⟩ ∈ t.rollback.working.grants) ∧
      (∃ t, Session.sample.serve (.templates (.addUser (some "t") (some "u") (some "admin"))) =
          (.ok (.flag false), t) ∧ t.committed = Session.sample.committed) ∧
      ∃ n, (Session.sample.commit.serveAll (List.map Call.grants [
          .grant (.group (some "g")) (some "scan") (.project (some "p")),
          .grant (.user (some "nobody")) (some "scan") (.project (some "p"))])).rollback =
        { Session.sample.commit with clock := n } := by
  obtain ⟨hcommits, hleaves, -⟩ := commit_points Session.sample
  obtain ⟨-, -, -, -, -, -, hgrants⟩ := commit_points Session.sample.commit
  refine ⟨by decide +kernel, ?_, ?_, hgrants _ rfl⟩
  · refine ⟨_, rfl, ?_⟩
    have hpoint : Call.CommitsIn Session.sample
        (.templates (.removeUser (some "t") (some "u") (some "scan"))) := .templates rfl rfl
    obtain ⟨-, -, hpending⟩ := hcommits _ hpoint
    exact hpending rfl _ (by decide +kernel)
  · refine ⟨_, rfl, ?_⟩
    refine hleaves (.templates (.addUser (some "t") (some "u") (some "admin"))) ?_
    rintro (_ | ⟨hrun, hanswer⟩ | happlied)
    · cases hrun
      cases hanswer
    · cases happlied

end RoleGrants
