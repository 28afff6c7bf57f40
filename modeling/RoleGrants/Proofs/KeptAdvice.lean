import RoleGrants.Proofs.AdviceBasis

/-!
# What does not change advice

Advice rests on one template and on the groups of one user. Everything else that a session is asked
to do should leave it alone: granting and revoking, applying templates, new rows of all kinds, other
templates and other users, commits and rollbacks (`Call.Spares`). `advice_rests_on_basis` says that
it does, over runs of any length.

A run changes no advice if it keeps the basis. Each change is looked at alone: it writes another
table, or rows of another template or of another user (`Change.Spares.adviceBasis_eq`). A rollback
makes no change, and yet it could bring back rows that the session had replaced. That it does not is
a matter of reachable sessions, in which only grants are pending: what is seen and what is committed
have one basis to begin with, and every call keeps it in both.
-/

open RoleGrants.Action

namespace RoleGrants

variable {template : String} {user : Option String}

/-! ### Changes -/

/-- The template of a row to be inserted, if it is an entry or a characteristic. -/
def RowDraft.ofTemplate : RowDraft → Option String
  | .templateUser _ template _ _ | .templateGroup _ template _ _
  | .characteristic _ template _ _ => template
  | _ => none

/-- **A change spares a template and a user:** it writes no entry and no characteristic of the
template, no membership of the user, and takes no row away that these refer to. -/
def Change.Spares (template : String) (user : Option String) : Change → Prop
  | .join u _ | .leave u _ => some u ≠ user
  | .delete kind id => kind = .project ∨ (kind = .template ∧ id ≠ template)
  | .insert draft => draft.ofTemplate ≠ some template
  | .setFlag t _ _ => t ≠ template
  | .dropTemplateUsers picked => ∀ e, e.template = template → picked e = false
  | .dropTemplateGroups picked => ∀ e, e.template = template → picked e = false
  | _ => True

/-- A change of other tables keeps the basis. -/
theorem Change.adviceBasis_of_unwritten {c : Change} {s t : Store} (hrun : c.run s = .ok t)
    (h : ∀ k : Table, c.Writes k → ¬ k.BearsAdvice) :
    t.adviceBasis template user = s.adviceBasis template user :=
  Store.adviceBasis_congr fun k hk => Change.frame hrun fun hwrites => h k hwrites hk

section Tables

variable {s : Store}

/-- A new template does not hide a stored one. -/
theorem adviceBasis_addTemplate {t : Store} {id : String}
    {organization name description : Option String}
    (hrun : s.addTemplate id organization name description = .ok t)
    (hstored : s.hasTemplate template = true) :
    t.adviceBasis template user = s.adviceBasis template user := by
  obtain ⟨n, -, -, -, rfl⟩ := Store.addTemplate_eq_ok hrun
  refine Store.adviceBasis_eq ?_ rfl rfl rfl rfl
  rw [hstored, Store.hasTemplate, List.any_append, Bool.or_eq_true]
  exact .inl hstored

/-- Another template goes with its own entries. -/
theorem adviceBasis_deleteTemplate {id : String} (hid : id ≠ template) :
    (s.deleteTemplate id).adviceBasis template user = s.adviceBasis template user := by
  have hkept : ∀ t : String, t = template → (!(t == id)) = true := by
    rintro _ rfl
    simpa using hid.symm
  refine Store.adviceBasis_eq ?_ (valuesOf_filter fun _ => hkept _)
    (valuesOf_filter fun _ => hkept _) (valuesOf_filter fun _ => hkept _) rfl
  have hstill : (s.templates.filter fun t => !(t.id == id)).any (·.id == template) =
      s.templates.any (·.id == template) := by
    rw [List.any_filter]
    congr 1
    funext t
    by_cases ht : t.id = template
    · rw [hkept _ ht, Bool.true_and]
    · rw [beq_eq_false_iff_ne.2 ht, Bool.and_false]
  exact hstill

end Tables

/-- **What is spared keeps the basis,** if the template is stored. -/
theorem Change.Spares.adviceBasis_eq {c : Change} {s t : Store} (hc : c.Spares template user)
    (hrun : c.run s = .ok t) (hstored : s.hasTemplate template = true) :
    t.adviceBasis template user = s.adviceBasis template user := by
  cases c with
  | addOrganization | addUser | addGroup | addProject | renameGroup | refresh | dropUserGrants
  | dropGroupGrants =>
    refine Change.adviceBasis_of_unwritten hrun fun k hk => ?_
    cases hk
    exact id
  | addTemplate id organization name description => exact adviceBasis_addTemplate hrun hstored
  | insert draft =>
    cases draft with
    | userGrant | groupGrant =>
      refine Change.adviceBasis_of_unwritten hrun fun k hk => ?_
      cases hk
      exact id
    | template id organization name => exact adviceBasis_addTemplate hrun hstored
    | templateUser rowId home u role =>
      obtain ⟨e, _, _, rfl, -, -, -, -, -, rfl⟩ := Store.addTemplateUser_eq_ok hrun
      exact Store.adviceBasis_eq rfl (valuesOf_snoc fun h => hc (congrArg some h)) rfl rfl rfl
    | templateGroup rowId home g role =>
      obtain ⟨e, _, rfl, -, -, -, -, rfl⟩ := Store.addTemplateGroup_eq_ok hrun
      exact Store.adviceBasis_eq rfl rfl (valuesOf_snoc fun h => hc (congrArg some h)) rfl rfl
    | characteristic rowId home role flag =>
      obtain ⟨e, _, rfl, -, -, -, rfl⟩ := Store.addCharacteristic_eq_ok hrun
      exact Store.adviceBasis_eq rfl rfl rfl (valuesOf_snoc fun h => hc (congrArg some h)) rfl
  | setFlag home role flag =>
    obtain ⟨f, -, rfl⟩ := Store.setFlag_eq_ok hrun
    refine Store.adviceBasis_eq rfl rfl rfl
      (valuesOf_map (fun c => ?_) fun c hc' => if_neg fun h => ?_) rfl
    · split <;> rfl
    · -- a flag that is set is one of the template that is spared
      obtain ⟨hhome, -⟩ := Bool.and_eq_true_iff.1 h
      exact hc ((beq_iff_eq.1 hhome).symm.trans hc')
  | join u g =>
    cases hrun
    exact Store.adviceBasis_eq rfl rfl rfl rfl (valuesOf_snoc hc)
  | leave u g =>
    cases hrun
    refine Store.adviceBasis_eq rfl rfl rfl rfl (valuesOf_filter fun m hm => ?_)
    have hother : m.user ≠ u := fun h => hc (h ▸ hm)
    rw [beq_eq_false_iff_ne.2 hother, Bool.false_and, Bool.not_false]
  | dropTemplateUsers picked =>
    cases hrun
    refine Store.adviceBasis_eq rfl (valuesOf_filter fun e he => ?_) rfl rfl rfl
    rw [hc e he, Bool.not_false]
  | dropTemplateGroups picked =>
    cases hrun
    refine Store.adviceBasis_eq rfl rfl (valuesOf_filter fun e he => ?_) rfl rfl
    rw [hc e he, Bool.not_false]
  | delete kind id =>
    cases hrun
    rcases hc with rfl | ⟨rfl, hid⟩
    · rfl
    · exact adviceBasis_deleteTemplate hid

/-- Granting and revoking spare every template and everybody. -/
theorem Change.IsGranting.spares {c : Change} (h : c.IsGranting) : c.Spares template user := by
  cases c with
  | insert draft =>
    cases draft with
    | userGrant | groupGrant => exact nofun
    | _ => cases h
  | refresh | dropUserGrants | dropGroupGrants => trivial
  | _ => cases h

/-! ### Calls -/

/-- **A change of rows spares a template and a user:** it creates something, puts another user into
a group or takes one out, renames a group, deletes a project or another template, or inserts a row
that is no entry and no characteristic of the template. -/
def RowChange.Spares (template : String) (user : Option String) : RowChange → Prop
  | .addOrganization .. | .addUser .. | .addGroup .. | .addProject .. | .renameGroup .. => True
  | .addMember u _ | .removeMember u _ => u = none ∨ u ≠ user
  | .delete .project _ => True
  | .delete .template id => id ≠ some template
  | .delete .. => False
  | .insert draft => draft.ofTemplate ≠ some template

/-- Editing spares a template if it edits another one. -/
def TemplateCall.Spares (template : String) : TemplateCall → Prop
  | .addUser home _ _ | .addGroup home _ _ | .removeUser home _ _ | .removeGroup home _ _
  | .setCharacteristic home _ _ => home ≠ some template
  | .create .. | .resolve _ | .resolveDefault _ => True

/-- **A call spares a template and a user.** Only changes of rows and editing may fail to: granting,
questions, applications of any template, advice, command lines and the ends of transactions all
do. -/
def Call.Spares (template : String) (user : Option String) : Call → Prop
  | .change c => c.Spares template user
  | .templates c => c.Spares template
  | _ => True

/-- What is spared by a change of rows is spared by the change that it comes to. -/
theorem RowChange.Spares.of_makes {c : RowChange} {d : Change} (hc : c.Spares template user)
    (hd : c.Makes d) : d.Spares template user := by
  cases c with
  | addOrganization | addUser | addProject =>
    cases hd
    trivial
  | addGroup =>
    obtain ⟨n, -, rfl⟩ := hd
    trivial
  | renameGroup =>
    obtain ⟨g, n, -, -, rfl⟩ := hd
    trivial
  | addMember u g | removeMember u g =>
    obtain ⟨u, g, rfl, -, rfl⟩ := hd
    exact hc.resolve_left nofun
  | delete kind id =>
    obtain ⟨i, rfl, rfl⟩ := hd
    cases kind with
    | project => exact .inl rfl
    | template => exact .inr ⟨rfl, fun h => hc (congrArg some h)⟩
    | _ => cases hc
  | insert draft =>
    cases hd
    exact hc

theorem TemplateCall.Spares.of_makes {c : TemplateCall} {d : Change} (hc : c.Spares template)
    (hd : c.Makes d) : d.Spares template user := by
  cases c with
  | create =>
    obtain ⟨n, -, rfl⟩ := hd
    trivial
  | addUser =>
    obtain ⟨r, -, rfl⟩ := hd
    exact hc
  | addGroup =>
    obtain ⟨id, r, -, -, rfl⟩ := hd
    exact hc
  | removeUser home u role =>
    cases hd
    rintro e rfl
    refine Bool.eq_false_iff.2 fun hpicked => hc ?_
    have hhome := (Bool.and_eq_true_iff.1 (Bool.and_eq_true_iff.1 hpicked).1).1
    exact (beq_iff_eq.1 hhome).symm
  | removeGroup home group role =>
    obtain ⟨id, -, rfl⟩ := hd
    rintro e rfl
    refine Bool.eq_false_iff.2 fun hpicked => hc ?_
    have hhome := (Bool.and_eq_true_iff.1 (Bool.and_eq_true_iff.1 hpicked).1).1
    exact (beq_iff_eq.1 hhome).symm
  | setCharacteristic =>
    obtain ⟨t, r, rfl, -, rfl | rfl⟩ := hd
    · exact fun h => hc (congrArg some h)
    · exact hc
  | resolve | resolveDefault => cases hd

namespace Session

variable {s : Session} {b : AdviceBasis}

/-- A session sees and has committed a basis. -/
def HasBasis (template : String) (user : Option String) (b : AdviceBasis) (s : Session) : Prop :=
  s.InBoth fun r => r.adviceBasis template user = b

theorem HasBasis.atOnce {allowed : Change → Prop} {x : Action Answer}
    (h : s.HasBasis template user b) (hb : b.stored = true)
    (hallowed : ∀ d, allowed d → d.Spares template user) (hx : CommitsAtOnce allowed x s) :
    (x.after s).HasBasis template user b := by
  cases hx with
  | still hworking hcommitted =>
    unfold HasBasis InBoth
    rw [hworking, hcommitted]
    exact h
  | made hd hrun hcommitted =>
    have hstored : s.working.hasTemplate template = true :=
      (congrArg AdviceBasis.stored h.1).trans hb
    have hmade := ((hallowed _ hd).adviceBasis_eq hrun hstored).trans h.1
    refine ⟨hmade, ?_⟩
    rw [hcommitted]
    exact hmade

/-- **A call that spares the template and the user keeps the basis** in both views of the
session. -/
theorem HasBasis.serve (h : s.HasBasis template user b) (hb : b.stored = true) {c : Call}
    (hc : c.Spares template user) : (s.serve c).2.HasBasis template user b := by
  have hafter : (c.run.after s).HasBasis template user b := by
    cases c with
    | change c => exact h.atOnce hb (fun _ hd => hc.of_makes hd) (c.run_atOnce.map _)
    | templates c => exact h.atOnce hb (fun _ hd => hc.of_makes hd) c.run_atOnce
    | _ =>
      -- nothing but grants and marks is changed, in whatever way the transaction ends
      refine Steps.invariant ?_ (Call.run_moves _ s) h
      intro t d store hd _ hrun hbasis
      have hspares : d.Spares template user := (Call.granting_of_allows rfl hd).spares
      have hstored : t.working.hasTemplate template = true :=
        (congrArg AdviceBasis.stored hbasis).trans hb
      exact (hspares.adviceBasis_eq hrun hstored).trans hbasis
  rcases s.serve_after c with hserve | hserve
  · rw [hserve]
    exact hafter
  · rw [hserve]
    exact ⟨hafter.2, hafter.2⟩

/-- What is pending in a reachable session is no part of the basis. -/
theorem ReachedBy.hasBasis {kind : Call → Prop} (h : s.ReachedBy kind) :
    s.HasBasis template user (s.working.adviceBasis template user) := by
  refine ⟨rfl, (Store.adviceBasis_congr fun k hk => ?_).symm⟩
  exact h.pendsOnlyGrants k hk.not_mayPend

end Session

/-- **Advice rests on the template and the memberships alone.** Two reachable sessions in which the
default template is stored with the same entries and characteristics, and in which a user belongs to
the same groups, advise the user alike: for every role, and for whatever keys and qualifiers they
are asked about. So no run of calls changes the advice that spares the template and the user: not
granting and revoking, applications that succeed or fail, new rows, members that come or go, groups
that are renamed, projects that are deleted, editing of other templates, commits or rollbacks, in
whatever order. -/
theorem advice_rests_on_basis {s : Session} (hs : s.Reachable) (template : String)
    (user : Option String) :
    (∀ t : Session, t.Reachable →
      s.working.adviceBasis template user = t.working.adviceBasis template user →
        s.AdvisesAlike template user t) ∧
    ∀ calls : List Call, s.working.hasTemplate template = true →
      (∀ c ∈ calls, c.Spares template user) →
        s.AdvisesAlike template user (s.serveAll calls) := by
  refine ⟨fun t ht hbasis => Session.advisesAlike_of_basis hs.sound.1 ht.sound.1 hbasis, ?_⟩
  intro calls hstored hcalls
  have hstart : s.HasBasis template user (s.working.adviceBasis template user) := hs.hasBasis
  have hend : (s.serveAll calls).HasBasis template user (s.working.adviceBasis template user) :=
    Session.serveAll_preserves (fun c hc t ht => ht.serve hstored (hcalls c hc)) hstart
  -- the end of the run is reachable as well, by the calls that led to its start and those of the
  -- run
  have hreachable : (s.serveAll calls).Reachable := by
    obtain ⟨before, -, rfl⟩ := hs
    exact ⟨before ++ calls, fun _ _ => trivial, Session.serveAll_append {} before calls⟩
  exact Session.advisesAlike_of_basis hs.sound.1 hreachable.sound.1 hend.1.symm

/-- The sample again, with another name of its template and with the entries in another order. -/
def reorderedSampleCalls : List Call := [
  .change (.addOrganization "o" (some "main") (some "Main")),
  .change (.addUser "u" (some "ann") none),
  .change (.addGroup "g" (some "o") (some "devs")),
  .change (.addMember (some "u") (some "g")),
  .templates (.create "t" none (some "renamed") none),
  .templates (.addUser (some "t") (some "u") (some "admin")),
  .templates (.addGroup (some "t") .anyone (some "browse")),
  .templates (.addGroup (some "t") (.group (some "g")) (some "scan")),
  .templates (.setCharacteristic (some "t") (some "admin") (some true))]

/-- A member of the group is told of its role whatever order the entries have come in. This stays so
when the group is renamed, when another user joins it, when the template is applied to a project and
the project deleted, and when what is pending is rolled back. -/
theorem sample_advice_kept :
    ∃ s t : Session, s.Reachable ∧ t.Reachable ∧
      s.working.templateGroups ≠ t.working.templateGroups ∧
      (s.serve (.check "t" none (some "u") (some "scan") (some "new") (some "TRK"))).1 =
        .ok (.advice true ["u"]) ∧
      (t.serve (.check "t" none (some "u") (some "scan") (some "other") none)).1 =
        .ok (.advice true ["u"]) ∧
      ((s.serveAll [
          .change (.renameGroup (some "g") (some "crew")),
          .change (.addUser "v" (some "bob") none),
          .change (.addMember (some "v") (some "g")),
          .applyTemplate .none (some "t") (some "q") (some "u"),
          .change (.delete .project (some "q")),
          .rollback]).serve (.check "t" none (some "u") (some "scan") none (some "APP"))).1 =
        .ok (.advice true ["u"]) := by
  let t : Session := .serveAll {} reorderedSampleCalls
  have hs : Session.sample.Reachable := ⟨sampleCalls, fun _ _ => trivial, rfl⟩
  have ht : t.Reachable := ⟨reorderedSampleCalls, fun _ _ => trivial, rfl⟩
  have hrows : Session.sample.working.templateGroups =
      [⟨none, "t", some "g", "scan"⟩, ⟨none, "t", none, "browse"⟩] := by decide +kernel
  have hrows' : t.working.templateGroups =
      [⟨none, "t", none, "browse"⟩, ⟨none, "t", some "g", "scan"⟩] := by decide +kernel
  have hbasis : Session.sample.working.adviceBasis "t" (some "u") =
      t.working.adviceBasis "t" (some "u") := by
    have hstored : Session.sample.working.hasTemplate "t" = t.working.hasTemplate "t" := by
      decide +kernel
    have husers : Session.sample.working.templateUsers = t.working.templateUsers := by
      decide +kernel
    have hflags : Session.sample.working.characteristics = t.working.characteristics := by
      decide +kernel
    have hmembers : Session.sample.working.memberships = t.working.memberships := by decide +kernel
    simp only [Store.adviceBasis, Store.memberOf_eq, hstored, husers, hflags, hmembers, hrows,
      hrows']
    congr 1
    ext ⟨group, role⟩
    simp [valuesOf, or_comm]
  obtain ⟨halike, hkept⟩ := advice_rests_on_basis hs "t" (some "u")
  have hhere : (Session.sample.serve
      (.check "t" none (some "u") (some "scan") (some "new") (some "TRK"))).1 =
        .ok (.advice true ["u"]) := rfl
  refine ⟨Session.sample, t, hs, ht, ?_, hhere, ?_, ?_⟩
  · rw [hrows, hrows']
    decide
  · rw [← (halike t ht hbasis).answers none (some "scan") (some "new") _ (some "TRK"), hhere]
  · rw [← (hkept _ (by decide +kernel) ?_).answers none (some "scan") (some "new") _ (some "TRK"),
      hhere]
    simp [Call.Spares, RowChange.Spares]

end RoleGrants
