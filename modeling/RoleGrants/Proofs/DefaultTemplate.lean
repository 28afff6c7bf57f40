import RoleGrants.Proofs.LazyAdvice
import RoleGrants.Proofs.SnapshotRows

/-!
# The default template

The default template is named by a selector, and it is found by a function of its own, which answers
none where finding a template by its id would end in a refusal. `default_is_template_named` says
that this is all the difference. Where the selector names a stored template, applying the default is
applying that template, in every outcome; where it names none, nothing is done, and nothing is
advised.

The two functions are compared once, on the rows of the session (`resolveDefault_of_names`,
`resolveDefault_of_not_names`). What comes afterwards is the same application, so no outcome of it
has to be looked at.
-/

open RoleGrants.Action

namespace RoleGrants

/-- **A selector names the default template:** it is not empty, and it is the id of a stored one. -/
def Store.NamesDefault (s : Store) (selector : String) : Prop :=
  selector ≠ "" ∧ ∃ t ∈ s.templates, t.id = selector

/-- What is reported when a selector names no stored template. An empty one is no mistake. -/
def missingDefaultEvents (selector : String) : List Event :=
  if selector = "" then [] else [.defaultTemplateMissing selector]

/-- The template that is named is found by its id. -/
theorem Store.NamesDefault.template?_eq {s : Store} {selector : String}
    (h : s.NamesDefault selector) :
    ∃ t : Template, t.id = selector ∧ s.template? (some selector) = some t := by
  obtain ⟨-, t, ht, hid⟩ := h
  have hfound : (s.template? (some selector)).isSome = true :=
    List.find?_isSome.2 ⟨t, ht, by simpa using hid⟩
  obtain ⟨stored, hstored⟩ := Option.isSome_iff_exists.1 hfound
  exact ⟨stored, (Option.some.inj (mem_of_template? hstored).2).symm, hstored⟩

/-! ### Resolving -/

section Resolving

variable {s : Session} {selector : String}

/-- Where the selector names a template, both functions find it and leave the session as it is. -/
theorem resolveDefault_of_names (h : s.working.NamesDefault selector) :
    ∃ t, resolveTemplate (some selector) s = .ok t s ∧
      resolveDefault (some selector) s = .ok (some t) s := by
  obtain ⟨t, -, ht⟩ := h.template?_eq
  refine ⟨s.working.snapshot t, ?_, ?_⟩
  · rw [resolveTemplate_run, ht]
  · rw [resolveDefault_of_ne h.1, ht]

/-- Where it names none, that is all that is found, and at most a report is made. -/
theorem resolveDefault_of_not_names (h : ¬ s.working.NamesDefault selector) :
    resolveDefault (some selector) s =
      .ok none { s with log := s.log ++ missingDefaultEvents selector } := by
  by_cases hempty : selector = ""
  · subst hempty
    rw [missingDefaultEvents, if_pos rfl, List.append_nil]
    rfl
  · have hnone : s.working.template? (some selector) = none := by
      refine List.find?_eq_none.2 fun t ht hid => h ⟨hempty, t, ht, ?_⟩
      simpa using hid
    rw [resolveDefault_of_ne hempty, hnone, missingDefaultEvents, if_neg hempty]

end Resolving

/-! ### Calls -/

section Calls

variable {s : Session} {selector : String}

theorem run_applyDefault_of_names (h : s.working.NamesDefault selector) (faults : Faults)
    (project creator : Option String) :
    (Call.applyDefault faults selector project creator).run s =
      (Call.applyTemplate faults (some selector) project creator).run s := by
  obtain ⟨t, htemplate, hdefault⟩ := resolveDefault_of_names h
  unfold Call.run applyDefault applyTemplate
  simp only [map_run, bind_run, htemplate, hdefault]
  -- both go on with the same application
  cases applySnapshot faults t project creator s <;> rfl

theorem run_applyDefault_of_not_names (h : ¬ s.working.NamesDefault selector) (faults : Faults)
    (project creator : Option String) :
    (Call.applyDefault faults selector project creator).run s =
      .ok (.snapshot none) { s with
        log := s.log ++ missingDefaultEvents selector ++
          [.noDefaultTemplate project selector] } := by
  unfold Call.run applyDefault
  simp only [map_run, bind_run, resolveDefault_of_not_names h]
  rfl

theorem run_check_of_not_names (h : ¬ s.working.NamesDefault selector)
    (outage : Option StoreError) (user role key qualifier : Option String) :
    (Call.check selector outage user role key qualifier).run s =
      .ok (.advice false []) { s with log := s.log ++ missingDefaultEvents selector } := by
  unfold Call.run simulate
  simp only [bind_run, resolveDefault_of_not_names h]
  rfl

end Calls

/-- **Applying the default is applying the template it names.** In every session and under every
failure from outside, a selector that names a stored template makes the two calls one: they have the
same answer or failure and leave the same session behind. With an empty selector, or one that names
no stored template, nothing is applied: whatever the project, the answer is none, and neither the
rows that are pending nor the committed ones nor the clock are touched, only reports are made. The
advice is then no, to everybody, for every role and on every project, even while no groups can be
looked up. -/
theorem default_is_template_named (s : Session) (faults : Faults) (selector : String)
    (project creator : Option String) :
    (s.working.NamesDefault selector →
      (Call.applyDefault faults selector project creator).run s =
          (Call.applyTemplate faults (some selector) project creator).run s ∧
        s.serve (.applyDefault faults selector project creator) =
          s.serve (.applyTemplate faults (some selector) project creator)) ∧
    (¬ s.working.NamesDefault selector →
      s.serve (.applyDefault faults selector project creator) =
          (.ok (.snapshot none), { s with
            log := s.log ++ missingDefaultEvents selector ++
              [.noDefaultTemplate project selector] }) ∧
        ∀ outage user role key qualifier,
          s.serve (.check selector outage user role key qualifier) =
            (.ok (.advice false []),
              { s with log := s.log ++ missingDefaultEvents selector })) := by
  refine ⟨fun h => ?_, fun h => ⟨?_, fun outage user role key qualifier => ?_⟩⟩
  · have hrun := run_applyDefault_of_names h faults project creator
    refine ⟨hrun, ?_⟩
    rw [Session.serve, hrun, Session.serve]
  · exact Session.serve_of_ok (run_applyDefault_of_not_names h faults project creator)
  · exact Session.serve_of_ok (run_check_of_not_names h outage user role key qualifier)

/-- The store fails the second write of an application to the sample: by the default as by the id,
it is refused and what had been granted before is gone. A selector of a template that is gone does
nothing, to a project that is not there either. -/
theorem sample_default_applied :
    (Session.sample.serve (.applyDefault (.afterWrites 1 (.store (.unavailable "down"))) "t"
        (some "q") (some "u"))).1 =
      .error (.refused (.notApplied (some "t") "q" (.unavailable "down"))) ∧
    Session.sample.serve (.applyDefault (.afterWrites 1 (.store (.unavailable "down"))) "t"
        (some "q") (some "u")) =
      Session.sample.serve (.applyTemplate (.afterWrites 1 (.store (.unavailable "down")))
        (some "t") (some "q") (some "u")) ∧
    (Session.sample.serve (.applyDefault .none "gone" (some "nowhere") none)).2.working =
      Session.sample.working := by
  have hnames : Session.sample.working.NamesDefault "t" :=
    ⟨by decide, ⟨"t", some "o", "default", none⟩, by decide +kernel, rfl⟩
  have hgone : ¬ Session.sample.working.NamesDefault "gone" := by
    rintro ⟨-, t, ht, hid⟩
    have hall : ∀ t ∈ Session.sample.working.templates, t.id = "t" := by decide +kernel
    rw [hall t ht] at hid
    exact absurd hid (by decide)
  refine ⟨rfl, ?_, ?_⟩
  · exact ((default_is_template_named Session.sample _ "t" (some "q") (some "u")).1 hnames).2
  · rw [((default_is_template_named Session.sample .none "gone" (some "nowhere") none).2 hgone).1]

end RoleGrants
