import Mathlib.Data.List.Pairwise
import RoleGrants.Proofs.Deletion
import RoleGrants.Proofs.SnapshotRows
import RoleGrants.Proofs.WrittenTable

/-!
# Names of templates

A template is found by its name within an organization, or among those without one, so a name is to
be given once in each. Two rules see to it. Before a template is created its name is looked up, and
the store keeps rows apart by organization and name. But a key compares present values only, and
none covers the templates without an organization. So a row that is inserted as it is may bring a
name that another template without an organization has (`Session.serve_insert_unowned`), and of two
namesakes the name finds one only.

`template_names_unique` says that nothing else brings in a namesake. The names in an organization
are unique in every reachable session, and all names are after every run of calls none of which
inserts such a row (`Session.AvoidsNamesakes`). Only a new template could be a namesake, and only
two kinds of calls bring one along (`Call.run_bringsNoTemplate`). All others leave a part of the
templates, the deletion of an organization with its cascades among them
(`Change.templates_sublist`).
-/

open RoleGrants.Action

namespace RoleGrants

/-! ### Namesakes -/

/-- Two templates have one name in one organization, or one name and both no organization. -/
def Template.Namesakes (a b : Template) : Prop :=
  a.organization = b.organization ∧ a.name = b.name

theorem Template.Namesakes.symm {a b : Template} (h : a.Namesakes b) : b.Namesakes a :=
  ⟨h.1.symm, h.2.symm⟩

/-- The store keeps namesakes apart if they have an organization. -/
theorem Template.Namesakes.clash {a b : Template} (h : a.Namesakes b) (ha : a.organization ≠ none) :
    Clash Template.keys a b := by
  obtain ⟨o, ho⟩ := Option.ne_none_iff_exists'.1 ha
  have hb : b.organization = some o := h.1.symm.trans ho
  simp [Clash, Template.keys, Key.clashes, ho, hb, h.2]

namespace Store

/-- **No two templates are namesakes.** -/
def NoNamesakes (s : Store) : Prop :=
  s.templates.Pairwise fun a b => ¬ a.Namesakes b

variable {s t : Store} {organization name : Option String}

theorem NoNamesakes.eq (h : s.NoNamesakes) {a b : Template} (ha : a ∈ s.templates)
    (hb : b ∈ s.templates) (hab : a.Namesakes b) : a = b := by
  have : Std.Symm fun a b : Template => ¬ a.Namesakes b := ⟨fun _ _ hab hba => hab hba.symm⟩
  by_contra hne
  exact List.Pairwise.forall h ha hb hne hab

/-- Namesakes that are two have no organization. -/
theorem Sound.eq_of_namesakes (h : s.Sound) {a b : Template} (ha : a ∈ s.templates)
    (hb : b ∈ s.templates) (hab : a.Namesakes b) : a = b ∨ a.organization = none := by
  by_cases howned : a.organization = none
  · exact .inr howned
  · exact .inl (h.templates.eq_of_clash ha hb (hab.clash howned))

/-! ### Finding by name -/

theorem templateNamed?_eq_some {n : String} {x : Template}
    (h : s.templateNamed? organization (some n) = some x) :
    x ∈ s.templates ∧ x.organization = organization ∧ x.name = n := by
  have hpicked := List.find?_some h
  simp only [Bool.and_eq_true, beq_iff_eq, Option.some.injEq] at hpicked
  exact ⟨List.mem_of_find?_eq_some h, hpicked⟩

theorem templateNamed?_eq_none_iff {n : String} :
    s.templateNamed? organization (some n) = none ↔
      ∀ x ∈ s.templates, x.organization = organization → x.name ≠ n := by
  simp [templateNamed?, List.find?_eq_none]

/-- A template without a namesake is what its name finds. -/
theorem templateNamed?_eq {x : Template} (hx : x ∈ s.templates)
    (hunique : ∀ y ∈ s.templates, x.Namesakes y → y = x) :
    s.templateNamed? x.organization (some x.name) = some x := by
  cases hfound : s.templateNamed? x.organization (some x.name) with
  | none => exact absurd rfl (templateNamed?_eq_none_iff.1 hfound x hx rfl)
  | some y =>
    obtain ⟨hy, horganization, hname⟩ := templateNamed?_eq_some hfound
    rw [hunique y hy ⟨horganization.symm, hname.symm⟩]

/-! ### Bringing in a template -/

/-- A template that the store takes is nobody's namesake, if without an organization its name is
free. -/
theorem NoNamesakes.addTemplate (h : s.NoNamesakes) {id : String} {description : Option String}
    (hadd : s.addTemplate id organization name description = .ok t)
    (hfree : organization = none → s.templateNamed? none name = none) : t.NoNamesakes := by
  obtain ⟨n, rfl, -, hfresh, rfl⟩ := addTemplate_eq_ok hadd
  refine List.pairwise_append.2 ⟨h, List.pairwise_singleton _ _, ?_⟩
  intro a ha b hb hab
  obtain rfl := List.mem_singleton.1 hb
  -- without an organization no key stands in the way, so the name must have been looked up
  cases organization with
  | none => exact templateNamed?_eq_none_iff.1 (hfree rfl) a ha hab.1 hab.2
  | some o => exact hfresh a ha (hab.symm.clash nofun)

/-- Without an organization a name stands against nothing. -/
theorem addTemplate_unowned {id n : String} {description : Option String}
    (hid : s.hasTemplate id = false) :
    s.addTemplate id none (some n) description =
      .ok { s with templates := s.templates ++ [⟨id, none, n, description⟩] } := by
  have hfresh : Fresh Template.keys s.templates ⟨id, none, n, description⟩ := by
    intro r hr hclash
    have hother : r.id ≠ id := by simpa using List.any_eq_false.1 hid r hr
    simp [Clash, Template.keys, Key.clashes, hother.symm] at hclash
  calc s.addTemplate id none (some n) description
      = (accept Template.keys true s.templates ⟨id, none, n, description⟩).map fun rows =>
          { s with templates := rows } := rfl
    _ = .ok { s with templates := s.templates ++ [⟨id, none, n, description⟩] } := by
      rw [accept_of_fresh hfresh, if_pos rfl]
      rfl

end Store

/-! ### Bringing in none -/

/-- The changes that bring in a template. -/
def Change.BringsTemplate : Change → Prop
  | .addTemplate .. | .insert (.template ..) => True
  | _ => False

/-- **All other changes leave a part of the templates.** -/
theorem Change.templates_sublist {c : Change} {s t : Store} (hc : ¬ c.BringsTemplate)
    (hrun : c.run s = .ok t) : t.templates.Sublist s.templates := by
  have hspared : ¬ c.Writes .templates → t.templates.Sublist s.templates := fun h => by
    have hsame : t.templates = s.templates := c.frame hrun h
    rw [hsame]
  cases c with
  | addTemplate => exact absurd trivial hc
  | insert draft =>
    cases draft with
    | template => exact absurd trivial hc
    | _ => exact hspared nofun
  | delete kind id =>
    -- whatever is deleted, the templates are filtered, with or without an effect
    cases hrun
    rw [Store.deleteRow_eq_without]
    exact List.filter_sublist
  | _ => exact hspared nofun

/-- A move that brings in no template. -/
def Move.BringsNoTemplate : Move → Prop
  | .change c => ¬ c.BringsTemplate
  | _ => True

theorem Action.MovesBy.bringsNoTemplate {α : Type} {allowed : Move → Prop} {x : Action α}
    {s : Session} (h : MovesBy allowed x s)
    (hchange : ∀ d, allowed (.change d) → ¬ d.BringsTemplate) :
    MovesBy Move.BringsNoTemplate x s := by
  refine h.mono fun m hm => ?_
  cases m with
  | change d => exact hchange d hm
  | _ => trivial

theorem Change.IsGranting.not_bringsTemplate {c : Change} (h : c.IsGranting) :
    ¬ c.BringsTemplate := by
  cases c with
  | insert draft =>
    cases draft with
    | userGrant | groupGrant => exact id
    | _ => exact h.elim
  | addTemplate => exact h.elim
  | _ => exact id

theorem Change.EditsEntries.not_bringsTemplate {c : Change} (h : c.EditsEntries) :
    ¬ c.BringsTemplate := by
  obtain ⟨hediting, hother⟩ := h
  -- of the changes of editing, only the creation of a template is ruled out by the second clause
  cases c with
  | insert draft =>
    cases draft with
    | template => exact hediting.elim
    | _ => exact id
  | addTemplate id organization name description => exact (hother _ _ _ _ rfl).elim
  | _ => exact id

/-- The calls that bring in a template: one creates it, the other inserts its row. -/
def Call.bringsTemplate : Call → Bool
  | .templates c => c.creates
  | .change (.insert (.template ..)) => true
  | _ => false

theorem RowChange.Makes.not_bringsTemplate {c : RowChange} {d : Change} (h : c.Makes d)
    (hc : (Call.change c).bringsTemplate = false) : ¬ d.BringsTemplate := by
  cases c with
  | insert draft =>
    cases h
    cases draft with
    | template => cases hc
    | _ => exact id
  | addGroup | delete =>
    obtain ⟨_, -, rfl⟩ := h
    exact id
  | addMember | removeMember | renameGroup =>
    obtain ⟨_, _, -, -, rfl⟩ := h
    exact id
  | _ =>
    cases h
    exact id

/-- **A call of another kind brings in none.** -/
theorem Call.run_bringsNoTemplate {c : Call} (hc : c.bringsTemplate = false) (s : Session) :
    MovesBy Move.BringsNoTemplate c.run s := by
  cases c with
  | templates c =>
    exact (c.run_movesEntries hc s).bringsNoTemplate fun _ => Change.EditsEntries.not_bringsTemplate
  | change c =>
    refine ((Call.change c).run_moves s).bringsNoTemplate ?_
    rintro d (hcommit | ⟨d', hmakes, hd⟩)
    · cases hcommit
    · cases hd
      exact hmakes.not_bringsTemplate hc
  | grants c =>
    refine (c.run_moves s).bringsNoTemplate fun d hd => ?_
    exact Change.IsGranting.not_bringsTemplate hd.granting
  | applyTemplate | applySnapshot | applyDraft | applyDefault | commandLine =>
    refine (run_moves _ s).bringsNoTemplate fun d hd => ?_
    exact (Change.IsAdding.granting hd).not_bringsTemplate
  | ask q => exact q.run_moves s
  | check => exact (run_moves _ s).bringsNoTemplate fun _ ⟨_, hd⟩ => nomatch hd
  | commit | rollback => exact (run_moves _ s).bringsNoTemplate fun _ hd => nomatch hd

namespace Session

variable {s : Session}

/-- Where no template comes in, no namesake does. -/
theorem noNamesakes_serve_of_not_brings {c : Call} (hc : c.bringsTemplate = false)
    (hs : s.InBoth Store.NoNamesakes) : (s.serve c).2.InBoth Store.NoNamesakes := by
  refine Steps.invariant ?_ (serve_steps_of (c.run_bringsNoTemplate hc s)) hs
  rintro s d store (hnone | hrollback) - hrun h
  · exact h.sublist (d.templates_sublist hnone hrun)
  · cases hrollback

/-! ### Calls that bring in a template -/

/-- Creating a template, in closed form. -/
theorem serve_create (s : Session) (id : String) (organization name description : Option String) :
    s.serve (.templates (.create id organization name description)) =
      match templateNameOf name with
      | .error r => (.error (.refused r), s)
      | .ok n =>
        match s.working.templateNamed? organization (some n) with
        | some _ => (.error (.refused (.templateNameTaken n)), s)
        | none =>
          match s.working.addTemplate id organization (some n) description with
          | .ok store => (.ok (.template (some ⟨id, organization, n, description⟩)),
              { s with
                working := store
                committed := store
                log := s.log ++ [.templateCreated id n] })
          | .error e => (.error (.store e), s.rollback) := by
  unfold serve Call.run TemplateCall.run createTemplate
  simp only [map_run, bind_run, reading_run]
  cases templateNameOf name with
  | error r => rfl
  | ok n =>
    dsimp only [accepted, pure_run]
    cases s.working.templateNamed? organization (some n) with
    | some other => rfl
    | none =>
      simp only [Option.isSome_none, Bool.false_eq_true, if_false, bind_run, writing, pure_run]
      cases s.working.addTemplate id organization (some n) description <;> rfl

/-- A template that is created is nobody's namesake: its name has been looked up. -/
theorem noNamesakes_serve_create (hs : s.InBoth Store.NoNamesakes) (id : String)
    (organization name description : Option String) :
    (s.serve (.templates (.create id organization name description))).2.InBoth
      Store.NoNamesakes := by
  rw [serve_create]
  cases templateNameOf name with
  | error r => exact hs
  | ok n =>
    dsimp only
    cases htaken : s.working.templateNamed? organization (some n) with
    | some other => exact hs
    | none =>
      dsimp only
      cases hadd : s.working.addTemplate id organization (some n) description with
      | error e =>
        -- the session is rolled back, so both views are the committed one
        exact ⟨hs.2, hs.2⟩
      | ok store =>
        have hstore : store.NoNamesakes := hs.1.addTemplate hadd fun hnone => hnone ▸ htaken
        exact ⟨hstore, hstore⟩

end Session

/-- **A call inserts a namesake:** the row of a template without an organization, with a name that
another one without an organization has. -/
def Call.InsertsNamesake (s : Store) : Call → Prop
  | .change (.insert (.template _ none name)) => s.templateNamed? none name ≠ none
  | _ => False

namespace Session

variable {s : Session}

/-- A row that is inserted is nobody's namesake, unless it is one without an organization. -/
theorem noNamesakes_serve_insert (hs : s.InBoth Store.NoNamesakes) {id : String}
    {organization name : Option String}
    (hc : ¬ (Call.change (.insert (.template id organization name))).InsertsNamesake s.working) :
    (s.serve (.change (.insert (.template id organization name)))).2.InBoth Store.NoNamesakes := by
  have hfree : organization = none → s.working.templateNamed? none name = none := by
    rintro rfl
    exact not_not.1 hc
  rw [serve_insert]
  cases hadd : s.working.insertDraft (.template id organization name) with
  | error e => exact ⟨hs.2, hs.2⟩
  | ok store =>
    have hstore : store.NoNamesakes := hs.1.addTemplate hadd hfree
    exact ⟨hstore, hstore⟩

/-- **One call.** There is no namesake after it, unless it is one that inserts a namesake. -/
theorem noNamesakes_serve {c : Call} (hs : s.InBoth Store.NoNamesakes)
    (hc : ¬ c.InsertsNamesake s.working) : (s.serve c).2.InBoth Store.NoNamesakes := by
  cases hbrings : c.bringsTemplate with
  | false => exact noNamesakes_serve_of_not_brings hbrings hs
  | true =>
    unfold Call.bringsTemplate at hbrings
    split at hbrings
    · next c =>
      cases c with
      | create id organization name description =>
        exact noNamesakes_serve_create hs id organization name description
      | _ => cases hbrings
    · exact noNamesakes_serve_insert hs hc
    · cases hbrings

/-- **None of the calls of a run inserts a namesake.** -/
def AvoidsNamesakes : Session → List Call → Prop
  | _, [] => True
  | s, c :: calls => ¬ c.InsertsNamesake s.working ∧ AvoidsNamesakes (s.serve c).2 calls

/-- **A run of calls.** There is no namesake at its end. -/
theorem AvoidsNamesakes.noNamesakes {calls : List Call} (h : s.AvoidsNamesakes calls)
    (hs : s.InBoth Store.NoNamesakes) : (s.serveAll calls).InBoth Store.NoNamesakes := by
  induction calls generalizing s with
  | nil => exact hs
  | cons c calls ih =>
    obtain ⟨hfirst, hrest⟩ := h
    exact ih hrest (noNamesakes_serve hs hfirst)

/-! ### Finding a template -/

theorem serve_findTemplate (s : Session) (id organization name : Option String) :
    s.serve (.ask (.findTemplate id organization name)) =
      match s.working.findTemplate id organization name with
      | .ok t => (.ok (.template (some t)), s)
      | .error r => (.error (.refused r), s) := by
  unfold serve Call.run Question.run
  simp only [bind_run, reading_run, Question.answer]
  cases s.working.findTemplate id organization name <;> rfl

/-- What a name finds is a stored template of this name. -/
theorem found_by_name {organization : Option String} {name : String} {t : Template}
    (h : s.serve (.ask (.findTemplate none organization (some name))) =
      (.ok (.template (some t)), s)) :
    t ∈ s.working.templates ∧ t.organization = organization ∧ t.name = name := by
  rw [serve_findTemplate, Store.findTemplate] at h
  cases hfound : s.working.templateNamed? organization (some name) with
  | none =>
    rw [hfound] at h
    cases h
  | some x =>
    rw [hfound] at h
    cases h
    exact Store.templateNamed?_eq_some hfound

theorem find_by_name {t : Template} (ht : t ∈ s.working.templates)
    (hunique : ∀ x ∈ s.working.templates, t.Namesakes x → x = t) :
    s.serve (.ask (.findTemplate none t.organization (some t.name))) =
      (.ok (.template (some t)), s) := by
  rw [serve_findTemplate, Store.findTemplate, Store.templateNamed?_eq ht hunique]

theorem find_by_id (hs : s.working.Sound) {t : Template} (ht : t ∈ s.working.templates)
    (organization : Option String) :
    s.serve (.ask (.findTemplate (some t.id) organization none)) =
      (.ok (.template (some t)), s) := by
  rw [serve_findTemplate, Store.findTemplate, hs.template?_eq ht]

/-- **A row without an organization is stored whatever its name,** if its id is free. -/
theorem serve_insert_unowned {id : String} (hid : s.working.hasTemplate id = false)
    (name : String) :
    ∃ t : Store, t.templates = s.working.templates ++ [⟨id, none, name, none⟩] ∧
      s.serve (.change (.insert (.template id none (some name)))) =
        (.ok (.flag true), { s with working := t, committed := t }) := by
  refine ⟨{ s.working with templates := s.working.templates ++ [⟨id, none, name, none⟩] }, rfl, ?_⟩
  rw [serve_insert, Store.insertDraft, Store.addTemplate_unowned hid]

end Session

/-- **The names of templates are unique, but for rows without an organization.** In a reachable
session two namesakes have no organization, in both views. A template that is found by its name is
the one that its id finds. From a session without namesakes, a run of calls leads to one without, if
none of them inserts a row that is a namesake; after it every template is found by its name. A row
without an organization is stored under a free id, whatever its name. -/
theorem template_names_unique {s : Session} (hs : s.Reachable) :
    s.InBoth (fun rows => ∀ a ∈ rows.templates, ∀ b ∈ rows.templates,
      a.Namesakes b → a = b ∨ a.organization = none) ∧
    (∀ organization name t, s.serve (.ask (.findTemplate none organization (some name))) =
        (.ok (.template (some t)), s) →
      (t ∈ s.working.templates ∧ t.organization = organization ∧ t.name = name) ∧
        ∀ other, s.serve (.ask (.findTemplate (some t.id) other none)) =
          (.ok (.template (some t)), s)) ∧
    (s.InBoth Store.NoNamesakes → ∀ calls, s.AvoidsNamesakes calls →
      (s.serveAll calls).InBoth Store.NoNamesakes ∧
        ∀ t ∈ (s.serveAll calls).working.templates,
          (s.serveAll calls).serve (.ask (.findTemplate none t.organization (some t.name))) =
            (.ok (.template (some t)), s.serveAll calls)) ∧
    ∀ id name, s.working.hasTemplate id = false →
      ∃ t : Store, t.templates = s.working.templates ++ [⟨id, none, name, none⟩] ∧
        s.serve (.change (.insert (.template id none (some name)))) =
          (.ok (.flag true), { s with working := t, committed := t }) := by
  refine ⟨⟨?_, ?_⟩, ?_, ?_, ?_⟩
  · exact fun a ha b hb hab => hs.sound.1.eq_of_namesakes ha hb hab
  · exact fun a ha b hb hab => hs.sound.2.eq_of_namesakes ha hb hab
  · intro organization name t h
    have hfound := Session.found_by_name h
    exact ⟨hfound, Session.find_by_id hs.sound.1 hfound.1⟩
  · intro hnone calls hcalls
    have hafter := hcalls.noNamesakes hnone
    exact ⟨hafter, fun t ht => Session.find_by_name ht fun x hx htx => (hafter.1.eq ht hx htx).symm⟩
  · exact fun id name hid => Session.serve_insert_unowned hid name

/-- The name of the template of the sample can be given once more without an organization. Then it
is taken there as well, and a third template of this name is refused. -/
theorem sample_named :
    ∃ s : Session, Session.sample.serveAll [
          .templates (.create "t2" none (some "default") none),
          .change (.insert (.template "t3" none (some "other"))),
          .templates (.create "t4" none (some "default") none)] = s ∧
      s.working.templates.map (·.id) = ["t", "t2", "t3"] ∧ s.InBoth Store.NoNamesakes ∧
      s.serve (.ask (.findTemplate none none (some "default"))) =
        (.ok (.template (some ⟨"t2", none, "default", none⟩)), s) := by
  have hs : Session.sample.Reachable := ⟨sampleCalls, fun _ _ => trivial, rfl⟩
  have hone : Session.sample.InBoth Store.NoNamesakes :=
    ⟨List.pairwise_singleton _ _, List.pairwise_singleton _ _⟩
  -- only the second call inserts a row, and its name is free
  obtain ⟨hnone, hfind⟩ := (template_names_unique hs).2.2.1 hone [
    .templates (.create "t2" none (some "default") none),
    .change (.insert (.template "t3" none (some "other"))),
    .templates (.create "t4" none (some "default") none)]
    ⟨id, not_not.2 (by decide +kernel), id, trivial⟩
  exact ⟨_, rfl, by decide +kernel, hnone, hfind ⟨"t2", none, "default", none⟩ (by decide +kernel)⟩

/-- Calls that insert two templates without an organization and with one name. -/
def namesakeCalls : List Call := [
  .change (.insert (.template "t1" none (some "shared"))),
  .change (.insert (.template "t2" none (some "shared")))]

/-- Both templates are stored, and the name finds the older one only. -/
theorem unowned_name_twice :
    ∃ s : Session, s.Reachable ∧
      s.working.templates = [⟨"t1", none, "shared", none⟩, ⟨"t2", none, "shared", none⟩] ∧
      ¬ s.working.NoNamesakes ∧
      s.serve (.ask (.findTemplate none none (some "shared"))) =
        (.ok (.template (some ⟨"t1", none, "shared", none⟩)), s) := by
  have hs : (Session.serveAll {} namesakeCalls).Reachable := ⟨_, fun _ _ => trivial, rfl⟩
  refine ⟨_, hs, by decide +kernel, ?_, rfl⟩
  intro h
  have hsame : (⟨"t1", none, "shared", none⟩ : Template) = ⟨"t2", none, "shared", none⟩ :=
    h.eq (by decide +kernel) (by decide +kernel) ⟨rfl, rfl⟩
  exact absurd hsame (by decide)

end RoleGrants
