import RoleGrants.Proofs.DefaultTemplate
import RoleGrants.Proofs.PendingGrants

/-!
# What advice rests on

The advice of the default template is read off five tables of eleven, and of these only the rows of
one template and of one user are looked at. `Store.adviceBasis` is what these rows say, without
their ids and their order. Two sessions with one basis advise alike, whatever else tells them apart
(`Session.advisesAlike_of_basis`).

The order does not matter because of what advice is to be (`Snapshot.Advises`): a template is asked
whether it gives a role and to which groups, and the groups that are looked up are a set. Both
snapshots follow the basis (`Snapshot.Follows`), so they give the same to the same groups, and there
is one advice for that.
-/

open RoleGrants.Action

namespace RoleGrants

/-! ### What the rows of one owner say -/

section Values

variable {α β κ : Type}

/-- The values in the rows of one owner. -/
def valuesOf (rows : List α) (owner : α → κ) (value : α → β) (key : κ) : Set β :=
  {v | ∃ r ∈ rows, owner r = key ∧ value r = v}

variable {rows : List α} {owner : α → κ} {value : α → β} {key : κ}

/-- A row of another owner adds nothing. -/
theorem valuesOf_snoc {row : α} (h : owner row ≠ key) :
    valuesOf (rows ++ [row]) owner value key = valuesOf rows owner value key := by
  ext v
  constructor
  · rintro ⟨r, hr, howner, hv⟩
    rcases List.mem_append.1 hr with hr | hr
    · exact ⟨r, hr, howner, hv⟩
    · rw [List.mem_singleton.1 hr] at howner
      exact absurd howner h
  · rintro ⟨r, hr, h⟩
    exact ⟨r, List.mem_append_left _ hr, h⟩

/-- Rows of other owners may go. -/
theorem valuesOf_filter {keep : α → Bool} (h : ∀ r, owner r = key → keep r = true) :
    valuesOf (rows.filter keep) owner value key = valuesOf rows owner value key := by
  ext v
  constructor
  · rintro ⟨r, hr, h⟩
    exact ⟨r, (List.mem_filter.1 hr).1, h⟩
  · rintro ⟨r, hr, howner, hv⟩
    exact ⟨r, List.mem_filter.2 ⟨hr, h r howner⟩, howner, hv⟩

/-- Rows of other owners may be changed, but not handed over. -/
theorem valuesOf_map {f : α → α} (howner : ∀ r, owner (f r) = owner r)
    (h : ∀ r, owner r = key → f r = r) :
    valuesOf (rows.map f) owner value key = valuesOf rows owner value key := by
  ext v
  constructor
  · rintro ⟨r, hr, hkey, hv⟩
    obtain ⟨r', hr', rfl⟩ := List.mem_map.1 hr
    rw [howner] at hkey
    rw [h r' hkey] at hv
    exact ⟨r', hr', hkey, hv⟩
  · rintro ⟨r, hr, hkey, hv⟩
    exact ⟨f r, List.mem_map_of_mem hr, by rw [howner, hkey], by rw [h r hkey, hv]⟩

end Values

/-! ### The basis -/

/-- **What advice rests on:** a template with its entries and characteristics, and the groups of a
user. -/
structure AdviceBasis where
  /-- whether the template is stored -/
  stored : Bool
  /-- the users of its entries, with their roles -/
  users : Set (String × String)
  /-- the groups of its entries, with their roles; a missing one is Anyone -/
  groups : Set (Option String × String)
  /-- the roles of its characteristics, with their flags -/
  flags : Set (String × Bool)
  /-- the groups of the user -/
  memberOf : Set String

/-- What a store has for the advice to a user by a template. -/
def Store.adviceBasis (s : Store) (template : String) (user : Option String) : AdviceBasis where
  stored := s.hasTemplate template
  users := valuesOf s.templateUsers (·.template) (fun e => (e.user, e.role)) template
  groups := valuesOf s.templateGroups (·.template) (fun e => (e.group, e.role)) template
  flags := valuesOf s.characteristics (·.template) (fun c => (c.role, c.forCreator)) template
  memberOf := {g | g ∈ s.groupsOf user}

/-- The tables that the basis is read off. -/
def Table.BearsAdvice : Table → Prop
  | .templates | .templateUsers | .templateGroups | .characteristics | .memberships => True
  | _ => False

theorem Table.BearsAdvice.not_mayPend {k : Table} (h : k.BearsAdvice) : ¬ k.MayPend := by
  cases k <;> first | exact id | cases h

theorem Store.memberOf_eq (s : Store) (user : Option String) :
    {g | g ∈ s.groupsOf user} = valuesOf s.memberships (some ·.user) (·.group) user := by
  ext g
  constructor
  · intro hg
    obtain ⟨u, rfl, hm⟩ := mem_groupsOf.1 hg
    exact ⟨_, hm, rfl, rfl⟩
  · rintro ⟨m, hm, rfl, rfl⟩
    exact mem_groupsOf.2 ⟨_, rfl, hm⟩

variable {template : String} {user : Option String}

section Same

variable {s t : Store}

/-- Two stores have one basis if the rows in question say the same. -/
theorem Store.adviceBasis_eq (hstored : t.hasTemplate template = s.hasTemplate template)
    (husers : valuesOf t.templateUsers (·.template) (fun e => (e.user, e.role)) template =
      valuesOf s.templateUsers (·.template) (fun e => (e.user, e.role)) template)
    (hgroups : valuesOf t.templateGroups (·.template) (fun e => (e.group, e.role)) template =
      valuesOf s.templateGroups (·.template) (fun e => (e.group, e.role)) template)
    (hflags : valuesOf t.characteristics (·.template) (fun c => (c.role, c.forCreator)) template =
      valuesOf s.characteristics (·.template) (fun c => (c.role, c.forCreator)) template)
    (hmembers : valuesOf t.memberships (some ·.user) (·.group) user =
      valuesOf s.memberships (some ·.user) (·.group) user) :
    t.adviceBasis template user = s.adviceBasis template user := by
  unfold adviceBasis
  rw [hstored, husers, hgroups, hflags, memberOf_eq, memberOf_eq, hmembers]

theorem Store.adviceBasis_congr (h : ∀ k : Table, k.BearsAdvice → s.SameIn t k) :
    t.adviceBasis template user = s.adviceBasis template user := by
  have htemplates : t.templates = s.templates := h .templates trivial
  have husers : t.templateUsers = s.templateUsers := h .templateUsers trivial
  have hgroups : t.templateGroups = s.templateGroups := h .templateGroups trivial
  have hflags : t.characteristics = s.characteristics := h .characteristics trivial
  have hmembers : t.memberships = s.memberships := h .memberships trivial
  refine adviceBasis_eq ?_ (by rw [husers]) (by rw [hgroups]) (by rw [hflags]) (by rw [hmembers])
  rw [hasTemplate, hasTemplate, htemplates]

end Same

section Members

variable {s : Store} {role : String}

theorem Store.mem_basis_users {u : String} :
    (u, role) ∈ (s.adviceBasis template user).users ↔
      ∃ e ∈ s.templateUsers, e.template = template ∧ e.user = u ∧ e.role = role := by
  simp [adviceBasis, valuesOf]

theorem Store.mem_basis_groups {group : Option String} :
    (group, role) ∈ (s.adviceBasis template user).groups ↔
      ∃ e ∈ s.templateGroups, e.template = template ∧ e.group = group ∧ e.role = role := by
  simp [adviceBasis, valuesOf]

theorem Store.mem_basis_flags {flag : Bool} :
    (role, flag) ∈ (s.adviceBasis template user).flags ↔
      ∃ c ∈ s.characteristics, c.template = template ∧ c.role = role ∧ c.forCreator = flag := by
  simp [adviceBasis, valuesOf]

end Members

/-! ### Advice from the basis -/

namespace Snapshot

variable {ε : Type}

/-- **A snapshot follows a basis:** what it gives is what the basis says. -/
structure Follows (t : Snapshot) (b : AdviceBasis) : Prop where
  anyone : ∀ role, t.hasAnyoneEntry role = true ↔ ∃ r, role = some r ∧ (none, r) ∈ b.groups
  users : ∀ u role, t.hasUserEntry (some u) role = true ↔ ∃ r, role = some r ∧ (u, r) ∈ b.users
  creator : ∀ role, t.hasCreatorRole role = true ↔ ∃ r, role = some r ∧ (r, true) ∈ b.flags
  members : ∀ g role, t.GivesMembersOf g role ↔
    ∃ id r, g = some id ∧ role = some r ∧ (some id, r) ∈ b.groups

/-- What a stored template is resolved to follows the basis in its rows. -/
theorem follows_snapshot {s : Store} (h : s.Sound) {t : Template} (ht : t.id = template) :
    (s.snapshot t).Follows (s.adviceBasis template user) := by
  subst ht
  have hmirrors := h.mirrors_snapshot t
  refine ⟨fun role => ?_, fun u role => ?_, fun role => ?_, fun g role => ?_⟩
  · rw [hmirrors.hasAnyoneEntry]
    simp only [Store.mem_basis_groups]
    constructor
    · rintro ⟨e, he, htemplate, hnone, rfl⟩
      exact ⟨_, rfl, e, he, htemplate, hnone, rfl⟩
    · rintro ⟨_, rfl, e, he, htemplate, hnone, rfl⟩
      exact ⟨e, he, htemplate, hnone, rfl⟩
  · rw [hmirrors.hasUserEntry]
    simp only [Store.mem_basis_users]
    constructor
    · rintro ⟨e, he, htemplate, hu, rfl⟩
      cases hu
      exact ⟨_, rfl, e, he, htemplate, rfl, rfl⟩
    · rintro ⟨_, rfl, e, he, htemplate, rfl, rfl⟩
      exact ⟨e, he, htemplate, rfl, rfl⟩
  · rw [hasCreatorRole_iff]
    simp only [h.mem_characteristics_snapshot, Store.mem_basis_flags]
  · rw [← mem_groupIdsFor_iff, hmirrors.groupIdsFor]
    simp only [Store.mem_basis_groups]
    constructor
    · rintro ⟨e, he, htemplate, ⟨rfl, hsome⟩, rfl⟩
      obtain ⟨id, hid⟩ := Option.ne_none_iff_exists'.1 hsome
      exact ⟨id, _, hid, rfl, e, he, htemplate, hid, rfl⟩
    · rintro ⟨id, _, rfl, rfl, e, he, htemplate, hid, rfl⟩
      exact ⟨e, he, htemplate, ⟨hid, nofun⟩, rfl⟩

variable {t t' : Snapshot} {b : AdviceBasis} {role : Option String}

theorem Follows.givesMembersOf_iff (h : t.Follows b) (h' : t'.Follows b) (g : Option String) :
    t.GivesMembersOf g role ↔ t'.GivesMembersOf g role :=
  (h.members g role).trans (h'.members g role).symm

theorem Follows.givesOutright_iff (h : t.Follows b) (h' : t'.Follows b) (user : Option String) :
    t.GivesOutright user role ↔ t'.GivesOutright user role := by
  have hanyone : t.hasAnyoneEntry role = t'.hasAnyoneEntry role :=
    Bool.eq_iff_iff.2 ((h.anyone role).trans (h'.anyone role).symm)
  cases user with
  | none => rw [givesOutright_none_iff, givesOutright_none_iff, hanyone]
  | some u =>
    have huser : t.hasUserEntry (some u) role = t'.hasUserEntry (some u) role :=
      Bool.eq_iff_iff.2 ((h.users u role).trans (h'.users u role).symm)
    have hcreator : t.hasCreatorRole role = t'.hasCreatorRole role :=
      Bool.eq_iff_iff.2 ((h.creator role).trans (h'.creator role).symm)
    rw [givesOutright_some_iff, givesOutright_some_iff, hanyone, huser, hcreator]

/-- What follows one basis leaves the same roles to groups. -/
theorem Follows.leavesToGroups_iff (h : t.Follows b) (h' : t'.Follows b) (user : Option String) :
    t.LeavesToGroups user role ↔ t'.LeavesToGroups user role := by
  have houtright : t.GivesOutright user role ↔ t'.GivesOutright user role :=
    h.givesOutright_iff h' user
  have hmembers : ∀ g, t.GivesMembersOf g role ↔ t'.GivesMembersOf g role :=
    h.givesMembersOf_iff h'
  constructor
  · intro hleft
    exact ⟨hleft.present, mt houtright.2 hleft.notOutright, hleft.group.imp fun g => (hmembers g).1⟩
  · intro hleft
    exact ⟨hleft.present, mt houtright.1 hleft.notOutright, hleft.group.imp fun g => (hmembers g).2⟩

/-- An answer is told by whether it is yes and by how it fails. -/
theorem answer_eq_of_iff {ε : Type} {x y : Except ε Bool} (hgranted : x = .ok true ↔ y = .ok true)
    (hfailed : ∀ e, x = .error e ↔ y = .error e) : x = y := by
  cases x with
  | error e => exact ((hfailed e).1 rfl).symm
  | ok granted =>
    cases granted with
    | true => exact (hgranted.1 rfl).symm
    | false =>
      -- what is neither yes nor a failure is no
      cases y with
      | error e => cases (hfailed e).2 rfl
      | ok granted' =>
        cases granted' with
        | false => rfl
        | true => cases hgranted.2 rfl

/-- **Advice is determined** by the basis that the snapshot follows and by the groups of the user,
as a set. -/
theorem Advises.eq {s s' : Store} {outage : Option StoreError} {a a' : Advice StoreError}
    (h : t.Advises (s.groupsUnder outage) user role a)
    (h' : t'.Advises (s'.groupsUnder outage) user role a') (hb : t.Follows b) (hb' : t'.Follows b)
    (hown : ∀ g, g ∈ s.groupsOf user ↔ g ∈ s'.groupsOf user) : a = a' := by
  have hleaves : t.LeavesToGroups user role ↔ t'.LeavesToGroups user role :=
    hb.leavesToGroups_iff hb' user
  have hgranted : a.answer = .ok true ↔ a'.answer = .ok true := by
    rw [h.granted, h'.granted, hb.givesOutright_iff hb' user]
    refine or_congr_right ?_
    simp only [hb.givesMembersOf_iff hb']
    cases outage with
    | none =>
      constructor
      · rintro ⟨u, _, g, rfl, ⟨⟩, hg, hgives⟩
        exact ⟨u, _, g, rfl, rfl, (hown g).1 hg, hgives⟩
      · rintro ⟨u, _, g, rfl, ⟨⟩, hg, hgives⟩
        exact ⟨u, _, g, rfl, rfl, (hown g).2 hg, hgives⟩
    | some e => exact Iff.rfl
  have hfailed : ∀ e, a.answer = .error e ↔ a'.answer = .error e := by
    intro e
    rw [h.failed, h'.failed, hleaves]
    refine and_congr_right fun _ => exists_congr fun u => and_congr_right fun _ => ?_
    cases outage with
    | none => exact iff_of_false nofun nofun
    | some e' => exact Iff.rfl
  have hanswer : a.answer = a'.answer := answer_eq_of_iff hgranted hfailed
  have hlookups : a.lookups = a'.lookups := by
    by_cases hleft : t.LeavesToGroups user role
    · obtain ⟨u, hu, hlooked⟩ := h.lookedUp hleft
      obtain ⟨u', hu', hlooked'⟩ := h'.lookedUp (hleaves.1 hleft)
      cases hu.symm.trans hu'
      rw [hlooked, hlooked']
    · rw [h.spared hleft, h'.spared (mt hleaves.2 hleft)]
  calc a = ⟨a.answer, a.lookups⟩ := rfl
    _ = ⟨a'.answer, a'.lookups⟩ := by rw [hanswer, hlookups]
    _ = a' := rfl

end Snapshot

/-! ### Sessions that advise alike -/

theorem Store.namesDefault_iff {s : Store} {selector : String} :
    s.NamesDefault selector ↔ selector ≠ "" ∧ s.hasTemplate selector = true := by
  simp [NamesDefault, hasTemplate]

/-- A selector that names a template is resolved to its snapshot. -/
theorem Store.NamesDefault.defaultSnapshot?_eq {s : Store} {selector : String}
    (h : s.NamesDefault selector) :
    ∃ t : Template, t.id = selector ∧ s.defaultSnapshot? selector = some (s.snapshot t) := by
  obtain ⟨t, hid, ht⟩ := h.template?_eq
  refine ⟨t, hid, ?_⟩
  rw [defaultSnapshot?, if_neg h.1, ht, Option.map_some]

namespace Session

/-- **Two sessions advise a user alike** by a default template: for every role, whether or not
groups can be looked up, and for whatever key and qualifier of the project each of them is asked, by
a call or by a command line. -/
structure AdvisesAlike (template : String) (user : Option String) (s t : Session) : Prop where
  answers : ∀ outage role key key' qualifier qualifier',
    (s.serve (.check template outage user role key qualifier)).1 =
      (t.serve (.check template outage user role key' qualifier')).1
  commandLines : ∀ (host host' : CommandLine.Host) (settings settings' : Settings)
      (arguments arguments' : List String) (role key key' qualifier qualifier' : String),
    host.Starts settings → host'.Starts settings' →
    settings.defaultTemplate = template → settings'.defaultTemplate = template →
    CommandLine.Request.ofArguments arguments = .ok (.run (.check role key qualifier user)) →
    CommandLine.Request.ofArguments arguments' = .ok (.run (.check role key' qualifier' user)) →
    (s.serve (.commandLine host settings arguments)).1 =
      (t.serve (.commandLine host' settings' arguments')).1

/-- A command line prints the advice that the session gives. The project that it asks about does not
show in it. -/
theorem serve_checkLine {host : CommandLine.Host} {settings : Settings} {arguments : List String}
    {role key qualifier : String} (hstarts : host.Starts settings)
    (h : CommandLine.Request.ofArguments arguments = .ok (.run (.check role key qualifier user)))
    (s : Session) :
    ∃ granted lookups,
      (s.serve (.check settings.defaultTemplate none user (some role) (some key)
          (some qualifier))).1 =
        .ok (.advice granted lookups) ∧
      (s.serve (.commandLine host settings arguments)).1 =
        .ok (.outcome ⟨0, if granted then "true\n" else "false\n", "", none⟩) := by
  -- the command works on the same rows, which the session has committed for it
  obtain ⟨b, lookups, log, hhere, hb⟩ :=
    simulate_run settings.defaultTemplate user (some role) (some key) (some qualifier) s
  obtain ⟨b', lookups', log', hthere, hb'⟩ :=
    simulate_run settings.defaultTemplate user (some role) (some key) (some qualifier)
      s.commit.rollback
  obtain rfl : b = b' := Bool.eq_iff_iff.2 (hb.trans hb'.symm)
  refine ⟨b, lookups, ?_, ?_⟩
  · unfold serve Call.run
    simp only [bind_run, hhere]
    rfl
  · have hchecking : CommandLine.checking settings.defaultTemplate role key qualifier user
        s.commit.rollback =
        (⟨0, if b then "true\n" else "false\n", "", none⟩,
          { s.commit.rollback with log := log' }) := by
      unfold CommandLine.checking
      rw [hthere]
    have hline : (CommandLine.run host settings arguments s.commit).1 =
        ⟨0, if b then "true\n" else "false\n", "", none⟩ := by
      rw [CommandLine.run_of_starts h hstarts]
      exact congrArg Prod.fst hchecking
    have hserve : (s.serve (.commandLine host settings arguments)).1 =
        .ok (.outcome (CommandLine.run host settings arguments s.commit).1) := rfl
    rw [hserve, hline]

/-- **Sessions with one basis advise alike.** -/
theorem advisesAlike_of_basis {s t : Session} (hs : s.working.Sound) (ht : t.working.Sound)
    (h : s.working.adviceBasis template user = t.working.adviceBasis template user) :
    s.AdvisesAlike template user t := by
  have hanswers : ∀ outage role key key' qualifier qualifier',
      (s.serve (.check template outage user role key qualifier)).1 =
        (t.serve (.check template outage user role key' qualifier')).1 := by
    intro outage role key key' qualifier qualifier'
    have hstored : s.working.hasTemplate template = t.working.hasTemplate template :=
      congrArg AdviceBasis.stored h
    by_cases hnames : s.working.NamesDefault template
    · have hnames' : t.working.NamesDefault template := by
        rw [Store.namesDefault_iff, ← hstored, ← Store.namesDefault_iff]
        exact hnames
      obtain ⟨x, hx, hdefault⟩ := hnames.defaultSnapshot?_eq
      obtain ⟨x', hx', hdefault'⟩ := hnames'.defaultSnapshot?_eq
      have hown : ∀ g, g ∈ s.working.groupsOf user ↔ g ∈ t.working.groupsOf user :=
        Set.ext_iff.1 (congrArg AdviceBasis.memberOf h)
      have hadvice := (Snapshot.advises_advise _ _ user role).eq
        (Snapshot.advises_advise _ (t.working.groupsUnder outage) user role)
        (Snapshot.follows_snapshot hs hx) (h ▸ Snapshot.follows_snapshot ht hx') hown
      rw [serve_check hdefault, serve_check hdefault', hadvice]
    · have hnames' : ¬ t.working.NamesDefault template := by
        rw [Store.namesDefault_iff, ← hstored, ← Store.namesDefault_iff]
        exact hnames
      rw [serve_of_ok (run_check_of_not_names hnames outage user role key qualifier),
        serve_of_ok (run_check_of_not_names hnames' outage user role key' qualifier')]
  refine ⟨hanswers, ?_⟩
  rintro host host' settings settings' arguments arguments' role key key' qualifier qualifier'
    hstarts hstarts' rfl hsettings hline hline'
  obtain ⟨b, lookups, hcheck, hprinted⟩ := serve_checkLine hstarts hline s
  obtain ⟨b', lookups', hcheck', hprinted'⟩ := serve_checkLine hstarts' hline' t
  rw [hsettings, ← hanswers none (some role) (some key) (some key') (some qualifier)
    (some qualifier'), hcheck] at hcheck'
  cases hcheck'
  rw [hprinted, hprinted']

end Session

end RoleGrants
