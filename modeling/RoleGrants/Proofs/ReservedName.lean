import Mathlib.Data.List.Forall2
import RoleGrants.Proofs.GrantHolder
import RoleGrants.Proofs.NamedRoles

/-!
# The reserved name

Anyone has a name and no row, and its grants stand in the table of those of groups. That nothing is
mixed up rests on the name: no stored group has one that spells the reserved word
(`Store.NamesApart`). Two checks see to it, one when a group is created and one when it is renamed,
and no other change gives a group a name, so it holds of every reachable session
(`Session.ReachedBy.namesApart`).

The comparison is made with small letters. `SpellsAnyone` says what it comes to without them: each
letter of the name is that of the word, as a small letter or as a capital (`isAnyone_iff`).

With the names apart, a name stands either for Anyone or for stored groups. What is read by it does
not change when what the other side holds does (`no_group_passes_for_anyone`).
-/

open RoleGrants.Action

namespace RoleGrants

/-! ### Spelling the reserved word -/

/-- **A name spells the reserved word** in some letter case. -/
def SpellsAnyone (name : String) : Prop :=
  List.Forall₂ (fun c letter => c = letter ∨ c = letter.toUpper) name.toList "anyone".toList

/-- What has a small letter as its small form is that letter or its capital. -/
theorem toLower_eq_iff {c letter : Char} (h : letter.isLower = true) :
    c.toLower = letter ↔ c = letter ∨ c = letter.toUpper := by
  -- small letters and capitals are two ranges of code points, 32 apart
  delta Char.isLower at h
  delta Char.toUpper Char.toLower
  simp only [Bool.and_eq_true, decide_eq_true_eq] at h
  simp only [Char.ext_iff]
  split <;> grind [UInt32.toNat_add, Char.toNat_val]

theorem map_toLower_eq_iff {text word : List Char} (h : ∀ letter ∈ word, letter.isLower = true) :
    text.map Char.toLower = word ↔
      List.Forall₂ (fun c letter => c = letter ∨ c = letter.toUpper) text word := by
  induction word generalizing text with
  | nil => rw [List.map_eq_nil_iff, List.forall₂_nil_right_iff]
  | cons letter word ih =>
    have hletter := h letter List.mem_cons_self
    have hword := fun l hl => h l (List.mem_cons_of_mem letter hl)
    cases text with
    | nil => exact iff_of_false (fun h => nomatch h) (fun h => nomatch h)
    | cons c text =>
      rw [List.map_cons, List.cons.injEq, toLower_eq_iff hletter, ih hword, List.forall₂_cons]

theorem isAnyone_iff {name : String} : isAnyone (some name) = true ↔ SpellsAnyone name := by
  have hsmall : Text.small anyoneName = "anyone".toList := by decide
  have hlower : "anyone".toList.all Char.isLower = true := by decide
  rw [isAnyone, hsmall, beq_iff_eq]
  exact map_toLower_eq_iff (List.all_eq_true.1 hlower)

/-! ### The names of stored groups -/

/-- **The names of groups are apart from the reserved one,** and none is blank. -/
def Store.NamesApart (s : Store) : Prop :=
  ∀ g ∈ s.groups, Text.isBlank g.name = false ∧ ¬ SpellsAnyone g.name

theorem namesApart_of_groupNameOf {name : String} (h : groupNameOf (some name) = .ok name) :
    Text.isBlank name = false ∧ ¬ SpellsAnyone name := by
  rw [← isAnyone_iff]
  unfold groupNameOf at h
  split at h
  · next hname =>
    cases hname
    split at h
    · cases h
    · split at h
      · cases h
      · next hblank hreserved => exact ⟨Bool.eq_false_iff.2 hblank, hreserved⟩
  · cases h

/-- A group that is there after a change was there before, or its name has been looked at. -/
theorem Change.mem_groups {s : Session} {c : Change} {t : Store} (hfits : c.Fits s)
    (hrun : c.run s.working = .ok t) {g : Group} (hg : g ∈ t.groups) :
    g ∈ s.working.groups ∨ groupNameOf (some g.name) = .ok g.name := by
  by_cases hwrites : c.Writes .groups
  · cases c with
    | addGroup id organization name =>
      obtain ⟨o, -, -, -, rfl⟩ := Store.addGroup_eq_ok hrun
      rcases List.mem_append.1 hg with hg | hg
      · exact .inl hg
      · rw [List.mem_singleton.1 hg]
        exact .inr hfits
    | renameGroup group name =>
      obtain ⟨-, rfl⟩ := Store.renameGroup_eq_ok hrun
      obtain ⟨h, hh, rfl⟩ := List.mem_map.1 hg
      split
      · exact .inr hfits.2
      · exact .inl hh
    | delete kind id =>
      cases hrun
      rw [Store.deleteRow_eq_without] at hg
      exact .inl (List.mem_filter.1 hg).1
    | insert draft => cases draft <;> cases hwrites
    | _ => cases hwrites
  · have hsame : t.groups = s.working.groups := Change.frame hrun hwrites
    exact .inl (hsame ▸ hg)

/-- **In a reachable session no group has the reserved name,** nor a blank one, among the rows that
it sees and among those that it has committed. -/
theorem Session.ReachedBy.namesApart {kind : Call → Prop} {s : Session} (h : s.ReachedBy kind) :
    s.InBoth Store.NamesApart := by
  refine h.invariant (fun g hg => nomatch hg) ?_
  intro c _ s d t _ hfits hrun hs g hg
  rcases d.mem_groups hfits hrun hg with hold | hname
  · exact hs g hold
  · exact namesApart_of_groupNameOf hname

/-! ### Reading by a name -/

namespace Store

variable {s t : Store}

/-- What is read by the reserved name depends on nothing but what Anyone holds. -/
theorem SameFor.rolesOfGroupNamed_eq (h : s.SameFor (· = .anyone) t) {name : String}
    (hname : SpellsAnyone name) (scope : Scope) :
    t.rolesOfGroupNamed (some name) scope = s.rolesOfGroupNamed (some name) scope := by
  have hreserved := isAnyone_iff.2 hname
  refine rolesOfGroupNamed_congr (fun g => ?_) scope
  rw [Holder.goesBy_of_isAnyone hreserved, Holder.goesBy_of_isAnyone hreserved]
  exact and_congr_left (h g)

/-- What is read by the name of a group does not depend on what Anyone holds. -/
theorem DiffersFor.rolesOfGroupNamed_eq (h : s.DiffersFor .anyone t) {name : String}
    (hname : ¬ SpellsAnyone name) (scope : Scope) :
    t.rolesOfGroupNamed (some name) scope = s.rolesOfGroupNamed (some name) scope := by
  have hreserved : isAnyone (some name) = false := Bool.eq_false_iff.2 (mt isAnyone_iff.1 hname)
  refine rolesOfGroupNamed_congr (fun g => ?_) scope
  rw [Holder.goesBy_congr h.groups]
  refine and_congr_left fun hgoes => h.grants g ?_
  obtain ⟨id, hid⟩ := hgoes.eq_group hreserved
  rw [hid]
  exact fun h => nomatch h

/-! ### Finding by a name -/

/-- The name of a group and its organization find the group. -/
theorem Sound.groupNamed?_eq (h : s.Sound) {g : Group} (hg : g ∈ s.groups) :
    s.groupNamed? (some g.organization) (some g.name) = some g := by
  refine h.groups.find?_eq hg (by simp) fun a b ha hb => ?_
  have ha : a.organization = g.organization ∧ a.name = g.name := by simpa using ha
  have hb : b.organization = g.organization ∧ b.name = g.name := by simpa using hb
  exact Group.clash_of_name (ha.1.trans hb.1.symm) (ha.2.trans hb.2.symm)

theorem Sound.findGroupOrAnyone_eq (h : s.Sound) {g : Group} (hg : g ∈ s.groups)
    (hname : ¬ SpellsAnyone g.name) :
    s.findGroupOrAnyone ⟨none, some g.organization, some g.name⟩ =
      .ok (.group g.id g.organization) := by
  have hreserved : isAnyone (some g.name) = false := Bool.eq_false_iff.2 (mt isAnyone_iff.1 hname)
  have hstored : s.storedGroup ⟨none, some g.organization, some g.name⟩ =
      .ok (.group g.id g.organization) := by
    simp only [storedGroup, h.groupNamed?_eq hg]
    rfl
  rw [← hstored]
  show (if isAnyone (some g.name) = true then _ else _) = _
  rw [hreserved, if_neg Bool.false_ne_true]

/-- A stored group is no Anyone. -/
theorem storedGroup_ne_anyone (r : GroupReference) : s.storedGroup r ≠ .ok .anyone := by
  unfold storedGroup
  split <;> split <;> exact fun h => nomatch h

/-- A name that does not spell the reserved word is not found to be Anyone's. -/
theorem findGroupOrAnyone_ne_anyone {r : GroupReference} {name : String} (hr : r.name = some name)
    (hname : ¬ SpellsAnyone name) : s.findGroupOrAnyone r ≠ .ok .anyone := by
  have hdesignates : r.designatesAnyone = false := by
    rw [GroupReference.designatesAnyone, hr, Bool.eq_false_iff.2 (mt isAnyone_iff.1 hname),
      Bool.and_false]
  unfold findGroupOrAnyone
  rw [hdesignates]
  cases r.check with
  | error e => exact fun h => nomatch h
  | ok _ => exact storedGroup_ne_anyone r

end Store

/-! ### Calls -/

/-- The calls that are about no grant of Anyone's: granting to another holder and revoking from one,
and every change of rows but the insertion of such a grant and the deletion of a project. So
whatever creates, renames or deletes groups or changes their members is among them. -/
inductive Call.SparesAnyone (s : Store) : Call → Prop where
  | change {c : RowChange} (hc : c.sparesAnyone = true) : SparesAnyone s (.change c)
  | grants {c : GrantCall} {holder : Holder} (hc : c.IsAbout s holder) (hne : holder ≠ .anyone) :
      SparesAnyone s (.grants c)

/-- The calls about grants of Anyone's: granting and revoking, and the insertion of a row. -/
inductive Call.IsAboutAnyone (s : Store) : Call → Prop where
  | insert {rowId project role : Option String} :
      IsAboutAnyone s (.change (.insert (.groupGrant rowId none project role)))
  | grants {c : GrantCall} (hc : c.IsAbout s .anyone) : IsAboutAnyone s (.grants c)

namespace Session

/-- **A call does not change what is read by a name.** Where the store rejects what the call writes,
nothing is written, the session rolls back, and what is read then is what the committed rows
give. -/
structure KeepsRolesOf (s : Session) (name : String) (c : Call) : Prop where
  kept : (∀ e, (s.serve c).1 ≠ .error (.store e)) → ∀ scope,
    (s.serve c).2.working.rolesOfGroupNamed (some name) scope =
      s.working.rolesOfGroupNamed (some name) scope
  rejected : ∀ e, (s.serve c).1 = .error (.store e) → (s.serve c).2 = s.rollback ∧ ∀ scope,
    (s.serve c).2.working.rolesOfGroupNamed (some name) scope =
      s.committed.rolesOfGroupNamed (some name) scope

theorem keepsRolesOf_of_run {s : Session} {name : String} {c : Call} (hc : FailsFirst c.run s)
    (hok : ∀ a t, c.run s = .ok a t → ∀ scope,
      t.working.rolesOfGroupNamed (some name) scope =
        s.working.rolesOfGroupNamed (some name) scope) : s.KeepsRolesOf name c := by
  cases hrun : c.run s with
  | ok a t =>
    have hserve : s.serve c = (.ok a, t) := serve_of_ok hrun
    refine ⟨fun _ => ?_, fun e he => ?_⟩
    · rw [hserve]
      exact hok a t hrun
    · rw [hserve] at he
      cases he
  | error f t =>
    -- what fails has changed nothing, and so only the rollback is left
    obtain ⟨rfl, -⟩ := hc f t hrun
    cases f with
    | store e =>
      have hserve : t.serve c = (.error (.store e), t.rollback) := by rw [serve, hrun]
      refine ⟨fun hnot => absurd (congrArg Prod.fst hserve) (hnot e), fun e' _ => ?_⟩
      rw [hserve]
      exact ⟨rfl, fun _ => rfl⟩
    | refused | misused | fault =>
      refine ⟨fun _ _ => ?_, fun e he => ?_⟩
      · rw [serve, hrun]
      · rw [serve, hrun] at he
        cases he

end Session

section Calls

variable {s : Session} {c : Call} {name : String}

/-- What is read by the reserved name is a matter of Anyone's grants alone. -/
theorem Call.SparesAnyone.keepsRolesOf (hc : c.SparesAnyone s.working) (hname : SpellsAnyone name) :
    s.KeepsRolesOf name c := by
  cases hc with
  | @change c hc =>
    refine Session.keepsRolesOf_of_run (c.run_failsFirst.map _) fun a t hrun => ?_
    obtain ⟨b, hrun, -⟩ := map_eq_ok.1 hrun
    exact (RowChange.sameFor_anyone hc hrun).rolesOfGroupNamed_eq hname
  | @grants c holder hc hne =>
    refine Session.keepsRolesOf_of_run c.run_failsFirst fun a t hrun => ?_
    exact ((hc.differsFor hrun).sameFor_of_ne hne.symm).rolesOfGroupNamed_eq hname

/-- What is read by another name is no matter of Anyone's grants. -/
theorem Call.IsAboutAnyone.keepsRolesOf (hc : c.IsAboutAnyone s.working)
    (hname : ¬ SpellsAnyone name) : s.KeepsRolesOf name c := by
  cases hc with
  | insert =>
    refine Session.keepsRolesOf_of_run ((RowChange.run_failsFirst _).map _) fun a t hrun => ?_
    obtain ⟨b, hrun, -⟩ := map_eq_ok.1 hrun
    exact (differsFor_insert_anyone hrun).rolesOfGroupNamed_eq hname
  | grants hc =>
    refine Session.keepsRolesOf_of_run (GrantCall.run_failsFirst _) fun a t hrun => ?_
    exact (hc.differsFor hrun).rolesOfGroupNamed_eq hname

end Calls

/-- **No group passes for Anyone.** Whatever has led to a session, no stored group has a name that
is blank or spells the reserved word, neither among the rows that are seen nor among the committed
ones. So a name that spells the word is Anyone's alone: creating, renaming and deleting groups,
changing their members, and granting to groups or revoking from them does not change what is read by
it. Nor does a grant of Anyone's, new or revoked, change what is read by the name of a stored group,
and this name finds the group in its organization, and Anyone nowhere. Where the store rejects such
a change, the session falls back to the committed rows and to what they give under the name. -/
theorem no_group_passes_for_anyone {s : Session} (hs : s.Reachable) :
    s.InBoth Store.NamesApart ∧
      (∀ c name, Call.SparesAnyone s.working c → SpellsAnyone name → s.KeepsRolesOf name c) ∧
      ∀ g ∈ s.working.groups,
        (∀ c, Call.IsAboutAnyone s.working c → s.KeepsRolesOf g.name c) ∧
        s.working.findGroupOrAnyone ⟨none, some g.organization, some g.name⟩ =
          .ok (.group g.id g.organization) ∧
        ∀ r : GroupReference,
          r.name = some g.name → s.working.findGroupOrAnyone r ≠ .ok .anyone := by
  have hnames := hs.namesApart
  refine ⟨hnames, fun c name hc hname => hc.keepsRolesOf hname, fun g hg => ?_⟩
  have hname := (hnames.1 g hg).2
  refine ⟨fun c hc => hc.keepsRolesOf hname, ?_, ?_⟩
  · exact hs.sound.1.findGroupOrAnyone_eq hg hname
  · exact fun r hr => Store.findGroupOrAnyone_ne_anyone hr hname

/-- A role granted to the group of the sample is not read by the reserved name in capitals, and one
granted to Anyone not by the name of the group. -/
theorem sample_reserved_name :
    (∀ scope,
      (Session.sample.serve (.grants (.grantToGroup (.group (some "g")) (some "scan") .global
        false))).2.working.rolesOfGroupNamed (some "ANYONE") scope =
          Session.sample.working.rolesOfGroupNamed (some "ANYONE") scope) ∧
      ∀ scope,
        (Session.sample.serve (.grants (.grantToNamedGroup none (some "anyOne") (some "scan")
          .global))).2.working.rolesOfGroupNamed (some "devs") scope =
            Session.sample.working.rolesOfGroupNamed (some "devs") scope := by
  have hs : Session.sample.Reachable := ⟨sampleCalls, fun _ _ => trivial, rfl⟩
  obtain ⟨-, hspares, hgroups⟩ := no_group_passes_for_anyone hs
  refine ⟨?_, ?_⟩
  · have hcall : Call.SparesAnyone Session.sample.working
        (.grants (.grantToGroup (.group (some "g")) (some "scan") .global false)) :=
      .grants ⟨some "g", rfl, rfl⟩ (by decide)
    refine (hspares _ "ANYONE" hcall (isAnyone_iff.1 (by decide))).kept ?_
    rintro e ⟨⟩
  · have hgroup : ⟨"g", "o", "devs"⟩ ∈ Session.sample.working.groups := by decide +kernel
    have hcall : Call.IsAboutAnyone Session.sample.working
        (.grants (.grantToNamedGroup none (some "anyOne") (some "scan") .global)) :=
      .grants ⟨.anyone, rfl, rfl⟩
    refine ((hgroups _ hgroup).1 _ hcall).kept ?_
    rintro e ⟨⟩

end RoleGrants
