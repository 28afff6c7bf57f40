import RoleGrants.Proofs.CallMoves
import RoleGrants.Proofs.WrittenTable

/-!
# What stays while nothing is deleted

A call that is no deletion (`Call.deletes`) leaves each grant and each project where it is. Single
changes are looked at for that (`Change.keeps`), and which of them a call may make is known. It
holds in both views of a session, so that a rollback in between takes nothing away that was there
before, as long as it was committed.
-/

namespace RoleGrants

/-- Whether a call takes grants or rows away. -/
def Call.deletes : Call → Bool
  | .change (.delete ..) => true
  | .grants (.revokeFromUser ..) | .grants (.revokeFromGroup ..) | .grants (.revokeAllOfGroup _)
  | .grants (.revokeAllOnProject _) => true
  | _ => false

/-- Changes that take no grant and no project away. -/
def Change.Keeps : Change → Prop
  | .dropUserGrants _ | .dropGroupGrants _ | .delete .. => False
  | _ => True

/-- **Each grant and each project stays.** -/
structure Store.Keeps (s t : Store) : Prop where
  grants : ∀ g ∈ s.grants, g ∈ t.grants
  projects : ∀ id, s.hasProject id = true → t.hasProject id = true

theorem Store.Keeps.refl (s : Store) : s.Keeps s :=
  ⟨fun _ hg => hg, fun _ hid => hid⟩

theorem Store.Keeps.trans {s t u : Store} (h : s.Keeps t) (h' : t.Keeps u) : s.Keeps u :=
  ⟨fun g hg => h'.grants g (h.grants g hg), fun id hid => h'.projects id (h.projects id hid)⟩

/-- A change keeps what it does not write. -/
theorem Change.keeps_of_unwritten {c : Change} {s t : Store} (hrun : c.run s = .ok t)
    (husers : ¬ c.Writes .userGrants) (hgroups : ¬ c.Writes .groupGrants)
    (hprojects : ¬ c.Writes .projects) : s.Keeps t := by
  have husers : t.userGrants = s.userGrants := frame hrun husers
  have hgroups : t.groupGrants = s.groupGrants := frame hrun hgroups
  have hprojects : t.projects = s.projects := frame hrun hprojects
  refine ⟨fun g hg => ?_, fun id hid => ?_⟩
  · rw [Store.grants, husers, hgroups]
    exact hg
  · rw [Store.hasProject, hprojects]
    exact hid

theorem Change.keeps {c : Change} {s t : Store} (hc : c.Keeps) (hrun : c.run s = .ok t) :
    s.Keeps t := by
  cases c with
  | addProject id key organization qualifier =>
    obtain ⟨_, -, -, -, rfl⟩ := Store.addProject_eq_ok hrun
    refine ⟨fun g hg => hg, fun id hid => ?_⟩
    rw [Store.hasProject, List.any_append, Bool.or_eq_true]
    exact .inl hid
  | refresh project reading =>
    cases hrun
    refine ⟨fun g hg => hg, fun id hid => ?_⟩
    rw [Store.hasProject_refresh]
    exact hid
  | insert draft =>
    cases draft with
    | userGrant rowId user project role =>
      obtain ⟨_, _, -, -, -, -, -, rfl⟩ := Store.addUserGrant_eq_ok hrun
      refine ⟨fun g hg => ?_, fun id hid => hid⟩
      rw [Store.mem_grants] at hg ⊢
      refine hg.imp_left ?_
      rintro ⟨r, hr, hrg⟩
      exact ⟨r, List.mem_append_left _ hr, hrg⟩
    | groupGrant rowId group project role =>
      obtain ⟨_, -, -, -, -, rfl⟩ := Store.addGroupGrant_eq_ok hrun
      refine ⟨fun g hg => ?_, fun id hid => hid⟩
      rw [Store.mem_grants] at hg ⊢
      refine hg.imp_right ?_
      rintro ⟨r, hr, hrg⟩
      exact ⟨r, List.mem_append_left _ hr, hrg⟩
    | _ => refine keeps_of_unwritten hrun ?_ ?_ ?_ <;> rintro ⟨⟩
  | dropUserGrants | dropGroupGrants | delete => exact hc.elim
  -- what is left writes neither grants nor projects
  | _ => refine keeps_of_unwritten hrun ?_ ?_ ?_ <;> rintro ⟨⟩

theorem Change.IsAdding.keeps {d : Change} (h : d.IsAdding) : d.Keeps := by
  cases d with
  | dropUserGrants | dropGroupGrants | delete => cases h
  | _ => trivial

theorem Change.IsEditing.keeps {d : Change} (h : d.IsEditing) : d.Keeps := by
  cases d with
  | dropUserGrants | dropGroupGrants | delete => cases h
  | _ => trivial

/-- A change of a row deletes nothing unless it is a deletion. -/
theorem RowChange.Makes.keeps {c : RowChange} {d : Change}
    (hc : (Call.change c).deletes = false) (h : c.Makes d) : d.Keeps := by
  cases c with
  | delete kind id => cases hc
  | addGroup => obtain ⟨_, -, rfl⟩ := h; trivial
  | addMember | removeMember => obtain ⟨_, _, -, -, rfl⟩ := h; trivial
  | renameGroup => obtain ⟨_, _, -, -, rfl⟩ := h; trivial
  | _ => cases h; trivial

theorem Call.keeps {c : Call} {d : Change} (hc : c.deletes = false) (h : c.Allows (.change d)) :
    d.Keeps := by
  cases c with
  | change c =>
    rcases h with h | ⟨d', hmakes, h⟩
    · cases h
    · cases h
      exact hmakes.keeps hc
  | grants c =>
    cases c with
    | revokeFromUser | revokeFromGroup | revokeAllOfGroup | revokeAllOnProject => cases hc
    | _ => exact Change.IsAdding.keeps h
  | templates => exact Change.IsEditing.keeps h
  | applyTemplate | applySnapshot | applyDraft | applyDefault | commandLine =>
    exact Change.IsAdding.keeps h
  | ask => cases h
  | check => obtain ⟨_, h⟩ := h; cases h
  | commit | rollback => cases h

/-- **What stays while nothing is deleted.** The grants and the projects that both views of a
session have are there after every run of calls that delete nothing. -/
theorem Session.keeps_serveAll {r : Store} {s : Session} {calls : List Call}
    (hcalls : ∀ c ∈ calls, c.deletes = false) (hs : s.InBoth r.Keeps) :
    (s.serveAll calls).InBoth r.Keeps := by
  refine serveAll_invariant ?_ hs
  intro c hc s d store hallowed _ hrun hkept
  exact hkept.trans (Change.keeps (Call.keeps (hcalls c hc) hallowed) hrun)

end RoleGrants
