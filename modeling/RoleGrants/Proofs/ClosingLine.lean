import RoleGrants.CommandLine.Run
import RoleGrants.Proofs.StyledLine

/-!
# The closing line of an application

The closing line names the template with its stored name and id, and the project, and all three
stand in it as they are. It is one styled text and a plain one behind it (`toList_applicationLine`),
the name in the first and the other two in the second, so whether it is printed is a matter of the
brackets in these texts. Without any it is (`PlainTexts.reportable`); with a closing tag of their
own it is not, whichever of the three brings it (`BringsClosingTag.not_reportable`).

The line that tells that there is no default template holds no such text and is always printed.
-/

namespace RoleGrants.CommandLine

/-- **An application that can be reported:** its closing line is one that the console prints. -/
def Reportable (project : String) (t : Snapshot) : Prop :=
  ∃ text, Markup.printed (applicationLine project (some t)) = .ok text

/-- None of the texts of a closing line holds an opening bracket: neither the name and the id of the
template nor the project. -/
structure PlainTexts (project : String) (t : Snapshot) : Prop where
  name : '[' ∉ (Text.plainOption t.name).toList
  id : '[' ∉ (Text.plainOption t.id).toList
  project : '[' ∉ project.toList

/-- **A closing line with a closing tag too many:** the first of its texts that holds a bracket
holds a closing tag and no other bracket. -/
inductive BringsClosingTag (project : String) (t : Snapshot) : Prop where
  | name (h : Markup.HoldsClosingTag (Text.plainOption t.name).toList) : BringsClosingTag project t
  | id (hname : '[' ∉ (Text.plainOption t.name).toList)
      (h : Markup.HoldsClosingTag (Text.plainOption t.id).toList) : BringsClosingTag project t
  | project (hname : '[' ∉ (Text.plainOption t.name).toList)
      (hid : '[' ∉ (Text.plainOption t.id).toList) (h : Markup.HoldsClosingTag project.toList) :
      BringsClosingTag project t

/-! ### The shape of the line -/

theorem isStyleTag_green : Markup.IsStyleTag "green" := by decide +kernel

theorem isStyleTag_yellow : Markup.IsStyleTag "yellow" := by decide +kernel

theorem toList_applicationLine (project : String) (t : Snapshot) :
    (applicationLine project (some t)).toList =
      Markup.styledLine "green"
        ("Applied template '".toList ++ ((Text.plainOption t.name).toList ++ ['\x27']))
        (" (".toList ++ ((Text.plainOption t.id).toList ++
          (") to project ".toList ++ project.toList))) := by
  have hopen : "[green]Applied template '".toList =
      '[' :: ("green".toList ++ ']' :: "Applied template '".toList) := by decide +kernel
  have hclose : "'[/green] (".toList =
      '\x27' :: '[' :: ('/' :: "green".toList ++ ']' :: " (".toList) := by decide +kernel
  rw [applicationLine, String.toList_join]
  simp only [List.flatMap_cons, List.flatMap_nil, hopen, hclose, Markup.styledLine, Markup.tagged,
    List.append_assoc, List.cons_append, List.nil_append, List.append_nil]

theorem toList_noDefaultLine (project : String) :
    (applicationLine project none).toList =
      Markup.styledLine "yellow" "No default template configured, nothing applied".toList [] := by
  show "[yellow]No default template configured, nothing applied[/yellow]".toList = _
  decide +kernel

/-! ### Printing it -/

section Printing

variable {project : String} {t : Snapshot}

theorem endsBeforeTag_beginning : Markup.EndsBeforeTag "Applied template '".toList := by
  decide +kernel

/-- The quote behind the name keeps a backslash at its end away from the tag. -/
theorem endsBeforeTag_quoted {name : List Char} (hname : '[' ∉ name) :
    Markup.EndsBeforeTag (name ++ ['\x27']) := by
  have hquote : Markup.EndsBeforeTag ['\x27'] := by decide
  exact hquote.of_append hname (List.cons_ne_nil _ _)

theorem endsBeforeTag_parenthesis : Markup.EndsBeforeTag " (".toList := by decide +kernel

/-- What stands before a tag in the project. -/
theorem endsBeforeTag_behind {id before : List Char} (hid : '[' ∉ id)
    (hbefore : Markup.EndsBeforeTag before) :
    Markup.EndsBeforeTag (" (".toList ++ (id ++ (") to project ".toList ++ before))) := by
  have hproject : Markup.EndsBeforeTag ") to project ".toList := by decide +kernel
  have hne : ") to project ".toList ++ before ≠ [] :=
    List.append_ne_nil_of_left_ne_nil (by decide +kernel) before
  exact endsBeforeTag_parenthesis.append ((hproject.append hbefore).of_append hid hne)

/-- **Plain texts are reported.** -/
theorem PlainTexts.reportable (h : PlainTexts project t) : Reportable project t := by
  have htext := endsBeforeTag_beginning.append (endsBeforeTag_quoted h.name)
  refine ⟨_, Markup.printed_styledLine isStyleTag_green htext ?_
    (toList_applicationLine project t)⟩
  simp only [List.mem_append, not_or]
  exact ⟨by decide +kernel, h.id, by decide +kernel, h.project⟩

/-- **A closing tag too many is not reported.** -/
theorem BringsClosingTag.not_reportable (h : BringsClosingTag project t) :
    ¬ Reportable project t := by
  have hline := toList_applicationLine project t
  suffices herror : ∃ e, Markup.printed (applicationLine project (some t)) = .error e by
    rintro ⟨text, htext⟩
    obtain ⟨e, he⟩ := herror
    cases htext.symm.trans he
  cases h with
  | name h =>
    -- the tag stands in the styled text
    obtain ⟨before, closing, after, htext, hbefore, hclosing, hafter⟩ := h
    rw [htext, Markup.tagged_append, Markup.append_tagged] at hline
    exact Markup.not_printed_of_text_closes isStyleTag_green
      (endsBeforeTag_beginning.append hbefore) hclosing (endsBeforeTag_quoted hafter) hline
  | id hname h =>
    obtain ⟨before, closing, after, htext, hbefore, hclosing, -⟩ := h
    have hstyled := endsBeforeTag_beginning.append (endsBeforeTag_quoted hname)
    rw [htext, Markup.tagged_append, Markup.append_tagged] at hline
    exact Markup.not_printed_of_rest_closes isStyleTag_green hstyled
      (endsBeforeTag_parenthesis.append hbefore) hclosing hline
  | project hname hid h =>
    obtain ⟨before, closing, after, htext, hbefore, hclosing, -⟩ := h
    have hstyled := endsBeforeTag_beginning.append (endsBeforeTag_quoted hname)
    rw [htext, Markup.append_tagged, Markup.append_tagged, Markup.append_tagged] at hline
    exact Markup.not_printed_of_rest_closes isStyleTag_green hstyled
      (endsBeforeTag_behind hid hbefore) hclosing hline

theorem status_printing_of_ok {line text : String} (h : Markup.printed line = .ok text) :
    (printing line).status = 0 := by
  rw [printing, h]

/-- What cannot be reported ends with an error that nothing catches. -/
theorem printing_of_not_reportable (h : ¬ Reportable project t) :
    ∃ e, printing (applicationLine project (some t)) = ⟨1, "", "", some (.markup e)⟩ := by
  cases hline : Markup.printed (applicationLine project (some t)) with
  | ok text => exact absurd ⟨text, hline⟩ h
  | error e =>
    refine ⟨e, ?_⟩
    rw [printing, hline]
    rfl

/-- The status of an application that went through is that of its closing line. -/
theorem status_applied_iff :
    (printing (applicationLine project (some t))).status = 0 ↔ Reportable project t := by
  constructor
  · intro hstatus
    by_contra hnot
    obtain ⟨e, he⟩ := printing_of_not_reportable hnot
    rw [he] at hstatus
    cases hstatus
  · rintro ⟨text, htext⟩
    exact status_printing_of_ok htext

theorem status_noDefault (project : String) :
    (printing (applicationLine project none)).status = 0 := by
  have htext : Markup.EndsBeforeTag
      "No default template configured, nothing applied".toList := by decide +kernel
  exact status_printing_of_ok (Markup.printed_styledLine isStyleTag_yellow htext
    List.not_mem_nil (toList_noDefaultLine project))

end Printing

end RoleGrants.CommandLine
