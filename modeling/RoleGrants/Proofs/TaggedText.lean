import Mathlib.Data.List.Basic
import Mathlib.Data.List.TakeWhile
import RoleGrants.Markup.Piece

/-!
# Texts and tags in turn

What is marked up is put together from texts and tags, and this is how it is taken apart again: a
text and the tag behind it are the first pieces of what they begin (`piecesFrom_tagged`).

This needs two things of the text. No tag may begin in it, and it may not end with a backslash,
which would make the tag behind it text; both are said by `EndsBeforeTag`. The lemma on single
positions is `escapedTagAt?_append`: in such a text no position looks like a tag, whatever comes
behind the text.
-/

namespace RoleGrants.Markup

/-! ### Putting together -/

/-- What can stand in the brackets of a tag. -/
structure IsTagBody (body : List Char) : Prop where
  starts : body.head?.any startsTag = true
  noOpening : '[' ∉ body
  noClosing : ']' ∉ body

instance (body : List Char) : Decidable (IsTagBody body) :=
  decidable_of_iff (body.head?.any startsTag = true ∧ '[' ∉ body ∧ ']' ∉ body)
    ⟨fun ⟨hstarts, hopen, hclose⟩ => ⟨hstarts, hopen, hclose⟩,
      fun h => ⟨h.starts, h.noOpening, h.noClosing⟩⟩

theorem IsTagBody.closing {body : List Char} (h : IsTagBody body) : IsTagBody ('/' :: body) := by
  refine ⟨rfl, ?_, ?_⟩
  · rw [List.mem_cons, not_or]
    exact ⟨by decide, h.noOpening⟩
  · rw [List.mem_cons, not_or]
    exact ⟨by decide, h.noClosing⟩

/-- A text that ends where it seems to: no tag begins in it, and no backslash at its end touches the
tag behind it. -/
structure EndsBeforeTag (text : List Char) : Prop where
  noOpening : '[' ∉ text
  noSlash : text.getLast? ≠ some '\\'

instance (text : List Char) : Decidable (EndsBeforeTag text) :=
  decidable_of_iff ('[' ∉ text ∧ text.getLast? ≠ some '\\')
    ⟨fun ⟨hopen, hslash⟩ => ⟨hopen, hslash⟩, fun h => ⟨h.noOpening, h.noSlash⟩⟩

/-- A text, the tag behind it, and what comes afterwards. -/
def tagged (text body rest : List Char) : List Char := text ++ '[' :: (body ++ ']' :: rest)

theorem append_tagged (before text body rest : List Char) :
    before ++ tagged text body rest = tagged (before ++ text) body rest := by
  rw [tagged, tagged, List.append_assoc]

theorem tagged_append (text body rest behind : List Char) :
    tagged text body rest ++ behind = tagged text body (rest ++ behind) := by
  simp only [tagged, List.append_assoc, List.cons_append]

theorem tagged_tagged (text body between body' rest : List Char) :
    tagged (tagged text body between) body' rest =
      tagged text body (tagged between body' rest) := by
  rw [tagged, tagged_append]
  rfl

/-- A text whose only brackets are those of a closing tag. -/
def HoldsClosingTag (text : List Char) : Prop :=
  ∃ before closing after, text = tagged before ('/' :: closing) after ∧
    EndsBeforeTag before ∧ IsTagBody ('/' :: closing) ∧ '[' ∉ after

theorem EndsBeforeTag.of_append {before text : List Char} (hbefore : '[' ∉ before)
    (hne : text ≠ []) (h : EndsBeforeTag text) : EndsBeforeTag (before ++ text) := by
  refine ⟨?_, ?_⟩
  · rw [List.mem_append, not_or]
    exact ⟨hbefore, h.noOpening⟩
  · rw [List.getLast?_append_of_ne_nil before hne]
    exact h.noSlash

theorem EndsBeforeTag.append {before text : List Char} (hbefore : EndsBeforeTag before)
    (h : EndsBeforeTag text) : EndsBeforeTag (before ++ text) := by
  by_cases hne : text = []
  · rw [hne, List.append_nil]
    exact hbefore
  · exact of_append hbefore.noOpening hne h

/-! ### Taking apart -/

theorem untilClosing_append {body : List Char} (rest : List Char) (hopen : '[' ∉ body)
    (hclose : ']' ∉ body) : untilClosing (body ++ ']' :: rest) = some (body, rest) := by
  induction body with
  | nil => rfl
  | cons c body ih =>
    rw [List.mem_cons, not_or] at hopen hclose
    have hrest := ih hopen.2 hclose.2
    have hc : c ≠ ']' := Ne.symm hclose.1
    have hc' : c ≠ '[' := Ne.symm hopen.1
    rw [List.cons_append, untilClosing.eq_4 _ _ hc hc', hrest]
    rfl

theorem escapedTagAt?_tag {body : List Char} (h : IsTagBody body) (rest : List Char) :
    escapedTagAt? ('[' :: (body ++ ']' :: rest)) = some (0, body, rest) := by
  obtain ⟨hstarts, hopen, hclose⟩ := h
  cases body with
  | nil => cases hstarts
  | cons c body =>
    rw [List.mem_cons, not_or] at hopen hclose
    have hbody := untilClosing_append rest hopen.2 hclose.2
    have htag : tagAt? ('[' :: c :: (body ++ ']' :: rest)) = some (c :: body, rest) := by
      have hc : startsTag c = true := hstarts
      rw [tagAt?, if_pos hc, hbody]
      rfl
    have hslash : ('[' == '\\') = false := rfl
    rw [escapedTagAt?, List.cons_append, List.dropWhile_cons, List.takeWhile_cons, hslash]
    simp [htag]

/-- No tag begins in a text that ends before one. -/
theorem escapedTagAt?_append {text : List Char} (rest : List Char) (hne : text ≠ [])
    (h : EndsBeforeTag text) : escapedTagAt? (text ++ rest) = none := by
  obtain ⟨hopen, hslash⟩ := h
  -- the first character that is no backslash still belongs to the text
  obtain ⟨c, cs, hdrop⟩ : ∃ c cs, text.dropWhile (· == '\\') = c :: cs := by
    refine List.exists_cons_of_ne_nil fun hnil => hslash ?_
    have hall := List.dropWhile_eq_nil_iff.1 hnil (text.getLast hne) (List.getLast_mem hne)
    rw [List.getLast?_eq_some_getLast hne, beq_iff_eq.1 hall]
  have hc : c ≠ '[' := by
    rintro rfl
    exact hopen ((List.dropWhile_sublist _).mem (hdrop ▸ List.mem_cons_self))
  have hnotag : tagAt? (c :: (cs ++ rest)) = none := by
    unfold tagAt?
    split
    · next heq => exact absurd (List.cons.inj heq).1 hc
    · rfl
  rw [escapedTagAt?, List.dropWhile_append, hdrop]
  simp [hnotag]

theorem EndsBeforeTag.of_cons {c : Char} {text : List Char} (h : EndsBeforeTag (c :: text)) :
    EndsBeforeTag text := by
  refine ⟨fun hm => h.noOpening (List.mem_cons_of_mem c hm), fun hlast => h.noSlash ?_⟩
  rw [List.getLast?_cons, hlast]
  rfl

/-- A text before a tag is read to its end. -/
theorem piecesFrom_append {text : List Char} (h : EndsBeforeTag text) (read rest : List Char) :
    piecesFrom read (text ++ rest) = piecesFrom (text.reverse ++ read) rest := by
  induction text generalizing read with
  | nil => rfl
  | cons c text ih =>
    have hnone := escapedTagAt?_append rest (List.cons_ne_nil c text) h
    rw [List.cons_append] at hnone ⊢
    rw [piecesFrom]
    split
    · next heq => rw [hnone] at heq; cases heq
    · rw [ih h.of_cons, List.reverse_cons, List.append_assoc]
      rfl

/-- **A text and the tag behind it** are the first pieces of what they begin. -/
theorem piecesFrom_tagged {text body : List Char} (htext : EndsBeforeTag text)
    (hbody : IsTagBody body) (rest : List Char) :
    piecesFrom [] (tagged text body rest) =
      pending text.reverse ++ .tag body :: piecesFrom [] rest := by
  rw [tagged, piecesFrom_append htext, List.append_nil, piecesFrom]
  split
  · next heq =>
    rw [escapedTagAt?_tag hbody] at heq
    cases heq
    rw [List.append_assoc]
    rfl
  · next heq => rw [escapedTagAt?_tag hbody] at heq; cases heq

end RoleGrants.Markup
