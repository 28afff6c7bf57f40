import RoleGrants.Markup.Printed
import RoleGrants.Proofs.TaggedText

/-!
# Lines with a style

A line `[green]text[/green]rest` is printed if neither of its texts holds a tag
(`printed_styledLine`). It is an error if one of them brings a closing tag of its own
(`not_printed_of_text_closes`, `not_printed_of_rest_closes`).

For the second half nobody has to know which tags are open. A closing tag is an error or takes one
open tag away, so that the open tags can be counted (`length_opened_of_renderPieces`), and a line
that closes more than it has opened up to some place is an error whatever the names in its tags are
and whatever comes behind that place.

Whether a word is the name of a colour does not matter either: as a tag it is written the same way
if it is none (`StandsForItself.tagForm_eq`).
-/

namespace RoleGrants.Markup

/-! ### Words that are styles -/

/-- **A word that stands for itself** where a style is asked for: it is written in small letters and
is neither an attribute nor one of the words with a meaning of their own. Whether a colour has this
name does not matter. -/
structure StandsForItself (word : String) : Prop where
  isWord : Text.wordsOf word.toList = [word.toList]
  isTrimmed : Text.trim word.toList = word.toList
  isSmall : Text.lowered word.toList = word.toList
  noAttribute : attribute? word = none
  leadsNothing : leadWords.contains word = false
  notNone : word ≠ "none"
  noComponents : argument? "rgb(" word.toList = none

instance (word : String) : Decidable (StandsForItself word) :=
  decidable_of_iff
    (Text.wordsOf word.toList = [word.toList] ∧ Text.trim word.toList = word.toList ∧
      Text.lowered word.toList = word.toList ∧ attribute? word = none ∧
      leadWords.contains word = false ∧ word ≠ "none" ∧ argument? "rgb(" word.toList = none)
    ⟨fun ⟨hword, htrim, hsmall, hattribute, hlead, hnone, hcomponents⟩ =>
        ⟨hword, htrim, hsmall, hattribute, hlead, hnone, hcomponents⟩,
      fun h => ⟨h.isWord, h.isTrimmed, h.isSmall, h.noAttribute, h.leadsNothing, h.notNone,
        h.noComponents⟩⟩

namespace StandsForItself

variable {word : String}

theorem smallLetters_eq (h : StandsForItself word) : smallLetters word = word := by
  rw [smallLetters, h.isSmall, String.ofList_toList]

theorem style_ofText (h : StandsForItself word) :
    Style.ofText word.toList = (checkColour word).map fun _ => { colour := some word } := by
  have hwords : (Text.wordsOf word.toList).map String.ofList = [word] := by
    rw [h.isWord, List.map_singleton, String.ofList_toList]
  have hnone : ([word] == ["none"]) = false := by
    rw [beq_eq_false_iff_ne]
    intro heq
    exact h.notNone (List.cons.inj heq).1
  rw [Style.ofText, hwords]
  simp only [hnone, Bool.false_eq_true, if_false]
  rw [Style.read, h.smallLetters_eq, h.leadsNothing, Style.withWord, h.noAttribute]
  rfl

/-- A colour is known or unknown, and nothing else. -/
theorem checkColour_cases (h : StandsForItself word) :
    checkColour word = .ok () ∨ checkColour word = .error .unknownWord := by
  unfold checkColour
  dsimp only
  split
  · exact .inl rfl
  · rw [h.noComponents]
    exact .inr rfl

theorem tagForm_eq (h : StandsForItself word) : tagForm word.toList = .ok word := by
  unfold tagForm normalForm
  rw [h.style_ofText]
  rcases h.checkColour_cases with hcolour | hcolour
  · rw [hcolour]
    rfl
  · rw [hcolour, h.isTrimmed]
    dsimp only [Except.map]
    rw [h.isSmall, String.ofList_toList]

theorem not_isUnreadableStyle (h : StandsForItself word) :
    isUnreadableStyle word.toList = false := by
  unfold isUnreadableStyle
  rw [h.style_ofText]
  rcases h.checkColour_cases with hcolour | hcolour <;> rw [hcolour] <;> rfl

end StandsForItself

/-! ### Rendering piece by piece -/

theorem renderPieces_cons (r : Rendering) (p : Piece) (ps : List Piece) :
    renderPieces r (p :: ps) = (r.step p).bind fun r => renderPieces r ps := rfl

theorem renderPieces_append (r : Rendering) (ps qs : List Piece) :
    renderPieces r (ps ++ qs) = (renderPieces r ps).bind fun r => renderPieces r qs := by
  rw [renderPieces, List.foldlM_append]
  rfl

/-- A text that is one piece, or none if it is empty, is written behind what is there. -/
theorem renderPieces_pending (r : Rendering) (text : List Char) :
    renderPieces r (pending text.reverse) = .ok { r with text := r.text ++ plainText text } := by
  cases text with
  | nil =>
    simp [pending, renderPieces, plainText, unescape, withEmoji, replaceNames, pure, Except.pure]
  | cons c text =>
    have hpending : pending (c :: text).reverse = [.text (c :: text)] := by
      rw [pending, List.isEmpty_reverse, List.reverse_reverse]
      rfl
    rw [hpending]
    rfl

/-! ### Tags that open and tags that close -/

namespace Piece

/-- Whether a piece is a closing tag. -/
def closes : Piece → Bool
  | .text _ => false
  | .tag body => (tagName body).head? == some '/'

/-- Whether a piece is an opening tag. -/
def opens : Piece → Bool
  | .text _ => false
  | .tag body => (tagName body).head? != some '/'

end Piece

theorem Rendering.length_opened_of_closeTag {r r' : Rendering} {picked : OpenTag → Bool}
    {absent : MarkupError} (h : r.closeTag picked absent = .ok r') :
    r'.opened.length + 1 = r.opened.length := by
  unfold closeTag at h
  split at h
  · cases h
  · next t hfound =>
    have hmem : t ∈ r.opened := List.mem_of_find?_eq_some hfound
    have hpicked : picked t = true := List.find?_some hfound
    have hlength : (r.opened.eraseP picked).length + 1 = r.opened.length := by
      rw [List.length_eraseP_of_mem hmem hpicked]
      exact Nat.sub_add_cancel (List.length_pos_of_mem hmem)
    dsimp only at h
    -- a tag of an event goes as well, but leaves no style behind
    split at h
    · split at h
      · cases h
        exact hlength
      · cases h
    · cases h
      exact hlength

theorem Rendering.length_opened_of_closeNamed {r r' : Rendering} {name : List Char}
    (h : r.closeNamed name = .ok r') : r'.opened.length + 1 = r.opened.length := by
  unfold closeNamed at h
  split at h
  · exact length_opened_of_closeTag h
  · cases hform : tagForm (Text.trim name) with
    | error e => rw [hform] at h; cases h
    | ok form =>
      rw [hform] at h
      exact length_opened_of_closeTag h

theorem Rendering.length_opened_of_openTag {r r' : Rendering} {name : List Char}
    {parameters : Option (List Char)} (h : r.openTag name parameters = .ok r') :
    r'.opened.length = r.opened.length + 1 := by
  unfold openTag at h
  cases hform : tagForm name with
  | error e => rw [hform] at h; cases h
  | ok form =>
    rw [hform] at h
    cases h
    rfl

theorem Rendering.length_opened_of_step {r r' : Rendering} {p : Piece} (h : r.step p = .ok r') :
    r'.opened.length + p.closes.toNat = r.opened.length + p.opens.toNat := by
  cases p with
  | text cs =>
    cases h
    rfl
  | tag body =>
    unfold step at h
    dsimp only at h
    split at h
    · next name hname =>
      have hlength := length_opened_of_closeNamed h
      simpa [Piece.closes, Piece.opens, hname] using hlength
    · next name hname =>
      have hlength := length_opened_of_openTag h
      have hhead : (tagName body).head? ≠ some '/' := by
        intro hhead
        cases hbody : tagName body with
        | nil => rw [hbody] at hhead; cases hhead
        | cons c cs =>
          rw [hbody] at hhead
          cases hhead
          exact hname _ hbody
      simpa [Piece.closes, Piece.opens, beq_false_of_ne hhead, bne] using hlength

/-- **Each closing tag takes one open tag away.** -/
theorem length_opened_of_renderPieces {r r' : Rendering} {ps : List Piece}
    (h : renderPieces r ps = .ok r') :
    r'.opened.length + ps.countP Piece.closes = r.opened.length + ps.countP Piece.opens := by
  induction ps generalizing r with
  | nil =>
    cases h
    rfl
  | cons p ps ih =>
    rw [renderPieces_cons] at h
    cases hstep : r.step p with
    | error e => rw [hstep] at h; cases h
    | ok r₁ =>
      rw [hstep] at h
      have hfirst := Rendering.length_opened_of_step hstep
      have hrest := ih h
      have hcount (b : Bool) : (if b = true then 1 else 0) = b.toNat := by
        cases b <;> rfl
      rw [List.countP_cons, List.countP_cons, hcount, hcount]
      omega

/-- **What closes more than has been opened is not rendered,** whatever comes behind it. -/
theorem not_printed_of_closes {line : String} {ps qs : List Piece}
    (hpieces : pieces line.toList = ps ++ qs)
    (hcloses : ps.countP Piece.opens < ps.countP Piece.closes) :
    ∃ e, printed line = .error e := by
  have hrender : render line = (renderPieces {} ps).bind fun r => renderPieces r qs := by
    rw [render, hpieces, renderPieces_append]
  cases hps : renderPieces {} ps with
  | error e =>
    refine ⟨e, ?_⟩
    rw [printed, hrender, hps]
    rfl
  | ok r =>
    -- otherwise fewer tags than none would be open
    have hopened : r.opened.length + ps.countP Piece.closes = 0 + ps.countP Piece.opens :=
      length_opened_of_renderPieces hps
    omega

/-! ### A styled text and a plain one -/

/-- A word that can be written in the brackets of a tag and opens a style. -/
structure IsStyleTag (word : String) : Prop extends StandsForItself word where
  isBody : IsTagBody word.toList
  isName : tagName word.toList = word.toList
  noParameters : tagParameters word.toList = none
  noSlash : word.toList.head? ≠ some '/'
  noEvent : word.toList.head? ≠ some '@'

instance (word : String) : Decidable (IsStyleTag word) :=
  decidable_of_iff
    (StandsForItself word ∧ IsTagBody word.toList ∧ tagName word.toList = word.toList ∧
      tagParameters word.toList = none ∧ word.toList.head? ≠ some '/' ∧
      word.toList.head? ≠ some '@')
    ⟨fun ⟨hword, hbody, hname, hparameters, hslash, hevent⟩ =>
        ⟨hword, hbody, hname, hparameters, hslash, hevent⟩,
      fun h => ⟨h.toStandsForItself, h.isBody, h.isName, h.noParameters, h.noSlash, h.noEvent⟩⟩

namespace IsStyleTag

variable {word : String}

theorem step_opening (h : IsStyleTag word) (r : Rendering) :
    r.step (.tag word.toList) =
      .ok { r with opened := ⟨word, none, r.text.length⟩ :: r.opened } := by
  rw [Rendering.step, h.isName]
  split
  · next name hname =>
    refine absurd ?_ h.noSlash
    rw [hname]
    rfl
  · rw [Rendering.openTag, h.tagForm_eq, h.noParameters]
    rfl

theorem tagName_closing (h : IsStyleTag word) :
    tagName ('/' :: word.toList) = '/' :: word.toList := by
  have hname := h.isName
  rw [tagName] at hname
  rw [tagName, List.takeWhile_cons, hname]
  rfl

theorem step_closing (h : IsStyleTag word) {r : Rendering} {start : Nat} {opened : List OpenTag}
    (hopened : r.opened = ⟨word, none, start⟩ :: opened) :
    r.step (.tag ('/' :: word.toList)) =
      .ok { r with
        opened := opened
        spans := ⟨start, r.text.length, word.toList⟩ :: r.spans } := by
  have hne : word.toList.isEmpty = false := by
    cases hword : word.toList with
    | nil =>
      have hstarts := h.isBody.starts
      rw [hword] at hstarts
      cases hstarts
    | cons c cs => rfl
  have hevent : (word.toList.head? == some '@') = false := beq_false_of_ne h.noEvent
  -- the style that was opened last is the one that is picked
  rw [Rendering.step, h.tagName_closing]
  show r.closeNamed word.toList = _
  rw [Rendering.closeNamed, h.isTrimmed, hne, if_neg Bool.false_ne_true, h.tagForm_eq]
  show r.closeTag (·.name == word) (.notOpen word) = _
  rw [Rendering.closeTag, hopened]
  simp [OpenTag.isEvent, OpenTag.spanUpTo, hevent]

end IsStyleTag

/-- A text in a style, and another one behind it. -/
def styledLine (word : String) (text rest : List Char) : List Char :=
  tagged [] word.toList (tagged text ('/' :: word.toList) rest)

section Lines

variable {word line : String} {text rest : List Char}

theorem pieces_opened (h : IsStyleTag word) (behind : List Char) :
    pieces (tagged [] word.toList behind) = .tag word.toList :: piecesFrom [] behind := by
  have hempty : EndsBeforeTag [] := ⟨List.not_mem_nil, nofun⟩
  rw [pieces, piecesFrom_tagged hempty h.isBody]
  rfl

theorem pieces_styledLine (h : IsStyleTag word) (htext : EndsBeforeTag text) (rest : List Char) :
    pieces (styledLine word text rest) =
      .tag word.toList ::
        (pending text.reverse ++ .tag ('/' :: word.toList) :: piecesFrom [] rest) := by
  rw [styledLine, pieces_opened h, piecesFrom_tagged htext h.isBody.closing]

/-- **A line with a styled text is printed** when it has no other tags. -/
theorem printed_styledLine (h : IsStyleTag word) (htext : EndsBeforeTag text) (hrest : '[' ∉ rest)
    (hline : line.toList = styledLine word text rest) :
    printed line =
      .ok (String.ofList (expandTabs (plainText text ++ plainText rest) ++ ['\n'])) := by
  have hpieces : pieces line.toList = .tag word.toList ::
      (pending text.reverse ++ .tag ('/' :: word.toList) :: pending rest.reverse) := by
    rw [hline, pieces_styledLine h htext, piecesFrom_plain hrest, List.append_nil]
  have hrender : render line = .ok {
      text := plainText text ++ plainText rest
      spans := [⟨0, (plainText text).length, word.toList⟩] } := by
    -- the style is opened before the text, and closed again behind it
    rw [render, hpieces, renderPieces_cons, h.step_opening]
    simp only [Except.bind]
    rw [renderPieces_append, renderPieces_pending]
    simp only [Except.bind]
    rw [renderPieces_cons, h.step_closing rfl]
    simp only [Except.bind]
    rw [renderPieces_pending]
    rfl
  have hreadable := h.not_isUnreadableStyle
  rw [printed, hrender]
  simp [Except.bind, Rendering.printed, Rendering.allSpans, hreadable]

/-- No tag is opened or closed by a text. -/
theorem countP_pending (text : List Char) :
    (pending text).countP Piece.opens = 0 ∧ (pending text).countP Piece.closes = 0 := by
  unfold pending
  cases text.isEmpty with
  | true => exact ⟨rfl, rfl⟩
  | false => exact ⟨rfl, rfl⟩

theorem opens_word (h : IsStyleTag word) :
    Piece.opens (.tag word.toList) = true ∧ Piece.closes (.tag word.toList) = false := by
  have hhead : (tagName word.toList).head? ≠ some '/' := by
    rw [h.isName]
    exact h.noSlash
  exact ⟨bne_iff_ne.2 hhead, beq_false_of_ne hhead⟩

theorem closes_closing (word : List Char) :
    Piece.opens (.tag ('/' :: word)) = false ∧ Piece.closes (.tag ('/' :: word)) = true :=
  ⟨rfl, rfl⟩

/-- A style is opened once, and two closing tags follow: that is one too many. -/
theorem not_printed_of_two_closing {first second between before : List Char} {behind : List Piece}
    (h : IsStyleTag word)
    (hpieces : pieces line.toList = .tag word.toList :: (pending before ++
      .tag ('/' :: first) :: (pending between ++ .tag ('/' :: second) :: behind))) :
    ∃ e, printed line = .error e := by
  have hsplit : pieces line.toList = (.tag word.toList :: (pending before ++
      .tag ('/' :: first) :: (pending between ++ [.tag ('/' :: second)]))) ++ behind := by
    rw [hpieces]
    simp only [List.cons_append, List.append_assoc, List.nil_append]
  refine not_printed_of_closes hsplit ?_
  simp only [List.countP_cons, List.countP_append, List.countP_nil, countP_pending, opens_word h,
    closes_closing]
  decide

/-- **A closing tag in the styled text** closes the style, and the tag that should do so closes
nothing. -/
theorem not_printed_of_text_closes {before closing after : List Char} (h : IsStyleTag word)
    (hbefore : EndsBeforeTag before) (hclosing : IsTagBody ('/' :: closing))
    (hafter : EndsBeforeTag after)
    (hline : line.toList = styledLine word (tagged before ('/' :: closing) after) rest) :
    ∃ e, printed line = .error e := by
  have hpieces : pieces line.toList = .tag word.toList :: (pending before.reverse ++
      .tag ('/' :: closing) :: (pending after.reverse ++
        .tag ('/' :: word.toList) :: piecesFrom [] rest)) := by
    rw [hline, styledLine, tagged_tagged, pieces_opened h, piecesFrom_tagged hbefore hclosing,
      piecesFrom_tagged hafter h.isBody.closing]
  exact not_printed_of_two_closing h hpieces

/-- **A closing tag behind the styled text** finds nothing to close. -/
theorem not_printed_of_rest_closes {before closing after : List Char} (h : IsStyleTag word)
    (htext : EndsBeforeTag text) (hbefore : EndsBeforeTag before)
    (hclosing : IsTagBody ('/' :: closing))
    (hline : line.toList = styledLine word text (tagged before ('/' :: closing) after)) :
    ∃ e, printed line = .error e := by
  have hpieces : pieces line.toList = .tag word.toList :: (pending text.reverse ++
      .tag ('/' :: word.toList) :: (pending before.reverse ++
        .tag ('/' :: closing) :: piecesFrom [] after)) := by
    rw [hline, pieces_styledLine h htext, piecesFrom_tagged hbefore hclosing]
  exact not_printed_of_two_closing h hpieces

end Lines

end RoleGrants.Markup
