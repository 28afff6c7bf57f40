import RoleGrants.Markup.Emoji
import RoleGrants.Markup.Handler
import RoleGrants.Markup.Piece
import RoleGrants.Markup.Style

/-!
# Text without its markup

What marked-up text stands for is a text in which stretches have styles. Tags do not appear in it,
and names of emoji are replaced in each piece of text. The tags are taken one after the other: an
opening tag is remembered with the place where it stands, and a closing one makes the stretch up to
its own place. A closing tag that closes nothing is an error, and so is a handler that is no
constant when its tag is closed. Tags that are never closed reach up to the end.
-/

namespace RoleGrants.Markup

inductive MarkupError where
  /-- a closing tag names a style that is not open -/
  | notOpen (name : String)
  /-- a closing tag without a name stands where no style is open -/
  | nothingOpen
  /-- a tag that is closed names no handler for its event -/
  | noHandler (name : String)
  /-- a style has a colour that cannot be read -/
  | unreadableColour
  deriving DecidableEq, Repr

/-- A tag that is open: its name in normal form, what stands behind its equals sign, and the length
of the text before it. -/
structure OpenTag where
  name : String
  parameters : Option (List Char) := none
  start : Nat := 0
  deriving DecidableEq, Repr

/-- A stretch of text and the words of its style. -/
structure Span where
  start : Nat
  stop : Nat
  style : List Char
  deriving DecidableEq, Repr

namespace OpenTag

/-- Whether a tag names an event. -/
def isEvent (t : OpenTag) : Bool := t.name.toList.head? == some '@'

/-- Whether a tag says nothing about a handler, or names one. -/
def hasHandler (t : OpenTag) : Bool :=
  match t.parameters with
  | none => true
  | some cs => cs.isEmpty || isHandler cs

/-- The stretch from a tag up to a place. What stands behind the equals sign belongs to the
style. -/
def spanUpTo (t : OpenTag) (stop : Nat) : Span :=
  ⟨t.start, stop, t.name.toList ++ (t.parameters.map (' ' :: ·)).getD []⟩

end OpenTag

/-- Marked-up text as far as it has been read. -/
structure Rendering where
  text : List Char := []
  /-- the tags that are open, the last one first -/
  opened : List OpenTag := []
  spans : List Span := []
  deriving DecidableEq, Repr

/-- The controls that are not passed on: bell, backspace, vertical tabulator, form feed, return. -/
def isDroppedControl (c : Char) : Bool := [7, 8, 11, 12, 13].contains c.toNat

/-- The text that a piece of text stands for. -/
def plainText (cs : List Char) : List Char := (withEmoji (unescape cs)).filter (!isDroppedControl ·)

/-- The name in a tag, before the first equals sign. -/
def tagName (body : List Char) : List Char := body.takeWhile (· != '=')

/-- What stands behind the first equals sign of a tag. -/
def tagParameters (body : List Char) : Option (List Char) := (body.dropWhile (· != '=')).tail?

/-- The normal form of the name of a tag. -/
def tagForm (name : List Char) : Except MarkupError String :=
  match normalForm name with
  | .ok form => .ok form
  | .error _ => .error .unreadableColour

namespace Rendering

/-- Opens a tag. -/
def openTag (r : Rendering) (name : List Char) (parameters : Option (List Char)) :
    Except MarkupError Rendering := do
  let form ← tagForm name
  return { r with opened := ⟨form, parameters, r.text.length⟩ :: r.opened }

/-- Closes the last tag that is picked. -/
def closeTag (r : Rendering) (picked : OpenTag → Bool) (absent : MarkupError) :
    Except MarkupError Rendering :=
  match r.opened.find? picked with
  | none => .error absent
  | some t =>
    let opened := r.opened.eraseP picked
    if t.isEvent then
      if t.hasHandler then .ok { r with opened := opened } else .error (.noHandler t.name)
    else .ok { r with opened := opened, spans := t.spanUpTo r.text.length :: r.spans }

/-- Closes the last tag of a name, or of any. -/
def closeNamed (r : Rendering) (name : List Char) : Except MarkupError Rendering :=
  if (Text.trim name).isEmpty then r.closeTag (fun _ => true) .nothingOpen
  else do
    let form ← tagForm (Text.trim name)
    -- styles may close out of order: the innermost one of the name goes
    r.closeTag (·.name == form) (.notOpen form)

/-- Goes on with a piece. -/
def step (r : Rendering) : Piece → Except MarkupError Rendering
  | .text cs => .ok { r with text := r.text ++ plainText cs }
  | .tag body =>
    match tagName body with
    | '/' :: name => r.closeNamed name
    | name => r.openTag name (tagParameters body)

/-- All stretches with a style, those of tags that are still open included. -/
def allSpans (r : Rendering) : List Span :=
  r.spans ++ r.opened.map (·.spanUpTo r.text.length)

end Rendering

/-- Reads pieces. -/
def renderPieces (r : Rendering) (pieces : List Piece) : Except MarkupError Rendering :=
  pieces.foldlM Rendering.step r

/-- What marked-up text stands for. -/
def render (s : String) : Except MarkupError Rendering := renderPieces {} (pieces s.toList)

end RoleGrants.Markup
