import RoleGrants.Markup.Render
import RoleGrants.Text.CellWidth

/-!
# Marked-up text on the console

A line of marked-up text is written without its styles, in which tabulators are replaced by spaces.
The styles matter nevertheless: a colour that cannot be read is an error, if there is anything to be
written in it.
-/

namespace RoleGrants.Markup

/-- The distance of tabulators. -/
def tabWidth : Nat := 8

/-- A line, taken apart at its tabulators, with spaces in their places: each ends at the next cell
that is a multiple of the distance. `cell` is the first cell of the line. -/
def expandParts (cell : Nat) : List (List Char) → List Char
  | [] => []
  | [last] => last
  | part :: next :: rest =>
    let reached := cell + Text.cells (part ++ [' '])
    let fill := (tabWidth - reached % tabWidth) % tabWidth
    part ++ ' ' :: (List.replicate fill ' ' ++ expandParts (reached + fill) (next :: rest))

/-- Text with spaces in place of its tabulators. -/
def expandTabs (cs : List Char) : List Char :=
  ['\n'].intercalate ((Text.partsBetween '\n' cs).map fun line =>
    expandParts 0 (Text.partsBetween '\t' line))

/-- The part of a text that a stretch covers. -/
def Span.covered (s : Span) (cs : List Char) : List Char := (cs.take s.stop).drop s.start

/-- Whether a stretch has anything to write. Ends of lines do not count. If the text is one piece,
without ends of lines and tabulators, every stretch has, even an empty one. -/
def Span.isWritten (s : Span) (cs : List Char) : Bool :=
  !(cs.contains '\n' || cs.contains '\t') || (s.covered cs).any (· != '\n')

/-- A rendering, as the console writes it. -/
def Rendering.printed (r : Rendering) : Except MarkupError String :=
  if r.allSpans.any fun s => s.isWritten r.text && isUnreadableStyle s.style then
    .error .unreadableColour
  else .ok (String.ofList (expandTabs r.text ++ ['\n']))

/-- A line of marked-up text, as the console writes it. -/
def printed (s : String) : Except MarkupError String := (render s).bind Rendering.printed

end RoleGrants.Markup
