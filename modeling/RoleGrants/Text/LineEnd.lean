/-!
# Ends of lines

A line ends with the line feed. In some texts a return stands before it, or in its place.
-/

namespace RoleGrants.Text

/-- A text in which no line ends with a return and a line feed, but with the line feed alone. -/
def withLineFeeds : List Char → List Char
  | [] => []
  | [c] => [c]
  | c :: d :: cs =>
    if c == '\r' && d == '\n' then withLineFeeds (d :: cs) else c :: withLineFeeds (d :: cs)

/-- A text in which every line ends with the line feed alone. -/
def withLineFeedsOnly (cs : List Char) : List Char :=
  (withLineFeeds cs).map fun c => if c == '\r' then '\n' else c

end RoleGrants.Text
