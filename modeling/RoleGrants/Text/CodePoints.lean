/-!
# Sets of characters

A property of the Unicode standard is a set of code points, and such a set is a few hundred runs of
neighbours. It is kept as the bounds of its runs, and membership is a matter of how many bounds a
code point has passed.
-/

namespace RoleGrants.Text

/-- A set of code points. The bounds stand in increasing order: the first code point of a run and
the first one after the run, in turn. -/
structure CodePoints where
  bounds : Array Nat

/-- The number of entries of `bounds` that do not exceed `n`, by bisection of the positions from
`lo` up to `lo + width`. -/
def countUpTo (bounds : Array Nat) (n : Nat) (lo width : Nat) : Nat :=
  if width = 0 then lo
  else
    let half := width / 2
    match bounds[lo + half]? with
    | none => lo
    | some b =>
      if b ≤ n then countUpTo bounds n (lo + half + 1) (width - half - 1)
      else countUpTo bounds n lo half
termination_by width
decreasing_by all_goals omega

/-- Whether a character is in the set: it is inside a run when it has passed an odd number of
bounds. -/
def CodePoints.contains (s : CodePoints) (c : Char) : Bool :=
  countUpTo s.bounds c.toNat 0 s.bounds.size % 2 == 1

end RoleGrants.Text
