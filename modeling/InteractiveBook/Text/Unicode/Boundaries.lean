/-!
# Sets of characters by their boundaries

A set of code points is stored as the ascending list of the places where membership changes.
A code point belongs to the set when an odd number of boundaries lie at or before it.
-/

namespace InteractiveBook.Text.Unicode

/-- A set of code points, given by the ascending points at which membership changes. -/
structure Boundaries where
  /-- Starts of runs at even positions, first code points after runs at odd positions. -/
  points : Array Nat

/-- A code point belongs to the set when an odd number of boundaries lie at or before it. -/
def Boundaries.contains (b : Boundaries) (n : Nat) : Bool :=
  b.points.foldl (fun inside p => if p ≤ n then !inside else inside) false

end InteractiveBook.Text.Unicode
