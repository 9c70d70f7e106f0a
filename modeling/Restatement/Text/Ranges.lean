/-!
Sets of code points as sorted tables of inclusive intervals.
-/

namespace Restatement

abbrev Ranges := List (Nat × Nat)

/-- Membership; the search ends at the first interval that starts past the point. -/
def Ranges.has : Ranges → Nat → Bool
  | [], _ => false
  | (low, high) :: rest, point =>
      if point < low then false
      else if point ≤ high then true
      else Ranges.has rest point

end Restatement
