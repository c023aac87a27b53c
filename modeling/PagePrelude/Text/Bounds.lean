/-!
# Sets of code points

A set of code points is written as the ascending list of the places where
membership changes: the first member of a run, then the first non-member after it.
-/

namespace PagePrelude.Text

/-- Membership in the set with the given ascending bounds. -/
def inBounds (n : Nat) : List Nat → Bool
  | first :: next :: rest => first ≤ n && (n < next || inBounds n rest)
  | _ => false

end PagePrelude.Text
