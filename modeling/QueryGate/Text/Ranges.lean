/-!
# Sets of code points

A character class is given as increasing closed ranges of code points. The membership test stops at
the first range above the code point, so that text in the low planes is decided at once.
-/

namespace QueryGate.Text

/-- Closed ranges of code points, in increasing order. -/
abbrev Ranges := List (Nat × Nat)

/-- `n` lies in one of the ranges. -/
def Ranges.contains : Ranges → Nat → Bool
  | [], _ => false
  | (lo, hi) :: rest, n => if n < lo then false else if n ≤ hi then true else contains rest n

end QueryGate.Text
