/-! # Sets of characters given by ranges

A property of the Unicode standard is kept as the list of its maximal ranges
of code points, in increasing order.
-/

namespace CppToPython.Unicode

/-- Maximal ranges of code points, both ends included, in increasing order. -/
abbrev Ranges := List (Nat × Nat)

namespace Ranges

/-- Whether a code point lies in one of the ranges. Since the ranges increase,
    the search ends at the first one that starts beyond the code point. -/
def contains : Ranges → Nat → Bool
  | [], _ => false
  | (first, last) :: rest, n =>
      if n < first then false else n ≤ last || contains rest n

end Ranges

end CppToPython.Unicode
