/-
Sets of characters as ranges of code points.
-/
import VarlinkClient.Text.Basic

namespace VarlinkClient

/-- A set of code points: the ranges it is made of, each by its first and its last. -/
abbrev Ranges := List (Nat × Nat)

namespace Ranges

/-- The code point lies in one of the ranges. -/
def contains (ranges : Ranges) (n : Nat) : Bool :=
  ranges.any fun range => range.1 ≤ n && n ≤ range.2

end Ranges

end VarlinkClient
