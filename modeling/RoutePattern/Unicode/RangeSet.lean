/-!
# Sets of code points

A property of characters is given by the ranges of code points that have it, both ends included.
-/

namespace RoutePattern.Unicode

/-- Ranges of code points, both ends included. -/
abbrev RangeSet := List (Nat × Nat)

namespace RangeSet

def contains (set : RangeSet) (code : Nat) : Bool :=
  set.any fun range => Nat.ble range.1 code && Nat.ble code range.2

def holds (set : RangeSet) (c : Char) : Bool :=
  set.contains c.toNat

end RangeSet

end RoutePattern.Unicode
