/-!
# Sets of characters as boundaries

A set of characters is given by the increasing list of the code points at which membership
changes, starting outside the set.
-/

namespace ModuleBundler.Unicode

/-- Code points at which membership changes; even positions open a range, odd ones close it. -/
abbrev Boundaries := List Nat

/-- A character is a member when an odd number of boundaries are at or below it. -/
def Boundaries.contains (bounds : Boundaries) (c : Char) : Bool :=
  bounds.countP (· ≤ c.toNat) % 2 == 1

/-- The members as inclusive ranges. -/
def Boundaries.ranges : Boundaries → List (Nat × Nat)
  | [] => []
  | [lo] => [(lo, 0x10FFFF)]
  | lo :: hi :: r => (lo, hi - 1) :: ranges r

end ModuleBundler.Unicode
