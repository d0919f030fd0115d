/-!
# Sets of code points

A set of code points is given by the increasing list of the positions at which membership
changes, which is how the tables of character properties in this library are stored. The tables
hold the properties of Unicode 17.
-/

namespace DataAccess.Text

/-- A set of code points, as the increasing list of the positions at which membership flips. -/
structure CodePointSet where
  flips : List Nat

namespace CodePointSet

/-- Membership of a position in the set that starts outside and flips at every listed position. -/
def flipped : List Nat → Nat → Bool
  | [], _ => false
  | flip :: later, position => if position < flip then false else !flipped later position

/-- Whether the set holds the code point of `c`. -/
def contains (set : CodePointSet) (c : Char) : Bool :=
  flipped set.flips c.toNat

/-- A position below every flip lies outside the set. -/
theorem flipped_eq_false_of_lt {flip position : Nat} (below : position < flip) (later : List Nat) :
    flipped (flip :: later) position = false := by
  simp [flipped, below]

end CodePointSet

end DataAccess.Text
