/-!
# Powers

Powers of the two bases that numbers are written in.
-/

namespace DataAccess.Numeral

/-- A power of two. -/
abbrev twoTo (exponent : Nat) : Nat :=
  Nat.pow 2 exponent

/-- A power of ten. -/
abbrev tenTo (exponent : Nat) : Nat :=
  Nat.pow 10 exponent

end DataAccess.Numeral
