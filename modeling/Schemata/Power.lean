/-!
# Powers

The powers of the two bases that numbers are scaled by.
-/

namespace Schemata

abbrev twoTo (exponent : Nat) : Nat :=
  Nat.pow 2 exponent

abbrev tenTo (exponent : Nat) : Nat :=
  Nat.pow 10 exponent

end Schemata
