/-!
Powers of the two bases in which numbers are scaled.
-/

namespace DesignTokens

def powerOfTwo (exponent : Nat) : Nat :=
  Nat.pow 2 exponent

def powerOfTen (exponent : Nat) : Nat :=
  Nat.pow 10 exponent

end DesignTokens
