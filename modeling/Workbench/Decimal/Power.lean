namespace Workbench

/-!
# Powers of two and ten

The scales of binary and decimal numbers.
-/

/-- The power of two with a given exponent. -/
def twoTo (exponent : Nat) : Nat :=
  Nat.pow 2 exponent

/-- The power of ten with a given exponent. -/
def tenTo (exponent : Nat) : Nat :=
  Nat.pow 10 exponent

end Workbench
