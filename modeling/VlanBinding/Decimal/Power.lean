/-!
The powers that numbers are made of.
-/

namespace VlanBinding.Decimal

abbrev twoTo (n : Nat) : Nat := Nat.pow 2 n

abbrev tenTo (n : Nat) : Nat := Nat.pow 10 n

end VlanBinding.Decimal
