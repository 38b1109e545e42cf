/-!
The whole numbers that fit a width in bits, with and without a sign.
-/
namespace RoleWatch.Width

def count (bits : Nat) : Nat := 1 <<< bits

def fitsUnsigned (bits : Nat) (number : Int) : Bool := 0 ≤ number && number < count bits

def fitsSigned (bits : Nat) (number : Int) : Bool :=
  -(count (bits - 1) : Int) ≤ number && number < count (bits - 1)

end RoleWatch.Width
