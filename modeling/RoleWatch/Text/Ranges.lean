/-!
Sets of code points given by their ranges, the form in which character properties are tabulated.
-/
namespace RoleWatch

abbrev Ranges := List (Nat × Nat)

namespace Ranges

def has (ranges : Ranges) (code : Nat) : Bool :=
  ranges.any fun (first, last) => first ≤ code && code ≤ last

end Ranges

end RoleWatch
