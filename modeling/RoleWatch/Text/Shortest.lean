import RoleWatch.Text.Binary64

/-!
The shortest decimal that reads back as a given number. Of the decimals with a given number of
digits only the two neighbours of the number can be the nearest ones that do, so these are tried
for one digit, two digits and so on.
-/
namespace RoleWatch.Shortest

structure Decimal where
  digits : Nat
  power : Int

/-- The place of the first digit of a quotient: the greatest power of ten that is not above it. -/
def leading (num den : Nat) : Int :=
  if den ≤ num then Binary64.width (num / den) - 1
  else -(Binary64.width ((den + num - 1) / num - 1) : Int)

def sides (d : Decimal) (quarters : Nat) (power : Int) : Nat × Nat :=
  ((d.digits * Binary64.tens d.power) <<< (2 - power).toNat,
    (quarters * Binary64.tens (-d.power)) <<< (power - 2).toNat)

/-- Whether a decimal reads back as a number. Half-way points belong to the number with an even
count of units; below a power of two the next number is only half as far away. -/
def readsBack (units : Nat) (power : Int) (d : Decimal) : Bool :=
  let below := if 2 * units = Binary64.unitLimit ∧ Binary64.leastPower < power then 1 else 2
  let (x, low) := sides d (4 * units - below) power
  let (y, high) := sides d (4 * units + 2) power
  if units % 2 = 0 then low ≤ x && y ≤ high else low < x && y < high

/-- The nearest decimal that has a given last place and reads back, the greater of two equally
near ones. -/
def atPlace? (units : Nat) (power place : Int) : Option Decimal :=
  let num := (units * Binary64.tens (-place)) <<< power.toNat
  let den := Binary64.tens place <<< (-power).toNat
  let down : Decimal := ⟨num / den, place⟩
  let up : Decimal := ⟨num / den + 1, place⟩
  let order := if 2 * (num % den) < den then [down, up] else [up, down]
  order.find? (readsBack units power)

/-- The shortest decimal of a number above zero; seventeen digits are always enough. The place above
the first digit is tried too, because a power of ten right above the number may read back. -/
def ofUnits (units : Nat) (power : Int) : Decimal :=
  let first := leading (units <<< power.toNat) (1 <<< (-power).toNat)
  let places := (List.range 18).map fun (n : Nat) => first + 1 - n
  (places.findSome? (atPlace? units power)).getD ⟨units, 0⟩

def positional (d : Decimal) : List Char :=
  let digits := Nat.toDigits 10 d.digits
  if 0 ≤ d.power then digits ++ List.replicate d.power.toNat '0' ++ ['.', '0']
  else
    let after := (-d.power).toNat
    let padded := List.replicate (after + 1 - digits.length) '0' ++ digits
    padded.take (padded.length - after) ++ ['.'] ++ padded.drop (padded.length - after)

def text : Binary64 → String
  | .nan => "NaN"
  | .infinite negative => (if negative then "-" else "") ++ "inf"
  | .finite negative units power =>
    let size := if units = 0 then ['0', '.', '0'] else positional (ofUnits units power)
    (if negative then "-" else "") ++ String.ofList size

end RoleWatch.Shortest
