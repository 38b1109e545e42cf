/-!
Numbers with 53 significant bits, read exactly. A decimal is taken to the nearest such number, a
half to the even neighbour, in whole-number arithmetic.
-/
namespace RoleWatch

/-- A number of 53 significant bits, or what stands in for one. -/
inductive Binary64 where
  | nan
  | infinite (negative : Bool)
  /-- A whole number of units, each a power of two. -/
  | finite (negative : Bool) (units : Nat) (power : Int)
  deriving DecidableEq

namespace Binary64

def leastPower : Int := -1074

def greatestPower : Int := 971

/-- A quotient as a whole number, a half to the even neighbour. -/
def round (num den : Nat) : Nat :=
  let whole := num / den
  let twice := 2 * (num % den)
  if den < twice ∨ (twice = den ∧ whole % 2 = 1) then whole + 1 else whole

def unitLimit : Nat := 1 <<< 53

def tens (power : Int) : Nat := Nat.pow 10 power.toNat

def measured (num den : Nat) (power : Int) : Nat × Nat :=
  (num <<< (-power).toNat, den <<< power.toNat)

def ofQuotient (negative : Bool) (num den : Nat) : Binary64 :=
  let low : Int := (num.log2 : Int) - den.log2 - 53
  let (n, d) := measured num den low
  let power := max (if n / d < unitLimit then low else low + 1) leastPower
  let (n, d) := measured num den power
  let units := round n d
  let (units, power) := if units = unitLimit then (units / 2, power + 1) else (units, power)
  if num = 0 then .finite negative 0 leastPower
  else if greatestPower < power then .infinite negative
  else .finite negative units power

def width (n : Nat) : Nat := (Nat.toDigits 10 n).length

/-- The nearest number to a whole number times a power of ten. A power far outside the range is
not worked out. -/
def ofDecimal (negative : Bool) (digits : Nat) (power : Int) : Binary64 :=
  if digits = 0 then .finite negative 0 leastPower
  else if 400 < power + width digits then .infinite negative
  else if power + width digits < -400 then .finite negative 0 leastPower
  else ofQuotient negative (digits * tens power) (tens (-power))

end Binary64

end RoleWatch
