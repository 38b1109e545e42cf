import RoleWatch.Toml.Token
import RoleWatch.Toml.Value

/-!
Values that are written without quotes or brackets: truth values, whole numbers in four bases,
numbers with a fraction or an exponent, dates and times.
-/
namespace RoleWatch.Toml.Scalar

/-- The digits of a number, without the underscores that may stand singly between them. -/
def ungroup? (base : Nat) : List Char → Option (List Nat)
  | [] => none
  | [c] => (Token.digitValue? base c).map fun digit => [digit]
  | c :: '_' :: rest => do return (← Token.digitValue? base c) :: (← ungroup? base rest)
  | c :: rest => do return (← Token.digitValue? base c) :: (← ungroup? base rest)

def numberOf (base : Nat) (digits : List Nat) : Nat :=
  digits.foldl (fun value digit => value * base + digit) 0

/-- The digits of a decimal number; only zero itself begins with one. -/
def decimal? (cs : List Char) : Option (List Nat) :=
  if cs.head? = some '0' ∧ 1 < cs.length then none else ungroup? 10 cs

def signed : List Char → Bool × List Char
  | '-' :: rest => (true, rest)
  | '+' :: rest => (false, rest)
  | cs => (false, cs)

/-- A whole number. Only decimal ones have a sign. -/
def integer? : List Char → Option Int
  | '0' :: 'x' :: rest => (ungroup? 16 rest).map fun digits => numberOf 16 digits
  | '0' :: 'o' :: rest => (ungroup? 8 rest).map fun digits => numberOf 8 digits
  | '0' :: 'b' :: rest => (ungroup? 2 rest).map fun digits => numberOf 2 digits
  | cs => do
    let (negative, size) := signed cs
    let size := numberOf 10 (← decimal? size)
    return if negative then -size else size

def cutAt (isCut : Char → Bool) (cs : List Char) : List Char × Option (List Char) :=
  match cs.span (!isCut ·) with
  | (before, []) => (before, none)
  | (before, _ :: after) => (before, some after)

def real? (cs : List Char) : Option Binary64 := do
  let (negative, size) := signed cs
  if size = "inf".toList then return .infinite negative
  if size = "nan".toList then return .nan
  let (size, exponent) := cutAt (fun c => c = 'e' || c = 'E') size
  let (whole, fraction) := cutAt (· = '.') size
  guard (exponent.isSome || fraction.isSome)
  let whole ← decimal? whole
  let places ← match fraction with
    | none => some []
    | some places => ungroup? 10 places
  let (down, power) ← match exponent with
    | none => some (false, [])
    | some power =>
      let (down, size) := signed power
      (ungroup? 10 size).map fun digits => (down, digits)
  let power : Int := numberOf 10 power
  return .ofDecimal negative (numberOf 10 (whole ++ places))
    ((if down then -power else power) - places.length)

def fixed? (width : Nat) (cs : List Char) : Option (Nat × List Char) :=
  let digits := cs.take width
  if digits.length = width ∧ digits.all Char.isDigit then
    some (digits.foldl (fun value c => value * 10 + (c.toNat - '0'.toNat)) 0, cs.drop width)
  else none

def expect? (c : Char) : List Char → Option (List Char)
  | d :: rest => if d = c then some rest else none
  | [] => none

def daysOf (year month : Nat) : Nat :=
  if month = 2 then
    if year % 4 = 0 ∧ (year % 100 ≠ 0 ∨ year % 400 = 0) then 29 else 28
  else if month ∈ [4, 6, 9, 11] then 30
  else 31

def afterDate? (cs : List Char) : Option (List Char) := do
  let (year, cs) ← fixed? 4 cs
  let (month, cs) ← fixed? 2 (← expect? '-' cs)
  let (day, cs) ← fixed? 2 (← expect? '-' cs)
  guard (1 ≤ month ∧ month ≤ 12 ∧ 1 ≤ day ∧ day ≤ daysOf year month)
  return cs

def afterClock? (cs : List Char) : Option (List Char) := do
  let (hour, cs) ← fixed? 2 cs
  let (minute, cs) ← fixed? 2 (← expect? ':' cs)
  guard (hour ≤ 23 ∧ minute ≤ 59)
  return cs

/-- What follows a time of day; the seconds, and their fraction, may be missing. -/
def afterTime? (cs : List Char) : Option (List Char) := do
  match ← afterClock? cs with
  | ':' :: cs =>
    let (second, cs) ← fixed? 2 cs
    guard (second ≤ 60)
    match cs with
    | '.' :: cs =>
      guard ((cs.head?.map Char.isDigit).getD false)
      return cs.dropWhile Char.isDigit
    | cs => return cs
  | cs => return cs

def isOffset : List Char → Bool
  | [c] => c = 'Z' || c = 'z'
  | c :: rest => (c = '+' || c = '-') && afterClock? rest == some []
  | [] => false

def isDate (cs : List Char) : Bool := afterDate? cs == some []

/-- Whether a stretch is a date, a time of day, or both, then perhaps with an offset. -/
def isMoment (cs : List Char) : Bool :=
  match afterDate? cs with
  | none => afterTime? cs == some []
  | some [] => true
  | some (c :: rest) =>
    (c = 'T' || c = 't' || c = ' ') &&
      match afterTime? rest with
      | none => false
      | some offset => offset.isEmpty || isOffset offset

def ofChars (cs : List Char) : Except Fault Value :=
  if cs = "true".toList then .ok (.boolean true)
  else if cs = "false".toList then .ok (.boolean false)
  else if isMoment cs then .ok .moment
  else match integer? cs, real? cs with
    | some number, _ => .ok (.integer number)
    | none, none => .error .value
    | none, some (.infinite negative) =>
      if (signed cs).2 = "inf".toList then .ok (.real (.infinite negative)) else .ok .excess
    | none, some number => .ok (.real number)

end RoleWatch.Toml.Scalar
