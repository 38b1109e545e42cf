import RoleWatch.Text.Width

/-!
Unsigned integers as settings and options give them: one or more digits, perhaps after a plus
sign, at most the largest 64-bit value.
-/
namespace RoleWatch.Unsigned

def digitsFrom (value : Nat) : List Char → Option Nat
  | [] => some value
  | c :: rest => if c.isDigit then digitsFrom (value * 10 + (c.toNat - '0'.toNat)) rest else none

def digits? : List Char → Option Nat
  | [] => none
  | cs => digitsFrom 0 cs

def parse? (text : String) : Option Nat :=
  let digits := match text.toList with
    | '+' :: rest => rest
    | cs => cs
  (digits? digits).filter (· < Width.count 64)

end RoleWatch.Unsigned
