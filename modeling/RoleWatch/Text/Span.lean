/-!
Lengths of time, counted in milliseconds, and their one-line text: seconds with as many places
as they need, milliseconds below one second.
-/
namespace RoleWatch

/-- A length of time, or a moment since some fixed beginning, in milliseconds. -/
abbrev Millis := Nat

namespace Millis

def fraction (ms : Nat) : List Char :=
  let digits := [ms / 100 % 10, ms / 10 % 10, ms % 10].map Nat.digitChar
  (digits.reverse.dropWhile (· = '0')).reverse

def describe (span : Millis) : String :=
  if span = 0 then "0ns"
  else if span < 1000 then s!"{span}ms"
  else match fraction (span % 1000) with
    | [] => s!"{span / 1000}s"
    | places => s!"{span / 1000}." ++ String.ofList places ++ "s"

end Millis

end RoleWatch
