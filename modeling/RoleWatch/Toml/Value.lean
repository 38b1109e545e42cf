import RoleWatch.Text.Binary64

/-!
The values of a document. A table remembers how it came to be, because that decides what later
lines may still add to it; its entries stand in the order of their keys.
-/
namespace RoleWatch.Toml

inductive Origin where
  | header
  /-- By the header of a table inside it. -/
  | implied
  | dotted
  | braces
  deriving DecidableEq

inductive Value where
  | text (content : String)
  | integer (number : Int)
  | real (number : Binary64)
  /-- A number with an exponent that is too large to be told from infinity. -/
  | excess
  | boolean (truth : Bool)
  | moment
  | list (items : List Value)
  | tables (items : List Value)
  | table (origin : Origin) (entries : List (String × Value))

/-- The entries of a table, in the order of their keys. -/
abbrev Entries := List (String × Value)

namespace Entries

def put (key : String) (value : Value) : Entries → Entries
  | [] => [(key, value)]
  | (other, held) :: rest =>
    if key = other then (key, value) :: rest
    else if key < other then (key, value) :: (other, held) :: rest
    else (other, held) :: put key value rest

theorem lookup_put (key other : String) (value : Value) (entries : Entries) :
    (put key value entries).lookup other =
      if other = key then some value else entries.lookup other := by
  induction entries with
  | nil => by_cases h : other = key <;> grind [put]
  | cons entry rest ih => by_cases h : other = key <;> grind [put]

end Entries

end RoleWatch.Toml
