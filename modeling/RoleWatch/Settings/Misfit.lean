import RoleWatch.Text.Quoted
import RoleWatch.Text.Shortest
import RoleWatch.Text.Width
import RoleWatch.Toml.Fault
import RoleWatch.Toml.Value

/-!
Why a document gives no settings: its text is broken, a key is unknown, or a value is not of its
key's kind. The first misfit in the order of the keys is the one that is reported.
-/
namespace RoleWatch.Settings

inductive Expected where
  | path
  | number
  | size
  | text
  | truth
  | texts
  | part (title : String)
  deriving DecidableEq

def Expected.words : Expected → String
  | .path => "path string"
  | .number => "u64"
  | .size => "usize"
  | .text => "a string"
  | .truth => "a boolean"
  | .texts => "a sequence"
  | .part title => "struct " ++ title

inductive Found where
  | text (content : String)
  | integer (number : Int)
  | real (number : Binary64)
  | truth (value : Bool)
  | list
  | table
  deriving DecidableEq

/-- How a whole number is named, with its width if that is more than 64 bits. -/
def integerWords (number : Int) : String :=
  let width :=
    if Width.fitsSigned 64 number || Width.fitsUnsigned 64 number then ""
    else if Width.fitsSigned 128 number then " as i128"
    else " as u128"
  s!"integer `{number}`" ++ width

def Found.words : Found → String
  | .text content => "string " ++ Quoted.text content
  | .integer number => integerWords number
  | .real number => s!"floating point `{Shortest.text number}`"
  | .truth value => s!"boolean `{value}`"
  | .list => "sequence"
  | .table => "map"

inductive Misfit where
  | broken (fault : Toml.Fault)
  | tooLarge
  | kind (found : Found) (expected : Expected)
  | negative (number : Int) (expected : Expected)
  | unknownKey (key : String) (known : List String)
  | unknownChoice (name : String) (known : List String)
  /-- Something else than one name, or one name with nothing under it, stands for a choice. -/
  | noChoice
  deriving DecidableEq

namespace Misfit

def oneOf : List String → String
  | [one] => s!"`{one}`"
  | [one, other] => s!"`{one}` or `{other}`"
  | many => "one of " ++ String.intercalate ", " (many.map fun name => s!"`{name}`")

/-- The wording of a misfit, if it is one of the settings and not of the document. -/
def words : Misfit → Option String
  | .broken _ | .tooLarge | .noChoice => none
  | .kind found expected => some s!"invalid type: {found.words}, expected {expected.words}"
  | .negative number expected =>
    some s!"invalid value: {integerWords number}, expected {expected.words}"
  | .unknownKey key known => some s!"unknown field `{key}`, expected {oneOf known}"
  | .unknownChoice name known => some s!"unknown variant `{name}`, expected {oneOf known}"

end Misfit

end RoleWatch.Settings
