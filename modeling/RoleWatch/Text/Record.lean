/-!
The one-line descriptions of values: records with named fields, lists, and values that may be
absent.
-/
namespace RoleWatch.Record

def commas (items : List String) : String := String.intercalate ", " items

def items (shown : List (String × String)) : String :=
  commas (shown.map fun (key, value) => key ++ ": " ++ value)

def closed (name : String) (shown : List (String × String)) : String :=
  name ++ " \x7b " ++ items shown ++ " \x7d"

def partly (name : String) (shown : List (String × String)) : String :=
  name ++ " \x7b " ++ items shown ++ ", .. \x7d"

def list (items : List String) : String := "[" ++ commas items ++ "]"

def tagged (name value : String) : String := name ++ "(" ++ value ++ ")"

def optional : Option String → String
  | none => "None"
  | some value => tagged "Some" value

end RoleWatch.Record
