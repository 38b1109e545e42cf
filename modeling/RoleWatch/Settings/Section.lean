import RoleWatch.Settings.Basic
import RoleWatch.Settings.Misfit

/-!
Reading settings from the values of a document. A section is a list of keys, each with the rule
that puts its value into the settings; keys that are not given keep the standing value. A list in
place of a section gives the values in the order of the keys.
-/
namespace RoleWatch.Settings

def Found.ofValue : Toml.Value → Except Misfit Found
  | .text content => .ok (.text content)
  | .integer number =>
    if Width.fitsSigned 128 number || Width.fitsUnsigned 128 number then .ok (.integer number)
    else .error .tooLarge
  | .real number => .ok (.real number)
  | .excess => .error .tooLarge
  | .boolean value => .ok (.truth value)
  | .list _ | .tables _ => .ok .list
  | .moment | .table _ _ => .ok .table

def mismatch {α : Type} (value : Toml.Value) (expected : Expected) : Except Misfit α := do
  throw (.kind (← Found.ofValue value) expected)

def textOf (expected : Expected) : Toml.Value → Except Misfit String
  | .text content => .ok content
  | value => mismatch value expected

def numberOf (expected : Expected) : Toml.Value → Except Misfit Nat
  | .integer number =>
    if Width.fitsUnsigned 64 number then .ok number.toNat
    else if Width.fitsSigned 64 number then .error (.negative number expected)
    else mismatch (.integer number) expected
  | value => mismatch value expected

def truthOf : Toml.Value → Except Misfit Bool
  | .boolean value => .ok value
  | value => mismatch value .truth

def textsOf : Toml.Value → Except Misfit (List String)
  | .list items | .tables items => items.mapM (textOf .text)
  | value => mismatch value .texts

def choose (name : String) : Except Misfit Backend :=
  match Backend.ofName? name with
  | some b => .ok b
  | none => .error (.unknownChoice name (Backend.all.map Backend.name))

def isVoid : Toml.Value → Bool
  | .list items | .tables items => items.isEmpty
  | .table _ entries => entries.isEmpty
  | _ => false

/-- A choice: its name, or a table with nothing but an empty value under its name. -/
def choiceOf : Toml.Value → Except Misfit Backend
  | .text name => choose name
  | .table _ [(name, value)] => do
    let b ← choose name
    if isVoid value then return b else throw .noChoice
  | _ => .error .noChoice

/-- A key of a section: its name, and how its value changes what the section says. -/
structure Key (α : Type) where
  name : String
  set : α → Toml.Value → Except Misfit α

def Key.of {α β : Type} (name : String) (read : Toml.Value → Except Misfit β)
    (put : α → β → α) : Key α :=
  ⟨name, fun standing value => do return put standing (← read value)⟩

def setEntry {α : Type} (keys : List (Key α)) (standing : α) (entry : String × Toml.Value) :
    Except Misfit α :=
  match keys.find? fun key => key.name = entry.1 with
  | some key => key.set standing entry.2
  | none => .error (.unknownKey entry.1 (keys.map Key.name))

def momentKey : String := "$__toml_private_datetime"

/-- Reads a section over what it is if it says nothing. -/
def readSection {α : Type} (title : String) (keys : List (Key α)) (standing : α) :
    Toml.Value → Except Misfit α
  | .table _ entries => entries.foldlM (setEntry keys) standing
  | .list items | .tables items =>
    (keys.zip items).foldlM (fun standing (key, value) => key.set standing value) standing
  | .moment => .error (.unknownKey momentKey (keys.map Key.name))
  | value => mismatch value (.part title)

def Watch.keys : List (Key Watch) := [
  .of "path" (textOf .path) fun w text => { w with path := .ofText text },
  .of "interval_ms" (numberOf .number) fun w n => { w with interval := n },
  .of "marker" (textOf .text) fun w text => { w with marker := text },
  .of "line_limit" (numberOf .size) fun w n => { w with lineLimit := n },
  .of "periodic_reconcile" truthOf fun w b => { w with rechecks := b }]

def Service.keys : List (Key Service) := [
  .of "name" (textOf .text) fun s text => { s with name := text },
  .of "program" (textOf .text) fun s text => { s with program := text },
  .of "args" textsOf fun s texts => { s with arguments := texts }]

def Listening.keys : List (Key Listening) := [
  .of "kind" choiceOf fun l b => { l with backend := b },
  .of "poll_interval_ms" (numberOf .number) fun l n => { l with pollInterval := n }]

def sections : List (Key Settings) := [
  .of "watch" (readSection "WatchSection" Watch.keys .unsaid)
    fun s watch => { s with watch },
  .of "service" (readSection "ServiceSection" Service.keys .unsaid)
    fun s service => { s with service },
  .of "backend" (readSection "BackendSection" Listening.keys .unsaid)
    fun s listening => { s with listening }]

def ofEntries (entries : Toml.Entries) : Except Misfit Settings :=
  entries.foldlM (setEntry sections) .standard

end RoleWatch.Settings
