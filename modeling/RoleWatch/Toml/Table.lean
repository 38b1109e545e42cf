import RoleWatch.Toml.Fault
import RoleWatch.Toml.Value

/-!
How the lines of a document add to its tables. Every line follows a path of keys downward and
makes the tables that are missing; what it may pass through, and what it may set at the end,
depends on how each table came to be.
-/
namespace RoleWatch.Toml

inductive Purpose where
  | header
  | key
  deriving DecidableEq

namespace Purpose

def made : Purpose → Origin
  | .header => .implied
  | .key => .dotted

/-- Whether a table can be passed through. A dotted key does not reach into a table with a header
of its own. -/
def passes : Purpose → Origin → Bool
  | .header, origin => origin ≠ .braces
  | .key, origin => origin = .implied || origin = .dotted

end Purpose

abbrev Section := Origin × Entries

/-- Changes the table at the end of a path, or the last table of several under one header. -/
def alter (purpose : Purpose) (change : Section → Except Fault Section) :
    List String → Section → Except Fault Section
  | [], here => change here
  | key :: rest, (origin, entries) => do
    let put (value : Value) : Section := (origin, entries.put key value)
    match entries.lookup key with
    | none =>
      let (made, inner) ← alter purpose change rest (purpose.made, [])
      return put (.table made inner)
    | some (.table held inner) =>
      if purpose.passes held then
        let (held, inner) ← alter purpose change rest (held, inner)
        return put (.table held inner)
      else throw .taken
    | some (.tables items) =>
      match items.getLast? with
      | some (.table held inner) =>
        let (held, inner) ← alter purpose change rest (held, inner)
        return put (.tables (items.dropLast ++ [.table held inner]))
      | _ => throw .taken
    | some _ => throw .taken

abbrev KeyPath := List String × String

/-- Sets a key that has no value yet. The table of a dotted key is one that dotted keys made. -/
def assign (path : KeyPath) (value : Value) (here : Section) : Except Fault Section :=
  let set : Section → Except Fault Section := fun (origin, entries) =>
    if (entries.lookup path.2).isSome then .error .taken
    else if path.1 ≠ [] ∧ origin ≠ .dotted then .error .taken
    else .ok (origin, entries.put path.2 value)
  alter .key set path.1 here

/-- Opens a table with a header of its own, which only the headers of tables inside it may have
made before. -/
def openTable (path : KeyPath) (root : Section) : Except Fault Section :=
  let set : Section → Except Fault Section := fun (origin, entries) =>
    match entries.lookup path.2 with
    | none => .ok (origin, entries.put path.2 (.table .header []))
    | some (.table .implied inner) => .ok (origin, entries.put path.2 (.table .header inner))
    | some _ => .error .taken
  alter .header set path.1 root

def openItem (path : KeyPath) (root : Section) : Except Fault Section :=
  let set : Section → Except Fault Section := fun (origin, entries) =>
    match entries.lookup path.2 with
    | none => .ok (origin, entries.put path.2 (.tables [.table .header []]))
    | some (.tables items) =>
      .ok (origin, entries.put path.2 (.tables (items ++ [.table .header []])))
    | some _ => .error .taken
  alter .header set path.1 root

end RoleWatch.Toml
