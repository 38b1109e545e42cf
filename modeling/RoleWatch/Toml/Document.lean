import RoleWatch.Toml.Line

/-!
Documents: one table made by the lines of a text, in order.
-/
namespace RoleWatch.Toml

/-- A document in the making: its outermost table, and the path to the table that takes the next
keys. -/
structure Document where
  root : Section
  path : List String

namespace Document

def empty : Document := ⟨(.header, []), []⟩

def add (d : Document) : Line → Except Fault Document
  | .table path => do return ⟨← openTable path d.root, path.1 ++ [path.2]⟩
  | .item path => do return ⟨← openItem path d.root, path.1 ++ [path.2]⟩
  | .pair path value => do
    return { d with root := ← alter .header (assign path value) d.path d.root }

def ofText (text : String) : Except Fault Entries := do
  let lines ← Line.ofTokens (← Token.ofText text)
  return (← lines.foldlM add empty).root.2

end Document

end RoleWatch.Toml
