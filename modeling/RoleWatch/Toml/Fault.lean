/-!
Why a text is no document.
-/
namespace RoleWatch.Toml

inductive Fault where
  | openText
  | escape
  | control
  | key
  | value
  /-- A token stands where its neighbours do not allow it. -/
  | place
  | depth
  /-- A key or table is given again, or extended where it is closed. -/
  | taken
  deriving DecidableEq

end RoleWatch.Toml
