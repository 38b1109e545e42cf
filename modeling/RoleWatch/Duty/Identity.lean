import RoleWatch.Log

/-!
The name under which this node is known. It is looked up at every beat, and a change of it is
logged.
-/
namespace RoleWatch

structure Identity where
  name : Option String
  deriving DecidableEq

namespace Identity

def unknown : Identity := ⟨none⟩

/-- The identity after the name was looked up, and the entry to log if there is news. -/
def update (known : Identity) : Except String String → Identity × Option Log.Entry
  | .ok name =>
    if known.name = some name then (known, none)
    else (⟨some name⟩, some ⟨.debug, "node identity", [("hostname", .shown name)]⟩)
  | .error words => (known, some ⟨.error, s!"Failed to get hostname: `{words}`.", []⟩)

end Identity

end RoleWatch
