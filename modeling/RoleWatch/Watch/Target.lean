import RoleWatch.Failure

/-!
The watched file together with the directory it stands in and its name there, split once so that
both watches and the search for the name agree.
-/
namespace RoleWatch

structure Target where
  file : Path
  dir : Path
  name : Bytes
  deriving DecidableEq

namespace Target

/-- Splits a path that ends in an ordinary name with something before it. -/
def ofPath (file : Path) : Except Objection Target :=
  match file.fileName?, file.parent? with
  | none, _ => .error (.namesNoFile file)
  | some name, some dir =>
    if dir.bytes.isEmpty then .error (.hasNoParent file) else .ok ⟨file, dir, name⟩
  | some _, none => .error (.hasNoParent file)

end Target

end RoleWatch
