import RoleWatch.Path
import RoleWatch.Watch.Event

/-!
Registrations: which path is watched for what, under which handle.
-/
namespace RoleWatch

structure Registration where
  handle : Handle
  path : Path
  interest : Mask
  deriving DecidableEq

namespace Registration

/-- What a registration hears of a change: what it asked for, and what comes unasked. -/
def hears (r : Registration) (mask : Mask) : Mask := mask ∩ (r.interest ∪ Mask.unsolicited)

def describe (kind : String) (r : Registration) : String :=
  Record.closed kind [
    ("handle", r.handle.describe),
    ("path", r.path.quoted),
    ("interest", r.interest.describe)]

end Registration

end RoleWatch
