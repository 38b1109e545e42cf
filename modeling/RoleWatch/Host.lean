import RoleWatch.Duty.FirstLine
import RoleWatch.Duty.Marker
import RoleWatch.Log
import RoleWatch.Text.Span
import RoleWatch.Watch.Event

/-!
The surroundings of the watch, as the single calls it makes on them. A world of any type answers
each call and moves on, so it may fail any call, change files between two calls, or act on its own
while a call runs. Nothing else of the surroundings is visible to the watch.
-/
namespace RoleWatch

inductive Verb where
  | enable
  | disable
  deriving DecidableEq

namespace Verb

def name : Verb → String
  | .enable => "enable"
  | .disable => "disable"

def ofRole : Role → Verb
  | .master => .enable
  | .standby => .disable

end Verb

/-- The calls that the watch makes, answered by a world. -/
structure Host (World : Type) where
  openFile : Path → StateM World (Except IoError Source)
  addWatch : Path → Mask → StateM World (Except IoError Handle)
  removeWatch : Handle → StateM World (Except IoError Unit)
  perform : Verb → String → StateM World (Except Failure Unit)
  note : Log.Entry → StateM World Unit

/-- What came of a bounded wait for events. -/
inductive Arrival where
  | events (batch : List Event)
  | timedOut
  /-- The wait ended early and without events. -/
  | interrupted
  deriving DecidableEq

/-- The calls of the timed loop beside those of the watch. -/
structure Station (World : Type) extends Host World where
  now : StateM World Millis
  wait : Millis → StateM World (Except IoError Arrival)
  beat : StateM World Unit

end RoleWatch
