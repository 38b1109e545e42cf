import RoleWatch.Daemon.Snapshot
import RoleWatch.Proofs.After
import RoleWatch.Proofs.Duty.Bounded
import RoleWatch.Proofs.Duty.Declaration
import RoleWatch.Proofs.Watch.Likeness

/-!
What a run that does not watch does to the outside. Shown the settings, it starts nothing; enforcing
the role once, it starts the service command once, or not at all if there is no role to enforce.
-/
namespace RoleWatch

/-- Why the watched file cannot be read: it is missing, or it is there all the same. -/
def Settings.unread (s : Settings) (cause : IoError) : Failure :=
  if cause.kind = .notFound then .missing s.watch.path else .unreadable s.watch.path cause

namespace Daemon

variable {World α : Type}

/-- Something done to the outside, apart from the log. -/
inductive Effect where
  | printed (text : String)
  | complained (text : String)
  | started (program : String) (arguments : List String) (answer : Except IoError Exit)
  | listened (backend : Backend)

def Listener.quiet (listener : Listener World) : Listener (World × List Effect) where
  addWatch path interest := beside (listener.addWatch path interest)
  removeWatch handle := beside (listener.removeWatch handle)
  wait span := beside (listener.wait span)

variable {node : Node World} {o : Options} {w : World} {done : List Effect}

/-- How enforcing the role once comes out, by what came of opening the watched file. -/
structure Enforced (s : Settings) (opened : Except IoError Source)
    (result : Option (Except Failure Unit)) (effects : List Effect) : Prop where
  unopened (cause : IoError) (refused : opened = .error cause) :
    result = some (.error (s.unread cause)) ∧ effects = []
  unread (source : Source) (cause : IoError) (open_ : opened = .ok source)
    (broken : FirstLine.Within s.watch.lineLimit source.content source.failure? (.error cause)) :
    result = some (.error (s.unread cause)) ∧ effects = []
  blank (source : Source) (open_ : opened = .ok source) (empty : source.content = [])
    (whole : source.failure? = none) :
    result = some (.error (.unreadable s.watch.path FirstLine.nothing)) ∧ effects = []
  read (source : Source) (line : Bytes) (open_ : opened = .ok source)
    (read : FirstLine.Within s.watch.lineLimit source.content source.failure? (.ok line)) :
    result = some (.ok ()) ∧ ∃ came : Except IoError Exit,
      effects = [.started s.service.program
        ([if Declares (Bytes.ofText s.watch.marker) source.content then "enable" else "disable"] ++
          s.service.arguments ++ [s.service.name]) came]

end Daemon

open Daemon

end RoleWatch
