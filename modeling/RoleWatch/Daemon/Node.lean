import RoleWatch.Duty.Command
import RoleWatch.Settings.Checked
import RoleWatch.Watch.Vigil

/-!
The machine that the daemon runs on, as the single calls it makes on it.
-/
namespace RoleWatch.Daemon

structure Listener (World : Type) where
  addWatch : Path → Mask → StateM World (Except IoError Handle)
  removeWatch : Handle → StateM World (Except IoError Unit)
  wait : Millis → StateM World (Except IoError Arrival)

/-- No source of events: nothing can be registered and every wait runs out. -/
def Listener.absent {World : Type} : Listener World where
  addWatch _ _ := pure (.error (.bare .unsupported))
  removeWatch _ := pure (.error (.bare .unsupported))
  wait _ := pure (.ok .timedOut)

structure Node (World : Type) where
  readFile : Path → StateM World (Except IoError Bytes)
  openFile : Path → StateM World (Except IoError Source)
  isDirectory : Path → StateM World Bool
  spawn : String → List String → StateM World (Except IoError Exit)
  listen : Backend → Millis → StateM World (Except Failure (Listener World))
  now : StateM World Millis
  identify : StateM World (Option Log.Entry)
  note : Log.Entry → StateM World Unit
  print : String → StateM World Unit
  complain : String → StateM World Unit

namespace Node

variable {World : Type}

def host (node : Node World) (listener : Listener World) (command : Command) : Host World where
  openFile := node.openFile
  addWatch := listener.addWatch
  removeWatch := listener.removeWatch
  perform verb service := command.perform node.spawn node.note verb service
  note := node.note

def station (node : Node World) (listener : Listener World) (command : Command) :
    Station World where
  toHost := node.host listener command
  now := node.now
  wait := listener.wait
  beat := do
    if let some news ← node.identify then node.note news

/-- The same machine with a log on the error output, of the entries at least as loud as a level. -/
def logged (node : Node World) (level : Log.Level) : Node World :=
  { node with note := fun entry => do
      if entry.level.number ≤ level.number then node.complain (entry.journal ++ "\n") }

end Node

end RoleWatch.Daemon
