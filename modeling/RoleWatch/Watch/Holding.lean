import RoleWatch.Watch.Event

/-!
Where the watch stands: what it waits for and which registrations it holds.
-/
namespace RoleWatch

/-- What the watch waits for. -/
inductive Phase where
  | awaiting
  | watching
  deriving DecidableEq

namespace Phase

def display : Phase → String
  | .awaiting => "awaiting-file-creation"
  | .watching => "watching-file"

def describe : Phase → String
  | .awaiting => "AwaitingFileCreation"
  | .watching => "WatchingFile"

end Phase

structure Holding where
  phase : Phase
  dir : Option Handle
  file : Option Handle
  deriving DecidableEq

namespace Holding

def initial : Holding := ⟨.awaiting, none, none⟩

def describe (h : Holding) : String :=
  Record.closed "WatchState" [
    ("mode", h.phase.describe),
    ("dir_watch", Record.optional (h.dir.map Handle.describe)),
    ("file_watch", Record.optional (h.file.map Handle.describe))]

end Holding

end RoleWatch
