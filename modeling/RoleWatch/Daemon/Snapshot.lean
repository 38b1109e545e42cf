import RoleWatch.Daemon.Launch

/-!
A machine of which some files were read beforehand, and on which nothing can be run or watched. It
is enough to show the settings and to say which role the watched file declares.
-/
namespace RoleWatch.Daemon

structure Snapshot where
  seen : List (Path × Except IoError Bytes)
  printed : String
  complained : String

namespace Snapshot

def ofSeen (seen : List (Path × Except IoError Bytes)) : Snapshot := ⟨seen, "", ""⟩

def look (s : Snapshot) (p : Path) : Except IoError Bytes :=
  (s.seen.lookup p).getD (.error (.system .noEntry))

def cannot : IoError := .bare .unsupported

def node : Node Snapshot where
  readFile p := fun s => (s.look p, s)
  openFile p := fun s => ((s.look p).map fun content => [.data content], s)
  isDirectory p := fun s =>
    (match s.look p with
      | .error cause => cause.kind = .isADirectory
      | .ok _ => false, s)
  spawn _ _ := pure (.error cannot)
  listen _ _ := pure (.error (.fatal (.cannotListen cannot.message)))
  now := pure 0
  identify := pure none
  note _ := pure ()
  print text := fun s => ((), { s with printed := s.printed ++ text })
  complain text := fun s => ((), { s with complained := s.complained ++ text })

/-- The paths that the daemon looks at once it has its settings. -/
def watched (s : Snapshot) (o : Options) : List Path :=
  match (settings node o s).1 with
  | .ok c => [c.target.file, c.target.dir]
  | .error _ => []

end Snapshot

end RoleWatch.Daemon
