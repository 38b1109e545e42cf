import RoleWatch.Daemon.Snapshot

/-!
The command line. It reads the files that the daemon will look at, lets the daemon run on what was
read, and writes what it has to say.
-/

open RoleWatch Daemon

namespace RoleWatch.Daemon.Snapshot

def codeOf : IO.Error → Nat
  | .noFileOrDirectory _ code _ | .permissionDenied _ code _ | .inappropriateType _ code _
  | .invalidArgument _ code _ | .otherError code _ => code.toNat
  | _ => 0

def reasons : List OsError :=
  [.notPermitted, .noEntry, .accessDenied, .notDirectory, .isDirectory, .invalidArgument,
   .nameTooLong, .tooManyLinks]

def failedCall (e : IO.Error) : IoError :=
  match reasons.find? fun reason => reason.number = codeOf e with
  | some reason => .system reason
  | none => .worded .other (toString e)

def see (paths : List Path) : IO (List (Path × Except IoError Bytes)) :=
  paths.mapM fun p => do
    try
      let content ← IO.FS.readBinFile p.display
      return (p, .ok content.toList)
    catch e => return (p, .error (failedCall e))

/-- Reads what the daemon will look at. -/
def gather (arguments : List Bytes) : IO Snapshot := do
  match Options.parse arguments with
  | .error _ => return .ofSeen []
  | .ok o =>
    let config ← see o.config.toList
    return .ofSeen (config ++ (← see ((ofSeen config).watched o)))

end RoleWatch.Daemon.Snapshot

def main (arguments : List String) : IO UInt32 := do
  let arguments := arguments.map Bytes.ofText
  let environment := (← IO.getEnv "MONITORD_LOG").map Bytes.ofText
  let (code, after) := launch Snapshot.node 0 environment arguments (← Snapshot.gather arguments)
  IO.print after.printed
  IO.eprint after.complained
  return (code.getD failed).toUInt32
