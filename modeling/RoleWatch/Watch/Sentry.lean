import RoleWatch.Duty.Assignment
import RoleWatch.Watch.Judgement
import RoleWatch.Watch.Target

/-!
The watch on one file. It passes from awaiting the file to watching it when the file could be read
and watched: the file's registration comes first, then the directory's goes. It passes back when the
file is gone or cannot be read: the file's registration goes, the directory's comes, and the file
is looked at once more, in case it came back before the directory was watched.
-/
namespace RoleWatch

/-- The watched file and where the watch on it stands. -/
structure Sentry where
  target : Target
  held : Holding
  deriving DecidableEq

namespace Sentry

variable {World : Type}

abbrev Ending := Except Failure Unit × Sentry

def ofTarget (target : Target) : Sentry := ⟨target, .initial⟩

def withFile (s : Sentry) (file : Option Handle) : Sentry :=
  { s with held := { s.held with file := file } }

def withDir (s : Sentry) (dir : Option Handle) : Sentry :=
  { s with held := { s.held with dir := dir } }

def inPhase (s : Sentry) (phase : Phase) : Sentry :=
  { s with held := { s.held with phase := phase } }

def pathField (s : Sentry) : String × Log.Value := ("path", .shown s.target.file.quoted)

def dirField (s : Sentry) : String × Log.Value := ("dir", .shown s.target.dir.quoted)

def phaseField (s : Sentry) : String × Log.Value := ("mode", .shown s.held.phase.display)

def handleField (h : Handle) : String × Log.Value := ("handle", .shown h.display)

def errorField (words : String) : String × Log.Value := ("error", .shown words)

def maskField (mask : Mask) : String × Log.Value := ("mask", .shown mask.describe)

/-- Ends a registration. The system may have ended it before, so a refusal is no failure. -/
def dropWatch (host : Host World) (handle : Handle) : StateM World Unit := do
  match ← host.removeWatch handle with
  | .ok () => host.note ⟨.debug, "watch removed", [handleField handle]⟩
  | .error cause =>
    host.note ⟨.debug, "watch already gone", [handleField handle, errorField cause.message]⟩

def dropHeld (host : Host World) : Option Handle → StateM World Unit
  | none => pure ()
  | some handle => dropWatch host handle

def watchFile (host : Host World) (s : Sentry) : StateM World (Except Failure Handle) := do
  match ← host.addWatch s.target.file .fileInterest with
  | .ok handle => return .ok handle
  | .error cause => return .error (Failure.ofWatch s.target.file cause)

def watchDir (host : Host World) (s : Sentry) : StateM World Ending := do
  match s.held.dir with
  | some _ => return (.ok (), s)
  | none =>
    match ← host.addWatch s.target.dir .directoryInterest with
    | .ok handle => return (.ok (), s.withDir (some handle))
    | .error cause =>
      host.note ⟨.error, "unable to register directory watch",
        [s.dirField, errorField cause.message]⟩
      return (.error (.fatal (.cannotWatch s.target.dir cause)), s)

/-- Watches the file in place of the directory if it can be read and watched now. -/
def promote (host : Host World) (job : Assignment) (s : Sentry) : StateM World Ending := do
  match ← job.enforce host with
  | .error failure =>
    if failure.isFatal then return (.error failure, s)
    host.note ⟨.debug, "file still unavailable", [errorField failure.message]⟩
    return (.ok (), s)
  | .ok _ =>
    match ← s.watchFile host with
    | .error failure =>
      if failure.weight = .notFound then
        host.note ⟨.debug, "file vanished before it could be watched",
          [errorField failure.message]⟩
      else
        host.note ⟨.error, "unable to register file watch", [errorField failure.message]⟩
      return (.ok (), s)
    | .ok handle =>
      dropHeld host s.held.dir
      let s := ((s.withFile (some handle)).withDir none).inPhase .watching
      host.note ⟨.info, "file recreated; watching file",
        [s.phaseField, handleField handle, s.pathField]⟩
      return (.ok (), s)

/-- Watches the directory in place of the file, then looks at the file once more. -/
def awaitFile (host : Host World) (job : Assignment) (s : Sentry) : StateM World Ending := do
  dropHeld host s.held.file
  match ← (s.withFile none).watchDir host with
  | (.error failure, s) => return (.error failure, s)
  | (.ok (), s) =>
    let s := s.inPhase .awaiting
    host.note ⟨.info, "waiting for file creation", [s.phaseField, s.dirField]⟩
    s.promote host job

def refresh (host : Host World) (job : Assignment) (s : Sentry) : StateM World Ending := do
  match ← job.enforce host with
  | .ok _ => return (.ok (), s)
  | .error failure =>
    if failure.isFatal then return (.error failure, s)
    host.note ⟨.error, "failed to read role", [s.pathField, errorField failure.message]⟩
    s.awaitFile host job

/-- Begins the watch: brings the service in line once and picks the first phase. -/
def start (host : Host World) (job : Assignment) (s : Sentry) : StateM World Ending := do
  host.note ⟨.info, "starting watch", [s.pathField]⟩
  match ← job.enforce host with
  | .error failure =>
    if failure.isFatal then return (.error failure, s)
    host.note ⟨.error, "failed to read role", [s.pathField, errorField failure.message]⟩
    s.awaitFile host job
  | .ok _ =>
    match ← s.watchFile host with
    | .ok handle =>
      let s := (s.withFile (some handle)).inPhase .watching
      host.note ⟨.info, "watching file", [s.phaseField, handleField handle]⟩
      return (.ok (), s)
    | .error failure =>
      host.note ⟨.error, "cannot watch file after reading it", [errorField failure.message]⟩
      s.awaitFile host job

def act (host : Host World) (job : Assignment) (s : Sentry) (j : Judgement) :
    StateM World Ending := do
  match j.verdict with
  | .idle => return (.ok (), s)
  | .directoryGone =>
    host.note ⟨.error, "watched directory has been removed", [s.dirField, maskField j.mask]⟩
    return (.error (.fatal (.directoryRemoved s.target.dir)), s)
  | .appeared =>
    host.note ⟨.info, "watched file may have been recreated", [s.pathField, maskField j.mask]⟩
    s.promote host job
  | .fileGone =>
    host.note ⟨.error, "watched file has been removed", [s.pathField, maskField j.mask]⟩
    s.awaitFile host job
  | .changed =>
    host.note ⟨.info, "updating services", [maskField j.mask]⟩
    s.refresh host job

def attend (host : Host World) (job : Assignment) (s : Sentry) (batch : List Event) :
    StateM World Ending := do
  let j := Judgement.ofBatch s.held s.target.name batch
  host.note ⟨.debug, "classified event batch",
    [s.phaseField, ("events", .shown (toString batch.length)), maskField j.mask,
     ("verdict", .shown j.verdict.describe)]⟩
  if j.overflowed then
    host.note ⟨.warn, "Event queue overflow.", []⟩
  s.act host job j

def recheck (host : Host World) (job : Assignment) (s : Sentry) : StateM World Ending := do
  host.note ⟨.debug, "periodic reconciliation", [s.phaseField]⟩
  match s.held.phase with
  | .watching => s.refresh host job
  | .awaiting => s.promote host job

def release (host : Host World) (s : Sentry) : StateM World Sentry := do
  dropHeld host s.held.file
  dropHeld host s.held.dir
  host.note ⟨.debug, "all watches released", []⟩
  return (s.withFile none).withDir none

def describe (s : Sentry) : String :=
  Record.closed "WatchManager" [
    ("target", Record.closed "WatchTarget" [
      ("file", s.target.file.quoted),
      ("dir", s.target.dir.quoted),
      ("file_name", Quoted.bytes s.target.name)]),
    ("state", s.held.describe)]

end Sentry

end RoleWatch
