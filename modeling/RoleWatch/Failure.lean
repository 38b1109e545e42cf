import RoleWatch.IoError
import RoleWatch.Path
import RoleWatch.Settings.Misfit

/-!
What can go wrong, by cause. `Failure.message` is the only place that words a cause, and
`Failure.weight` says what the watch does about it: carry on in another mode, or stop.
-/
namespace RoleWatch

/-- Why settings are refused. -/
inductive Objection where
  | relativePath (path : Path)
  | namesNoFile (path : Path)
  | hasNoParent (path : Path)
  | zeroInterval
  | lineLimit (limit markerSize : Nat)
  | badMarker (marker : String)
  | blankService
  | blankProgram
  | zeroPollInterval
  | other (words : String)
  deriving DecidableEq

def Objection.message : Objection → String
  | .relativePath path => s!"[watch].path must be absolute (got {path.quoted})"
  | .namesNoFile path => s!"{path.display} does not name a file"
  | .hasNoParent path => s!"{path.display} has no parent directory"
  | .zeroInterval => "[watch].interval_ms must be >= 1 (got 0)"
  | .lineLimit limit size =>
    s!"[watch].line_limit must be larger than the marker ({limit} <= {size})"
  | .badMarker marker =>
    "role marker must be a non-empty token without whitespace (got " ++ Quoted.text marker ++ ")"
  | .blankService => "[service].name must not be empty"
  | .blankProgram => "[service].program must not be empty"
  | .zeroPollInterval => "[backend].poll_interval_ms must be >= 1 (got 0)"
  | .other words => words

inductive Fatality where
  | directoryRemoved (dir : Path)
  | cannotWatch (dir : Path) (cause : IoError)
  | cannotWait (cause : IoError)
  | cannotListen (cause : String)
  | other (words : String)
  deriving DecidableEq

def Fatality.message : Fatality → String
  | .directoryRemoved dir => s!"watched directory {dir.display} has been removed"
  | .cannotWatch dir cause => s!"unable to watch {dir.display}: {cause.message}"
  | .cannotWait cause => s!"waiting for notifications failed: {cause.message}"
  | .cannotListen cause => s!"unable to create notify watcher: {cause}"
  | .other words => words

inductive Failure where
  | refused (objection : Objection)
  | missing (path : Path)
  | unreadable (path : Path) (cause : IoError)
  | unwatchable (path : Path) (cause : IoError)
  | fatal (reason : Fatality)
  | call (cause : IoError)
  | document (misfit : Settings.Misfit)
  | other (words : String) (causes : List IoError)
  deriving DecidableEq

namespace Failure

/-- What a failure means to the watch. -/
inductive Weight where
  | notFound
  /-- The file could not be read though it was believed to be there. -/
  | io
  /-- The watch was refused for another reason than a missing path. -/
  | recoverable
  | fatal
  deriving DecidableEq

def weight : Failure → Weight
  | .missing _ => .notFound
  | .unreadable _ _ => .io
  | .unwatchable _ _ => .recoverable
  | .refused _ | .fatal _ | .call _ | .document _ | .other _ _ => .fatal

def isFatal (f : Failure) : Bool := f.weight = .fatal

def message : Failure → String
  | .refused objection => "Configuration error: " ++ objection.message
  | .missing path => path.display ++ " does not exist"
  | .unreadable path cause => s!"cannot read {path.display}: {cause.message}"
  | .unwatchable path cause => s!"cannot watch {path.display}: {cause.message}"
  | .fatal reason => "Fatal: " ++ reason.message
  | .call cause => "IO error: " ++ cause.message
  | .document misfit => "TOML parsing error: " ++ misfit.words.getD ""
  | .other words _ => words

/-- The failures that led to this one, the nearest first. -/
def causes : Failure → List String
  | .unreadable _ cause | .unwatchable _ cause | .call cause => [cause.message]
  | .document misfit => misfit.words.toList
  | .other _ causes => causes.map IoError.message
  | .refused _ | .missing _ | .fatal _ => []

def ofRead (path : Path) (cause : IoError) : Failure :=
  if cause.kind = .notFound then .missing path else .unreadable path cause

def ofWatch (path : Path) (cause : IoError) : Failure :=
  if cause.kind = .notFound then .missing path else .unwatchable path cause

theorem not_fatal_ofRead (path : Path) (cause : IoError) :
    (ofRead path cause).isFatal = false := by
  unfold ofRead
  split <;> rfl

end Failure

end RoleWatch
