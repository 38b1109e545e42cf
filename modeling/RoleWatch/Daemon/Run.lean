import RoleWatch.Daemon.Node
import RoleWatch.Daemon.Summary
import RoleWatch.Options

/-!
What the daemon does with its command line: it merges the settings and refuses them, shows them,
enforces the role once, or watches until something fails.
-/
namespace RoleWatch.Daemon

variable {World : Type}

/-- The settings before the command line is looked at. -/
def load (node : Node World) (o : Options) : StateM World (Except Failure Settings) :=
  match o.config with
  | none => pure (.ok .standard)
  | some file => Settings.ofFile <$> node.readFile file

/-- The settings in force: those that were loaded, with what the command line gives in place of
theirs. -/
def settings (node : Node World) (o : Options) :
    StateM World (Except Failure Settings.Checked) := do
  let loaded ← load node o
  return do ((o.override (← loaded)).check).mapError .refused

def command (s : Settings) : Command := ⟨s.service.program, s.service.arguments⟩

def assignment (c : Settings.Checked) : Assignment :=
  ⟨c.settings.watch.path, c.marker, c.settings.watch.lineLimit, c.settings.service.name⟩

def dryRun (node : Node World) (c : Settings.Checked) : StateM World Unit := do
  let isThere ← node.isDirectory c.target.dir
  node.print (summary c.settings c.target.dir isThere)
  node.note ⟨.debug, "dry-run complete (no service touched)", []⟩

def once (node : Node World) (c : Settings.Checked) : StateM World (Except Failure Unit) := do
  match ← (assignment c).enforce (node.host .absent (command c.settings)) with
  | .error failure => return .error failure
  | .ok role =>
    node.note ⟨.info, "single reconciliation done", [("role", .shown role.name)]⟩
    return .ok ()

def opened : Backend → Log.Entry
  | .inotify => ⟨.debug, "inotify instance created", []⟩
  | .notify | .poll => ⟨.debug, "notify watcher created", []⟩

def watch (node : Node World) (limit : Nat) (c : Settings.Checked) :
    StateM World (Option Failure) := do
  let s := c.settings
  node.note ⟨.debug, "creating notification backend", [("kind", .shown s.listening.backend.name)]⟩
  match ← node.listen s.listening.backend s.listening.pollInterval with
  | .error failure => return some failure
  | .ok listener =>
    node.note (opened s.listening.backend)
    let station := node.station listener (command s)
    let vigil ← Vigil.create station c.target (assignment c) s.watch.interval s.watch.rechecks
    let (failure, _) ← vigil.run station limit
    return failure

/-- Does what the command line asks for; none if the watch goes on after so many turns. -/
def run (node : Node World) (limit : Nat) (o : Options) :
    StateM World (Option (Except Failure Unit)) := do
  match ← settings node o with
  | .error failure => return some (.error failure)
  | .ok c =>
    if o.dryRun then
      dryRun node c
      return some (.ok ())
    else if o.once then return some (← once node c)
    else return (← watch node limit c).map .error

end RoleWatch.Daemon
