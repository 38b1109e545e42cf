import RoleWatch.Settings.Checked

/-!
The settings in force, line by line, for a person to look at before the daemon is let loose.
-/
namespace RoleWatch.Daemon

def commandLine (s : Settings.Service) : String :=
  String.intercalate " " [s.program, "<enable|disable>", String.intercalate " " s.arguments, s.name]

def summaryLines (s : Settings) (dir : Path) (dirExists : Bool) : List String :=
  ["linstor-monitord dry-run",
    s!"  watch.path = {s.watch.path.display}",
    s!"  watch.interval_ms = {s.watch.interval}",
    s!"  watch.marker = {Quoted.text s.watch.marker}",
    s!"  watch.line_limit = {s.watch.lineLimit}",
    s!"  watch.periodic_reconcile = {s.watch.rechecks}",
    s!"  service.name = {s.service.name}",
    s!"  service.command = {commandLine s.service}",
    s!"  backend.kind = {s.listening.backend.name}"] ++
  (if s.listening.backend = .poll then
    [s!"  backend.poll_interval_ms = {s.listening.pollInterval}"] else []) ++
  if dirExists then []
  else [s!"  warning: {dir.display} does not exist; the daemon would exit"]

def summary (s : Settings) (dir : Path) (dirExists : Bool) : String :=
  String.join ((summaryLines s dir dirExists).map (· ++ "\n"))

end RoleWatch.Daemon
