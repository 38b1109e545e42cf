import RoleWatch.Daemon.Run

/-!
The daemon as a process: its arguments, its log on the error output, and the code it ends with.
-/
namespace RoleWatch.Daemon

variable {World : Type}

def indented (number : Option Nat) (cause : String) : String :=
  let first := match number with
    | none => "    "
    | some n => "".pushn ' ' (5 - (toString n).length) ++ s!"{n}: "
  let further := match number with
    | none => "\n    "
    | some _ => "\n       "
  first ++ String.intercalate further (cause.splitOn "\n")

def account (f : Failure) : String :=
  let causes := match f.causes with
    | [] => ""
    | [cause] => "\n\nCaused by:\n" ++ indented none cause
    | causes => "\n\nCaused by:\n" ++ String.intercalate "\n"
        (causes.zipIdx.map fun (cause, n) => indented (some n) cause)
  f.message ++ causes

def success : Nat := 0

def failed : Nat := 1

def misused : Nat := 2

def refuse (node : Node World) (r : Options.Refusal) : StateM World Nat := do
  match r with
  | .help =>
    node.print Options.helpText
    return success
  | .version =>
    node.print Options.versionText
    return success
  | r =>
    node.complain s!"error: {r.words}\n\n{Options.usage}\n"
    return misused

/-- Runs the daemon and gives the code it ends with; none if the watch goes on after so many
turns. -/
def launch (node : Node World) (limit : Nat) (environment : Option Bytes) (arguments : List Bytes) :
    StateM World (Option Nat) := do
  match Options.parse arguments with
  | .error r => return some (← refuse node r)
  | .ok o =>
    let level := Log.Level.resolve o.logLevel (environment.bind Utf8.decode?)
    match ← run (node.logged level) limit o with
    | none => return none
    | some (.ok ()) => return some success
    | some (.error failure) =>
      node.complain ("linstor-monitord error: " ++ account failure ++ "\n")
      return some failed

end RoleWatch.Daemon
