import RoleWatch.Host

/-!
The command that changes services: a program, told a verb, some fixed arguments and the service.
That it cannot be run is a failure; how it ends is only logged.
-/
namespace RoleWatch

inductive Exit where
  | code (number : Nat)
  | signal (number : Nat)
  deriving DecidableEq

structure Command where
  program : String
  arguments : List String
  deriving DecidableEq

namespace Command

variable {World : Type}

def standard : Command := ⟨"systemctl", ["--now"]⟩

def told (c : Command) (verb : Verb) (service : String) : List String :=
  [verb.name] ++ c.arguments ++ [service]

def announcement (c : Command) (verb : Verb) (service : String) : Log.Entry :=
  ⟨.debug, "running service command",
    [("program", .shown c.program), ("verb", .word verb.name), ("service", .word service)]⟩

def report (c : Command) : Exit → Log.Entry
  | .code 0 => ⟨.info, s!"`{c.program}` completed normally.", []⟩
  | .code number =>
    ⟨.error, s!"`{c.program}` exited with an error: {number}.",
      [("exit_code", .shown (toString number))]⟩
  | .signal number =>
    ⟨.error, s!"`{c.program}` terminated by signal {number}.",
      [("signal", .shown (toString number))]⟩

def notRun (c : Command) (verb : Verb) (service : String) (cause : IoError) : Failure :=
  .other s!"running `{c.program} {verb.name} {service}`" [cause]

def perform (spawn : String → List String → StateM World (Except IoError Exit))
    (note : Log.Entry → StateM World Unit) (c : Command) (verb : Verb) (service : String) :
    StateM World (Except Failure Unit) := do
  note (c.announcement verb service)
  match ← spawn c.program (c.told verb service) with
  | .error cause => return .error (c.notRun verb service cause)
  | .ok exit =>
    note (c.report exit)
    return .ok ()

def describe (c : Command) : String :=
  Record.closed "SystemctlController" [
    ("program", Quoted.text c.program),
    ("extra_args", Record.list (c.arguments.map Quoted.text))]

end Command

end RoleWatch
