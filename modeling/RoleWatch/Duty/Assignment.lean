import RoleWatch.Host

/-!
The daemon's duty: derive the role from the file and bring the service in line with it. Nothing is
remembered between two times, so a lost or late event never leads to a stale decision.
-/
namespace RoleWatch

/-- Which file declares the role, how it does, and which service follows it. -/
structure Assignment where
  path : Path
  marker : Marker
  lineLimit : Nat
  service : String
  deriving DecidableEq

namespace Assignment

variable {World : Type}

def roleOf (job : Assignment) (opened : Except IoError Source) : Except Failure Role :=
  match opened.bind fun source => FirstLine.read source job.lineLimit with
  | .ok line => .ok (job.marker.roleOf line)
  | .error cause => .error (Failure.ofRead job.path cause)

def readRole (host : Host World) (job : Assignment) : StateM World (Except Failure Role) := do
  return job.roleOf (← host.openFile job.path)

def unread (level : Log.Level) (job : Assignment) (failure : Failure) : Log.Entry :=
  ⟨level, "failed to read role",
    [("path", .shown job.path.quoted), ("error", .shown failure.message)]⟩

def announcement (job : Assignment) : Verb → Log.Entry
  | .enable => ⟨.info, s!"enabling {job.service}...", [("service", .shown job.service)]⟩
  | .disable => ⟨.info, s!"disabling {job.service}...", [("service", .shown job.service)]⟩

/-- Derives the role and asks for the service to follow it, also if the role is the same as before.
A refusal by the service is logged and goes no further. -/
def enforce (host : Host World) (job : Assignment) : StateM World (Except Failure Role) := do
  match ← job.readRole host with
  | .error failure =>
    host.note (job.unread .debug failure)
    return .error failure
  | .ok role =>
    let verb := Verb.ofRole role
    host.note (job.announcement verb)
    match ← host.perform verb job.service with
    | .ok () => pure ()
    | .error failure =>
      host.note ⟨.error, "service command failed",
        [("service", .shown job.service), ("role", .shown role.name),
         ("error", .shown failure.message)]⟩
    host.note ⟨.info, "reconciled",
      [("role", .shown role.name), ("path", .shown job.path.quoted)]⟩
    return .ok role

def describe (job : Assignment) : String :=
  Record.partly "Reconciler" [
    ("path", job.path.quoted),
    ("marker", Quoted.text job.marker.text),
    ("line_limit", toString job.lineLimit),
    ("service", Quoted.text job.service)]

/-- A refused read never stops the watch. -/
theorem not_fatal_of_roleOf {job : Assignment} {opened : Except IoError Source}
    {failure : Failure} (refused : job.roleOf opened = .error failure) :
    failure.isFatal = false := by
  unfold roleOf at refused
  split at refused
  · simp at refused
  · cases refused
    exact Failure.not_fatal_ofRead ..

end Assignment

end RoleWatch
