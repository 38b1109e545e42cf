import RoleWatch.Watch.Sentry

/-!
The timed loop around the watch. A turn first does what is due, then waits for events no longer
than until the next time something is due, so neither a flood of events nor their absence moves the
beat.
-/
namespace RoleWatch

/-- The watch with its duty and its timer. -/
structure Vigil where
  sentry : Sentry
  job : Assignment
  interval : Millis
  /-- Whether every beat also looks at the file. -/
  rechecks : Bool
  lastBeat : Millis
  deriving DecidableEq

namespace Vigil

variable {World : Type}

def defaultInterval : Millis := 2000

def defaultRechecks : Bool := true

def create (station : Station World) (target : Target) (job : Assignment) (interval : Millis)
    (rechecks : Bool) : StateM World Vigil := do
  return ⟨.ofTarget target, job, interval, rechecks, ← station.now⟩

def start (station : Station World) (v : Vigil) :
    StateM World (Except Failure Unit × Vigil) := do
  station.beat
  let now ← station.now
  let (outcome, sentry) ← v.sentry.start station.toHost v.job
  return (outcome, { v with sentry := sentry, lastBeat := now })

def look (station : Station World) (v : Vigil) : StateM World Sentry.Ending :=
  if v.rechecks then v.sentry.recheck station.toHost v.job else return (.ok (), v.sentry)

/-- Runs the node's update and, if asked to, looks at the file. Only a beat that succeeds counts as
one. -/
def beat (station : Station World) (v : Vigil) : StateM World (Except Failure Unit × Vigil) := do
  station.note ⟨.debug, "periodic tick", []⟩
  station.beat
  let (outcome, sentry) ← v.look station
  let v := { v with sentry := sentry }
  match outcome with
  | .error failure => return (.error failure, v)
  | .ok () => return (.ok (), { v with lastBeat := ← station.now })

def beatIfDue (station : Station World) (elapsed : Millis) (v : Vigil) :
    StateM World (Except Failure Unit × Vigil) :=
  if v.interval ≤ elapsed then v.beat station else return (.ok (), v)

/-- The first half of a turn: beats if the interval has passed, and says how long to wait. -/
def prepare (station : Station World) (v : Vigil) :
    StateM World (Except Failure Millis × Vigil) := do
  let elapsed := (← station.now) - v.lastBeat
  let (outcome, v) ← v.beatIfDue station elapsed
  match outcome with
  | .error failure => return (.error failure, v)
  | .ok () =>
    let budget := if v.interval ≤ elapsed then v.interval else v.interval - elapsed
    station.note ⟨.trace, "waiting for notifications", [("budget", .shown budget.describe)]⟩
    return (.ok budget, v)

/-- The second half of a turn: attends to what the wait brought. -/
def receive (station : Station World) (v : Vigil) (arrival : Except IoError Arrival) :
    StateM World (Except Failure Unit × Vigil) := do
  match arrival with
  | .ok .timedOut | .ok .interrupted => return (.ok (), v)
  | .ok (.events batch) =>
    let (outcome, sentry) ← v.sentry.attend station.toHost v.job batch
    return (outcome, { v with sentry := sentry })
  | .error cause =>
    if cause.kind = .interrupted then return (.ok (), v)
    station.note ⟨.error, "Failed to wait for notifications", [Sentry.errorField cause.message]⟩
    return (.error (.fatal (.cannotWait cause)), v)

def turn (station : Station World) (v : Vigil) : StateM World (Except Failure Unit × Vigil) := do
  match ← v.prepare station with
  | (.error failure, v) => return (.error failure, v)
  | (.ok budget, v) => v.receive station (← station.wait budget)

def opening (v : Vigil) : Log.Entry :=
  ⟨.info, "monitor started",
    [("path", .shown v.sentry.target.file.quoted), ("interval", .shown v.interval.describe)]⟩

/-- Ends the loop for a reason: every registration still held ends before the reason is given. -/
def finish (station : Station World) (v : Vigil) (failure : Failure) :
    StateM World (Failure × Vigil) := do
  let sentry ← v.sentry.release station.toHost
  station.note ⟨.error, "monitor stopped", [Sentry.errorField failure.message]⟩
  return (failure, { v with sentry := sentry })

def turns (turn : Vigil → StateM World (Option (Except Failure Unit) × Vigil)) :
    Nat → Vigil → StateM World (Option Failure × Vigil)
  | 0, v => return (none, v)
  | n + 1, v => do
    match ← turn v with
    | (none, v) => return (none, v)
    | (some (.error failure), v) => return (some failure, v)
    | (some (.ok ()), v) => turns turn n v

def goOn (turn : Vigil → StateM World (Option (Except Failure Unit) × Vigil))
    (station : Station World) (limit : Nat) (v : Vigil) :
    StateM World (Option Failure × Vigil) := do
  match ← v.start station with
  | (.error failure, v) => return (some failure, v)
  | (.ok (), v) => turns turn limit v

/-- Begins the loop and goes on, with turns of a given kind, until it fails. None if a turn is
abandoned or so many turns all succeed; then nothing is released. -/
def runBy (turn : Vigil → StateM World (Option (Except Failure Unit) × Vigil))
    (station : Station World) (limit : Nat) (v : Vigil) :
    StateM World (Option Failure × Vigil) := do
  station.note v.opening
  let (reason, v) ← goOn turn station limit v
  match reason with
  | none => return (none, v)
  | some failure =>
    let (failure, v) ← v.finish station failure
    return (some failure, v)

/-- Begins the loop and goes on until it fails; none if so many turns all succeed. -/
def run (station : Station World) (limit : Nat) (v : Vigil) :
    StateM World (Option Failure × Vigil) :=
  runBy (fun v => do
    let (outcome, v) ← v.turn station
    return (some outcome, v)) station limit v

def describe (v : Vigil) : String :=
  Record.partly "EventLoop" [
    ("manager", v.sentry.describe),
    ("options", Record.closed "LoopOptions" [
      ("interval", v.interval.describe),
      ("periodic_reconcile", toString v.rechecks)])]

end Vigil

end RoleWatch
