import RoleWatch.Host
import RoleWatch.Relay.Attribution
import RoleWatch.Watch.Roster

/-!
Registrations over a path watcher. The watcher's reports and troubles wait in an inbox; one
read takes all of them, and what it hands out is their events to the registrations of that moment.
-/
namespace RoleWatch

structure Relay where
  registrations : List Registration
  nextId : Nat
  inbox : List (Except Relay.Trouble Relay.Report)
  closed : Bool

namespace Relay

structure Watcher (World : Type) where
  look : World → Path → Except IoError Unit
  watch : Path → StateM World (Except Trouble Unit)
  unwatch : Path → StateM World (Except Trouble Unit)

variable {World : Type}

def empty : Relay := ⟨[], 1, [], false⟩

def refused (t : Trouble) : Failure := .fatal (.cannotListen t.message)

def receive (r : Relay) (told : Except Trouble Report) : Relay :=
  if r.closed then r else { r with inbox := r.inbox ++ [told] }

def close (r : Relay) : Relay := { r with closed := true }

def register (r : Relay) (p : Path) (interest : Mask) : Relay :=
  { r with
    registrations := r.registrations ++ [⟨⟨r.nextId⟩, p, interest⟩]
    nextId := r.nextId + 1 }

/-- Registers an interest in a path. A path that is not there is refused before the watcher is
asked, since some watchers accept it. -/
def addWatch (w : Watcher World) (p : Path) (interest : Mask) (r : Relay) :
    StateM World (Except IoError Handle × Relay) := do
  match w.look (← get) p with
  | .error cause => return (.error cause, r)
  | .ok () =>
    match ← w.watch p with
    | .error trouble => return (.error trouble.failedCall, r)
    | .ok () => return (.ok ⟨r.nextId⟩, r.register p interest)

/-- Ends a registration. It is forgotten even if the watcher fails. -/
def removeWatch (w : Watcher World) (handle : Handle) (r : Relay) :
    StateM World (Except IoError Unit × Relay) := do
  let isMeant (known : Registration) : Bool := known.handle = handle
  match r.registrations.find? isMeant with
  | none => return (.error (.worded .notFound s!"unknown watch handle {handle.display}"), r)
  | some gone =>
    let r := { r with registrations := Roster.leave isMeant r.registrations }
    return ((← w.unwatch gone.path).mapError Trouble.failedCall, r)

def eventsOf (isThere : Path → Bool) (r : Relay) : Except Trouble Report → List Event
  | .ok report => report.events isThere r.registrations
  | .error _ => []

def warning? : Except Trouble Report → Option Log.Entry
  | .ok _ => none
  | .error trouble => some ⟨.warn, s!"file watch error: {trouble.message}", []⟩

structure Delivery where
  arrival : Except IoError Arrival
  warnings : List Log.Entry

/-- Reads when nothing was told: the time runs out, unless the watcher is gone and nothing will ever
be told. -/
def readNothing (r : Relay) : Except IoError Arrival :=
  if r.closed then .error (.worded .brokenPipe "notify event channel closed") else .ok .timedOut

def readAll (isThere : Path → Bool) (r : Relay) : Arrival :=
  match r.inbox.flatMap (r.eventsOf isThere) with
  | [] => .interrupted
  | batch => .events batch

def read (isThere : Path → Bool) (r : Relay) : Delivery × Relay :=
  let arrival := if r.inbox.isEmpty then r.readNothing else .ok (r.readAll isThere)
  (⟨arrival, r.inbox.filterMap warning?⟩, { r with inbox := [] })

def describe (r : Relay) : String :=
  Record.partly "NotifyBackend" [
    ("registrations", Record.list (r.registrations.map (Registration.describe "Registration")))]

end Relay

end RoleWatch
