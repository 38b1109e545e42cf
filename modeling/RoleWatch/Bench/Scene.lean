import RoleWatch.Bench.Notifier
import RoleWatch.Watch.Vigil

/-!
A stage on which the watch can be tried out: scripted events over files in memory, a service that
only records what is asked of it, a log, and a time that passes only while the watch waits.
-/
namespace RoleWatch.Bench

structure Scene where
  notifier : Notifier
  refuses : Bool
  served : List (Verb × String)
  log : List Log.Entry
  beats : Nat
  time : Millis
  /-- What the clock will show, where it does not show the time; the last reading stays. -/
  readings : List Millis

namespace Scene

def ofTree (tree : Tree) (refuses : Bool) (readings : List Millis) : Scene :=
  { notifier := .ofTree tree, refuses, served := [], log := [], beats := 0, time := 0, readings }

def onNotifier {α : Type} (call : Notifier → α × Notifier) : StateM Scene α := fun scene =>
  let (answer, notifier) := call scene.notifier
  (answer, { scene with notifier })

def apply (activity : Activity) : StateM Scene Unit :=
  onNotifier fun n => ((), n.apply activity)

def perform (verb : Verb) (service : String) : StateM Scene (Except Failure Unit) := fun scene =>
  (if scene.refuses then .error (.other "service command failed" []) else .ok (),
    { scene with served := scene.served ++ [(verb, service)] })

def note (entry : Log.Entry) : StateM Scene Unit := fun scene =>
  ((), { scene with log := scene.log ++ [entry] })

def now : StateM Scene Millis := fun scene =>
  match scene.readings with
  | [] => (scene.time, scene)
  | [last] => (last, scene)
  | reading :: rest => (reading, { scene with readings := rest })

def pass (span : Millis) : StateM Scene Unit := fun scene =>
  ((), { scene with time := scene.time + span })

/-- Waits for events; with nothing queued all of the time passes. -/
def wait (span : Millis) : StateM Scene (Except IoError Arrival) := do
  match ← onNotifier Notifier.read with
  | some arrival => return arrival
  | none =>
    pass span
    return .ok .timedOut

def host : Host Scene where
  openFile path := fun scene => (scene.notifier.tree.openFile path, scene)
  addWatch path interest := onNotifier fun n => n.addWatch path interest
  removeWatch handle := onNotifier fun n => n.removeWatch handle
  perform := perform
  note := note

def station : Station Scene where
  toHost := host
  now := now
  wait := wait
  beat := fun scene => ((), { scene with beats := scene.beats + 1 })

/-- A turn that is abandoned if its wait would go on past a time; that much time passes then. -/
def turnUntil (deadline : Millis) (v : Vigil) :
    StateM Scene (Option (Except Failure Unit) × Vigil) := do
  match ← v.prepare station with
  | (.error failure, v) => return (some (.error failure), v)
  | (.ok budget, v) =>
    match ← onNotifier Notifier.read with
    | some arrival =>
      let (outcome, v) ← v.receive station arrival
      return (some outcome, v)
    | none =>
      let left := deadline - (← get).time
      pass (min left budget)
      if left < budget then return (none, v)
      let (outcome, v) ← v.receive station (.ok .timedOut)
      return (some outcome, v)

/-- More turns than a loop with a positive interval can take within a length of time: each takes
time, empties the queue or uses up a cue. -/
def turnLimit (span : Millis) (scene : Scene) : Nat := span + 2 * scene.notifier.cues.length + 4

/-- Runs the loop for a length of time; none if it has not ended by then. -/
def runFor (span : Millis) (v : Vigil) : StateM Scene (Option Failure × Vigil) := do
  let scene ← get
  v.runBy (turnUntil (scene.time + span)) station (turnLimit span scene)

end Scene

end RoleWatch.Bench
