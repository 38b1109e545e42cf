import RoleWatch.Bench.Kernel
import RoleWatch.Daemon.Node
import RoleWatch.Duty.Identity
import RoleWatch.Relay.Basic

/-!
A machine in memory: a disk, the kernel's watches on it, programs that all end alike, and a time
that passes only while someone waits. It writes down what is asked of it.
-/
namespace RoleWatch.Bench

structure Attempt where
  program : String
  told : List String
  outcome : Except IoError Exit

structure Site where
  disk : Disk
  kernel : Kernel
  table : Inotify.Table
  relay : Relay
  ending : Exit
  attempts : List Attempt
  served : List (Verb × String)
  name : Except String String
  identity : Identity
  beats : Nat
  time : Millis
  log : List Log.Entry
  printed : String
  complained : String

namespace Site

def ofDisk (disk : Disk) (ending : Exit) : Site :=
  { disk, kernel := .empty, table := .empty, relay := .empty, ending, attempts := [], served := [],
    name := .ok "localhost", identity := .unknown, beats := 0, time := 0, log := [], printed := "",
    complained := "" }

def change (how : Disk → Disk.Change) : StateM Site (Except IoError Unit) := fun site =>
  match how site.disk with
  | .error cause => (.error cause, site)
  | .ok (disk, signals) => (.ok (), { site with disk, kernel := signals.foldl .hear site.kernel })

def note (entry : Log.Entry) : StateM Site Unit := fun site =>
  ((), { site with log := site.log ++ [entry] })

def pass (span : Millis) : StateM Site Unit := fun site =>
  ((), { site with time := site.time + span })

/-! Programs. -/

/-- Why a program cannot be run with some arguments, if it cannot. A program without a slash in its
name is looked for elsewhere and not found. -/
def hindrance? (disk : Disk) (program : String) (arguments : List String) : Option IoError :=
  if (program :: arguments).any fun word => word.toList.contains '\x00' then
    some (.worded .invalidInput "nul byte found in provided data")
  else if !program.toList.contains '/' then some (.system .noEntry)
  else match disk.find (.ofText program) with
    | .error cause => some cause
    | .ok (_, .file _ true) => none
    | .ok _ => some (.system .accessDenied)

def spawn (program : String) (arguments : List String) : StateM Site (Except IoError Exit) :=
  fun site =>
    let outcome := match hindrance? site.disk program arguments with
      | some cause => .error cause
      | none => .ok site.ending
    (outcome, { site with attempts := site.attempts ++ [⟨program, arguments, outcome⟩] })

def told (site : Site) : List (List String) :=
  site.attempts.filterMap fun a => a.outcome.toOption.map fun _ => a.told

def serve (verb : Verb) (service : String) : StateM Site (Except Failure Unit) := fun site =>
  (.ok (), { site with served := site.served ++ [(verb, service)] })

/-! Sources of events. -/

def addToKernel (p : Path) (interest : Mask) : StateM Site (Except IoError Inotify.Descriptor) :=
  fun site =>
    if p.bytes.contains 0 then
      (.error (.worded .invalidInput "data provided contains a nul byte"), site)
    else if interest = ∅ then (.error (.system .invalidArgument), site)
    else match site.disk.find p with
      | .error cause => (.error cause, site)
      | .ok (i, _) =>
        let (d, kernel) := site.kernel.add i interest
        (.ok d, { site with kernel })

/-- Waits for the kernel to report something, and takes what fits one read. -/
def takeFromKernel (span : Millis) : StateM Site (Except IoError (Option (List Inotify.Notice))) :=
  fun site =>
    match site.kernel.take with
    | ([], _) => (.ok none, { site with time := site.time + span })
    | (taken, kernel) => (.ok (some taken), { site with kernel })

def kernelCalls : Inotify.Kernel Site where
  add := addToKernel
  remove d := fun site =>
    let (answer, kernel) := site.kernel.remove d
    (answer, { site with kernel })
  take := takeFromKernel

def onTable {α : Type} (op : Inotify.Table → StateM Site (α × Inotify.Table)) : StateM Site α :=
  fun site =>
    let ((answer, table), site) := op site.table site
    (answer, { site with table })

def kernelListener : Daemon.Listener Site where
  addWatch p interest := onTable (·.addWatch kernelCalls p interest)
  removeWatch h := onTable (·.removeWatch kernelCalls h)
  wait span := fun site => site.table.wait kernelCalls span site

def watcher : Relay.Watcher Site where
  look site p := (site.disk.find p).map fun _ => ()
  watch _ := pure (.ok ())
  unwatch _ := pure (.ok ())

def onRelay {α : Type} (op : Relay → StateM Site (α × Relay)) : StateM Site α := fun site =>
  let ((answer, relay), site) := op site.relay site
  (answer, { site with relay })

def relayWait (span : Millis) : StateM Site (Except IoError Arrival) := do
  let site ← get
  let (delivery, relay) := site.relay.read site.disk.exists?
  set { site with relay, log := site.log ++ delivery.warnings }
  if delivery.arrival matches .ok .timedOut then pass span
  return delivery.arrival

def relayListener : Daemon.Listener Site where
  addWatch p interest := onRelay (Relay.addWatch watcher p interest)
  removeWatch h := onRelay (Relay.removeWatch watcher h)
  wait := relayWait

/-! The calls of the daemon. -/

def identify : StateM Site (Option Log.Entry) := fun site =>
  let (identity, news) := site.identity.update site.name
  (news, { site with identity, beats := site.beats + 1 })

def node : Daemon.Node Site where
  readFile p := fun site => (site.disk.content p, site)
  openFile p := fun site => (site.disk.openFile p, site)
  isDirectory p := fun site => (site.disk.isDirectory p, site)
  spawn := spawn
  listen backend _ := pure <| .ok <|
    match backend with
    | .inotify => kernelListener
    | .notify | .poll => relayListener
  now := fun site => (site.time, site)
  identify := identify
  note := note
  print text := fun site => ((), { site with printed := site.printed ++ text })
  complain text := fun site => ((), { site with complained := site.complained ++ text })

/-- The calls of a timed loop over the kernel's watches, with a service that only writes down what
is asked of it. -/
def station : Station Site :=
  { node.station kernelListener .standard with perform := serve }

def settle : Nat → Vigil → StateM Site (Except Failure Unit × Vigil)
  | 0, v => return (.ok (), v)
  | most + 1, v => do
    let before := (← get).time
    match ← v.turn station with
    | (.error failure, v) => return (.error failure, v)
    | (.ok (), v) => if before < (← get).time then return (.ok (), v) else settle most v

def settleLimit (site : Site) : Nat := 2 * site.kernel.queue.length + 4

end Site

end RoleWatch.Bench
