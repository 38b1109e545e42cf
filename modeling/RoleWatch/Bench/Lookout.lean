import RoleWatch.Bench.Disk
import RoleWatch.Relay.Basic

/-!
A scripted path watcher over a disk. It writes down what it is asked for and agrees, unless it
was told to fail; what it tells is told to it.
-/
namespace RoleWatch.Bench

inductive Request where
  | watch (path : Path)
  | unwatch (path : Path)
  deriving DecidableEq

structure Lookout where
  disk : Disk
  requests : List Request
  watchFailures : List Relay.Trouble
  unwatchFailures : List Relay.Trouble

namespace Lookout

def ofDisk (disk : Disk) : Lookout := ⟨disk, [], [], []⟩

def agree : List Relay.Trouble → Except Relay.Trouble Unit × List Relay.Trouble
  | [] => (.ok (), [])
  | trouble :: later => (.error trouble, later)

def watcher : Relay.Watcher Lookout where
  look lookout p := (lookout.disk.find p).map fun _ => ()
  watch p := fun lookout =>
    let (answer, later) := agree lookout.watchFailures
    (answer, { lookout with requests := lookout.requests ++ [.watch p], watchFailures := later })
  unwatch p := fun lookout =>
    let (answer, later) := agree lookout.unwatchFailures
    (answer,
      { lookout with requests := lookout.requests ++ [.unwatch p], unwatchFailures := later })

def isThere (lookout : Lookout) (p : Path) : Bool := lookout.disk.exists? p

end Lookout

end RoleWatch.Bench
