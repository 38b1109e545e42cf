import RoleWatch.Bench.Disk
import RoleWatch.Inotify.Table

/-!
The kernel's side of watches: which objects are watched for what, and the queue of what happened to
them. An event like the last one in the queue is not queued again. When an object is gone its watch
hears so, whatever it asked for, and ends.
-/
namespace RoleWatch.Bench

open Inotify (Descriptor Notice)

structure Watch where
  descriptor : Descriptor
  inode : Inode
  interest : Mask
  deriving DecidableEq

structure Queued where
  notice : Notice
  isDirectory : Bool
  deriving DecidableEq

structure Kernel where
  watches : List Watch
  next : Nat
  queue : List Queued

namespace Kernel

def empty : Kernel := ⟨[], 1, []⟩

def watchOf (k : Kernel) (i : Inode) : Option Watch := k.watches.find? fun w => w.inode = i

/-- Watches an object, for something else if it is watched already. -/
def add (k : Kernel) (i : Inode) (interest : Mask) : Descriptor × Kernel :=
  match k.watchOf i with
  | some known =>
    let change (w : Watch) : Watch := if w.inode = i then { w with interest } else w
    (known.descriptor, { k with watches := k.watches.map change })
  | none =>
    (⟨k.next⟩, { k with watches := k.watches ++ [⟨⟨k.next⟩, i, interest⟩], next := k.next + 1 })

/-- Queues a notice unless the last one is the same. -/
def post (k : Kernel) (q : Queued) : Kernel :=
  if k.queue.getLast? = some q then k else { k with queue := k.queue ++ [q] }

def close (k : Kernel) (d : Descriptor) : Kernel :=
  { k with watches := k.watches.filter fun w => w.descriptor ≠ d }.post
    ⟨⟨d, .ofFlags [.ignored], none⟩, false⟩

def remove (k : Kernel) (d : Descriptor) : Except IoError Unit × Kernel :=
  if k.watches.any fun w => w.descriptor = d then (.ok (), k.close d)
  else (.error (.system .invalidArgument), k)

def tell (k : Kernel) (w : Watch) (flag : Flag) (name : Option Bytes) (isDirectory : Bool) :
    Kernel :=
  if w.interest.has flag then k.post ⟨⟨w.descriptor, .ofFlags [flag], name⟩, isDirectory⟩ else k

def hear (k : Kernel) (signal : Signal) : Kernel :=
  match signal with
  | .heard i flag name isDirectory =>
    match k.watchOf i with
    | none => k
    | some w => k.tell w flag name isDirectory
  | .freed i =>
    match k.watchOf i with
    | none => k
    | some w => (k.tell w .deleteSelf none false).close w.descriptor

/-- How many bytes a notice takes in a read: a head, and the name filled up to a multiple of the
same size. -/
def size (notice : Notice) : Nat :=
  match notice.name with
  | none => 16
  | some name => 16 + (name.length + 16) / 16 * 16

def readSize : Nat := 16 * 1024

def fitting : Nat → List Queued → List Notice × List Queued
  | _, [] => ([], [])
  | room, q :: rest =>
    if size q.notice ≤ room then
      let (taken, left) := fitting (room - size q.notice) rest
      (q.notice :: taken, left)
    else ([], q :: rest)

def take (k : Kernel) : List Notice × Kernel :=
  let (taken, left) := fitting readSize k.queue
  (taken, { k with queue := left })

end Kernel

end RoleWatch.Bench
