import RoleWatch.Bench.Tree
import RoleWatch.Host
import RoleWatch.Watch.Registration

/-!
A scripted source of events over files in memory. Activity on the files queues what a system would
report to the registrations there are at that moment; a read hands out the whole queue as one
batch. A registration whose object is removed is dropped: it hears a last word and nothing more,
but stays listed until its holder ends it.
-/
namespace RoleWatch.Bench

inductive Call where
  | add (path : Path) (interest : Mask)
  | remove (handle : Handle)
  deriving DecidableEq

mutual

inductive Activity where
  | addFile (path : Path) (content : Bytes)
  | addDirectory (path : Path)
  /-- Something goes away, and no one is told. -/
  | remove (path : Path)
  | rename (source target : Path)
  | create (path : Path) (content : Bytes)
  | write (path : Path) (content : Bytes)
  | delete (path : Path)
  | move (source target : Path)
  | removeDirectory (path : Path)
  | push (event : Event)
  | refuseNext (path : Path) (kind : IoError.Kind)
  | later (cue : Cue)

/-- What a read meets before it looks at the queue. -/
inductive Cue where
  | act (activities : List Activity)
  | interrupt
  | fail (kind : IoError.Kind)

end

/-- The files, the registrations on them, and what is queued. -/
structure Notifier where
  tree : Tree
  nextId : Nat
  active : List Registration
  /-- The registrations whose object is gone. -/
  dropped : List Handle
  pending : List Event
  cues : List Cue
  refusals : List (Path × IoError.Kind)
  calls : List Call
  reads : Nat
  maxActive : Nat

namespace Notifier

def ofTree (tree : Tree) : Notifier :=
  { tree, nextId := 1, active := [], dropped := [], pending := [], cues := [], refusals := [],
    calls := [], reads := 0, maxActive := 0 }

/-- The registrations of a path that still hear what happens. -/
def listeners (n : Notifier) (place : Place) : List Registration :=
  n.active.filter fun r => r.path.parts = place ∧ r.handle ∉ n.dropped

def heard (listeners : List Registration) (mask : Mask) (told : Handle → Mask → Event) :
    List Event :=
  listeners.filterMap fun r =>
    if r.hears mask = ∅ then none else some (told r.handle (r.hears mask))

def tellSelf (n : Notifier) (p : Path) (mask : Mask) : Notifier :=
  { n with pending := n.pending ++ heard (n.listeners p.parts) mask Event.onSelf }

def tellParent (n : Notifier) (p : Path) (mask : Mask) : Notifier :=
  match p.parent?, p.fileName? with
  | some parent, some name =>
    { n with pending := n.pending ++
        heard (n.listeners parent.parts) mask fun handle mask => Event.onChild handle name mask }
  | _, _ => n

/-- Drops the registrations of an object that is gone, with a last word to each. -/
def drop (n : Notifier) (p : Path) : Notifier :=
  let handles := (n.listeners p.parts).map Registration.handle
  { n with
    dropped := n.dropped ++ handles
    pending := n.pending ++ handles.map fun h => Event.onSelf h (.ofFlags [.ignored]) }

def withTree (n : Notifier) (tree : Tree) : Notifier := { n with tree }

def write (n : Notifier) (p : Path) (content : Bytes) : Notifier :=
  let modified := Mask.ofFlags [.modify]
  ((n.withTree (n.tree.addFile p content)).tellSelf p modified).tellParent p modified

def create (n : Notifier) (p : Path) (content : Bytes) : Notifier :=
  if n.tree.isFile p then n.write p content
  else (n.withTree (n.tree.addFile p content)).tellParent p (.ofFlags [.create])

def delete (n : Notifier) (p : Path) : Notifier :=
  match n.tree.remove? p with
  | none => n
  | some tree =>
    (((n.withTree tree).tellSelf p (.ofFlags [.deleteSelf])).drop p).tellParent p
      (.ofFlags [.delete])

def move (n : Notifier) (source target : Path) : Notifier :=
  match n.tree.rename source target with
  | .error _ => n
  | .ok tree =>
    (((n.withTree tree).tellSelf source (.ofFlags [.moveSelf])).tellParent source
      (.ofFlags [.movedFrom])).tellParent target (.ofFlags [.movedTo])

/-- Removes a directory; every registered path in it hears that it is gone. -/
def removeDirectory (n : Notifier) (dir : Path) : Notifier :=
  match n.tree.remove? dir with
  | none => n
  | some tree =>
    let watched := (n.active.map Registration.path).filter fun p => p.isWithin dir
    watched.foldl (fun n p => (n.tellSelf p (.ofFlags [.deleteSelf])).drop p) (n.withTree tree)

def apply (n : Notifier) : Activity → Notifier
  | .addFile p content => n.withTree (n.tree.addFile p content)
  | .addDirectory p => n.withTree (n.tree.addDirectory p)
  | .remove p => n.withTree ((n.tree.remove? p).getD n.tree)
  | .rename source target => n.withTree ((n.tree.rename source target).toOption.getD n.tree)
  | .create p content => n.create p content
  | .write p content => n.write p content
  | .delete p => n.delete p
  | .move source target => n.move source target
  | .removeDirectory p => n.removeDirectory p
  | .push event => { n with pending := n.pending ++ [event] }
  | .refuseNext p kind => { n with refusals := n.refusals ++ [(p, kind)] }
  | .later cue => { n with cues := n.cues ++ [cue] }

def applyAll (n : Notifier) (activities : List Activity) : Notifier := activities.foldl apply n

def record (n : Notifier) (call : Call) : Notifier := { n with calls := n.calls ++ [call] }

def addWatch (n : Notifier) (p : Path) (interest : Mask) : Except IoError Handle × Notifier :=
  let n := n.record (.add p interest)
  match n.refusals.findIdx? fun refusal => refusal.1.same p with
  | some i =>
    let kind := (n.refusals[i]?.map Prod.snd).getD .other
    (.error (.bare kind), { n with refusals := n.refusals.eraseIdx i })
  | none =>
    if n.tree.exists? p then
      let handle : Handle := ⟨n.nextId⟩
      let active := n.active ++ [Registration.mk handle p interest]
      (.ok handle,
        { n with nextId := n.nextId + 1, active, maxActive := max n.maxActive active.length })
    else (.error (.worded .notFound s!"{p.display} does not exist"), n)

/-- Ends a registration. One that was dropped ends too, but that is refused. -/
def removeWatch (n : Notifier) (handle : Handle) : Except IoError Unit × Notifier :=
  let n := n.record (.remove handle)
  match n.active.findIdx? fun r => r.handle = handle with
  | none => (.error (.worded .notFound "unknown watch"), n)
  | some i =>
    let n := { n with active := n.active.eraseIdx i }
    if handle ∈ n.dropped then
      (.error (.worded .invalidInput "watch already dropped"),
        { n with dropped := n.dropped.filter (· ≠ handle) })
    else (.ok (), n)

def nextCue (n : Notifier) : Option Cue × Notifier :=
  let n := { n with reads := n.reads + 1 }
  match n.cues with
  | [] => (none, n)
  | cue :: rest => (some cue, { n with cues := rest })

def takePending (n : Notifier) : List Event × Notifier := (n.pending, { n with pending := [] })

/-- Reads events; none if nothing is queued, and then the read waits as long as it may. -/
def read (n : Notifier) : Option (Except IoError Arrival) × Notifier :=
  let queued (n : Notifier) : Option (Except IoError Arrival) × Notifier :=
    match n.takePending with
    | ([], n) => (none, n)
    | (batch, n) => (some (.ok (.events batch)), n)
  match n.nextCue with
  | (some .interrupt, n) => (some (.ok .interrupted), n)
  | (some (.fail kind), n) => (some (.error (.bare kind)), n)
  | (some (.act activities), n) => queued (n.applyAll activities)
  | (none, n) => queued n

def registrationOf (n : Notifier) (p : Path) : Option Registration :=
  n.active.find? fun r => r.path.same p

def describe (n : Notifier) : String :=
  Record.partly "FakeBackend" [
    ("active", Record.list (n.active.map (Registration.describe "ActiveWatch")))]

end Notifier

end RoleWatch.Bench
