import RoleWatch.Watch.Holding

/-!
What a batch of events means to the watch. While the file is awaited only events of the held
directory count, and of those only the ones that name the file, unless the directory itself went
away. While the file is watched all flags of the held file count together, and that it is gone
outweighs that it was written.
-/
namespace RoleWatch

/-- What there is to do about a batch. -/
inductive Verdict where
  | idle
  | changed
  | fileGone
  | appeared
  | directoryGone
  deriving DecidableEq

def Verdict.describe : Verdict → String
  | .idle => "Idle"
  | .changed => "Reconcile"
  | .fileGone => "FileGone"
  | .appeared => "FileAppeared"
  | .directoryGone => "DirectoryGone"

structure Judgement where
  verdict : Verdict
  mask : Mask
  overflowed : Bool
  deriving DecidableEq

namespace Judgement

def concerns (held : Option Handle) (e : Event) : Bool :=
  match e.handle with
  | some handle => held = some handle
  | none => false

def endsDirectory (dir : Option Handle) (e : Event) : Bool :=
  concerns dir e && e.name.isNone && e.mask.meets Mask.gone

def namesFile (dir : Option Handle) (name : Bytes) (e : Event) : Bool :=
  concerns dir e && e.name == some name

def union (events : List Event) : Mask := events.foldl (fun mask e => mask ∪ e.mask) ∅

def sawOverflow (batch : List Event) : Bool := batch.any fun e => e.mask.has .overflow

/-- The meaning of a batch while the file is awaited. A lost event may have announced the file. -/
def ofDirectory (dir : Option Handle) (name : Bytes) (batch : List Event) : Judgement :=
  let overflowed := sawOverflow batch
  match batch.find? (endsDirectory dir) with
  | some e => ⟨.directoryGone, e.mask, overflowed⟩
  | none =>
    let mask := union (batch.filter (namesFile dir name))
    ⟨if mask.meets Mask.appeared || overflowed then .appeared else .idle, mask, overflowed⟩

def ofFile (file : Option Handle) (batch : List Event) : Judgement :=
  let mask := union (batch.filter (concerns file))
  let verdict :=
    if mask.meets Mask.gone then .fileGone
    else if mask.has .modify then .changed
    else .idle
  ⟨verdict, mask, sawOverflow batch⟩

def ofBatch (held : Holding) (name : Bytes) (batch : List Event) : Judgement :=
  match held.phase with
  | .awaiting => ofDirectory held.dir name batch
  | .watching => ofFile held.file batch

end Judgement

end RoleWatch
