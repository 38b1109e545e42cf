import RoleWatch.Relay.Report
import RoleWatch.Watch.Registration

/-!
From reports about paths to events of registrations. A path that is a registered one concerns the
registered object itself; a path right below a registered one concerns a child of it; any other
path concerns nobody.
-/
namespace RoleWatch.Relay

/-- How a path stands to a registered one. -/
inductive Bearing where
  | self
  /-- It is right below, under a name unless it ends in a double dot. -/
  | child (name : Option Bytes)
  deriving DecidableEq

def Bearing.of? (registered path : Path) : Option Bearing :=
  if path.same registered then some .self
  else if (path.parent?.map fun parent => parent.same registered).getD false then
    some (.child path.fileName?)
  else none

namespace Bearing

theorem of?_eq_self_iff {registered path : Path} :
    of? registered path = some .self ↔ path.parts = registered.parts := by
  unfold of?
  split
  · rename_i same
    simpa using Path.same_iff.1 same
  · rename_i differs
    have parts : path.parts ≠ registered.parts := fun equal => differs (Path.same_iff.2 equal)
    split <;> simp [parts]

def name : Bearing → Option Bytes
  | .self => none
  | .child name => name

def movedOut : Bearing → Mask
  | .self => .ofFlags [.moveSelf]
  | .child _ => .ofFlags [.movedFrom]

def removed : Bearing → Mask
  | .self => .ofFlags [.deleteSelf]
  | .child _ => .ofFlags [.delete]

end Bearing

/-- The flags for one path of a rename. Where the watcher cannot tell the old name from the new one,
a child that is there now has been moved here. -/
def Way.mask (bearing : Bearing) (index : Nat) (isThere : Bool) : Way → Mask
  | .source => bearing.movedOut
  | .target => .ofFlags [.movedTo]
  | .both => if index = 0 then bearing.movedOut else .ofFlags [.movedTo]
  | .unknown | .other => if isThere && bearing ≠ .self then .ofFlags [.movedTo] else bearing.movedOut

/-- The flags for one path of a report. A watcher that polls knows a write by its time alone. -/
def Happening.mask (bearing : Bearing) (index : Nat) (isThere : Bool) : Happening → Mask
  | .create => .ofFlags [.create]
  | .remove => bearing.removed
  | .rename way => way.mask bearing index isThere
  | .attribute .any | .attribute .writeTime => .ofFlags [.modify]
  | .attribute _ => ∅
  | .content | .modify | .modifyOther => .ofFlags [.modify]
  | .unknown | .other | .access => ∅

def Report.event? (isThere : Path → Bool) (report : Report) (index : Nat) (path : Path)
    (r : Registration) : Option Event := do
  let bearing ← Bearing.of? r.path path
  let mask := r.hears (report.happening.mask bearing index (isThere path))
  if mask = ∅ then none else some ⟨some r.handle, mask, bearing.name⟩

/-- The events that a report is to some registrations: path by path, and for each path in the order
of the registrations. -/
def Report.events (isThere : Path → Bool) (registrations : List Registration) (report : Report) :
    List Event :=
  (if report.rescan then [Event.lost] else []) ++
    report.paths.zipIdx.flatMap fun (path, index) =>
      registrations.filterMap (report.event? isThere index path)

end RoleWatch.Relay
