import RoleWatch.Host
import RoleWatch.Watch.Roster

/-!
Registrations with the kernel. The kernel knows a watched object by a descriptor and uses one
descriptor for one object, however often it is asked; the table gives each descriptor one handle. A
handle stays in the table until it is removed, also when the kernel has dropped the watch by itself.
-/
namespace RoleWatch.Inotify

structure Descriptor where
  id : Nat
  deriving DecidableEq

structure Notice where
  /-- The watch concerned; without a meaning where events were lost. -/
  descriptor : Descriptor
  mask : Mask
  name : Option Bytes
  deriving DecidableEq

structure Kernel (World : Type) where
  add : Path → Mask → StateM World (Except IoError Descriptor)
  remove : Descriptor → StateM World (Except IoError Unit)
  /-- Waits, no longer than a length of time, and takes what fits one read; none if the time ran
  out. -/
  take : Millis → StateM World (Except IoError (Option (List Notice)))

/-- The flags that can be asked of the kernel; the others come unasked. -/
def requestable : Mask :=
  .ofFlags [.modify, .create, .delete, .movedFrom, .movedTo, .deleteSelf, .moveSelf]

/-- The handles of the kernel's watches. -/
structure Table where
  entries : List (Handle × Descriptor)
  nextId : Nat

namespace Table

variable {World : Type}

def empty : Table := ⟨[], 1⟩

def handleOf (t : Table) (d : Descriptor) : Option Handle :=
  (t.entries.find? fun entry => entry.2 = d).map Prod.fst

def descriptorOf (t : Table) (h : Handle) : Option Descriptor :=
  (t.entries.find? fun entry => entry.1 = h).map Prod.snd

/-- The handle of a descriptor, a new one if it has none. -/
def enroll (t : Table) (d : Descriptor) : Handle × Table :=
  match t.handleOf d with
  | some known => (known, t)
  | none => (⟨t.nextId⟩, ⟨t.entries ++ [(⟨t.nextId⟩, d)], t.nextId + 1⟩)

def forget (t : Table) (h : Handle) : Table :=
  { t with entries := Roster.leave (fun entry => entry.1 = h) t.entries }

def addWatch (k : Kernel World) (p : Path) (interest : Mask) (t : Table) :
    StateM World (Except IoError Handle × Table) := do
  match ← k.add p (interest ∩ requestable) with
  | .error cause => return (.error cause, t)
  | .ok d =>
    let (h, t) := t.enroll d
    return (.ok h, t)

/-- Ends a registration. It is forgotten even if the kernel refuses. -/
def removeWatch (k : Kernel World) (h : Handle) (t : Table) :
    StateM World (Except IoError Unit × Table) := do
  match t.descriptorOf h with
  | none => return (.error (.worded .notFound s!"unknown watch handle {h.display}"), t)
  | some d => return (← k.remove d, t.forget h)

/-- The event that a notice is; none if its watch was removed meanwhile. -/
def event? (t : Table) (notice : Notice) : Option Event :=
  if notice.mask.has .overflow then some .lost
  else (t.handleOf notice.descriptor).map fun h => ⟨some h, notice.mask, notice.name⟩

def arrival (t : Table) (notices : List Notice) : Arrival :=
  match notices.filterMap t.event? with
  | [] => .interrupted
  | batch => .events batch

def wait (k : Kernel World) (span : Millis) (t : Table) :
    StateM World (Except IoError Arrival) := do
  match ← k.take span with
  | .error cause => return if cause.kind = .interrupted then .ok .interrupted else .error cause
  | .ok none => return .ok .timedOut
  | .ok (some notices) => return .ok (t.arrival notices)

theorem enroll_of_handleOf {t : Table} {d : Descriptor} {h : Handle}
    (known : t.handleOf d = some h) : t.enroll d = (h, t) := by
  simp [enroll, known]

def describe (t : Table) : String :=
  Record.partly "InotifyBackend" [("watches", toString t.entries.length)]

end Table

end RoleWatch.Inotify
