import RoleWatch.Text.Bytes
import RoleWatch.Watch.Mask

/-!
Notifications: which registration they belong to, what happened, and to which child.
-/
namespace RoleWatch

structure Handle where
  id : Nat
  deriving DecidableEq

namespace Handle

def display (h : Handle) : String := s!"#{h.id}"

def describe (h : Handle) : String := Record.tagged "WatchHandle" (toString h.id)

end Handle

/-- One notification. -/
structure Event where
  /-- The registration concerned; none for what concerns the queue itself. -/
  handle : Option Handle
  mask : Mask
  name : Option Bytes
  deriving DecidableEq

namespace Event

def onSelf (handle : Handle) (mask : Mask) : Event := ⟨some handle, mask, none⟩

def onChild (handle : Handle) (name : Bytes) (mask : Mask) : Event := ⟨some handle, mask, some name⟩

def lost : Event := ⟨none, Mask.overflow, none⟩

end Event

end RoleWatch
