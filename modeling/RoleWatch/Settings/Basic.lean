import RoleWatch.Path
import RoleWatch.Settings.Backend
import RoleWatch.Text.Span

/-!
The settings of the daemon, in three sections, and the values they have when nothing is said.
-/
namespace RoleWatch

structure Settings.Watch where
  path : Path
  interval : Millis
  marker : String
  lineLimit : Nat
  /-- Whether the role is enforced at every interval and not only after changes. -/
  rechecks : Bool
  deriving DecidableEq

structure Settings.Service where
  name : String
  program : String
  arguments : List String
  deriving DecidableEq

structure Settings.Listening where
  backend : Backend
  pollInterval : Millis
  deriving DecidableEq

structure Settings where
  watch : Settings.Watch
  service : Settings.Service
  listening : Settings.Listening
  deriving DecidableEq

namespace Settings

/-! What a key stands for in a section that leaves it out. -/

def usualPath : Path := .ofText "/etc/xensource/pool.conf"

def usualInterval : Millis := 2000

def usualMarker : String := "master"

def usualLineLimit : Nat := 512

def usualRechecks : Bool := true

def usualService : String := "linstor-controller"

def usualProgram : String := "systemctl"

def usualArguments : List String := ["--now"]

def usualPollInterval : Millis := 1000

/-! Sections that leave out every key, and what stands where a document has no such section. -/

def Watch.unsaid : Watch :=
  ⟨usualPath, usualInterval, usualMarker, usualLineLimit, usualRechecks⟩

def Service.unsaid : Service := ⟨usualService, usualProgram, usualArguments⟩

def Listening.unsaid : Listening := ⟨.standard, usualPollInterval⟩

def Watch.standard : Watch := ⟨usualPath, usualInterval, usualMarker, usualLineLimit, true⟩

def Service.standard : Service := ⟨usualService, usualProgram, usualArguments⟩

def Listening.standard : Listening := ⟨.standard, usualPollInterval⟩

def standard : Settings := ⟨.standard, .standard, .standard⟩

end Settings

end RoleWatch
