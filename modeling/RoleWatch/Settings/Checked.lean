import RoleWatch.Duty.Marker
import RoleWatch.Settings.Section
import RoleWatch.Toml.Document
import RoleWatch.Watch.Target

/-!
Settings that a daemon can run with. Checking changes nothing; it splits the watched path and takes
the marker, and reports the first objection in a fixed order.
-/
namespace RoleWatch.Settings

/-- Settings together with what checking them yields. -/
structure Checked where
  settings : Settings
  target : Target
  marker : Marker

def isBlankText (text : String) : Bool := (Blank.trimChars text.toList).isEmpty

def check (s : Settings) : Except Objection Checked := do
  if !s.watch.path.isAbsolute then throw (.relativePath s.watch.path)
  let target ← Target.ofPath s.watch.path
  if s.watch.interval = 0 then throw .zeroInterval
  let size := (Bytes.ofText s.watch.marker).length
  if s.watch.lineLimit ≤ size then throw (.lineLimit s.watch.lineLimit size)
  if isBlankText s.service.name then throw .blankService
  if isBlankText s.service.program then throw .blankProgram
  if s.listening.pollInterval = 0 then throw .zeroPollInterval
  return ⟨s, target, ← Marker.ofText s.watch.marker⟩

def ofText (text : String) : Except Misfit Settings := do
  match Toml.Document.ofText text with
  | .error fault => throw (.broken fault)
  | .ok entries => ofEntries entries

def ofFile (content : Except IoError Bytes) : Except Failure Settings :=
  match content with
  | .error cause => .error (.call cause)
  | .ok bytes =>
    match Utf8.decode? bytes with
    | none => .error (.call .notText)
    | some text => (ofText text).mapError .document

end RoleWatch.Settings
