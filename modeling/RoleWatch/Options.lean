import RoleWatch.Log
import RoleWatch.Settings.Basic
import RoleWatch.Text.Utf8

/-!
The command line. Arguments are taken from left to right; an option's value may follow it after an
equals sign or as the next argument, and is looked at when the next option comes or the line ends.
Values from the command line outweigh those of the settings.
-/
namespace RoleWatch

structure Options where
  config : Option Path
  watchFile : Option Path
  interval : Option Millis
  marker : Option String
  service : Option String
  backend : Option Backend
  logLevel : Option Log.Level
  once : Bool
  dryRun : Bool
  deriving DecidableEq

namespace Options

def empty : Options :=
  ⟨none, none, none, none, none, none, none, false, false⟩

/-- Settings in which what the command line gives stands in place of what they gave. -/
def override (o : Options) (s : Settings) : Settings where
  watch := { s.watch with
    path := o.watchFile.getD s.watch.path
    interval := o.interval.getD s.watch.interval
    marker := o.marker.getD s.watch.marker }
  service := { s.service with name := o.service.getD s.service.name }
  listening := { s.listening with backend := o.backend.getD s.listening.backend }

/-- Why a command line does not start the daemon. -/
inductive Refusal where
  | unknown
  | noValue
  | badValue
  | notText
  | again
  | surplus
  | help
  | version
  deriving DecidableEq

inductive Setting where
  | config
  | watchFile
  | interval
  | marker
  | service
  | backend
  | logLevel
  deriving DecidableEq

inductive Meaning where
  | setting (setting : Setting)
  | once
  | dryRun
  | help
  | version
  deriving DecidableEq

def meanings : List (String × Meaning) := [
  ("config", .setting .config), ("watch-file", .setting .watchFile),
  ("interval-ms", .setting .interval), ("marker", .setting .marker),
  ("service", .setting .service), ("backend", .setting .backend),
  ("log-level", .setting .logLevel), ("once", .once), ("dry-run", .dryRun), ("help", .help),
  ("version", .version)]

def meaning? (name : Bytes) : Option Meaning := do
  let text ← Utf8.decode? name
  meanings.lookup text

def has (o : Options) : Setting → Bool
  | .config => o.config.isSome
  | .watchFile => o.watchFile.isSome
  | .interval => o.interval.isSome
  | .marker => o.marker.isSome
  | .service => o.service.isSome
  | .backend => o.backend.isSome
  | .logLevel => o.logLevel.isSome

def pathOf (value : Bytes) : Except Refusal Path :=
  if value.isEmpty then .error .noValue else .ok ⟨value⟩

def textOf (value : Bytes) : Except Refusal String :=
  match Utf8.decode? value with
  | some text => .ok text
  | none => .error .notText

def orElse {α : Type} (refusal : Refusal) : Option α → Except Refusal α
  | some value => .ok value
  | none => .error refusal

def levelOf? (text : String) : Option Log.Level :=
  Log.Level.all.find? fun level => Casing.lower level.name = text

def set (o : Options) (setting : Setting) (value : Bytes) : Except Refusal Options := do
  if o.has setting then throw .again
  match setting with
  | .config => return { o with config := some (← pathOf value) }
  | .watchFile => return { o with watchFile := some (← pathOf value) }
  | .interval =>
    return { o with interval := some (← orElse .badValue (Unsigned.parse? (← textOf value))) }
  | .marker => return { o with marker := some (← textOf value) }
  | .service => return { o with service := some (← textOf value) }
  | .backend =>
    return { o with backend := some (← orElse .badValue (Backend.parse (← textOf value)).toOption) }
  | .logLevel =>
    return { o with logLevel := some (← orElse .noValue (levelOf? (← textOf value))) }

structure Reading where
  options : Options
  /-- The last option, and its value once it came as an argument. -/
  pending : Option (Setting × Option Bytes)
  ended : Bool

def settle (r : Reading) : Except Refusal Options :=
  match r.pending with
  | none => .ok r.options
  | some (setting, some value) => r.options.set setting value
  | some (_, none) => .error .noValue

def switch (already : Bool) (switched : Options) : Except Refusal Reading :=
  if already then .error .again else .ok ⟨switched, none, false⟩

def readLong (r : Reading) (name : Bytes) (value : Option Bytes) : Except Refusal Reading := do
  match meaning? name, value with
  | none, _ => throw .unknown
  | some (.setting setting), some value =>
    return ⟨← (← settle r).set setting value, none, false⟩
  | some (.setting setting), none => return ⟨← settle r, some (setting, none), false⟩
  | some _, some _ => throw .surplus
  | some .once, none =>
    let o ← settle r
    switch o.once { o with once := true }
  | some .dryRun, none =>
    let o ← settle r
    switch o.dryRun { o with dryRun := true }
  | some .help, none =>
    let _ ← settle r
    throw .help
  | some .version, none =>
    let _ ← settle r
    throw .version

def readShort (r : Reading) (letter : UInt8) : Except Refusal Reading := do
  if letter = 0x68 then
    let _ ← settle r
    throw .help
  else if letter = 0x56 then
    let _ ← settle r
    throw .version
  else throw .unknown

def readValue (r : Reading) (value : Bytes) : Except Refusal Reading :=
  match r.pending with
  | some (setting, none) => .ok { r with pending := some (setting, some value) }
  | _ => .error .unknown

def dash : UInt8 := 0x2d

def splitValue (bytes : Bytes) : Bytes × Option Bytes :=
  match bytes.span (· ≠ 0x3d) with
  | (name, _ :: value) => (name, some value)
  | (name, []) => (name, none)

def read (r : Reading) (argument : Bytes) : Except Refusal Reading :=
  if r.ended then .error .unknown
  else match argument with
    | [] => readValue r []
    | first :: rest =>
      if first = dash then
        match rest with
        | [] => readValue r argument
        | second :: rest =>
          if second = dash then
            if rest.isEmpty then .ok { r with ended := true }
            else readLong r (splitValue rest).1 (splitValue rest).2
          else readShort r second
      else readValue r argument

def parse (arguments : List Bytes) : Except Refusal Options := do
  settle (← arguments.foldlM read ⟨.empty, none, false⟩)

def Refusal.words : Refusal → String
  | .unknown => "unexpected argument found"
  | .noValue => "a value is missing or not one of the possible values"
  | .badValue => "invalid value"
  | .notText => "invalid UTF-8 was detected in an argument"
  | .again => "an option cannot be used multiple times"
  | .surplus => "unexpected value for a flag"
  | .help => "help requested"
  | .version => "version requested"

def usage : String := "Usage: linstor-monitord [OPTIONS]\n"

def helpText : String :=
  "Enable or disable the LINSTOR controller when this host's pool role changes.\n\n" ++ usage ++
  String.join (["\nOptions:",
    "      --config <PATH>      Path to an optional config file (TOML)",
    "      --watch-file <PATH>  File whose first line declares the node's role",
    "      --interval-ms <MS>   Periodic interval in milliseconds",
    "      --marker <TOKEN>     Role marker that designates the master",
    "      --service <UNIT>     Service to enable on the master and disable elsewhere",
    "      --backend <KIND>     Notification backend (inotify, notify, poll)",
    "      --log-level <LEVEL>  Logging level (error, warn, info, debug, trace)",
    "      --once               Reconcile once based on the current file content, no watching",
    "      --dry-run            Validate and print the resolved settings, " ++
      "but don't touch any service",
    "  -h, --help               Print help",
    "  -V, --version            Print version"].map (· ++ "\n"))

def versionText : String := "linstor-monitord 0.1.0\n"

end Options

end RoleWatch
