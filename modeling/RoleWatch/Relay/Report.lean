import RoleWatch.IoError
import RoleWatch.Path
import RoleWatch.Text.Record

/-!
What a path watcher tells: reports that name paths rather than registrations, and troubles.
-/
namespace RoleWatch.Relay

inductive Way where
  | source
  | target
  /-- The first path is the old name and the next the new one. -/
  | both
  | unknown
  | other
  deriving DecidableEq

inductive Attribute where
  | any
  | accessTime
  | writeTime
  | permissions
  | owner
  | extended
  | other
  deriving DecidableEq

/-- What happened, as far as the watcher can tell. -/
inductive Happening where
  | unknown
  | other
  | access
  | create
  | remove
  | rename (way : Way)
  | attribute (which : Attribute)
  | content
  | modify
  | modifyOther
  deriving DecidableEq

structure Report where
  happening : Happening
  paths : List Path
  /-- Whether reports were lost, so that everything has to be looked at again. -/
  rescan : Bool
  deriving DecidableEq

inductive Trouble.Kind where
  | worded (words : String)
  | io (cause : IoError)
  /-- The watcher does not take the settings it is given, here as they are written out. -/
  | unfit (settings : String)
  | pathNotFound
  | watchNotFound
  | tooMany
  deriving DecidableEq

structure Trouble where
  kind : Trouble.Kind
  paths : List Path
  deriving DecidableEq

namespace Trouble

def Kind.words : Kind → String
  | .worded words => words
  | .io cause => cause.message
  | .unfit settings => s!"Invalid configuration: {settings}"
  | .pathNotFound => "No path was found."
  | .watchNotFound => "No watch was found."
  | .tooMany => "OS file watch limit reached."

def message (t : Trouble) : String :=
  t.kind.words ++
    if t.paths.isEmpty then "" else " about " ++ Record.list (t.paths.map Path.quoted)

def failedCall (t : Trouble) : IoError :=
  match t.kind with
  | .worded words => .worded .other (Record.tagged "Generic" (Quoted.text words))
  | .io cause => cause
  | .unfit settings => .worded .other (Record.tagged "InvalidConfig" settings)
  | .pathNotFound => .worded .notFound "path not found"
  | .watchNotFound => .worded .notFound "watch not found"
  | .tooMany => .worded .other "MaxFilesWatch"

end Trouble

end RoleWatch.Relay
