import RoleWatch.Text.Blank
import RoleWatch.Text.Casing

/-!
The ways to learn of changes, and their names.
-/
namespace RoleWatch

inductive Backend where
  | inotify
  | notify
  | poll
  deriving DecidableEq

namespace Backend

/-- The choice on Linux. -/
def standard : Backend := .inotify

def all : List Backend := [.inotify, .notify, .poll]

def name : Backend → String
  | .inotify => "inotify"
  | .notify => "notify"
  | .poll => "poll"

def ofName? (name : String) : Option Backend := all.find? fun b => b.name = name

/-- The way that a text names, in any case and with white space around it. The text in lower case
is given back if it names none. -/
def parse (text : String) : Except String Backend :=
  let word := Casing.lower (Blank.trim text)
  match ofName? word with
  | some b => .ok b
  | none => .error word

def complaint (word : String) : String :=
  s!"invalid backend: {word} (expected \"inotify\", \"notify\" or \"poll\")"

theorem ofName?_name (b : Backend) : ofName? b.name = some b := by cases b <;> rfl

end Backend

end RoleWatch
