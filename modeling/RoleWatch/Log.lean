import RoleWatch.Text.Quoted
import RoleWatch.Text.Blank
import RoleWatch.Text.Casing
import RoleWatch.Text.Unsigned

/-!
Log entries and how much of them is kept. An entry is a message with named fields; a level asked
for on the command line outweighs one from the environment.
-/
namespace RoleWatch.Log

inductive Level where
  | error
  | warn
  | info
  | debug
  | trace
  deriving DecidableEq

namespace Level

def all : List Level := [.error, .warn, .info, .debug, .trace]

def number : Level → Nat
  | .error => 1
  | .warn => 2
  | .info => 3
  | .debug => 4
  | .trace => 5

def name : Level → String
  | .error => "ERROR"
  | .warn => "WARN"
  | .info => "INFO"
  | .debug => "DEBUG"
  | .trace => "TRACE"

/-- The level that a text names, in any ASCII case and with a second name for warnings, or by its
number. -/
def parse? (text : String) : Option Level :=
  let word := Blank.trim text
  if Casing.sameIgnoringAsciiCase word "warning" then some .warn
  else match Unsigned.parse? word with
    | some n => all.find? fun level => level.number = n
    | none => all.find? fun level => Casing.sameIgnoringAsciiCase word level.name

/-- The level in force: the one asked for, else the one the environment names, else `info`. -/
def resolve (asked : Option Level) (environment : Option String) : Level :=
  (asked <|> environment.bind parse?).getD .info

end Level

inductive Value where
  | shown (text : String)
  | word (text : String)
  deriving DecidableEq

def Value.text : Value → String
  | .shown text | .word text => text

structure Entry where
  level : Level
  message : String
  fields : List (String × Value)
  deriving DecidableEq

namespace Entry

def line (e : Entry) : String :=
  String.intercalate " " <|
    [e.level.name, e.message] ++ e.fields.map fun (key, value) => key ++ "=" ++ value.text

/-- A character of a message such that a terminal takes it for no command. -/
def disarm (c : Char) : List Char :=
  if c.toNat ∈ [0x1b, 0x07, 0x08, 0x0c, 0x7f] then ['\\', 'x'] ++ Quoted.hexPair c.toNat
  else if 0x80 ≤ c.toNat ∧ c.toNat ≤ 0x9f then
    ['\\', 'u', '\x7b'] ++ Quoted.hexDigits c.toNat ++ ['\x7d']
  else [c]

def journal (e : Entry) : String :=
  let value : Value → String
    | .shown text => text
    | .word text => Quoted.text text
  String.intercalate " " <|
    [e.level.name, String.ofList (e.message.toList.flatMap disarm)] ++
      e.fields.map fun (key, v) => key ++ "=" ++ value v

end Entry

def keep (level : Level) (entries : List Entry) : List Entry :=
  entries.filter fun e => e.level.number ≤ level.number

end RoleWatch.Log
