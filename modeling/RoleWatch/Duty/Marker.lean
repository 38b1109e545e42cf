import RoleWatch.Failure
import RoleWatch.Text.Blank

/-!
The token that declares a master. It counts only at the very start of the first line and only as a
whole word: the line ends after it or goes on with a separator.
-/
namespace RoleWatch

/-- What this node is to the pool. -/
inductive Role where
  | master
  | standby
  deriving DecidableEq

def Role.name : Role → String
  | .master => "master"
  | .standby => "standby"

/-- A token that is not empty and holds no white space. -/
structure Marker where
  text : String
  nonempty : text ≠ ""
  noBlank : text.toList.any Blank.isBlank = false
  deriving DecidableEq

namespace Marker

def ofText (text : String) : Except Objection Marker :=
  if token : text ≠ "" ∧ text.toList.any Blank.isBlank = false then
    .ok ⟨text, token.1, token.2⟩
  else .error (.badMarker text)

/-- The bytes that may follow the marker on a line. -/
def separators : Bytes := [0x20, 0x09, 0x0a, 0x0b, 0x0c, 0x0d, 0x00]

def stripFront? : Bytes → Bytes → Option Bytes
  | [], line => some line
  | _ :: _, [] => none
  | b :: front, c :: line => if b = c then stripFront? front line else none

def endsWord : Bytes → Bool
  | [] => true
  | b :: _ => separators.contains b

def roleOf (marker : Marker) (line : Bytes) : Role :=
  match stripFront? (Bytes.ofText marker.text) line with
  | some rest => if endsWord rest then .master else .standby
  | none => .standby

theorem stripFront?_eq_some_iff {front line rest : Bytes} :
    stripFront? front line = some rest ↔ line = front ++ rest := by
  induction front generalizing line with
  | nil => simp [stripFront?, eq_comm]
  | cons b front ih =>
    cases line with
    | nil => simp [stripFront?]
    | cons c line =>
      by_cases agree : b = c
      · simp [stripFront?, agree, ih]
      · simp [stripFront?, agree, eq_comm]

end Marker

end RoleWatch
