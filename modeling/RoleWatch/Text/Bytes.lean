/-!
Byte strings. File contents, paths and child names are bytes and need not be text; a text is
used as bytes through its UTF-8 form.
-/
namespace RoleWatch

/-- A string of bytes, not necessarily the encoding of any text. -/
abbrev Bytes := List UInt8

namespace Bytes

def ofText (text : String) : Bytes :=
  text.toList.flatMap String.utf8EncodeChar

def splitOn (separator : UInt8) : Bytes → List Bytes
  | [] => [[]]
  | b :: rest =>
    if b = separator then [] :: splitOn separator rest
    else match splitOn separator rest with
      | [] => [[b]]
      | piece :: pieces => (b :: piece) :: pieces

def joinWith (separator : UInt8) : List Bytes → Bytes
  | [] => []
  | [piece] => piece
  | piece :: pieces => piece ++ separator :: joinWith separator pieces

theorem splitOn_ne_nil (separator : UInt8) (b : Bytes) : splitOn separator b ≠ [] := by
  cases b with
  | nil => simp [splitOn]
  | cons x rest =>
    unfold splitOn
    split
    · simp
    · split <;> simp

theorem joinWith_splitOn (separator : UInt8) (b : Bytes) :
    joinWith separator (splitOn separator b) = b := by
  induction b with
  | nil => rfl
  | cons x rest ih =>
    have nonempty := splitOn_ne_nil separator rest
    unfold splitOn
    split
    · rename_i hit
      cases pieces : splitOn separator rest with
      | nil => exact absurd pieces nonempty
      | cons piece more => rw [pieces] at ih; simp [joinWith, ih, hit]
    · cases pieces : splitOn separator rest with
      | nil => exact absurd pieces nonempty
      | cons piece more =>
        rw [pieces] at ih
        cases more with
        | nil => simp_all [joinWith]
        | cons _ _ => simp_all [joinWith]

end Bytes

end RoleWatch
