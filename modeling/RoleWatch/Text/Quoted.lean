import RoleWatch.Text.Utf8
import RoleWatch.Text.Printable
import RoleWatch.Text.Combining

/-!
Texts and byte strings between quotes, on one line and in printable characters. A backslash
announces what cannot stand for itself; bytes that are no text are written in hexadecimal.
-/
namespace RoleWatch.Quoted

def hexDigits (n : Nat) : List Char := Nat.toDigits 16 n

def hexPair (n : Nat) : List Char := [Nat.digitChar (n / 16), Nat.digitChar (n % 16)]

def hexByte (b : UInt8) : List Char := (hexPair b.toNat).map Char.toUpper

def escape (c : Char) : List Char :=
  if c = '\x00' then ['\\', '0']
  else if c = '\t' then ['\\', 't']
  else if c = '\r' then ['\\', 'r']
  else if c = '\n' then ['\\', 'n']
  else if c = '\\' ∨ c = '"' then ['\\', c]
  else if Combining.isCombining c || !Printable.isPrintable c then
    ['\\', 'u', '\x7b'] ++ hexDigits c.toNat ++ ['\x7d']
  else [c]

def escapePiece : Utf8.Piece → List Char
  | .char c => escape c
  | .broken bytes | .cut bytes => bytes.flatMap fun b => ['\\', 'x'] ++ hexByte b

def text (s : String) : String := String.ofList (['"'] ++ s.toList.flatMap escape ++ ['"'])

def bytes (b : Bytes) : String :=
  String.ofList (['"'] ++ (Utf8.pieces b).flatMap escapePiece ++ ['"'])

end RoleWatch.Quoted
