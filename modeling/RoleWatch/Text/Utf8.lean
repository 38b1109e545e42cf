import RoleWatch.Text.Bytes

/-!
Reading bytes as UTF-8. Bytes that are no text are kept apart from the characters around them:
an ill-formed sequence ends where no character could start with it any more, so what follows is
read afresh.
-/
namespace RoleWatch.Utf8

inductive Piece where
  | char (c : Char)
  | broken (bytes : Bytes)
  /-- The beginning of a character that the end of the bytes cuts off. -/
  | cut (bytes : Bytes)
  deriving DecidableEq

def Piece.char? : Piece → Option Char
  | .char c => some c
  | _ => none

def Piece.shown : Piece → Char
  | .char c => c
  | _ => '\ufffd'

/-- A character begun but not finished. -/
structure Partial where
  seen : Bytes
  code : Nat
  owed : Nat
  low : UInt8
  high : UInt8

def start (b : UInt8) : List Piece × Option Partial :=
  let wait (code owed : Nat) (low high : UInt8) := ([], some ⟨[b], code, owed, low, high⟩)
  let bits (n : Nat) := b.toNat % n
  if b < 0x80 then ([.char (Char.ofNat b.toNat)], none)
  else if b < 0xC2 then ([.broken [b]], none)
  else if b < 0xE0 then wait (bits 32) 0 0x80 0xBF
  else if b = 0xE0 then wait 0 1 0xA0 0xBF
  else if b = 0xED then wait (bits 16) 1 0x80 0x9F
  else if b < 0xF0 then wait (bits 16) 1 0x80 0xBF
  else if b = 0xF0 then wait 0 2 0x90 0xBF
  else if b < 0xF4 then wait (bits 8) 2 0x80 0xBF
  else if b = 0xF4 then wait (bits 8) 2 0x80 0x8F
  else ([.broken [b]], none)

def resume (p : Partial) (b : UInt8) : List Piece × Option Partial :=
  if p.low ≤ b ∧ b ≤ p.high then
    let code := p.code * 64 + b.toNat % 64
    match p.owed with
    | 0 => ([.char (Char.ofNat code)], none)
    | owed + 1 => ([], some ⟨p.seen ++ [b], code, owed, 0x80, 0xBF⟩)
  else
    let (pieces, next) := start b
    (.broken p.seen :: pieces, next)

def piecesFrom : Option Partial → Bytes → List Piece
  | none, [] => []
  | some p, [] => [.cut p.seen]
  | state, b :: rest =>
    let (pieces, next) := match state with
      | none => start b
      | some p => resume p b
    pieces ++ piecesFrom next rest

def pieces (bytes : Bytes) : List Piece := piecesFrom none bytes

def decode? (bytes : Bytes) : Option String :=
  ((pieces bytes).mapM Piece.char?).map String.ofList

/-- The text shown for the bytes: U+FFFD stands for each ill-formed stretch. -/
def display (bytes : Bytes) : String :=
  String.ofList ((pieces bytes).map Piece.shown)

inductive Defect where
  | invalid (width offset : Nat)
  | incomplete (offset : Nat)
  deriving DecidableEq

def Defect.message : Defect → String
  | .invalid width offset => s!"invalid utf-8 sequence of {width} bytes from index {offset}"
  | .incomplete offset => s!"incomplete utf-8 byte sequence from index {offset}"

def firstDefect (offset : Nat) : List Piece → Option Defect
  | [] => none
  | .char c :: rest => firstDefect (offset + c.utf8Size) rest
  | .broken bytes :: _ => some (.invalid bytes.length offset)
  | .cut _ :: _ => some (.incomplete offset)

def decode (bytes : Bytes) : Except Defect String :=
  match firstDefect 0 (pieces bytes) with
  | some defect => .error defect
  | none => .ok (display bytes)

end RoleWatch.Utf8
