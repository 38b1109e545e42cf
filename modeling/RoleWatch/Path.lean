import RoleWatch.Text.Quoted

/-!
Paths as byte strings, and the parts they are made of. Repeated and trailing slashes and a dot
that is not in front say nothing, so two spellings may name the same parts; a double dot is a
part of its own and is never resolved.
-/
namespace RoleWatch

/-- A path as it is spelled. -/
structure Path where
  bytes : Bytes
  deriving DecidableEq

namespace Path

inductive Part where
  | root
  | here
  | up
  | name (bytes : Bytes)
  deriving DecidableEq

def slash : UInt8 := 0x2f

def dot : Bytes := [0x2e]

def dotDot : Bytes := [0x2e, 0x2e]

def ofText (text : String) : Path := ⟨Bytes.ofText text⟩

def display (p : Path) : String := Utf8.display p.bytes

def quoted (p : Path) : String := Quoted.bytes p.bytes

def isAbsolute (p : Path) : Bool := p.bytes.head? == some slash

/-- Whether a stretch between slashes says nothing when it is not in front. -/
def isFiller (segment : Bytes) : Bool := segment.isEmpty || segment == dot

/-- The part that a stretch between slashes stands for, when it is not in front. -/
def Part.ofSegment? (segment : Bytes) : Option Part :=
  if isFiller segment then none
  else if segment = dotDot then some .up
  else some (.name segment)

def frontPart? (rooted : Bool) (segment : Bytes) : Option Part :=
  if rooted then some .root
  else if segment = dot then some .here
  else Part.ofSegment? segment

/-- The stretch before the first slash, and those after it. -/
def segments (p : Path) : Bytes × List Bytes :=
  match Bytes.splitOn slash p.bytes with
  | [] => ([], [])
  | front :: rest => (front, rest)

def parts (p : Path) : List Part :=
  let (front, rest) := p.segments
  (frontPart? p.isAbsolute front).toList ++ rest.filterMap Part.ofSegment?

def same (p q : Path) : Bool := p.parts = q.parts

/-- Whether a path is a directory's own or one of those below it. -/
def isWithin (p dir : Path) : Bool := dir.parts.isPrefixOf p.parts

def fileName? (p : Path) : Option Bytes :=
  match p.parts.getLast? with
  | some (.name bytes) => some bytes
  | _ => none

def trimFiller (segments : List Bytes) : List Bytes :=
  (segments.reverse.dropWhile isFiller).reverse

/-- The path without its last part, as it was spelled up to there; the root and the empty path
have none. -/
def parent? (p : Path) : Option Path :=
  let (front, rest) := p.segments
  match (trimFiller rest).dropLast, (trimFiller rest).isEmpty with
  | _, true => if p.isAbsolute || p.bytes.isEmpty then none else some ⟨[]⟩
  | kept, false =>
    match trimFiller kept with
    | [] => if p.isAbsolute then some ⟨[slash]⟩ else some ⟨front⟩
    | left => some ⟨Bytes.joinWith slash (front :: left)⟩

@[simp] theorem same_iff {p q : Path} : p.same q = true ↔ p.parts = q.parts := by
  simp [same]

theorem isWithin_iff {p dir : Path} : p.isWithin dir = true ↔ dir.parts <+: p.parts := by
  simp [isWithin]

end Path

end RoleWatch
