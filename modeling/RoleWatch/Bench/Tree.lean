import RoleWatch.Duty.FirstLine
import RoleWatch.Path

/-!
Files and directories held in memory, found by the parts of their paths. A file or directory that
is added brings the directories above it along; a removal takes everything below along.
-/
namespace RoleWatch.Bench

inductive Node where
  | file (content : Bytes)
  | directory
  deriving DecidableEq

abbrev Place := List Path.Part

namespace Place

/-- The place above; the root and the empty place have none. -/
def above? (place : Place) : Option Place :=
  match place.getLast? with
  | none | some .root => none
  | some _ => some place.dropLast

theorem length_above? {place above : Place} (h : place.above? = some above) :
    above.length < place.length := by
  unfold above? at h
  split at h
  · simp at h
  · simp at h
  · rename_i last
    have nonempty : place ≠ [] := by
      rintro rfl
      simp at last
    have positive := List.length_pos_iff.2 nonempty
    obtain rfl := Option.some.inj h
    simp only [List.length_dropLast]
    omega

end Place

structure Tree where
  /-- What stands where; of two entries for one place the first counts. -/
  nodes : List (Place × Node)
  deriving DecidableEq

namespace Tree

def bare : Tree := ⟨[]⟩

def empty : Tree := ⟨[([.root], .directory)]⟩

def at? (t : Tree) (place : Place) : Option Node := t.nodes.lookup place

def get? (t : Tree) (p : Path) : Option Node := t.at? p.parts

def exists? (t : Tree) (p : Path) : Bool := (t.get? p).isSome

def isFile (t : Tree) (p : Path) : Bool :=
  match t.get? p with
  | some (.file _) => true
  | _ => false

def isDirectory (t : Tree) (p : Path) : Bool := t.get? p = some .directory

def put (t : Tree) (place : Place) (node : Node) : Tree :=
  ⟨(place, node) :: t.nodes.filter fun entry => entry.1 ≠ place⟩

/-- The tree with a directory at a place, and with those above it, unless something is there. -/
def ensure (t : Tree) (place : Place) : Tree :=
  if (t.at? place).isSome then t
  else match _found : place.above? with
    | none => t.put place .directory
    | some above => (t.put place .directory).ensure above
termination_by place.length
decreasing_by exact Place.length_above? _found

def addDirectory (t : Tree) (p : Path) : Tree := t.ensure p.parts

/-- The tree with a file at a path, in place of what was there. -/
def addFile (t : Tree) (p : Path) (content : Bytes) : Tree :=
  let grown := match Place.above? p.parts with
    | none => t
    | some above => t.ensure above
  grown.put p.parts (.file content)

/-- The tree without what stands at a path and below it; none if nothing stands there. -/
def remove? (t : Tree) (p : Path) : Option Tree :=
  if t.exists? p then some ⟨t.nodes.filter fun entry => !p.parts.isPrefixOf entry.1⟩ else none

def rename (t : Tree) (source target : Path) : Except IoError Tree :=
  match t.get? source with
  | some (.file content) => .ok (((t.remove? source).getD t).addFile target content)
  | _ => .error (.worded .notFound s!"no such file: {source.quoted}")

def content (t : Tree) (p : Path) : Except IoError Bytes :=
  match t.get? p with
  | some (.file content) => .ok content
  | some .directory => .error (.worded .other s!"Is a directory: {p.quoted}")
  | none => .error (.worded .notFound s!"File not found: {p.quoted}")

def openFile (t : Tree) (p : Path) : Except IoError Source :=
  (t.content p).map fun content => [.data content]

def text (t : Tree) (p : Path) : Except IoError String := do
  match Utf8.decode (← t.content p) with
  | .ok text => .ok text
  | .error defect => .error (.worded .invalidData defect.message)

end Tree

end RoleWatch.Bench
