import RoleWatch.Duty.FirstLine
import RoleWatch.Path
import RoleWatch.Watch.Mask

/-!
Files on a disk as an operating system keeps them: objects with numbers, directories that name
them, further names for one file, and symbolic links. A path is followed name by name, and every
change tells which objects it touches, in the order in which watches hear of it.
-/
namespace RoleWatch.Bench

abbrev Inode := Nat

inductive Object where
  | file (content : Bytes) (runs : Bool)
  | directory (names : List (Bytes × Inode))
  | symlink (aim : Path)
  deriving DecidableEq

inductive Signal where
  | heard (inode : Inode) (flag : Flag) (name : Option Bytes) (isDirectory : Bool)
  | freed (inode : Inode)
  deriving DecidableEq

structure Disk where
  objects : List (Inode × Object)
  next : Inode

/-- Where a path leads: the directories above it, the nearest first, the name there, and the
object with that name if there is one. The root and a path that ends in dots have no name. -/
structure Spot where
  above : List Inode
  name : Bytes
  inode : Option Inode

namespace Disk

def root : Inode := 0

def empty : Disk := ⟨[(root, .directory [])], root + 1⟩

def object? (d : Disk) (i : Inode) : Option Object := d.objects.lookup i

def names (d : Disk) (i : Inode) : List (Bytes × Inode) :=
  match d.object? i with
  | some (.directory names) => names
  | _ => []

def stretches (p : Path) : List Bytes :=
  (Bytes.splitOn Path.slash p.bytes).filter (!·.isEmpty) ++
    if p.bytes.getLast? = some Path.slash then [Path.dot] else []

def longestName : Nat := 255

def longestPath : Nat := 4095

def mostLinks : Nat := 40

/-- Follows names downward, through no more than some symbolic links; through one at the end only
if asked to. -/
def walk (d : Disk) (follow : Bool) (links : Nat) (above : List Inode) (path : List Bytes) :
    Except OsError Spot :=
  match path with
  | [] => .ok ⟨above.tail, [], above.head?⟩
  | name :: rest =>
    if name = Path.dot then d.walk follow links above rest
    else if name = Path.dotDot then
      d.walk follow links (if 1 < above.length then above.tail else above) rest
    else if longestName < name.length then .error .nameTooLong
    else match (d.names (above.headD root)).lookup name with
      | none => if rest.isEmpty then .ok ⟨above, name, none⟩ else .error .noEntry
      | some i =>
        match d.object? i, links with
        | some (.symlink aim), links + 1 =>
          if rest.isEmpty && !follow then .ok ⟨above, name, some i⟩
          else
            let start := if aim.isAbsolute then [root] else above
            d.walk follow links start (stretches aim ++ rest)
        | some (.symlink _), 0 =>
          if rest.isEmpty && !follow then .ok ⟨above, name, some i⟩ else .error .tooManyLinks
        | some (.directory _), links =>
          if rest.isEmpty then .ok ⟨above, name, some i⟩
          else d.walk follow links (i :: above) rest
        | _, _ => if rest.isEmpty then .ok ⟨above, name, some i⟩ else .error .notDirectory
termination_by (links, path.length)

def resolve (d : Disk) (follow : Bool) (p : Path) : Except IoError Spot :=
  if p.bytes.contains 0 then
    .error (.worded .invalidInput "file name contained an unexpected NUL byte")
  else if p.bytes.isEmpty then .error (.system .noEntry)
  else if longestPath < p.bytes.length then .error (.system .nameTooLong)
  else (d.walk follow mostLinks [root] (stretches p)).mapError .system

def find (d : Disk) (p : Path) : Except IoError (Inode × Object) := do
  let spot ← d.resolve true p
  match spot.inode.bind fun i => (d.object? i).map fun o => (i, o) with
  | some found => return found
  | none => throw (.system .noEntry)

/-- What an open file hands out; a directory can be opened but not read. -/
def openFile (d : Disk) (p : Path) : Except IoError Source := do
  match ← d.find p with
  | (_, .file content _) => return [.data content]
  | _ => return [.failed (.system .isDirectory)]

def content (d : Disk) (p : Path) : Except IoError Bytes := do
  match ← d.find p with
  | (_, .file content _) => return content
  | _ => throw (.system .isDirectory)

def text (d : Disk) (p : Path) : Except IoError String := do
  match Utf8.decode? (← d.content p) with
  | some text => return text
  | none => throw IoError.notText

def exists? (d : Disk) (p : Path) : Bool := (d.find p).toOption.isSome

def isFile (d : Disk) (p : Path) : Bool :=
  match d.find p with
  | .ok (_, .file _ _) => true
  | _ => false

def isDirectory (d : Disk) (p : Path) : Bool :=
  match d.find p with
  | .ok (_, .directory _) => true
  | _ => false

/-! Changes. -/

abbrev Change := Except IoError (Disk × List Signal)

def setObject (d : Disk) (i : Inode) (o : Object) : Disk :=
  { d with objects := d.objects.map fun entry => if entry.1 = i then (i, o) else entry }

def setNames (d : Disk) (i : Inode) (names : List (Bytes × Inode)) : Disk :=
  d.setObject i (.directory names)

def home (spot : Spot) : Inode := spot.above.headD root

def addName (d : Disk) (spot : Spot) (i : Inode) : Disk :=
  d.setNames (home spot) (d.names (home spot) ++ [(spot.name, i)])

def removeName (d : Disk) (spot : Spot) : Disk :=
  d.setNames (home spot) ((d.names (home spot)).filter fun entry => entry.1 ≠ spot.name)

def isNamed (d : Disk) (i : Inode) : Bool :=
  d.objects.any fun (_, o) =>
    match o with
    | .directory names => names.any fun entry => entry.2 = i
    | _ => false

def free (d : Disk) (i : Inode) : Disk × List Signal :=
  if d.isNamed i then (d, [])
  else ({ d with objects := d.objects.filter fun entry => entry.1 ≠ i }, [.freed i])

def holdsNames (d : Disk) (i : Inode) : Bool :=
  match d.object? i with
  | some (.directory _) => true
  | _ => false

def childSignal (spot : Spot) (flag : Flag) (isDirectory : Bool) : Signal :=
  .heard (home spot) flag (some spot.name) isDirectory

def written (spot : Spot) (i : Inode) : List Signal :=
  [childSignal spot .modify false, .heard i .modify none false]

def create (d : Disk) (spot : Spot) (o : Object) : Disk × Inode × List Signal :=
  let isDirectory := match o with
    | .directory _ => true
    | _ => false
  let d' : Disk := ⟨d.objects ++ [(d.next, o)], d.next + 1⟩
  (d'.addName spot d.next, d.next, [childSignal spot .create isDirectory])

def write (d : Disk) (p : Path) (content : Bytes) (runs : Bool) : Change := do
  let spot ← d.resolve true p
  let flow (i : Inode) : List Signal := if content.isEmpty then [] else written spot i
  match spot.inode with
  | none =>
    let (d, i, signals) := d.create spot (.file content runs)
    return (d, signals ++ flow i)
  | some i =>
    match d.object? i with
    | some (.file _ _) => return (d.setObject i (.file content runs), written spot i ++ flow i)
    | _ => throw (.system .isDirectory)

def append (d : Disk) (p : Path) (content : Bytes) : Change := do
  let spot ← d.resolve true p
  match spot.inode with
  | none => throw (.system .noEntry)
  | some i =>
    match d.object? i with
    | some (.file old runs) =>
      return (d.setObject i (.file (old ++ content) runs),
        if content.isEmpty then [] else written spot i)
    | _ => throw (.system .isDirectory)

/-- Where a path without slashes at its end leads; with some it has to be a directory. -/
def resolveEntry (d : Disk) (p : Path) : Except IoError Spot := do
  let bare : Path := ⟨(p.bytes.reverse.dropWhile (· = Path.slash)).reverse⟩
  let spot ← d.resolve false (if bare.bytes.isEmpty then p else bare)
  let slashed := bare.bytes.length < p.bytes.length
  if slashed && (spot.inode.map fun i => !d.holdsNames i).getD false then
    throw (.system .notDirectory)
  return spot

def makeDirectory (d : Disk) (p : Path) : Change := do
  let spot ← d.resolveEntry p
  if spot.inode.isSome then throw (.system .exists)
  let (d, _, signals) := d.create spot (.directory [])
  return (d, signals)

def makeAbove (d : Disk) : Nat → Path → Change
  | 0, _ => .ok (d, [])
  | most + 1, p =>
    if p.bytes.isEmpty then .ok (d, [])
    else match d.makeDirectory p with
      | .ok change => .ok change
      | .error cause =>
        if cause.kind ≠ .notFound then
          if d.isDirectory p then .ok (d, []) else .error cause
        else do
          let (d, above) ← d.makeAbove most (p.parent?.getD ⟨[]⟩)
          match d.makeDirectory p with
          | .ok (d, signals) => return (d, above ++ signals)
          | .error cause => if d.isDirectory p then return (d, above) else throw cause

def makeDirectories (d : Disk) (p : Path) : Change := d.makeAbove (p.bytes.length + 1) p

def drop (d : Disk) (spot : Spot) (i : Inode) : Disk × List Signal :=
  let isDirectory := d.holdsNames i
  let (d, freed) := (d.removeName spot).free i
  (d, freed ++ [childSignal spot .delete isDirectory])

def remove (d : Disk) (p : Path) : Change := do
  let spot ← d.resolve false p
  match spot.inode with
  | none => throw (.system .noEntry)
  | some i => if d.holdsNames i then throw (.system .isDirectory) else return d.drop spot i

/-- Removes an object with everything below it, no deeper than some levels. -/
def dropAll (d : Disk) : Nat → Spot → Inode → Disk × List Signal
  | 0, _, _ => (d, [])
  | depth + 1, spot, i =>
    let (d, signals) := (d.names i).foldl (fun (d, signals) (name, child) =>
      let (d, more) := d.dropAll depth ⟨i :: spot.above, name, some child⟩ child
      (d, signals ++ more)) (d, [])
    let (d, more) := d.drop spot i
    (d, signals ++ more)

def removeAll (d : Disk) (p : Path) : Change := do
  let spot ← d.resolveEntry p
  match spot.inode with
  | none => throw (.system .noEntry)
  | some i =>
    match d.object? i with
    | some (.file _ _) => throw (.system .notDirectory)
    | _ =>
      if spot.name.isEmpty then throw (.system .invalidArgument)
      else return d.dropAll d.objects.length spot i

def clash? (d : Disk) (mover held : Inode) : Option OsError :=
  if d.holdsNames mover then
    if !d.holdsNames held then some .notDirectory
    else if (d.names held).isEmpty then none else some .notEmpty
  else if d.holdsNames held then some .isDirectory else none

def rename (d : Disk) (source target : Path) : Change := do
  let origin ← d.resolveEntry source
  let goal ← d.resolveEntry target
  match origin.inode with
  | none => throw (.system .noEntry)
  | some i =>
    if !d.holdsNames i && target.bytes.getLast? = some Path.slash then
      throw (.system .notDirectory)
    if origin.name.isEmpty || goal.name.isEmpty || goal.above.contains i then
      throw (.system .invalidArgument)
    if goal.inode.any origin.above.contains then throw (.system .notEmpty)
    if goal.inode = some i then return (d, [])
    if let some reason := goal.inode.bind (d.clash? i) then throw (.system reason)
    let isDirectory := d.holdsNames i
    let d := ((d.removeName origin).removeName goal).addName goal i
    let (d, freed) := match goal.inode with
      | none => (d, [])
      | some held => d.free held
    return (d, [childSignal origin .movedFrom isDirectory, childSignal goal .movedTo isDirectory,
      .heard i .moveSelf none isDirectory] ++ freed)

def link (d : Disk) (source target : Path) : Change := do
  match (← d.resolveEntry source).inode with
  | none => throw (.system .noEntry)
  | some i =>
    let goal ← d.resolveEntry target
    if goal.inode.isSome then throw (.system .exists)
    if d.holdsNames i then throw (.system .notPermitted)
    return (d.addName goal i, [childSignal goal .create false])

def symlink (d : Disk) (aim place : Path) : Change := do
  if aim.bytes.isEmpty then throw (.system .noEntry)
  let spot ← d.resolveEntry place
  if spot.inode.isSome then throw (.system .exists)
  let (d, _, signals) := d.create spot (.symlink aim)
  return (d, signals)

end Disk

end RoleWatch.Bench
