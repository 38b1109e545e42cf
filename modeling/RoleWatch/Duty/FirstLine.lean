import RoleWatch.IoError
import RoleWatch.Text.Bytes

/-!
Reading the first line of a file without reading more of it than it may be long. What an open file
hands out is a list of chunks, one for each read; an empty chunk is the end of the file.
-/
namespace RoleWatch

/-- What one read of an open file gives. -/
inductive Chunk where
  /-- Some bytes; none at the end of the file. -/
  | data (bytes : Bytes)
  | failed (cause : IoError)
  deriving DecidableEq

/-- What successive reads of an open file give; after the last of them, the end of the file. -/
abbrev Source := List Chunk

namespace FirstLine

def newline : UInt8 := 0x0a

def upToNewline : Bytes → Bytes
  | [] => []
  | b :: rest => if b = newline then [b] else b :: upToNewline rest

/-- The rest of a line of which some bytes are there already, within so many more. An interrupted
read is tried again; any other failed read is the answer. -/
def collect (line : Bytes) (room : Nat) : Source → Except IoError Bytes
  | [] => .ok line
  | chunk :: rest =>
    if room = 0 then .ok line
    else match chunk with
      | .failed cause => if cause.kind = .interrupted then collect line room rest else .error cause
      | .data bytes =>
        let taken := bytes.take room
        if taken.isEmpty then .ok line
        else if taken.contains newline then .ok (line ++ upToNewline taken)
        else collect (line ++ taken) (room - taken.length) rest

def nothing : IoError := .worded .unexpectedEof "no line could be read"

/-- The first line, newline included, cut off after a number of bytes. A file with no first line
says nothing, so it is a failure. -/
def read (source : Source) (limit : Nat) : Except IoError Bytes :=
  match collect [] limit source with
  | .ok [] => .error nothing
  | result => result

end FirstLine

end RoleWatch
