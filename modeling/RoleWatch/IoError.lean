/-!
Failures of single calls on files, watches and processes: a kind by itself, a kind with words of
its own, or a number from the operating system.
-/
namespace RoleWatch

inductive IoError.Kind where
  | notFound
  | permissionDenied
  | connectionRefused
  | alreadyExists
  | wouldBlock
  | notADirectory
  | isADirectory
  | directoryNotEmpty
  | filesystemLoop
  | invalidFilename
  | invalidInput
  | invalidData
  | timedOut
  | interrupted
  | unsupported
  | unexpectedEof
  | outOfMemory
  | brokenPipe
  | other
  deriving DecidableEq

inductive OsError where
  | notPermitted
  | noEntry
  | accessDenied
  | exists
  | notDirectory
  | isDirectory
  | invalidArgument
  | nameTooLong
  | notEmpty
  | tooManyLinks
  deriving DecidableEq

namespace OsError

def number : OsError → Nat
  | .notPermitted => 1
  | .noEntry => 2
  | .accessDenied => 13
  | .exists => 17
  | .notDirectory => 20
  | .isDirectory => 21
  | .invalidArgument => 22
  | .nameTooLong => 36
  | .notEmpty => 39
  | .tooManyLinks => 40

def words : OsError → String
  | .notPermitted => "Operation not permitted"
  | .noEntry => "No such file or directory"
  | .accessDenied => "Permission denied"
  | .exists => "File exists"
  | .notDirectory => "Not a directory"
  | .isDirectory => "Is a directory"
  | .invalidArgument => "Invalid argument"
  | .nameTooLong => "File name too long"
  | .notEmpty => "Directory not empty"
  | .tooManyLinks => "Too many levels of symbolic links"

def kind : OsError → IoError.Kind
  | .notPermitted => .permissionDenied
  | .noEntry => .notFound
  | .accessDenied => .permissionDenied
  | .exists => .alreadyExists
  | .notDirectory => .notADirectory
  | .isDirectory => .isADirectory
  | .invalidArgument => .invalidInput
  | .nameTooLong => .invalidFilename
  | .notEmpty => .directoryNotEmpty
  | .tooManyLinks => .filesystemLoop

end OsError

inductive IoError where
  | bare (kind : IoError.Kind)
  | worded (kind : IoError.Kind) (words : String)
  | system (reason : OsError)
  deriving DecidableEq

namespace IoError

def Kind.words : Kind → String
  | .notFound => "entity not found"
  | .permissionDenied => "permission denied"
  | .connectionRefused => "connection refused"
  | .alreadyExists => "entity already exists"
  | .wouldBlock => "operation would block"
  | .notADirectory => "not a directory"
  | .isADirectory => "is a directory"
  | .directoryNotEmpty => "directory not empty"
  | .filesystemLoop => "filesystem loop or indirection limit (e.g. symlink loop)"
  | .invalidFilename => "invalid filename"
  | .invalidInput => "invalid input parameter"
  | .invalidData => "invalid data"
  | .timedOut => "timed out"
  | .interrupted => "operation interrupted"
  | .unsupported => "unsupported"
  | .unexpectedEof => "unexpected end of file"
  | .outOfMemory => "out of memory"
  | .brokenPipe => "broken pipe"
  | .other => "other error"

def kind : IoError → Kind
  | .bare kind => kind
  | .worded kind _ => kind
  | .system reason => reason.kind

def message : IoError → String
  | .bare kind => kind.words
  | .worded _ words => words
  | .system reason => s!"{reason.words} (os error {reason.number})"

def notText : IoError := .worded .invalidData "stream did not contain valid UTF-8"

end IoError

end RoleWatch
