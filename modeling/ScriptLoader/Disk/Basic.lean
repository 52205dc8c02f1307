/-!
# The disk

What the program asks of a disk: the text of a file, and whether a path is a file. A disk
is a value; where it may change between two steps, each step is given its own.
-/

namespace ScriptLoader

/-- Why the disk did not give what it was asked for. -/
inductive DiskError where
  | notFound
  | isDirectory
  | notDirectory
  | nameTooLong
  | nulInPath
  | notText
  /-- Any other cause, in the words of the system. -/
  | other (message : String)
  deriving DecidableEq, Repr

/-- The words for a cause. -/
def DiskError.message : DiskError → String
  | notFound => "No such file or directory (os error 2)"
  | isDirectory => "Is a directory (os error 21)"
  | notDirectory => "Not a directory (os error 20)"
  | nameTooLong => "File name too long (os error 36)"
  | nulInPath => "file name contained an unexpected NUL byte"
  | notText => "stream did not contain valid UTF-8"
  | other message => message

/-- A disk at one moment. -/
structure Disk where
  /-- The text of the file at a path. -/
  read : String → Except DiskError String
  /-- Whether a path names a file. -/
  isFile : String → Bool

end ScriptLoader
