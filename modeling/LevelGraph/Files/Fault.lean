/-!
# Faults of files and directories

What can go wrong when a file is read or a directory is made, worded as people know it
from other programs.
-/

namespace LevelGraph

/-- Why a file is not read or a directory not made. -/
inductive FileFault where
  /-- There is nothing of the name. -/
  | notFound
  /-- There is something of the name already. -/
  | alreadyExists
  /-- A name on the way is no directory. -/
  | notADirectory
  /-- A directory is no file. -/
  | isADirectory
  /-- A name or the whole path has too many bytes. -/
  | nameTooLong
  /-- A path holds a NUL. -/
  | nulInPath
  /-- The file is no text. -/
  | notText
  /-- Anything else, as it was reported. -/
  | other (report : String)
  deriving DecidableEq

/-- What is wrong, in words. -/
def FileFault.message : FileFault → String
  | .notFound => "No such file or directory (os error 2)"
  | .alreadyExists => "File exists (os error 17)"
  | .notADirectory => "Not a directory (os error 20)"
  | .isADirectory => "Is a directory (os error 21)"
  | .nameTooLong => "File name too long (os error 36)"
  | .nulInPath => "file name contained an unexpected NUL byte"
  | .notText => "stream did not contain valid UTF-8"
  | .other report => report

end LevelGraph
