/-!
# Access to files

What a program may do with files, and what can go wrong.

* `FileError` is why something cannot be done.
* `FileAccess` is the class of the monads in which files can be reached.
-/

namespace CommandTree

/-- Why something cannot be done with a path. -/
inductive FileError where
  /-- There is nothing at the path. -/
  | notFound
  /-- A part of the path that should be a directory is a file. -/
  | notADirectory
  /-- There is a directory at the path. -/
  | isADirectory
  /-- There is something at the path. -/
  | alreadyExists
  /-- A directory is not empty. -/
  | directoryNotEmpty
  /-- The path or a part of it is too long. -/
  | nameTooLong
  /-- The path has a character that no path may have. -/
  | forbiddenCharacter
  /-- The path cannot be used in this way. -/
  | invalidArgument
  /-- Something else, in words. -/
  | other (description : String)
  deriving DecidableEq, Repr

/-- The error in words. -/
def FileError.message : FileError → String
  | notFound => "No such file or directory (os error 2)"
  | notADirectory => "Not a directory (os error 20)"
  | isADirectory => "Is a directory (os error 21)"
  | alreadyExists => "File exists (os error 17)"
  | directoryNotEmpty => "Directory not empty (os error 39)"
  | nameTooLong => "File name too long (os error 36)"
  | forbiddenCharacter => "file name contained an unexpected NUL byte"
  | invalidArgument => "Invalid argument (os error 22)"
  | other description => description

/-- What there is at a path. -/
inductive FileKind where
  /-- A file. -/
  | file
  /-- A directory. -/
  | directory
  deriving DecidableEq, Repr

/-- Access to the files of a system. -/
class FileAccess (m : Type → Type) where
  /-- What there is at a path, if anything. -/
  kind? (path : String) : m (Option FileKind)
  /-- The text of a file. -/
  read (path : String) : m (Except FileError String)
  /-- Writes a file, in place of the one at the path if there is one. -/
  write (path text : String) : m (Except FileError Unit)
  /-- Makes a directory. -/
  makeDirectory (path : String) : m (Except FileError Unit)
  /-- Removes a file. -/
  removeFile (path : String) : m (Except FileError Unit)
  /-- Removes a directory and everything in it. -/
  removeTree (path : String) : m (Except FileError Unit)

end CommandTree
