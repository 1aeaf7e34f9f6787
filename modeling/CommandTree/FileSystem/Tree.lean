import CommandTree.FileSystem.Access
import CommandTree.FileSystem.Path
import CommandTree.OrderedMap

/-!
# File systems

A file system is a tree of directories and files, together with a working directory from which
relative paths start.

* `FileSystem` is such a tree, `FileSystem.locate` finds the place of a path in it.
* `StateM FileSystem` has access to its files.
* `FileSystem.listing` lists everything below the working directory.
-/

namespace CommandTree

/-- A file or directory. -/
inductive FileNode where
  /-- A file with its text. -/
  | file (text : String)
  /-- A directory with its entries. -/
  | directory (entries : List (String × FileNode))
  deriving Inhabited

namespace FileNode

/-- Whether a node is a file or a directory. -/
def kind : FileNode → FileKind
  | file _ => .file
  | directory _ => .directory

end FileNode

/-- The entries of a directory. -/
abbrev Entries := Members FileNode

namespace Entries

/-- The entries of the directory at a place below. -/
def directoryAt? (entries : Entries) : List String → Option Entries
  | [] => some entries
  | name :: rest =>
    match Members.get? entries name with
    | some (.directory inner) => directoryAt? inner rest
    | _ => none

/-- Changes the entries of the directory at a place below; nothing happens if there is none. -/
def modifyAt (change : Entries → Entries) (entries : Entries) : List String → Entries
  | [] => change entries
  | name :: rest =>
    match Members.get? entries name with
    | some (.directory inner) =>
      Members.insert name (.directory (modifyAt change inner rest)) entries
    | _ => entries

mutual

/-- The paths of a node and everything below it, directories with a slash at the end. -/
def nodePaths (path : String) : FileNode → List String
  | .file _ => [path]
  | .directory entries => (path ++ "/") :: paths (path ++ "/") entries

/-- The paths of some entries and everything below them. -/
def paths (lead : String) : List (String × FileNode) → List String
  | [] => []
  | (name, node) :: rest => nodePaths (lead ++ name) node ++ paths lead rest

end

end Entries

/-- A tree of files with a working directory. -/
structure FileSystem where
  /-- The entries of the root. -/
  root : Entries
  /-- The names that lead from the root to the working directory. -/
  workingDirectory : List String

namespace FileSystem

/-- The file system with nothing but an empty working directory of the given name. -/
def ofWorkingDirectory (name : String) : FileSystem :=
  ⟨[(name, .directory [])], [name]⟩

/-! ### Places -/

/-- Where a path leads. -/
inductive Location where
  /-- To a directory, the place of which is given from the root. -/
  | directory (place : List String)
  /-- To a file in a directory. -/
  | file (parent : List String) (name text : String)
  /-- To an entry that a directory does not have. -/
  | vacant (parent : List String) (name : String)

/-- The greatest number of bytes of a part of a path. -/
def longestName : Nat := 255

/-- The greatest number of bytes of a path. -/
def longestPath : Nat := 4095

/-- Follows the parts of a path from a directory. -/
def follow (root : Entries) (place : List String) : List String → Except FileError Location
  | [] =>
    if (Entries.directoryAt? root place).isSome then .ok (.directory place) else .error .notFound
  | part :: rest =>
    match Entries.directoryAt? root place with
    | none => .error .notFound
    | some entries =>
      if part = "." then follow root place rest
      -- the directory above the root is the root
      else if part = ".." then follow root place.dropLast rest
      else if longestName < part.utf8ByteSize then .error .nameTooLong
      else match Members.get? entries part with
        | some (.directory _) => follow root (place ++ [part]) rest
        | some (.file text) =>
          if rest.isEmpty then .ok (.file place part text) else .error .notADirectory
        | none => if rest.isEmpty then .ok (.vacant place part) else .error .notFound

/-- Finds the place of a path. -/
def locate (fs : FileSystem) (path : String) : Except FileError Location :=
  if path.toList.contains '\x00' then .error .forbiddenCharacter
  else if path.isEmpty then .error .notFound
  else if longestPath < path.utf8ByteSize then .error .nameTooLong
  else follow fs.root (if Path.isAbsolute path then [] else fs.workingDirectory) (Path.parts path)

/-! ### Operations -/

/-- Changes the entries of the directory at a place. -/
def modifyAt (fs : FileSystem) (place : List String) (change : Entries → Entries) : FileSystem :=
  { fs with root := fs.root.modifyAt change place }

/-- What there is at a path, if anything. -/
def kind? (fs : FileSystem) (path : String) : Option FileKind :=
  match fs.locate path with
  | .ok (.directory _) => some .directory
  | .ok (.file ..) => if Path.endsInSlash path then none else some .file
  | _ => none

/-- The text of a file. -/
def read (fs : FileSystem) (path : String) : Except FileError String := do
  match ← fs.locate path with
  | .directory _ => throw .isADirectory
  | .file _ _ text => if Path.endsInSlash path then throw .notADirectory else return text
  | .vacant .. => throw .notFound

/-- Writes a file. -/
def write (fs : FileSystem) (path text : String) : Except FileError FileSystem := do
  match ← fs.locate path with
  | .directory _ => throw .isADirectory
  | .file parent name _ | .vacant parent name =>
    if Path.endsInSlash path then throw .isADirectory
    return fs.modifyAt parent (Members.insert name (.file text))

/-- Makes a directory. -/
def makeDirectory (fs : FileSystem) (path : String) : Except FileError FileSystem := do
  match ← fs.locate path with
  | .directory _ | .file .. => throw .alreadyExists
  | .vacant parent name => return fs.modifyAt parent (Members.insert name (.directory []))

/-- Makes a directory, and before that the directories around it that are missing, of which the last
`levels` ones are made if need be.  An error leaves those that have been made. -/
def makeDirectories (levels : Nat) (fs : FileSystem) (path : String) :
    Except FileError Unit × FileSystem :=
  if path.isEmpty then (.ok (), fs)
  else match fs.makeDirectory path with
    | .ok fs => (.ok (), fs)
    | .error .notFound =>
      match levels, Path.parent? path with
      | levels + 1, some parent =>
        match fs.makeDirectories levels parent with
        | (.ok (), fs) =>
          match fs.makeDirectory path with
          | .ok fs => (.ok (), fs)
          | .error error =>
            if fs.kind? path = some .directory then (.ok (), fs) else (.error error, fs)
        | (.error error, fs) => (.error error, fs)
      | _, _ => (.error .notFound, fs)
    | .error error => if fs.kind? path = some .directory then (.ok (), fs) else (.error error, fs)

/-- Makes a directory and all directories around it that are missing. -/
def makePath (fs : FileSystem) (path : String) : Except FileError Unit × FileSystem :=
  fs.makeDirectories (Path.parts path).length path

/-- Removes a file. -/
def removeFile (fs : FileSystem) (path : String) : Except FileError FileSystem := do
  match ← fs.locate path with
  | .directory _ => throw .isADirectory
  | .file parent name _ =>
    if Path.endsInSlash path then throw .notADirectory
    return fs.modifyAt parent (Members.erase name)
  | .vacant .. => throw .notFound

/-- Removes an empty directory.  The last part of its path must be its name. -/
def removeDirectory (fs : FileSystem) (path : String) : Except FileError FileSystem := do
  match ← fs.locate path with
  | .directory place =>
    if ((fs.root.directoryAt? place).getD []).isEmpty = false then throw .directoryNotEmpty
    match (Path.parts path).getLast? with
    | none => throw .invalidArgument
    | some last =>
      if last = "." then throw .invalidArgument
      else if last = ".." then throw .directoryNotEmpty
      else return fs.modifyAt place.dropLast (Members.erase last)
  | .file .. => throw .notADirectory
  | .vacant .. => throw .notFound

/-- Removes a directory and everything in it.  Its content is gone even if it must stay itself. -/
def removeTree (fs : FileSystem) (path : String) : Except FileError Unit × FileSystem :=
  match fs.locate path with
  | .ok (.directory place) =>
    -- the content goes first, and stays away if the directory itself cannot go
    let fs := fs.modifyAt place fun _ => []
    match fs.removeDirectory path with
    | .ok fs => (.ok (), fs)
    | .error error => (.error error, fs)
  | .ok (.file ..) => (.error .notADirectory, fs)
  | .ok (.vacant ..) => (.error .notFound, fs)
  | .error error => (.error error, fs)

/-- Everything below the working directory, sorted. -/
def listing (fs : FileSystem) : List String :=
  (Entries.paths "" ((fs.root.directoryAt? fs.workingDirectory).getD [])).mergeSort

/-! ### Access -/

/-- An operation that changes nothing if it fails. -/
def update (change : FileSystem → Except FileError FileSystem) :
    StateM FileSystem (Except FileError Unit) := do
  match change (← get) with
  | .ok fs =>
    set fs
    return .ok ()
  | .error error => return .error error

instance : FileAccess (StateM FileSystem) where
  kind? path := do return (← get).kind? path
  read path := do return (← get).read path
  write path text := update fun fs => fs.write path text
  makeDirectory path := update fun fs => fs.makeDirectory path
  removeFile path := update fun fs => fs.removeFile path
  removeTree path := do
    let (result, fs) := (← get).removeTree path
    set fs
    return result

end FileSystem

end CommandTree
