/-!
# Paths

A path is a text whose parts are separated by slashes.  It is absolute if it starts with a slash.
A single dot is the directory it stands in, two dots are the directory above that.

* `Path.parts` are the parts of a path, `Path.join` puts a path behind another one.
* `Path.fileName?` and `Path.extension?` take the last part apart.
-/

namespace CommandTree

namespace Path

/-- The texts between the slashes of a text. -/
def pieces : List Char → List (List Char)
  | [] => [[]]
  | c :: rest =>
    if c = '/' then [] :: pieces rest
    else match pieces rest with
      | [] => [[c]]
      | piece :: more => (c :: piece) :: more

/-- The parts of a path.  Slashes that follow each other count as one. -/
def parts (path : String) : List String :=
  ((pieces path.toList).filter (!·.isEmpty)).map String.ofList

/-- Whether a path starts at the root. -/
def isAbsolute (path : String) : Bool :=
  path.toList.head? = some '/'

/-- Whether a path ends in a slash, so that it can only be the path of a directory. -/
def endsInSlash (path : String) : Bool :=
  path.toList.getLast? = some '/'

/-- The path of something inside a directory.  An absolute path stays as it is. -/
def join (base inner : String) : String :=
  if isAbsolute inner || base.isEmpty then inner
  else if endsInSlash base then base ++ inner
  else base ++ "/" ++ inner

/-- The parts of a path without dots that do not lead anywhere. -/
def properParts (path : String) : List String :=
  (parts path).filter (· ≠ ".")

/-- The name of the file that a path leads to. -/
def fileName? (path : String) : Option String :=
  match (properParts path).getLast? with
  | some name => if name = ".." then none else some name
  | none => none

/-- What follows the last dot of a file name, unless that is its first character. -/
def extension? (path : String) : Option String := do
  let reversed := (← fileName? path).toList.reverse
  match reversed.dropWhile (· ≠ '.') with
  | _ :: _ :: _ => return String.ofList (reversed.takeWhile (· ≠ '.')).reverse
  | _ => none

/-- The path of the directory in which a path ends, which is empty for the working directory. -/
def parent? (path : String) : Option String :=
  match (properParts path).reverse with
  | _ :: above =>
    let inner := "/".intercalate above.reverse
    some (if isAbsolute path then "/" ++ inner else inner)
  | [] => if isAbsolute path then none else some ""

end Path

end CommandTree
