import CommandTree.Program.Run

/-!
# The program

The files of the program are those of the machine, and questions are asked on the terminal.
-/

namespace CommandTree

/-- The number by which the machine says that there is a directory at a path. -/
def directoryCode : UInt32 := 21

/-- The file error for an error of the machine. -/
def FileError.ofError (error : IO.Error) : FileError :=
  match error with
  | .noFileOrDirectory .. => .notFound
  | .alreadyExists .. => .alreadyExists
  | .inappropriateType _ code _ =>
    if code = directoryCode then .isADirectory else .notADirectory
  | unusual => .other (toString unusual)

/-- Tries something that may fail. -/
def tryFile {α : Type} (action : IO α) : IO (Except FileError α) := do
  try return .ok (← action) catch error => return .error (.ofError error)

instance : FileAccess IO where
  kind? path := do
    match ← tryFile (IO.FS.withFile path .read fun handle => handle.read 1) with
    | .ok _ => return some .file
    | .error .isADirectory => return some .directory
    | .error _ => return none
  read path := tryFile (IO.FS.readFile path)
  write path text := tryFile (IO.FS.writeFile path text)
  makeDirectory path := tryFile (IO.FS.createDir path)
  removeFile path := tryFile (IO.FS.removeFile path)
  removeTree path := tryFile (IO.FS.removeDirAll path)

/-- Asks on the terminal whether what is at a path may be replaced. -/
def terminalPrompt : ReplacePrompt IO := fun path => do
  let input ← IO.getStdin
  if ← input.isTty then
    IO.eprint s!"'{path}' already exists. Replace it? [y/N] "
    let answer := (← input.getLine).trimAscii.toString
    return .ok (answer = "y" || answer = "yes")
  else return .error ["IO error: not a terminal", "not a terminal"]

/-- Says why the program does not do what it is asked for. -/
def report : Failure → IO Unit
  | .usage error => IO.eprintln s!"{programSpec.name}: {error.message}"
  | .schema error => do
    IO.eprintln error.message
    match error.help with
    | some help => IO.eprintln s!"  help: {help}"
    | none => return
  | .chain messages => IO.eprintln (": ".intercalate messages)

end CommandTree

open CommandTree in
/-- Carries out a command line. -/
def main (words : List String) : IO UInt32 := do
  match ← (runCommandLine terminalPrompt words).run with
  | .ok output =>
    IO.print output.results
    IO.eprint output.remarks
    if let some shell := output.completions then
      IO.eprintln s!"{programSpec.name}: completion scripts for {shell} are made by a generator"
    return 0
  | .error failure =>
    report failure
    return failure.exitCode.toUInt32
