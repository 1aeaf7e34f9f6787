import CommandTree.Project.Artifact

/-!
# Making projects

A project is made in a directory of its own.  If there is something at its path already, that is
only removed after a question.  If a file cannot be written, the directory is removed again.

* `Project.generate` makes a project.
* `ProjectError` is why it cannot be made.
-/

namespace CommandTree

/-- Why a project cannot be made. -/
inductive ProjectError where
  /-- Its files cannot be made. -/
  | artifact (error : ArtifactError)
  /-- There is something at its path that must not be replaced. -/
  | alreadyExists (path : String)
  /-- Its directory cannot be made. -/
  | create (path : String) (cause : FileError)
  /-- What is at its path cannot be removed. -/
  | remove (path : String) (cause : FileError)
  /-- One of its files cannot be written. -/
  | write (path : String) (cause : FileError)
  /-- The question whether something may be replaced has no answer, for the given reasons. -/
  | prompt (path : String) (reasons : List String)
  deriving DecidableEq, Repr

/-- The error in words, its causes behind it. -/
def ProjectError.chain : ProjectError → List String
  | artifact error => [error.message]
  | alreadyExists path => ["'" ++ path ++ "' already exists"]
  | create path cause => ["failed to create '" ++ path ++ "'", cause.message]
  | remove path cause => ["failed to remove '" ++ path ++ "'", cause.message]
  | write path cause => ["failed to write '" ++ path ++ "'", cause.message]
  | prompt path reasons => ("failed to confirm replacing '" ++ path ++ "'") :: reasons

/-- A project that has been made. -/
structure GeneratedProject where
  /-- The path of its directory. -/
  path : String
  /-- The paths of its files. -/
  files : List String
  /-- Whether something was replaced. -/
  replaced : Bool
  deriving DecidableEq, Repr

/-- The question whether what is at a path may be replaced, to which there may be no answer. -/
abbrev ReplacePrompt (m : Type → Type) := String → m (Except (List String) Bool)

section Generation

variable {m : Type → Type} [Monad m] [FileAccess m]

/-- Removes what is at a path. -/
def removePath (path : String) : m (Except FileError Unit) := do
  if (← FileAccess.kind? path) = some .directory then FileAccess.removeTree path
  else FileAccess.removeFile path

/-- Makes sure that there is nothing at a path, and says whether something was removed. -/
def clearPath (prompt : ReplacePrompt m) (path : String) : m (Except ProjectError Bool) := do
  if (← FileAccess.kind? path).isNone then return .ok false
  match ← prompt path with
  | .error reasons => return .error (.prompt path reasons)
  | .ok false => return .error (.alreadyExists path)
  | .ok true =>
    match ← removePath path with
    | .error cause => return .error (.remove path cause)
    | .ok () => return .ok true

/-- Writes files one after the other, up to the first that cannot be written. -/
def writeArtifacts : List Artifact → m (Except (String × FileError) Unit)
  | [] => return .ok ()
  | artifact :: rest => do
    match ← FileAccess.write artifact.path artifact.content with
    | .error cause => return .error (artifact.path, cause)
    | .ok () => writeArtifacts rest

/-- Makes a project from a schema.  Its files are made before anything is changed. -/
def Project.generate (project : Project) (schema : Schema) (prompt : ReplacePrompt m) :
    m (Except ProjectError GeneratedProject) := do
  match project.artifacts schema with
  | .error error => return .error (.artifact error)
  | .ok artifacts =>
    match ← clearPath prompt project.path with
    | .error error => return .error error
    | .ok replaced =>
      match ← FileAccess.makeDirectory project.path with
      | .error cause => return .error (.create project.path cause)
      | .ok () =>
        match ← writeArtifacts artifacts with
        | .error (path, cause) =>
          -- whether the rest can be removed does not change the error
          discard (FileAccess.removeTree project.path)
          return .error (.write path cause)
        | .ok () => return .ok ⟨project.path, artifacts.map Artifact.path, replaced⟩

end Generation

end CommandTree
