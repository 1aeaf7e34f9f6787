import CommandTree.Click.Program
import CommandTree.Schema.Loading

/-!
# The files of a project

A project is a directory with three files: the program and the schema it was made from, in JSON and
in YAML.

* `ProjectFile` is one of these files, `ProjectFile.artifact` says where it goes and what is in it.
* `Project.artifacts` are all files of a project.
-/

namespace CommandTree

/-- A text and the path of the file it goes to. -/
structure Artifact where
  /-- The path of the file. -/
  path : String
  /-- The text of the file. -/
  content : String
  deriving DecidableEq, Repr

/-- A file of a project. -/
inductive ProjectFile where
  /-- The program; the name of the file starts with the name of the project. -/
  | program (name source : String)
  /-- The schema in JSON. -/
  | jsonSchema (schema : Schema)
  /-- The schema in YAML. -/
  | yamlSchema (schema : Schema)

namespace ProjectFile

/-- The name of a file. -/
def fileName : ProjectFile → String
  | program name _ => name ++ "cli.py"
  | jsonSchema _ => "schema.json"
  | yamlSchema _ => "schema.yaml"

/-- The text of a file. -/
def content : ProjectFile → String
  | program _ source => source
  | jsonSchema schema => schema.toText .json ++ "\n"
  | yamlSchema schema => schema.toText .yaml

/-- The file in a directory. -/
def artifact (base : String) (file : ProjectFile) : Artifact :=
  ⟨Path.join base file.fileName, file.content⟩

end ProjectFile

/-- A project that can be made. -/
structure Project where
  /-- The path of its directory. -/
  path : String
  /-- Its name. -/
  name : String
  /-- The node to start with, if it is not the first one. -/
  entry : Option String

/-- Why the files of a project cannot be made. -/
inductive ArtifactError where
  /-- The name cannot be part of the name of a file. -/
  | invalidName (name : String)
  /-- The schema cannot be turned into a program. -/
  | configuration (error : ConfigurationError)
  deriving DecidableEq, Repr

/-- The error in words. -/
def ArtifactError.message : ArtifactError → String
  | invalidName name =>
    "invalid project name '" ++ name ++ "': it must be a plain file name prefix"
  | configuration error => error.message

/-- Whether a name can be the first part of the name of a file. -/
def isPlainName (name : String) : Bool :=
  name ≠ "" && name ≠ ".." && !name.toList.contains '/'

/-- The files of a project made from a schema. -/
def Project.artifacts (project : Project) (schema : Schema) :
    Except ArtifactError (List Artifact) :=
  if isPlainName project.name then
    match schema.compileProgram Click.target project.entry with
    | .ok source =>
      .ok <| [ProjectFile.program project.name source, .jsonSchema schema, .yamlSchema schema].map
        (ProjectFile.artifact project.path)
    | .error error => .error (.configuration error)
  else .error (.invalidName project.name)

end CommandTree
