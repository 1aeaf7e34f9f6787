import CommandTree.FileSystem.Access
import CommandTree.Toml.Reader

/-!
# Configuration

A configuration says what is used where the command line says nothing: the table `project` has the
name, the schema and the entry point of a project, the table `export` has the permission of exported
nodes.  A table may also be given as an array of its values in that order.

* `Config.ofText?` reads a configuration, `Config.load` finds and reads the one to be used.
-/

namespace CommandTree

/-- What is used where the command line says nothing. -/
structure Config where
  /-- The name of the project. -/
  name : Option String := none
  /-- The path of the schema. -/
  schema : Option String := none
  /-- The node to start with. -/
  entry : Option String := none
  /-- The permission of exported nodes. -/
  permission : Option String := none
  deriving DecidableEq, Repr

namespace Config

/-- The members of a table with the given keys, of which each may be missing but no other may be
there. -/
def fields (keys : List String) : Toml.Value → Option (Members Toml.Value)
  | .table members => if members.all fun (key, _) => keys.contains key then some members else none
  -- values beyond the last key are ignored
  | .array items => some (keys.zip items)
  | _ => none

/-- The text of a field that may be missing. -/
def textField (members : Members Toml.Value) (key : String) : Option (Option String) :=
  match members.get? key with
  | none => some none
  | some (.text text) => some (some text)
  | some _ => none

/-- The configuration that a table describes. -/
def ofTable? (table : Members Toml.Value) : Option Config := do
  let tables ← fields ["project", "export"] (.table table)
  let project ← fields ["name", "schema", "entry"] ((tables.get? "project").getD (.table []))
  let exported ← fields ["permission"] ((tables.get? "export").getD (.table []))
  return {
    name := ← textField project "name"
    schema := ← textField project "schema"
    entry := ← textField project "entry"
    permission := ← textField exported "permission" }

/-- The configuration that a text describes. -/
def ofText? (text : String) : Option Config := do
  ofTable? (← Toml.parse? text)

/-! ### Files -/

/-- Why there is no configuration. -/
inductive LoadError where
  /-- The file cannot be read. -/
  | unreadable (path : String) (cause : FileError)
  /-- The text of the file is not a configuration. -/
  | malformed (path : String)
  deriving DecidableEq, Repr

/-- The error in words, the cause behind it. -/
def LoadError.chain : LoadError → List String
  | unreadable path cause => ["failed to read " ++ path, cause.message]
  | malformed path => ["failed to parse " ++ path]

/-- The path of the configuration that is used if there is a file. -/
def defaultPath : String := "clitree.toml"

section Files

variable {m : Type → Type} [Monad m] [FileAccess m]

/-- The configuration in a file. -/
def ofFile (path : String) : m (Except LoadError Config) := do
  match ← FileAccess.read path with
  | .error cause => return .error (.unreadable path cause)
  | .ok text =>
    match ofText? text with
    | some config => return .ok config
    | none => return .error (.malformed path)

/-- The configuration to be used: that of the requested file, else that of the default file, else
the empty one. -/
def load (requested : Option String) : m (Except LoadError Config) := do
  match requested with
  | some path => ofFile path
  | none =>
    if (← FileAccess.kind? defaultPath) = some .file then ofFile defaultPath
    else return .ok {}

end Files

/-! ### What to use -/

/-- The path of the schema if none is given. -/
def defaultSchema : String := "schema.json"

/-- The path of the schema: the one that is requested, else the configured one, else the default. -/
def schemaPath (config : Config) (requested : Option String) : String :=
  (requested <|> config.schema).getD defaultSchema

/-- The node to start with: the one that is requested, else the configured one. -/
def entryPoint (config : Config) (requested : Option String) : Option String :=
  requested <|> config.entry

end Config

end CommandTree
