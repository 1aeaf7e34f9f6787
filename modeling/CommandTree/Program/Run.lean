import CommandTree.CommandLine.Invocation
import CommandTree.Config
import CommandTree.Host.OfDeclarations
import CommandTree.Live.Export
import CommandTree.Program.Output

/-!
# Carrying out command lines

A command line is read, the configuration is loaded, and what the command asks for is done.  All
effects go through `FileAccess` and one question, so the same definitions run on real files and on
a file system that is a value.

* `runCommandLine` carries out a command line.
* `Request.run` does what a request asks for.
-/

namespace CommandTree

variable {m : Type → Type} [Monad m] [FileAccess m]

/-- A failure that says what failed, before the errors of a chain. -/
def Failure.because (what : String) (messages : List String) : Failure :=
  .chain (what :: messages)

/-- The schema in a file. -/
def loadSchema (path : String) : ExceptT Failure m Schema := do
  match ← (Schema.load path : m (Except SchemaError Schema)) with
  | .ok schema => return schema
  | .error error => throw (.schema error)

/-- The declarations of a schema. -/
def lowerSchema (schema : Schema) : ExceptT Failure m (List Declaration) :=
  match schema.lower with
  | .ok declarations => return declarations
  | .error error => throw (.because "Schema cannot be compiled" [error.message])

/-- The answer that replaces everything without a question. -/
def alwaysReplace : ReplacePrompt m :=
  fun _ => return .ok true

/-- The answer that replaces nothing, without a question. -/
def neverReplace : ReplacePrompt m :=
  fun _ => return .ok false

/-- Makes a project. -/
def runNew (config : Config) (prompt : ReplacePrompt m) (name output schema entry : Option String)
    (force : Bool) : ExceptT Failure m Output := do
  let some name := name <|> config.name
    | throw (.chain ["no project name given; pass NAME or set project.name"])
  let schema ← loadSchema (config.schemaPath schema)
  let project : Project := ⟨output.getD name, name, config.entryPoint entry⟩
  let prompt := if force then alwaysReplace else prompt
  match ← (project.generate schema prompt : m (Except ProjectError GeneratedProject)) with
  | .ok generated => return .ofGeneration generated schema
  | .error error => throw (.because "Failed to generate project" error.chain)

/-- Checks a schema.  It is not valid if there is an error among the diagnostics. -/
def runCheck (config : Config) (schema : Option String) : ExceptT Failure m Output := do
  let path := config.schemaPath schema
  let schema ← loadSchema path
  discard (lowerSchema schema)
  let diagnostics := schema.lint
  if diagnostics.any (·.severity = .error) then
    throw (.chain (diagnostics.flatMap Output.diagnosticLines))
  return .ofCheck path schema diagnostics

/-- The name of a project that has none. -/
def previewName : String := "app"

/-- Shows what a project would hold. -/
def runCompile (config : Config) (schema name entry : Option String) (sourceOnly : Bool) :
    ExceptT Failure m Output := do
  let schema ← loadSchema (config.schemaPath schema)
  let name := (name <|> config.name).getD previewName
  let project : Project := ⟨name, name, config.entryPoint entry⟩
  match project.artifacts schema with
  | .error error => throw (.because "Failed to compile schema" [error.message])
  | .ok artifacts =>
    if sourceOnly then return { results := (artifacts.head?.map Artifact.content).getD "" }
    return .ofPreview artifacts

/-- Exports the schema of the program that a schema is compiled to, or of this program. -/
def runExport (config : Config) (output : String) (display : Bool)
    (schema permission : Option String) : ExceptT Failure m Output := do
  let permission := (permission <|> config.permission).getD defaultPermission
  let hosts ← match schema with
    | some path => do
      let schema ← loadSchema path
      pure (hostOfDeclarations (← lowerSchema schema))
    | none => pure [programSpec.host]
  let roots := hosts.map HostCommand.live
  match ← (exportTrees permission roots output : m (Except WriteError String)) with
  | .ok text => return .ofExport output text display
  | .error error => throw (.because "Failed to export schema" error.chain)

/-- Does what a request asks for. -/
def Request.run (config : Config) (prompt : ReplacePrompt m) :
    Request → ExceptT Failure m Output
  | .new name output schema entry force => runNew config prompt name output schema entry force
  | .check schema => runCheck config schema
  | .compile schema name entry sourceOnly => runCompile config schema name entry sourceOnly
  | .exportSchema output display schema permission =>
    runExport config output display schema permission
  | .completions shell => return { completions := some shell }

/-- Carries out a command line. -/
def runCommandLine (prompt : ReplacePrompt m) (words : List String) :
    ExceptT Failure m Output := do
  match Invocation.ofWords words with
  | .error error => throw (.usage error)
  | .ok invocation =>
    match ← (Config.load invocation.config : m (Except Config.LoadError Config)) with
    | .error error => throw (.chain error.chain)
    | .ok config => invocation.request.run config prompt

end CommandTree
