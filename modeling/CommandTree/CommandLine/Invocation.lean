import CommandTree.CommandLine.Matching

/-!
# The command line of this program

The program makes projects from schemas, checks schemas, shows what a project would hold, and
exports the schema of a program, which is this program unless a schema is given.

* `programSpec` describes the command line.
* `Invocation` is what a command line asks for, `Invocation.ofWords` reads one.
-/

namespace CommandTree

/-! ### Description -/

/-- A switch with a long flag. -/
def switchSpec (id long help : String) : ArgSpec where
  id := id
  long := some long
  help := help
  effect := .switch

/-- An option with a value of the given kind. -/
def optionSpec (id help : String) (kind : ValueKind) (short : Option Char) : ArgSpec where
  id := id
  long := some id
  short := short
  help := help
  effect := .value kind

/-- An argument by place. -/
def positionalSpec (id help : String) (kind : ValueKind) (required : Bool) : ArgSpec where
  id := id
  help := help
  effect := .value kind
  required := required

/-- The option that names the node to start with. -/
def entryOption : ArgSpec :=
  optionSpec "entry" "Node invoked when the script runs (defaults to the first node)" .text none

/-- The command that makes a project. -/
def newCommand : CommandSpec where
  name := "new"
  help := "Generate a Click project from a schema"
  args := [
    positionalSpec "name" "Project name; the interface is written to `<name>cli.py`" .text false,
    optionSpec "output" "Project directory (defaults to ./<name>)" .path (some 'o'),
    optionSpec "schema" "Schema to compile (defaults to schema.json)" .path (some 's'),
    entryOption,
    switchSpec "force" "force" "Replace an existing directory without asking"]

/-- The command that checks a schema. -/
def checkCommand : CommandSpec where
  name := "check"
  help := "Validate a schema without generating anything"
  args := [optionSpec "schema" "Schema to check (defaults to schema.json)" .path (some 's')]

/-- The command that shows what a project would hold. -/
def compileCommand : CommandSpec where
  name := "compile"
  help := "Preview the generated files"
  args := [
    optionSpec "schema" "Schema to compile (defaults to schema.json)" .path (some 's'),
    optionSpec "name" "Project name used for the interface file name" .text (some 'n'),
    entryOption,
    switchSpec "source_only" "source-only" "Print only the interface source"]

/-- The command that exports a schema. -/
def exportCommand : CommandSpec where
  name := "export"
  help := "Reflect a command tree into a schema descriptor"
  args := [
    { optionSpec "output" "Descriptor to write" .path (some 'o') with
      default := some "schema.json" },
    switchSpec "display" "display" "Also print the descriptor",
    optionSpec "schema" "Reflect the tree compiled from this schema instead of clitree itself" .path
      (some 's'),
    optionSpec "permission" "Permission recorded on every node" .text none]

/-- The command that writes the completions of a shell. -/
def completionsCommand : CommandSpec where
  name := "completions"
  help := "Generate shell completions"
  args := [
    positionalSpec "shell" "Shell to generate completions for"
      (.oneOf ["bash", "elvish", "fish", "powershell", "zsh"]) true]

/-- The whole program. -/
def programSpec : ProgramSpec where
  name := "clitree"
  help := "Compile command-tree schemas into Click CLIs"
  options := [
    { switchSpec "verbose" "verbose" "Log at debug level (RUST_LOG overrides)" with
      short := some 'v' },
    optionSpec "config" "Path to clitree.toml (defaults to ./clitree.toml when present)" .path none]
  commands := [newCommand, checkCommand, compileCommand, exportCommand, completionsCommand]

/-! ### Invocations -/

/-- What a command line asks for. -/
inductive Request where
  /-- Make a project. -/
  | new (name output schema entry : Option String) (force : Bool)
  /-- Check a schema. -/
  | check (schema : Option String)
  /-- Show what a project would hold. -/
  | compile (schema name entry : Option String) (sourceOnly : Bool)
  /-- Export a schema. -/
  | exportSchema (output : String) (display : Bool) (schema permission : Option String)
  /-- Write the completions of a shell. -/
  | completions (shell : String)
  deriving DecidableEq, Repr

/-- A request, and where the configuration is. -/
structure Invocation where
  /-- The path of the configuration, if one is named. -/
  config : Option String
  /-- What is asked for. -/
  request : Request
  deriving DecidableEq, Repr

/-- What the values of a command ask for. -/
def Request.ofCommandLine (line : CommandLine) : Request :=
  let value := line.values.get?
  let given (id : String) := (value id).isSome
  if line.command = newCommand.name then
    .new (value "name") (value "output") (value "schema") (value "entry") (given "force")
  else if line.command = checkCommand.name then .check (value "schema")
  else if line.command = compileCommand.name then
    .compile (value "schema") (value "name") (value "entry") (given "source_only")
  else if line.command = exportCommand.name then
    .exportSchema ((value "output").getD "") (given "display") (value "schema") (value "permission")
  else .completions ((value "shell").getD "")

/-- What the words of a command line ask for. -/
def Invocation.ofWords (words : List String) : Except UsageError Invocation := do
  let line ← programSpec.parse words
  return ⟨line.values.get? "config", .ofCommandLine line⟩

end CommandTree
