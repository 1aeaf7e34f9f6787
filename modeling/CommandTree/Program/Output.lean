import CommandTree.CommandLine.Matching
import CommandTree.Lint.Rule
import CommandTree.Outline
import CommandTree.Project.Generation

/-!
# What the program says

* `Output` is what the program prints.
* `Failure` is why it prints nothing.
* The functions of `Output` say what was made, checked or compiled.
-/

namespace CommandTree

/-- What the program prints. -/
structure Output where
  /-- The results. -/
  results : String := ""
  /-- The remarks. -/
  remarks : String := ""
  /-- The shell whose completion script follows the results.  The script itself is no part of this:
  a generator makes it from what the program says about its command line. -/
  completions : Option String := none
  deriving DecidableEq, Repr

/-- Why the program does not do what it is asked for. -/
inductive Failure where
  /-- The command line is wrong, or asks for help. -/
  | usage (error : UsageError)
  /-- There is no schema. -/
  | schema (error : SchemaError)
  /-- Anything else: the error in words, its causes behind it. -/
  | chain (messages : List String)

/-- The exit code of a failure. -/
def Failure.exitCode : Failure → Nat
  | usage _ => 2
  | schema _ | chain _ => 1

/-- Some lines of text. -/
def unlines (lines : List String) : String :=
  String.join (lines.map (· ++ "\n"))

/-- A number of nodes, in words. -/
def nodeCountWords (count : Nat) : String :=
  toString count ++ " node" ++ if count = 1 then "" else "s"

namespace Output

/-- What is said about a project that has been made. -/
def ofGeneration (project : GeneratedProject) (schema : Schema) : Output where
  results := unlines <|
    ["✓ " ++ (if project.replaced then "Replaced " else "Created ") ++ project.path,
     "  " ++ nodeCountWords schema.nodeCount ++ " compiled",
     ""] ++
    project.files.map ("  + " ++ ·)

/-- The lines of a diagnostic. -/
def diagnosticLines (diagnostic : Diagnostic) : List String :=
  (diagnostic.severity.name ++ ": " ++ diagnostic.message) ::
    (diagnostic.location.map ("  --> " ++ ·)).toList

/-- What is said about a schema that has been checked.  Mere information is part of the results. -/
def ofCheck (path : String) (schema : Schema) (diagnostics : List Diagnostic) : Output where
  results := unlines <|
    (diagnostics.filter (·.severity = .info)).flatMap diagnosticLines ++
      (if diagnostics.any (·.severity = .warning) then [""] else []) ++
      ["✓ " ++ path ++ " is valid",
       "",
       "  " ++ nodeCountWords schema.nodeCount ++ ":",
       schema.shownOutline .simple "    "]
  remarks := unlines <| (diagnostics.filter (·.severity ≠ .info)).flatMap diagnosticLines

/-- What is said about the files that a project would have. -/
def ofPreview (artifacts : List Artifact) : Output where
  results := unlines <|
    artifacts.flatMap (fun artifact => ["── " ++ artifact.path ++ " ──", artifact.content]) ++
      ["── Summary ──", toString artifacts.length ++ " files would be generated"]

/-- What is said about an exported schema. -/
def ofExport (path text : String) (display : Bool) : Output where
  results := if display then text else ""
  remarks := unlines ["✓ Exported to " ++ path]

end Output

end CommandTree
