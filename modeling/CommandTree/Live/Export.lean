import CommandTree.Live.Reflection
import CommandTree.Schema.Loading

/-!
# Exporting live trees

The schema of a running program is written to a file in JSON.

* `exportTrees` writes the schema of some live trees.
-/

namespace CommandTree

/-- A file that cannot be written. -/
structure WriteError where
  /-- The path of the file. -/
  path : String
  /-- Why it cannot be written. -/
  cause : FileError
  deriving DecidableEq, Repr

/-- The error in words, its cause behind it. -/
def WriteError.chain (error : WriteError) : List String :=
  ["failed to write '" ++ error.path ++ "'", error.cause.message]

/-- The text of an exported schema. -/
def exportText (permission : String) (roots : List LiveNode) : String :=
  (reflect permission roots).toText .json ++ "\n"

/-- Writes the schema of some live trees to a file and returns the text. -/
def exportTrees {m : Type → Type} [Monad m] [FileAccess m] (permission : String)
    (roots : List LiveNode) (path : String) : m (Except WriteError String) := do
  let text := exportText permission roots
  match ← FileAccess.write path text with
  | .ok () => return .ok text
  | .error cause => return .error ⟨path, cause⟩

end CommandTree
