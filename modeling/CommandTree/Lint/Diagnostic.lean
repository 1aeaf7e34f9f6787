import CommandTree.Json.Basic

/-!
# Diagnostics

A diagnostic is something to be said about a schema that does not keep it from being used.
-/

namespace CommandTree

/-- How serious a diagnostic is. -/
inductive Severity where
  /-- Something is wrong. -/
  | error
  /-- Something may be wrong. -/
  | warning
  /-- Something is worth knowing. -/
  | info
  deriving DecidableEq, Repr

/-- The word for a severity. -/
def Severity.name : Severity → String
  | error => "error"
  | warning => "warning"
  | info => "info"

/-- A finding about a schema. -/
structure Diagnostic where
  /-- How serious it is. -/
  severity : Severity
  /-- Who found it. -/
  phase : String
  /-- What was found. -/
  message : String
  /-- The path of the node it is about, if it is about one. -/
  location : Option String := none
  deriving DecidableEq, Repr

namespace Diagnostic

/-- The diagnostic at a location. -/
def located (diagnostic : Diagnostic) (location : String) : Diagnostic :=
  { diagnostic with location := some location }

/-- The diagnostic in one line. -/
def text (diagnostic : Diagnostic) : String :=
  diagnostic.severity.name ++ "[" ++ diagnostic.phase ++ "]: " ++ diagnostic.message ++
    match diagnostic.location with
    | some location => " (at " ++ location ++ ")"
    | none => ""

/-- The diagnostic as a value. -/
def toJson (diagnostic : Diagnostic) : Json :=
  .object ([("severity", .string diagnostic.severity.name),
    ("phase", .string diagnostic.phase),
    ("message", .string diagnostic.message)] ++
    (diagnostic.location.map fun location => ("location", Json.string location)).toList)

end Diagnostic

end CommandTree
