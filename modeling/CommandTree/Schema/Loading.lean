import CommandTree.FileSystem.Access
import CommandTree.FileSystem.Path
import CommandTree.Json.Printer
import CommandTree.Json.Reader
import CommandTree.Schema.Decoding
import CommandTree.Schema.Violation
import CommandTree.Yaml.Printer
import CommandTree.Yaml.Reader

/-!
# Schemas as texts

A schema is written in JSON or in YAML.  A text is read as a value first; the value is checked
against the grammar and then converted.

* `Schema.ofJson` converts a value, `Schema.ofText` reads a text, `Schema.load` reads a file.
* `Schema.toText` writes a schema.
* `SchemaError` is why there is no schema.
-/

namespace CommandTree

/-! ### Formats -/

/-- The formats of schemas. -/
inductive DocumentFormat where
  /-- JSON. -/
  | json
  /-- YAML. -/
  | yaml
  deriving DecidableEq, Repr

namespace DocumentFormat

/-- The name of a format. -/
def name : DocumentFormat → String
  | json => "JSON"
  | yaml => "YAML"

/-- A letter of the alphabet in lower case. -/
def lowerLetter (c : Char) : Char :=
  if 'A' ≤ c ∧ c ≤ 'Z' then Char.ofNat (c.toNat + 32) else c

/-- The format of files whose names end in an extension. -/
def ofExtension? (extension : String) : Option DocumentFormat :=
  let extension := extension.map lowerLetter
  if extension = "json" then some json
  else if extension = "yaml" ∨ extension = "yml" then some yaml
  else none

/-- The name of a text for which no other name is known. -/
def defaultSource : DocumentFormat → String
  | json => "schema.json"
  | yaml => "schema.yaml"

end DocumentFormat

/-! ### Errors -/

/-- Why there is no schema. -/
inductive SchemaError where
  /-- The file cannot be read. -/
  | unreadable (path : String) (cause : FileError)
  /-- The name of the file does not say in which format it is. -/
  | unsupportedFormat (path : String)
  /-- A text is not JSON. -/
  | malformedJson (source text : String) (failure : Json.Failure)
  /-- A text is not YAML. -/
  | malformedYaml (source text : String)
  /-- A document breaks the grammar. -/
  | invalid (violation : Violation)

namespace SchemaError

/-- The error in words. -/
def message : SchemaError → String
  | unreadable path _ => "failed to read '" ++ path ++ "'"
  | unsupportedFormat path => "unsupported schema file '" ++ path ++ "'"
  | malformedJson .. => "failed to parse " ++ DocumentFormat.json.name ++ " schema"
  | malformedYaml .. => "failed to parse " ++ DocumentFormat.yaml.name ++ " schema"
  | invalid violation => violation.message

/-- The code under which the error can be looked up. -/
def code : SchemaError → String
  | unreadable .. => "clitree::io_error"
  | unsupportedFormat .. => "clitree::unsupported_format"
  | malformedJson .. | malformedYaml .. => "clitree::parse_error"
  | invalid .. => "clitree::validation_error"

/-- What to do about the error. -/
def help : SchemaError → Option String
  | unreadable .. => some "pass an existing schema file with --schema"
  | unsupportedFormat .. => some "use a .json, .yaml or .yml file"
  | malformedJson .. | malformedYaml .. => none
  | invalid .. =>
    some ("every group needs name, help, hidden, groups, commands and params; " ++
      "every command needs name, help, hidden and params")

end SchemaError

/-! ### Reading -/

/-- The kind of a node that obeys the grammar: what it states, else group if it has the member
`groups` and command otherwise. -/
def Json.nodeKind (value : Json) : NodeKind :=
  match ((value.member? "kind").bind Json.text?).bind NodeKind.ofName? with
  | some kind => kind
  | none => if (value.member? "groups").isSome then .group else .command

/-- Reads a top-level node. -/
def Node.ofJson (value : Json) : Except DecodeError Node :=
  match value.nodeKind with
  | .group => (Group.ofJson value).map .group
  | .command => (Entry.ofJson value).map .command

/-- Reads the top-level nodes of a document that obeys the grammar, of which the first has the given
index. -/
def Node.ofJsonList (index : Nat) : List Json → Except Violation (List Node)
  | [] => .ok []
  | value :: rest =>
    match Node.ofJson value with
    | .ok node => do return node :: (← Node.ofJsonList (index + 1) rest)
    | .error error => violationAt [.index index] (.unconvertible error.message)

namespace Schema

/-- The schema that a value describes. -/
def ofJson (value : Json) : Except Violation Schema := do
  checkDocument value
  match value with
  | .array items => return ⟨← Node.ofJsonList 0 items⟩
  | _ => violationAt [] .notAnArrayOfNodes

/-- The value that a text denotes. -/
def readDocument (format : DocumentFormat) (source text : String) : Except SchemaError Json :=
  match format with
  | .json =>
    match Json.parse text with
    | .ok value => .ok value
    | .error failure => .error (.malformedJson source text failure)
  | .yaml =>
    match Json.ofYaml? text with
    | some value => .ok value
    | none => .error (.malformedYaml source text)

/-- The schema that a text describes.  Errors name the source of the text. -/
def ofText (format : DocumentFormat) (source text : String) : Except SchemaError Schema := do
  let value ← readDocument format source text
  match ofJson value with
  | .ok schema => return schema
  | .error violation => throw (.invalid violation)

/-- The schema in a file.  The extension of its name says in which format it is. -/
def load {m : Type → Type} [Monad m] [FileAccess m] (path : String) :
    m (Except SchemaError Schema) := do
  match (Path.extension? path).bind DocumentFormat.ofExtension? with
  | none => return .error (.unsupportedFormat path)
  | some format =>
    match ← FileAccess.read path with
    | .error cause => return .error (.unreadable path cause)
    | .ok text => return ofText format path text

/-! ### Writing -/

/-- The text of a schema. -/
def toText (format : DocumentFormat) (schema : Schema) : String :=
  match format with
  | .json => schema.toJson.pretty
  | .yaml => schema.toJson.toYaml

end Schema

end CommandTree
