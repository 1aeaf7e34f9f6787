import CommandTree.Json.Basic
import CommandTree.Schema.Basic

/-!
# Violations of the schema grammar

A document is a schema if it is an array of nodes.  A group has the members `name`, `help`,
`hidden`, `groups`, `commands` and `params`, a command the members `name`, `help`, `hidden` and
`params`; both may have a `permission` and state their `kind`.  The first place that breaks the
grammar is reported.

* `checkDocument` looks for the first violation of a document.
* `Violation` is what it reports: a path into the document and a reason.
-/

namespace CommandTree

/-! ### Paths and reasons -/

/-- One step into a document. -/
inductive PathStep where
  /-- Into the member of an object. -/
  | key (key : String)
  /-- Into the item of an array. -/
  | index (index : Nat)
  deriving DecidableEq, Repr

/-- The steps from the root of a document to a place in it. -/
abbrev DocumentPath := List PathStep

/-- A step in writing. -/
def PathStep.text : PathStep → String
  | .key name => "." ++ name
  | .index n => "[" ++ toString n ++ "]"

/-- A path in writing, as in `$[0].groups[1].params[2].type`. -/
def DocumentPath.text (path : DocumentPath) : String :=
  "$" ++ String.join (path.map PathStep.text)

/-- What the grammar asks for at some place. -/
inductive ValueShape where
  /-- A string. -/
  | string
  /-- An array. -/
  | array
  /-- An object. -/
  | object
  deriving DecidableEq, Repr

/-- The words for a shape. -/
def ValueShape.name : ValueShape → String
  | string => "a string"
  | array => "an array"
  | object => "an object"

/-- The words for what a value is. -/
def Json.shapeName : Json → String
  | .null => "null"
  | .bool _ => "a boolean"
  | .number _ => "a number"
  | .string _ => "a string"
  | .array _ => "an array"
  | .object _ => "an object"

/-- Why a place breaks the grammar. -/
inductive ViolationReason where
  /-- The document is not an array. -/
  | notAnArrayOfNodes
  /-- A value has the wrong shape; `found` says which. -/
  | wrongShape (expected : ValueShape) (found : String)
  /-- The stated kind is not a kind of node. -/
  | unknownKind (stated : String)
  /-- The stated kind is not the one that belongs here. -/
  | wrongKind (expected stated : NodeKind)
  /-- A member is missing. -/
  | missingField (field : String)
  /-- A command has a member of a group. -/
  | childrenOfCommand (field : String)
  /-- A text is not one of those that are allowed. -/
  | unsupportedValue (value : String) (allowed : List String)
  /-- A node that obeys the grammar cannot be converted. -/
  | unconvertible (message : String)
  deriving DecidableEq, Repr

/-- The reason in words. -/
def ViolationReason.message : ViolationReason → String
  | notAnArrayOfNodes => "expected an array of groups and commands"
  | wrongShape expected found => "expected " ++ expected.name ++ ", found " ++ found
  | unknownKind stated => "unknown kind '" ++ stated ++ "' (expected \"group\" or \"command\")"
  | wrongKind expected stated =>
    "expected a " ++ expected.name ++ " here, found kind '" ++ stated.name ++ "'"
  | missingField field => "missing required field '" ++ field ++ "'"
  | childrenOfCommand field => "a command cannot carry '" ++ field ++ "'"
  | unsupportedValue value allowed =>
    "unsupported value \"" ++ value ++ "\" (expected one of " ++
      ", ".intercalate (allowed.map fun word => "\"" ++ word ++ "\"") ++ ")"
  | unconvertible message => message

/-- A place of a document that breaks the grammar. -/
structure Violation where
  /-- Where the place is. -/
  path : DocumentPath
  /-- Why it breaks the grammar. -/
  reason : ViolationReason
  deriving DecidableEq, Repr

/-- The violation in words. -/
def Violation.message (violation : Violation) : String :=
  violation.path.text ++ ": " ++ violation.reason.message

/-! ### Single members -/

/-- The required members of a group. -/
def groupFields : List String := ["name", "help", "hidden", "groups", "commands", "params"]

/-- The required members of a command. -/
def commandFields : List String := ["name", "help", "hidden", "params"]

/-- The required members of a parameter. -/
def paramFields : List String :=
  ["name", "help", "type", "default", "required", "prompt", "param_type"]

/-- The truth words. -/
def truthWords : List String := ["True", "False"]

/-- The words for the type of a parameter. -/
def paramTypeWords : List String := ["STRING", "BOOL"]

/-- The kinds of parameters that a document may hold. -/
def paramKindWords : List String := ["option"]

/-- A violation at a path. -/
def violationAt {α : Type} (path : DocumentPath) (reason : ViolationReason) : Except Violation α :=
  .error ⟨path, reason⟩

section Members

variable (path : DocumentPath) (members : Members Json)

/-- The first of the given fields that an object lacks is a violation. -/
def requireFields (fields : List String) : Except Violation Unit :=
  match fields.find? fun field => (members.get? field).isNone with
  | some field => violationAt path (.missingField field)
  | none => .ok ()

/-- The text of a member, which must be a string. -/
def requireString (field : String) : Except Violation String :=
  match members.get? field with
  | some (.string text) => .ok text
  | some other => violationAt (path ++ [.key field]) (.wrongShape .string other.shapeName)
  | none => violationAt path (.missingField field)

/-- A member must be one of the given words. -/
def requireWord (field : String) (allowed : List String) : Except Violation Unit := do
  let text ← requireString path members field
  if allowed.contains text then return
  violationAt (path ++ [.key field]) (.unsupportedValue text allowed)

/-- The items of a member, which must be an array. -/
def requireArray (field : String) : Except Violation (List Json) :=
  match members.get? field with
  | some (.array items) => .ok items
  | some other => violationAt (path ++ [.key field]) (.wrongShape .array other.shapeName)
  | none => violationAt path (.missingField field)

/-- The kind that a node states, if it states one. -/
def statedKind? : Except Violation (Option NodeKind) :=
  match members.get? "kind" with
  | none => .ok none
  | some (.string stated) =>
    match NodeKind.ofName? stated with
    | some kind => .ok (some kind)
    | none => violationAt (path ++ [.key "kind"]) (.unknownKind stated)
  | some other => violationAt (path ++ [.key "kind"]) (.wrongShape .string other.shapeName)

/-- The kind of a node: what its place asks for, else what it states, else group if it has the
member `groups` and command otherwise.  What it states must agree with its place. -/
def resolveKind (expected : Option NodeKind) : Except Violation NodeKind := do
  match expected, ← statedKind? path members with
  | some expected, some stated =>
    if expected = stated then return expected
    violationAt (path ++ [.key "kind"]) (.wrongKind expected stated)
  | some expected, none => return expected
  | none, some stated => return stated
  | none, none => return if (members.get? "groups").isSome then .group else .command

/-! ### Parameters and nodes -/

/-- Checks the members of a parameter.  All of them are strings, those outside the grammar too. -/
def checkParamMembers : Except Violation Unit := do
  requireFields path members paramFields
  -- every attribute is a text, also one that the grammar does not know
  members.keys.forM fun key => discard (requireString path members key)
  requireWord path members "type" paramTypeWords
  requireWord path members "required" truthWords
  requireWord path members "param_type" paramKindWords

/-- Checks everything about a node but its children, and finds its kind. -/
def checkNodeMembers (expected : Option NodeKind) : Except Violation NodeKind := do
  let kind ← resolveKind path members expected
  requireFields path members (match kind with | .group => groupFields | .command => commandFields)
  if kind = .command then
    ["groups", "commands"].forM fun field =>
      if (members.get? field).isSome then
        violationAt (path ++ [.key field]) (.childrenOfCommand field)
      else .ok ()
  discard (requireString path members "name")
  discard (requireString path members "help")
  requireWord path members "hidden" truthWords
  if (members.get? "permission").isSome then
    discard (requireString path members "permission")
  -- all lists of children are looked at before any child is
  discard (requireArray path members "params")
  if kind = .group then
    discard (requireArray path members "commands")
    discard (requireArray path members "groups")
  return kind

end Members

/-- Checks a parameter. -/
def checkParam (path : DocumentPath) (value : Json) : Except Violation Unit :=
  match value with
  | .object members => checkParamMembers path members
  | other => violationAt path (.wrongShape .object other.shapeName)

/-- Checks parameters, of which the first has the given index. -/
def checkParams (path : DocumentPath) (index : Nat) : List Json → Except Violation Unit
  | [] => .ok ()
  | param :: rest => do
    checkParam (path ++ [.index index]) param
    checkParams path (index + 1) rest

mutual

/-- Checks a node of which its place may ask for a kind: first what it says about itself, then its
parameters, then the commands and the groups below it. -/
def checkNode (expected : Option NodeKind) (path : DocumentPath) : Json → Except Violation Unit
  | .object members => do
    let kind ← checkNodeMembers path members expected
    checkParams (path ++ [.key "params"]) 0 (← requireArray path members "params")
    if kind = .group then
      checkChildren .command "commands" path members
      checkChildren .group "groups" path members
  | other => violationAt path (.wrongShape .object other.shapeName)

/-- Checks the nodes under the first member with the given key. -/
def checkChildren (expected : NodeKind) (field : String) (path : DocumentPath) :
    List (String × Json) → Except Violation Unit
  | [] => .ok ()
  | (key, value) :: rest =>
    if key = field then checkItems (some expected) (path ++ [.key field]) value
    else checkChildren expected field path rest

/-- Checks the items of an array of nodes. -/
def checkItems (expected : Option NodeKind) (path : DocumentPath) : Json → Except Violation Unit
  | .array items => checkNodes expected path 0 items
  | _ => .ok ()

/-- Checks nodes, of which the first has the given index. -/
def checkNodes (expected : Option NodeKind) (path : DocumentPath) (index : Nat) :
    List Json → Except Violation Unit
  | [] => .ok ()
  | node :: rest => do
    checkNode expected (path ++ [.index index]) node
    checkNodes expected path (index + 1) rest

end

/-- Checks a document. -/
def checkDocument : Json → Except Violation Unit
  | .array items => checkNodes none [] 0 items
  | _ => violationAt [] .notAnArrayOfNodes

end CommandTree
