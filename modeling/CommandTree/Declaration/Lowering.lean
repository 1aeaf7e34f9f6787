import CommandTree.Declaration.Basic
import CommandTree.Identifier

/-!
# From a tree to declarations

The nodes of a schema become declarations in document order: a group, its commands, then its groups
with everything below them.  The texts of a node get their meaning on the way.  Every declaration
has an identifier of its own: the name as an identifier, or the first free variant of it.

* `Schema.lower` is the sequence of declarations of a schema, or the first error.
* `Entry.declare` and `Param.declare` declare a node and an option.
-/

namespace CommandTree

/-- The key of the attribute that names a node or a parameter. -/
def nameKey : String := "name"

/-- The declaration of an option of a node with the given name. -/
def Param.declare (node : String) (param : Param) :
    Except ConfigurationError OptionDeclaration := do
  let ⟨attributes, valueType⟩ ← Interpreted.ofAttributes param.attributes
  match attributes.get? nameKey with
  | none => .error (.missingOptionName node)
  | some (.text name) =>
    if name = "" then .error (.optionNameTooShort node)
    else return ⟨"--" ++ name, identifierOf name, attributes.erase nameKey, valueType⟩
  | some _ => .error (.optionNameTooShort node)

namespace Entry

/-- The name of a node, its help and whether it is hidden, as literals. -/
def literals (entry : Entry) : Except ConfigurationError (OrderedMap Literal) := do
  let name ← Literal.ofText nameKey entry.name
  let help ← Literal.ofText "help" entry.help
  let hidden ← Literal.ofText "hidden" entry.hidden
  return .ofList [(nameKey, name), ("help", help), ("hidden", hidden)]

/-- The identifier of a node before it is made unique: that of its name, without quotes. -/
def baseIdentifier (entry : Entry) : String :=
  match Literal.ofText nameKey entry.name with
  | .ok (.text name) => identifierOf name
  | _ => identifierOf entry.name

/-- The declaration of a node.  Parameters other than options have none. -/
def declare (kind : NodeKind) (parent : Parent) (taken : List String) (entry : Entry) :
    Except ConfigurationError Declaration := do
  let attributes ← entry.literals
  let options ← (entry.params.filter Param.isOption).mapM (Param.declare entry.name)
  return ⟨kind, parent, claimIdentifier taken entry.baseIdentifier, attributes, options⟩

end Entry

/-- The declarations of some commands with the same parent. -/
def lowerCommands (parent : Parent) (taken : List String) :
    List Entry → Except ConfigurationError (List Declaration)
  | [] => .ok []
  | command :: rest => do
    let declaration ← command.declare .command parent taken
    return declaration :: (← lowerCommands parent (taken ++ [declaration.identifier]) rest)

mutual

/-- The declarations of a group and everything below it. -/
def Group.lower (parent : Parent) (taken : List String) :
    Group → Except ConfigurationError (List Declaration)
  | ⟨entry, groups, commands⟩ => do
    let declaration ← entry.declare .group parent taken
    let this := Parent.node declaration.identifier
    let taken := taken ++ [declaration.identifier]
    -- commands come before groups, whatever the order in the document
    let commands ← lowerCommands this taken commands
    let groups ← Group.lowerList this (taken ++ identifiers commands) groups
    return declaration :: (commands ++ groups)

/-- The declarations of some groups with the same parent. -/
def Group.lowerList (parent : Parent) (taken : List String) :
    List Group → Except ConfigurationError (List Declaration)
  | [] => .ok []
  | group :: rest => do
    let declarations ← group.lower parent taken
    return declarations ++
      (← Group.lowerList parent (taken ++ identifiers declarations) rest)

end

/-- The declarations of a top-level node. -/
def Node.lower (taken : List String) : Node → Except ConfigurationError (List Declaration)
  | .group g => g.lower .root taken
  | .command e => lowerCommands .root taken [e]

/-- The declarations of some top-level nodes. -/
def lowerNodes (taken : List String) : List Node → Except ConfigurationError (List Declaration)
  | [] => .ok []
  | node :: rest => do
    let declarations ← node.lower taken
    return declarations ++ (← lowerNodes (taken ++ identifiers declarations) rest)

/-- The declarations of a schema in document order. -/
def Schema.lower (schema : Schema) : Except ConfigurationError (List Declaration) :=
  lowerNodes [] schema.nodes

end CommandTree
