import CommandTree.Json.Basic
import CommandTree.Schema.Basic

/-!
# Schemas as documents

A schema is written as an array of nodes.  A node lists its name, its help, its permission if it
has one, whether it is hidden, the groups and commands of a group, and its parameters, in this
order; a parameter lists its attributes and then its kind.

* `Schema.toJson` is the document of a schema.
-/

namespace CommandTree

/-- The key under which a parameter states its kind. -/
def paramKindKey : String := "param_type"

/-- A parameter in a document. -/
def Param.toJson (param : Param) : Json :=
  .object ((param.attributes.toList.map fun (key, value) => (key, .string value)) ++
    [(paramKindKey, .string param.kind.name)])

namespace Entry

/-- The members of a node before those that list its children. -/
def headMembers (entry : Entry) : Members Json :=
  [("name", .string entry.name), ("help", .string entry.help)] ++
    (entry.permission.map fun text => ("permission", Json.string text)).toList ++
    [("hidden", .string entry.hidden)]

/-- The member of a node that lists its parameters. -/
def paramsMember (entry : Entry) : String × Json :=
  ("params", .array (entry.params.map Param.toJson))

/-- A command in a document. -/
def toJson (entry : Entry) : Json :=
  .object (entry.headMembers ++ [entry.paramsMember])

end Entry

mutual

/-- A group in a document. -/
def Group.toJson : Group → Json
  | ⟨entry, groups, commands⟩ =>
    .object (entry.headMembers ++
      [("groups", .array (Group.toJsonList groups)),
       ("commands", .array (commands.map Entry.toJson)),
       entry.paramsMember])

/-- Some groups in a document. -/
def Group.toJsonList : List Group → List Json
  | [] => []
  | group :: rest => group.toJson :: Group.toJsonList rest

end

/-- A top-level node in a document. -/
def Node.toJson : Node → Json
  | .group g => g.toJson
  | .command e => e.toJson

/-- The document of a schema. -/
def Schema.toJson (schema : Schema) : Json :=
  .array (schema.nodes.map Node.toJson)

end CommandTree
