import CommandTree.Live.Basic
import CommandTree.Schema.Basic

/-!
# From live trees to schemas

A running program is described by the schema it could have been made from.  Nodes without a
permission get one and the same; below a group, commands and groups go into separate lists.

* `reflect` is the schema of some live trees.
* `LiveNode.reflect` is the node of a live tree.
-/

namespace CommandTree

/-- The permission of nodes without one, unless another one is asked for. -/
def defaultPermission : String := "developer"

/-- A text that may be absent, as a document writes it. -/
def wordOfText (text : Option String) : String :=
  text.getD absentWord

/-- A truth value as a document writes it. -/
def wordOfTruth (value : Bool) : String :=
  if value then "True" else "False"

/-- The parameter that describes a live one. -/
def LiveParam.reflect : LiveParam → Param
  | option name help type default required prompt =>
    { kind := .option
      attributes := .ofList [("name", name), ("help", wordOfText help),
        ("type", wordOfText type), ("default", wordOfText default),
        ("required", wordOfTruth required), ("prompt", wordOfText prompt)] }
  | argument name type default required =>
    { kind := .argument
      attributes := .ofList [("name", name), ("type", wordOfText type),
        ("default", wordOfText default), ("required", wordOfTruth required)] }

namespace LiveNode

/-- What a live node says about itself. -/
def reflectEntry (permission : String) (node : LiveNode) : Entry where
  name := node.name
  help := wordOfText node.help
  permission := some (node.permission.getD permission)
  hidden := wordOfTruth node.hidden
  params := node.params.map LiveParam.reflect

mutual

/-- The group that describes a live one. -/
def reflectGroup (permission : String) : LiveNode → Group
  | ⟨name, help, hidden, permission?, isGroup, params, children⟩ =>
    let entry :=
      reflectEntry permission ⟨name, help, hidden, permission?, isGroup, params, children⟩
    -- commands and groups keep their order among themselves
    let commands := children.filter (!LiveNode.isGroup ·)
    ⟨entry, reflectGroups permission children, commands.map (reflectEntry permission)⟩

/-- The groups among some live nodes. -/
def reflectGroups (permission : String) : List LiveNode → List Group
  | [] => []
  | child :: rest =>
    if child.isGroup then reflectGroup permission child :: reflectGroups permission rest
    else reflectGroups permission rest

end

/-- The node that describes a live one.  A live node that can have no nodes below it is a
command. -/
def reflect (permission : String) (node : LiveNode) : Node :=
  if node.isGroup then .group (node.reflectGroup permission)
  else .command (node.reflectEntry permission)

end LiveNode

/-- The schema that describes some live trees. -/
def reflect (permission : String) (roots : List LiveNode) : Schema :=
  ⟨roots.map (LiveNode.reflect permission)⟩

end CommandTree
