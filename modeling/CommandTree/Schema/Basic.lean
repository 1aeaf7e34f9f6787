import CommandTree.OrderedMap

/-!
# Schemas

A schema describes the command tree of a program: groups, which hold commands and further groups,
and commands, which are leaves.  Both carry parameters.  Texts keep the encoding of the document,
in which the word `None` stands for an absent value and `True` and `False` for truth values; their
interpretation is left to whoever reads the tree.

* `Entry` is what a node says about itself, `Group` and `Node` are the tree.
* `Schema.preorder` lists the nodes in document order: a group, its commands, then its groups.
-/

namespace CommandTree

/-! ### Nodes and parameters -/

/-- The word that a document writes for an absent value. -/
def absentWord : String := "None"

/-- The two kinds of nodes. -/
inductive NodeKind where
  /-- A node that holds commands and groups. -/
  | group
  /-- A leaf. -/
  | command
  deriving DecidableEq, Repr

namespace NodeKind

/-- The word for a kind. -/
def name : NodeKind → String
  | group => "group"
  | command => "command"

/-- The kind that a word names. -/
def ofName? (name : String) : Option NodeKind :=
  if name = "group" then some group
  else if name = "command" then some command
  else none

end NodeKind

/-- The two kinds of parameters. -/
inductive ParamKind where
  /-- A parameter with a flag. -/
  | option
  /-- A parameter with a position. -/
  | argument
  deriving DecidableEq, Repr

namespace ParamKind

/-- The word for a kind of parameter. -/
def name : ParamKind → String
  | option => "option"
  | argument => "argument"

/-- The kind of parameter that a word names. -/
def ofName? (name : String) : Option ParamKind :=
  if name = "option" then some option
  else if name = "argument" then some argument
  else none

end ParamKind

/-- A parameter of a group or a command. -/
structure Param where
  /-- Whether it is an option or an argument. -/
  kind : ParamKind
  /-- Its attributes, such as `name`, `help` and `type`, in order. -/
  attributes : OrderedMap String
  deriving DecidableEq

namespace Param

/-- Whether a parameter has a flag. -/
def isOption (param : Param) : Bool :=
  param.kind = .option

/-- The value of an attribute. -/
def get? (param : Param) (key : String) : Option String :=
  param.attributes.get? key

end Param

/-- What a node says about itself.  This is all there is to a command. -/
structure Entry where
  /-- The name under which the node is invoked. -/
  name : String
  /-- The help text. -/
  help : String
  /-- Who may invoke the node. -/
  permission : Option String
  /-- Whether the node is left out of listings, as a truth word. -/
  hidden : String
  /-- The parameters. -/
  params : List Param
  deriving DecidableEq

/-- A group with everything below it. -/
structure Group where
  /-- What the group says about itself. -/
  entry : Entry
  /-- The groups directly below. -/
  groups : List Group
  /-- The commands directly below. -/
  commands : List Entry

/-- A node at the top of a schema. -/
inductive Node where
  /-- A group. -/
  | group (group : Group)
  /-- A command. -/
  | command (entry : Entry)

/-- The groups and commands of a document, in order. -/
structure Schema where
  /-- The top-level nodes. -/
  nodes : List Node

/-! ### Equality -/

mutual

/-- Decides whether two groups are equal. -/
def Group.decEq : (a b : Group) → Decidable (a = b)
  | ⟨entry, groups, commands⟩, ⟨entry', groups', commands'⟩ =>
    if h : entry = entry' ∧ commands = commands' then
      match Group.decEqList groups groups' with
      | isTrue h' => isTrue (by rw [h.1, h.2, h'])
      | isFalse h' => isFalse (by simp [h'])
    else isFalse fun h' => h (by simp at h'; exact ⟨h'.1, h'.2.2⟩)

/-- Decides whether two lists of groups are equal. -/
def Group.decEqList : (a b : List Group) → Decidable (a = b)
  | [], [] => isTrue rfl
  | [], _ :: _ => isFalse (by simp)
  | _ :: _, [] => isFalse (by simp)
  | group :: rest, group' :: rest' =>
    match Group.decEq group group', Group.decEqList rest rest' with
    | isTrue h, isTrue h' => isTrue (by rw [h, h'])
    | isFalse h, _ => isFalse (by simp [h])
    | _, isFalse h => isFalse (by simp [h])

end

instance : DecidableEq Group := Group.decEq

deriving instance DecidableEq for Node
deriving instance DecidableEq for Schema

/-! ### The nodes of a tree -/

namespace Node

/-- What a node says about itself. -/
def entry : Node → Entry
  | group g => g.entry
  | command e => e

/-- The kind of a node. -/
def kind : Node → NodeKind
  | group _ => .group
  | command _ => .command

end Node

mutual

/-- The number of nodes of a group, itself included. -/
def Group.nodeCount : Group → Nat
  | ⟨_, groups, commands⟩ => 1 + commands.length + Group.nodeCountList groups

/-- The number of nodes of some groups. -/
def Group.nodeCountList : List Group → Nat
  | [] => 0
  | group :: rest => group.nodeCount + Group.nodeCountList rest

end

mutual

/-- The nodes of a group in document order: the group, its commands, then the nodes of its
groups. -/
def Group.preorder : Group → List (NodeKind × Entry)
  | ⟨entry, groups, commands⟩ =>
    (.group, entry) :: (commands.map fun command => (.command, command)) ++
      Group.preorderList groups

/-- The nodes of some groups in document order. -/
def Group.preorderList : List Group → List (NodeKind × Entry)
  | [] => []
  | group :: rest => group.preorder ++ Group.preorderList rest

end

namespace Node

/-- The number of nodes below a top-level node, itself included. -/
def nodeCount : Node → Nat
  | group g => g.nodeCount
  | command _ => 1

/-- The nodes of a top-level node in document order. -/
def preorder : Node → List (NodeKind × Entry)
  | group g => g.preorder
  | command e => [(.command, e)]

end Node

namespace Schema

/-- The number of nodes of a schema. -/
def nodeCount (schema : Schema) : Nat :=
  schema.nodes.foldr (fun node count => node.nodeCount + count) 0

/-- The nodes of a schema in document order. -/
def preorder (schema : Schema) : List (NodeKind × Entry) :=
  schema.nodes.flatMap Node.preorder

/-- Whether a schema has no nodes. -/
def isEmpty (schema : Schema) : Bool :=
  schema.nodes.isEmpty

end Schema

end CommandTree
