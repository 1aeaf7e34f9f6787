import CommandTree.Lint.Rule
import CommandTree.Outline
import CommandTree.Proofs.Schema.Forest

/-!
# Walks over a schema

The nodes of a schema are counted, located for the lint rules, and drawn as an outline by walks of
their own.  All of them meet the nodes in document order:

* `Schema.length_preorder` : the count is that of the nodes in document order.
* `Schema.map_node_visits` : the lint rules visit the nodes in document order.
* `Schema.outlineLines_eq` : an outline has one line for each node, in document order, which depends
  on the node and its place in the forest alone.
-/

namespace CommandTree

/-! ### Counting -/

mutual

theorem Group.length_preorder : ∀ group : Group, group.preorder.length = group.nodeCount
  | ⟨entry, groups, commands⟩ => by
    have hgroups := Group.length_preorderList groups
    simp only [Group.preorder, Group.nodeCount, List.length_append, List.length_cons,
      List.length_map]
    omega

theorem Group.length_preorderList :
    ∀ groups : List Group, (Group.preorderList groups).length = Group.nodeCountList groups
  | [] => rfl
  | group :: rest => by
    have hgroup := Group.length_preorder group
    have hrest := Group.length_preorderList rest
    simp only [Group.preorderList, Group.nodeCountList, List.length_append]
    omega

end

theorem Node.length_preorder (node : Node) : node.preorder.length = node.nodeCount := by
  cases node with
  | group g => exact g.length_preorder
  | command e => rfl

theorem Schema.length_preorder (schema : Schema) :
    schema.preorder.length = schema.nodeCount := by
  obtain ⟨nodes⟩ := schema
  simp only [preorder, nodeCount]
  induction nodes with
  | nil => rfl
  | cons node rest ih =>
    rw [List.flatMap_cons, List.length_append, ih, node.length_preorder]
    rfl

/-! ### Visits -/

/-- The node of a visit, without its location. -/
def Visit.node (visit : Visit) : NodeKind × Entry :=
  (visit.kind, visit.entry)

mutual

theorem Group.map_node_visits :
    ∀ (group : Group) (above : String), (group.visits above).map Visit.node = group.preorder
  | ⟨entry, groups, commands⟩, above => by
    have hgroups := Group.map_node_visitsList groups (joinLocation above entry.name)
    simp [Group.visits, Group.preorder, hgroups, Function.comp_def, Visit.node]

theorem Group.map_node_visitsList : ∀ (groups : List Group) (above : String),
    (Group.visitsList above groups).map Visit.node = Group.preorderList groups
  | [], _ => rfl
  | group :: rest, above => by
    rw [Group.visitsList, List.map_append, Group.map_node_visits group above,
      Group.map_node_visitsList rest above, Group.preorderList]

end

theorem Schema.map_node_visits (schema : Schema) :
    schema.visits.map Visit.node = schema.preorder := by
  rw [visits, preorder, List.map_flatMap]
  congr 1
  funext node
  cases node with
  | group g => exact g.map_node_visits ""
  | command e => rfl

/-! ### Outlines -/

/-- The nodes of a schema in document order, with their places. -/
def Schema.placed (schema : Schema) : List (Forest.Place × NodeKind × Entry) :=
  schema.forest.placed [] false

theorem Schema.map_snd_placed (schema : Schema) :
    schema.placed.map Prod.snd = schema.preorder := by
  rw [placed, Forest.map_snd_placed, schema.preorder_forest]

/-- The line of a node in an outline: indentation, or branches, for the nodes around it, and then
what the style shows of the node itself. -/
def outlineLine (style : OutlineStyle) (indent : String) (place : Forest.Place) (kind : NodeKind)
    (entry : Entry) : String :=
  match style with
  | .simple => indentedLine false indent place.around.length entry
  | .withHelp => indentedLine true indent place.around.length entry
  | .treeBox => boxLine (String.join (place.around.map boxCell)) place.last kind entry

section Indented

variable (help : Bool) (indent : String)

/-- The lines of a forest of nodes in an indented outline. -/
def Forest.indentedLines (around : List Bool) (more : Bool) (nodes : Forest (NodeKind × Entry)) :
    List String :=
  (nodes.placed around more).map fun node =>
    indentedLine help indent node.1.around.length node.2.2

theorem Forest.indentedLines_ofCommands (around : List Bool) (more : Bool)
    (commands : List Entry) : (ofCommands commands).indentedLines help indent around more =
      commands.map (indentedLine help indent around.length) := by
  induction commands with
  | nil => rfl
  | cons command rest ih =>
    simp only [indentedLines] at ih
    simp [indentedLines, ofCommands, placed, ih]

mutual

theorem Group.indentedLines_forest : ∀ (group : Group) (around : List Bool) (more : Bool),
    group.forest.indentedLines help indent around more =
      group.indentedLines help indent around.length
  | ⟨entry, groups, commands⟩, around, more => by
    have hcommands := fun inner more =>
      Forest.indentedLines_ofCommands help indent inner more commands
    have hgroups := Group.indentedLines_forestOfList groups
    simp only [Forest.indentedLines] at hcommands hgroups
    simp [Forest.indentedLines, Group.forest, Group.indentedLines, Forest.placed,
      Forest.placed_append, hcommands, hgroups]

theorem Group.indentedLines_forestOfList :
    ∀ (groups : List Group) (around : List Bool) (more : Bool),
      (Group.forestOfList groups).indentedLines help indent around more =
        Group.indentedLinesList help indent around.length groups
  | [], _, _ => rfl
  | group :: rest, around, more => by
    have hgroup := Group.indentedLines_forest group
    have hrest := Group.indentedLines_forestOfList rest
    simp only [Forest.indentedLines] at hgroup hrest
    simp [Forest.indentedLines, Group.forestOfList, Group.indentedLinesList, Forest.placed_append,
      hgroup, hrest]

end

theorem Schema.indentedLines_eq (schema : Schema) :
    schema.nodes.flatMap (Node.indentedLines help indent) =
      schema.forest.indentedLines help indent [] false := by
  obtain ⟨nodes⟩ := schema
  simp only [forest]
  induction nodes with
  | nil => rfl
  | cons node rest ih =>
    have hnode : ∀ more, node.forest.indentedLines help indent [] more =
        node.indentedLines help indent := by
      intro more
      cases node with
      | group g => exact g.indentedLines_forest help indent [] more
      | command e => exact Forest.indentedLines_ofCommands help indent [] more [e]
    simp only [Forest.indentedLines] at hnode ih
    simp [Forest.indentedLines, Node.forestOfList, Forest.placed_append, hnode, ih]

end Indented

/-! #### Drawn trees -/

/-- The lines of a forest of nodes in a drawn tree. -/
def Forest.boxLines (around : List Bool) (more : Bool) (nodes : Forest (NodeKind × Entry)) :
    List String :=
  (nodes.placed around more).map fun node =>
    boxLine (String.join (node.1.around.map boxCell)) node.1.last node.2.1 node.2.2

theorem Forest.boxLines_ofCommands (around : List Bool) (more : Bool) (commands : List Entry) :
    (ofCommands commands).boxLines around more =
      commandBoxLines (String.join (around.map boxCell)) (!more) commands := by
  induction commands with
  | nil => rfl
  | cons command rest ih =>
    have hlast : (ofCommands rest).isNil = rest.isEmpty := by cases rest <;> rfl
    simp only [boxLines] at ih
    simp [boxLines, ofCommands, placed, commandBoxLines, ih, hlast]

theorem Group.isNil_forest (group : Group) : group.forest.isNil = false := by
  obtain ⟨entry, groups, commands⟩ := group
  rfl

theorem Group.isNil_forestOfList (groups : List Group) :
    (Group.forestOfList groups).isNil = groups.isEmpty := by
  cases groups with
  | nil => rfl
  | cons group rest => simp [Group.forestOfList, Forest.isNil_append, group.isNil_forest]

mutual

theorem Group.boxLines_forest : ∀ (group : Group) (around : List Bool) (more : Bool),
    group.forest.boxLines around more =
      group.boxLines (String.join (around.map boxCell)) (!more)
  | ⟨entry, groups, commands⟩, around, more => by
    have hcommands := fun inner more => Forest.boxLines_ofCommands inner more commands
    have hgroups := fun inner => Group.boxLines_forestOfList groups inner
    simp only [Forest.boxLines] at hcommands hgroups
    have hlast : (Forest.nil : Forest (NodeKind × Entry)).isNil = true := rfl
    simp [Forest.boxLines, Group.forest, Group.boxLines, Forest.placed, Forest.placed_append,
      hcommands, hgroups, hlast, Group.isNil_forestOfList, String.join_append]

theorem Group.boxLines_forestOfList : ∀ (groups : List Group) (around : List Bool),
    (Group.forestOfList groups).boxLines around false =
      Group.boxLinesList (String.join (around.map boxCell)) groups
  | [], _ => rfl
  | group :: rest, around => by
    have hgroup := Group.boxLines_forest group
    have hrest := Group.boxLines_forestOfList rest
    simp only [Forest.boxLines] at hgroup hrest
    simp [Forest.boxLines, Group.forestOfList, Group.boxLinesList, Forest.placed_append,
      hgroup, hrest, Group.isNil_forestOfList]

end

theorem Node.isNil_forestOfList (nodes : List Node) :
    (Node.forestOfList nodes).isNil = nodes.isEmpty := by
  cases nodes with
  | nil => rfl
  | cons node rest =>
    have hnode : node.forest.isNil = false := by
      cases node with
      | group g => exact g.isNil_forest
      | command e => rfl
    simp [Node.forestOfList, Forest.isNil_append, hnode]

theorem Schema.nodeBoxLines_eq (schema : Schema) :
    nodeBoxLines schema.nodes = schema.forest.boxLines [] false := by
  obtain ⟨nodes⟩ := schema
  simp only [forest]
  induction nodes with
  | nil => rfl
  | cons node rest ih =>
    simp only [Forest.boxLines] at ih
    cases node with
    | group g =>
      have hgroup := g.boxLines_forest []
      simp only [Forest.boxLines] at hgroup
      simp [nodeBoxLines, Forest.boxLines, Node.forestOfList, Node.forest, Forest.placed_append,
        hgroup, ih, Node.isNil_forestOfList]
    | command e =>
      have hcommand := fun more => Forest.boxLines_ofCommands [] more [e]
      simp only [Forest.boxLines] at hcommand
      simp [nodeBoxLines, Forest.boxLines, Node.forestOfList, Node.forest, Forest.placed_append,
        hcommand, ih, Node.isNil_forestOfList, commandBoxLines]

/-- **An outline has one line for each node, in document order.** -/
theorem Schema.outlineLines_eq (schema : Schema) (style : OutlineStyle) (indent : String) :
    schema.outlineLines style indent =
      schema.placed.map fun node => outlineLine style indent node.1 node.2.1 node.2.2 := by
  cases style with
  | simple => exact schema.indentedLines_eq false indent
  | withHelp => exact schema.indentedLines_eq true indent
  | treeBox => exact schema.nodeBoxLines_eq

end CommandTree
