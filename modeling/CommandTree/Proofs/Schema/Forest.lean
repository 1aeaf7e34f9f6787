import CommandTree.Proofs.Forest.Basic
import CommandTree.Schema.Basic

/-!
# Schemas as forests

The forest of a schema lists the commands of a group before its groups, so its labels are the nodes
in document order.

* `Schema.forest` is the forest of a schema, and `Schema.ofForest` the schema of a forest.
* `Schema.preorder_forest` : the order of the forest is document order.
* `Schema.ofForest_forest` : a schema is determined by its forest.
* `Schema.forest_ofForest` : every forest of the same shape is that of a schema.
* `Schema.enclosers` gives for every node in document order the number of the group around it.
* `Schema.mapEntries` changes what every node says about itself and keeps the tree.
-/

namespace CommandTree

/-- The forest of some commands, which have nothing below them. -/
def Forest.ofCommands : List Entry → Forest (NodeKind × Entry)
  | [] => .nil
  | command :: rest => .cons (.command, command) .nil (ofCommands rest)

mutual

/-- The forest of a group, which is one tree. -/
def Group.forest : Group → Forest (NodeKind × Entry)
  | ⟨entry, groups, commands⟩ =>
    .cons (.group, entry) ((Forest.ofCommands commands).append (Group.forestOfList groups)) .nil

/-- The forest of some groups. -/
def Group.forestOfList : List Group → Forest (NodeKind × Entry)
  | [] => .nil
  | group :: rest => group.forest.append (Group.forestOfList rest)

end

/-- The forest of a top-level node, which is one tree. -/
def Node.forest : Node → Forest (NodeKind × Entry)
  | .group g => g.forest
  | .command e => Forest.ofCommands [e]

/-- The forest of some top-level nodes. -/
def Node.forestOfList : List Node → Forest (NodeKind × Entry)
  | [] => .nil
  | node :: rest => node.forest.append (Node.forestOfList rest)

namespace Schema

/-- The nodes of a schema as a forest. -/
def forest (schema : Schema) : Forest (NodeKind × Entry) :=
  Node.forestOfList schema.nodes

/-- For every node in document order, the number of the group directly around it; nodes at the top
have none. -/
def enclosers (schema : Schema) : List (Option Nat) :=
  schema.forest.enclosers none 0

end Schema

/-! ### Document order -/

theorem Forest.preorder_ofCommands (commands : List Entry) :
    (ofCommands commands).preorder = commands.map fun command => (.command, command) := by
  induction commands with
  | nil => rfl
  | cons command rest ih => simp [ofCommands, preorder, ih]

mutual

theorem Group.preorder_forest : ∀ group : Group, group.forest.preorder = group.preorder
  | ⟨entry, groups, commands⟩ => by
    simp [Group.forest, Group.preorder, Forest.preorder, Forest.preorder_ofCommands,
      Group.preorder_forestOfList groups]

theorem Group.preorder_forestOfList :
    ∀ groups : List Group, (Group.forestOfList groups).preorder = Group.preorderList groups
  | [] => rfl
  | group :: rest => by
    simp [Group.forestOfList, Group.preorderList, Group.preorder_forest group,
      Group.preorder_forestOfList rest]

end

theorem Node.preorder_forest (node : Node) : node.forest.preorder = node.preorder := by
  cases node with
  | group g => exact g.preorder_forest
  | command e => rfl

theorem Schema.preorder_forest (schema : Schema) : schema.forest.preorder = schema.preorder := by
  obtain ⟨nodes⟩ := schema
  simp only [forest, preorder]
  induction nodes with
  | nil => rfl
  | cons node rest ih => simp [Node.forestOfList, node.preorder_forest, ih]

/-! ### Only groups have nodes below them -/

theorem Forest.innerNodes_ofCommands (commands : List Entry) :
    (ofCommands commands).InnerNodes (·.1 = .group) := by
  induction commands with
  | nil => trivial
  | cons command rest ih => exact ⟨fun h => absurd rfl h, trivial, ih⟩

mutual

theorem Group.innerNodes_forest : ∀ group : Group, group.forest.InnerNodes (·.1 = .group)
  | ⟨_, groups, commands⟩ =>
    ⟨fun _ => rfl, (Forest.innerNodes_ofCommands commands).append
      (Group.innerNodes_forestOfList groups), trivial⟩

theorem Group.innerNodes_forestOfList :
    ∀ groups : List Group, (Group.forestOfList groups).InnerNodes (·.1 = .group)
  | [] => trivial
  | group :: rest => group.innerNodes_forest.append (Group.innerNodes_forestOfList rest)

end

theorem Schema.innerNodes_forest (schema : Schema) :
    schema.forest.InnerNodes (·.1 = .group) := by
  obtain ⟨nodes⟩ := schema
  simp only [forest]
  induction nodes with
  | nil => trivial
  | cons node rest ih =>
    refine Forest.InnerNodes.append ?_ ih
    cases node with
    | group g => exact g.innerNodes_forest
    | command e => exact Forest.innerNodes_ofCommands [e]

/-! ### From a forest back to a schema -/

namespace Forest

/-- The commands at the top of a forest. -/
def commands : Forest (NodeKind × Entry) → List Entry
  | nil => []
  | cons (.command, entry) _ rest => entry :: rest.commands
  | cons (.group, _) _ rest => rest.commands

/-- The groups at the top of a forest. -/
def groups : Forest (NodeKind × Entry) → List Group
  | nil => []
  | cons (.command, _) _ rest => rest.groups
  | cons (.group, entry) below rest => ⟨entry, below.groups, below.commands⟩ :: rest.groups

/-- The nodes at the top of a forest. -/
def nodes : Forest (NodeKind × Entry) → List Node
  | nil => []
  | cons (.command, entry) _ rest => .command entry :: rest.nodes
  | cons (.group, entry) below rest => .group ⟨entry, below.groups, below.commands⟩ :: rest.nodes

theorem commands_append (a b : Forest (NodeKind × Entry)) :
    (a.append b).commands = a.commands ++ b.commands := by
  induction a with
  | nil => rfl
  | cons label below rest _ ih =>
    obtain ⟨_ | _, entry⟩ := label <;> simp [append, commands, ih]

theorem groups_append (a b : Forest (NodeKind × Entry)) :
    (a.append b).groups = a.groups ++ b.groups := by
  induction a with
  | nil => rfl
  | cons label below rest _ ih =>
    obtain ⟨_ | _, entry⟩ := label <;> simp [append, groups, ih]

theorem nodes_append (a b : Forest (NodeKind × Entry)) :
    (a.append b).nodes = a.nodes ++ b.nodes := by
  induction a with
  | nil => rfl
  | cons label below rest _ ih =>
    obtain ⟨_ | _, entry⟩ := label <;> simp [append, nodes, ih]

@[simp] theorem commands_ofCommands (entries : List Entry) :
    (ofCommands entries).commands = entries := by
  induction entries with
  | nil => rfl
  | cons entry rest ih => simp [ofCommands, commands, ih]

@[simp] theorem groups_ofCommands (entries : List Entry) : (ofCommands entries).groups = [] := by
  induction entries with
  | nil => rfl
  | cons entry rest ih => simp [ofCommands, groups, ih]

end Forest

mutual

theorem Group.commands_forest : ∀ group : Group, group.forest.commands = []
  | ⟨_, _, _⟩ => rfl

theorem Group.groups_forest : ∀ group : Group, group.forest.groups = [group]
  | ⟨entry, groups, commands⟩ => by
    simp [Group.forest, Forest.groups, Forest.groups_append, Forest.commands_append,
      Group.groups_forestOfList groups, Group.commands_forestOfList groups]

theorem Group.commands_forestOfList :
    ∀ groups : List Group, (Group.forestOfList groups).commands = []
  | [] => rfl
  | group :: rest => by
    simp [Group.forestOfList, Forest.commands_append, Group.commands_forest group,
      Group.commands_forestOfList rest]

theorem Group.groups_forestOfList :
    ∀ groups : List Group, (Group.forestOfList groups).groups = groups
  | [] => rfl
  | group :: rest => by
    simp [Group.forestOfList, Forest.groups_append, Group.groups_forest group,
      Group.groups_forestOfList rest]

end

theorem Node.nodes_forest (node : Node) : node.forest.nodes = [node] := by
  cases node with
  | group g =>
    have h := g.groups_forest
    obtain ⟨entry, groups, commands⟩ := g
    simpa [Node.forest, Group.forest, Forest.nodes, Forest.groups] using h
  | command e => rfl

/-- The schema of a forest: what lies below commands is dropped, and below a group commands and
groups go into separate lists. -/
def Schema.ofForest (forest : Forest (NodeKind × Entry)) : Schema :=
  ⟨forest.nodes⟩

/-- **A schema is determined by its forest.** -/
theorem Schema.ofForest_forest (schema : Schema) : ofForest schema.forest = schema := by
  obtain ⟨nodes⟩ := schema
  simp only [ofForest, forest, Schema.mk.injEq]
  induction nodes with
  | nil => rfl
  | cons node rest ih => simp [Node.forestOfList, Forest.nodes_append, node.nodes_forest, ih]

/-! ### Which forests are those of schemas -/

section Shape

variable {forest : Forest (NodeKind × Entry)}

theorem Forest.exists_ofCommands {commands : List Entry}
    (h : (ofCommands commands).Matches (fun a b => a.1 = b.1) forest) :
    ∃ commands', ofCommands commands' = forest := by
  induction commands generalizing forest with
  | nil =>
    cases h
    exact ⟨[], rfl⟩
  | cons command rest ih =>
    obtain ⟨⟩ | ⟨hkind, hbelow, hrest⟩ := h
    rename_i label below' rest'
    obtain ⟨kind, entry⟩ := label
    obtain ⟨commands', rfl⟩ := ih hrest
    cases hbelow
    obtain rfl : NodeKind.command = kind := hkind
    exact ⟨entry :: commands', rfl⟩

mutual

theorem Group.exists_forest : ∀ (group : Group) (forest : Forest (NodeKind × Entry)),
    group.forest.Matches (fun a b => a.1 = b.1) forest → ∃ group', Group.forest group' = forest
  | ⟨entry, groups, commands⟩, .cons (kind, entry') below rest, h => by
    obtain ⟨⟩ | ⟨hkind, hbelow, ⟨⟩⟩ := h
    obtain ⟨c, c', rfl, hc, hc'⟩ := hbelow.of_append
    obtain ⟨commands', rfl⟩ := Forest.exists_ofCommands hc
    obtain ⟨groups', rfl⟩ := Group.exists_forestOfList groups _ hc'
    obtain rfl : NodeKind.group = kind := hkind
    exact ⟨⟨entry', groups', commands'⟩, rfl⟩

theorem Group.exists_forestOfList :
    ∀ (groups : List Group) (forest : Forest (NodeKind × Entry)),
      (Group.forestOfList groups).Matches (fun a b => a.1 = b.1) forest →
        ∃ groups', Group.forestOfList groups' = forest
  | [], .nil, _ => ⟨[], rfl⟩
  | group :: rest, forest, h => by
    obtain ⟨c, c', rfl, hc, hc'⟩ := Forest.Matches.of_append h
    obtain ⟨group', rfl⟩ := Group.exists_forest group _ hc
    obtain ⟨rest', rfl⟩ := Group.exists_forestOfList rest _ hc'
    exact ⟨group' :: rest', rfl⟩

end

/-- A forest that has the shape and the kinds of a schema is the forest of a schema. -/
theorem Schema.forest_ofForest {schema : Schema}
    (h : schema.forest.Matches (fun a b => a.1 = b.1) forest) :
    (ofForest forest).forest = forest := by
  suffices hschema : ∃ schema' : Schema, schema'.forest = forest by
    obtain ⟨schema', rfl⟩ := hschema
    rw [ofForest_forest]
  obtain ⟨nodes⟩ := schema
  simp only [Schema.forest] at h
  induction nodes generalizing forest with
  | nil =>
    cases h
    exact ⟨⟨[]⟩, rfl⟩
  | cons node rest ih =>
    obtain ⟨c, c', rfl, hc, hc'⟩ := Forest.Matches.of_append h
    obtain ⟨⟨rest'⟩, rfl⟩ := ih hc'
    cases node with
    | group g =>
      obtain ⟨group', rfl⟩ := g.exists_forest c hc
      exact ⟨⟨.group group' :: rest'⟩, rfl⟩
    | command e =>
      have hcommands : (Forest.ofCommands [e]).Matches (fun a b => a.1 = b.1) c := hc
      obtain ⟨⟩ | ⟨hkind, ⟨⟩, ⟨⟩⟩ := hcommands
      rename_i label
      obtain ⟨kind, entry⟩ := label
      obtain rfl : NodeKind.command = kind := hkind
      exact ⟨⟨.command entry :: rest'⟩, rfl⟩

end Shape

/-! ### Changing the nodes and keeping the tree -/

section MapEntries

variable (f : Entry → Entry)

mutual

/-- Changes what the nodes of a group say about themselves. -/
def Group.mapEntries : Group → Group
  | ⟨entry, groups, commands⟩ => ⟨f entry, Group.mapEntriesList groups, commands.map f⟩

/-- Changes what the nodes of some groups say about themselves. -/
def Group.mapEntriesList : List Group → List Group
  | [] => []
  | group :: rest => group.mapEntries :: Group.mapEntriesList rest

end

/-- Changes what the nodes below a top-level node and the node itself say about themselves. -/
def Node.mapEntries : Node → Node
  | .group g => .group (g.mapEntries f)
  | .command e => .command (f e)

/-- Changes what the nodes of a schema say about themselves. -/
def Schema.mapEntries (schema : Schema) : Schema :=
  ⟨schema.nodes.map (Node.mapEntries f)⟩

theorem Forest.ofCommands_map (commands : List Entry) :
    ofCommands (commands.map f) = (ofCommands commands).map (Prod.map id f) := by
  induction commands with
  | nil => rfl
  | cons command rest ih => simp [ofCommands, map, ih]

mutual

theorem Group.forest_mapEntries :
    ∀ group : Group, (group.mapEntries f).forest = group.forest.map (Prod.map id f)
  | ⟨entry, groups, commands⟩ => by
    simp [Group.mapEntries, Group.forest, Forest.map, Forest.map_append, Forest.ofCommands_map,
      Group.forestOfList_mapEntries groups]

theorem Group.forestOfList_mapEntries : ∀ groups : List Group,
    Group.forestOfList (Group.mapEntriesList f groups) =
      (Group.forestOfList groups).map (Prod.map id f)
  | [] => rfl
  | group :: rest => by
    simp [Group.mapEntriesList, Group.forestOfList, Forest.map_append,
      Group.forest_mapEntries group, Group.forestOfList_mapEntries rest]

end

theorem Schema.forest_mapEntries (schema : Schema) :
    (schema.mapEntries f).forest = schema.forest.map (Prod.map id f) := by
  obtain ⟨nodes⟩ := schema
  simp only [mapEntries, forest]
  induction nodes with
  | nil => rfl
  | cons node rest ih =>
    have hnode : (node.mapEntries f).forest = node.forest.map (Prod.map id f) := by
      cases node with
      | group g => exact g.forest_mapEntries f
      | command e => rfl
    simp [Node.forestOfList, Forest.map_append, ih, hnode]

end MapEntries

theorem Schema.mapEntries_congr {f g : Entry → Entry} {schema : Schema}
    (h : ∀ node ∈ schema.preorder, f node.2 = g node.2) :
    schema.mapEntries f = schema.mapEntries g := by
  have hforest : (schema.mapEntries f).forest = (schema.mapEntries g).forest := by
    rw [forest_mapEntries, forest_mapEntries]
    refine Forest.map_congr fun node hnode => ?_
    rw [schema.preorder_forest] at hnode
    simp only [Prod.map, h node hnode]
  rw [← ofForest_forest (schema.mapEntries f), hforest, ofForest_forest]

end CommandTree
