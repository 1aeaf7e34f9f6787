import CommandTree.Host.OfSchema
import CommandTree.Proofs.Host.Rebuilding

/-!
# Assembling hosts

Whatever a host is made from, every node says by itself what its command is, and the commands below
it are put in afterwards.  So a host is a forest of commands, assembled from the bottom up.

* `Forest.assemble` are the host commands of a forest of commands.
* `Forest.hosts_eq` : the host of a forest of declarations is assembled.
* `Schema.host_eq` : the host of a schema is assembled, on the forest of the schema.
-/

namespace CommandTree

/-- The host commands of a forest of commands, each with the ones below it. -/
def Forest.assemble : Forest HostCommand → List HostCommand
  | nil => []
  | cons command below rest => { command with subcommands := below.assemble } :: rest.assemble

/-- The host command of a node, without those below it. -/
def ownCommand (node : NodeKind × Entry) : HostCommand :=
  node.2.hostCommand (node.1 = .group) []

namespace Forest

theorem assemble_append (a b : Forest HostCommand) :
    (a.append b).assemble = a.assemble ++ b.assemble := by
  induction a with
  | nil => rfl
  | cons command below rest _ ih => simp [append, assemble, ih]

/-- The host of a forest of declarations is assembled from what each of them says. -/
theorem hosts_eq (forest : Forest Declaration) :
    forest.hosts = (forest.map (·.hostCommand [])).assemble := by
  induction forest with
  | nil => rfl
  | cons declaration below rest ih ih' =>
    simp [hosts, map, assemble, ih, ih', Declaration.hostCommand]

theorem assemble_ofCommands (commands : List Entry) :
    ((ofCommands commands).map ownCommand).assemble = commands.map Entry.host := by
  induction commands with
  | nil => rfl
  | cons command rest ih =>
    simp [ofCommands, map, assemble, ih, ownCommand, Entry.host, Entry.hostCommand]

end Forest

mutual

theorem Group.assemble_forest : ∀ group : Group,
    (group.forest.map ownCommand).assemble = [group.host]
  | ⟨entry, groups, commands⟩ => by
    simp [forest, host, Forest.map, Forest.map_append, Forest.assemble, Forest.assemble_append,
      Forest.assemble_ofCommands, Group.assemble_forestOfList groups, ownCommand, Entry.hostCommand]

theorem Group.assemble_forestOfList : ∀ groups : List Group,
    ((forestOfList groups).map ownCommand).assemble = hostList groups
  | [] => rfl
  | group :: rest => by
    simp [forestOfList, hostList, Forest.map_append, Forest.assemble_append,
      Group.assemble_forest group, Group.assemble_forestOfList rest]

end

/-- The host of a schema is assembled from what each node says. -/
theorem Schema.host_eq (schema : Schema) :
    schema.host = (schema.forest.map ownCommand).assemble := by
  obtain ⟨nodes⟩ := schema
  simp only [host, forest]
  induction nodes with
  | nil => rfl
  | cons node rest ih =>
    have hnode : (node.forest.map ownCommand).assemble = [node.host] := by
      cases node with
      | group g => exact g.assemble_forest
      | command e => exact Forest.assemble_ofCommands [e]
    simp [Node.forestOfList, Forest.map_append, Forest.assemble_append, hnode, ih]

end CommandTree
