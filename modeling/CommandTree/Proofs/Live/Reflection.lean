import CommandTree.Live.Reflection
import CommandTree.Proofs.Host.Assembly
import CommandTree.Proofs.Schema.Grammar

/-!
# Describing hosts

The schema that describes a host has the same tree: commands and groups keep their order among
themselves, and every command is described by itself.

* `Forest.reflect_assemble` : the description of a host is that of its commands, one by one.
* `Forest.reflect_hosts` : the same for the host of some declarations.
* `reflect_host_eq` : the same for the host of a schema.
-/

namespace CommandTree

/-! ### Live parameters -/

/-- The attributes that describe a live parameter, in order. -/
def ParamKind.keys : ParamKind → List String
  | option => optionKeys
  | argument => ["name", "type", "default", "required"]

/-- A live parameter is described by the attributes of its kind. -/
theorem LiveParam.keys_reflect (param : LiveParam) :
    param.reflect.attributes.keys = param.reflect.kind.keys := by
  cases param with
  | option => rfl
  | argument => rfl

/-! ### Commands -/

namespace HostCommand

/-- The kind of the node that describes a command, if there is nothing below it. -/
def nodeKind (command : HostCommand) : NodeKind :=
  if command.subcommandRequired then .group else .command

/-- What is below a command does not show in what it says about itself. -/
theorem reflectEntry_live (permission : String) (command : HostCommand)
    (subcommands : List HostCommand) :
    { command with subcommands := subcommands }.live.reflectEntry permission =
      command.live.reflectEntry permission := by
  obtain ⟨_, _, _, _, _, _⟩ := command
  simp only [live, LiveNode.reflectEntry]

theorem reflectGroup_live (permission : String) (command : HostCommand) :
    command.live.reflectGroup permission =
      ⟨command.live.reflectEntry permission,
        LiveNode.reflectGroups permission (liveList command.subcommands),
        ((liveList command.subcommands).filter (!LiveNode.isGroup ·)).map
          (LiveNode.reflectEntry permission)⟩ := by
  obtain ⟨_, _, _, _, _, _⟩ := command
  simp only [live, LiveNode.reflectGroup]

end HostCommand

namespace Forest

/-- What the commands of a host become in a schema. -/
def described (permission : String) (forest : Forest HostCommand) : Forest (NodeKind × Entry) :=
  forest.map fun command => (command.nodeKind, command.live.reflectEntry permission)

section Assembled

variable {forest : Forest HostCommand}

/-- A command is shown as a group exactly if one of the commands below it must be given. -/
theorem isGroup_live_assembled {command : HostCommand} {below : Forest HostCommand}
    (inner : below ≠ nil → command.subcommandRequired = true) :
    { command with subcommands := below.assemble }.live.isGroup = command.subcommandRequired := by
  cases below with
  | nil => simp [HostCommand.live, assemble]
  | cons _ _ _ => simp [HostCommand.live, assemble, inner]

theorem reflect_children (permission : String)
    (inner : forest.InnerNodes (·.subcommandRequired = true)) :
    LiveNode.reflectGroups permission (HostCommand.liveList forest.assemble) =
        (forest.described permission).groups ∧
      ((HostCommand.liveList forest.assemble).filter (!LiveNode.isGroup ·)).map
        (LiveNode.reflectEntry permission) = (forest.described permission).commands := by
  -- both lists at once, as the first command adds to one of them and skips the other
  induction forest with
  | nil => exact ⟨rfl, rfl⟩
  | cons command below rest ih ih' =>
    obtain ⟨hinner, innerBelow, innerRest⟩ := inner
    obtain ⟨hgroups, hcommands⟩ := ih innerBelow
    obtain ⟨hgroups', hcommands'⟩ := ih' innerRest
    have hgroup := isGroup_live_assembled hinner
    have hentry := command.reflectEntry_live permission below.assemble
    cases hrequired : command.subcommandRequired with
    | true =>
      simp_all [described, map, groups, commands, assemble, HostCommand.liveList,
        LiveNode.reflectGroups, HostCommand.reflectGroup_live, HostCommand.nodeKind]
    | false =>
      simp_all [described, map, groups, commands, assemble, HostCommand.liveList,
        LiveNode.reflectGroups, HostCommand.nodeKind]

/-- **The description of a host is that of its commands, one by one.** -/
theorem reflect_assemble (permission : String)
    (inner : forest.InnerNodes (·.subcommandRequired = true)) :
    reflect permission (HostCommand.liveList forest.assemble) =
      Schema.ofForest (forest.described permission) := by
  simp only [CommandTree.reflect, Schema.ofForest, Schema.mk.injEq]
  induction forest with
  | nil => rfl
  | cons command below rest _ ih' =>
    obtain ⟨hinner, innerBelow, innerRest⟩ := inner
    obtain ⟨hgroups, hcommands⟩ := reflect_children permission innerBelow
    have hgroup := isGroup_live_assembled hinner
    have hentry := command.reflectEntry_live permission below.assemble
    cases hrequired : command.subcommandRequired with
    | true =>
      simp_all [described, map, nodes, assemble, HostCommand.liveList, LiveNode.reflect,
        HostCommand.reflectGroup_live, HostCommand.nodeKind]
    | false =>
      simp_all [described, map, nodes, assemble, HostCommand.liveList, LiveNode.reflect,
        HostCommand.nodeKind]

end Assembled

end Forest

/-! ### Hosts of declarations -/

/-- What the host command of a declaration says about itself. -/
def Declaration.reflected (permission : String) (declaration : Declaration) : Entry :=
  (declaration.hostCommand []).live.reflectEntry permission

/-- What a declaration of a host becomes in a schema. -/
def Forest.reflected (permission : String) (forest : Forest Declaration) :
    Forest (NodeKind × Entry) :=
  forest.map fun declaration => (declaration.kind, declaration.reflected permission)

theorem Declaration.nodeKind_hostCommand (declaration : Declaration) :
    (declaration.hostCommand []).nodeKind = declaration.kind := by
  cases hkind : declaration.kind <;> simp [hostCommand, HostCommand.nodeKind, hkind]

/-- **The description of the host of a forest is that of its declarations, one by one.** -/
theorem Forest.reflect_hosts {forest : Forest Declaration} (permission : String)
    (inner : forest.InnerNodes (·.kind = .group)) :
    CommandTree.reflect permission (HostCommand.liveList forest.hosts) =
      Schema.ofForest (forest.reflected permission) := by
  rw [hosts_eq, reflect_assemble permission, described, map_map]
  · simp only [reflected, Function.comp_def, Declaration.nodeKind_hostCommand,
      Declaration.reflected]
  · exact inner.map fun declaration hkind => by simp [Declaration.hostCommand, hkind]

/-! ### Hosts of schemas -/

/-- What the host command of a node says about itself. -/
def Entry.reflected (permission : String) (entry : Entry) : Entry :=
  entry.host.live.reflectEntry permission

theorem Entry.reflectEntry_ownCommand (permission : String) (node : NodeKind × Entry) :
    (ownCommand node).live.reflectEntry permission = node.2.reflected permission := by
  simp [ownCommand, reflected, host, hostCommand, HostCommand.live, LiveNode.reflectEntry]

/-- The description of the host of a schema is that of its nodes, one by one. -/
theorem reflect_host_eq (permission : String) (schema : Schema) :
    reflect permission (HostCommand.liveList schema.host) =
      schema.mapEntries (Entry.reflected permission) := by
  have hkind : ∀ node : NodeKind × Entry, (ownCommand node).nodeKind = node.1 := by
    rintro ⟨_ | _, entry⟩ <;> simp [ownCommand, Entry.hostCommand, HostCommand.nodeKind]
  rw [schema.host_eq, Forest.reflect_assemble permission, Forest.described, Forest.map_map,
    ← Schema.ofForest_forest (schema.mapEntries _), Schema.forest_mapEntries]
  · simp only [Function.comp_def, hkind, Entry.reflectEntry_ownCommand]
    rfl
  · exact schema.innerNodes_forest.map fun node hgroup => by
      simp [ownCommand, Entry.hostCommand, hgroup]

end CommandTree
