import CommandTree.Declaration.EntryPoint
import CommandTree.Proofs.Declaration.Links
import CommandTree.Proofs.Host.Rebuilding

/-!
# The search for parents

A host is put together by looking, for every group, for the declarations that refer to it.  In an
arbitrary list this search may run in circles, or meet a declaration more than once.  With the
declarations of a schema it comes to an end, and it gives what a recursion over the schema gives
that never looks at a parent.

* `SearchEnds` : the search, without any bound on its depth, comes to an end.
* `Schema.ownHosts` : the recursion over the schema, in which every node takes the next declaration.
* `HostCommand.ownNodes` lists the commands of a host in document order, each without those below.
* `hostOfDeclarations_exact` : the search ends, agrees with the recursion, and meets every
  declaration once.
-/

namespace CommandTree

/-! ### The search without a bound -/

/-- Looking for parents in `all` comes to an end for the declarations found so far, with a host
command for each.  Below a group stand the commands with which the search for its identifier ends;
for a command nothing is searched. -/
inductive SearchEnds (all : List Declaration) : List Declaration → List HostCommand → Prop
  | nil : SearchEnds all [] []
  | command {declaration : Declaration} {found : List Declaration} {commands : List HostCommand}
      (hkind : declaration.kind = .command) (hrest : SearchEnds all found commands) :
      SearchEnds all (declaration :: found) (declaration.hostCommand [] :: commands)
  | group {declaration : Declaration} {found : List Declaration}
      {below commands : List HostCommand} (hkind : declaration.kind = .group)
      (hbelow : SearchEnds all (all.filter (·.parent = .node declaration.identifier)) below)
      (hrest : SearchEnds all found commands) :
      SearchEnds all (declaration :: found) (declaration.hostCommand below :: commands)

/-- One level of the search: the declarations of a parent are found, and what is below them. -/
theorem hostChildren_succ (all : List Declaration) (levels : Nat) (parent : Parent) :
    hostChildren all (levels + 1) parent = (all.filter (·.parent = parent)).map fun declaration =>
      declaration.hostCommand <| if declaration.kind = .group
        then hostChildren all levels (.node declaration.identifier) else [] := by
  rw [hostChildren]
  refine List.map_congr_left fun declaration _ => ?_
  cases declaration.kind <;> rfl

/-- Where the search ends, a bound on its depth makes no difference once it is large enough. -/
theorem SearchEnds.exists_levels {all found : List Declaration} {commands : List HostCommand}
    (h : SearchEnds all found commands) :
    ∃ enough, ∀ levels, enough ≤ levels → ∀ parent, all.filter (·.parent = parent) = found →
      hostChildren all (levels + 1) parent = commands := by
  -- the statement about the commands found must not mention the parent, so it is proved first
  suffices hmap : ∃ enough, ∀ levels, enough ≤ levels → found.map (fun declaration =>
      declaration.hostCommand <| if declaration.kind = .group
        then hostChildren all levels (.node declaration.identifier) else []) = commands by
    obtain ⟨enough, henough⟩ := hmap
    refine ⟨enough, fun levels hlevels parent hfound => ?_⟩
    rw [hostChildren_succ, hfound]
    exact henough levels hlevels
  induction h with
  | nil => exact ⟨0, fun _ _ => rfl⟩
  | command hkind _ ih =>
    obtain ⟨enough, henough⟩ := ih
    exact ⟨enough, fun levels hlevels => by simp [hkind, henough levels hlevels]⟩
  | @group declaration _ _ _ hkind _ _ ihBelow ihRest =>
    obtain ⟨enough, henough⟩ := ihBelow
    obtain ⟨enough', henough'⟩ := ihRest
    refine ⟨max (enough + 1) enough', fun levels hlevels => ?_⟩
    obtain ⟨levels, rfl⟩ : ∃ n, levels = n + 1 := ⟨levels - 1, by omega⟩
    rw [List.map_cons, henough' (levels + 1) (by omega), if_pos hkind, hostChildren_succ,
      henough levels (by omega)]

/-! ### A recursion over the schema -/

/-- Takes the next declaration. -/
def nextDeclaration : StateT (List Declaration) Option Declaration
  | [] => none
  | declaration :: rest => some (declaration, rest)

@[simp] theorem run_nextDeclaration (declaration : Declaration) (rest : List Declaration) :
    nextDeclaration.run (declaration :: rest) = some (declaration, rest) := rfl

/-- The host command of a command: that of the next declaration. -/
def Entry.ownHost (_ : Entry) : StateT (List Declaration) Option HostCommand := do
  return (← nextDeclaration).hostCommand []

mutual

/-- The host command of a group: that of the next declaration, and below it first those of its
commands, then those of its groups. -/
def Group.ownHost : Group → StateT (List Declaration) Option HostCommand
  | ⟨_, groups, commands⟩ => do
    let own ← nextDeclaration
    let commands ← commands.mapM Entry.ownHost
    let groups ← Group.ownHostList groups
    return own.hostCommand (commands ++ groups)

/-- The host commands of some groups. -/
def Group.ownHostList : List Group → StateT (List Declaration) Option (List HostCommand)
  | [] => return []
  | group :: rest => do
    let command ← group.ownHost
    return command :: (← Group.ownHostList rest)

end

/-- The host command of a top-level node. -/
def Node.ownHost : Node → StateT (List Declaration) Option HostCommand
  | .group g => g.ownHost
  | .command e => e.ownHost

/-- The host commands of a schema, if there is one declaration for each of its nodes. -/
def Schema.ownHosts (schema : Schema) (declarations : List Declaration) :
    Option (List HostCommand) :=
  match (schema.nodes.mapM Node.ownHost).run declarations with
  | some (commands, []) => some commands
  | _ => none

mutual

/-- The commands of a host in document order, each without those below it. -/
def HostCommand.ownNodes : HostCommand → List HostCommand
  | ⟨name, about, hidden, subcommandRequired, args, subcommands⟩ =>
    ⟨name, about, hidden, subcommandRequired, args, []⟩ :: HostCommand.ownNodesList subcommands

/-- The commands of some hosts in document order. -/
def HostCommand.ownNodesList : List HostCommand → List HostCommand
  | [] => []
  | command :: rest => command.ownNodes ++ HostCommand.ownNodesList rest

end

/-! ### The forest in the middle -/

namespace Forest

theorem hosts_append (a b : Forest Declaration) :
    (a.append b).hosts = a.hosts ++ b.hosts := by
  induction a with
  | nil => rfl
  | cons declaration below rest _ ih => simp [append, hosts, ih]

/-- The search ends for declarations that are found below each other as in a forest. -/
theorem FoundIn.searchEnds {all : List Declaration} {forest : Forest Declaration}
    (found : forest.FoundIn all) (inner : forest.InnerNodes (·.kind = .group)) :
    SearchEnds all forest.roots forest.hosts := by
  induction forest with
  | nil => exact .nil
  | cons declaration below rest ih ih' =>
    obtain ⟨hfilter, hbelow, hrest⟩ := found
    obtain ⟨hkind, innerBelow, innerRest⟩ := inner
    have hends := ih' hrest innerRest
    cases hk : declaration.kind with
    | group => exact .group hk (hfilter ▸ ih hbelow innerBelow) hends
    | command =>
      have hnil : below = nil := by
        by_contra hne
        simp [hkind hne] at hk
      subst hnil
      exact .command hk hends

/-- The commands of a forest are those of its declarations in document order. -/
theorem ownNodesList_hosts (forest : Forest Declaration) :
    HostCommand.ownNodesList forest.hosts = forest.preorder.map (·.hostCommand []) := by
  induction forest with
  | nil => rfl
  | cons declaration below rest ih ih' =>
    rw [hosts, HostCommand.ownNodesList, ih', preorder, List.map_cons, List.map_append, ← ih]
    rfl

end Forest

section Recursion

variable {r : NodeKind × Entry → Declaration → Prop} {declared : Forest Declaration}

/-- Some commands take the declarations in the places of their forest. -/
theorem Forest.run_ownHost_ofCommands {commands : List Entry}
    (h : (ofCommands commands).Matches r declared) (after : List Declaration) :
    (commands.mapM Entry.ownHost).run (declared.preorder ++ after) =
      some (declared.hosts, after) := by
  induction commands generalizing declared with
  | nil =>
    cases h
    rfl
  | cons command rest ih =>
    obtain ⟨⟩ | ⟨-, ⟨⟩, hrest⟩ := h
    simp [Entry.ownHost, preorder, hosts, ih hrest]

mutual

/-- A group takes the declarations in the places of its forest. -/
theorem Group.run_ownHost : ∀ (group : Group) {declared : Forest Declaration},
    group.forest.Matches r declared → ∀ after : List Declaration, ∃ command,
      declared.hosts = [command] ∧
        group.ownHost.run (declared.preorder ++ after) = some (command, after)
  | ⟨entry, groups, commands⟩, declared, h, after => by
    obtain ⟨⟩ | ⟨-, hbelow, ⟨⟩⟩ := h
    obtain ⟨c, c', rfl, hc, hc'⟩ := hbelow.of_append
    have hcommands := Forest.run_ownHost_ofCommands hc (c'.preorder ++ after)
    have hgroups := Group.run_ownHostList groups hc' after
    refine ⟨_, rfl, ?_⟩
    simp [Group.ownHost, Forest.preorder, Forest.hosts_append, hcommands, hgroups]

/-- Some groups take the declarations in the places of their forest. -/
theorem Group.run_ownHostList : ∀ (groups : List Group) {declared : Forest Declaration},
    (Group.forestOfList groups).Matches r declared → ∀ after : List Declaration,
      (Group.ownHostList groups).run (declared.preorder ++ after) = some (declared.hosts, after)
  | [], declared, h, after => by
    cases h
    rfl
  | group :: rest, declared, h, after => by
    obtain ⟨c, c', rfl, hc, hc'⟩ := Forest.Matches.of_append h
    obtain ⟨command, hcommand, hrun⟩ := Group.run_ownHost group hc (c'.preorder ++ after)
    have hrest := Group.run_ownHostList rest hc' after
    simp [Group.ownHostList, Forest.hosts_append, hcommand, hrun, hrest]

end

/-- A schema takes all declarations of a forest of its shape, each in its place. -/
theorem Schema.ownHosts_eq {schema : Schema} (h : schema.forest.Matches r declared) :
    schema.ownHosts declared.preorder = some declared.hosts := by
  suffices hrun : ∀ after, (schema.nodes.mapM Node.ownHost).run (declared.preorder ++ after) =
      some (declared.hosts, after) by
    have hall := hrun []
    rw [List.append_nil] at hall
    rw [ownHosts, hall]
  obtain ⟨nodes⟩ := schema
  simp only [Schema.forest] at h
  intro after
  induction nodes generalizing declared with
  | nil =>
    cases h
    rfl
  | cons node rest ih =>
    obtain ⟨c, c', rfl, hc, hc'⟩ := Forest.Matches.of_append h
    have hrest := ih hc'
    obtain ⟨command, hcommand, hnode⟩ : ∃ command, c.hosts = [command] ∧
        node.ownHost.run (c.preorder ++ (c'.preorder ++ after)) =
          some (command, c'.preorder ++ after) := by
      cases node with
      | group g => exact g.run_ownHost hc _
      | command e =>
        obtain ⟨⟩ | ⟨-, ⟨⟩, ⟨⟩⟩ := hc
        exact ⟨_, rfl, by simp [Node.ownHost, Entry.ownHost, Forest.preorder, Forest.hosts]⟩
    simp [Forest.hosts_append, hcommand, hnode, hrest]

end Recursion

/-! ### All together -/

/-- Some host commands are the tree of a schema, put together from its declarations. -/
structure RebuiltExactly (schema : Schema) (declarations : List Declaration)
    (commands : List HostCommand) : Prop where
  /-- The declarations are those of the nodes in document order. -/
  declares : List.Forall₂ Declares schema.preorder declarations
  /-- The recursion over the schema makes these commands, one of each declaration. -/
  own : schema.ownHosts declarations = some commands
  /-- The search for parents, which starts with the top level, ends with these commands. -/
  ends : SearchEnds declarations (topLevel declarations) commands
  /-- A bound on the depth of the search makes no difference, if it allows one level for each
  declaration. -/
  bounded : ∀ levels, declarations.length ≤ levels →
    hostChildren declarations levels .root = commands
  /-- In document order the commands are those of the declarations: none is missing, and none is
  there twice. -/
  once : HostCommand.ownNodesList commands = declarations.map (·.hostCommand [])

/-- **Looking for parents puts the tree of a schema together again**: the search ends, and it gives
the commands of a recursion over the schema that takes one declaration for each node. -/
theorem hostOfDeclarations_exact (schema : Schema) (declarations : List Declaration)
    (lowered : schema.lower = .ok declarations) :
    RebuiltExactly schema declarations (hostOfDeclarations declarations) := by
  have hdeclares := Schema.declares_preorder lowered
  obtain ⟨declared, hdeclare, rfl⟩ := Schema.lower_eq_ok.1 lowered
  obtain ⟨hmatch, hlinked, hdistinct, -⟩ := Forest.declare_spec hdeclare
  have inner := schema.innerNodes_declared hmatch
  have hout : ∀ name ∈ identifiers declared.preorder, Parent.root ≠ .node name := by simp
  have found : declared.FoundIn declared.preorder := hlinked.foundIn hdistinct hout fun _ _ => rfl
  have hroots : topLevel declared.preorder = declared.roots := hlinked.filter_parent hout
  rw [hlinked.hostOfDeclarations_preorder hdistinct inner]
  refine ⟨hdeclares, schema.ownHosts_eq hmatch, ?_, ?_, declared.ownNodesList_hosts⟩
  · rw [hroots]
    exact found.searchEnds inner
  · intro levels hlevels
    exact found.hostChildren_eq inner hroots hlevels

/-- A schema in which a group has commands and groups with its own name, and these again. -/
def homonymousTools : Schema :=
  ⟨[.group ⟨⟨"tool", "None", none, "False", []⟩,
      [⟨⟨"tool", "Inner", none, "True", []⟩, [⟨⟨"tool_2", "None", none, "False", []⟩, [], []⟩],
        [⟨"tool", "None", none, "False", []⟩]⟩],
      [⟨"tool_3", "None", none, "False", []⟩]⟩,
    .command ⟨"tool", "Last", none, "False", []⟩]⟩

/-- The declarations of `homonymousTools`. -/
def homonymousToolDeclarations : List Declaration :=
  let declared (kind : NodeKind) (parent : Parent) (identifier name : String) (help : Literal)
      (hidden : Bool) : Declaration :=
    ⟨kind, parent, identifier,
      .ofList [("name", .text name), ("help", help), ("hidden", .truth hidden)], []⟩
  [declared .group .root "tool" "tool" .absent false,
   declared .command (.node "tool") "tool_3" "tool_3" .absent false,
   declared .group (.node "tool") "tool_2" "tool" (.text "Inner") true,
   declared .command (.node "tool_2") "tool_4" "tool" .absent false,
   declared .group (.node "tool_2") "tool_2_2" "tool_2" .absent false,
   declared .command .root "tool_5" "tool" (.text "Last") false]

theorem hostOfDeclarations_exact_homonymousTools :
    homonymousTools.lower = .ok homonymousToolDeclarations ∧
      RebuiltExactly homonymousTools homonymousToolDeclarations
        (hostOfDeclarations homonymousToolDeclarations) :=
  have lowered : homonymousTools.lower = .ok homonymousToolDeclarations := by decide +kernel
  ⟨lowered, hostOfDeclarations_exact _ _ lowered⟩

end CommandTree
