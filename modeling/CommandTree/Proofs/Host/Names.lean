import CommandTree.Proofs.Click.Injective
import CommandTree.Proofs.Host.Assembly
import CommandTree.Proofs.Live.Recompiling

/-!
# The names of two hosts

A host can be made from a schema as it stands, or from the declarations to which the schema is
lowered.  The first one copies names, the second one reads them; they have the same tree, and their
names differ by the quotes that a schema may put around them.

* `SameShape` relates two hosts of the same shape command by command.
* `NamedAlike` and `OptionNamedAlike` say how the names of two commands and their options agree.
* `hosts_namedAlike` : the two hosts of a schema are named alike.
* `namedDifferently_oneOption` : a node without a name and a flag with more dashes are not the same
  in both hosts.
-/

namespace CommandTree

/-! ### Hosts of the same shape -/

/-- Two hosts have the same shape, and commands in the same place are related. -/
inductive SameShape (r : HostCommand → HostCommand → Prop) :
    List HostCommand → List HostCommand → Prop
  | nil : SameShape r [] []
  | cons {command command' : HostCommand} {rest rest' : List HostCommand}
      (hnode : r command command')
      (hbelow : SameShape r command.subcommands command'.subcommands)
      (hrest : SameShape r rest rest') : SameShape r (command :: rest) (command' :: rest')

/-- An argument that was copied from a schema and an option that is declared have the same name, up
to quotes: the flag that is declared is that name after two dashes, and it is the flag of the host
argument of the option, if the name does not start with a dash itself. -/
def OptionNamedAlike (arg : HostArg) (option : OptionDeclaration) : Prop :=
  ∃ raw, arg.long = some raw ∧
    (∃ rest, Click.option option =
      "@click.option(" ++ Click.quote ("--" ++ Literal.unquote raw) ++ rest) ∧
    ((Literal.unquote raw).toList.head? ≠ some '-' →
      option.hostArg.long = some (Literal.unquote raw))

/-- A command that was copied from a schema and one that was made from a declaration have the same
names, up to quotes. -/
structure NamedAlike (copied made : HostCommand) (declaration : Declaration) : Prop where
  /-- The second command is that of the declaration. -/
  made_eq : made = declaration.hostCommand made.subcommands
  /-- The name is the same, unless the first one is the word for an absent value; then the second
  one is the identifier of the declaration. -/
  name : made.name =
    if copied.name = absentWord then declaration.identifier else Literal.unquote copied.name
  /-- The options are named alike, in order. -/
  options : List.Forall₂ OptionNamedAlike copied.args declaration.options

/-! ### Options -/

/-- The flag of an option comes first in its decorator. -/
theorem Click.exists_option_eq (option : OptionDeclaration) :
    ∃ rest, Click.option option = "@click.option(" ++ Click.quote option.flag ++ rest := by
  obtain ⟨rest, hrest⟩ : ∃ rest : List Char, (Click.option option).toList =
      "@click.option(".toList ++ (Click.quote option.flag).toList ++ rest := by
    rw [Click.option, String.toList_append, String.toList_append, List.cons_append,
      toList_arguments_cons, List.append_assoc, List.append_assoc, ← List.append_assoc]
    exact ⟨_, rfl⟩
  refine ⟨String.ofList rest, String.toList_inj.1 ?_⟩
  simp only [hrest, String.toList_append, String.toList_ofList]

theorem Param.WellFormed.exists_namedAlike {param : Param} (wellFormed : param.WellFormed)
    {node : String} {option : OptionDeclaration} (h : param.declare node = .ok option) :
    ∃ arg, param.hostArg? = some arg ∧ OptionNamedAlike arg option := by
  obtain ⟨raw, name, hraw, hname, -, hflag, -⟩ := (Param.normalized_of_declare h).flag
  -- an option that is declared has a name, so the schema does not say that there is none
  obtain rfl := Literal.eq_unquote_of_ofText_name hname
  have hoption : param.isOption = true := by simp [Param.isOption, wellFormed.kind]
  refine ⟨_, by rw [hostArg?, hraw]; rfl, raw, by simp [hoption], ?_, fun hdash => ?_⟩
  · rw [← hflag]
    exact Click.exists_option_eq option
  · rw [OptionDeclaration.hostArg, hflag, withoutDashes_flag hdash]

theorem options_namedAlike {node : String} {params : List Param} {options : List OptionDeclaration}
    (wellFormed : ∀ param ∈ params, param.WellFormed)
    (h : List.Forall₂ (fun param option => param.declare node = .ok option) params options) :
    List.Forall₂ OptionNamedAlike (params.filterMap Param.hostArg?) options := by
  induction h with
  | nil => exact .nil
  | @cons param option params options hoption _ ih =>
    obtain ⟨hparam, hparams⟩ := List.forall_mem_cons.1 wellFormed
    obtain ⟨arg, harg, hnamed⟩ := hparam.exists_namedAlike hoption
    rw [List.filterMap_cons, harg]
    exact .cons hnamed (ih hparams)

/-! ### Nodes -/

/-- All parameters of a well-formed node are options. -/
theorem Entry.WellFormed.filter_params {entry : Entry} (wellFormed : entry.WellFormed) :
    entry.params.filter Param.isOption = entry.params :=
  List.filter_eq_self.2 fun param hparam => by
    simp [Param.isOption, (wellFormed.params param hparam).kind]

theorem Declares.hostCommand_name {node : NodeKind × Entry} {declaration : Declaration}
    (h : Declares node declaration) (subcommands : List HostCommand) :
    (declaration.hostCommand subcommands).name =
      if node.2.name = absentWord then declaration.identifier
      else Literal.unquote node.2.name := by
  have hget : declaration.attributes.get? "name" = some node.2.nameLiteral := h.get?_nameKey
  simp only [Declaration.hostCommand, hget, Option.bind_some, Entry.nameLiteral]
  split_ifs <;> rfl

theorem Declares.namedAlike {node : NodeKind × Entry} {declaration : Declaration}
    (h : Declares node declaration) (wellFormed : node.2.WellFormed)
    (below below' : List HostCommand) :
    NamedAlike { ownCommand node with subcommands := below } (declaration.hostCommand below')
      declaration := by
  have hoptions := h.options
  rw [wellFormed.filter_params] at hoptions
  exact ⟨rfl, h.hostCommand_name below', options_namedAlike wellFormed.params hoptions⟩

/-! ### The whole tree -/

theorem Forest.Matches.sameShape {nodes : Forest (NodeKind × Entry)}
    {declared : Forest Declaration} (h : nodes.Matches Declares declared)
    (wellFormed : ∀ node ∈ nodes.preorder, node.2.WellFormed) {declarations : List Declaration}
    (hall : ∀ declaration ∈ declared.preorder, declaration ∈ declarations) :
    SameShape (fun copied made => ∃ declaration ∈ declarations, NamedAlike copied made declaration)
      (nodes.map ownCommand).assemble declared.hosts := by
  induction h with
  | nil => exact .nil
  | @cons node declaration below rest below' rest' hdeclares _ _ ih ih' =>
    simp only [preorder, List.forall_mem_cons, List.forall_mem_append] at wellFormed hall
    obtain ⟨hnode, hnodeBelow, hnodeRest⟩ := wellFormed
    obtain ⟨hself, hallBelow, hallRest⟩ := hall
    exact .cons ⟨declaration, hself, hdeclares.namedAlike hnode _ _⟩ (ih hnodeBelow hallBelow)
      (ih' hnodeRest hallRest)

/-- **The host that is copied from a schema and the host that is made from its declarations have the
same shape, and their commands and options are named alike.**  A command that has no name is named
by its identifier in the second host. -/
theorem hosts_namedAlike {format : DocumentFormat} {source text : String} {schema : Schema}
    {declarations : List Declaration} (loaded : Schema.ofText format source text = .ok schema)
    (lowered : schema.lower = .ok declarations) :
    SameShape (fun copied made => ∃ declaration ∈ declarations, NamedAlike copied made declaration)
      schema.host (hostOfDeclarations declarations) := by
  have wellFormed := Schema.wellFormed_of_ofText loaded
  obtain ⟨declared, rfl, hmatch, -, hhost⟩ := Schema.exists_declared lowered
  unfold Schema.WellFormed at wellFormed
  rw [← schema.preorder_forest] at wellFormed
  rw [hhost, schema.host_eq]
  exact hmatch.sameShape wellFormed fun _ hmem => hmem

/-- A group without a name, above a command whose name and flag have quotes around them. -/
def quotedFlag : Schema :=
  ⟨[.group ⟨⟨"None", "All tools", none, "False", []⟩, [],
    [⟨"\"run\"", "Run", none, "False", [⟨.option, .ofList [("name", "\"force\""), ("help", "None"),
      ("type", "BOOL"), ("default", "None"), ("required", "False"), ("prompt", "None")]⟩]⟩]⟩]⟩

theorem hosts_namedAlike_quotedFlag :
    ∃ text, Schema.ofText .json "schema.json" text = .ok quotedFlag ∧
      ∃ declarations, quotedFlag.lower = .ok declarations ∧
        SameShape
          (fun copied made => ∃ declaration ∈ declarations, NamedAlike copied made declaration)
          quotedFlag.host (hostOfDeclarations declarations) := by
  have wellFormed : quotedFlag.WellFormed := by decide +kernel
  have hspace : Json.skipSpace "\n".toList = [] := by decide
  have loaded := wellFormed.ofText_toText (by decide +kernel) hspace "schema.json"
  obtain ⟨declarations, lowered⟩ : ∃ declarations, quotedFlag.lower = .ok declarations :=
    ⟨_, by rfl⟩
  exact ⟨_, loaded, declarations, lowered, hosts_namedAlike loaded lowered⟩

/-! ### Names that differ -/

/-- Two commands have the same names, and their options the same flags, up to quotes in the first
one. -/
def SameNames (copied made : HostCommand) : Prop :=
  made.name = Literal.unquote copied.name ∧
    List.Forall₂ (fun arg arg' => arg'.long = arg.long.map Literal.unquote) copied.args made.args

/-- A schema that is read from some text, while its two hosts are named differently. -/
def Schema.NamedDifferently (schema : Schema) : Prop :=
  (∃ text, ofText .json "schema.json" text = .ok schema) ∧
    ∃ declarations, schema.lower = .ok declarations ∧
      ¬ SameShape SameNames schema.host (hostOfDeclarations declarations)

/-- The names and the flags of some commands. -/
def HostCommand.visibleNames (commands : List HostCommand) : List (String × List (Option String)) :=
  commands.map fun command => (command.name, command.args.map HostArg.long)

theorem SameShape.visibleNames_eq {commands commands' : List HostCommand}
    (h : SameShape SameNames commands commands') :
    HostCommand.visibleNames commands' = (HostCommand.visibleNames commands).map
      (Prod.map Literal.unquote (List.map (Option.map Literal.unquote))) := by
  have hflags : ∀ {args args' : List HostArg},
      List.Forall₂ (fun arg arg' => arg'.long = arg.long.map Literal.unquote) args args' →
        args'.map HostArg.long = (args.map HostArg.long).map (Option.map Literal.unquote) := by
    intro args args' hargs
    induction hargs with
    | nil => rfl
    | cons harg _ ih => rw [List.map_cons, List.map_cons, List.map_cons, harg, ih]
  simp only [HostCommand.visibleNames]
  induction h with
  | nil => rfl
  | cons hnode _ _ _ ih =>
    rw [List.map_cons, List.map_cons, List.map_cons, ih, hnode.1, hflags hnode.2]
    rfl

/-- A command without a name, and a flag that starts with a dash of its own: neither is named in the
second host as in the first one. -/
theorem namedDifferently_oneOption :
    (oneOption "None" "Run" "v").NamedDifferently ∧
      (oneOption "run" "Run" "-v").NamedDifferently := by
  have hspace : Json.skipSpace "\n".toList = [] := by decide
  constructor
  · have wellFormed : (oneOption "None" "Run" "v").WellFormed := by decide +kernel
    have loaded := wellFormed.ofText_toText (by decide +kernel) hspace "schema.json"
    have lowered : (oneOption "None" "Run" "v").lower =
        .ok [oneOptionDeclaration "none_" .absent (.text "Run") "--v" "v"] := by decide +kernel
    refine ⟨⟨_, loaded⟩, _, lowered, fun h => ?_⟩
    exact absurd h.visibleNames_eq (by decide +kernel)
  · have wellFormed : (oneOption "run" "Run" "-v").WellFormed := by decide +kernel
    have loaded := wellFormed.ofText_toText (by decide +kernel) hspace "schema.json"
    have lowered : (oneOption "run" "Run" "-v").lower =
        .ok [oneOptionDeclaration "run" (.text "run") (.text "Run") "---v" "_v"] := by
      decide +kernel
    refine ⟨⟨_, loaded⟩, _, lowered, fun h => ?_⟩
    exact absurd h.visibleNames_eq (by decide +kernel)

end CommandTree
