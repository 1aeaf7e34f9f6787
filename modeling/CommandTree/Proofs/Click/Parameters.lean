import CommandTree.Proofs.Declaration.DocumentOrder
import CommandTree.Proofs.Identifier.Keywords
import CommandTree.Proofs.Schema.RoundTrip

/-!
# The parameters of generated functions

The function of a declaration has a parameter for the context and one for the value of each option.
An identifier is found for the name of every option by itself, so that options whose names lead to
one identifier share it: the function then repeats a parameter, and the values of these options
share one entry of the context.

* `Click.parameters` are the parameters of a function, `Click.contextEntries` what it puts into the
  context.
* `BindsOptions` says what becomes of the names of the options of a node; `Declares.bindsOptions` :
  every declaration of the node is of this kind.
* `Schema.bindsOptions_preorder` : so the parameters of a function are distinct, and the context
  has an entry for every option, exactly if the names of the options lead to distinct identifiers.
-/

namespace CommandTree

/-! ### Parameters and entries -/

namespace Click

/-- The parameters of the function of a declaration: the context, then the options. -/
def parameters (declaration : Declaration) : List String :=
  "ctx" :: declaration.options.map OptionDeclaration.argument

/-- The pairs that the function of a declaration lists for the context: with the identifier of each
option the parameter of that name. -/
def contextPairs (declaration : Declaration) : List (String × String) :=
  declaration.options.map fun option => (option.argument, option.argument)

/-- What these pairs put into the context.  Of two entries under one name the later one counts. -/
def contextEntries (declaration : Declaration) : OrderedMap String :=
  .ofList (contextPairs declaration)

theorem functionHead_eq (declaration : Declaration) :
    functionHead declaration =
      "def " ++ declaration.identifier ++ "(" ++ arguments (parameters declaration) ++ "):" :=
  rfl

theorem contextCall_eq {declaration : Declaration} (h : declaration.options ≠ []) :
    contextCall declaration.options =
      "set_context_obj(ctx, \x7b" ++
        arguments ((contextPairs declaration).map fun pair => quote pair.1 ++ ": " ++ pair.2) ++
        "\x7d)" := by
  rw [contextPairs, List.map_map]
  unfold contextCall
  split
  · contradiction
  · rfl

theorem contextPairs_eq (declaration : Declaration) :
    contextPairs declaration =
      (declaration.options.map OptionDeclaration.argument).map fun name => (name, name) := by
  rw [contextPairs, List.map_map]
  rfl

theorem keys_contextPairs (declaration : Declaration) :
    Members.keys (contextPairs declaration) =
      declaration.options.map OptionDeclaration.argument := by
  rw [Members.keys, contextPairs, List.map_map]
  rfl

theorem length_contextEntries_iff (declaration : Declaration) :
    (contextEntries declaration).toList.length = declaration.options.length ↔
      (declaration.options.map OptionDeclaration.argument).Nodup := by
  have hlength : (contextPairs declaration).length = declaration.options.length :=
    List.length_map _
  rw [contextEntries, ← hlength, OrderedMap.length_ofList_eq_iff, keys_contextPairs]

end Click

/-! ### What becomes of the names of options -/

/-- The names of the options of a node, without quotes. -/
def Entry.optionNames (entry : Entry) : List String :=
  (entry.params.filter Param.isOption).filterMap fun param =>
    (param.get? nameKey).map Literal.unquote

/-- A function binds the options of a node under the identifiers of their names. -/
structure BindsOptions (node : NodeKind × Entry) (declaration : Declaration) : Prop where
  /-- The head of the function lists the context, then an identifier for the name of every option,
  in order. -/
  head : Click.functionHead declaration = "def " ++ declaration.identifier ++ "(" ++
    Click.arguments ("ctx" :: node.2.optionNames.map identifierOf) ++ "):"
  /-- The function puts every parameter but the context under its own name into the context. -/
  call : node.2.optionNames ≠ [] →
    Click.contextCall declaration.options = "set_context_obj(ctx, \x7b" ++
      Click.arguments (node.2.optionNames.map fun name =>
        Click.quote (identifierOf name) ++ ": " ++ identifierOf name) ++ "\x7d)"
  /-- No option takes the place of the context, and none is bound to a keyword. -/
  names : ∀ name ∈ node.2.optionNames,
    identifierOf name ≠ "ctx" ∧ identifierOf name ∉ languageKeywords
  /-- The parameters are distinct exactly if the names lead to distinct identifiers. -/
  nodup_iff : (Click.parameters declaration).Nodup ↔
    node.2.optionNames.Pairwise fun a b => identifierOf a ≠ identifierOf b
  /-- The context has an entry for every option under the same condition. -/
  entries_iff : (Click.contextEntries declaration).toList.length = declaration.options.length ↔
    node.2.optionNames.Pairwise fun a b => identifierOf a ≠ identifierOf b

/-- The options of a declaration are bound to the identifiers of their names. -/
theorem NormalizedNode.map_argument {node : NodeKind × Entry} {declaration : Declaration}
    (h : NormalizedNode node declaration) :
    declaration.options.map OptionDeclaration.argument = node.2.optionNames.map identifierOf := by
  have hoptions := h.options
  rw [Entry.optionNames]
  generalize node.2.params.filter Param.isOption = params at hoptions ⊢
  generalize declaration.options = options at hoptions ⊢
  induction hoptions with
  | nil => rfl
  | @cons param _ _ _ hoption _ ih =>
    obtain ⟨raw, name, hget, hname, -, -, hargument⟩ := hoption.flag
    obtain rfl := Literal.eq_unquote_of_ofText_name hname
    have hname : param.get? nameKey = some raw := hget
    simp only [List.map_cons, List.filterMap_cons, hname, Option.map_some, hargument, ih]

theorem identifierOf_ne_context (name : String) : identifierOf name ≠ "ctx" := by
  have hreserved : "ctx" ∈ reservedWords := by decide
  intro h
  exact identifierOf_notMem_reservedWords name (h ▸ hreserved)

theorem Declares.bindsOptions {node : NodeKind × Entry} {declaration : Declaration}
    (h : Declares node declaration) : BindsOptions node declaration := by
  have harguments := h.normalized.map_argument
  have hnodup : (declaration.options.map OptionDeclaration.argument).Nodup ↔
      node.2.optionNames.Pairwise fun a b => identifierOf a ≠ identifierOf b := by
    rw [harguments, List.Nodup, List.pairwise_map]
  refine ⟨?head, fun hsome => ?call, fun name _ => ⟨identifierOf_ne_context name, ?keyword⟩,
    ?nodup, ?entries⟩
  case head =>
    rw [Click.functionHead_eq, Click.parameters, harguments]
  case call =>
    have hoptions : declaration.options ≠ [] := by
      intro hnil
      rw [hnil, List.map_nil] at harguments
      exact hsome (List.map_eq_nil_iff.1 harguments.symm)
    rw [Click.contextCall_eq hoptions, Click.contextPairs_eq, harguments, List.map_map,
      List.map_map]
    rfl
  case keyword =>
    exact identifierVariant_notMem_keywords name 0
  case nodup =>
    have hcontext : "ctx" ∉ declaration.options.map OptionDeclaration.argument := by
      rw [harguments]
      intro hmem
      obtain ⟨name, -, hname⟩ := List.mem_map.1 hmem
      exact identifierOf_ne_context name hname
    rw [Click.parameters, List.nodup_cons, hnodup]
    exact and_iff_right hcontext
  case entries =>
    rw [Click.length_contextEntries_iff, hnodup]

/-- **The function of every node binds the options under the identifiers of their names, and repeats
a parameter exactly if the names of two options lead to one identifier**; an option never takes the
place of the context. -/
theorem Schema.bindsOptions_preorder {schema : Schema} {declarations : List Declaration}
    (lowered : schema.lower = .ok declarations) :
    List.Forall₂ BindsOptions schema.preorder declarations :=
  (Schema.declares_preorder lowered).imp fun _ _ h => h.bindsOptions

/-! ### Options that share an identifier -/

/-- An option with a name and no default. -/
def plainOption (name : String) : Param :=
  ⟨.option, .ofList [("name", name), ("help", "None"), ("type", "STRING"), ("default", "None"),
    ("required", "False"), ("prompt", "None")]⟩

/-- A group with options of different names, and a command whose two options have names that differ
in a dash only. -/
def alikeOptions : Schema :=
  ⟨[.group ⟨⟨"site", "None", none, "False",
        [plainOption "ctx", plainOption "class", plainOption "\"user\""]⟩, [],
      [⟨"run", "None", none, "False", [plainOption "user-name", plainOption "user_name"]⟩]⟩]⟩

/-- The declarations of `alikeOptions`. -/
def alikeOptionDeclarations : List Declaration :=
  let attributes (name : String) : OrderedMap Literal :=
    .ofList [("name", .text name), ("help", .absent), ("hidden", .truth false)]
  let option (flag argument : String) : OptionDeclaration :=
    ⟨flag, argument, .ofList [("help", .absent), ("default", .absent), ("required", .truth false),
      ("prompt", .absent)], some .text⟩
  [⟨.group, .root, "site", attributes "site",
      [option "--ctx" "ctx_", option "--class" "class_", option "--user" "user"]⟩,
   ⟨.command, .node "site", "run", attributes "run",
      [option "--user-name" "user_name", option "--user_name" "user_name"]⟩]

theorem lower_alikeOptions : alikeOptions.lower = .ok alikeOptionDeclarations := by
  decide +kernel

theorem bindsOptions_preorder_alikeOptions :
    alikeOptions.lower = .ok alikeOptionDeclarations ∧
      List.Forall₂ BindsOptions alikeOptions.preorder alikeOptionDeclarations :=
  ⟨lower_alikeOptions, Schema.bindsOptions_preorder lower_alikeOptions⟩

/-- The loader accepts a document with a function that repeats a parameter and puts two options
under one name into the context. -/
theorem parameters_alikeOptions :
    (∃ text, Schema.ofText .json "schema.json" text = .ok alikeOptions) ∧
      alikeOptions.lower = .ok alikeOptionDeclarations ∧
      ∃ declaration ∈ alikeOptionDeclarations,
        Click.parameters declaration = ["ctx", "user_name", "user_name"] ∧
          ¬ (Click.parameters declaration).Nodup ∧
          (Click.contextEntries declaration).toList.length < declaration.options.length := by
  have wellFormed : alikeOptions.WellFormed ∧ alikeOptions.toJson.depth ≤ 127 := by
    decide +kernel
  exact ⟨wellFormed.1.exists_text wellFormed.2 _, lower_alikeOptions, by decide +kernel⟩

end CommandTree
