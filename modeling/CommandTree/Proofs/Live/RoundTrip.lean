import CommandTree.Proofs.Declaration.Canonical
import CommandTree.Proofs.Live.Reflection

/-!
# Describing the host of a schema

A schema is lowered to a flat list of declarations, the list is put together to a host, and the host
is described by a schema again.  For a canonical schema this changes nothing but the permissions.

* `Param.IsCanonical.reflect_live` : the option of a host that was made from a canonical option.
* `Declares.reflected_eq` : the same for a node.
* `reflect_lower` : the same for a schema.
-/

namespace CommandTree

/-- An option with its attributes in the order in which a described program lists them. -/
def Param.arranged (param : Param) : Param :=
  ⟨param.kind, .ofList (optionKeys.map fun key => (key, (param.get? key).getD ""))⟩

/-- A node with a permission, and its options in the order of a described program. -/
def Entry.withPermission (permission : String) (entry : Entry) : Entry :=
  { entry with permission := some permission, params := entry.params.map Param.arranged }

/-! ### Words -/

@[simp] theorem wordOfText_some (text : String) : wordOfText (some text) = text := rfl

theorem wordOfText_plain (raw : String) :
    wordOfText (Literal.plain .text raw).text? = raw := by
  by_cases hraw : raw = absentWord
  · simp [Literal.plain, hraw, Literal.text?, wordOfText]
  · simp [Literal.plain, hraw, Literal.text?, wordOfText]

theorem wordOfTruth_plain {raw : String} (h : raw ∈ truthWords) :
    wordOfTruth (decide (Literal.plain .truth raw = .truth true)) = raw := by
  simp only [truthWords, List.mem_cons, List.not_mem_nil, or_false] at h
  obtain rfl | rfl := h <;> decide

/-! ### Options -/

/-- The default value of an option is shown as it is written. -/
theorem wordOfText_defaultText {arg : HostArg} {type : ValueType} {raw : String}
    (h : IsPlain type raw) (haction : arg.action = .set)
    (hpossible : arg.possible = if type = .truth then HostArg.truthValues else [])
    (hdefaults : arg.defaults = (Literal.plain type raw).hostDefault?.toList) :
    wordOfText arg.defaultText = raw := by
  by_cases hraw : raw = absentWord
  · have hnone : arg.defaults = [] := by
      simp [hdefaults, hraw, Literal.plain, Literal.hostDefault?]
    simp [HostArg.defaultText, hnone, hraw, wordOfText]
  cases type with
  | text =>
    have hsome : arg.defaults = [raw] := by
      simp [hdefaults, hraw, Literal.plain, Literal.hostDefault?]
    simp [HostArg.defaultText, hsome, HostArg.typeWord, haction, hpossible, HostArg.truthValues,
      wordOfText]
  | truth =>
    have hbool : arg.typeWord = "BOOL" := by simp [HostArg.typeWord, haction, hpossible]
    obtain rfl | rfl : raw = "True" ∨ raw = "False" := by
      simpa [IsPlain, hraw, truthWords] using h
    · simp [HostArg.defaultText, hdefaults, Literal.plain, hraw, Literal.hostDefault?, hbool,
        wordOfText]
    · simp [HostArg.defaultText, hdefaults, Literal.plain, hraw, Literal.hostDefault?, hbool,
        wordOfText]
  | integer => exact h.elim
  | absent => exact h.elim

/-- The word for a type that options have. -/
def ValueType.optionWord (type : ValueType) : String :=
  if type = .truth then "BOOL" else "STRING"

/-- What a host shows of an option, if its attributes are the meaning of words in their only
spelling. -/
theorem OptionDeclaration.reflect_live {option : OptionDeclaration} {help default required : String}
    {type : ValueType} (htype : option.valueType = some type)
    (hhelp : option.attributes.get? "help" = some (.plain .text help))
    (hdefault : option.attributes.get? defaultKey = some (.plain type default))
    (hplain : IsPlain type default)
    (hrequired : option.attributes.get? "required" = some (.plain .truth required))
    (hword : required ∈ truthWords) :
    option.hostArg.live.reflect = ⟨.option, .ofList [("name", withoutDashes option.flag),
      ("help", help), ("type", type.optionWord), ("default", default), ("required", required),
      ("prompt", absentWord)]⟩ := by
  have helpText : wordOfText option.hostArg.help = help := by
    rw [hostArg, hhelp]
    exact wordOfText_plain help
  have defaultText : wordOfText option.hostArg.defaultText = default := by
    refine wordOfText_defaultText hplain rfl ?_ ?_
    · simp [hostArg, htype]
    · rw [defaultKey] at hdefault
      simp [hostArg, hdefault]
  have typeWord : option.hostArg.typeWord = type.optionWord := by
    by_cases htruth : type = .truth
    · simp [HostArg.typeWord, hostArg, htype, ValueType.optionWord, htruth]
    · simp [HostArg.typeWord, hostArg, htype, ValueType.optionWord, htruth, HostArg.truthValues]
  have requiredWord : wordOfTruth option.hostArg.required = required := by
    simp only [hostArg, hrequired, Option.some.injEq]
    exact wordOfTruth_plain hword
  have hlive : option.hostArg.live = .option (withoutDashes option.flag) option.hostArg.help
      (some option.hostArg.typeWord) option.hostArg.defaultText option.hostArg.required none :=
    rfl
  rw [hlive, LiveParam.reflect, helpText, defaultText, requiredWord, wordOfText_some, typeWord]
  rfl

/-- A host shows a canonical option as it is written. -/
theorem Param.IsCanonical.reflect_live {param : Param} (canonical : param.IsCanonical)
    {node : String} {option : OptionDeclaration} (h : param.declare node = .ok option) :
    option.hostArg.live.reflect = param.arranged := by
  obtain ⟨option', h', hname, hvalueType, hattributes⟩ := canonical.exists_declare node
  obtain rfl : option' = option := Except.ok.inj (h'.symm.trans h)
  obtain ⟨help, hhelp⟩ := canonical.exists_get? "help" (by decide)
  obtain ⟨value, hvalue⟩ := canonical.exists_get? "default" (by decide)
  obtain ⟨required, hrequired⟩ := canonical.exists_get? "required" (by decide)
  obtain ⟨prompt, hprompt⟩ := canonical.exists_get? "prompt" (by decide)
  have hkind := canonical.kind
  have htype : param.get? "type" = some param.valueType.optionWord := by
    obtain ⟨htype, hword⟩ | ⟨htype, hword⟩ := canonical.type_cases <;> rw [htype, hword] <;> rfl
  rw [OptionDeclaration.reflect_live hvalueType
    (hattributes "help" help (by decide) (by decide) hhelp)
    (hattributes defaultKey value (by decide) (by decide) hvalue) (canonical.isPlain_default hvalue)
    (hattributes "required" required (by decide) (by decide) hrequired)
    (canonical.required required hrequired)]
  simp [arranged, optionKeys, hkind, hname, hhelp, htype, hvalue, hrequired, hprompt,
    canonical.prompt prompt hprompt]

theorem reflect_live_options {node : String} {params : List Param}
    {options : List OptionDeclaration} (canonical : ∀ param ∈ params, param.IsCanonical)
    (h : List.Forall₂ (fun param option => param.declare node = .ok option) params options) :
    (((options.map OptionDeclaration.hostArg).filter (!HostArg.isGeneral ·)).map
      HostArg.live).map LiveParam.reflect = params.map Param.arranged := by
  induction h with
  | nil => rfl
  | @cons param option params options hoption _ ih =>
    obtain ⟨hparam, hparams⟩ := List.forall_mem_cons.1 canonical
    have hgeneral : option.hostArg.isGeneral = false := rfl
    simp [hgeneral, hparam.reflect_live hoption, ← ih hparams]

/-! ### Nodes -/

/-- A declaration of a canonical node is described by that node, with a permission. -/
theorem Declares.reflected_eq {node : NodeKind × Entry} {declaration : Declaration}
    (h : Declares node declaration) (canonical : node.2.IsCanonical) (permission : String) :
    declaration.reflected permission = node.2.withPermission permission := by
  obtain ⟨kind, entry⟩ := node
  have hattributes : declaration.attributes = _ :=
    Except.ok.inj (h.attributes.symm.trans canonical.literals_eq)
  have distinct : (Members.keys [("name", Literal.text entry.name),
      ("help", .plain .text entry.help), ("hidden", .plain .truth entry.hidden)]).Nodup := by
    simp [Members.keys]
  have hoptions := h.options
  rw [canonical.filter_params] at hoptions
  simp [Declaration.reflected, Declaration.hostCommand, HostCommand.live, LiveNode.reflectEntry,
    hattributes, OrderedMap.get?_ofList distinct, Members.get?_cons,
    wordOfText_plain, wordOfTruth_plain canonical.hidden, Entry.withPermission,
    ← reflect_live_options canonical.params hoptions]

/-- A forest of declarations of canonical nodes is described by those nodes. -/
theorem Forest.Matches.reflected_eq {nodes : Forest (NodeKind × Entry)}
    {declared : Forest Declaration} (h : nodes.Matches Declares declared)
    (canonical : ∀ node ∈ nodes.preorder, node.2.IsCanonical) (permission : String) :
    declared.reflected permission =
      nodes.map (Prod.map id (Entry.withPermission permission)) := by
  induction h with
  | nil => rfl
  | @cons node declaration below rest below' rest' hdeclares _ _ ih ih' =>
    simp only [preorder, List.forall_mem_cons, List.forall_mem_append] at canonical
    obtain ⟨hnode, hbelow, hrest⟩ := canonical
    simp only [reflected, map, Prod.map] at ih ih' ⊢
    rw [hdeclares.reflected_eq hnode, hdeclares.kind, ih hbelow, ih' hrest]
    rfl

/-- **Lowering a canonical schema succeeds, and the host of its declarations is described by the
same schema with a permission on every node.** -/
theorem reflect_lower {schema : Schema} (canonical : schema.IsCanonical) (permission : String) :
    ∃ declarations, schema.lower = .ok declarations ∧
      reflect permission (HostCommand.liveList (hostOfDeclarations declarations)) =
        schema.mapEntries (Entry.withPermission permission) := by
  obtain ⟨declarations, hlower⟩ := canonical.exists_lower
  obtain ⟨declared, -, hmatches, inner, hhost⟩ := Schema.exists_declared hlower
  unfold Schema.IsCanonical at canonical
  rw [← schema.preorder_forest] at canonical
  refine ⟨declarations, hlower, ?_⟩
  rw [hhost, Forest.reflect_hosts permission inner, hmatches.reflected_eq canonical,
    ← Schema.forest_mapEntries, Schema.ofForest_forest]

/-- A group with a command and a group of the same name, and an option whose attributes are not in
the usual order. -/
def nestedTools : Schema :=
  ⟨[.group ⟨⟨"tool", "None", some "admin", "False",
      [⟨.option, .ofList [("type", "BOOL"), ("name", "force"), ("help", "Skip questions"),
        ("default", "False"), ("prompt", "None"), ("required", "True")]⟩]⟩,
    [⟨⟨"tool", "Inner", none, "True", []⟩, [], []⟩], [⟨"tool", "", none, "False", []⟩]⟩]⟩

theorem reflect_lower_nestedTools :
    nestedTools.IsCanonical ∧ ∃ declarations, nestedTools.lower = .ok declarations ∧
      reflect "developer" (HostCommand.liveList (hostOfDeclarations declarations)) =
        nestedTools.mapEntries (Entry.withPermission "developer") := by
  have canonical : nestedTools.IsCanonical := by decide +kernel
  exact ⟨canonical, reflect_lower canonical "developer"⟩

end CommandTree
