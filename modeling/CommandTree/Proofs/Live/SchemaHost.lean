import CommandTree.Proofs.Live.RoundTrip

/-!
# Describing the host that a schema describes

A host that is made from a schema as it stands, without lowering it, keeps every text of the schema.
Kinds, types and truth values become properties of the host and are recognised again when it is
described.  So the description is the schema itself, if the host can show all of it.

* `Param.IsShowable`, `Entry.IsShowable` and `Schema.IsShowable` say which schemas a host can show.
* `Param.IsShowable.reflect_live` : what a host shows of one parameter.
* `reflect_host` : the host of a schema that can be shown is described by the same schema with a
  permission on every node.
-/

namespace CommandTree

/-! ### What a host can show -/

/-- A parameter with all attributes that a host shows and no others.  Its texts are arbitrary, but
the default value of a truth value is not in the spelling of the host. -/
@[mk_iff]
structure Param.IsShowable (param : Param) : Prop where
  /-- The attributes are those of the kind, in any order. -/
  keys : param.attributes.keys.Perm param.kind.keys
  /-- The type is one of two. -/
  type : ∀ type ∈ param.get? "type", type ∈ paramTypeWords
  /-- The default value of a truth value is not how a host writes truth values. -/
  truthDefault : param.get? "type" = some "BOOL" →
    ∀ value ∈ param.get? "default", value ∉ HostArg.truthValues
  /-- Whether the parameter must be given is a truth word. -/
  required : ∀ required ∈ param.get? "required", required ∈ truthWords
  /-- Nothing is asked for. -/
  prompt : ∀ prompt ∈ param.get? "prompt", prompt = absentWord

/-- A node all of whose parameters can be shown. -/
@[mk_iff]
structure Entry.IsShowable (entry : Entry) : Prop where
  /-- Whether the node is hidden is a truth word. -/
  hidden : entry.hidden ∈ truthWords
  /-- All parameters can be shown. -/
  params : ∀ param ∈ entry.params, param.IsShowable

/-- A schema all of whose nodes can be shown. -/
def Schema.IsShowable (schema : Schema) : Prop :=
  ∀ node ∈ schema.preorder, node.2.IsShowable

instance (param : Param) : Decidable param.IsShowable :=
  decidable_of_iff' _ (Param.isShowable_iff param)

instance (entry : Entry) : Decidable entry.IsShowable :=
  decidable_of_iff' _ (Entry.isShowable_iff entry)

instance (schema : Schema) : Decidable schema.IsShowable :=
  inferInstanceAs (Decidable (∀ node ∈ schema.preorder, node.2.IsShowable))

/-- A parameter with its attributes in the order in which a host shows them. -/
def Param.shown (param : Param) : Param :=
  ⟨param.kind, .ofList (param.kind.keys.map fun key => (key, (param.get? key).getD ""))⟩

/-- A node with a permission, and its parameters as a host shows them. -/
def Entry.shown (permission : String) (entry : Entry) : Entry :=
  { entry with permission := some permission, params := entry.params.map Param.shown }

/-! ### Parameters -/

@[simp] theorem wordOfText_presentText (text : String) : wordOfText (presentText text) = text := by
  by_cases h : text = absentWord
  · simp [presentText, h, wordOfText]
  · simp [presentText, h]

theorem wordOfTruth_decide {word : String} (h : word ∈ truthWords) :
    wordOfTruth (decide (word = "True")) = word := by
  simp only [truthWords, List.mem_cons, List.not_mem_nil, or_false] at h
  obtain rfl | rfl := h <;> decide

/-- A default value that is no truth value is shown as it is written. -/
theorem HostArg.wordOfText_defaultText {arg : HostArg} {text : String}
    (htype : arg.typeWord ≠ "BOOL") (hdefaults : arg.defaults = (presentText text).toList) :
    wordOfText arg.defaultText = text := by
  by_cases h : text = absentWord
  · simp [defaultText, hdefaults, presentText, h, wordOfText]
  · simp [defaultText, hdefaults, presentText, h, htype]

/-- The default value of a truth value is shown as it is written, unless it is written like a truth
value of the host. -/
theorem HostArg.wordOfText_defaultText_truth {arg : HostArg} {text : String}
    (htype : arg.typeWord = "BOOL") (htext : text ∉ truthValues)
    (hdefaults : arg.defaults = (presentText text).toList.map fun text =>
      if text = "True" then "true" else if text = "False" then "false" else text) :
    wordOfText arg.defaultText = text := by
  by_cases h : text = absentWord
  · simp [defaultText, hdefaults, presentText, h, wordOfText]
  rw [presentText, if_neg h, Option.toList_some, List.map_singleton] at hdefaults
  simp only [truthValues, List.mem_cons, List.not_mem_nil, or_false, not_or] at htext
  by_cases htrue : text = "True"
  · simp [defaultText, hdefaults, htype, htrue]
  by_cases hfalse : text = "False"
  · simp [defaultText, hdefaults, htype, hfalse]
  · simp [defaultText, hdefaults, htype, htrue, hfalse, htext]

/-- A host argument that says what a parameter says. -/
structure HostArg.SaysOf (arg : HostArg) (param : Param) : Prop where
  /-- It is none that every program has. -/
  notGeneral : arg.isGeneral = false
  /-- It has the name of the parameter. -/
  name : param.get? "name" = some arg.id
  /-- It has a flag if the parameter is an option, and the flag is the name. -/
  flags : arg.short = none ∧ arg.long = if param.isOption then some arg.id else none
  /-- It has the help of the parameter. -/
  help : arg.help = (param.get? "help").bind presentText
  /-- The type is recognised. -/
  type : param.get? "type" = some arg.typeWord
  /-- The default value is shown as it is written. -/
  default : param.get? "default" = some (wordOfText arg.defaultText)
  /-- Whether it must be given is shown as it is written. -/
  required : param.get? "required" = some (wordOfTruth arg.required)

namespace Param.IsShowable

variable {param : Param}

theorem exists_get? (showable : param.IsShowable) (key : String) (hkey : key ∈ param.kind.keys) :
    ∃ raw, param.get? key = some raw :=
  Option.isSome_iff_exists.1 (Members.isSome_get?.2 (showable.keys.mem_iff.2 hkey))

/-- The host argument of a parameter says what the parameter says. -/
theorem exists_saysOf (showable : param.IsShowable) :
    ∃ arg, param.hostArg? = some arg ∧ arg.SaysOf param := by
  have hkeys : ∀ key ∈ ["name", "type", "default", "required"], key ∈ param.kind.keys := by
    cases param.kind <;> decide
  obtain ⟨name, hname⟩ := showable.exists_get? "name" (hkeys _ (by simp))
  obtain ⟨type, htype⟩ := showable.exists_get? "type" (hkeys _ (by simp))
  obtain ⟨default, hdefault⟩ := showable.exists_get? "default" (hkeys _ (by simp))
  obtain ⟨required, hrequired⟩ := showable.exists_get? "required" (hkeys _ (by simp))
  obtain ⟨arg, harg?, harg⟩ : ∃ arg, param.hostArg? = some arg ∧ arg = _ :=
    ⟨_, by rw [hostArg?, hname]; rfl, rfl⟩
  have hword := showable.type type htype
  simp only [paramTypeWords, List.mem_cons, List.not_mem_nil, or_false] at hword
  -- an argument keeps no type; it is told by the values that may be given
  have typeWord : arg.typeWord = type := by
    obtain rfl | rfl := hword
    · simp [harg, htype, HostArg.typeWord, HostArg.truthValues]
    · simp [harg, htype, HostArg.typeWord]
  have defaultText : wordOfText arg.defaultText = default := by
    obtain rfl | rfl := hword
    · refine HostArg.wordOfText_defaultText (by simp [typeWord]) ?_
      simp [harg, htype, hdefault]
    · have hspelling := showable.truthDefault htype _ hdefault
      refine HostArg.wordOfText_defaultText_truth typeWord hspelling ?_
      simp [harg, htype, hdefault]
  have requiredWord : wordOfTruth arg.required = required := by
    simp only [harg, hrequired, Option.some.injEq]
    exact wordOfTruth_decide (showable.required required hrequired)
  refine ⟨arg, harg?, ?_, ?_, ?_, ?_, by rw [htype, typeWord], by rw [hdefault, defaultText],
    by rw [hrequired, requiredWord]⟩
  · simp [harg, HostArg.isGeneral]
  · simp [harg, hname]
  · simp [harg]
  · simp [harg]

/-- A host shows a parameter as it is written. -/
theorem reflect_live (showable : param.IsShowable) {arg : HostArg} (h : arg.SaysOf param) :
    arg.live.reflect = param.shown := by
  obtain ⟨hshort, hlong⟩ := h.flags
  cases hkind : param.kind with
  | option =>
    obtain ⟨help, hhelp⟩ := showable.exists_get? "help" (by rw [hkind]; decide)
    obtain ⟨prompt, hprompt⟩ := showable.exists_get? "prompt" (by rw [hkind]; decide)
    rw [isOption, hkind, if_pos (by decide)] at hlong
    have helpText : wordOfText arg.help = help := by
      rw [h.help, hhelp]
      exact wordOfText_presentText help
    have hlive : arg.live = .option arg.id arg.help (some arg.typeWord) arg.defaultText
        arg.required none := by
      simp [HostArg.live, HostArg.isPositional, hlong]
    rw [hlive, LiveParam.reflect, helpText]
    simp [shown, hkind, ParamKind.keys, optionKeys, h.name, hhelp, h.type, h.default, h.required,
      hprompt, showable.prompt prompt hprompt, wordOfText]
  | argument =>
    rw [isOption, hkind, if_neg (by decide)] at hlong
    have hlive : arg.live = .argument arg.id (some arg.typeWord) arg.defaultText arg.required := by
      simp [HostArg.live, HostArg.isPositional, hlong, hshort]
    rw [hlive, LiveParam.reflect]
    simp [shown, hkind, ParamKind.keys, h.name, h.type, h.default, h.required]

/-- Showing a parameter keeps its kind and its attributes, other than their order. -/
theorem shown_perm (showable : param.IsShowable) :
    param.shown.kind = param.kind ∧
      param.shown.attributes.toList.Perm param.attributes.toList := by
  refine ⟨rfl, ?_⟩
  have distinct : (Members.keys
      (param.kind.keys.map fun key => (key, (param.get? key).getD ""))).Nodup := by
    have hkeys : param.kind.keys.Nodup := by cases param.kind <;> decide
    simpa [Members.keys, Function.comp_def] using hkeys
  have hmembers := Members.map_keys_getD param.attributes.distinct ""
  rw [shown, OrderedMap.toList_ofList distinct, ← hmembers]
  exact (showable.keys.map _).symm

end Param.IsShowable

theorem reflect_live_args {params : List Param} (showable : ∀ param ∈ params, param.IsShowable) :
    (((params.filterMap Param.hostArg?).filter (!HostArg.isGeneral ·)).map HostArg.live).map
      LiveParam.reflect = params.map Param.shown := by
  induction params with
  | nil => rfl
  | cons param rest ih =>
    obtain ⟨hparam, hrest⟩ := List.forall_mem_cons.1 showable
    obtain ⟨arg, harg, hsays⟩ := hparam.exists_saysOf
    simp [harg, hsays.notGeneral, hparam.reflect_live hsays, ← ih hrest]

/-! ### Nodes and schemas -/

/-- A host shows a node as it is written, with a permission. -/
theorem Entry.IsShowable.reflected_eq {entry : Entry} (showable : entry.IsShowable)
    (permission : String) : entry.reflected permission = entry.shown permission := by
  simp [reflected, host, hostCommand, HostCommand.live, LiveNode.reflectEntry, shown,
    wordOfTruth_decide showable.hidden, ← reflect_live_args showable.params]

/-- **The host of a schema that can be shown is described by the same schema with a permission on
every node**: groups, commands and parameters are the same and in the same order, and only the
attributes of a parameter take the order of a host. -/
theorem reflect_host {schema : Schema} (showable : schema.IsShowable) (permission : String) :
    reflect permission (HostCommand.liveList schema.host) =
        schema.mapEntries (Entry.shown permission) ∧
      ∀ node ∈ schema.preorder, ∀ param ∈ node.2.params, param.shown.kind = param.kind ∧
        param.shown.attributes.toList.Perm param.attributes.toList := by
  refine ⟨?_, fun node hnode param hparam =>
    ((showable node hnode).params param hparam).shown_perm⟩
  rw [reflect_host_eq]
  exact Schema.mapEntries_congr fun node hnode => (showable node hnode).reflected_eq permission

/-- An empty group beside a group with an argument and with options whose names and texts have
quotes and dashes. -/
def quotedTools : Schema :=
  ⟨[.group ⟨⟨"None", "", some "admin", "True", []⟩, [], []⟩,
    .group ⟨⟨"--tools", "\"Tools\"", none, "False",
      [⟨.argument, .ofList [("required", "True"), ("name", "path"), ("type", "STRING"),
        ("default", "true")]⟩]⟩, [],
      [⟨"run", "None", none, "False",
        [⟨.option, .ofList [("prompt", "None"), ("name", "\"--force\""), ("help", ""),
          ("default", "False"), ("type", "BOOL"), ("required", "False")]⟩]⟩]⟩]⟩

theorem reflect_host_quotedTools :
    quotedTools.IsShowable ∧
      reflect "developer" (HostCommand.liveList quotedTools.host) =
        quotedTools.mapEntries (Entry.shown "developer") := by
  have showable : quotedTools.IsShowable := by decide +kernel
  exact ⟨showable, (reflect_host showable "developer").1⟩

end CommandTree
