import CommandTree.Proofs.Declaration.Lowerable
import CommandTree.Proofs.Identifier.Usable
import CommandTree.Proofs.Live.RoundTrip

/-!
# Lowering what a host shows

A schema that describes the host of some declarations can be lowered again.  The declarations are
the same, as far as the words that the description writes are read as they are meant:

* `IsBareText` : a text can be written without quotes.  `Declaration.IsBare` : all texts of a
  declaration can.
* `Literal.exists_word` : the meaning of a text or of a truth word is that of a word without quotes.
* `SameInterface` : two declarations agree on everything that a user of the program sees.
* `Forest.inPlainText_hosts` : a host whose help texts have no styles is in plain text.
* `recompile_exported` : lowering a schema, describing its host and lowering the description gives
  the same interface, if all texts are bare and no help text has styles.  A declaration without a
  name gets one on the way.
* `recompilesDifferently_oneOption` : each of these conditions is needed.
-/

namespace CommandTree

/-! ### Bare texts -/

/-- A text that is written without quotes and still read as a text: it is not the word for an
absent value, and has no quotes around it. -/
def IsBareText (text : String) : Prop :=
  text ≠ absentWord ∧ ¬ IsQuoted text

instance (text : String) : Decidable (IsBareText text) :=
  inferInstanceAs (Decidable (_ ∧ _))

theorem Literal.exists_word_of_ofTyped {type : ValueType} (htype : type = .text ∨ type = .truth)
    {key raw : String} {literal : Literal} (h : ofTyped type key raw = .ok literal)
    (bare : ∀ value, literal = .text value → IsBareText value) :
    ∃ word, IsPlain type word ∧ .plain type word = literal := by
  obtain rfl | rfl := htype
  · obtain rfl : text (unquote raw) = literal := Except.ok.inj h
    obtain ⟨habsent, hquoted⟩ := bare _ rfl
    exact ⟨unquote raw, hquoted, by simp [plain, habsent]⟩
  · rw [ofTyped] at h
    split_ifs at h with htrue hfalse
    · obtain rfl := Except.ok.inj h
      exact ⟨"True", .inr (by decide), by decide⟩
    · obtain rfl := Except.ok.inj h
      exact ⟨"False", .inr (by decide), by decide⟩

/-- The meaning of a text or of a truth word, if it is no text that needs quotes, is that of a word
in its only spelling. -/
theorem Literal.exists_word {type : ValueType} (htype : type = .text ∨ type = .truth)
    {key raw : String} {literal : Literal}
    (h : (if raw = absentWord then .ok .absent else ofTyped type key raw) = Except.ok literal)
    (bare : ∀ value, literal = .text value → IsBareText value) :
    ∃ word, IsPlain type word ∧ .plain type word = literal := by
  split_ifs at h with habsent
  · obtain rfl := Except.ok.inj h
    refine ⟨absentWord, ?_, by simp [plain]⟩
    obtain rfl | rfl := htype
    · have hnone : ¬ IsQuoted absentWord := by decide
      exact hnone
    · exact .inl rfl
  · exact exists_word_of_ofTyped htype h bare

theorem Literal.exists_word_of_ofText {key raw : String} {type : ValueType} {literal : Literal}
    (hkey : ValueType.lookup key = some type) (htype : type = .text ∨ type = .truth)
    (h : ofText key raw = .ok literal) (bare : ∀ value, literal = .text value → IsBareText value) :
    ∃ word, IsPlain type word ∧ .plain type word = literal := by
  rw [ofText, hkey] at h
  exact exists_word htype h bare

/-! ### Options -/

/-- The name of an option, which is its flag without the two dashes in front. -/
def OptionDeclaration.flagName (option : OptionDeclaration) : String :=
  String.ofList (option.flag.toList.drop 2)

/-- An option whose name, help and default value are bare, if they are texts; and the name has no
dashes of its own. -/
@[mk_iff]
structure OptionDeclaration.IsBare (option : OptionDeclaration) : Prop where
  /-- The name is bare and does not start with a dash. -/
  name : IsBareText option.flagName ∧ option.flagName.toList.head? ≠ some '-'
  /-- The help and the default value are bare. -/
  texts : ∀ key ∈ ["help", "default"], ∀ value ∈ (option.attributes.get? key).bind Literal.text?,
    IsBareText value

instance (option : OptionDeclaration) : Decidable option.IsBare :=
  decidable_of_iff' _ (OptionDeclaration.isBare_iff option)

/-- Two options agree on everything but their prompts and attributes that no option has.  The second
one has the attributes of an option and no others. -/
structure SameOption (option option' : OptionDeclaration) : Prop where
  /-- The flag is the same. -/
  flag : option'.flag = option.flag
  /-- The value is bound to the same identifier. -/
  argument : option'.argument = option.argument
  /-- The type is the same. -/
  valueType : option'.valueType = option.valueType
  /-- The help, the default value and whether the option must be given are the same, and nothing is
  asked for. -/
  attributes : ∃ help default required, option.attributes.get? "help" = some help ∧
    option.attributes.get? "default" = some default ∧
    option.attributes.get? "required" = some required ∧
    option'.attributes.toList =
      [("help", help), ("default", default), ("required", required), ("prompt", .absent)]

theorem Param.WellFormed.exists_attribute {param : Param} (wellFormed : param.WellFormed)
    {meaning : Interpreted} (h : Interpreted.ofAttributes param.attributes = .ok meaning)
    (key : String) (hkey : key ∈ optionKeys) (htype : key ≠ typeKey) :
    ∃ raw literal, param.get? key = some raw ∧ meaning.attributes.get? key = some literal ∧
      interpretAttribute meaning.valueType key raw = .ok literal := by
  have hrel := Interpreted.rel_get? h htype
  obtain ⟨raw, hraw⟩ := wellFormed.exists_get? hkey
  have hget : param.attributes.get? key = some raw := hraw
  rw [hget] at hrel
  generalize hliteral : meaning.attributes.get? key = literal? at hrel
  cases hrel with
  | @some _ literal hmeaning => exact ⟨raw, literal, hget, rfl, hmeaning⟩

/-- A well-formed option declares a text or a truth value. -/
theorem Param.WellFormed.valueType_cases {param : Param} (wellFormed : param.WellFormed)
    {valueType : Option ValueType} (h : declaredType param.attributes = .ok valueType) :
    ∃ type, valueType = some type ∧ (type = .text ∨ type = .truth) := by
  obtain ⟨-, htype⟩ | ⟨-, htype⟩ := wellFormed.declaredType_cases
  · exact ⟨.text, Except.ok.inj (h.symm.trans htype), .inl rfl⟩
  · exact ⟨.truth, Except.ok.inj (h.symm.trans htype), .inr rfl⟩

/-- The declaration of an option as a host shows it. -/
theorem Param.declare_shown {name help typeWord default required : String} {type : ValueType}
    (hname : IsBareText name) (hempty : name ≠ "") (hhelp : IsPlain .text help)
    (htype : ValueType.lookup typeWord = some type) (hdefault : IsPlain type default)
    (hrequired : required ∈ truthWords) (node : String) :
    Param.declare node ⟨.option, .ofList [("name", name), ("help", help), ("type", typeWord),
        ("default", default), ("required", required), ("prompt", absentWord)]⟩ =
      .ok ⟨"--" ++ name, identifierOf name, .ofList [("help", .plain .text help),
        ("default", .plain type default), ("required", .plain .truth required),
        ("prompt", .absent)], some type⟩ := by
  have distinct : ∀ {α : Type} (a b c d e f : α), (Members.keys [("name", a), ("help", b),
      ("type", c), ("default", d), ("required", e), ("prompt", f)]).Nodup := by
    intro α a b c d e f
    simp [Members.keys]
  have distinct' : ∀ {α : Type} (a b d e f : α), (Members.keys [("name", a), ("help", b),
      ("default", d), ("required", e), ("prompt", f)]).Nodup := by
    intro α a b d e f
    simp [Members.keys]
  have hplainName : IsPlain .text name := hname.2
  have hplainRequired : IsPlain .truth required := .inr hrequired
  have hnameMeaning : interpretAttribute (some type) "name" name = .ok (.text name) := by
    rw [interpretAttribute_of_ne (by decide), hplainName.ofText_eq rfl]
    simp [Literal.plain, hname.1]
  have hhelpMeaning : interpretAttribute (some type) "help" help = .ok (.plain .text help) := by
    rw [interpretAttribute_of_ne (by decide), hhelp.ofText_eq rfl]
  have hrequiredMeaning : interpretAttribute (some type) "required" required =
      .ok (.plain .truth required) := by
    rw [interpretAttribute_of_ne (by decide), hplainRequired.ofText_eq rfl]
  refine Param.declare_eq_ok.2 ⟨⟨.ofList [("name", .text name), ("help", .plain .text help),
    ("default", .plain type default), ("required", .plain .truth required), ("prompt", .absent)],
    some type⟩, name, Interpreted.ofAttributes_eq_ok.2 ⟨?_, ?_⟩, ?_, hempty, ?_⟩
  · simp [declaredType, OrderedMap.get?_ofList (distinct ..), Members.get?_cons, typeKey, htype]
  · simp only [OrderedMap.erase, OrderedMap.toList_ofList (distinct ..),
      OrderedMap.toList_ofList (distinct' ..)]
    have hdefaultMeaning := hdefault.interpretAttribute_default
    exact .cons ⟨rfl, hnameMeaning⟩ (.cons ⟨rfl, hhelpMeaning⟩ (.cons ⟨rfl, hdefaultMeaning⟩
      (.cons ⟨rfl, hrequiredMeaning⟩ (.cons ⟨rfl, rfl⟩ .nil))))
  · simp [OrderedMap.get?_ofList (distinct' ..), Members.get?_cons, nameKey]
  · rw [OptionDeclaration.mk.injEq]
    refine ⟨rfl, rfl, OrderedMap.ext ?_, rfl⟩
    change _ = Members.erase nameKey (OrderedMap.toList (.ofList _))
    rw [OrderedMap.toList_ofList (distinct' ..), OrderedMap.toList_ofList]
    · rfl
    · simp [Members.keys]

theorem OptionDeclaration.flagName_eq (name argument : String) (attributes : OrderedMap Literal)
    (valueType : Option ValueType) :
    flagName ⟨"--" ++ name, argument, attributes, valueType⟩ = name := by
  simp [flagName]

/-- **An option that a host shows declares the option that it was made from.** -/
theorem OptionDeclaration.IsBare.declare_reflect {param : Param} {node : String}
    {option : OptionDeclaration} (bare : option.IsBare) (wellFormed : param.WellFormed)
    (h : param.declare node = .ok option) (node' : String) :
    ∃ option', option.hostArg.live.reflect.declare node' = .ok option' ∧
      SameOption option option' := by
  obtain ⟨meaning, name, hmeaning, -, hempty, rfl⟩ := Param.declare_eq_ok.1 h
  obtain ⟨type, htype, htypes⟩ :=
    wellFormed.valueType_cases (Interpreted.ofAttributes_eq_ok.1 hmeaning).1
  have herase : ∀ {key : String} {literal : Literal}, key ≠ nameKey →
      meaning.attributes.get? key = some literal →
        (meaning.attributes.erase nameKey).get? key = some literal := by
    intro key literal hkey hget
    rw [OrderedMap.get?_erase, if_neg hkey, hget]
  -- the help, the default value and the truth word each have a spelling without quotes
  obtain ⟨rawHelp, help, -, hhelp, hhelpMeaning⟩ :=
    wellFormed.exists_attribute hmeaning "help" (by decide) (by decide)
  obtain ⟨rawDefault, default, -, hdefault, hdefaultMeaning⟩ :=
    wellFormed.exists_attribute hmeaning defaultKey (by decide) (by decide)
  obtain ⟨rawRequired, required, hraw, hrequired, hrequiredMeaning⟩ :=
    wellFormed.exists_attribute hmeaning "required" (by decide) (by decide)
  replace hhelp := herase (by decide) hhelp
  replace hdefault := herase (by decide) hdefault
  replace hrequired := herase (by decide) hrequired
  rw [interpretAttribute_of_ne (by decide)] at hhelpMeaning hrequiredMeaning
  rw [htype, interpretAttribute_default] at hdefaultMeaning
  obtain ⟨helpWord, hhelpWord, rfl⟩ := Literal.exists_word_of_ofText rfl (.inl rfl) hhelpMeaning
    fun value hvalue => bare.texts "help" (by decide) value (by rw [hhelp, hvalue]; rfl)
  obtain ⟨defaultWord, hdefaultWord, rfl⟩ := Literal.exists_word htypes hdefaultMeaning
    fun value hvalue => bare.texts defaultKey (by decide) value (by rw [hdefault, hvalue]; rfl)
  obtain ⟨requiredWord, hword, hraw'⟩ := wellFormed.required
  obtain rfl : rawRequired = requiredWord := Option.some.inj (hraw.symm.trans hraw')
  have hplain : IsPlain .truth rawRequired := .inr hword
  rw [hplain.ofText_eq rfl] at hrequiredMeaning
  obtain rfl := Except.ok.inj hrequiredMeaning
  have hname := bare.name
  rw [flagName_eq] at hname
  have hlookup : ValueType.lookup type.optionWord = some type := by
    obtain rfl | rfl := htypes <;> rfl
  rw [OptionDeclaration.reflect_live htype hhelp hdefault hdefaultWord hrequired hword,
    withoutDashes_flag hname.2,
    Param.declare_shown hname.1 hempty hhelpWord hlookup hdefaultWord hword]
  refine ⟨_, rfl, rfl, rfl, htype.symm, _, _, _, hhelp, hdefault, hrequired, ?_⟩
  rw [OrderedMap.toList_ofList]
  simp [Members.keys]

/-! ### Nodes -/

/-- A declaration with a name: its identifier, if it has none. -/
def Declaration.named (declaration : Declaration) : Declaration :=
  match declaration.attributes.get? nameKey with
  | some (.text _) => declaration
  | _ => { declaration with
      attributes := declaration.attributes.insert nameKey (.text declaration.identifier) }

theorem Declaration.named_eq (declaration : Declaration) :
    declaration.named = { declaration with attributes := declaration.named.attributes } := by
  unfold named
  split <;> rfl

/-- A declaration whose name and help are bare, if they are texts, and whose options are. -/
@[mk_iff]
structure Declaration.IsBare (declaration : Declaration) : Prop where
  /-- The name and the help are bare. -/
  texts : ∀ key ∈ ["name", "help"],
    ∀ value ∈ (declaration.attributes.get? key).bind Literal.text?, IsBareText value
  /-- The options are. -/
  options : ∀ option ∈ declaration.options, option.IsBare

instance (declaration : Declaration) : Decidable declaration.IsBare :=
  decidable_of_iff' _ (Declaration.isBare_iff declaration)

/-- Two declarations agree on everything but the prompts of options and attributes that no option
has. -/
structure SameInterface (declaration declaration' : Declaration) : Prop where
  /-- The kind is the same. -/
  kind : declaration'.kind = declaration.kind
  /-- The parent is the same. -/
  parent : declaration'.parent = declaration.parent
  /-- The identifier is the same. -/
  identifier : declaration'.identifier = declaration.identifier
  /-- The name, the help and whether the node is hidden are the same. -/
  attributes : declaration'.attributes = declaration.attributes
  /-- The options are the same, in order. -/
  options : List.Forall₂ SameOption declaration.options declaration'.options

/-! #### Nodes without a name -/

/-- A text with the form of an identifier is bare: it has neither capitals nor quotes. -/
theorem IsSettled.isBareText {text : String} (h : IsSettled text) : IsBareText text := by
  have hcapital : lowercase 'N' ≠ ['N'] := by decide +kernel
  have hquote : isIdentifierChar '"' = false := by decide +kernel
  refine ⟨?_, ?_⟩
  · rintro rfl
    exact hcapital (h.small 'N' (by decide))
  · rintro ⟨inner, rfl⟩
    rw [h.chars '"' (by simp)] at hquote
    cases hquote

theorem isSettled_nameless (n : Nat) : IsSettled (identifierVariant "none_" n) := by
  have hnone : identifierOf absentWord = "none_" := by decide +kernel
  exact (hnone ▸ isSettled_identifierOf absentWord).variant n

/-- The identifier of a node without a name is its own identifier. -/
theorem identifierOf_variant (n : Nat) :
    identifierOf (identifierVariant "none_" n) = identifierVariant "none_" n := by
  have hsmall : ("none_".toList.all fun c => !isUppercase c) = true := by decide +kernel
  have hbase : ∀ c ∈ "none_".toList, isUppercase c = false := by simpa using hsmall
  refine (isSettled_nameless n).identifierOf_eq_iff.2 fun c hc => ?_
  obtain hc | rfl | hc := mem_identifierVariant (List.mem_of_mem_tail hc)
  · exact hbase c hc
  · exact hbase '_' (by decide)
  · exact (digit_spec hc).1

/-! #### Options of a node -/

theorem exists_declare_reflect {node : String} {params : List Param}
    {options : List OptionDeclaration}
    (h : List.Forall₂ (fun param option => param.declare node = .ok option) params options)
    (wellFormed : ∀ param ∈ params, param.WellFormed) (bare : ∀ option ∈ options, option.IsBare)
    (node' : String) :
    ∃ options', ((((options.map OptionDeclaration.hostArg).filter (!HostArg.isGeneral ·)).map
        HostArg.live).map LiveParam.reflect |>.filter Param.isOption).mapM (Param.declare node') =
          .ok options' ∧ List.Forall₂ SameOption options options' := by
  simp only [mapM_eq_ok]
  induction h with
  | nil => exact ⟨[], .nil, .nil⟩
  | @cons param option params options hoption _ ih =>
    obtain ⟨hparam, hparams⟩ := List.forall_mem_cons.1 wellFormed
    obtain ⟨hbare, hbares⟩ := List.forall_mem_cons.1 bare
    obtain ⟨option', hoption', hsame⟩ := hbare.declare_reflect hparam hoption node'
    obtain ⟨options', hoptions', hsames⟩ := ih hparams hbares
    have hgeneral : option.hostArg.isGeneral = false := rfl
    have hkind : option.hostArg.live.reflect.isOption = true := rfl
    refine ⟨option' :: options', ?_, .cons hsame hsames⟩
    simp only [List.map_cons, List.filter_cons, hgeneral, hkind, Bool.not_false, if_true]
    exact .cons hoption' hoptions'

/-- The name that a host shows is that of the declaration, or its identifier.  Either way it is bare
and has the identifier of the declaration. -/
theorem Declaration.IsBare.exists_shown_name {entry : Entry} {taken : List String}
    {declaration : Declaration} {name help hidden : Literal} (bare : declaration.IsBare)
    (hname : Literal.ofText nameKey entry.name = .ok name)
    (hattributes : declaration.attributes = .ofList [(nameKey, name), ("help", help),
      ("hidden", hidden)])
    (hidentifier : declaration.identifier = claimIdentifier taken entry.baseIdentifier) :
    ∃ shown, name.text?.getD declaration.identifier = shown ∧ IsBareText shown ∧
      claimIdentifier taken (identifierOf shown) = declaration.identifier ∧
      declaration.named.attributes = .ofList [(nameKey, .text shown), ("help", help),
        ("hidden", hidden)] := by
  have distinct : ∀ a : Literal,
      (Members.keys [(nameKey, a), ("help", help), ("hidden", hidden)]).Nodup := by
    intro a
    simp [Members.keys, nameKey]
  have hget : declaration.attributes.get? nameKey = some name := by
    rw [hattributes, OrderedMap.get?_ofList (distinct name)]
    simp [Members.get?_cons]
  have hbase := hidentifier
  rw [Entry.baseIdentifier, hname] at hbase
  rw [Literal.ofText_name] at hname
  split_ifs at hname with habsent
  · -- without a name, the identifier is a variant of that of the word for an absent value
    obtain rfl := Except.ok.inj hname
    have hnone : identifierOf absentWord = "none_" := by decide +kernel
    rw [habsent, hnone] at hbase
    obtain ⟨n, -, hvariant, hfree, -⟩ := claimIdentifier_spec taken "none_"
    rw [hvariant] at hbase
    refine ⟨declaration.identifier, rfl, ?_, ?_, ?_⟩
    · rw [hbase]
      exact (isSettled_nameless n).isBareText
    · rw [hbase, identifierOf_variant]
      exact claimIdentifier_of_notMem hfree
    · rw [Declaration.named, hget, hattributes]
      refine OrderedMap.ext ?_
      change Members.insert nameKey _ (OrderedMap.toList (.ofList _)) = _
      rw [OrderedMap.toList_ofList (distinct _), OrderedMap.toList_ofList (distinct _)]
      simp [Members.insert]
  · obtain rfl := Except.ok.inj hname
    have htext := bare.texts nameKey (by decide) _ (by rw [hget]; rfl)
    refine ⟨Literal.unquote entry.name, rfl, htext, hbase.symm, ?_⟩
    rw [Declaration.named, hget, hattributes]

/-- **A node that a host shows declares what it was made from.** -/
theorem Declaration.IsBare.declare_reflected {kind : NodeKind} {entry : Entry} {parent : Parent}
    {taken : List String} {declaration : Declaration} (bare : declaration.IsBare)
    (wellFormed : entry.WellFormed) (h : entry.declare kind parent taken = .ok declaration)
    (permission : String) :
    ∃ declaration', (declaration.reflected permission).declare kind parent taken =
        .ok declaration' ∧ SameInterface declaration.named declaration' := by
  obtain ⟨⟨hkind, -, hliterals, hoptions⟩, hparent, hidentifier⟩ := Entry.declare_eq_ok h
  obtain ⟨name, help, hidden, hname, hhelp, hhidden, hattributes⟩ :=
    Entry.literals_eq_ok.1 hliterals
  have distinct : ∀ a b c : Literal,
      (Members.keys [(nameKey, a), ("help", b), ("hidden", c)]).Nodup := by
    intro a b c
    simp [Members.keys, nameKey]
  have hget := fun key => OrderedMap.get?_ofList (distinct name help hidden) key
  rw [← hattributes] at hget
  have hgetName : declaration.attributes.get? "name" = some name := by
    rw [hget]
    rfl
  have hgetHelp : declaration.attributes.get? "help" = some help := by
    rw [hget]
    rfl
  have hgetHidden : declaration.attributes.get? "hidden" = some hidden := by
    rw [hget]
    rfl
  obtain ⟨helpWord, hhelpWord, rfl⟩ := Literal.exists_word_of_ofText rfl (.inl rfl) hhelp
    fun value hvalue => bare.texts "help" (by decide) value (by rw [hgetHelp, hvalue]; rfl)
  have hhiddenWord : IsPlain .truth entry.hidden := .inr wellFormed.hidden
  rw [hhiddenWord.ofText_eq rfl] at hhidden
  obtain rfl := Except.ok.inj hhidden
  obtain ⟨shown, hshown, hshownBare, hclaim, hnamed⟩ :=
    bare.exists_shown_name hname hattributes hidentifier
  have hreflected : declaration.reflected permission = ⟨shown, helpWord, some permission,
      entry.hidden, ((declaration.options.map OptionDeclaration.hostArg).filter
        (!HostArg.isGeneral ·)).map HostArg.live |>.map LiveParam.reflect⟩ := by
    have hhiddenWord : wordOfTruth (decide (declaration.attributes.get? "hidden" =
        some (.truth true))) = entry.hidden := by
      simp only [hgetHidden, Option.some.injEq]
      exact wordOfTruth_plain wellFormed.hidden
    simp only [reflected, hostCommand, HostCommand.live, LiveNode.reflectEntry, hgetName, hgetHelp,
      Option.bind_some, hshown, wordOfText_plain, hhiddenWord, Option.getD_none]
  have hname : Literal.ofText nameKey shown = .ok (.text shown) := by
    rw [Literal.ofText_name, if_neg hshownBare.1, Literal.unquote_of_not_isQuoted hshownBare.2]
  obtain ⟨options', hoptions', hsame⟩ := exists_declare_reflect hoptions (fun param hparam =>
    wellFormed.params param (List.mem_of_mem_filter hparam)) bare.options shown
  rw [hreflected]
  generalize hshownParams : (((declaration.options.map OptionDeclaration.hostArg).filter
    (!HostArg.isGeneral ·)).map HostArg.live).map LiveParam.reflect = params at hoptions'
  have hliterals : Entry.literals ⟨shown, helpWord, some permission, entry.hidden, params⟩ =
      .ok declaration.named.attributes :=
    Entry.literals_eq_ok.2 ⟨_, _, _, hname, hhelpWord.ofText_eq rfl, hhiddenWord.ofText_eq rfl,
      hnamed⟩
  have hbase : Entry.baseIdentifier ⟨shown, helpWord, some permission, entry.hidden, params⟩ =
      identifierOf shown := by
    simp only [Entry.baseIdentifier, hname]
  refine ⟨⟨kind, parent, declaration.identifier, declaration.named.attributes, options'⟩, ?_, ?_⟩
  · simp only [Entry.declare, hliterals, hoptions', hbase, hclaim, ok_bind, pure_eq_ok]
  · rw [declaration.named_eq]
    exact ⟨hkind.symm, hparent.symm, rfl, rfl, hsame⟩

/-! ### Help texts without styles -/

/-- The help texts of a declaration and of its options. -/
def Declaration.helpTexts (declaration : Declaration) : List String :=
  (declaration.attributes :: declaration.options.map OptionDeclaration.attributes).filterMap
    fun attributes => (attributes.get? "help").bind Literal.text?

section PlainText

variable {plain : String → String}

/-- Nothing is lost of a help text that is its own plain text. -/
theorem map_plain_eq_self {help : Option String} (h : ∀ text ∈ help, plain text = text) :
    help.map plain = help :=
  (Option.map_congr h).trans Option.map_id'

theorem OptionDeclaration.inPlainText_hostArg {option : OptionDeclaration}
    (h : ∀ text ∈ (option.attributes.get? "help").bind Literal.text?, plain text = text) :
    option.hostArg.inPlainText plain = option.hostArg := by
  have help : option.hostArg.help.map plain = option.hostArg.help := map_plain_eq_self h
  rw [HostArg.inPlainText, help]

theorem Declaration.inPlainText_hostCommand {declaration : Declaration}
    (h : ∀ text ∈ declaration.helpTexts, plain text = text) (subcommands : List HostCommand) :
    (declaration.hostCommand subcommands).inPlainText plain =
      declaration.hostCommand (HostCommand.inPlainTextList plain subcommands) := by
  simp only [helpTexts, List.mem_filterMap, List.mem_cons, List.mem_map] at h
  have about : ((declaration.attributes.get? "help").bind Literal.text?).map plain =
      (declaration.attributes.get? "help").bind Literal.text? :=
    map_plain_eq_self fun text htext => h text ⟨_, .inl rfl, htext⟩
  have args : (declaration.options.map OptionDeclaration.hostArg).map (HostArg.inPlainText plain) =
      declaration.options.map OptionDeclaration.hostArg := by
    rw [List.map_map]
    refine List.map_congr_left fun option hoption => ?_
    exact OptionDeclaration.inPlainText_hostArg fun text htext =>
      h text ⟨_, .inr ⟨option, hoption, rfl⟩, htext⟩
  rw [hostCommand, HostCommand.inPlainText, about, args, hostCommand]

/-- A host is in plain text if every help text that it was made from is its own plain text. -/
theorem Forest.inPlainText_hosts {forest : Forest Declaration}
    (h : ∀ declaration ∈ forest.preorder, ∀ text ∈ declaration.helpTexts, plain text = text) :
    HostCommand.inPlainTextList plain forest.hosts = forest.hosts := by
  induction forest with
  | nil => rfl
  | cons declaration below rest ih ih' =>
    simp only [preorder, List.forall_mem_cons, List.forall_mem_append] at h
    obtain ⟨hdeclaration, hbelow, hrest⟩ := h
    rw [hosts, HostCommand.inPlainTextList, Declaration.inPlainText_hostCommand hdeclaration,
      ih hbelow, ih' hrest]

end PlainText

/-! ### Whole trees -/

theorem identifiers_eq_of_sameInterface {declarations declarations' : List Declaration}
    (h : List.Forall₂ SameInterface (declarations.map Declaration.named) declarations') :
    identifiers declarations' = identifiers declarations := by
  induction declarations generalizing declarations' with
  | nil =>
    cases h
    rfl
  | cons declaration declarations ih =>
    cases h with
    | cons hsame hrest =>
      have hidentifier := hsame.identifier
      rw [declaration.named_eq] at hidentifier
      have hidentifiers := ih hrest
      simp only [identifiers] at hidentifiers
      simp only [identifiers, List.map_cons, hidentifier, hidentifiers]

/-- What a host shows of declarations declares the same interface, in the same shape. -/
theorem Forest.exists_declare_reflected {nodes : Forest (NodeKind × Entry)} {parent : Parent}
    {taken : List String} {declared : Forest Declaration}
    (h : nodes.declare parent taken = .ok declared)
    (wellFormed : ∀ node ∈ nodes.preorder, node.2.WellFormed)
    (bare : ∀ declaration ∈ declared.preorder, declaration.IsBare) (permission : String) :
    ∃ declared', (declared.reflected permission).declare parent taken = .ok declared' ∧
      List.Forall₂ SameInterface (declared.preorder.map Declaration.named) declared'.preorder := by
  induction nodes generalizing parent taken declared with
  | nil =>
    obtain rfl : nil = declared := by simpa [declare, pure_eq_ok] using h
    exact ⟨nil, rfl, .nil⟩
  | cons label below rest ih ih' =>
    obtain ⟨kind, entry⟩ := label
    simp only [declare, bind_eq_ok, pure_eq_ok, Except.ok.injEq] at h
    obtain ⟨declaration, hdeclaration, below', hbelow, rest', hrest, rfl⟩ := h
    simp only [preorder, List.forall_mem_cons, List.forall_mem_append] at wellFormed bare
    obtain ⟨again, hagain, hsame⟩ :=
      bare.1.declare_reflected wellFormed.1 hdeclaration permission
    have hidentifier : again.identifier = declaration.identifier := by
      rw [hsame.identifier, declaration.named_eq]
    have hkind : declaration.kind = kind := (Entry.declare_eq_ok hdeclaration).1.kind
    obtain ⟨belowAgain, hbelowAgain, hsameBelow⟩ := ih hbelow wellFormed.2.1 bare.2.1
    obtain ⟨restAgain, hrestAgain, hsameRest⟩ := ih' hrest wellFormed.2.2 bare.2.2
    have hidentifiers := identifiers_eq_of_sameInterface hsameBelow
    refine ⟨cons again belowAgain restAgain, ?_, ?_⟩
    · simp only [reflected] at hbelowAgain hrestAgain
      simp only [reflected, map, declare, hkind, hagain, hidentifier, hbelowAgain, hidentifiers,
        hrestAgain, ok_bind, pure_eq_ok]
    · simp only [preorder, List.map_cons, List.map_append]
      exact .cons hsame (List.rel_append hsameBelow hsameRest)

/-- **Lowering what the host of a schema shows gives the same interface**, if all texts are bare:
the same declarations in the same order, except that a node without a name has got its identifier as
its name, that nothing is asked for, and that options have no attributes but those of an option.

The host shows help texts in plain text, whatever that may be, and shows everything else as it was
set.  All that is asked of plain text is that the help texts of the schema are their own. -/
theorem recompile_exported (schema : Schema) (declarations : List Declaration)
    (wellFormed : schema.WellFormed) (lowered : schema.lower = .ok declarations)
    (bare : ∀ declaration ∈ declarations, declaration.IsBare) (plain : String → String)
    (unstyled : ∀ declaration ∈ declarations, ∀ text ∈ declaration.helpTexts, plain text = text)
    (permission : String) :
    ∃ declarations',
      (reflect permission (HostCommand.liveList (HostCommand.inPlainTextList plain
        (hostOfDeclarations declarations)))).lower = .ok declarations' ∧
      List.Forall₂ SameInterface (declarations.map Declaration.named) declarations' := by
  obtain ⟨declared, hdeclare, rfl⟩ := Schema.lower_eq_ok.1 lowered
  obtain ⟨hmatch, hlinked, hdistinct, -⟩ := Forest.declare_spec hdeclare
  have inner := schema.innerNodes_declared hmatch
  have hshape : schema.forest.Matches (fun a b => a.1 = b.1) (declared.reflected permission) :=
    hmatch.map_right _ fun _ _ hdeclares => hdeclares.kind.symm
  unfold Schema.WellFormed at wellFormed
  rw [← schema.preorder_forest] at wellFormed
  obtain ⟨declared', hdeclare', hsame⟩ :=
    Forest.exists_declare_reflected hdeclare wellFormed bare permission
  refine ⟨declared'.preorder, ?_, hsame⟩
  rw [hlinked.hostOfDeclarations_preorder hdistinct inner, Forest.inPlainText_hosts unstyled,
    Forest.reflect_hosts permission inner]
  refine Schema.lower_eq_ok.2 ⟨declared', ?_, rfl⟩
  rw [Schema.forest_ofForest hshape, hdeclare']

/-- A group without a name, and an option with quotes, a prompt and an attribute of its own. -/
def namelessTools : Schema :=
  ⟨[.group ⟨⟨"None", "\"All tools\"", some "admin", "False",
      [⟨.option, .ofList [("type", "STRING"), ("color", "None"), ("name", "\"user\""),
        ("help", "None"), ("default", "\"me\""), ("prompt", "Who?"), ("required", "True")]⟩]⟩, [],
    [⟨"run", "None", none, "True", []⟩]⟩]⟩

/-- The declarations of `namelessTools`. -/
def namelessToolDeclarations : List Declaration :=
  let user : OptionDeclaration := ⟨"--user", "user", .ofList [("color", .absent), ("help", .absent),
    ("default", .text "me"), ("prompt", .text "Who?"), ("required", .truth true)], some .text⟩
  [⟨.group, .root, "none_", .ofList [("name", .absent), ("help", .text "All tools"),
      ("hidden", .truth false)], [user]⟩,
   ⟨.command, .node "none_", "run", .ofList [("name", .text "run"), ("help", .absent),
      ("hidden", .truth true)], []⟩]

/-- Plain text without control characters, except for line feeds and tabs. -/
def withoutControls (text : String) : String :=
  String.ofList (text.toList.filter fun c => c = '\n' || c = '\t' || ' ' ≤ c && c ≠ '\x7f')

theorem recompile_exported_namelessTools :
    namelessTools.WellFormed ∧ namelessTools.lower = .ok namelessToolDeclarations ∧
      (∀ declaration ∈ namelessToolDeclarations, declaration.IsBare) ∧
      (∀ declaration ∈ namelessToolDeclarations, ∀ text ∈ declaration.helpTexts,
        withoutControls text = text) ∧
      ∃ declarations', (reflect "developer" (HostCommand.liveList
        (HostCommand.inPlainTextList withoutControls
          (hostOfDeclarations namelessToolDeclarations)))).lower = .ok declarations' ∧
        List.Forall₂ SameInterface (namelessToolDeclarations.map Declaration.named)
          declarations' := by
  have wellFormed : namelessTools.WellFormed := by decide +kernel
  have lowered : namelessTools.lower = .ok namelessToolDeclarations := by decide +kernel
  have bare : ∀ declaration ∈ namelessToolDeclarations, declaration.IsBare := by decide +kernel
  have unstyled : ∀ declaration ∈ namelessToolDeclarations, ∀ text ∈ declaration.helpTexts,
      withoutControls text = text := by
    decide +kernel
  exact ⟨wellFormed, lowered, bare, unstyled,
    recompile_exported namelessTools _ wellFormed lowered bare withoutControls unstyled "developer"⟩

/-! ### Texts that are not bare, and styled ones -/

/-- A schema that is read from some text, while lowering what its host shows in plain text gives
declarations that differ from its own in more than prompts and attributes of no option. -/
def Schema.RecompilesDifferently (plain : String → String) (schema : Schema) : Prop :=
  (∃ text, ofText .json "schema.json" text = .ok schema) ∧
    ∃ declarations declarations', schema.lower = .ok declarations ∧
      (reflect defaultPermission (HostCommand.liveList (HostCommand.inPlainTextList plain
        (hostOfDeclarations declarations)))).lower = .ok declarations' ∧
      ¬ List.Forall₂ SameInterface declarations declarations'

/-- A command with one option. -/
def oneOption (name help option : String) : Schema :=
  ⟨[.command ⟨name, help, none, "False", [⟨.option, .ofList [("name", option), ("help", "None"),
    ("type", "STRING"), ("default", "None"), ("required", "False"), ("prompt", "None")]⟩]⟩]⟩

/-- The names, helps and flags of some declarations. -/
def visibleTexts (declarations : List Declaration) : List (OrderedMap Literal × List String) :=
  declarations.map fun declaration =>
    (declaration.attributes, declaration.options.map OptionDeclaration.flag)

theorem visibleTexts_eq {declarations declarations' : List Declaration}
    (h : List.Forall₂ SameInterface declarations declarations') :
    visibleTexts declarations' = visibleTexts declarations := by
  have hflags : ∀ {options options' : List OptionDeclaration},
      List.Forall₂ SameOption options options' →
        options'.map OptionDeclaration.flag = options.map OptionDeclaration.flag := by
    intro options options' hoptions
    induction hoptions with
    | nil => rfl
    | cons hsame _ ih => rw [List.map_cons, List.map_cons, hsame.flag, ih]
  induction h with
  | nil => rfl
  | cons hsame _ ih =>
    simp only [visibleTexts] at ih
    simp only [visibleTexts, List.map_cons, hsame.attributes, hflags hsame.options, ih]

/-- The declaration of such a command. -/
def oneOptionDeclaration (identifier : String) (name help : Literal) (flag argument : String) :
    Declaration :=
  ⟨.command, .root, identifier, .ofList [("name", name), ("help", help), ("hidden", .truth false)],
    [⟨flag, argument, .ofList [("help", .absent), ("default", .absent), ("required", .truth false),
      ("prompt", .absent)], some .text⟩]⟩

/-- A well-formed schema recompiles differently if its texts are not those that it is shown with. -/
theorem Schema.recompilesDifferently_of_texts (plain : String → String) (schema : Schema)
    (declaration declaration' : Declaration)
    (h : (schema.WellFormed ∧ schema.toJson.depth ≤ 127) ∧ schema.lower = .ok [declaration] ∧
      (reflect defaultPermission (HostCommand.liveList (HostCommand.inPlainTextList plain
        (hostOfDeclarations [declaration])))).lower = .ok [declaration'] ∧
      visibleTexts [declaration'] ≠ visibleTexts [declaration]) :
    schema.RecompilesDifferently plain := by
  obtain ⟨⟨wellFormed, hdepth⟩, lowered, again, differ⟩ := h
  have hspace : Json.skipSpace "\n".toList = [] := by decide
  exact ⟨⟨_, Schema.WellFormed.ofText_toText wellFormed hdepth hspace "schema.json"⟩, _, _, lowered,
    again, fun h => differ (visibleTexts_eq h)⟩

/-- A help text is lost if it is not its own plain text, whatever plain text is. -/
theorem recompilesDifferently_of_plain {plain : String → String}
    (h : plain "Ring\x07" = "Ring") :
    (oneOption "run" "Ring\x07" "v").RecompilesDifferently plain := by
  have hhost : HostCommand.inPlainTextList plain (hostOfDeclarations
      [oneOptionDeclaration "run" (.text "run") (.text "Ring\x07") "--v" "v"]) =
      [⟨"run", some (plain "Ring\x07"), false, false,
        [{ id := "v", long := some "v" }], []⟩] := rfl
  refine Schema.recompilesDifferently_of_texts plain _
    (oneOptionDeclaration "run" (.text "run") (.text "Ring\x07") "--v" "v")
    (oneOptionDeclaration "run" (.text "run") (.text "Ring") "--v" "v") ?_
  rw [hhost, h]
  decide +kernel

/-- A missing name, a text that is the word for an absent value, a text in two pairs of quotes, and
a name that starts with a dash: none of them is the same after it has been shown.  Neither is a help
text that is not its own plain text. -/
theorem recompilesDifferently_oneOption :
    (oneOption "None" "Run" "v").RecompilesDifferently id ∧
      (oneOption "run" "\"None\"" "v").RecompilesDifferently id ∧
      (oneOption "run" "\"\"Run\"\"" "v").RecompilesDifferently id ∧
      (oneOption "run" "Run" "-v").RecompilesDifferently id ∧
      (oneOption "run" "Ring\x07" "v").RecompilesDifferently withoutControls := by
  refine ⟨?_, ?_, ?_, ?_, recompilesDifferently_of_plain (by decide +kernel)⟩
  · exact Schema.recompilesDifferently_of_texts id _
      (oneOptionDeclaration "none_" .absent (.text "Run") "--v" "v")
      (oneOptionDeclaration "none_" (.text "none_") (.text "Run") "--v" "v") (by decide +kernel)
  · exact Schema.recompilesDifferently_of_texts id _
      (oneOptionDeclaration "run" (.text "run") (.text "None") "--v" "v")
      (oneOptionDeclaration "run" (.text "run") .absent "--v" "v") (by decide +kernel)
  · exact Schema.recompilesDifferently_of_texts id _
      (oneOptionDeclaration "run" (.text "run") (.text "\"Run\"") "--v" "v")
      (oneOptionDeclaration "run" (.text "run") (.text "Run") "--v" "v") (by decide +kernel)
  · exact Schema.recompilesDifferently_of_texts id _
      (oneOptionDeclaration "run" (.text "run") (.text "Run") "---v" "_v")
      (oneOptionDeclaration "run" (.text "run") (.text "Run") "--v" "v") (by decide +kernel)

end CommandTree
