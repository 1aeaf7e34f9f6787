import CommandTree.Click.Program
import CommandTree.Proofs.Click.Cutting
import CommandTree.Proofs.Declaration.DocumentOrder

/-!
# A Click program determines its declarations

The texts that a schema brings along (names, helps, default values) may contain anything, also what
looks like a part of a program.  Yet two schemas with the same program have the same declarations:

* `cuttable_option`, `cuttable_declaration` : options and declarations can be cut off the front of a
  text.
* `Schema.clearDeclarations` : the declarations of a schema are of the kind that can be cut.
* `compile_click_injective` : the program determines the declarations.
-/

namespace CommandTree

namespace Click

/-! ### Options -/

theorem toList_arguments_cons (first : String) (rest : List String) :
    (arguments (first :: rest)).toList =
      first.toList ++ rest.flatMap fun item => ',' :: ' ' :: item.toList := by
  have hlist : ∀ (first : List Char) (rest : List (List Char)),
      [',', ' '].intercalate (first :: rest) = first ++ rest.flatMap (',' :: ' ' :: ·) := by
    intro first rest
    induction rest generalizing first with
    | nil => simp
    | cons second rest ih => simp [List.intercalate_cons_cons, ih]
  have hsep : ", ".toList = [',', ' '] := by decide
  rw [arguments, String.toList_intercalate, List.map_cons, hsep, hlist, List.flatMap_map]

/-- Attributes as keyword arguments. -/
def attributeKeywords (attributes : OrderedMap Literal) : List (String × Expression) :=
  attributes.toList.map fun member => (member.1, .literal member.2)

/-- The keyword arguments of an option: its attributes, then its type. -/
def optionKeywords (option : OptionDeclaration) : List (String × Expression) :=
  attributeKeywords option.attributes ++
    option.valueType.toList.map fun type => ("type", .valueType type)

/-- Whether an option can be told apart from others: the keys of its attributes are words, and if
it has a type, the type is written. -/
def ClearOption (option : OptionDeclaration) : Prop :=
  (∀ key ∈ option.attributes.keys, IsWord key) ∧ option.valueType ≠ some .absent

theorem ClearOption.keywords {option : OptionDeclaration} (h : ClearOption option) :
    ∀ keyword ∈ optionKeywords option, ClearKeyword keyword := by
  intro keyword hkeyword
  rw [optionKeywords, List.mem_append] at hkeyword
  obtain hattribute | htype := hkeyword
  · obtain ⟨member, hmember, rfl⟩ := List.mem_map.1 hattribute
    exact ⟨h.1 _ (List.mem_map_of_mem hmember), by simp⟩
  · obtain ⟨type, htype, rfl⟩ := List.mem_map.1 htype
    have hword : IsWord "type" := by decide
    refine ⟨hword, fun habsent => ?_⟩
    obtain rfl := Expression.valueType.inj habsent
    exact h.2 (by simpa using htype)

/-- The value of an expression that is a literal. -/
def Expression.literal? : Expression → Option Literal
  | .literal value => some value
  | .valueType _ => none

/-- The type of an expression that is the name of a type. -/
def Expression.type? : Expression → Option ValueType
  | .literal _ => none
  | .valueType type => some type

/-- The keyword arguments of an option determine its attributes and its type. -/
theorem optionKeywords_injective {a b : OptionDeclaration}
    (h : optionKeywords a = optionKeywords b) :
    a.attributes = b.attributes ∧ a.valueType = b.valueType := by
  have hattributes : ∀ option : OptionDeclaration, (optionKeywords option).filterMap (fun keyword =>
      keyword.2.literal?.map (keyword.1, ·)) = option.attributes.toList := by
    intro option
    obtain ⟨_, _, attributes, type⟩ := option
    cases type <;>
      simp [optionKeywords, attributeKeywords, List.filterMap_append, Expression.literal?]
  have htype : ∀ option : OptionDeclaration,
      (optionKeywords option).findSome? (fun keyword => keyword.2.type?) = option.valueType := by
    intro option
    obtain ⟨_, _, attributes, type⟩ := option
    have hliterals : (attributeKeywords attributes).findSome? (fun keyword => keyword.2.type?) =
        none := by
      rw [List.findSome?_eq_none_iff]
      intro keyword hkeyword
      obtain ⟨member, -, rfl⟩ := List.mem_map.1 hkeyword
      rfl
    rw [optionKeywords, List.findSome?_append, hliterals]
    cases type <;> rfl
  exact ⟨OrderedMap.ext ((hattributes a).symm.trans ((congrArg _ h).trans (hattributes b))),
    (htype a).symm.trans ((congrArg _ h).trans (htype b))⟩

theorem flatMap_furtherKeyword_attributes (attributes : OrderedMap Literal) :
    (attributeKeywords attributes).flatMap furtherKeyword =
      (keywords attributes).flatMap fun item => ',' :: ' ' :: item.toList := by
  simp [attributeKeywords, keywords, List.flatMap_map, furtherKeyword, Expression.text]

/-- The text of an option is a call with two string literals and keyword arguments. -/
theorem toList_option {option : OptionDeclaration} (h : option.valueType ≠ some .absent) :
    (Click.option option).toList = "@click.option(".toList ++ ((quote option.flag).toList ++
      ',' :: ' ' :: ((quote option.argument).toList ++
        ((optionKeywords option).flatMap furtherKeyword ++ [')']))) := by
  obtain ⟨flag, argument, attributes, type⟩ := option
  have hend : ")".toList = [')'] := by decide
  simp only [Click.option, optionKeywords, List.flatMap_append, flatMap_furtherKeyword_attributes,
    String.toList_append, toList_arguments_cons, List.cons_append, List.flatMap_cons,
    List.append_assoc, hend]
  cases type with
  | none => rfl
  | some type =>
    cases type with
    | absent => exact absurd rfl h
    | _ => rfl

theorem cuttable_option : Cuttable ClearOption (fun _ => True) fun option =>
    (Click.option option).toList := by
  intro a b ha hb rest rest' _ _ heq
  simp only [toList_option ha.2, toList_option hb.2, List.append_assoc, List.cons_append,
    List.nil_append] at heq
  -- the text is cut from the left to the right
  obtain ⟨hflag, h⟩ := cuttable_quote trivial trivial trivial trivial (List.append_cancel_left heq)
  obtain ⟨hargument, h⟩ := cuttable_quote trivial trivial trivial trivial
    (List.cons.inj (List.cons.inj h).2).2
  obtain ⟨hkeywords, h⟩ := cuttable_furtherKeywords ha.keywords hb.keywords rfl rfl h
  obtain ⟨hattributes, htype⟩ := optionKeywords_injective hkeywords
  refine ⟨?_, (List.cons.inj h).2⟩
  cases a
  cases b
  exact OptionDeclaration.mk.injEq .. ▸ ⟨hflag, hargument, hattributes, htype⟩

/-! ### Declarations -/

/-- Whether a text can be the identifier of a declaration. -/
def IsIdentifier (text : String) : Prop :=
  (∀ c ∈ text.toList, isIdentifierChar c = true) ∧ text ∉ reservedWords

/-- Whether a declaration can be told apart from others. -/
structure ClearDeclaration (declaration : Declaration) : Prop where
  /-- A group that it is attached to has an identifier. -/
  parent : ∀ name, declaration.parent = .node name → IsIdentifier name
  /-- It has an identifier itself. -/
  identifier : IsIdentifier declaration.identifier
  /-- It has attributes, and their keys are words. -/
  attributes : declaration.attributes.toList ≠ [] ∧ ∀ key ∈ declaration.attributes.keys, IsWord key
  /-- Its options can be told apart. -/
  options : ∀ option ∈ declaration.options, ClearOption option

/-- The line of an option. -/
def optionLine (option : OptionDeclaration) : List Char :=
  (Click.option option).toList ++ ['\n']

/-- What follows the identifier of a declaration with the given options. -/
def functionRest (options : List OptionDeclaration) : List Char :=
  (arguments ("ctx" :: options.map OptionDeclaration.argument)).toList ++
    ("):\n    ".toList ++ ((contextCall options).toList ++ "\n\n\n".toList))

/-- The text of a declaration, up to the identifier part by part. -/
theorem toList_declaration (declaration : Declaration) :
    (Click.declaration declaration).toList = '@' :: ((parent declaration.parent).toList ++
      '.' :: (declaration.kind.name.toList ++ '(' ::
        ((arguments (keywords declaration.attributes)).toList ++ ')' :: '\n' ::
          (declaration.options.flatMap optionLine ++ ("@click.pass_context\ndef ".toList ++
            (declaration.identifier.toList ++ '(' :: functionRest declaration.options)))))) := by
  have hlines : ∀ (options : List OptionDeclaration) (source : SourceText), source.depth = 0 →
      (options.map Click.option).foldl SourceText.line source =
        { source with text := source.text ++
            String.ofList (options.flatMap optionLine) } := by
    intro options source hdepth
    induction options generalizing source with
    | nil => simp
    | cons option options ih =>
      rw [List.map_cons, List.foldl_cons, ih _ (by simpa [SourceText.line] using hdepth)]
      simp [SourceText.line, SourceText.indentation, hdepth, optionLine, ← String.toList_inj]
  simp only [Click.declaration, steps, SourceText.writeAll, SourceText.write, SourceText.fourSpaces,
    SourceText.withUnit, SourceText.line, SourceText.blank, SourceText.enter, SourceText.leave,
    hlines]
  simp [decorator, functionHead, functionRest, SourceText.indentation]

theorem cuttable_identifier {stop : Char} (hstop : isIdentifierChar stop = false) :
    Cuttable (fun name : String => ∀ c ∈ name.toList, isIdentifierChar c = true)
      (fun rest => rest.head? = some stop) String.toList := by
  intro a b ha hb rest rest' hend hend' heq
  obtain ⟨hname, hrest⟩ := cuttable_word isIdentifierChar ha hb
    (fun c hc => by obtain rfl : stop = c := by simpa [hend] using hc
                    exact hstop)
    (fun c hc => by obtain rfl : stop = c := by simpa [hend'] using hc
                    exact hstop) heq
  exact ⟨String.toList_inj.1 hname, hrest⟩

/-- The text for the parent of a declaration. -/
theorem parent_injective {a b : Parent} (ha : ∀ name, a = .node name → IsIdentifier name)
    (hb : ∀ name, b = .node name → IsIdentifier name) (h : parent a = parent b) : a = b := by
  have hroot : root ∈ reservedWords := by decide
  cases a with
  | root =>
    cases b with
    | root => rfl
    | node name =>
      simp only [parent] at h
      exact absurd (h ▸ hroot) (hb name rfl).2
  | node name =>
    cases b with
    | root =>
      simp only [parent] at h
      exact absurd (h ▸ hroot) (ha name rfl).2
    | node name' => exact congrArg Parent.node h

/-- The keyword arguments of a declaration determine its attributes. -/
theorem cuttable_attributes :
    Cuttable (fun attributes : OrderedMap Literal => attributes.toList ≠ [] ∧
        ∀ key ∈ attributes.keys, IsWord key) (fun rest => rest.head? = some ')')
      fun attributes => (arguments (keywords attributes)).toList := by
  have htext : ∀ attributes : OrderedMap Literal, attributes.toList ≠ [] →
      ',' :: ' ' :: (arguments (keywords attributes)).toList =
        (attributeKeywords attributes).flatMap furtherKeyword := by
    intro attributes hne
    rw [flatMap_furtherKeyword_attributes]
    cases hkeywords : keywords attributes with
    | nil => exact absurd (List.map_eq_nil_iff.1 hkeywords) hne
    | cons first rest => rw [toList_arguments_cons]; rfl
  have hclear : ∀ attributes : OrderedMap Literal, (∀ key ∈ attributes.keys, IsWord key) →
      ∀ keyword ∈ attributeKeywords attributes, ClearKeyword keyword := by
    intro attributes hwords keyword hkeyword
    obtain ⟨member, hmember, rfl⟩ := List.mem_map.1 hkeyword
    exact ⟨hwords _ (List.mem_map_of_mem hmember), by simp⟩
  intro a b ha hb rest rest' hend hend' heq
  have hlonger := congrArg (',' :: ' ' :: ·) heq
  simp only [← List.cons_append, htext a ha.1, htext b hb.1] at hlonger
  obtain ⟨hkeywords, hrest⟩ := cuttable_furtherKeywords (hclear a ha.2) (hclear b hb.2) hend hend'
    hlonger
  refine ⟨OrderedMap.ext (List.map_injective_iff.2 ?_ hkeywords), hrest⟩
  rintro ⟨key, value⟩ ⟨key', value'⟩ h
  simpa using h

/-- The lines of options end where the line without a call starts. -/
theorem cuttable_optionLines :
    Cuttable (fun options : List OptionDeclaration => ∀ option ∈ options, ClearOption option)
      (fun rest => "@click.p".toList <+: rest) (·.flatMap optionLine) := by
  have hline : Cuttable ClearOption (fun _ => True) optionLine := by
    intro a b ha hb rest rest' _ _ heq
    simp only [optionLine, List.append_assoc] at heq
    obtain ⟨hoption, hrest⟩ := cuttable_option ha hb trivial trivial heq
    exact ⟨hoption, (List.cons.inj hrest).2⟩
  refine hline.flatMap (fun _ _ => trivial) fun option rest hoption => ⟨trivial, fun hpass => ?_⟩
  have hcall : "@click.o".toList <+: optionLine option ++ rest := by
    have hopen : "@click.o".toList <+: "@click.option(".toList := by decide
    rw [optionLine, toList_option hoption.2, List.append_assoc, List.append_assoc]
    exact hopen.trans (List.prefix_append _ _)
  have heq := List.prefix_of_prefix_length_le hpass hcall (by decide)
  revert heq
  decide

theorem cuttable_kind : Cuttable (fun _ : NodeKind => True) (fun _ => True)
    fun kind => kind.name.toList := by
  intro a b _ _ rest rest' _ _ heq
  cases a <;> cases b <;> simp_all [NodeKind.name]

/-- A declaration can be cut off whatever follows. -/
theorem cuttable_declaration :
    Cuttable ClearDeclaration (fun _ => True) fun declaration =>
      (Click.declaration declaration).toList := by
  intro a b ha hb rest rest' _ _ heq
  have hparent : ∀ {parent : Parent}, (∀ name, parent = .node name → IsIdentifier name) →
      ∀ c ∈ (Click.parent parent).toList, isIdentifierChar c = true := by
    intro parent h
    cases parent with
    | root =>
      have hroot : ((Click.parent .root).toList.all isIdentifierChar) = true := by decide +kernel
      exact List.all_eq_true.1 hroot
    | node name => exact (h name rfl).1
  simp only [toList_declaration, List.append_assoc, List.cons_append] at heq
  -- the text is cut from the left to the right
  have hdot : isIdentifierChar '.' = false := by decide +kernel
  obtain ⟨hparentText, h⟩ := cuttable_identifier hdot (hparent ha.parent) (hparent hb.parent) rfl
    rfl (List.cons.inj heq).2
  have hparents := parent_injective ha.parent hb.parent hparentText
  obtain ⟨hkind, h⟩ := cuttable_kind trivial trivial trivial trivial (List.cons.inj h).2
  obtain ⟨hattributes, h⟩ := cuttable_attributes ha.attributes hb.attributes rfl rfl
    (List.cons.inj h).2
  have hpass : ∀ chars : List Char,
      "@click.p".toList <+: "@click.pass_context\ndef ".toList ++ chars := by
    intro chars
    have hstart : "@click.p".toList <+: "@click.pass_context\ndef ".toList := by decide
    exact hstart.trans (List.prefix_append _ _)
  obtain ⟨hoptions, h⟩ := cuttable_optionLines ha.options hb.options (hpass _) (hpass _)
    (List.cons.inj (List.cons.inj h).2).2
  have hparenthesis : isIdentifierChar '(' = false := by decide +kernel
  obtain ⟨hidentifier, h⟩ := cuttable_identifier hparenthesis ha.identifier.1 hb.identifier.1 rfl
    rfl (List.append_cancel_left h)
  rw [hoptions] at h
  refine ⟨?_, List.append_cancel_left (List.cons.inj h).2⟩
  cases a
  cases b
  exact Declaration.mk.injEq .. ▸ ⟨hkind, hparents, hidentifier, hattributes, hoptions⟩

/-- A whole program can be cut into its declarations. -/
theorem body_injective {declarations declarations' : List Declaration}
    (clear : ∀ declaration ∈ declarations, ClearDeclaration declaration)
    (clear' : ∀ declaration ∈ declarations', ClearDeclaration declaration)
    (h : target.body declarations = target.body declarations') : declarations = declarations' := by
  have hbody : ∀ declarations, (target.body declarations).toList =
      declarations.flatMap fun declaration => (Click.declaration declaration).toList := by
    intro declarations
    induction declarations with
    | nil => rfl
    | cons declaration declarations ih =>
      simp only [Target.body, List.map_cons, String.join_cons, String.toList_append] at ih ⊢
      rw [ih]
      rfl
  have hcut : Cuttable (fun declarations : List Declaration => ∀ declaration ∈ declarations,
        ClearDeclaration declaration) (· = [])
      (·.flatMap fun declaration => (Click.declaration declaration).toList) :=
    cuttable_declaration.flatMap (fun _ _ => trivial) fun declaration rest _ =>
      ⟨trivial, by simp [toList_declaration]⟩
  have htext := congrArg String.toList h
  rw [hbody, hbody] at htext
  exact (hcut clear clear' rfl rfl (congrArg (· ++ []) htext)).1

end Click

/-! ### Declarations of a schema -/

/-- The keys of the attributes of all options are words, and no option declares the type that
stands for no value. -/
def Schema.ClearOptions (schema : Schema) : Prop :=
  ∀ node ∈ schema.preorder, ∀ param ∈ node.2.params, param.isOption = true →
    (∀ key ∈ param.attributes.keys, Click.IsWord key) ∧ param.get? "type" ≠ some "None"

instance (schema : Schema) : Decidable schema.ClearOptions :=
  inferInstanceAs (Decidable (∀ _ ∈ _, _))

theorem ValueType.eq_absent_of_lookup {word : String} (h : lookup word = some .absent) :
    word = "None" := by
  unfold lookup at h
  split_ifs at h <;> simp_all

theorem NormalizedOption.clear {param : Param} {option : OptionDeclaration}
    (h : NormalizedOption param option) (hwords : ∀ key ∈ param.attributes.keys, Click.IsWord key)
    (htype : param.get? "type" ≠ some "None") : Click.ClearOption option := by
  refine ⟨?_, ?_⟩
  · intro key hkey
    obtain ⟨member, hmember, rfl⟩ := List.mem_map.1 hkey
    refine forall_mem_of_forall₂ (p := fun literal => Click.IsWord literal.1) h.attributes ?_ _
      hmember
    intro raw hraw literal hliteral
    rw [← hliteral.1]
    exact hwords _ (List.mem_map_of_mem (List.mem_of_mem_filter hraw))
  · intro habsent
    have hlookup := h.valueType
    rw [habsent] at hlookup
    obtain ⟨word, hword, hmeaning⟩ := Option.map_eq_some_iff.1 hlookup
    rw [ValueType.eq_absent_of_lookup hmeaning] at hword
    exact htype hword

/-- What a declaration is attached to is an identifier of another declaration. -/
theorem Schema.parent_mem_identifiers {schema : Schema} {declarations : List Declaration}
    (lowered : schema.lower = .ok declarations) {declaration : Declaration}
    (h : declaration ∈ declarations) {name : String} (hparent : declaration.parent = .node name) :
    name ∈ identifiers declarations := by
  obtain ⟨i, hi, rfl⟩ := List.getElem_of_mem h
  obtain ⟨outer, -, heq⟩ := Schema.parent_eq lowered hi
  rw [hparent] at heq
  cases outer with
  | none => cases heq
  | some j =>
    cases hj : declarations[j]? with
    | none =>
      simp only [parentAt, hj] at heq
      cases heq
    | some other =>
      simp only [parentAt, hj, Parent.node.injEq] at heq
      exact heq ▸ List.mem_map_of_mem (List.mem_of_getElem? hj)

theorem Schema.isIdentifier_of_mem {schema : Schema} {declarations : List Declaration}
    (lowered : schema.lower = .ok declarations) {name : String}
    (h : name ∈ identifiers declarations) : Click.IsIdentifier name := by
  refine ⟨?_, (Schema.identifiers_spec lowered).2 name h⟩
  obtain ⟨declaration, hdeclaration, rfl⟩ := List.mem_map.1 h
  refine forall_mem_of_forall₂
    (p := fun declaration => ∀ c ∈ declaration.identifier.toList, isIdentifierChar c = true)
    (Schema.declares_preorder lowered) ?_ _ hdeclaration
  intro node _ declaration hdeclares c hc
  obtain ⟨n, hn⟩ := hdeclares.identifier
  rw [hn] at hc
  refine isIdentifierChar_of_mem_identifierVariant (fun c hc => ?_) n hc
  unfold Entry.baseIdentifier at hc
  split at hc <;> exact isIdentifierChar_of_mem_identifierOf hc

/-- The declarations of a schema can be told apart. -/
theorem Schema.clearDeclarations {schema : Schema} {declarations : List Declaration}
    (lowered : schema.lower = .ok declarations) (clear : schema.ClearOptions) :
    ∀ declaration ∈ declarations, Click.ClearDeclaration declaration := by
  intro declaration hdeclaration
  have hnode : (declaration.attributes.toList ≠ [] ∧
        ∀ key ∈ declaration.attributes.keys, Click.IsWord key) ∧
      ∀ option ∈ declaration.options, Click.ClearOption option := by
    refine forall_mem_of_forall₂ (p := fun declaration => (declaration.attributes.toList ≠ [] ∧
        ∀ key ∈ declaration.attributes.keys, Click.IsWord key) ∧
      ∀ option ∈ declaration.options, Click.ClearOption option)
      (Schema.declares_preorder lowered) ?_ _ hdeclaration
    intro node hnode declaration hdeclares
    obtain ⟨-, ⟨name, help, hidden, -, -, -, hattributes⟩, hoptions⟩ := hdeclares.normalized
    refine ⟨⟨by simp [hattributes], ?_⟩, ?_⟩
    · have hkeys : declaration.attributes.keys = ["name", "help", "hidden"] := by
        simp [OrderedMap.keys, Members.keys, hattributes]
      rw [hkeys]
      decide
    · refine forall_mem_of_forall₂ hoptions fun param hparam option hoption => ?_
      obtain ⟨hmem, hkind⟩ := List.mem_filter.1 hparam
      obtain ⟨hwords, htype⟩ := clear node hnode param hmem hkind
      exact hoption.clear hwords htype
  refine ⟨fun name hname => ?_, ?_, hnode.1, hnode.2⟩
  · exact Schema.isIdentifier_of_mem lowered
      (Schema.parent_mem_identifiers lowered hdeclaration hname)
  · exact Schema.isIdentifier_of_mem lowered (List.mem_map_of_mem hdeclaration)

/-- **A Click program determines its declarations**, whatever their texts are, if the keys of the
attributes of options are words and all declared types are written. -/
theorem compile_click_injective (schema schema' : Schema)
    (declarations declarations' : List Declaration)
    (lowered : schema.lower = .ok declarations) (lowered' : schema'.lower = .ok declarations')
    (clear : schema.ClearOptions) (clear' : schema'.ClearOptions)
    (same : schema.compile Click.target = schema'.compile Click.target) :
    declarations = declarations' := by
  refine Click.body_injective (Schema.clearDeclarations lowered clear)
    (Schema.clearDeclarations lowered' clear') ?_
  simpa [Schema.compile, lowered, lowered', pure_eq_ok] using same

/-- A schema whose texts look like parts of a program. -/
def quotingTools : Schema :=
  ⟨[.group ⟨⟨"tools", "say \"hi\"\n@click.pass_context", none, "False", []⟩, [],
      [⟨"run", "None", some "READER", "True", [⟨.option, .ofList [("name", "user"),
        ("help", "\", type=click.INT)"), ("type", "STRING"), ("default", "\\"),
        ("required", "False"), ("prompt", "None")]⟩]⟩]⟩]⟩

/-- The same schema with quotes around texts that do not need them, and with other permissions. -/
def requotingTools : Schema :=
  ⟨[.group ⟨⟨"\"tools\"", "say \"hi\"\n@click.pass_context", some "ADMIN", "False", []⟩, [],
      [⟨"run", "None", none, "True", [⟨.option, .ofList [("name", "\"user\""),
        ("help", "\", type=click.INT)"), ("type", "STRING"), ("default", "\"\\\""),
        ("required", "False"), ("prompt", "None")]⟩]⟩]⟩]⟩

/-- The declarations of both. -/
def quotingToolDeclarations : List Declaration :=
  let user : OptionDeclaration := ⟨"--user", "user", .ofList [
    ("help", .text "\", type=click.INT)"), ("default", .text "\\"), ("required", .truth false),
    ("prompt", .absent)], some .text⟩
  [⟨.group, .root, "tools", .ofList [("name", .text "tools"),
      ("help", .text "say \"hi\"\n@click.pass_context"), ("hidden", .truth false)], []⟩,
   ⟨.command, .node "tools", "run", .ofList [("name", .text "run"), ("help", .absent),
      ("hidden", .truth true)], [user]⟩]

theorem compile_click_injective_quotingTools :
    quotingTools ≠ requotingTools ∧ (quotingTools.ClearOptions ∧ requotingTools.ClearOptions) ∧
      quotingTools.compile Click.target = requotingTools.compile Click.target ∧
      ∃ declarations declarations', quotingTools.lower = .ok declarations ∧
        requotingTools.lower = .ok declarations' ∧ declarations = declarations' := by
  have different : quotingTools ≠ requotingTools := by decide +kernel
  have clear : quotingTools.ClearOptions ∧ requotingTools.ClearOptions := by decide +kernel
  have same : quotingTools.compile Click.target = requotingTools.compile Click.target := by
    decide +kernel
  have lowered : quotingTools.lower = .ok quotingToolDeclarations := by decide +kernel
  have lowered' : requotingTools.lower = .ok quotingToolDeclarations := by decide +kernel
  exact ⟨different, clear, same, _, _, lowered, lowered',
    compile_click_injective _ _ _ _ lowered lowered' clear.1 clear.2 same⟩

end CommandTree
