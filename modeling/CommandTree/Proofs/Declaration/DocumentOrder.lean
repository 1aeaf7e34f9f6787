import CommandTree.Proofs.Declaration.Attributes
import CommandTree.Proofs.Declaration.Links
import CommandTree.Proofs.Schema.Walks

/-!
# Lowering in document order

Lowering either declares every node of a schema, in document order, or stops at the first node that
cannot be declared:

* `Entry.fault?` is what is wrong with a node: its name, its help, whether it is hidden, then its
  options in order.  `Schema.errorOf?_lower` : lowering fails with the first fault in document
  order.
* `NormalizedNode` and `NormalizedOption` say what a declaration makes of a node and of an option;
  `Declares.normalized` : declarations are of this kind.
* `lower_documentOrder` : both together, and the other walks over a schema meet the same nodes.
-/

namespace CommandTree

/-! ### What can be wrong -/

/-- The type that an option declares. -/
def Param.declaredType? (param : Param) : Option ValueType :=
  (param.get? typeKey).bind ValueType.lookup

/-- What is wrong with the name of an option: it is missing, or nothing is left of it. -/
def Param.nameFault? (node : String) (param : Param) : Option ConfigurationError :=
  match param.get? nameKey with
  | none => some (.missingOptionName node)
  | some raw =>
    if raw = absentWord ∨ Literal.unquote raw = "" then some (.optionNameTooShort node) else none

/-- What is wrong with an option of a node, if anything is: the type comes first, then the other
attributes in order, then the name. -/
def Param.fault? (node : String) (param : Param) : Option ConfigurationError :=
  (errorOf? (declaredType param.attributes)).or <|
    ((param.attributes.erase typeKey).toList.findSome? fun member =>
        errorOf? (interpretAttribute param.declaredType? member.1 member.2)).or
      (param.nameFault? node)

/-- What is wrong with a node, if anything is: the name comes first, then the help, then whether it
is hidden, then its options in order. -/
def Entry.fault? (entry : Entry) : Option ConfigurationError :=
  (errorOf? (Literal.ofText "name" entry.name)).or <|
    (errorOf? (Literal.ofText "help" entry.help)).or <|
      (errorOf? (Literal.ofText "hidden" entry.hidden)).or <|
        (entry.params.filter Param.isOption).findSome? (Param.fault? entry.name)

theorem declaredType_eq_ok {param : Param} {valueType : Option ValueType}
    (h : declaredType param.attributes = .ok valueType) : valueType = param.declaredType? := by
  rw [declaredType] at h
  rw [Param.declaredType?, Param.get?]
  cases hname : param.attributes.get? typeKey with
  | none =>
    simp only [hname] at h
    exact (Except.ok.inj h).symm
  | some name =>
    simp only [hname] at h
    cases hlookup : ValueType.lookup name with
    | none => simp [hlookup] at h
    | some type =>
      simp only [hlookup] at h
      rw [← Except.ok.inj h, Option.bind_some, hlookup]

theorem Param.errorOf?_ofAttributes (param : Param) :
    errorOf? (Interpreted.ofAttributes param.attributes) =
      (errorOf? (declaredType param.attributes)).or
        ((param.attributes.erase typeKey).toList.findSome? fun member =>
          errorOf? (interpretAttribute param.declaredType? member.1 member.2)) := by
  refine errorOf?_bind fun valueType htype => ?_
  rw [declaredType_eq_ok htype]
  refine (errorOf?_bind_pure _ _).trans ?_
  rw [errorOf?_mapM]
  congr 1
  funext member
  exact errorOf?_bind_pure _ _

/-- An option cannot be declared exactly if something is wrong with it. -/
theorem Param.errorOf?_declare (node : String) (param : Param) :
    errorOf? (param.declare node) = param.fault? node := by
  rw [fault?, ← Option.or_assoc, ← param.errorOf?_ofAttributes]
  refine errorOf?_bind fun meaning hmeaning => ?_
  -- the attributes have a meaning, so only the name can be wrong
  obtain ⟨attributes, valueType⟩ := meaning
  have hkey : nameKey ≠ typeKey := by decide
  have hrel := Interpreted.rel_get? hmeaning hkey
  rw [nameFault?, Param.get?]
  dsimp only at hrel ⊢
  generalize param.attributes.get? nameKey = raw? at hrel ⊢
  generalize attributes.get? nameKey = literal? at hrel ⊢
  cases hrel with
  | none => rfl
  | @some raw literal hliteral =>
    rw [interpretAttribute_of_ne (by decide), Literal.ofText_name] at hliteral
    obtain rfl := Except.ok.inj hliteral
    by_cases habsent : raw = absentWord
    · simp [habsent]
    · by_cases hempty : Literal.unquote raw = ""
      · simp [hempty, habsent]
      · simp [hempty, habsent, pure_eq_ok]

theorem Entry.errorOf?_literals (entry : Entry) :
    errorOf? entry.literals =
      (errorOf? (Literal.ofText "name" entry.name)).or
        ((errorOf? (Literal.ofText "help" entry.help)).or
          (errorOf? (Literal.ofText "hidden" entry.hidden))) := by
  exact errorOf?_bind fun name _ => errorOf?_bind fun help _ => errorOf?_bind_pure _ _

/-- A node cannot be declared exactly if something is wrong with it, wherever it stands. -/
theorem Entry.errorOf?_declare (kind : NodeKind) (parent : Parent) (taken : List String)
    (entry : Entry) : errorOf? (entry.declare kind parent taken) = entry.fault? := by
  have hoptions : ∀ attributes, entry.literals = .ok attributes →
      errorOf? (do
        let options ← (entry.params.filter Param.isOption).mapM (Param.declare entry.name)
        pure (Declaration.mk kind parent (claimIdentifier taken entry.baseIdentifier) attributes
          options)) =
        (entry.params.filter Param.isOption).findSome? (Param.fault? entry.name) := by
    intro attributes _
    refine (errorOf?_bind_pure _ _).trans ?_
    rw [errorOf?_mapM]
    congr 1
    funext param
    exact param.errorOf?_declare entry.name
  refine (errorOf?_bind hoptions).trans ?_
  rw [entry.errorOf?_literals, fault?, Option.or_assoc, Option.or_assoc]

/-! ### The first error -/

/-- Lowering a forest fails with the first fault in document order. -/
theorem Forest.errorOf?_declare (nodes : Forest (NodeKind × Entry)) (parent : Parent)
    (taken : List String) :
    errorOf? (nodes.declare parent taken) =
      nodes.preorder.findSome? fun node => node.2.fault? := by
  induction nodes generalizing parent taken with
  | nil => rfl
  | cons label below rest ih ih' =>
    obtain ⟨kind, entry⟩ := label
    have hrest : ∀ (declaration : Declaration) (below' : Forest Declaration)
        (taken : List String), errorOf? (do
          let rest' ← rest.declare parent taken
          pure (cons declaration below' rest')) =
        rest.preorder.findSome? fun node => node.2.fault? := by
      intro declaration below' taken
      exact (errorOf?_bind_pure _ _).trans (ih' parent taken)
    have hbelow : ∀ declaration, entry.declare kind parent taken = .ok declaration →
        errorOf? (do
          let taken := taken ++ [declaration.identifier]
          let below' ← below.declare (.node declaration.identifier) taken
          let rest' ← rest.declare parent (taken ++ identifiers below'.preorder)
          pure (cons declaration below' rest')) =
        (below.preorder.findSome? fun node => node.2.fault?).or
          (rest.preorder.findSome? fun node => node.2.fault?) := by
      intro declaration _
      refine (errorOf?_bind fun below' _ => hrest declaration below' _).trans ?_
      rw [ih]
    refine (errorOf?_bind hbelow).trans ?_
    rw [Entry.errorOf?_declare, preorder, List.findSome?_cons, List.findSome?_append]
    cases entry.fault? <;> rfl

/-- **Lowering fails with the first fault in document order.** -/
theorem Schema.errorOf?_lower (schema : Schema) :
    errorOf? schema.lower = schema.preorder.findSome? fun node => node.2.fault? := by
  rw [schema.lower_eq, errorOf?_map, Forest.errorOf?_declare, schema.preorder_forest]

/-! ### What a declaration says -/

/-- An option declaration makes of an option what it should. -/
structure NormalizedOption (param : Param) (option : OptionDeclaration) : Prop where
  /-- The flag is the name without its quotes after two dashes, and the value is bound to the
  identifier of the name. -/
  flag : ∃ raw name, param.get? "name" = some raw ∧
    Literal.ofText "name" raw = .ok (.text name) ∧ name ≠ "" ∧
    option.flag = "--" ++ name ∧ option.argument = identifierOf name
  /-- The type is the declared one, if one is declared. -/
  valueType : (param.get? "type").map ValueType.lookup = option.valueType.map some
  /-- The other attributes have their meaning and their order. -/
  attributes : List.Forall₂
    (fun member literal => member.1 = literal.1 ∧
      interpretAttribute option.valueType member.1 member.2 = .ok literal.2)
    (param.attributes.toList.filter fun member => member.1 ≠ "name" ∧ member.1 ≠ "type")
    option.attributes.toList

/-- A declaration makes of a node what it should. -/
structure NormalizedNode (node : NodeKind × Entry) (declaration : Declaration) : Prop where
  /-- The kind is that of the node. -/
  kind : declaration.kind = node.1
  /-- The attributes are the name, the help and whether the node is hidden, with their meaning. -/
  attributes : ∃ name help hidden, Literal.ofText "name" node.2.name = .ok name ∧
    Literal.ofText "help" node.2.help = .ok help ∧
    Literal.ofText "hidden" node.2.hidden = .ok hidden ∧
    declaration.attributes.toList = [("name", name), ("help", help), ("hidden", hidden)]
  /-- The options are those of the node, in order. -/
  options : List.Forall₂ NormalizedOption (node.2.params.filter Param.isOption) declaration.options

theorem Param.normalized_of_declare {node : String} {param : Param} {option : OptionDeclaration}
    (h : param.declare node = .ok option) : NormalizedOption param option := by
  obtain ⟨meaning, name, hmeaning, hname, hempty, rfl⟩ := Param.declare_eq_ok.1 h
  obtain ⟨htype, hmembers⟩ := Interpreted.ofAttributes_eq_ok.1 hmeaning
  refine ⟨?_, ?_, ?_⟩
  · have hkey : nameKey ≠ typeKey := by decide
    have hrel := Interpreted.rel_get? hmeaning hkey
    rw [hname] at hrel
    cases hraw : param.attributes.get? nameKey with
    | none =>
      rw [hraw] at hrel
      cases hrel
    | some raw =>
      rw [hraw] at hrel
      cases hrel with
      | some hliteral =>
        rw [interpretAttribute_of_ne (by decide)] at hliteral
        exact ⟨raw, name, hraw, hliteral, hempty, rfl, rfl⟩
  · rw [declaredType] at htype
    rw [get?]
    change (param.attributes.get? typeKey).map ValueType.lookup = _
    cases hword : param.attributes.get? typeKey with
    | none =>
      rw [hword] at htype
      rw [← Except.ok.inj htype]
      rfl
    | some word =>
      rw [hword] at htype
      cases hlookup : ValueType.lookup word with
      | none => simp [hlookup] at htype
      | some type =>
        simp only [hlookup, Except.ok.injEq] at htype
        simp [← htype, hlookup]
  · have herase := Members.rel_erase (r := fun key raw literal =>
      interpretAttribute meaning.valueType key raw = .ok literal) hmembers nameKey
    have hfilter : Members.erase nameKey (param.attributes.erase typeKey).toList =
        param.attributes.toList.filter fun member => member.1 ≠ "name" ∧ member.1 ≠ "type" := by
      simp only [Members.erase, OrderedMap.erase, List.filter_filter]
      refine List.filter_congr fun member _ => ?_
      by_cases hname : member.1 = "name" <;> by_cases htype : member.1 = "type" <;>
        simp [hname, htype, nameKey, typeKey]
    rwa [hfilter] at herase

theorem Declares.normalized {node : NodeKind × Entry} {declaration : Declaration}
    (h : Declares node declaration) : NormalizedNode node declaration := by
  refine ⟨h.kind, ?_, ?_⟩
  · obtain ⟨name, help, hidden, hname, hhelp, hhidden, hattributes⟩ :=
      Entry.literals_eq_ok.1 h.attributes
    refine ⟨name, help, hidden, hname, hhelp, hhidden, ?_⟩
    rw [hattributes, OrderedMap.toList_ofList (by simp [Members.keys, nameKey])]
    rfl
  · exact h.options.imp fun _ _ hoption => Param.normalized_of_declare hoption

/-! ### All together -/

/-- **Lowering goes through a schema in document order, declares every node, and stops at the first
one that cannot be declared; the lint rules and the outlines go through the same nodes.** -/
theorem lower_documentOrder (schema : Schema) :
    (∀ declarations, schema.lower = .ok declarations →
      declarations.length = schema.nodeCount ∧
        List.Forall₂ NormalizedNode schema.preorder declarations) ∧
    (∀ error, schema.lower = .error error → ∃ before node after,
      schema.preorder = before ++ node :: after ∧ (∀ other ∈ before, other.2.fault? = none) ∧
        node.2.fault? = some error) ∧
    schema.visits.map Visit.node = schema.preorder ∧
    schema.placed.map Prod.snd = schema.preorder ∧
    ∀ style indent, schema.outlineLines style indent =
      schema.placed.map fun node => outlineLine style indent node.1 node.2.1 node.2.2 := by
  refine ⟨?_, ?_, schema.map_node_visits, schema.map_snd_placed, schema.outlineLines_eq⟩
  · intro declarations lowered
    have hdeclares := Schema.declares_preorder lowered
    refine ⟨?_, hdeclares.imp fun _ _ h => h.normalized⟩
    rw [← schema.length_preorder, hdeclares.length_eq]
  · intro error failed
    have hfault := schema.errorOf?_lower
    rw [failed, errorOf?_error, eq_comm, List.findSome?_eq_some_iff] at hfault
    obtain ⟨before, node, after, horder, hnode, hbefore⟩ := hfault
    exact ⟨before, node, after, horder, hbefore, hnode⟩

/-- A schema with two faults: a truth word that is none in the second command of a group, and a type
that is unknown in the group after it, although the document lists that group first. -/
def faultyTools : Schema :=
  ⟨[.group ⟨⟨"tools", "None", none, "False", []⟩,
      [⟨⟨"inner", "None", none, "False", [⟨.option, .ofList [("type", "FLOAT")]⟩]⟩, [], []⟩],
      [⟨"first", "None", none, "False", []⟩, ⟨"second", "None", none, "no", []⟩]⟩]⟩

theorem lower_documentOrder_faultyTools :
    (repeatedTools.lower = .ok repeatedToolDeclarations ∧
      repeatedToolDeclarations.length = repeatedTools.nodeCount ∧
      List.Forall₂ NormalizedNode repeatedTools.preorder repeatedToolDeclarations) ∧
    faultyTools.lower = .error (.invalidTruth "hidden" "no") ∧
      ∃ before node after, faultyTools.preorder = before ++ node :: after ∧
        (∀ other ∈ before, other.2.fault? = none) ∧
        node.2.fault? = some (.invalidTruth "hidden" "no") := by
  have lowered : repeatedTools.lower = .ok repeatedToolDeclarations := by decide +kernel
  have failed : faultyTools.lower = .error (.invalidTruth "hidden" "no") := by decide +kernel
  exact ⟨⟨lowered, (lower_documentOrder repeatedTools).1 _ lowered⟩, failed,
    (lower_documentOrder faultyTools).2.1 _ failed⟩

end CommandTree
