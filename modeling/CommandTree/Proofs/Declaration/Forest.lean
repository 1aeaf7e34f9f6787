import CommandTree.Declaration.Lowering
import CommandTree.Proofs.Identifier.Unique
import CommandTree.Proofs.Schema.Forest

/-!
# Lowering a forest

Lowering goes through a tree of groups and two lists of children.  On the forest of a schema it is
one recursion, which keeps the shape: a declaration stands where its node stands.

* `Schema.lower_eq` : the declarations of a schema are those of its forest in document order.
* `Forest.declare_spec` : what a successful lowering guarantees about all declarations.
* `Forest.Linked` holds if every declaration refers to the one directly around it.
-/

namespace CommandTree

/-- The declarations of a forest of nodes with the given parent, in the same shape. -/
def Forest.declare (parent : Parent) (taken : List String) :
    Forest (NodeKind × Entry) → Except ConfigurationError (Forest Declaration)
  | nil => return nil
  | cons (kind, entry) below rest => do
    let declaration ← entry.declare kind parent taken
    let taken := taken ++ [declaration.identifier]
    let below ← below.declare (.node declaration.identifier) taken
    let rest ← rest.declare parent (taken ++ identifiers below.preorder)
    return cons declaration below rest

theorem Forest.declare_append (a b : Forest (NodeKind × Entry)) (parent : Parent)
    (taken : List String) :
    (a.append b).declare parent taken = do
      let first ← a.declare parent taken
      let second ← b.declare parent (taken ++ identifiers first.preorder)
      return first.append second := by
  induction a generalizing taken with
  | nil => simp [append, declare, identifiers, preorder]
  | cons label below rest _ ih =>
    obtain ⟨kind, entry⟩ := label
    simp [append, declare, ih, identifiers, preorder]

/-! ### Lowering in document order -/

theorem lowerCommands_eq (parent : Parent) (taken : List String) (commands : List Entry) :
    lowerCommands parent taken commands =
      Forest.preorder <$> (Forest.ofCommands commands).declare parent taken := by
  induction commands generalizing taken with
  | nil => rfl
  | cons command rest ih =>
    simp [lowerCommands, Forest.ofCommands, Forest.declare, ih, Forest.preorder, identifiers]

mutual

theorem Group.lower_eq : ∀ (group : Group) (parent : Parent) (taken : List String),
    group.lower parent taken = Forest.preorder <$> group.forest.declare parent taken
  | ⟨entry, groups, commands⟩, parent, taken => by
    simp [Group.lower, Group.forest, lowerCommands_eq, Group.lowerList_eq groups, Forest.declare,
      Forest.declare_append, Forest.preorder]

theorem Group.lowerList_eq : ∀ (groups : List Group) (parent : Parent) (taken : List String),
    Group.lowerList parent taken groups =
      Forest.preorder <$> (Group.forestOfList groups).declare parent taken
  | [], _, _ => rfl
  | group :: rest, parent, taken => by
    simp [Group.lowerList, Group.forestOfList, Group.lower_eq group, Group.lowerList_eq rest,
      Forest.declare_append]

end

theorem Node.lower_eq (taken : List String) (node : Node) :
    node.lower taken = Forest.preorder <$> node.forest.declare .root taken := by
  cases node with
  | group g => exact g.lower_eq .root taken
  | command e => exact lowerCommands_eq .root taken [e]

theorem lowerNodes_eq (taken : List String) (nodes : List Node) :
    lowerNodes taken nodes =
      Forest.preorder <$> (Node.forestOfList nodes).declare .root taken := by
  induction nodes generalizing taken with
  | nil => rfl
  | cons node rest ih =>
    simp [lowerNodes, Node.forestOfList, node.lower_eq, ih, Forest.declare_append]

/-- **The declarations of a schema are those of its forest in document order.** -/
theorem Schema.lower_eq (schema : Schema) :
    schema.lower = Forest.preorder <$> schema.forest.declare .root [] :=
  lowerNodes_eq [] schema.nodes

theorem Schema.lower_eq_ok {schema : Schema} {declarations : List Declaration} :
    schema.lower = .ok declarations ↔
      ∃ forest, schema.forest.declare .root [] = .ok forest ∧ forest.preorder = declarations := by
  rw [schema.lower_eq, map_eq_ok]

/-! ### What a successful lowering guarantees -/

/-- A declaration declares a node: it has the kind of the node, the meaning of its texts and of its
options, and a variant of its identifier. -/
structure Declares (node : NodeKind × Entry) (declaration : Declaration) : Prop where
  /-- The kind is that of the node. -/
  kind : declaration.kind = node.1
  /-- The identifier is a variant of that of the name. -/
  identifier : ∃ n, declaration.identifier = identifierVariant node.2.baseIdentifier n
  /-- The name, the help and the truth word have their meaning. -/
  attributes : node.2.literals = .ok declaration.attributes
  /-- The options are those of the node, in order. -/
  options : List.Forall₂ (fun param option => param.declare node.2.name = .ok option)
    (node.2.params.filter Param.isOption) declaration.options

/-- Every declaration refers to the one directly around it, those at the top to `parent`. -/
def Forest.Linked (parent : Parent) : Forest Declaration → Prop
  | nil => True
  | cons declaration below rest =>
    declaration.parent = parent ∧ below.Linked (.node declaration.identifier) ∧
      rest.Linked parent

/-- Only groups have declarations below them. -/
theorem Schema.innerNodes_declared (schema : Schema) {declared : Forest Declaration}
    (h : schema.forest.Matches Declares declared) : declared.InnerNodes (·.kind = .group) :=
  h.innerNodes (fun _ _ hdeclares hkind => hdeclares.kind.trans hkind) schema.innerNodes_forest

theorem Entry.declare_eq_ok {kind : NodeKind} {parent : Parent} {taken : List String}
    {entry : Entry} {declaration : Declaration}
    (h : entry.declare kind parent taken = .ok declaration) :
    Declares (kind, entry) declaration ∧ declaration.parent = parent ∧
      declaration.identifier = claimIdentifier taken entry.baseIdentifier := by
  simp only [declare, bind_eq_ok, mapM_eq_ok, pure_eq_ok, Except.ok.injEq] at h
  obtain ⟨attributes, hattributes, options, hoptions, rfl⟩ := h
  obtain ⟨n, -, hn, -⟩ := claimIdentifier_spec taken entry.baseIdentifier
  exact ⟨⟨rfl, ⟨n, hn⟩, hattributes, hoptions⟩, rfl, rfl⟩

/-- The identifier of a node is that of some text. -/
theorem Entry.exists_baseIdentifier_eq (entry : Entry) :
    ∃ text, entry.baseIdentifier = identifierOf text := by
  unfold baseIdentifier
  split
  · exact ⟨_, rfl⟩
  · exact ⟨_, rfl⟩

theorem Entry.baseIdentifier_notMem_reservedWords (entry : Entry) :
    entry.baseIdentifier ∉ reservedWords := by
  obtain ⟨text, htext⟩ := entry.exists_baseIdentifier_eq
  rw [htext]
  exact identifierOf_notMem_reservedWords text

/-- **A successful lowering keeps the shape and the links, and all its identifiers are new, distinct
and not reserved.** -/
theorem Forest.declare_spec {nodes : Forest (NodeKind × Entry)} {parent : Parent}
    {taken : List String} {declared : Forest Declaration}
    (h : nodes.declare parent taken = .ok declared) :
    Matches Declares nodes declared ∧ declared.Linked parent ∧
      (identifiers declared.preorder).Nodup ∧
      ∀ name ∈ identifiers declared.preorder, name ∉ taken ∧ name ∉ reservedWords := by
  induction nodes generalizing parent taken declared with
  | nil =>
    obtain rfl : nil = declared := by simpa [declare, pure_eq_ok] using h
    exact ⟨.nil, trivial, List.nodup_nil, by simp [identifiers, preorder]⟩
  | cons label below rest ih ih' =>
    obtain ⟨kind, entry⟩ := label
    simp only [declare, bind_eq_ok, pure_eq_ok, Except.ok.injEq] at h
    obtain ⟨declaration, hdeclaration, below', hbelow, rest', hrest, rfl⟩ := h
    obtain ⟨hdeclares, hparent, hidentifier⟩ := Entry.declare_eq_ok hdeclaration
    obtain ⟨hmatch, hlinked, hnodup, hnew⟩ := ih hbelow
    obtain ⟨hmatch', hlinked', hnodup', hnew'⟩ := ih' hrest
    refine ⟨.cons hdeclares hmatch hmatch', ⟨hparent, hlinked, hlinked'⟩, ?_, ?_⟩
    · simp only [identifiers, preorder, List.map_cons, List.map_append, List.nodup_cons,
        List.nodup_append, List.mem_append, not_or] at hnodup hnodup' hnew hnew' ⊢
      refine ⟨⟨fun hmem => (hnew _ hmem).1.2 (by simp), fun hmem => (hnew' _ hmem).1.1.2 (by simp)⟩,
        hnodup, hnodup', ?_⟩
      rintro name hname _ hname' rfl
      exact (hnew' _ hname').1.2 hname
    · simp only [identifiers, preorder, List.map_cons, List.map_append, List.mem_cons,
        List.mem_append, not_or] at hnew hnew' ⊢
      rintro name (rfl | hname | hname)
      · rw [hidentifier]
        exact ⟨claimIdentifier_notMem taken _, claimIdentifier_notMem_reservedWords taken
          entry.baseIdentifier_notMem_reservedWords⟩
      · exact ⟨(hnew name hname).1.1, (hnew name hname).2⟩
      · exact ⟨(hnew' name hname).1.1.1, (hnew' name hname).2⟩

end CommandTree
