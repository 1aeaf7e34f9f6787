import CommandTree.Declaration.EntryPoint
import CommandTree.Proofs.Declaration.Attributes
import CommandTree.Proofs.Declaration.Links
import CommandTree.Proofs.Host.Rebuilding
import CommandTree.Proofs.Identifier.Usable

/-!
# Where a program can start

A program starts with one of its top-level declarations, which is asked for by its identifier or by
its name.  Both are looked for at once, from the first declaration on, so that an earlier
declaration with the name can hide a later one with the identifier, and the other way round.

* `Schema.starts` are the top-level nodes with their declarations;
  `Schema.pairwise_starts` : the name of a node does not lead to the identifier of a later one.
* `Schema.entryPoint_eq_iff` : a request leads to a declaration exactly if the declaration answers
  to it and no earlier one does.
* `entryPoint_sound` : when an identifier and when a name lead to the declaration that has it; no
  request leads below the top level.
-/

namespace CommandTree

/-! ### The top level of a forest -/

namespace Forest

variable {α β : Type}

theorem roots_append (a b : Forest α) : (a.append b).roots = a.roots ++ b.roots := by
  induction a with
  | nil => rfl
  | cons label below rest _ ih => simp only [append, roots, ih, List.cons_append]

theorem mem_preorder_of_mem_roots {forest : Forest α} {label : α} (h : label ∈ forest.roots) :
    label ∈ forest.preorder := by
  induction forest with
  | nil => exact h
  | cons first below rest _ ih =>
    rw [preorder, List.mem_cons, List.mem_append]
    obtain rfl | h := List.mem_cons.1 h
    · exact .inl rfl
    · exact .inr (.inr (ih h))

theorem Matches.forall₂_roots {r : α → β → Prop} {a : Forest α} {b : Forest β}
    (h : Matches r a b) : List.Forall₂ r a.roots b.roots := by
  induction h with
  | nil => exact .nil
  | cons hlabel _ _ _ ih => exact .cons hlabel ih

/-- The name of a root does not lead to the identifier of a later one, as that identifier is taken
by then. -/
theorem pairwise_roots {nodes : Forest (NodeKind × Entry)} {parent : Parent}
    {taken : List String} {declared : Forest Declaration}
    (h : nodes.declare parent taken = .ok declared) :
    (nodes.roots.zip declared.roots).Pairwise fun earlier later =>
      earlier.1.2.baseIdentifier ≠ later.2.identifier := by
  induction nodes generalizing taken declared with
  | nil => exact .nil
  | cons label below rest _ ih =>
    obtain ⟨kind, entry⟩ := label
    simp only [declare, bind_eq_ok, pure_eq_ok, Except.ok.injEq] at h
    obtain ⟨declaration, hdeclaration, below', hbelow, rest', hrest, rfl⟩ := h
    obtain ⟨-, -, hidentifier⟩ := Entry.declare_eq_ok hdeclaration
    obtain ⟨-, -, -, hnew⟩ := Forest.declare_spec hrest
    rw [roots, roots, List.zip_cons_cons, List.pairwise_cons]
    refine ⟨fun later hlater heq => ?_, ih hrest⟩
    have hmem := mem_preorder_of_mem_roots (List.of_mem_zip hlater).2
    have hfree := (hnew _ (List.mem_map_of_mem hmem)).1
    rw [← heq] at hfree
    -- the name is not taken later on, so the first root could have had it
    simp only [List.mem_append, List.mem_singleton, not_or] at hfree
    obtain ⟨⟨htaken, hself⟩, -⟩ := hfree
    exact hself (hidentifier.trans (claimIdentifier_of_notMem htaken)).symm

end Forest

theorem Node.roots_forest (node : Node) : node.forest.roots = [(node.kind, node.entry)] := by
  obtain ⟨entry, groups, commands⟩ | entry := node <;> rfl

theorem Schema.roots_forest (schema : Schema) :
    schema.forest.roots = schema.nodes.map fun node => (node.kind, node.entry) := by
  obtain ⟨nodes⟩ := schema
  rw [forest]
  induction nodes with
  | nil => rfl
  | cons node rest ih =>
    rw [Node.forestOfList, Forest.roots_append, ih, node.roots_forest]
    rfl

/-! ### The top level of a program -/

/-- The top-level nodes of a schema, each with its declaration. -/
def Schema.starts (schema : Schema) (declarations : List Declaration) :
    List (Node × Declaration) :=
  schema.nodes.zip (topLevel declarations)

section Lowered

variable {schema : Schema} {declarations : List Declaration}

theorem Schema.topLevel_eq_roots (lowered : schema.lower = .ok declarations) :
    ∃ declared, schema.forest.declare .root [] = .ok declared ∧
      topLevel declarations = declared.roots := by
  obtain ⟨declared, hdeclare, rfl⟩ := Schema.lower_eq_ok.1 lowered
  obtain ⟨-, hlinked, -⟩ := Forest.declare_spec hdeclare
  exact ⟨declared, hdeclare, hlinked.filter_parent fun _ _ => by simp⟩

/-- The declarations at the top level are those of the top-level nodes, in order. -/
theorem Schema.declares_topLevel (lowered : schema.lower = .ok declarations) :
    List.Forall₂ (fun node declaration => Declares (node.kind, node.entry) declaration)
      schema.nodes (topLevel declarations) := by
  obtain ⟨declared, hdeclare, hroots⟩ := Schema.topLevel_eq_roots lowered
  obtain ⟨hmatch, -⟩ := Forest.declare_spec hdeclare
  rw [hroots, ← List.forall₂_map_left_iff (f := fun node : Node => (node.kind, node.entry)),
    ← schema.roots_forest]
  exact hmatch.forall₂_roots

/-- A schema has a declaration at the top level exactly if it has a node. -/
theorem Schema.topLevel_eq_nil_iff (lowered : schema.lower = .ok declarations) :
    topLevel declarations = [] ↔ schema.nodes = [] := by
  rw [← List.length_eq_zero_iff, ← List.length_eq_zero_iff,
    (Schema.declares_topLevel lowered).length_eq]

theorem Schema.declares_of_mem_starts (lowered : schema.lower = .ok declarations)
    {start : Node × Declaration} (h : start ∈ schema.starts declarations) :
    Declares (start.1.kind, start.1.entry) start.2 :=
  (List.forall₂_iff_zip.1 (Schema.declares_topLevel lowered)).2 h

theorem Schema.topLevel_of_starts (lowered : schema.lower = .ok declarations)
    {before after : List (Node × Declaration)} {node : Node} {declaration : Declaration}
    (h : schema.starts declarations = before ++ (node, declaration) :: after) :
    topLevel declarations = before.map Prod.snd ++ declaration :: after.map Prod.snd := by
  have hlength := (Schema.declares_topLevel lowered).length_eq
  rw [← List.map_snd_zip hlength.ge, ← starts, h, List.map_append, List.map_cons]

/-- The name of a top-level node does not lead to the identifier of a later one. -/
theorem Schema.pairwise_starts (lowered : schema.lower = .ok declarations) :
    (schema.starts declarations).Pairwise fun earlier later =>
      earlier.1.entry.baseIdentifier ≠ later.2.identifier := by
  obtain ⟨declared, hdeclare, hroots⟩ := Schema.topLevel_eq_roots lowered
  have h := Forest.pairwise_roots hdeclare
  rw [schema.roots_forest, List.zip_map_left, List.pairwise_map] at h
  rw [starts, hroots]
  exact h

/-! ### Requests -/

/-- A declaration answers to its identifier and to the name of its node. -/
theorem Declares.answersTo_iff {node : NodeKind × Entry} {declaration : Declaration}
    (h : Declares node declaration) {requested : String} :
    declaration.answersTo requested = true ↔
      declaration.identifier = requested ∨ node.2.nameLiteral = .text requested := by
  rw [Declaration.answersTo, h.get?_nameKey, Bool.or_eq_true, decide_eq_true_iff,
    decide_eq_true_iff, Option.some.injEq]

/-- No two declarations at the top level have the same identifier. -/
theorem Schema.nodup_topLevel (lowered : schema.lower = .ok declarations) :
    (identifiers (topLevel declarations)).Nodup :=
  (Schema.identifiers_spec lowered).1.sublist (List.filter_sublist.map _)

/-- **A request leads to a declaration that answers to it exactly if no earlier one does.** -/
theorem Schema.entryPoint_eq_iff (lowered : schema.lower = .ok declarations)
    {before after : List (Node × Declaration)} {node : Node} {declaration : Declaration}
    (h : schema.starts declarations = before ++ (node, declaration) :: after) {requested : String}
    (hanswers : declaration.identifier = requested ∨ node.entry.nameLiteral = .text requested) :
    schema.entryPoint (some requested) = .ok declaration.identifier ↔
      ∀ earlier ∈ before, earlier.2.identifier ≠ requested ∧
        earlier.1.entry.nameLiteral ≠ .text requested := by
  have htop := Schema.topLevel_of_starts lowered h
  have hdeclares : ∀ start ∈ before ++ (node, declaration) :: after,
      Declares (start.1.kind, start.1.entry) start.2 :=
    fun start hstart => Schema.declares_of_mem_starts lowered (h ▸ hstart)
  simp only [List.forall_mem_append, List.forall_mem_cons] at hdeclares
  obtain ⟨hbefore, hself, -⟩ := hdeclares
  have hiff : (∀ earlier ∈ before, earlier.2.identifier ≠ requested ∧
      earlier.1.entry.nameLiteral ≠ .text requested) ↔
        (before.map Prod.snd).find? (·.answersTo requested) = none := by
    simp only [List.find?_eq_none, List.forall_mem_map, ← not_or]
    exact forall₂_congr fun earlier hearlier =>
      not_congr (hbefore earlier hearlier).answersTo_iff.symm
  have hfound : (declaration :: after.map Prod.snd).find? (·.answersTo requested) =
      some declaration :=
    List.find?_cons_of_pos (hself.answersTo_iff.2 hanswers)
  rw [hiff, entryPoint, lowered, ok_bind, CommandTree.entryPoint, htop, List.find?_append, hfound]
  cases hfind : (before.map Prod.snd).find? (·.answersTo requested) with
  | none => simp
  | some earlier =>
    -- the earlier one has another identifier
    have hnodup := Schema.nodup_topLevel lowered
    rw [htop, identifiers, List.map_append, List.nodup_append] at hnodup
    have hne := hnodup.2.2 _ (List.mem_map_of_mem (List.mem_of_find?_eq_some hfind))
      declaration.identifier (by simp)
    simpa using hne

/-- A request leads to a declaration at the top level. -/
theorem Schema.entryPoint_mem (lowered : schema.lower = .ok declarations)
    {requested : Option String} {identifier : String}
    (h : schema.entryPoint requested = .ok identifier) :
    identifier ∈ identifiers (topLevel declarations) := by
  rw [entryPoint, lowered, ok_bind] at h
  cases requested with
  | none =>
    cases htop : topLevel declarations with
    | nil => simp [CommandTree.entryPoint, htop] at h
    | cons declaration rest =>
      simp only [CommandTree.entryPoint, htop, List.head?_cons, Except.ok.injEq] at h
      exact h ▸ List.mem_cons_self
  | some requested =>
    cases hfind : (topLevel declarations).find? (·.answersTo requested) with
    | none => simp [CommandTree.entryPoint, hfind] at h
    | some declaration =>
      simp only [CommandTree.entryPoint, hfind, Except.ok.injEq] at h
      exact h ▸ List.mem_map_of_mem (List.mem_of_find?_eq_some hfind)

/-- A declaration with an identifier from the top level is itself there. -/
theorem Schema.parent_eq_root (lowered : schema.lower = .ok declarations)
    {declaration : Declaration} (hmem : declaration ∈ declarations)
    (h : declaration.identifier ∈ identifiers (topLevel declarations)) :
    declaration.parent = .root := by
  obtain ⟨other, hother, heq⟩ := List.mem_map.1 h
  obtain ⟨hotherMem, hroot⟩ := List.mem_filter.1 hother
  have hsame := List.inj_on_of_nodup_map (Schema.identifiers_spec lowered).1 hotherMem hmem heq
  exact hsame ▸ of_decide_eq_true hroot

end Lowered

/-! ### Names that look like identifiers -/

/-- The identifier of a declaration is its own identifier, unless a capital without a small form
stands behind its first character. -/
theorem Declares.identifierOf_eq_self {node : NodeKind × Entry} {declaration : Declaration}
    (h : Declares node declaration)
    (hlone : ∀ c ∈ declaration.identifier.toList.tail, ¬ IsLoneCapital c) :
    identifierOf declaration.identifier = declaration.identifier := by
  obtain ⟨n, hn⟩ := h.identifier
  obtain ⟨text, htext⟩ := node.2.exists_baseIdentifier_eq
  have settled : IsSettled declaration.identifier := by
    rw [hn, htext]
    exact (isSettled_identifierOf text).variant n
  refine settled.identifierOf_eq_iff.2 fun c hc => ?_
  by_contra hcapital
  have hsmall := settled.small c (List.mem_of_mem_tail hc)
  exact hlone c hc ⟨by simpa using hcapital, hsmall⟩

/-! ### Requests are sound -/

/-- Requests lead to the nodes that they mean, with the exceptions that come from looking for names
and for identifiers at once. -/
structure SoundEntryPoints (schema : Schema) (declarations : List Declaration) : Prop where
  /-- The declarations at the top level declare the top-level nodes, in order. -/
  declares : List.Forall₂ (fun node declaration => Declares (node.kind, node.entry) declaration)
    schema.nodes (topLevel declarations)
  /-- The identifier of a declaration leads to that declaration exactly if it is not the name of an
  earlier node. -/
  identifier_iff : ∀ (before after : List (Node × Declaration)) (node : Node)
    (declaration : Declaration),
    schema.starts declarations = before ++ (node, declaration) :: after →
      (schema.entryPoint (some declaration.identifier) = .ok declaration.identifier ↔
        ∀ earlier ∈ before, earlier.1.entry.nameLiteral ≠ .text declaration.identifier)
  /-- If it is the name of an earlier node, then a capital without a small form stands behind its
  first character. -/
  exception : ∀ (before after : List (Node × Declaration)) (node : Node)
    (declaration : Declaration),
    schema.starts declarations = before ++ (node, declaration) :: after →
      ∀ earlier ∈ before, earlier.1.entry.nameLiteral = .text declaration.identifier →
        ∃ c ∈ declaration.identifier.toList.tail, IsLoneCapital c
  /-- A name that only one node has leads to the declaration of that node exactly if it is not the
  identifier of an earlier one. -/
  name_iff : ∀ (before after : List (Node × Declaration)) (node : Node)
    (declaration : Declaration) (requested : String),
    schema.starts declarations = before ++ (node, declaration) :: after →
      node.entry.nameLiteral = .text requested →
        (∀ other ∈ before ++ after, other.1.entry.nameLiteral ≠ .text requested) →
          (schema.entryPoint (some requested) = .ok declaration.identifier ↔
            ∀ earlier ∈ before, earlier.2.identifier ≠ requested)
  /-- A request leads to the top level, and never to a declaration below it. -/
  topLevel : ∀ (requested : Option String) (identifier : String),
    schema.entryPoint requested = .ok identifier →
      identifier ∈ identifiers (topLevel declarations) ∧
        ∀ declaration ∈ declarations, declaration.identifier = identifier →
          declaration.parent = .root

/-- **Requests for a node to start with are sound**, whatever the names of the nodes are. -/
theorem entryPoint_sound (schema : Schema) (declarations : List Declaration)
    (lowered : schema.lower = .ok declarations) : SoundEntryPoints schema declarations := by
  refine ⟨Schema.declares_topLevel lowered, ?_, ?_, ?_, ?_⟩
  · intro before after node declaration hstarts
    rw [Schema.entryPoint_eq_iff lowered hstarts (.inl rfl)]
    refine ⟨fun h earlier hearlier => (h earlier hearlier).2, fun h earlier hearlier =>
      ⟨?_, h earlier hearlier⟩⟩
    have hnodup := Schema.nodup_topLevel lowered
    rw [Schema.topLevel_of_starts lowered hstarts, identifiers, List.map_append,
      List.nodup_append] at hnodup
    exact hnodup.2.2 _ (List.mem_map_of_mem (List.mem_map_of_mem hearlier)) _ (by simp)
  · intro before after node declaration hstarts earlier hearlier hname
    by_contra hlone
    push Not at hlone
    have hmem : (node, declaration) ∈ schema.starts declarations := by simp [hstarts]
    have hself := (Schema.declares_of_mem_starts lowered hmem).identifierOf_eq_self hlone
    have hpairwise := Schema.pairwise_starts lowered
    rw [hstarts, List.pairwise_append] at hpairwise
    refine hpairwise.2.2 earlier hearlier _ List.mem_cons_self ?_
    rw [Entry.baseIdentifier_eq hname, hself]
  · intro before after node declaration requested hstarts hname hunique
    rw [Schema.entryPoint_eq_iff lowered hstarts (.inr hname)]
    exact ⟨fun h earlier hearlier => (h earlier hearlier).1, fun h earlier hearlier =>
      ⟨h earlier hearlier, hunique earlier (List.mem_append_left _ hearlier)⟩⟩
  · intro requested identifier h
    have hmem := Schema.entryPoint_mem lowered h
    exact ⟨hmem, fun declaration hdeclaration heq =>
      Schema.parent_eq_root lowered hdeclaration (heq ▸ hmem)⟩

/-- A group with a command below it, a command with the same name as the group in small letters, and
a command in quotes with the same name as the one below the group. -/
def caseTools : Schema :=
  ⟨[.group ⟨⟨"A", "None", none, "False", []⟩, [], [⟨"b", "None", none, "False", []⟩]⟩,
    .command ⟨"a", "None", none, "False", []⟩,
    .command ⟨"\"b\"", "None", none, "False", []⟩]⟩

/-- The declarations of `caseTools`. -/
def caseToolDeclarations : List Declaration :=
  let attributes (name : String) : OrderedMap Literal :=
    .ofList [("name", .text name), ("help", .absent), ("hidden", .truth false)]
  [⟨.group, .root, "a", attributes "A", []⟩,
   ⟨.command, .node "a", "b", attributes "b", []⟩,
   ⟨.command, .root, "a_2", attributes "a", []⟩,
   ⟨.command, .root, "b_2", attributes "b", []⟩]

theorem entryPoint_sound_caseTools :
    caseTools.lower = .ok caseToolDeclarations ∧
      SoundEntryPoints caseTools caseToolDeclarations :=
  have lowered : caseTools.lower = .ok caseToolDeclarations := by decide +kernel
  ⟨lowered, entryPoint_sound _ _ lowered⟩

/-- Two commands, of which the first one has the identifier of the second one as its name. -/
def capitalTools : Schema :=
  ⟨[.command ⟨"in_ℂ", "None", none, "False", []⟩, .command ⟨"inℂ", "None", none, "False", []⟩]⟩

/-- A name that only the second node has leads to the first one, and so does an identifier that only
the second one has. -/
theorem entryPoint_hidden :
    (caseTools.nodes.map (·.entry.nameLiteral) = [.text "A", .text "a", .text "b"] ∧
      (caseTools.lower.map fun declarations => identifiers (topLevel declarations)) =
        .ok ["a", "a_2", "b_2"] ∧
      caseTools.entryPoint (some "a") = .ok "a") ∧
    (capitalTools.lower.map fun declarations => identifiers (topLevel declarations)) =
        .ok ["in__ℂ", "in_ℂ"] ∧
      capitalTools.entryPoint (some "in_ℂ") = .ok "in__ℂ" := by
  decide +kernel

end CommandTree
