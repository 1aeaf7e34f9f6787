import CommandTree.Proofs.Declaration.Links
import CommandTree.Proofs.Identifier.Keywords
import CommandTree.Proofs.Schema.RoundTrip

/-!
# Identifiers and the names of the fixed source

The lines before and after the declarations of a Click program use global names.  A function with
one of these names takes its place for the whole module, so that the fixed lines would call the
function instead.  Reserved words keep the functions away from some of these names, but not from
those of the language itself.

* `Schema.mem_identifiers_iff` : a word that does not end with a digit is an identifier of some
  declaration exactly if the name of some node leads to it.
* `Click.fixedNames` are the names that the fixed lines use, `Click.openNames` those of them that
  are not reserved.
* `fixedName_mem_identifiers_iff` : no identifier is a keyword; and of the names of the fixed lines
  only those that are not reserved can be identifiers, exactly if a node is named so.
-/

namespace CommandTree

/-! ### Which words are identifiers -/

/-- The identifier to which the name of a node leads is taken by some declaration, or was taken
before. -/
theorem Forest.baseIdentifier_mem {nodes : Forest (NodeKind × Entry)} {parent : Parent}
    {taken : List String} {declared : Forest Declaration}
    (h : nodes.declare parent taken = .ok declared) :
    ∀ node ∈ nodes.preorder,
      node.2.baseIdentifier ∈ taken ∨ node.2.baseIdentifier ∈ identifiers declared.preorder := by
  induction nodes generalizing parent taken declared with
  | nil => simp [preorder]
  | cons label below rest ih ih' =>
    obtain ⟨kind, entry⟩ := label
    simp only [declare, bind_eq_ok, pure_eq_ok, Except.ok.injEq] at h
    obtain ⟨declaration, hdeclaration, below', hbelow, rest', hrest, rfl⟩ := h
    obtain ⟨-, -, hidentifier⟩ := Entry.declare_eq_ok hdeclaration
    have hhead : entry.baseIdentifier ∈ taken ∨ entry.baseIdentifier = declaration.identifier := by
      by_cases htaken : entry.baseIdentifier ∈ taken
      · exact .inl htaken
      · exact .inr (hidentifier.trans (claimIdentifier_of_notMem htaken)).symm
    intro node hnode
    simp only [preorder, List.mem_cons, List.mem_append] at hnode
    simp only [identifiers, preorder, List.map_cons, List.map_append, List.mem_cons,
      List.mem_append]
    obtain rfl | hnode | hnode := hnode
    · exact hhead.imp_right .inl
    · have hmem := ih hbelow node hnode
      simp only [identifiers, List.mem_append, List.mem_singleton] at hmem
      tauto
    · have hmem := ih' hrest node hnode
      simp only [identifiers, List.mem_append, List.mem_singleton] at hmem
      tauto

/-- Every declaration declares some node. -/
theorem Schema.exists_node {schema : Schema} {declarations : List Declaration}
    (lowered : schema.lower = .ok declarations) :
    ∀ declaration ∈ declarations, ∃ node ∈ schema.preorder, Declares node declaration :=
  forall_mem_of_forall₂ (Schema.declares_preorder lowered) fun node hnode _ hdeclares =>
    ⟨node, hnode, hdeclares⟩

/-- **A word that does not end with a digit is an identifier exactly if the name of a node leads to
it.** -/
theorem Schema.mem_identifiers_iff {schema : Schema} {declarations : List Declaration}
    (lowered : schema.lower = .ok declarations) {word : String}
    (hword : word.toList.getLast?.any Char.isDigit = false) :
    word ∈ identifiers declarations ↔ ∃ node ∈ schema.preorder, node.2.baseIdentifier = word := by
  constructor
  · intro hmem
    obtain ⟨declaration, hdeclaration, rfl⟩ := List.mem_map.1 hmem
    obtain ⟨node, hnode, hdeclares⟩ := Schema.exists_node lowered declaration hdeclaration
    obtain ⟨n, hn⟩ := hdeclares.identifier
    exact ⟨node, hnode, eq_of_identifierVariant_eq hword hn.symm⟩
  · rintro ⟨node, hnode, rfl⟩
    obtain ⟨forest, hdeclare, rfl⟩ := Schema.lower_eq_ok.1 lowered
    rw [← schema.preorder_forest] at hnode
    have hmem := Forest.baseIdentifier_mem hdeclare node hnode
    exact hmem.resolve_left List.not_mem_nil

/-- No identifier of a declaration is a keyword. -/
theorem Schema.identifier_notMem_keywords {schema : Schema} {declarations : List Declaration}
    (lowered : schema.lower = .ok declarations) :
    ∀ word ∈ languageKeywords, word ∉ identifiers declarations := by
  intro word hword hmem
  obtain ⟨declaration, hdeclaration, rfl⟩ := List.mem_map.1 hmem
  obtain ⟨node, -, hdeclares⟩ := Schema.exists_node lowered declaration hdeclaration
  obtain ⟨n, hn⟩ := hdeclares.identifier
  obtain ⟨text, htext⟩ := node.2.exists_baseIdentifier_eq
  rw [hn, htext] at hword
  exact identifierVariant_notMem_keywords text n hword

/-! ### The names of the fixed source -/

namespace Click

/-- The global names that the lines before and after the declarations use when they run. -/
def fixedNames : List String :=
  ["logging", "click", "set_context_obj", "get_logger", "dict", "str", "__name__"]

/-- Those of these names that an identifier can be. -/
def openNames : List String :=
  ["dict", "str", "__name__"]

/-- All these names stand in the fixed lines. -/
example : ∀ name ∈ fixedNames, ∃ lines ∈ footer "run" :: headerLines,
    name.toList <:+: lines.toList := by
  decide +kernel

/-- The fixed names that are not reserved words are open. -/
theorem fixedNames_cases : ∀ name ∈ fixedNames, name ∈ reservedWords ∨ name ∈ openNames := by
  decide

/-- No open name is a numbered variant of another text. -/
theorem openNames_ends : ∀ name ∈ openNames,
    name.toList.getLast?.any Char.isDigit = false := by
  decide

end Click

/-- **No identifier is a keyword; and one of the names of the fixed source is an identifier exactly
if it is `dict`, `str` or `__name__` and the name of some node leads to it.** -/
theorem fixedName_mem_identifiers_iff {schema : Schema} {declarations : List Declaration}
    (lowered : schema.lower = .ok declarations) :
    (∀ word ∈ languageKeywords, word ∉ identifiers declarations) ∧
      ∀ name ∈ Click.fixedNames, name ∈ identifiers declarations ↔
        name ∈ Click.openNames ∧ ∃ node ∈ schema.preorder, node.2.baseIdentifier = name := by
  refine ⟨Schema.identifier_notMem_keywords lowered, fun name hname => ⟨fun hmem => ?_, ?_⟩⟩
  · have hreserved := (Schema.identifiers_spec lowered).2 name hmem
    have hopen := (Click.fixedNames_cases name hname).resolve_left hreserved
    have hword := Click.openNames_ends name hopen
    exact ⟨hopen, (Schema.mem_identifiers_iff lowered hword).1 hmem⟩
  · rintro ⟨hopen, hnode⟩
    exact (Schema.mem_identifiers_iff lowered (Click.openNames_ends name hopen)).2 hnode

/-- A group and two commands with names that the fixed source uses, and a command whose name is a
reserved one. -/
def shadowingTools : Schema :=
  ⟨[.group ⟨⟨"Dict", "None", none, "False", []⟩, [],
      [⟨"\"str\"", "None", none, "False", []⟩, ⟨"click", "None", none, "False", []⟩]⟩,
    .command ⟨"__name__", "None", none, "False", []⟩]⟩

/-- The declarations of `shadowingTools`. -/
def shadowingToolDeclarations : List Declaration :=
  let attributes (name : String) : OrderedMap Literal :=
    .ofList [("name", .text name), ("help", .absent), ("hidden", .truth false)]
  [⟨.group, .root, "dict", attributes "Dict", []⟩,
   ⟨.command, .node "dict", "str", attributes "str", []⟩,
   ⟨.command, .node "dict", "click_", attributes "click", []⟩,
   ⟨.command, .root, "__name__", attributes "__name__", []⟩]

theorem lower_shadowingTools : shadowingTools.lower = .ok shadowingToolDeclarations := by
  decide +kernel

theorem fixedName_mem_identifiers_iff_shadowingTools :
    shadowingTools.lower = .ok shadowingToolDeclarations ∧
      (∀ word ∈ languageKeywords, word ∉ identifiers shadowingToolDeclarations) ∧
      ∀ name ∈ Click.fixedNames, name ∈ identifiers shadowingToolDeclarations ↔
        name ∈ Click.openNames ∧
          ∃ node ∈ shadowingTools.preorder, node.2.baseIdentifier = name :=
  ⟨lower_shadowingTools, fixedName_mem_identifiers_iff lower_shadowingTools⟩

/-- The loader accepts a document whose program has functions with all the open names. -/
theorem identifiers_shadowingTools :
    (∃ text, Schema.ofText .json "schema.json" text = .ok shadowingTools) ∧
      shadowingTools.lower = .ok shadowingToolDeclarations ∧
      ∀ name ∈ Click.openNames, name ∈ identifiers shadowingToolDeclarations := by
  have wellFormed : shadowingTools.WellFormed ∧ shadowingTools.toJson.depth ≤ 127 := by
    decide +kernel
  exact ⟨wellFormed.1.exists_text wellFormed.2 _, lower_shadowingTools, by decide +kernel⟩

end CommandTree
