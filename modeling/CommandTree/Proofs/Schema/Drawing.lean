import CommandTree.Program.Output
import CommandTree.Proofs.Click.Lines
import CommandTree.Proofs.Forest.Siblings
import CommandTree.Proofs.Schema.Walks

/-!
# What an outline draws

An outline is written by walks that hand down how deep they are, or which branches go on.  What a
line says can be read off the tree itself: how many groups are around a node, and whether a sibling
comes after the node and after each of those groups.  Siblings are all nodes with the same group
around them, commands and groups alike.

* `Schema.Ancestors` are the groups around a node, from the top level down; each node has them, and
  no others (`Schema.exists_ancestors`, `Schema.Ancestors.unique`).
* `Schema.getElem?_placed` : the place of a node says which of its ancestors are the last of their
  siblings.
* `Schema.indentedName` and `Schema.drawnName` are the lines that there should be.
* `outline_draws_tree` : an outline consists of these lines, unless what it is indented by breaks
  them.
-/

namespace CommandTree

/-! ### Texts that are one line -/

theorem isOneLine_join {texts : List String} :
    IsOneLine (String.join texts) ↔ ∀ text ∈ texts, IsOneLine text := by
  induction texts with
  | nil => simp [IsOneLine]
  | cons text texts ih => rw [String.join_cons, isOneLine_append, ih, List.forall_mem_cons]

/-- Lines that are each ended by a line feed are cut at no other place exactly if each of them is
one line. -/
theorem cutLines_unlines_iff {lines : List String} :
    cutLines (unlines lines) = lines ++ [""] ↔ ∀ line ∈ lines, IsOneLine line := by
  rw [unlines, cutLines_join, List.append_left_inj]
  constructor
  · intro h
    exact isOneLine_of_length_flatMap (Nat.le_of_eq (congrArg List.length h))
  · exact flatMap_cutLines_eq

/-- What a drawn tree shows of a node behind its name. -/
def summaryText (node : NodeKind × Entry) : String :=
  if (summary node.1 node.2).isEmpty then ""
  else " (" ++ ", ".intercalate (summary node.1 node.2) ++ ")"

theorem isOneLine_countWords {count : Nat} {noun text : String} (hnoun : IsOneLine noun)
    (h : text ∈ countWords count noun) : IsOneLine text := by
  have hnumber : IsOneLine (toString count) := by
    intro hmem
    have hinteger : '\n' ∈ (count : Int).repr.toList := hmem
    exact absurd (Click.isNumberChar_of_mem_repr hinteger) (by decide)
  rw [countWords] at h
  split_ifs at h
  · cases h
  · obtain rfl := List.mem_singleton.1 h
    exact isOneLine_append.2 ⟨by decide, hnoun⟩
  · obtain rfl := List.mem_singleton.1 h
    have hfirst : IsOneLine (toString count ++ " " ++ noun) :=
      isOneLine_append.2 ⟨isOneLine_append.2 ⟨hnumber, by decide⟩, hnoun⟩
    exact isOneLine_append.2 ⟨hfirst, by decide⟩

theorem isOneLine_of_mem_summary {kind : NodeKind} {entry : Entry} {text : String}
    (h : text ∈ summary kind entry) : IsOneLine text := by
  unfold summary at h
  rw [List.mem_append, List.mem_append, List.mem_append] at h
  rcases h with ((hkind | hoptions) | harguments) | hhidden
  · cases kind with
    | group =>
      obtain rfl := List.mem_singleton.1 hkind
      decide
    | command => cases hkind
  · exact isOneLine_countWords (by decide) hoptions
  · exact isOneLine_countWords (by decide) harguments
  · split_ifs at hhidden
    · obtain rfl := List.mem_singleton.1 hhidden
      decide
    · cases hhidden

theorem isOneLine_summaryText (node : NodeKind × Entry) : IsOneLine (summaryText node) := by
  rw [summaryText]
  split_ifs
  · decide
  · have hsummary : IsOneLine (Click.arguments (summary node.1 node.2)) :=
      Click.isOneLine_arguments.2 fun _ h => isOneLine_of_mem_summary h
    exact isOneLine_append.2 ⟨isOneLine_append.2 ⟨by decide, hsummary⟩, by decide⟩

namespace Schema

variable {schema : Schema}

/-! ### The groups around a node -/

/-- The numbers of the groups around a node, from the top level down. -/
inductive Ancestors (schema : Schema) : Nat → List Nat → Prop
  /-- There is no group around a node at the top. -/
  | top {k : Nat} (h : schema.enclosers[k]? = some none) : Ancestors schema k []
  /-- Around a node is a group and what is around that. -/
  | inside {k j : Nat} {above : List Nat} (h : schema.enclosers[k]? = some (some j))
      (around : Ancestors schema j above) : Ancestors schema k (above ++ [j])

theorem Ancestors.unique {k : Nat} {ancestors ancestors' : List Nat}
    (h : schema.Ancestors k ancestors) (h' : schema.Ancestors k ancestors') :
    ancestors = ancestors' := by
  induction h generalizing ancestors' with
  | top htop =>
    cases h' with
    | top => rfl
    | inside hinside => cases htop.symm.trans hinside
  | inside hinside _ ih =>
    cases h' with
    | top htop => cases htop.symm.trans hinside
    | inside hinside' around =>
      obtain rfl := Option.some.inj (Option.some.inj (hinside.symm.trans hinside'))
      rw [ih around]

theorem Ancestors.eq_nil_iff {k : Nat} {ancestors : List Nat} (h : schema.Ancestors k ancestors) :
    ancestors = [] ↔ schema.enclosers[k]? = some none := by
  cases h with
  | top htop => exact iff_of_true rfl htop
  | inside hinside _ =>
    rw [hinside]
    exact iff_of_false (by simp) (by simp)

theorem length_enclosers (schema : Schema) : schema.enclosers.length = schema.nodeCount := by
  rw [enclosers, Forest.length_enclosers, schema.preorder_forest, schema.length_preorder]

/-- Whether a node has a sibling further down. -/
def HasLaterSibling (schema : Schema) (k : Nat) : Prop :=
  CommandTree.HasLaterSibling schema.enclosers k

instance (schema : Schema) (k : Nat) : Decidable (schema.HasLaterSibling k) :=
  inferInstanceAs (Decidable (CommandTree.HasLaterSibling _ _))

theorem last_placed {k : Nat} {place : Forest.Place} {node : NodeKind × Entry}
    (h : schema.placed[k]? = some (place, node)) :
    place.last = !decide (schema.HasLaterSibling k) := by
  have before : ∀ j ∈ (none : Option Nat), j < 0 := by simp
  have hlast := Forest.last_placed before h
  rw [Bool.eq_iff_iff, hlast, Bool.not_eq_true', decide_eq_false_iff_not]
  exact ⟨And.left, fun hnone => ⟨hnone, nofun⟩⟩

/-- **The place of a node says which of its ancestors are the last of their siblings**, and whether
the node is. -/
theorem getElem?_placed {k : Nat} {place : Forest.Place} {node : NodeKind × Entry}
    (h : schema.placed[k]? = some (place, node)) :
    place.last = !decide (schema.HasLaterSibling k) ∧ ∃ ancestors, schema.Ancestors k ancestors ∧
      place.around = ancestors.map fun j => !decide (schema.HasLaterSibling j) := by
  refine ⟨last_placed h, ?_⟩
  -- the induction is on the number, as the group around a node has a smaller one
  induction k using Nat.strongRecOn generalizing place node with
  | ind k ih =>
    obtain ⟨htop, haround⟩ | ⟨m, hm, hencloser, place', node', hplace, haround⟩ :=
      Forest.around_placed none 0 h
    · exact ⟨[], .top htop, haround⟩
    · obtain ⟨above, habove, habovePlace⟩ := ih m hm hplace
      rw [Nat.zero_add] at hencloser
      refine ⟨above ++ [m], .inside hencloser habove, ?_⟩
      rw [haround, habovePlace, last_placed hplace, List.map_append]
      rfl

theorem exists_placed {k : Nat} {node : NodeKind × Entry} (h : schema.preorder[k]? = some node) :
    ∃ place, schema.placed[k]? = some (place, node) := by
  rw [← schema.map_snd_placed, List.getElem?_map] at h
  obtain ⟨⟨place, _⟩, hplaced, rfl⟩ := Option.map_eq_some_iff.1 h
  exact ⟨place, hplaced⟩

/-- Every node has ancestors. -/
theorem exists_ancestors {k : Nat} {node : NodeKind × Entry} (h : schema.preorder[k]? = some node) :
    ∃ ancestors, schema.Ancestors k ancestors := by
  obtain ⟨place, hplaced⟩ := exists_placed h
  obtain ⟨-, ancestors, hancestors, -⟩ := getElem?_placed hplaced
  exact ⟨ancestors, hancestors⟩

/-- A node has a place, and its ancestors say what that is. -/
theorem exists_placed_of_ancestors {k : Nat} {node : NodeKind × Entry} {ancestors : List Nat}
    (h : schema.preorder[k]? = some node) (hancestors : schema.Ancestors k ancestors) :
    ∃ place, schema.placed[k]? = some (place, node) ∧
      place.last = !decide (schema.HasLaterSibling k) ∧
      place.around = ancestors.map fun j => !decide (schema.HasLaterSibling j) := by
  obtain ⟨place, hplaced⟩ := exists_placed h
  obtain ⟨hlast, others, hothers, haround⟩ := getElem?_placed hplaced
  obtain rfl := hothers.unique hancestors
  exact ⟨place, hplaced, hlast, haround⟩

theorem exists_node_of_lt {k : Nat} (h : k < schema.nodeCount) :
    ∃ node ancestors, schema.preorder[k]? = some node ∧ schema.Ancestors k ancestors := by
  rw [← length_preorder] at h
  obtain ⟨ancestors, hancestors⟩ := exists_ancestors (List.getElem?_eq_getElem h)
  exact ⟨_, ancestors, List.getElem?_eq_getElem h, hancestors⟩

/-! ### Lines -/

/-- A name behind one indentation for every ancestor. -/
def indentedName (indent : String) (ancestors : List Nat) (name : String) : String :=
  String.join (List.replicate ancestors.length indent) ++ name

/-- The cell of an ancestor in a drawn tree: its branch goes on if a sibling follows. -/
def cell (schema : Schema) (k : Nat) : String :=
  if schema.HasLaterSibling k then "│  " else "   "

/-- The branch to a node in a drawn tree. -/
def branch (schema : Schema) (k : Nat) : String :=
  if schema.HasLaterSibling k then "├─" else "└─"

/-- A name behind the cells of the ancestors and the branch of the node. -/
def drawnName (schema : Schema) (k : Nat) (ancestors : List Nat) (name : String) : String :=
  String.join (ancestors.map schema.cell) ++ schema.branch k ++ " " ++ name

/-- An indented line is the name behind the indentation. -/
theorem indentedLine_eq {place : Forest.Place} {ancestors : List Nat} {f : Nat → Bool}
    (haround : place.around = ancestors.map f) (indent : String) (node : NodeKind × Entry) :
    outlineLine .simple indent place node.1 node.2 = indentedName indent ancestors node.2.name := by
  show indentedLine false indent place.around.length node.2 = _
  rw [indentedLine, if_neg Bool.false_ne_true, String.append_empty, haround, List.length_map]
  rfl

/-- A line of a drawn tree is the name behind cells and a branch, and then the summary. -/
theorem boxLine_eq {k : Nat} {place : Forest.Place} {ancestors : List Nat}
    (hlast : place.last = !decide (schema.HasLaterSibling k))
    (haround : place.around = ancestors.map fun j => !decide (schema.HasLaterSibling j))
    (indent : String) (node : NodeKind × Entry) :
    outlineLine .treeBox indent place node.1 node.2 =
      schema.drawnName k ancestors node.2.name ++ summaryText node := by
  have hcell : boxCell ∘ (fun j => !decide (schema.HasLaterSibling j)) = schema.cell := by
    funext j
    by_cases hj : schema.HasLaterSibling j
    · simp [boxCell, cell, hj]
    · simp [boxCell, cell, hj]
  have hbranch : (if place.last then "└─ " else "├─ ") = schema.branch k ++ " " := by
    rw [hlast]
    by_cases hk : schema.HasLaterSibling k
    · simp [branch, hk]
    · simp [branch, hk]
  show boxLine (String.join (place.around.map boxCell)) place.last node.1 node.2 = _
  rw [boxLine, hbranch, haround, List.map_map, hcell]
  simp only [drawnName, summaryText, String.append_assoc]

section Lines

variable {k : Nat} {node : NodeKind × Entry} {ancestors : List Nat} (indent : String)

theorem length_outlineLines (schema : Schema) (style : OutlineStyle) :
    (schema.outlineLines style indent).length = schema.nodeCount := by
  rw [outlineLines_eq, List.length_map, ← List.length_map Prod.snd, map_snd_placed,
    length_preorder]

/-- **The indented line of a node.** -/
theorem getElem?_simple (hnode : schema.preorder[k]? = some node)
    (hancestors : schema.Ancestors k ancestors) :
    (schema.outlineLines .simple indent)[k]? =
      some (indentedName indent ancestors node.2.name) := by
  obtain ⟨place, hplaced, -, haround⟩ := exists_placed_of_ancestors hnode hancestors
  rw [outlineLines_eq, List.getElem?_map, hplaced, Option.map_some]
  exact congrArg some (indentedLine_eq haround indent node)

/-- **The line of a node in a drawn tree.** -/
theorem getElem?_treeBox (hnode : schema.preorder[k]? = some node)
    (hancestors : schema.Ancestors k ancestors) :
    (schema.outlineLines .treeBox indent)[k]? =
      some (schema.drawnName k ancestors node.2.name ++ summaryText node) := by
  obtain ⟨place, hplaced, hlast, haround⟩ := exists_placed_of_ancestors hnode hancestors
  rw [outlineLines_eq, List.getElem?_map, hplaced, Option.map_some]
  exact congrArg some (boxLine_eq hlast haround indent node)

/-- Every line of an outline is that of a node. -/
theorem exists_node_of_mem_outlineLines {style : OutlineStyle} {line : String}
    (h : line ∈ schema.outlineLines style indent) :
    ∃ k node ancestors, schema.preorder[k]? = some node ∧ schema.Ancestors k ancestors ∧
      (schema.outlineLines style indent)[k]? = some line := by
  obtain ⟨k, hk⟩ := List.mem_iff_getElem?.1 h
  obtain ⟨hlength, -⟩ := List.getElem?_eq_some_iff.1 hk
  rw [length_outlineLines] at hlength
  obtain ⟨node, ancestors, hnode, hancestors⟩ := exists_node_of_lt hlength
  exact ⟨k, node, ancestors, hnode, hancestors, hk⟩

theorem isOneLine_indentedName {name : String} (hname : IsOneLine name) :
    IsOneLine (indentedName indent ancestors name) ↔ IsOneLine indent ∨ ancestors = [] := by
  rw [indentedName, isOneLine_append, and_iff_left hname, isOneLine_join]
  simp only [List.mem_replicate, ne_eq, List.length_eq_zero_iff, and_imp, forall_eq_apply_imp_iff]
  tauto

theorem isOneLine_drawnName {name : String} (hname : IsOneLine name) :
    IsOneLine (schema.drawnName k ancestors name) := by
  have hcells : ∀ text ∈ ancestors.map schema.cell, IsOneLine text := by
    intro text htext
    obtain ⟨j, -, rfl⟩ := List.mem_map.1 htext
    rw [cell]
    split_ifs <;> decide
  have hbranch : IsOneLine (schema.branch k) := by
    rw [branch]
    split_ifs <;> decide
  have hspace : IsOneLine " " := by decide
  simp only [drawnName, isOneLine_append, isOneLine_join.2 hcells, hbranch, hspace, hname,
    and_self]

end Lines

section OneLine

variable (oneLine : ∀ node ∈ schema.preorder, IsOneLine node.2.name) (indent : String)

include oneLine

/-- The indented lines are one line each if the indentation is one, or if it is not used because
all nodes are at the top. -/
theorem forall_isOneLine_simple :
    (∀ line ∈ schema.outlineLines .simple indent, IsOneLine line) ↔
      IsOneLine indent ∨ ∀ outer ∈ schema.enclosers, outer = none := by
  constructor
  · intro h
    by_cases hindent : IsOneLine indent
    · exact .inl hindent
    · refine .inr ?_
      intro outer houter
      obtain ⟨k, hk⟩ := List.mem_iff_getElem?.1 houter
      obtain ⟨hlength, -⟩ := List.getElem?_eq_some_iff.1 hk
      rw [length_enclosers] at hlength
      obtain ⟨node, ancestors, hnode, hancestors⟩ := exists_node_of_lt hlength
      have hline := h _ (List.mem_of_getElem? (getElem?_simple indent hnode hancestors))
      rw [isOneLine_indentedName indent (oneLine node (List.mem_of_getElem? hnode)),
        or_iff_right hindent, hancestors.eq_nil_iff, hk] at hline
      exact Option.some.inj hline
  · intro h line hline
    obtain ⟨k, node, ancestors, hnode, hancestors, hk⟩ :=
      exists_node_of_mem_outlineLines indent hline
    obtain rfl := Option.some.inj (hk.symm.trans (getElem?_simple indent hnode hancestors))
    rw [isOneLine_indentedName indent (oneLine node (List.mem_of_getElem? hnode))]
    refine h.imp_right ?_
    intro hnone
    cases hancestors with
    | top => rfl
    | inside hinside => cases hnone _ (List.mem_of_getElem? hinside)

/-- The lines of a drawn tree are one line each. -/
theorem forall_isOneLine_treeBox :
    ∀ line ∈ schema.outlineLines .treeBox indent, IsOneLine line := by
  intro line hline
  obtain ⟨k, node, ancestors, hnode, hancestors, hk⟩ :=
    exists_node_of_mem_outlineLines indent hline
  obtain rfl := Option.some.inj (hk.symm.trans (getElem?_treeBox indent hnode hancestors))
  exact isOneLine_append.2
    ⟨isOneLine_drawnName (oneLine node (List.mem_of_getElem? hnode)), isOneLine_summaryText node⟩

end OneLine

end Schema

/-- **An outline draws the tree.**  If every name is one line, then an outline has one line for each
node in document order.  In an indented outline that is the name behind one indentation for each
group around the node; these are the lines of the text as long as the indentation is one line or not
used.  In a drawn tree, the name stands behind one cell for each group around the node, which shows
whether that group has a sibling further down, and behind a branch, which shows the same of the
node. -/
theorem outline_draws_tree (schema : Schema) (indent : String)
    (oneLine : ∀ node ∈ schema.preorder, IsOneLine node.2.name) :
    ∃ indented drawn : List String,
      indented.length = schema.nodeCount ∧ drawn.length = schema.nodeCount ∧
      schema.outline .simple indent = unlines indented ∧
      (cutLines (schema.outline .simple indent) = indented ++ [""] ↔
        IsOneLine indent ∨ ∀ outer ∈ schema.enclosers, outer = none) ∧
      cutLines (schema.outline .treeBox indent) = drawn ++ [""] ∧
      ∀ (k : Nat) (node : NodeKind × Entry), schema.preorder[k]? = some node →
        ∃ ancestors, schema.Ancestors k ancestors ∧
          (∀ others, schema.Ancestors k others → others = ancestors) ∧
          indented[k]? = some (Schema.indentedName indent ancestors node.2.name) ∧
          drawn[k]? = some (schema.drawnName k ancestors node.2.name ++ summaryText node) := by
  refine ⟨schema.outlineLines .simple indent, schema.outlineLines .treeBox indent,
    schema.length_outlineLines indent .simple, schema.length_outlineLines indent .treeBox, rfl,
    cutLines_unlines_iff.trans (Schema.forall_isOneLine_simple oneLine indent),
    cutLines_unlines_iff.2 (Schema.forall_isOneLine_treeBox oneLine indent), ?_⟩
  intro k node hnode
  obtain ⟨ancestors, hancestors⟩ := Schema.exists_ancestors hnode
  exact ⟨ancestors, hancestors, fun others hothers => hothers.unique hancestors,
    Schema.getElem?_simple indent hnode hancestors, Schema.getElem?_treeBox indent hnode hancestors⟩

/-- A group with a command and with a group of its own, and a command after it. -/
def siteTools : Schema :=
  ⟨[.group ⟨⟨"site", "None", none, "True", []⟩,
      [⟨⟨"db", "None", none, "False", []⟩, [], [⟨"up", "None", none, "False", []⟩]⟩],
      [⟨"run", "None", none, "False", []⟩]⟩,
    .command ⟨"version", "None", none, "False", []⟩]⟩

/-- The last of the nodes inside the group: the branch of the group goes on, as a command follows
it; that of the inner group has ended, although a command comes before it. -/
theorem outline_draws_tree_siteTools :
    (∀ node ∈ siteTools.preorder, IsOneLine node.2.name) ∧ siteTools.Ancestors 3 [0, 2] ∧
      ∃ indented drawn : List String, indented.length = 5 ∧ drawn.length = 5 ∧
        cutLines (siteTools.outline .simple "\t") = indented ++ [""] ∧
        cutLines (siteTools.outline .treeBox "\t") = drawn ++ [""] ∧
        indented[3]? = some "\t\tup" ∧ drawn[2]? = some "│  └─ db (group)" ∧
        drawn[3]? = some "│     └─ up" := by
  have oneLine : ∀ node ∈ siteTools.preorder, IsOneLine node.2.name := by decide +kernel
  have hinner : siteTools.Ancestors 2 ([] ++ [0]) :=
    .inside (by decide +kernel) (.top (by decide +kernel))
  have hcommand : siteTools.Ancestors 3 ([0] ++ [2]) := .inside (by decide +kernel) hinner
  obtain ⟨indented, drawn, hindented, hdrawn, -, hsimple, htreeBox, hlines⟩ :=
    outline_draws_tree siteTools "\t" oneLine
  obtain ⟨ancestors, -, hunique, -, hdb⟩ := hlines 2 (.group, ⟨"db", "None", none, "False", []⟩)
    (by decide +kernel)
  obtain rfl := hunique _ hinner
  obtain ⟨ancestors, -, hunique, hup, hup'⟩ :=
    hlines 3 (.command, ⟨"up", "None", none, "False", []⟩) (by decide +kernel)
  obtain rfl := hunique _ hcommand
  refine ⟨oneLine, hcommand, indented, drawn, hindented, hdrawn, hsimple.2 (.inl (by decide)),
    htreeBox, hup.trans ?_, hdb.trans ?_, hup'.trans ?_⟩
  · decide +kernel
  · decide +kernel
  · decide +kernel

/-- Indented by line feeds, the nodes take more lines than there are: an empty line comes before a
node for every group around it. -/
theorem outline_breaks_siteTools :
    (∀ node ∈ siteTools.preorder, IsOneLine node.2.name) ∧
      cutLines (siteTools.outline .simple "\n") =
        ["site", "", "run", "", "db", "", "", "up", "version", ""] ∧
      (cutLines (siteTools.outline .simple "\n")).length ≠ siteTools.nodeCount + 1 := by
  decide +kernel

end CommandTree
