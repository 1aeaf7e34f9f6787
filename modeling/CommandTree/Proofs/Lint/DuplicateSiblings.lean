import CommandTree.Lint.Rule
import CommandTree.Proofs.Declaration.EntryPoints
import CommandTree.Proofs.Schema.Walks

/-!
# Duplicate siblings

The rule about duplicate siblings goes through the tree of a schema and counts the names of siblings
as they are spelled.  The compiler attaches declarations to each other by identifiers.  Both agree
on what siblings are.

* `LintRule.mem_secondNames_iff` : a name is reported exactly if it occurs twice or more.
* `Forest.located` is the forest of a schema with locations, and `Forest.checkBelow` the rule for
  such a forest; `Schema.check_duplicateSibling_eq` : the rule for a schema.
* `Schema.exists_visitOf` : the rule as a function of the declarations.
* `duplicateSibling_exact` : the warnings correspond to the pairs of a parent and a spelling that
  more than one declaration was lowered from.
-/

namespace CommandTree

/-! ### Names that occur twice -/

namespace LintRule

theorem count_secondNames (seen names : List String) (name : String) :
    (secondNames seen names).count name =
      if seen.count name ≤ 1 ∧ 2 ≤ seen.count name + names.count name then 1 else 0 := by
  induction names generalizing seen with
  | nil =>
    rw [secondNames, List.count_nil, if_neg]
    omega
  | cons first rest ih =>
    rw [secondNames, List.count_append, ih, List.count_cons, List.count_cons]
    by_cases hfirst : first = name
    · subst hfirst
      by_cases hone : seen.count first = 1
      · -- this is the second time, and no later one counts
        simp only [hone, if_true, List.count_singleton_self, beq_self_eq_true]
        split_ifs <;> omega
      · simp only [hone, if_false, List.count_nil, beq_self_eq_true, if_true]
        split_ifs <;> omega
    · have hhead : List.count name (if seen.count first = 1 then [first] else []) = 0 := by
        split_ifs <;> simp [hfirst]
      simp [hhead, hfirst]

/-- A name is reported exactly if it occurs twice or more. -/
theorem mem_secondNames_iff {names : List String} {name : String} :
    name ∈ secondNames [] names ↔ 2 ≤ names.count name := by
  rw [← List.count_pos_iff, count_secondNames]
  split_ifs with h <;> simp at h ⊢ <;> omega

/-- No name is reported twice. -/
theorem nodup_secondNames (names : List String) : (secondNames [] names).Nodup := by
  rw [List.nodup_iff_count_le_one]
  intro name
  rw [count_secondNames]
  split_ifs <;> omega

/-- The warning about a name that occurs twice or more at a location. -/
def duplicateWarning (above name : String) : Diagnostic :=
  { severity := .warning
    phase := duplicateSibling.name
    message := "duplicate name '" ++ name ++ "' " ++
      if above = "" then "at the top level" else "under '" ++ above ++ "'"
    location := some (joinLocation above name) }

theorem message_duplicateWarning_root (name : String) :
    (duplicateWarning "" name).message = "duplicate name '" ++ name ++ "' at the top level" := by
  have hwords : "' at the top level" = "' " ++ "at the top level" := by decide
  simp only [duplicateWarning, if_true, hwords, String.append_assoc]

theorem message_duplicateWarning {above : String} (h : above ≠ "") (name : String) :
    (duplicateWarning above name).message =
      "duplicate name '" ++ name ++ "' under '" ++ above ++ "'" := by
  have hwords : "' under '" = "' " ++ "under '" := by decide
  simp only [duplicateWarning, h, if_false, hwords, String.append_assoc]

theorem checkSiblings_eq (above : String) (names : List String) :
    checkSiblings above names = (secondNames [] names).map (duplicateWarning above) := rfl

end LintRule

/-! ### The rule for a forest -/

namespace Forest

theorem roots_map {α β : Type} (f : α → β) (forest : Forest α) :
    (forest.map f).roots = forest.roots.map f := by
  induction forest with
  | nil => rfl
  | cons label below rest _ ih => rw [map, roots, roots, ih, List.map_cons]

theorem preorder_map {α β : Type} (f : α → β) (forest : Forest α) :
    (forest.map f).preorder = forest.preorder.map f := by
  induction forest with
  | nil => rfl
  | cons label below rest ih ih' =>
    rw [map, preorder, preorder, ih, ih', List.map_cons, List.map_append]

/-- The nodes of a forest with their locations. -/
def located (above : String) : Forest (NodeKind × Entry) → Forest Visit
  | nil => nil
  | cons (kind, entry) below rest =>
    let here := joinLocation above entry.name
    cons ⟨kind, here, entry⟩ (below.located here) (rest.located above)

/-- The names of the roots. -/
def rootNames (forest : Forest Visit) : List String :=
  forest.roots.map (·.entry.name)

/-- What the rule says about the nodes below those of a forest. -/
def checkBelow : Forest Visit → List Diagnostic
  | nil => []
  | cons visit below rest =>
    LintRule.checkSiblings visit.location below.rootNames ++ (below.checkBelow ++ rest.checkBelow)

theorem located_append (a b : Forest (NodeKind × Entry)) (above : String) :
    (a.append b).located above = (a.located above).append (b.located above) := by
  induction a with
  | nil => rfl
  | cons label below rest _ ih => rw [append, located, located, append, ih]

theorem checkBelow_append (a b : Forest Visit) :
    (a.append b).checkBelow = a.checkBelow ++ b.checkBelow := by
  induction a with
  | nil => rfl
  | cons visit below rest _ ih => simp only [append, checkBelow, ih, List.append_assoc]

theorem rootNames_located (forest : Forest (NodeKind × Entry)) (above : String) :
    (forest.located above).rootNames = forest.roots.map (·.2.name) := by
  induction forest with
  | nil => rfl
  | cons label below rest _ ih => exact congrArg (label.2.name :: ·) ih

theorem Matches.located {r : NodeKind × Entry → Declaration → Prop}
    {nodes : Forest (NodeKind × Entry)} {declared : Forest Declaration}
    (h : nodes.Matches r declared) (above : String) :
    (nodes.located above).Matches (fun visit declaration => r visit.node declaration) declared := by
  induction h generalizing above with
  | nil => exact .nil
  | cons hlabel _ _ ih ih' => exact .cons hlabel (ih _) (ih' above)

theorem preorder_located_ofCommands (commands : List Entry) (above : String) :
    ((ofCommands commands).located above).preorder =
      commands.map fun command => ⟨.command, joinLocation above command.name, command⟩ := by
  induction commands with
  | nil => rfl
  | cons command rest ih => exact congrArg (_ :: ·) ih

theorem checkBelow_located_ofCommands (commands : List Entry) (above : String) :
    ((ofCommands commands).located above).checkBelow = [] := by
  induction commands with
  | nil => rfl
  | cons command rest ih => exact ih

theorem roots_ofCommands (commands : List Entry) :
    (ofCommands commands).roots = commands.map fun command => (.command, command) := by
  induction commands with
  | nil => rfl
  | cons command rest ih => rw [ofCommands, roots, ih, List.map_cons]

end Forest

theorem Group.roots_forestOfList (groups : List Group) :
    (Group.forestOfList groups).roots = groups.map fun group => (.group, group.entry) := by
  induction groups with
  | nil => rfl
  | cons group rest ih =>
    obtain ⟨entry, groups, commands⟩ := group
    rw [Group.forestOfList, Forest.roots_append, ih]
    rfl

mutual

theorem Group.visits_eq : ∀ (group : Group) (above : String),
    group.visits above = (group.forest.located above).preorder
  | ⟨entry, groups, commands⟩, above => by
    have hgroups := Group.visitsList_eq groups (joinLocation above entry.name)
    simp only [Group.visits, Group.forest, Forest.located, Forest.preorder, Forest.located_append,
      Forest.preorder_append, Forest.preorder_located_ofCommands, hgroups, List.append_nil]

theorem Group.visitsList_eq : ∀ (groups : List Group) (above : String),
    Group.visitsList above groups = ((Group.forestOfList groups).located above).preorder
  | [], _ => rfl
  | group :: rest, above => by
    rw [Group.visitsList, Group.forestOfList, Forest.located_append, Forest.preorder_append,
      Group.visits_eq group above, Group.visitsList_eq rest above]

end

mutual

theorem Group.checkBelow_eq : ∀ (group : Group) (above : String),
    LintRule.checkBelow above group = (group.forest.located above).checkBelow
  | ⟨entry, groups, commands⟩, above => by
    have hgroups := Group.checkBelowList_eq groups (joinLocation above entry.name)
    have hnames : ((Forest.ofCommands commands).append (Group.forestOfList groups)).roots.map
        (·.2.name) = commands.map Entry.name ++ groups.map fun group => group.entry.name := by
      simp only [Forest.roots_append, Forest.roots_ofCommands, Group.roots_forestOfList,
        List.map_append, List.map_map, Function.comp_def]
    simp only [LintRule.checkBelow, Group.forest, Forest.located, Forest.checkBelow,
      Forest.rootNames_located, hnames]
    simp only [Forest.located_append, Forest.checkBelow_append,
      Forest.checkBelow_located_ofCommands, hgroups, List.nil_append, List.append_nil]

theorem Group.checkBelowList_eq : ∀ (groups : List Group) (above : String),
    LintRule.checkBelowList above groups = ((Group.forestOfList groups).located above).checkBelow
  | [], _ => rfl
  | group :: rest, above => by
    rw [LintRule.checkBelowList, Group.forestOfList, Forest.located_append,
      Forest.checkBelow_append, Group.checkBelow_eq group above, Group.checkBelowList_eq rest above]

end

namespace Schema

variable (schema : Schema)

/-- The nodes of a schema with their locations. -/
def located : Forest Visit :=
  schema.forest.located ""

theorem visits_eq : schema.visits = schema.located.preorder := by
  obtain ⟨nodes⟩ := schema
  simp only [visits, located, forest]
  induction nodes with
  | nil => rfl
  | cons node rest ih =>
    rw [List.flatMap_cons, ih, Node.forestOfList, Forest.located_append, Forest.preorder_append]
    cases node with
    | group g => rw [Node.visits, g.visits_eq, Node.forest]
    | command e => rfl

/-- The rule goes through the forest of a schema. -/
theorem check_duplicateSibling_eq : LintRule.duplicateSibling.check schema =
    LintRule.checkSiblings "" schema.located.rootNames ++ schema.located.checkBelow := by
  have hnames : schema.located.rootNames = schema.nodes.map fun node => node.entry.name := by
    rw [located, Forest.rootNames_located, schema.roots_forest, List.map_map]
    rfl
  rw [LintRule.check, hnames]
  congr 1
  obtain ⟨nodes⟩ := schema
  simp only [located, forest]
  clear hnames
  induction nodes with
  | nil => rfl
  | cons node rest ih =>
    rw [List.flatMap_cons, ih, Node.forestOfList, Forest.located_append, Forest.checkBelow_append]
    cases node with
    | group g => rw [LintRule.checkBelowNode, g.checkBelow_eq, Node.forest]
    | command e => rfl

end Schema

/-! ### The rule for declarations -/

/-- A forest of the same shape as one without duplicates is an image of it. -/
theorem Forest.Matches.exists_map {α β : Type} [Nonempty α] [DecidableEq β] {r : α → β → Prop}
    {a : Forest α} {b : Forest β} (h : a.Matches r b) (distinct : b.preorder.Nodup) :
    ∃ f : β → α, a = b.map f := by
  induction h with
  | nil => exact ⟨fun _ => Classical.ofNonempty, rfl⟩
  | @cons label label' below rest below' rest' _ _ _ ih ih' =>
    simp only [preorder, List.nodup_cons, List.nodup_append, List.mem_append, not_or] at distinct
    obtain ⟨⟨hbelow, hrest⟩, hdistinct, hdistinct', hdisjoint⟩ := distinct
    obtain ⟨f, rfl⟩ := ih hdistinct
    obtain ⟨g, rfl⟩ := ih' hdistinct'
    refine ⟨fun x => if x = label' then label else if x ∈ below'.preorder then f x else g x, ?_⟩
    rw [map, if_pos rfl]
    congr 1
    · refine map_congr fun x hx => ?_
      rw [if_neg (ne_of_mem_of_not_mem hx hbelow), if_pos hx]
    · refine map_congr fun x hx => ?_
      rw [if_neg (ne_of_mem_of_not_mem hx hrest),
        if_neg fun hx' => hdisjoint x hx' x hx rfl]

section Lowered

variable {schema : Schema} {declarations : List Declaration}

/-- The declarations with a given parent. -/
def childrenOf (declarations : List Declaration) (parent : Parent) : List Declaration :=
  declarations.filter (·.parent = parent)

/-- If every declaration is found below its parent, then the rule looks at the children of one
declaration after the other. -/
theorem Forest.FoundIn.checkBelow_map {declared : Forest Declaration}
    (found : declared.FoundIn declarations) (visitOf : Declaration → Visit) :
    (declared.map visitOf).checkBelow = declared.preorder.flatMap fun declaration =>
      LintRule.checkSiblings (visitOf declaration).location
        ((childrenOf declarations (.node declaration.identifier)).map fun child =>
          (visitOf child).entry.name) := by
  induction declared with
  | nil => rfl
  | cons declaration below rest ih ih' =>
    obtain ⟨hfilter, hbelow, hrest⟩ := found
    rw [map, checkBelow, ih hbelow, ih' hrest, preorder, List.flatMap_cons, List.flatMap_append,
      rootNames, roots_map, childrenOf, hfilter, List.map_map]
    rfl

/-- The scopes in which names of siblings are counted, each with its location: the top level, and
what is below each declaration. -/
def scopes (declarations : List Declaration) (visitOf : Declaration → Visit) :
    List (Parent × String) :=
  (.root, "") :: declarations.map fun declaration =>
    (.node declaration.identifier, (visitOf declaration).location)

/-- The names that occur twice or more below a parent. -/
def reportedNames (declarations : List Declaration) (visitOf : Declaration → Visit)
    (parent : Parent) : List String :=
  LintRule.secondNames [] <|
    (childrenOf declarations parent).map fun child => (visitOf child).entry.name

/-- The names that occur twice or more in a scope, with their scopes. -/
def reports (declarations : List Declaration) (visitOf : Declaration → Visit) :
    List ((Parent × String) × String) :=
  (scopes declarations visitOf).flatMap fun scope =>
    (reportedNames declarations visitOf scope.1).map (scope, ·)

/-- **The rule warns of the names that occur twice or more in one scope after the other.** -/
theorem Schema.exists_visitOf (lowered : schema.lower = .ok declarations) :
    ∃ visitOf : Declaration → Visit, schema.visits = declarations.map visitOf ∧
      LintRule.duplicateSibling.check schema = (reports declarations visitOf).map fun report =>
        LintRule.duplicateWarning report.1.2 report.2 := by
  obtain ⟨declared, hdeclare, rfl⟩ := Schema.lower_eq_ok.1 lowered
  obtain ⟨hmatch, hlinked, hdistinct, -⟩ := Forest.declare_spec hdeclare
  have hroot : ∀ name ∈ identifiers declared.preorder, Parent.root ≠ .node name := by simp
  have found : declared.FoundIn declared.preorder := hlinked.foundIn hdistinct hroot fun _ _ => rfl
  have : Nonempty Visit := ⟨⟨.command, "", ⟨"", "", none, "", []⟩⟩⟩
  obtain ⟨visitOf, hvisits⟩ := (hmatch.located "").exists_map (List.Nodup.of_map _ hdistinct)
  have hlocated : schema.located = declared.map visitOf := hvisits
  refine ⟨visitOf, ?_, ?_⟩
  · rw [schema.visits_eq, hlocated, Forest.preorder_map]
  · have hscopes : LintRule.duplicateSibling.check schema =
        (scopes declared.preorder visitOf).flatMap fun scope =>
          LintRule.checkSiblings scope.2
            ((childrenOf declared.preorder scope.1).map fun child =>
              (visitOf child).entry.name) := by
      rw [schema.check_duplicateSibling_eq, hlocated, found.checkBelow_map, Forest.rootNames,
        Forest.roots_map, scopes, List.flatMap_cons, List.flatMap_map, childrenOf,
        hlinked.filter_parent hroot, List.map_map]
      rfl
    rw [hscopes, reports, List.map_flatMap]
    refine List.flatMap_congr fun scope _ => ?_
    rw [LintRule.checkSiblings_eq, reportedNames, List.map_map]
    rfl

/-- The parent of a declaration is the top level or a declaration. -/
theorem Schema.parent_mem_scopes (lowered : schema.lower = .ok declarations)
    {declaration : Declaration} (h : declaration ∈ declarations) (visitOf : Declaration → Visit) :
    ∃ location, (declaration.parent, location) ∈ scopes declarations visitOf := by
  obtain ⟨i, hi, rfl⟩ := List.getElem_of_mem h
  obtain ⟨outer, houter, hparent⟩ := Schema.parent_eq lowered hi
  rw [hparent]
  cases outer with
  | none => exact ⟨"", List.mem_cons_self⟩
  | some j =>
    obtain ⟨-, other, hother, -⟩ := Schema.encloser_spec lowered houter
    rw [parentAt, hother]
    exact ⟨_, List.mem_cons_of_mem _ (List.mem_map_of_mem (List.mem_of_getElem? hother))⟩

/-- The parents of the scopes are distinct. -/
theorem Schema.nodup_scopes (lowered : schema.lower = .ok declarations)
    (visitOf : Declaration → Visit) :
    ((scopes declarations visitOf).map Prod.fst).Nodup := by
  have hidentifiers := (Schema.identifiers_spec lowered).1
  rw [scopes, List.map_cons, List.map_map, List.nodup_cons]
  refine ⟨by simp, ?_⟩
  have hparents : declarations.map (Prod.fst ∘ fun declaration =>
      (Parent.node declaration.identifier, (visitOf declaration).location)) =
        (identifiers declarations).map Parent.node := by
    rw [identifiers, List.map_map]
    rfl
  rw [hparents]
  exact hidentifiers.map fun _ _ => Parent.node.inj

/-! ### Warnings and pairs of declarations -/

/-- The nodes of a schema with their locations and their declarations. -/
def Schema.placements (schema : Schema) (declarations : List Declaration) :
    List (Visit × Declaration) :=
  schema.visits.zip declarations

/-- The parent of every declaration, with the spelling of the name of its node. -/
def Schema.spellings (schema : Schema) (declarations : List Declaration) :
    List (Parent × String) :=
  (schema.placements declarations).map fun placement =>
    (placement.2.parent, placement.1.entry.name)

/-- A diagnostic warns of a spelling below a parent.  What it says about a group at the empty
location is left open. -/
structure WarnsOf (schema : Schema) (declarations : List Declaration) (pair : Parent × String)
    (diagnostic : Diagnostic) : Prop where
  /-- It is a warning. -/
  severity : diagnostic.severity = .warning
  /-- It names the rule. -/
  phase : diagnostic.phase = "duplicate-sibling"
  /-- It says so if the parent is the top level. -/
  root : pair.1 = .root →
    diagnostic.message = "duplicate name '" ++ pair.2 ++ "' at the top level" ∧
      diagnostic.location = some pair.2
  /-- It says where the group is if the parent is a group with a location. -/
  group : ∀ identifier, pair.1 = .node identifier → ∃ visit declaration,
    (visit, declaration) ∈ schema.placements declarations ∧
      declaration.identifier = identifier ∧
      (visit.location ≠ "" → diagnostic.message =
          "duplicate name '" ++ pair.2 ++ "' under '" ++ visit.location ++ "'" ∧
        diagnostic.location = some (visit.location ++ "/" ++ pair.2))

/-- The warnings of the rule correspond one by one to the pairs of a parent and a spelling that two
or more declarations were lowered from. -/
structure ExactWarnings (schema : Schema) (declarations : List Declaration) : Prop where
  /-- The nodes in document order, where they have their locations, are those that are declared. -/
  declares : List.Forall₂ (fun visit declaration => Declares visit.node declaration) schema.visits
    declarations
  /-- There is one warning for each such pair, and no other one. -/
  warnings : ∃ pairs : List (Parent × String), pairs.Nodup ∧
    (∀ pair, pair ∈ pairs ↔ 2 ≤ (schema.spellings declarations).count pair) ∧
    List.Forall₂ (WarnsOf schema declarations) pairs (LintRule.duplicateSibling.check schema)

/-- How often a spelling stands below a parent. -/
theorem count_spellings (visitOf : Declaration → Visit) (parent : Parent) (name : String) :
    (declarations.map fun declaration =>
        (declaration.parent, (visitOf declaration).entry.name)).count (parent, name) =
      ((childrenOf declarations parent).map fun child => (visitOf child).entry.name).count
        name := by
  rw [childrenOf, List.count_eq_countP, List.count_eq_countP, List.countP_map, List.countP_map,
    List.countP_filter]
  refine List.countP_congr fun declaration _ => ?_
  simp [and_comm]

theorem Schema.placements_eq {visitOf : Declaration → Visit}
    (hvisits : schema.visits = declarations.map visitOf) :
    schema.placements declarations =
      declarations.map fun declaration => (visitOf declaration, declaration) := by
  have hself : (declarations.map visitOf).zip (declarations.map id) =
      declarations.map fun declaration => (visitOf declaration, declaration) := List.zip_map'
  rwa [List.map_id, ← hvisits] at hself

/-- A warning in a scope is what it should be. -/
theorem warnsOf_duplicateWarning {visitOf : Declaration → Visit}
    (hvisits : schema.visits = declarations.map visitOf) {scope : Parent × String}
    (hscope : scope ∈ scopes declarations visitOf) (name : String) :
    WarnsOf schema declarations (scope.1, name) (LintRule.duplicateWarning scope.2 name) := by
  refine ⟨rfl, rfl, fun hroot => ?_, fun identifier hgroup => ?_⟩
  · obtain rfl | hscope := List.mem_cons.1 hscope
    · exact ⟨LintRule.message_duplicateWarning_root name, rfl⟩
    · obtain ⟨declaration, -, rfl⟩ := List.mem_map.1 hscope
      cases hroot
  · obtain rfl | hscope := List.mem_cons.1 hscope
    · cases hgroup
    · obtain ⟨declaration, hmem, rfl⟩ := List.mem_map.1 hscope
      refine ⟨visitOf declaration, declaration, ?_, Parent.node.inj hgroup, fun hne => ?_⟩
      · rw [Schema.placements_eq hvisits]
        exact List.mem_map_of_mem hmem
      · refine ⟨LintRule.message_duplicateWarning hne name, ?_⟩
        simp only [LintRule.duplicateWarning, joinLocation, hne, if_false]

/-- The pairs of a parent and a name that are reported. -/
def reportedPairs (declarations : List Declaration) (visitOf : Declaration → Visit) :
    List (Parent × String) :=
  (reports declarations visitOf).map fun report => (report.1.1, report.2)

theorem reportedPairs_eq (visitOf : Declaration → Visit) :
    reportedPairs declarations visitOf = (scopes declarations visitOf).flatMap fun scope =>
      (reportedNames declarations visitOf scope.1).map (scope.1, ·) := by
  rw [reportedPairs, reports, List.map_flatMap]
  exact List.flatMap_congr fun scope _ => List.map_map

/-- No pair is reported twice, as the scopes have distinct parents. -/
theorem Schema.nodup_reportedPairs (lowered : schema.lower = .ok declarations)
    (visitOf : Declaration → Visit) : (reportedPairs declarations visitOf).Nodup := by
  have hscopes := Schema.nodup_scopes lowered visitOf
  rw [List.Nodup, List.pairwise_map] at hscopes
  rw [reportedPairs_eq, List.nodup_flatMap]
  refine ⟨fun scope _ => (LintRule.nodup_secondNames _).map (Prod.mk_right_injective scope.1),
    hscopes.imp fun hne => ?_⟩
  refine List.disjoint_left.2 fun pair hpair hpair' => ?_
  obtain ⟨_, -, rfl⟩ := List.mem_map.1 hpair
  obtain ⟨_, -, heq⟩ := List.mem_map.1 hpair'
  exact hne (congrArg Prod.fst heq).symm

/-- A name is reported below a parent exactly if two or more children are spelled so. -/
theorem Schema.mem_reportedPairs_iff (lowered : schema.lower = .ok declarations)
    (visitOf : Declaration → Visit) {parent : Parent} {name : String} :
    (parent, name) ∈ reportedPairs declarations visitOf ↔
      2 ≤ ((childrenOf declarations parent).map fun child =>
        (visitOf child).entry.name).count name := by
  rw [reportedPairs_eq, ← LintRule.mem_secondNames_iff, List.mem_flatMap]
  constructor
  · rintro ⟨scope, -, hpair⟩
    obtain ⟨_, hname, heq⟩ := List.mem_map.1 hpair
    obtain ⟨rfl, rfl⟩ := Prod.mk.inj heq
    exact hname
  · intro hname
    -- there is a child, and its parent is a scope
    obtain ⟨child, hchild⟩ : ∃ child, child ∈ childrenOf declarations parent := by
      rw [LintRule.mem_secondNames_iff] at hname
      have hpos := List.count_pos_iff.1 (Nat.lt_of_lt_of_le Nat.zero_lt_two hname)
      obtain ⟨child, hchild, -⟩ := List.mem_map.1 hpos
      exact ⟨child, hchild⟩
    obtain ⟨hmem, hparent⟩ := List.mem_filter.1 hchild
    obtain ⟨location, hscope⟩ := Schema.parent_mem_scopes lowered hmem visitOf
    rw [of_decide_eq_true hparent] at hscope
    exact ⟨(parent, location), hscope, List.mem_map_of_mem hname⟩

/-- **The warnings about duplicate siblings are exact**: there is one for each parent and each
spelling that two or more declarations with that parent were lowered from, and no other one. -/
theorem duplicateSibling_exact (lowered : schema.lower = .ok declarations) :
    ExactWarnings schema declarations := by
  obtain ⟨visitOf, hvisits, hcheck⟩ := Schema.exists_visitOf lowered
  have hdeclares := Schema.declares_preorder lowered
  rw [← schema.map_node_visits, List.forall₂_map_left_iff] at hdeclares
  refine ⟨hdeclares, reportedPairs declarations visitOf,
    Schema.nodup_reportedPairs lowered visitOf, fun ⟨parent, name⟩ => ?_, ?_⟩
  · rw [Schema.mem_reportedPairs_iff lowered visitOf, Schema.spellings,
      Schema.placements_eq hvisits, List.map_map, ← count_spellings visitOf parent name]
    rfl
  · rw [hcheck, reportedPairs, List.forall₂_map_left_iff, List.forall₂_map_right_iff,
      List.forall₂_same]
    intro report hreport
    obtain ⟨scope, hscope, hreport⟩ := List.mem_flatMap.1 hreport
    obtain ⟨name, -, rfl⟩ := List.mem_map.1 hreport
    exact warnsOf_duplicateWarning hvisits hscope name

end Lowered

/-- A command with the given name and nothing else. -/
def plainCommand (name : String) : Entry :=
  ⟨name, "None", none, "False", []⟩

/-- Three siblings of one name below a group, two below another one, and two groups of one name. -/
def twinTools : Schema :=
  ⟨[.group ⟨plainCommand "g", [⟨plainCommand "x", [], []⟩], [plainCommand "x", plainCommand "x"]⟩,
    .group ⟨plainCommand "g", [], [plainCommand "x", plainCommand "y", plainCommand "x"]⟩]⟩

theorem duplicateSibling_exact_twinTools :
    ∃ declarations, twinTools.lower = .ok declarations ∧
      ExactWarnings twinTools declarations := by
  obtain ⟨declarations, lowered⟩ : ∃ declarations, twinTools.lower = .ok declarations :=
    ⟨_, by rfl⟩
  exact ⟨declarations, lowered, duplicateSibling_exact lowered⟩

/-- Two commands of which the names differ by quotes only. -/
def quotedTwins : Schema :=
  ⟨[.command (plainCommand "a"), .command (plainCommand "\"a\"")]⟩

/-- Two declarations of one name are not warned of if the name is spelled differently. -/
theorem check_quotedTwins :
    (quotedTwins.lower.map fun declarations => declarations.map fun declaration =>
        (declaration.parent, declaration.attributes.get? nameKey)) =
      .ok [(.root, some (.text "a")), (.root, some (.text "a"))] ∧
    LintRule.duplicateSibling.check quotedTwins = [] := by
  decide +kernel

end CommandTree
