import CommandTree.Proofs.Lint.DuplicateSiblings

/-!
# Locations

The location of a node is the names from the top level down to it, with slashes between them.  Names
without slashes could be told apart in it, were it not that the empty location stands for the top
level: what is below a group without a name at the top looks as if it were at the top itself.

* `Forest.trails` lists the names from the top level down to each node, and
  `Schema.map_location_visits` says that locations are made of them.
* `locationOf_eq_iff` : a location determines the trail up to empty names at its front.
* `Forest.nodup_trails` : the trails are distinct if the names of siblings are.
* `locationsIdentify_iff` : hence locations tell the nodes apart, and findings at one location are
  about one node, unless a child of a nameless group at the top has the name of a node at the top.
-/

namespace CommandTree

/-! ### Trails and locations -/

/-- The location at the end of a trail of names. -/
def locationOf (trail : List String) : String :=
  trail.foldl joinLocation ""

/-- A trail without the empty names at its front. -/
def dropNameless (trail : List String) : List String :=
  trail.dropWhile (· = "")

theorem foldl_joinLocation {above : String} (h : above ≠ "") (trail : List String) :
    trail.foldl joinLocation above = "/".intercalate (above :: trail) := by
  induction trail generalizing above with
  | nil => rw [List.foldl_nil, String.intercalate_singleton]
  | cons name rest ih =>
    have hjoin : joinLocation above name = above ++ "/" ++ name := if_neg h
    have hne : above ++ "/" ++ name ≠ "" := by simp
    rw [List.foldl_cons, hjoin, ih hne, String.intercalate_cons_append,
      String.intercalate_cons_cons]

/-- Empty names are lost at the front of a location, and kept behind the first name. -/
theorem locationOf_eq (trail : List String) :
    locationOf trail = "/".intercalate (dropNameless trail) := by
  rw [locationOf]
  induction trail with
  | nil => rw [List.foldl_nil, dropNameless, List.dropWhile_nil, String.intercalate_nil]
  | cons name rest ih =>
    have hjoin : joinLocation "" name = name := if_pos rfl
    rw [List.foldl_cons, hjoin, dropNameless]
    by_cases hname : name = ""
    · rw [hname, ih, List.dropWhile_cons_of_pos (by decide), dropNameless]
    · rw [foldl_joinLocation hname, List.dropWhile_cons_of_neg (by simpa using hname)]

/-- The first name that is left is not empty. -/
theorem ne_empty_of_dropNameless {trail rest : List String} {name : String}
    (h : dropNameless trail = name :: rest) : name ≠ "" := by
  have hhead := List.head?_dropWhile_not (fun name : String => decide (name = "")) trail
  rw [dropNameless] at h
  simpa [h] using hhead

/-- A location is empty only if all names on the trail are. -/
theorem locationOf_eq_empty_iff {trail : List String} :
    locationOf trail = "" ↔ dropNameless trail = [] := by
  rw [locationOf_eq]
  constructor
  · intro hempty
    cases hdrop : dropNameless trail with
    | nil => rfl
    | cons name rest =>
      have hname := ne_empty_of_dropNameless hdrop
      rw [hdrop] at hempty
      cases rest with
      | nil =>
        rw [String.intercalate_singleton] at hempty
        exact absurd hempty hname
      | cons second rest =>
        rw [String.intercalate_cons_cons] at hempty
        simp at hempty
  · intro hnil
    rw [hnil, String.intercalate_nil]

/-- No name on a trail has a slash. -/
def SlashFree (trail : List String) : Prop :=
  ∀ name ∈ trail, '/' ∉ name.toList

/-- Names without slashes can be read back from a location, if it is not empty. -/
theorem SlashFree.splitOn_locationOf {trail : List String} (h : SlashFree trail)
    (hne : locationOf trail ≠ "") :
    (locationOf trail).toList.splitOn '/' = (dropNameless trail).map String.toList := by
  have hslash : "/".toList = ['/'] := by decide
  have hfree : ∀ name ∈ (dropNameless trail).map String.toList, '/' ∉ name := by
    simp only [List.mem_map, forall_exists_index, and_imp, forall_apply_eq_imp_iff₂]
    exact fun name hname => h name ((List.dropWhile_sublist _).subset hname)
  have hnil : (dropNameless trail).map String.toList ≠ [] := by
    rwa [Ne, List.map_eq_nil_iff, ← locationOf_eq_empty_iff]
  rw [locationOf_eq, String.toList_intercalate, hslash]
  exact List.splitOn_intercalate '/' hfree hnil

/-- **A location determines the trail up to the empty names at its front.** -/
theorem locationOf_eq_iff {trail other : List String} (h : SlashFree trail) (h' : SlashFree other) :
    locationOf trail = locationOf other ↔ dropNameless trail = dropNameless other := by
  constructor
  · intro heq
    by_cases hempty : locationOf trail = ""
    · rw [locationOf_eq_empty_iff.1 hempty, locationOf_eq_empty_iff.1 (heq ▸ hempty)]
    · have hempty' : locationOf other ≠ "" := heq ▸ hempty
      have hnames : (dropNameless trail).map String.toList =
          (dropNameless other).map String.toList := by
        rw [← h.splitOn_locationOf hempty, ← h'.splitOn_locationOf hempty', heq]
      exact List.map_injective_iff.2 (fun _ _ => String.toList_inj.1) hnames
  · intro heq
    rw [locationOf_eq, locationOf_eq, heq]

/-! ### The trails of a forest -/

namespace Forest

variable {nodes : Forest (NodeKind × Entry)}

/-- The names from the top down to each node, in document order. -/
def trails : Forest (NodeKind × Entry) → List (List String)
  | nil => []
  | cons label below rest =>
    [label.2.name] :: (below.trails.map (label.2.name :: ·) ++ rest.trails)

/-- The names of the nodes at the top. -/
def topNames (nodes : Forest (NodeKind × Entry)) : List String :=
  nodes.roots.map (·.2.name)

theorem trails_append (a b : Forest (NodeKind × Entry)) :
    (a.append b).trails = a.trails ++ b.trails := by
  induction a with
  | nil => rfl
  | cons label below rest _ ih => simp only [append, trails, ih, List.cons_append, List.append_assoc]

/-- The locations of the nodes are made of their trails. -/
theorem map_location_located (nodes : Forest (NodeKind × Entry)) (above : String) :
    (nodes.located above).preorder.map Visit.location =
      nodes.trails.map (List.foldl joinLocation above) := by
  induction nodes generalizing above with
  | nil => rfl
  | cons label below rest ih ih' =>
    simp only [located, preorder, trails, List.map_cons, List.map_append, List.map_map, ih, ih']
    rfl

theorem mem_trails_cons {label : NodeKind × Entry} {below rest : Forest (NodeKind × Entry)}
    {trail : List String} : trail ∈ (cons label below rest).trails ↔
      trail = [label.2.name] ∨ (∃ inner ∈ below.trails, label.2.name :: inner = trail) ∨
        trail ∈ rest.trails := by
  rw [trails, List.mem_cons, List.mem_append, List.mem_map]

/-- A trail starts at the top. -/
theorem exists_cons_of_mem_trails {trail : List String} (h : trail ∈ nodes.trails) :
    ∃ name rest, trail = name :: rest ∧ name ∈ nodes.topNames := by
  induction nodes with
  | nil => cases h
  | cons label below rest _ ih' =>
    obtain rfl | ⟨inner, -, rfl⟩ | hrest := mem_trails_cons.1 h
    · exact ⟨label.2.name, [], rfl, List.mem_cons_self⟩
    · exact ⟨label.2.name, inner, rfl, List.mem_cons_self⟩
    · obtain ⟨name, inner, rfl, hname⟩ := ih' hrest
      exact ⟨name, inner, rfl, List.mem_cons_of_mem _ hname⟩

theorem nil_notMem_trails : [] ∉ nodes.trails := by
  intro h
  obtain ⟨name, rest, heq, -⟩ := exists_cons_of_mem_trails h
  cases heq

theorem singleton_mem_trails_iff {name : String} :
    [name] ∈ nodes.trails ↔ name ∈ nodes.topNames := by
  constructor
  · intro h
    obtain ⟨_, _, heq, hname⟩ := exists_cons_of_mem_trails h
    rwa [← (List.cons.inj heq).1] at hname
  · intro h
    induction nodes with
    | nil => cases h
    | cons label below rest _ ih' =>
      rw [mem_trails_cons]
      obtain rfl | hrest := List.mem_cons.1 h
      · exact .inl rfl
      · exact .inr (.inr (ih' hrest))

/-- Where a trail passes, a trail ends. -/
theorem mem_trails_of_front {trail first : List String} (h : trail ∈ nodes.trails)
    (hfront : first <+: trail) (hne : first ≠ []) : first ∈ nodes.trails := by
  induction nodes generalizing trail first with
  | nil => cases h
  | cons label below rest ih ih' =>
    obtain ⟨name, first, rfl⟩ := List.exists_cons_of_ne_nil hne
    rw [mem_trails_cons]
    obtain rfl | ⟨inner, hinner, rfl⟩ | hrest := mem_trails_cons.1 h
    · obtain ⟨rfl, hnil⟩ := List.cons_prefix_cons.1 hfront
      rw [List.prefix_nil.1 hnil]
      exact .inl rfl
    · obtain ⟨rfl, hinside⟩ := List.cons_prefix_cons.1 hfront
      by_cases hfirst : first = []
      · exact .inl (by rw [hfirst])
      · exact .inr (.inl ⟨first, ih hinner hinside hfirst, rfl⟩)
    · exact .inr (.inr (ih' hrest hfront hne))

/-- The names on a trail are names of nodes. -/
theorem exists_node_of_mem_trail {trail : List String} (h : trail ∈ nodes.trails) {name : String}
    (hname : name ∈ trail) : ∃ node ∈ nodes.preorder, node.2.name = name := by
  induction nodes generalizing trail with
  | nil => cases h
  | cons label below rest ih ih' =>
    simp only [preorder, List.mem_cons, List.mem_append]
    obtain rfl | ⟨inner, hinner, rfl⟩ | hrest := mem_trails_cons.1 h
    · exact ⟨label, .inl rfl, (List.mem_singleton.1 hname).symm⟩
    · obtain rfl | hname := List.mem_cons.1 hname
      · exact ⟨label, .inl rfl, rfl⟩
      · obtain ⟨node, hnode, rfl⟩ := ih hinner hname
        exact ⟨node, .inr (.inl hnode), rfl⟩
    · obtain ⟨node, hnode, rfl⟩ := ih' hrest hname
      exact ⟨node, .inr (.inr hnode), rfl⟩

/-- Below every node, the names of siblings are distinct. -/
def DistinctBelow : Forest (NodeKind × Entry) → Prop
  | nil => True
  | cons _ below rest => below.topNames.Nodup ∧ below.DistinctBelow ∧ rest.DistinctBelow

theorem distinctBelow_append {a b : Forest (NodeKind × Entry)} :
    (a.append b).DistinctBelow ↔ a.DistinctBelow ∧ b.DistinctBelow := by
  induction a with
  | nil => simp [append, DistinctBelow]
  | cons label below rest _ ih => simp only [append, DistinctBelow, ih, and_assoc]

/-- **If the names of siblings are distinct, then so are the trails.** -/
theorem nodup_trails (htop : nodes.topNames.Nodup) (hbelow : nodes.DistinctBelow) :
    nodes.trails.Nodup := by
  induction nodes with
  | nil => exact List.nodup_nil
  | cons label below rest ih ih' =>
    obtain ⟨hlabel, hrestTop⟩ := List.nodup_cons.1 htop
    obtain ⟨hbelowTop, hbelow, hrest⟩ := hbelow
    -- the trails after the first tree start with other names
    have hother : ∀ inner, label.2.name :: inner ∉ rest.trails := by
      intro inner hmem
      obtain ⟨_, _, heq, hname⟩ := exists_cons_of_mem_trails hmem
      rw [← (List.cons.inj heq).1] at hname
      exact hlabel hname
    rw [trails, List.nodup_cons, List.nodup_append]
    refine ⟨?_, (ih hbelowTop hbelow).map List.cons_injective, ih' hrestTop hrest, ?_⟩
    · rw [List.mem_append, List.mem_map]
      rintro (⟨inner, hinner, heq⟩ | hmem)
      · rw [(List.cons.inj heq).2] at hinner
        exact nil_notMem_trails hinner
      · exact hother [] hmem
    · rintro trail hmem _ hmem' rfl
      obtain ⟨inner, -, rfl⟩ := List.mem_map.1 hmem
      exact hother inner hmem'

/-- If no name is both at the top and directly below a nameless node at the top, then dropping the
empty names of a trail either changes nothing or leaves what is no trail. -/
theorem dropNameless_of_mem_trails {trail : List String} (h : trail ∈ nodes.trails)
    (apart : ∀ name, ["", name] ∈ nodes.trails → name ∉ nodes.topNames) :
    dropNameless trail = trail ∨
      trail = "" :: dropNameless trail ∧ dropNameless trail ∉ nodes.trails := by
  obtain ⟨name, rest, rfl, htop⟩ := exists_cons_of_mem_trails h
  by_cases hname : name = ""
  · subst hname
    have hdrop : dropNameless ("" :: rest) = dropNameless rest := rfl
    rw [hdrop]
    refine .inr ?_
    cases rest with
    | nil => exact ⟨rfl, nil_notMem_trails⟩
    | cons second rest =>
      have hpair : ["", second] ∈ nodes.trails :=
        mem_trails_of_front h ⟨rest, rfl⟩ (List.cons_ne_nil _ _)
      have hsecond : second ≠ "" := fun hempty => apart second hpair (hempty ▸ htop)
      rw [dropNameless, List.dropWhile_cons_of_neg (by simpa using hsecond)]
      refine ⟨rfl, fun hmem => apart second hpair ?_⟩
      obtain ⟨_, _, heq, hhead⟩ := exists_cons_of_mem_trails hmem
      rwa [← (List.cons.inj heq).1] at hhead
  · exact .inl (List.dropWhile_cons_of_neg (by simpa using hname))

/-- **Distinct trails have distinct locations exactly if no name is both at the top and directly
below a nameless node at the top.** -/
theorem nodup_locations_iff (hfree : ∀ trail ∈ nodes.trails, SlashFree trail)
    (distinct : nodes.trails.Nodup) :
    (nodes.trails.map locationOf).Nodup ↔
      ∀ name, ["", name] ∈ nodes.trails → name ∉ nodes.topNames := by
  constructor
  · intro hnodup name hpair htop
    have hsingle : [name] ∈ nodes.trails := singleton_mem_trails_iff.2 htop
    have hlocation : locationOf ["", name] = locationOf [name] := rfl
    have heq := List.inj_on_of_nodup_map hnodup hpair hsingle hlocation
    exact absurd (congrArg List.length heq) (by simp)
  · intro apart
    refine distinct.map_on fun trail htrail other hother hlocation => ?_
    have hdrop := (locationOf_eq_iff (hfree trail htrail) (hfree other hother)).1 hlocation
    obtain hkept | ⟨hlost, hno⟩ := dropNameless_of_mem_trails htrail apart <;>
      obtain hkept' | ⟨hlost', hno'⟩ := dropNameless_of_mem_trails hother apart
    · rw [← hkept, hdrop, hkept']
    · rw [← hdrop, hkept] at hno'
      exact absurd htrail hno'
    · rw [hdrop, hkept'] at hno
      exact absurd hother hno
    · rw [hlost, hdrop, ← hlost']

end Forest

/-! ### The names of a schema -/

/-- The names of the nodes directly below a group. -/
def Group.childNames (group : Group) : List String :=
  group.commands.map Entry.name ++ group.groups.map fun group => group.entry.name

mutual

/-- A group and all groups below it. -/
def Group.subgroups : Group → List Group
  | ⟨entry, groups, commands⟩ => ⟨entry, groups, commands⟩ :: Group.subgroupsOfList groups

/-- Some groups and all groups below them. -/
def Group.subgroupsOfList : List Group → List Group
  | [] => []
  | group :: rest => group.subgroups ++ Group.subgroupsOfList rest

end

namespace Node

/-- The names of the nodes directly below a top-level node. -/
def childNames : Node → List String
  | group g => g.childNames
  | command _ => []

/-- The groups from a top-level node down. -/
def subgroups : Node → List Group
  | group g => g.subgroups
  | command _ => []

end Node

namespace Schema

/-- The names of the nodes at the top. -/
def topNames (schema : Schema) : List String :=
  schema.nodes.map fun node => node.entry.name

/-- No name of a node has a slash. -/
def SlashFreeNames (schema : Schema) : Prop :=
  ∀ node ∈ schema.preorder, '/' ∉ node.2.name.toList

/-- No two siblings share a name, be they at the top or the commands and groups of one group. -/
def DistinctSiblings (schema : Schema) : Prop :=
  schema.topNames.Nodup ∧ ∀ group ∈ schema.nodes.flatMap Node.subgroups, group.childNames.Nodup

/-- No child of a nameless group at the top has the name of a node at the top. -/
def NamelessApart (schema : Schema) : Prop :=
  ∀ node ∈ schema.nodes, node.entry.name = "" → ∀ name ∈ node.childNames, name ∉ schema.topNames

instance (schema : Schema) : Decidable schema.SlashFreeNames :=
  inferInstanceAs (Decidable (∀ node ∈ schema.preorder, '/' ∉ node.2.name.toList))

instance (schema : Schema) : Decidable schema.DistinctSiblings :=
  inferInstanceAs (Decidable (_ ∧ _))

instance (schema : Schema) : Decidable schema.NamelessApart :=
  inferInstanceAs (Decidable (∀ node ∈ schema.nodes, node.entry.name = "" →
    ∀ name ∈ node.childNames, name ∉ schema.topNames))

end Schema

/-- The forest below a group. -/
def Group.children (group : Group) : Forest (NodeKind × Entry) :=
  (Forest.ofCommands group.commands).append (Group.forestOfList group.groups)

theorem Group.forest_eq (group : Group) :
    group.forest = .cons (.group, group.entry) group.children .nil := by
  obtain ⟨entry, groups, commands⟩ := group
  rfl

theorem Group.topNames_children (group : Group) : group.children.topNames = group.childNames := by
  simp only [Forest.topNames, Group.children, Group.childNames, Forest.roots_append,
    Forest.roots_ofCommands, Group.roots_forestOfList, List.map_append, List.map_map,
    Function.comp_def]

theorem Forest.distinctBelow_ofCommands (commands : List Entry) :
    (ofCommands commands).DistinctBelow := by
  induction commands with
  | nil => trivial
  | cons command rest ih => exact ⟨List.nodup_nil, trivial, ih⟩

mutual

theorem Group.distinctBelow_forest : ∀ group : Group,
    group.forest.DistinctBelow ↔ ∀ inner ∈ group.subgroups, inner.childNames.Nodup
  | ⟨entry, groups, commands⟩ => by
    have hgroups := Group.distinctBelow_forestOfList groups
    have hnames := Group.topNames_children ⟨entry, groups, commands⟩
    have hcommands := Forest.distinctBelow_ofCommands commands
    rw [Group.forest_eq, Forest.DistinctBelow, hnames]
    simp only [Group.children, Forest.DistinctBelow, Forest.distinctBelow_append, Group.subgroups,
      List.forall_mem_cons, hgroups, hcommands, and_true, true_and]

theorem Group.distinctBelow_forestOfList : ∀ groups : List Group,
    (Group.forestOfList groups).DistinctBelow ↔
      ∀ inner ∈ Group.subgroupsOfList groups, inner.childNames.Nodup
  | [] => by simp [Group.forestOfList, Forest.DistinctBelow, Group.subgroupsOfList]
  | group :: rest => by
    rw [Group.forestOfList, Forest.distinctBelow_append, Group.distinctBelow_forest group,
      Group.distinctBelow_forestOfList rest, Group.subgroupsOfList, List.forall_mem_append]

end

namespace Schema

variable {schema : Schema}

theorem topNames_forest (schema : Schema) : schema.forest.topNames = schema.topNames := by
  rw [Forest.topNames, schema.roots_forest, List.map_map]
  rfl

theorem distinctBelow_forest (schema : Schema) : schema.forest.DistinctBelow ↔
    ∀ group ∈ schema.nodes.flatMap Node.subgroups, group.childNames.Nodup := by
  obtain ⟨nodes⟩ := schema
  simp only [forest]
  induction nodes with
  | nil => simp [Node.forestOfList, Forest.DistinctBelow]
  | cons node rest ih =>
    have hnode : node.forest.DistinctBelow ↔ ∀ inner ∈ node.subgroups, inner.childNames.Nodup := by
      cases node with
      | group g => exact g.distinctBelow_forest
      | command e => simp [Node.forest, Node.subgroups, Forest.distinctBelow_ofCommands]
    rw [Node.forestOfList, Forest.distinctBelow_append, hnode, ih, List.flatMap_cons,
      List.forall_mem_append]

/-- A trail of two names leads from a node at the top to one directly below it. -/
theorem pair_mem_trails_iff {outer inner : String} : [outer, inner] ∈ schema.forest.trails ↔
    ∃ node ∈ schema.nodes, node.entry.name = outer ∧ inner ∈ node.childNames := by
  obtain ⟨nodes⟩ := schema
  simp only [forest]
  induction nodes with
  | nil => simp [Node.forestOfList, Forest.trails]
  | cons node rest ih =>
    have hnode : [outer, inner] ∈ node.forest.trails ↔
        node.entry.name = outer ∧ inner ∈ node.childNames := by
      cases node with
      | group g =>
        have hchild : [inner] ∈ g.children.trails ↔ inner ∈ g.childNames := by
          rw [Forest.singleton_mem_trails_iff, g.topNames_children]
        rw [Node.forest, g.forest_eq, Forest.mem_trails_cons]
        simp [Forest.trails, hchild, Node.entry, Node.childNames, and_comm]
      | command e => simp [Node.forest, Forest.ofCommands, Forest.trails, Node.childNames]
    rw [Node.forestOfList, Forest.trails_append, List.mem_append, ih, hnode, List.exists_mem_cons_iff]

theorem nodup_trails (distinct : schema.DistinctSiblings) : schema.forest.trails.Nodup :=
  Forest.nodup_trails (schema.topNames_forest ▸ distinct.1) (schema.distinctBelow_forest.2 distinct.2)

theorem map_location_visits (schema : Schema) :
    schema.visits.map Visit.location = schema.forest.trails.map locationOf := by
  rw [schema.visits_eq, located, Forest.map_location_located]
  rfl

/-- **Locations tell the nodes apart** exactly if nothing below a nameless group at the top can be
taken for a node at the top. -/
theorem nodup_locations_iff (noSlash : schema.SlashFreeNames) (distinct : schema.DistinctSiblings) :
    (schema.visits.map Visit.location).Nodup ↔ schema.NamelessApart := by
  have hfree : ∀ trail ∈ schema.forest.trails, SlashFree trail := by
    intro trail htrail name hname
    obtain ⟨node, hnode, rfl⟩ := Forest.exists_node_of_mem_trail htrail hname
    rw [schema.preorder_forest] at hnode
    exact noSlash node hnode
  rw [schema.map_location_visits, Forest.nodup_locations_iff hfree (nodup_trails distinct)]
  simp only [pair_mem_trails_iff, schema.topNames_forest]
  constructor
  · exact fun h node hnode hname name hchild => h name ⟨node, hnode, hname, hchild⟩
  · rintro h name ⟨node, hnode, hname, hchild⟩
    exact h node hnode hname name hchild

end Schema

/-! ### Findings -/

namespace LintRule

/-- What is found at a node on its own. -/
def findings (visit : Visit) : List Diagnostic :=
  checkHelp visit ++ checkArguments visit

theorem location_of_mem_findings {visit : Visit} {finding : Diagnostic}
    (h : finding ∈ findings visit) : finding.location = some visit.location := by
  obtain hhelp | harguments := List.mem_append.1 h
  · rw [checkHelp] at hhelp
    split_ifs at hhelp with hsilent
    · rw [List.mem_singleton.1 hhelp]
    · cases hhelp
  · obtain ⟨param, -, rfl⟩ := List.mem_map.1 harguments
    rfl

theorem checkSiblings_eq_nil_iff {above : String} {names : List String} :
    checkSiblings above names = [] ↔ names.Nodup := by
  rw [checkSiblings_eq, List.map_eq_nil_iff, List.eq_nil_iff_forall_not_mem,
    List.nodup_iff_count_le_one]
  refine forall_congr' fun name => ?_
  rw [mem_secondNames_iff]
  omega

end LintRule

theorem Forest.checkBelow_located_eq_nil_iff {nodes : Forest (NodeKind × Entry)} {above : String} :
    (nodes.located above).checkBelow = [] ↔ nodes.DistinctBelow := by
  induction nodes generalizing above with
  | nil => simp [located, checkBelow, DistinctBelow]
  | cons label below rest ih ih' =>
    rw [located, checkBelow, List.append_eq_nil_iff, List.append_eq_nil_iff,
      LintRule.checkSiblings_eq_nil_iff, rootNames_located, ih, ih', DistinctBelow, topNames]

namespace Schema

variable {schema : Schema}

/-- The rule about siblings is silent exactly if no two siblings share a name. -/
theorem check_duplicateSibling_eq_nil_iff :
    LintRule.duplicateSibling.check schema = [] ↔ schema.DistinctSiblings := by
  have hnames : schema.located.rootNames = schema.topNames := by
    rw [located, Forest.rootNames_located, ← schema.topNames_forest, Forest.topNames]
  rw [schema.check_duplicateSibling_eq, List.append_eq_nil_iff, LintRule.checkSiblings_eq_nil_iff,
    hnames, located, Forest.checkBelow_located_eq_nil_iff, schema.distinctBelow_forest,
    DistinctSiblings]

theorem lint_eq (schema : Schema) : schema.lint = LintRule.duplicateSibling.check schema ++
    (schema.visits.flatMap LintRule.checkHelp ++ schema.visits.flatMap LintRule.checkArguments) := by
  simp [lint, LintRule.all, LintRule.check]

/-- If so, then every finding is about a node on its own. -/
theorem exists_visit_of_mem_lint (distinct : schema.DistinctSiblings) {finding : Diagnostic}
    (h : finding ∈ schema.lint) : ∃ visit ∈ schema.visits, finding ∈ LintRule.findings visit := by
  rw [lint_eq, check_duplicateSibling_eq_nil_iff.2 distinct, List.nil_append, List.mem_append,
    List.mem_flatMap, List.mem_flatMap] at h
  obtain ⟨visit, hvisit, hfinding⟩ | ⟨visit, hvisit, hfinding⟩ := h
  · exact ⟨visit, hvisit, List.mem_append_left _ hfinding⟩
  · exact ⟨visit, hvisit, List.mem_append_right _ hfinding⟩

/-- A finding is about the node with a number in document order. -/
def FoundAt (schema : Schema) (number : Nat) (finding : Diagnostic) : Prop :=
  ∃ visit, schema.visits[number]? = some visit ∧ finding ∈ LintRule.findings visit

/-- Locations identify the nodes. -/
structure LocationsIdentify (schema : Schema) : Prop where
  /-- No two nodes have the same location. -/
  distinct : (schema.visits.map Visit.location).Nodup
  /-- Two findings at the same location are about the same node, and about no other one. -/
  sameNode : ∀ first ∈ schema.lint, ∀ second ∈ schema.lint, first.location = second.location →
    ∃ number, schema.FoundAt number first ∧ schema.FoundAt number second ∧
      ∀ other, schema.FoundAt other first ∨ schema.FoundAt other second → other = number

/-- The location of a finding is that of the node it is about. -/
theorem FoundAt.location {number : Nat} {finding : Diagnostic} (h : schema.FoundAt number finding) :
    (schema.visits.map Visit.location)[number]? = finding.location := by
  obtain ⟨visit, hvisit, hfinding⟩ := h
  rw [List.getElem?_map, hvisit, LintRule.location_of_mem_findings hfinding]
  rfl

/-- If locations are distinct, then findings at the same location are about the same node. -/
theorem FoundAt.number_eq (distinct : (schema.visits.map Visit.location).Nodup) {i j : Nat}
    {first second : Diagnostic} (h : schema.FoundAt i first) (h' : schema.FoundAt j second)
    (hlocation : first.location = second.location) : i = j := by
  have heq : (schema.visits.map Visit.location)[i]? = (schema.visits.map Visit.location)[j]? := by
    rw [h.location, h'.location, hlocation]
  obtain ⟨visit, hvisit, -⟩ := h
  have hi : i < (schema.visits.map Visit.location).length := by
    rw [List.length_map]
    exact (List.getElem?_eq_some_iff.1 hvisit).1
  exact (List.getElem?_inj hi distinct).1 heq

/-- **Locations identify the nodes of a schema without slashes in names and without siblings of one
name exactly if nothing below a nameless group at the top can be taken for a node at the top.** -/
theorem locationsIdentify_iff (noSlash : schema.SlashFreeNames)
    (distinct : schema.DistinctSiblings) :
    schema.LocationsIdentify ↔ schema.NamelessApart := by
  refine ⟨fun h => (nodup_locations_iff noSlash distinct).1 h.distinct, fun apart => ?_⟩
  have hnodup := (nodup_locations_iff noSlash distinct).2 apart
  refine ⟨hnodup, fun first hfirst second hsecond hlocation => ?_⟩
  obtain ⟨visit, hvisit, hfinding⟩ := exists_visit_of_mem_lint distinct hfirst
  obtain ⟨visit', hvisit', hfinding'⟩ := exists_visit_of_mem_lint distinct hsecond
  obtain ⟨i, hi⟩ := List.getElem?_of_mem hvisit
  obtain ⟨j, hj⟩ := List.getElem?_of_mem hvisit'
  have hat : schema.FoundAt i first := ⟨visit, hi, hfinding⟩
  have hat' : schema.FoundAt j second := ⟨visit', hj, hfinding'⟩
  obtain rfl := hat.number_eq hnodup hat' hlocation
  refine ⟨i, hat, hat', ?_⟩
  rintro other (hother | hother)
  · exact hother.number_eq hnodup hat rfl
  · exact hother.number_eq hnodup hat' rfl

end Schema

/-- A nameless group at the top with a child, next to a node of another name and a group that has a
nameless group and a command of the first child's name. -/
def emptyNamedTools : Schema :=
  ⟨[.group ⟨plainCommand "", [], [plainCommand "x"]⟩, .command (plainCommand "y"),
    .group ⟨plainCommand "g", [⟨plainCommand "", [], [plainCommand "x"]⟩], [plainCommand "x"]⟩]⟩

theorem locationsIdentify_iff_emptyNamedTools :
    emptyNamedTools.SlashFreeNames ∧ emptyNamedTools.DistinctSiblings ∧
      emptyNamedTools.NamelessApart ∧ emptyNamedTools.LocationsIdentify ∧
      emptyNamedTools.visits.map Visit.location = ["", "x", "y", "g", "g/x", "g/", "g//x"] := by
  have noSlash : emptyNamedTools.SlashFreeNames := by decide +kernel
  have distinct : emptyNamedTools.DistinctSiblings := by decide +kernel
  have apart : emptyNamedTools.NamelessApart := by decide +kernel
  exact ⟨noSlash, distinct, apart, (Schema.locationsIdentify_iff noSlash distinct).2 apart,
    by decide +kernel⟩

/-- A nameless group with a command, and a command of the same name at the top. -/
def overlappingTools : Schema :=
  ⟨[.group ⟨plainCommand "", [], [plainCommand "x"]⟩, .command (plainCommand "x")]⟩

/-- The two commands have the same location, and so have the warnings about them. -/
theorem location_overlappingTools :
    overlappingTools.SlashFreeNames ∧ overlappingTools.DistinctSiblings ∧
      overlappingTools.visits.map Visit.location = ["", "x", "x"] ∧
      ¬ (overlappingTools.visits.map Visit.location).Nodup ∧
      overlappingTools.lint.map Diagnostic.location = [some "", some "x", some "x"] := by
  decide +kernel

end CommandTree
