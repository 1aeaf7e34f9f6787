import CommandTree.Live.Export
import CommandTree.Proofs.FileSystem.Operations
import CommandTree.Proofs.Live.Reflection
import CommandTree.Proofs.Schema.RoundTrip

/-!
# Exporting live trees

An exported schema holds every live node that can be reached through groups once.  A document may
hold fewer parameters than a live node can show, so the exported text is not always a schema again.

* `LiveNode.reachable` are the live nodes that can be reached from one.
* `LiveNode.DescribedBy` relates a live node to the node that describes it, with all that is below.
* `preorder_reflect_perm` : a schema holds one node for each live node that can be reached.
* `wellFormed_reflect` : it is well-formed exactly if all parameters can be in a document.
* `exportTrees_spec` : what is exported, and when it can be loaded.
-/

namespace CommandTree

/-! ### Live nodes and what describes them -/

namespace LiveNode

/-- The kind of the node that describes a live one. -/
def kind (node : LiveNode) : NodeKind :=
  if node.isGroup then .group else .command

mutual

/-- The live nodes that can be reached from one through groups, itself included.  What is below a
node that is no group cannot be reached. -/
def reachable : LiveNode → List LiveNode
  | ⟨name, help, hidden, permission, isGroup, params, children⟩ =>
    ⟨name, help, hidden, permission, isGroup, params, children⟩ ::
      if isGroup then reachableList children else []

/-- The live nodes that can be reached from some through groups. -/
def reachableList : List LiveNode → List LiveNode
  | [] => []
  | node :: rest => node.reachable ++ reachableList rest

end

/-- A node of a schema describes a live node.  The commands of a group are the children that are no
groups, and its groups are the other children, both in their order. -/
inductive DescribedBy (permission : String) : LiveNode → Node → Prop
  | command {node : LiveNode} (leaf : node.isGroup = false) :
      DescribedBy permission node (.command (node.reflectEntry permission))
  | group {node : LiveNode} {groups : List Group} (group : node.isGroup = true)
      (below : List.Forall₂ (DescribedBy permission) (node.children.filter (·.isGroup))
        (groups.map .group)) :
      DescribedBy permission node (.group ⟨node.reflectEntry permission, groups,
        (node.children.filter (!LiveNode.isGroup ·)).map (reflectEntry permission)⟩)

end LiveNode

/-- A live option whose type is one that a document may state. -/
def LiveParam.IsTypedOption : LiveParam → Prop
  | option _ _ type _ _ _ => type = some "STRING" ∨ type = some "BOOL"
  | argument .. => False

instance : DecidablePred LiveParam.IsTypedOption
  | .option .. => inferInstanceAs (Decidable (_ ∨ _))
  | .argument .. => inferInstanceAs (Decidable False)

/-- All parameters of the live nodes that can be reached are options that a document may hold. -/
def AllTypedOptions (roots : List LiveNode) : Prop :=
  ∀ node ∈ LiveNode.reachableList roots, ∀ param ∈ node.params, param.IsTypedOption

instance (roots : List LiveNode) : Decidable (AllTypedOptions roots) :=
  inferInstanceAs (Decidable (∀ node ∈ LiveNode.reachableList roots, ∀ param ∈ node.params,
    param.IsTypedOption))

variable (permission : String)

/-! ### What is described -/

namespace LiveNode

/-- A live node as the node of a schema says it. -/
def labelled (node : LiveNode) : NodeKind × Entry :=
  (node.kind, node.reflectEntry permission)

mutual

theorem describedBy_reflectGroup : ∀ node : LiveNode, node.isGroup = true →
    node.DescribedBy permission (.group (node.reflectGroup permission))
  | ⟨_, _, _, _, _, _, children⟩, hgroup =>
    .group hgroup (forall₂_reflectGroups children)

theorem forall₂_reflectGroups : ∀ nodes : List LiveNode,
    List.Forall₂ (DescribedBy permission) (nodes.filter (·.isGroup))
      ((reflectGroups permission nodes).map .group)
  | [] => .nil
  | node :: rest => by
    cases hgroup : node.isGroup with
    | true =>
      simp only [reflectGroups, hgroup, List.filter_cons, if_true, List.map_cons]
      exact .cons (describedBy_reflectGroup node hgroup) (forall₂_reflectGroups rest)
    | false =>
      simp only [reflectGroups, hgroup, List.filter_cons, Bool.false_eq_true, if_false]
      exact forall₂_reflectGroups rest

end

theorem describedBy_reflect (node : LiveNode) :
    node.DescribedBy permission (node.reflect permission) := by
  cases hgroup : node.isGroup with
  | true =>
    rw [reflect, if_pos hgroup]
    exact describedBy_reflectGroup permission node hgroup
  | false =>
    rw [reflect, hgroup, if_neg Bool.false_ne_true]
    exact .command hgroup

/-! ### One node for each live node -/

mutual

theorem preorder_reflectGroup_perm : ∀ node : LiveNode, node.isGroup = true →
    (node.reflectGroup permission).preorder.Perm (node.reachable.map (labelled permission))
  | ⟨_, _, _, _, isGroup, _, children⟩, hgroup => by
    obtain rfl : isGroup = true := hgroup
    simp only [reflectGroup, Group.preorder, reachable, if_true, List.map_cons, List.cons_append]
    exact .cons _ (preorder_reflectGroups_perm children)

/-- Below a group stand first its commands, then what its groups hold. -/
theorem preorder_reflectGroups_perm : ∀ nodes : List LiveNode,
    ((((nodes.filter (!LiveNode.isGroup ·)).map (reflectEntry permission)).map
        fun command => (NodeKind.command, command)) ++
      Group.preorderList (reflectGroups permission nodes)).Perm
      ((reachableList nodes).map (labelled permission))
  | [] => .nil
  | node :: rest => by
    have hrest := preorder_reflectGroups_perm rest
    cases hgroup : node.isGroup with
    | true =>
      have hnode := preorder_reflectGroup_perm node hgroup
      simp only [reachableList, reflectGroups, hgroup, List.filter_cons, Bool.not_true,
        Bool.false_eq_true, if_false, if_true, Group.preorderList, List.map_append]
      -- the commands after the group come before what the group holds
      exact (List.perm_append_comm_assoc _ _ _).trans (hnode.append hrest)
    | false =>
      have hreachable : node.reachable = [node] := by
        obtain ⟨_, _, _, _, _, _, _⟩ := node
        simp_all [reachable]
      simp only [reachableList, reflectGroups, hgroup, hreachable, List.filter_cons, Bool.not_false,
        Bool.false_eq_true, if_false, if_true, List.map_cons, List.cons_append, List.nil_append,
        labelled, kind]
      exact .cons _ hrest

end

theorem preorder_reflect_perm (node : LiveNode) :
    (node.reflect permission).preorder.Perm (node.reachable.map (labelled permission)) := by
  cases hgroup : node.isGroup with
  | true =>
    rw [reflect, if_pos hgroup]
    exact preorder_reflectGroup_perm permission node hgroup
  | false =>
    obtain ⟨_, _, _, _, _, _, _⟩ := node
    simp_all [reflect, reachable, Node.preorder, labelled, kind]

end LiveNode

/-- A schema holds one node for each live node that can be reached. -/
theorem preorder_reflect_perm (roots : List LiveNode) : (reflect permission roots).preorder.Perm
    ((LiveNode.reachableList roots).map (LiveNode.labelled permission)) := by
  simp only [reflect, Schema.preorder]
  induction roots with
  | nil => exact .nil
  | cons root rest ih =>
    rw [List.map_cons, List.flatMap_cons, LiveNode.reachableList, List.map_append]
    exact (root.preorder_reflect_perm permission).append ih

/-! ### What can be in a document -/

theorem LiveParam.kindApart_reflect (param : LiveParam) : param.reflect.KindApart := by
  rw [Param.KindApart, param.keys_reflect]
  cases param.reflect.kind <;> decide

theorem wordOfText_eq_iff {text : Option String} {word : String} (hword : word ≠ absentWord) :
    wordOfText text = word ↔ text = some word := by
  cases text with
  | none => simpa [wordOfText] using hword.symm
  | some text => simp [wordOfText]

theorem wordOfTruth_mem (value : Bool) : wordOfTruth value ∈ truthWords := by
  cases value <;> decide

/-- The parameter that describes a live one can be in a document exactly if it is an option that
states one of the two types. -/
theorem LiveParam.wellFormed_reflect (param : LiveParam) :
    param.reflect.WellFormed ↔ param.IsTypedOption := by
  cases param with
  | argument name type default required =>
    have hargument : ¬ (argument name type default required).IsTypedOption := id
    exact ⟨fun h => absurd h.kind (by simp [reflect]), fun h => absurd h hargument⟩
  | option name help type default required prompt =>
    have htype : (option name help type default required prompt).reflect.get? "type" =
        some (wordOfText type) := rfl
    have hrequired : (option name help type default required prompt).reflect.get? "required" =
        some (wordOfTruth required) := rfl
    -- an absent type has a word as well, but that is none of the two
    have hword : (∃ word ∈ paramTypeWords, some (wordOfText type) = some word) ↔
        type = some "STRING" ∨ type = some "BOOL" := by
      rw [← wordOfText_eq_iff (by decide), ← wordOfText_eq_iff (by decide)]
      simp [paramTypeWords]
    constructor
    · intro h
      have hmem := h.type
      rw [htype] at hmem
      exact hword.1 hmem
    · intro h
      refine ⟨rfl, fun key hkey => ?_, LiveParam.kindApart_reflect _, ?_, ?_⟩
      · rw [LiveParam.keys_reflect]
        exact hkey
      · rw [htype]
        exact hword.2 h
      · exact ⟨_, wordOfTruth_mem required, hrequired⟩

theorem LiveNode.wellFormed_reflectEntry (node : LiveNode) :
    (node.reflectEntry permission).WellFormed ↔ ∀ param ∈ node.params, param.IsTypedOption := by
  simp [Entry.wellFormed_iff, reflectEntry, wordOfTruth_mem, LiveParam.wellFormed_reflect]

theorem forall_mem_preorder_reflect {p : Entry → Prop} (roots : List LiveNode) :
    (∀ node ∈ (reflect permission roots).preorder, p node.2) ↔
      ∀ node ∈ LiveNode.reachableList roots, p (node.reflectEntry permission) := by
  simp only [(preorder_reflect_perm permission roots).mem_iff, List.forall_mem_map,
    LiveNode.labelled]

/-- The schema of some live trees is well-formed exactly if all parameters that can be reached can
be in a document. -/
theorem wellFormed_reflect (roots : List LiveNode) :
    (reflect permission roots).WellFormed ↔ AllTypedOptions roots := by
  rw [Schema.WellFormed, forall_mem_preorder_reflect]
  simp only [LiveNode.wellFormed_reflectEntry, AllTypedOptions]

theorem kindsApart_reflect (roots : List LiveNode) : (reflect permission roots).KindsApart := by
  rw [Schema.KindsApart, forall_mem_preorder_reflect]
  intro node _
  exact List.forall_mem_map.2 fun param _ => param.kindApart_reflect

/-! ### What is exported -/

/-- Exporting writes one text and gives it back. -/
theorem run_exportTrees_eq_ok {roots : List LiveNode} {path text : String}
    {files files' : FileSystem} :
    (exportTrees permission roots path : StateM FileSystem _).run files = (.ok text, files') ↔
      text = exportText permission roots ∧ files.write path text = .ok files' := by
  rw [exportTrees, StateT.run_bind, FileSystem.run_write]
  cases hwrite : files.write path (exportText permission roots) with
  | ok written =>
    constructor
    · rintro ⟨⟩
      exact ⟨rfl, hwrite⟩
    · rintro ⟨rfl, hwrite'⟩
      obtain rfl := Except.ok.inj (hwrite.symm.trans hwrite')
      rfl
  | error cause =>
    constructor
    · rintro ⟨⟩
    · rintro ⟨rfl, hwrite'⟩
      cases hwrite.symm.trans hwrite'

/-- **An exported schema has one node for every live node that can be reached through groups, each
below the same group and in the same order among the commands and among the groups.  Its text is
written, and is loaded as that schema if all parameters can be in a document; else it is refused, as
it breaks the grammar.** -/
theorem exportTrees_spec (permission : String) (roots : List LiveNode) :
    List.Forall₂ (LiveNode.DescribedBy permission) roots (reflect permission roots).nodes ∧
    (reflect permission roots).preorder.Perm
      ((LiveNode.reachableList roots).map fun node =>
        (node.kind, node.reflectEntry permission)) ∧
    (∀ (path text : String) (files files' : FileSystem),
      (exportTrees permission roots path : StateM FileSystem _).run files = (.ok text, files') →
        text = exportText permission roots ∧ files'.read path = .ok text) ∧
    ((reflect permission roots).toJson.depth ≤ 127 → ∀ source : String,
      (AllTypedOptions roots →
        Schema.ofText .json source (exportText permission roots) =
          .ok (reflect permission roots)) ∧
      (¬ AllTypedOptions roots → ∃ violation,
        Schema.ofText .json source (exportText permission roots) =
          .error (.invalid violation))) := by
  refine ⟨?_, preorder_reflect_perm permission roots, fun path text files files' hrun => ?_,
    fun hdepth source => ?_⟩
  · rw [reflect, List.forall₂_map_right_iff, List.forall₂_same]
    exact fun root _ => root.describedBy_reflect permission
  · obtain ⟨rfl, hwrite⟩ := (run_exportTrees_eq_ok permission).1 hrun
    exact ⟨rfl, FileSystem.read_of_write hwrite⟩
  · have hspace : Json.skipSpace "\n".toList = [] := by decide
    rw [← wellFormed_reflect permission]
    refine ⟨fun wellFormed => wellFormed.ofText_toText hdepth hspace source, fun hnot => ?_⟩
    obtain ⟨violation, -, herror⟩ := (kindsApart_reflect permission
      roots).ofText_toText_of_not_wellFormed hnot hdepth hspace source
    exact ⟨violation, herror⟩

/-- A group with a command of its own, below which nothing can be reached, and with an empty group
before it. -/
def plainRoots : List LiveNode :=
  [⟨"tools", some "Tools", false, some "admin", true, [],
    [⟨"more", none, true, none, true, [], []⟩,
     ⟨"run", some "", false, none, false,
      [.option "force" none (some "BOOL") (some "False") true none],
      [⟨"below", none, false, none, false, [.argument "path" none none true], []⟩]⟩]⟩]

/-- A command with an argument. -/
def argumentRoots : List LiveNode :=
  [⟨"run", none, false, none, false, [.argument "path" (some "STRING") none true], []⟩]

theorem exportTrees_spec_plainRoots :
    (∃ files, (exportTrees "developer" plainRoots "a.json" : StateM FileSystem _).run
        (.ofWorkingDirectory "home") = (.ok (exportText "developer" plainRoots), files) ∧
      files.read "a.json" = .ok (exportText "developer" plainRoots)) ∧
    Schema.ofText .json "a.json" (exportText "developer" plainRoots) =
      .ok (reflect "developer" plainRoots) ∧
    ∃ violation, Schema.ofText .json "b.json" (exportText "developer" argumentRoots) =
      .error (.invalid violation) := by
  obtain ⟨-, -, hexport, hload⟩ := exportTrees_spec "developer" plainRoots
  obtain ⟨-, -, -, hrefused⟩ := exportTrees_spec "developer" argumentRoots
  obtain ⟨files, hwrite⟩ : ∃ files, (FileSystem.ofWorkingDirectory "home").write "a.json"
      (exportText "developer" plainRoots) = .ok files :=
    ⟨_, FileSystem.write_eq_ok.2 ⟨by decide, ["home"], "a.json", .inl (by rfl), rfl⟩⟩
  have hrun := (run_exportTrees_eq_ok "developer").2 ⟨rfl, hwrite⟩
  exact ⟨⟨files, hrun, (hexport _ _ _ _ hrun).2⟩,
    (hload (by decide +kernel) "a.json").1 (by decide +kernel),
    (hrefused (by decide +kernel) "b.json").2 (by decide +kernel)⟩

end CommandTree
