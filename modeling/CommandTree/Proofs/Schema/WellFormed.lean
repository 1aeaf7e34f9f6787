import CommandTree.Proofs.Json.RoundTrip
import CommandTree.Proofs.Schema.Description

/-!
# Well-formed schemas

A schema can hold texts that no document may hold, such as `hidden` with a word that is no truth
word.  The well-formed schemas are those that documents describe.

* `Param.WellFormed`, `Entry.WellFormed` and `Schema.WellFormed` say which schemas are.
* `Schema.DescribedBy.wellFormed` : what a document of the grammar describes is well-formed.
* `Schema.KindsApart.toJson_spec` : the document of a schema describes that schema, if no parameter
  has its kind among its attributes.
* `Schema.WellFormed.toJson_spec` : the document of a well-formed schema obeys the grammar and
  describes that schema.
-/

namespace CommandTree

/-- An option with the attributes that a document must have. -/
@[mk_iff]
structure Param.WellFormed (param : Param) : Prop where
  /-- It has a flag. -/
  kind : param.kind = .option
  /-- No attribute of an option is missing. -/
  fields : ∀ key ∈ optionKeys, key ∈ param.attributes.keys
  /-- The kind is not an attribute. -/
  notKind : paramKindKey ∉ param.attributes.keys
  /-- The type is one of two. -/
  type : ∃ word ∈ paramTypeWords, param.get? "type" = some word
  /-- Whether the option must be given is a truth word. -/
  required : ∃ word ∈ truthWords, param.get? "required" = some word

/-- A node whose parameters are well-formed. -/
@[mk_iff]
structure Entry.WellFormed (entry : Entry) : Prop where
  /-- Whether the node is hidden is a truth word. -/
  hidden : entry.hidden ∈ truthWords
  /-- All parameters are well-formed. -/
  params : ∀ param ∈ entry.params, param.WellFormed

/-- A schema all of whose nodes are well-formed. -/
def Schema.WellFormed (schema : Schema) : Prop :=
  ∀ node ∈ schema.preorder, node.2.WellFormed

instance (param : Param) : Decidable param.WellFormed :=
  decidable_of_iff' _ (Param.wellFormed_iff param)

instance (entry : Entry) : Decidable entry.WellFormed :=
  decidable_of_iff' _ (Entry.wellFormed_iff entry)

instance (schema : Schema) : Decidable schema.WellFormed :=
  inferInstanceAs (Decidable (∀ node ∈ schema.preorder, node.2.WellFormed))

/-- The kind of a parameter is not one of its attributes, so that a document can list both. -/
def Param.KindApart (param : Param) : Prop :=
  paramKindKey ∉ param.attributes.keys

/-- A node none of whose parameters has its kind among its attributes. -/
def Entry.KindsApart (entry : Entry) : Prop :=
  ∀ param ∈ entry.params, param.KindApart

/-- A schema none of whose parameters has its kind among its attributes. -/
def Schema.KindsApart (schema : Schema) : Prop :=
  ∀ node ∈ schema.preorder, node.2.KindsApart

theorem Param.WellFormed.exists_get? {param : Param} (h : param.WellFormed) {key : String}
    (hkey : key ∈ optionKeys) : ∃ raw, param.get? key = some raw :=
  Option.isSome_iff_exists.1 (Members.isSome_get?.2 (h.fields key hkey))

theorem Entry.WellFormed.kindsApart {entry : Entry} (h : entry.WellFormed) : entry.KindsApart :=
  fun param hparam => (h.params param hparam).notKind

theorem Schema.WellFormed.kindsApart {schema : Schema} (h : schema.WellFormed) :
    schema.KindsApart :=
  fun node hnode => (h node hnode).kindsApart

/-! ### What documents describe -/

theorem Param.DescribedBy.get?_eq {param : Param} {members : Members Json}
    (h : param.DescribedBy (.object members)) (key : String) :
    (param.get? key).map Json.string = if key = paramKindKey then none else members.get? key := by
  obtain ⟨_, ⟨⟩, -, hattributes⟩ := h
  have hget := members.get?_erase paramKindKey key
  rw [hattributes, Members.get?_map] at hget
  exact hget

theorem Param.DescribedBy.exists_word {param : Param} {members : Members Json}
    (h : param.DescribedBy (.object members)) {key : String} {words : List String}
    (hkey : key ≠ paramKindKey) (hword : HasWord members key words) :
    ∃ word ∈ words, param.get? key = some word := by
  obtain ⟨word, hmem, hget⟩ := hword
  have hparam := h.get?_eq key
  rw [if_neg hkey, hget, Option.map_eq_some_iff] at hparam
  obtain ⟨text, htext, heq⟩ := hparam
  obtain rfl : text = word := by simpa using heq
  exact ⟨text, hmem, htext⟩

theorem Param.DescribedBy.wellFormed {param : Param} {value : Json} (h : param.DescribedBy value)
    (hparam : value.IsParam) : param.WellFormed := by
  obtain ⟨hmembers⟩ := hparam
  rename_i members
  refine ⟨?_, fun key hkey => ?_, ?_, h.exists_word (by decide) hmembers.type,
    h.exists_word (by decide) hmembers.required⟩
  · obtain ⟨_, ⟨⟩, hkind, -⟩ := h
    obtain ⟨word, hmem, hword⟩ := hmembers.kind
    rw [show "param_type" = paramKindKey from rfl, hkind] at hword
    obtain rfl : word = "option" := by simpa [paramKindWords] using hmem
    cases hparam : param.kind with
    | option => rfl
    | argument => simp [hparam, ParamKind.name] at hword
  · have hfield : key ∈ paramFields ∧ key ≠ paramKindKey := by
      revert key
      decide
    obtain ⟨text, hget⟩ := hmembers.texts key (hmembers.fields key hfield.1)
    have hparam := h.get?_eq key
    rw [if_neg hfield.2, hget, Option.map_eq_some_iff] at hparam
    obtain ⟨_, htext, -⟩ := hparam
    exact Members.mem_keys_of_get?_eq_some htext
  · have hparam := h.get?_eq paramKindKey
    rw [if_pos rfl, Option.map_eq_none_iff] at hparam
    exact Members.get?_eq_none.1 hparam

theorem Entry.FieldsIn.wellFormed {entry : Entry} {members : Members Json} {kind : NodeKind}
    {params : List Json} (h : entry.FieldsIn members) (hmembers : NodeMembers members kind)
    (hparams : members.get? "params" = some (.array params))
    (hparam : ∀ param ∈ params, param.IsParam) : entry.WellFormed := by
  refine ⟨?_, ?_⟩
  · obtain ⟨word, hmem, hhidden⟩ := hmembers.hidden
    rw [h.hidden] at hhidden
    cases hhidden
    exact hmem
  · obtain ⟨_, hparams', hdescribed⟩ := h.params
    rw [hparams] at hparams'
    cases hparams'
    exact forall_mem_of_forall₂ hdescribed fun value hmem _ h => h.wellFormed (hparam value hmem)

theorem Entry.DescribedBy.wellFormed {entry : Entry} {value : Json} (h : entry.DescribedBy value)
    (hnode : value.IsNode .command) : entry.WellFormed := by
  obtain ⟨_, rfl, hfields⟩ := h
  cases hnode with
  | command hmembers hparams hparam _ _ => exact hfields.wellFormed hmembers hparams hparam

mutual

theorem Group.DescribedBy.wellFormed : ∀ {group : Group} {value : Json},
    group.DescribedBy value → value.IsNode .group → ∀ node ∈ group.preorder, node.2.WellFormed
  | ⟨entry, groups, commands⟩, value, h, hnode => by
    obtain ⟨_, rfl, hfields, ⟨_, hcommands, hcommand⟩, _, hgroups, hgroup⟩ := h
    cases hnode with
    | group hmembers hparams hparam hcommands' hcommand' hgroups' hgroup' =>
      rw [hcommands] at hcommands'
      rw [hgroups] at hgroups'
      cases hcommands'
      cases hgroups'
      simp only [Group.preorder, List.cons_append, List.forall_mem_cons, List.forall_mem_append,
        List.forall_mem_map]
      exact ⟨hfields.wellFormed hmembers hparams hparam,
        forall_mem_of_forall₂ hcommand fun value hmem _ h => h.wellFormed (hcommand' value hmem),
        hgroup.wellFormed hgroup'⟩

theorem Group.ListDescribedBy.wellFormed : ∀ {groups : List Group} {values : List Json},
    Group.ListDescribedBy values groups → (∀ value ∈ values, value.IsNode .group) →
      ∀ node ∈ Group.preorderList groups, node.2.WellFormed
  | [], _, _, _ => by simp [Group.preorderList]
  | group :: rest, _, h, hnodes => by
    obtain ⟨value, values, rfl, hgroup, hrest⟩ := h
    obtain ⟨hvalue, hvalues⟩ := List.forall_mem_cons.1 hnodes
    simp only [Group.preorderList, List.forall_mem_append]
    exact ⟨hgroup.wellFormed hvalue, hrest.wellFormed hvalues⟩

end

theorem Node.DescribedBy.wellFormed {node : Node} {value : Json} {kind : NodeKind}
    (h : node.DescribedBy value) (hnode : value.IsNode kind) (hplace : value.PlaceKind none kind) :
    ∀ n ∈ node.preorder, n.2.WellFormed := by
  obtain ⟨hstated, hplace', hdescribed⟩ := h
  obtain rfl : node.kind = kind :=
    (Json.nodeKind_eq hstated hplace').symm.trans (Json.nodeKind_eq hnode.stated hplace)
  cases node with
  | group g => exact Group.DescribedBy.wellFormed hdescribed hnode
  | command e =>
    simp only [preorder, List.mem_singleton, forall_eq]
    exact Entry.DescribedBy.wellFormed hdescribed hnode

/-- **What a document of the grammar describes is well-formed.** -/
theorem Schema.DescribedBy.wellFormed {schema : Schema} {value : Json}
    (h : schema.DescribedBy value) (hdocument : value.IsDocument) : schema.WellFormed := by
  obtain ⟨values, rfl, hnodes⟩ := h
  obtain ⟨hvalues⟩ := hdocument
  simp only [WellFormed, preorder, List.forall_mem_flatMap]
  refine forall_mem_of_forall₂ hnodes fun value hmem node hnode => ?_
  obtain ⟨kind, hkind, hplace⟩ := hvalues value hmem
  exact hnode.wellFormed hkind hplace

/-! ### Documents of schemas -/

/-- The members of a parameter in a document. -/
def Param.members (param : Param) : Members Json :=
  (param.attributes.toList.map fun (key, text) => (key, Json.string text)) ++
    [(paramKindKey, .string param.kind.name)]

theorem Param.toJson_eq (param : Param) : param.toJson = .object param.members :=
  rfl

theorem Param.keys_members (param : Param) :
    param.members.keys = param.attributes.keys ++ [paramKindKey] := by
  simp [members, Members.keys, OrderedMap.keys, Function.comp_def]

theorem Param.get?_members (param : Param) (key : String) :
    param.members.get? key = ((param.get? key).map Json.string).or
      (if key = paramKindKey then some (.string param.kind.name) else none) := by
  rw [members, Members.get?_append, Members.get?_map, Members.get?_cons]
  rfl

section Param

variable {param : Param}

theorem Param.KindApart.describedBy_toJson (h : param.KindApart) :
    param.DescribedBy param.toJson := by
  have hnone : param.get? paramKindKey = none := Members.get?_eq_none.2 h
  refine ⟨param.members, param.toJson_eq, ?_, ?_⟩
  · simp [param.get?_members, hnone]
  · have hkeys : paramKindKey ∉ Members.keys
        (param.attributes.toList.map fun (key, text) => (key, Json.string text)) := by
      simpa [KindApart, Members.keys, OrderedMap.keys, Function.comp_def] using h
    rw [members, Members.erase_append, Members.erase_of_notMem hkeys]
    simp [Members.erase]

theorem Param.KindApart.readable_toJson (h : param.KindApart) : param.toJson.Readable := by
  rw [param.toJson_eq]
  refine .object ?_ fun member hmember => ?_
  · rw [param.keys_members, List.nodup_append]
    refine ⟨param.attributes.distinct, by simp, ?_⟩
    rintro key hkey _ hkind rfl
    rw [List.mem_singleton.1 hkind] at hkey
    exact h hkey
  · simp only [members, List.mem_append, List.mem_map, List.mem_singleton] at hmember
    obtain ⟨⟨key, text⟩, -, rfl⟩ | rfl := hmember
    · exact .string text
    · exact .string _

theorem Param.WellFormed.isParam_toJson (h : param.WellFormed) : param.toJson.IsParam := by
  rw [param.toJson_eq]
  refine .mk ⟨fun key hkey => ?_, fun field hfield => ?_, ?_, ?_, ?_⟩
  · rw [HasText, param.get?_members]
    cases hget : param.get? key with
    | some text => exact ⟨text, rfl⟩
    | none =>
      have hkind : key = paramKindKey := by
        rw [param.keys_members, List.mem_append, List.mem_singleton] at hkey
        exact hkey.resolve_left (Members.get?_eq_none.1 hget)
      exact ⟨param.kind.name, by simp [hkind]⟩
  · rw [param.keys_members, List.mem_append, List.mem_singleton]
    have hfield' : field ∈ optionKeys ∨ field = paramKindKey := by
      revert field
      decide
    exact hfield'.imp_left (h.fields field)
  · obtain ⟨word, hmem, hget⟩ := h.type
    exact ⟨word, hmem, by simp [param.get?_members, hget]⟩
  · obtain ⟨word, hmem, hget⟩ := h.required
    exact ⟨word, hmem, by simp [param.get?_members, hget]⟩
  · have hnone : param.get? "param_type" = none := Members.get?_eq_none.2 h.notKind
    refine ⟨"option", by simp [paramKindWords], ?_⟩
    simp [param.get?_members, hnone, paramKindKey, h.kind, ParamKind.name]

end Param

namespace Entry

/-- The members of a node in a document, with the lists of nodes below it. -/
def members (entry : Entry) (lists : Members Json) : Members Json :=
  entry.headMembers ++ lists ++ [entry.paramsMember]

variable {entry : Entry} {lists : Members Json}

theorem keys_members (entry : Entry) (lists : Members Json) :
    (entry.members lists).keys = ["name", "help"] ++
      (entry.permission.map fun _ => "permission").toList ++ ["hidden"] ++ lists.keys ++
        ["params"] := by
  cases hpermission : entry.permission <;>
    simp [members, headMembers, paramsMember, Members.keys, hpermission]

theorem get?_headMembers (entry : Entry) (key : String) :
    entry.headMembers.get? key =
      if key = "name" then some (.string entry.name)
      else if key = "help" then some (.string entry.help)
      else if key = "permission" then entry.permission.map .string
      else if key = "hidden" then some (.string entry.hidden)
      else none := by
  cases hpermission : entry.permission with
  | none =>
    by_cases hkey : key = "permission"
    · simp [headMembers, hpermission, Members.get?_cons, hkey]
    · simp [headMembers, hpermission, Members.get?_cons, hkey]
  | some text => simp [headMembers, hpermission, Members.get?_cons]

/-- Lists of nodes do not hide what the node says about itself. -/
def ListsOnly (lists : Members Json) : Prop :=
  ∀ key ∈ lists.keys, key ∈ ["groups", "commands"]

theorem get?_members (hlists : ListsOnly lists) (key : String) :
    (entry.members lists).get? key =
      if key ∈ ["groups", "commands"] then lists.get? key
      else if key = "params" then some (.array (entry.params.map Param.toJson))
      else entry.headMembers.get? key := by
  rw [members, Members.get?_append, Members.get?_append, paramsMember, Members.get?_cons,
    Members.get?_nil, get?_headMembers]
  by_cases hkey : key ∈ ["groups", "commands"]
  · rw [if_pos hkey]
    simp only [List.mem_cons, List.not_mem_nil, or_false] at hkey
    obtain rfl | rfl := hkey <;> simp
  · rw [if_neg hkey, Members.get?_eq_none.2 fun hmem => hkey (hlists key hmem)]
    by_cases hparams : key = "params"
    · simp [hparams]
    · simp [hparams]

theorem get?_lists_members (hlists : ListsOnly lists) {key : String}
    (hkey : key ∈ ["groups", "commands"]) : (entry.members lists).get? key = lists.get? key := by
  rw [get?_members hlists, if_pos hkey]

theorem get?_params_members (hlists : ListsOnly lists) :
    (entry.members lists).get? "params" = some (.array (entry.params.map Param.toJson)) := by
  simp [get?_members hlists]

theorem WellFormed.isParam_of_mem (h : entry.WellFormed) :
    ∀ value ∈ entry.params.map Param.toJson, value.IsParam := by
  intro value hvalue
  obtain ⟨param, hparam, rfl⟩ := List.mem_map.1 hvalue
  exact (h.params param hparam).isParam_toJson

theorem KindsApart.fieldsIn_members (h : entry.KindsApart) (hlists : ListsOnly lists) :
    entry.FieldsIn (entry.members lists) := by
  refine ⟨?_, ?_, ?_, ?_, entry.params.map Param.toJson, ?_, ?_⟩
  · simp [get?_members hlists, get?_headMembers]
  · simp [get?_members hlists, get?_headMembers]
  · simp [get?_members hlists, get?_headMembers]
  · simp [get?_members hlists, get?_headMembers]
  · exact get?_params_members hlists
  · rw [List.forall₂_map_left_iff, List.forall₂_same]
    exact fun param hparam => (h param hparam).describedBy_toJson

theorem WellFormed.nodeMembers (h : entry.WellFormed) (hlists : ListsOnly lists)
    (kind : NodeKind) : NodeMembers (entry.members lists) kind := by
  have hfields := h.kindsApart.fieldsIn_members hlists
  refine ⟨?_, ⟨_, hfields.name⟩, ⟨_, hfields.help⟩, ⟨_, h.hidden, hfields.hidden⟩, fun hmem => ?_⟩
  · simp [get?_members hlists, get?_headMembers]
  · rw [← Members.isSome_get?, hfields.permission] at hmem
    cases hpermission : entry.permission with
    | none => simp [hpermission] at hmem
    | some text => exact ⟨text, by rw [hfields.permission, hpermission]; rfl⟩

theorem readable_headMembers (entry : Entry) :
    ∀ member ∈ entry.headMembers, member.2.Readable := by
  intro member hmember
  simp only [headMembers, List.mem_append, List.mem_cons, List.not_mem_nil, or_false,
    Option.mem_toList, Option.map_eq_some_iff] at hmember
  obtain ((rfl | rfl) | ⟨text, -, rfl⟩) | rfl := hmember
  · exact .string entry.name
  · exact .string entry.help
  · exact .string text
  · exact .string entry.hidden

theorem nodup_keys_members (hlists : ListsOnly lists) (hkeys : lists.keys.Nodup) :
    (entry.members lists).keys.Nodup := by
  have hother : ∀ key ∉ ["groups", "commands"], key ∉ lists.keys :=
    fun key hkey hmem => hkey (hlists key hmem)
  have hparams : ∀ key ∈ lists.keys, key ≠ "params" := by
    rintro key hmem rfl
    exact hother "params" (by decide) hmem
  rw [keys_members]
  cases entry.permission <;>
    simpa [List.nodup_append, hkeys, hother "name", hother "help", hother "permission",
      hother "hidden"] using hparams

theorem KindsApart.readable_members (h : entry.KindsApart) (hlists : ListsOnly lists)
    (hkeys : lists.keys.Nodup) (hreadable : ∀ member ∈ lists, member.2.Readable) :
    (Json.object (entry.members lists)).Readable := by
  refine .object (nodup_keys_members hlists hkeys) ?_
  simp only [members, List.forall_mem_append, List.forall_mem_singleton]
  refine ⟨⟨entry.readable_headMembers, hreadable⟩, .array fun value hvalue => ?_⟩
  obtain ⟨param, hparam, rfl⟩ := List.mem_map.1 hvalue
  exact (h param hparam).readable_toJson

theorem toJson_eq (entry : Entry) : entry.toJson = .object (entry.members []) := by
  simp [toJson, members]

theorem listsOnly_nil : ListsOnly [] := by
  simp [ListsOnly, Members.keys]

theorem WellFormed.isNode_toJson (h : entry.WellFormed) : entry.toJson.IsNode .command := by
  rw [entry.toJson_eq]
  refine .command (h.nodeMembers listsOnly_nil .command) (get?_params_members listsOnly_nil)
    h.isParam_of_mem ?_ ?_
  · exact Members.get?_eq_none.1 (get?_lists_members listsOnly_nil (by decide))
  · exact Members.get?_eq_none.1 (get?_lists_members listsOnly_nil (by decide))

theorem KindsApart.describedBy_toJson (h : entry.KindsApart) : entry.DescribedBy entry.toJson :=
  ⟨_, entry.toJson_eq, h.fieldsIn_members listsOnly_nil⟩

theorem KindsApart.readable_toJson (h : entry.KindsApart) : entry.toJson.Readable := by
  rw [entry.toJson_eq]
  exact h.readable_members listsOnly_nil (by simp [Members.keys]) (by simp)

end Entry

namespace Group

/-- The members of a group that list the nodes directly below it. -/
def lists (groups : List Group) (commands : List Entry) : Members Json :=
  [("groups", .array (toJsonList groups)), ("commands", .array (commands.map Entry.toJson))]

theorem toJson_eq (entry : Entry) (groups : List Group) (commands : List Entry) :
    toJson ⟨entry, groups, commands⟩ = .object (entry.members (lists groups commands)) := by
  simp [toJson, Entry.members, lists]

theorem listsOnly_lists (groups : List Group) (commands : List Entry) :
    Entry.ListsOnly (lists groups commands) := by
  simp [Entry.ListsOnly, lists, Members.keys]

theorem get?_commands_members (entry : Entry) (groups : List Group) (commands : List Entry) :
    (entry.members (lists groups commands)).get? "commands" =
      some (.array (commands.map Entry.toJson)) := by
  rw [Entry.get?_lists_members (listsOnly_lists groups commands) (by decide)]
  simp [lists, Members.get?_cons]

theorem get?_groups_members (entry : Entry) (groups : List Group) (commands : List Entry) :
    (entry.members (lists groups commands)).get? "groups" = some (.array (toJsonList groups)) := by
  rw [Entry.get?_lists_members (listsOnly_lists groups commands) (by decide)]
  simp [lists, Members.get?_cons]

mutual

theorem isNode_toJson : ∀ {group : Group}, (∀ node ∈ group.preorder, node.2.WellFormed) →
    group.toJson.IsNode .group
  | ⟨entry, groups, commands⟩, h => by
    simp only [preorder, List.cons_append, List.forall_mem_cons, List.forall_mem_append,
      List.forall_mem_map] at h
    obtain ⟨hentry, hcommands, hgroups⟩ := h
    have hlists := listsOnly_lists groups commands
    rw [toJson_eq]
    refine .group (hentry.nodeMembers hlists .group) (Entry.get?_params_members hlists)
      hentry.isParam_of_mem (get?_commands_members entry groups commands)
      (List.forall_mem_map.2 fun command hcommand => ?_) (get?_groups_members entry groups commands)
      (isNode_toJsonList hgroups)
    exact (hcommands command hcommand).isNode_toJson

theorem isNode_toJsonList : ∀ {groups : List Group},
    (∀ node ∈ preorderList groups, node.2.WellFormed) →
      ∀ value ∈ toJsonList groups, value.IsNode .group
  | [], _ => by simp [toJsonList]
  | group :: rest, h => by
    rw [preorderList, List.forall_mem_append] at h
    rw [toJsonList]
    exact List.forall_mem_cons.2 ⟨isNode_toJson h.1, isNode_toJsonList h.2⟩

end

mutual

theorem toJson_spec : ∀ {group : Group}, (∀ node ∈ group.preorder, node.2.KindsApart) →
    group.DescribedBy group.toJson ∧ group.toJson.Readable
  | ⟨entry, groups, commands⟩, h => by
    simp only [preorder, List.cons_append, List.forall_mem_cons, List.forall_mem_append,
      List.forall_mem_map] at h
    obtain ⟨hentry, hcommands, hgroups⟩ := h
    obtain ⟨hdescribed, hreadable⟩ := toJsonList_spec hgroups
    have hlists := listsOnly_lists groups commands
    rw [toJson_eq]
    constructor
    · refine ⟨_, rfl, hentry.fieldsIn_members hlists,
        ⟨_, get?_commands_members entry groups commands, ?_⟩, _,
        get?_groups_members entry groups commands, hdescribed⟩
      rw [List.forall₂_map_left_iff, List.forall₂_same]
      exact fun command hcommand => (hcommands command hcommand).describedBy_toJson
    · refine hentry.readable_members hlists (by simp [lists, Members.keys]) ?_
      simp only [lists, List.forall_mem_cons]
      refine ⟨.array hreadable, .array (List.forall_mem_map.2 fun command hcommand => ?_), by simp⟩
      exact (hcommands command hcommand).readable_toJson

theorem toJsonList_spec : ∀ {groups : List Group},
    (∀ node ∈ preorderList groups, node.2.KindsApart) →
      ListDescribedBy (toJsonList groups) groups ∧ ∀ value ∈ toJsonList groups, value.Readable
  | [], _ => by simp [toJsonList, ListDescribedBy]
  | group :: rest, h => by
    rw [preorderList, List.forall_mem_append] at h
    obtain ⟨hdescribed, hreadable⟩ := toJson_spec h.1
    obtain ⟨hdescribeds, hreadables⟩ := toJsonList_spec h.2
    rw [toJsonList]
    exact ⟨⟨_, _, rfl, hdescribed, hdescribeds⟩, List.forall_mem_cons.2 ⟨hreadable, hreadables⟩⟩

end

end Group

namespace Node

variable {node : Node}

/-- A node does not state its kind in a document, and has the member `groups` exactly if it is a
group. -/
theorem member?_toJson (node : Node) : node.toJson.member? "kind" = none ∧
    ((node.toJson.member? "groups").isSome ↔ node.kind = .group) := by
  obtain ⟨entry, groups, commands⟩ | entry := node
  · have hlists := Group.listsOnly_lists groups commands
    simp only [toJson, Group.toJson_eq, Json.member?, Group.get?_groups_members]
    simp [kind, Entry.get?_members hlists, Entry.get?_headMembers]
  · simp [toJson, Entry.toJson_eq, Json.member?, kind, Entry.get?_members Entry.listsOnly_nil,
      Entry.get?_headMembers]

theorem placeKind_toJson (node : Node) : node.toJson.PlaceKind none node.kind :=
  fun _ => node.member?_toJson.2.symm

theorem isNode_toJson (h : ∀ n ∈ node.preorder, n.2.WellFormed) :
    node.toJson.IsNode node.kind := by
  cases node with
  | group g => exact Group.isNode_toJson h
  | command e =>
    have hentry : e.WellFormed := by simpa [preorder] using h
    exact hentry.isNode_toJson

theorem toJson_spec (h : ∀ n ∈ node.preorder, n.2.KindsApart) :
    node.DescribedBy node.toJson ∧ node.toJson.Readable := by
  have hstated : ∀ stated ∈ node.toJson.member? "kind", stated = .string node.kind.name := by
    simp [node.member?_toJson.1]
  have hplace := node.placeKind_toJson
  cases node with
  | group g =>
    obtain ⟨hdescribed, hreadable⟩ := Group.toJson_spec h
    exact ⟨⟨hstated, hplace, hdescribed⟩, hreadable⟩
  | command e =>
    have hentry : e.KindsApart := by simpa [preorder] using h
    exact ⟨⟨hstated, hplace, hentry.describedBy_toJson⟩, hentry.readable_toJson⟩

end Node

namespace Schema

variable {schema : Schema}

/-- The document of a schema describes the schema and can be read back from its text, if no
parameter has its kind among its attributes. -/
theorem KindsApart.toJson_spec (h : schema.KindsApart) :
    schema.DescribedBy schema.toJson ∧ schema.toJson.Readable := by
  have hnodes : ∀ node ∈ schema.nodes, node.DescribedBy node.toJson ∧ node.toJson.Readable :=
    fun node hnode => Node.toJson_spec (List.forall_mem_flatMap.1 h node hnode)
  refine ⟨⟨_, rfl, ?_⟩, .array ?_⟩
  · rw [List.forall₂_map_left_iff, List.forall₂_same]
    exact fun node hnode => (hnodes node hnode).1
  · rw [List.forall_mem_map]
    exact fun node hnode => (hnodes node hnode).2

/-- **The document of a well-formed schema obeys the grammar, it describes the schema, and it can be
read back from its text.** -/
theorem WellFormed.toJson_spec (h : schema.WellFormed) :
    schema.toJson.IsDocument ∧ schema.DescribedBy schema.toJson ∧ schema.toJson.Readable := by
  refine ⟨.mk ?_, h.kindsApart.toJson_spec⟩
  rw [List.forall_mem_map]
  intro node hnode
  exact ⟨node.kind, Node.isNode_toJson (List.forall_mem_flatMap.1 h node hnode),
    node.placeKind_toJson⟩

/-- A document that describes its own schema obeys the grammar exactly if the schema is
well-formed. -/
theorem KindsApart.isDocument_toJson (h : schema.KindsApart) :
    schema.toJson.IsDocument ↔ schema.WellFormed :=
  ⟨fun hdocument => h.toJson_spec.1.wellFormed hdocument, fun h => h.toJson_spec.1⟩

end Schema

end CommandTree
