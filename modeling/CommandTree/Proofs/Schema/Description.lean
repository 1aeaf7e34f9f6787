import CommandTree.Proofs.Schema.Grammar
import CommandTree.Schema.Loading

/-!
# What a document describes

A document that obeys the grammar describes a schema: the members of its objects are the fields of
the nodes, and the items of its arrays are the nodes themselves.

* `Param.DescribedBy`, `Entry.DescribedBy`, `Group.DescribedBy` and `Schema.DescribedBy` relate a
  document to what it describes.
* `Json.IsDocument.exists_describedBy` : every document of the grammar describes a schema.
* `Schema.DescribedBy.ofJsonList_eq` : reading a document gives what it describes.
-/

namespace CommandTree

/-! ### Descriptions -/

/-- A parameter consists of its kind and of all other members as attributes, in order. -/
def Param.DescribedBy (value : Json) (param : Param) : Prop :=
  ∃ members : Members Json, value = .object members ∧
    members.get? paramKindKey = some (.string param.kind.name) ∧
    members.erase paramKindKey =
      param.attributes.toList.map fun (key, text) => (key, .string text)

/-- What a node says about itself stands under the names of its fields. -/
structure Entry.FieldsIn (members : Members Json) (entry : Entry) : Prop where
  /-- The name. -/
  name : members.get? "name" = some (.string entry.name)
  /-- The help. -/
  help : members.get? "help" = some (.string entry.help)
  /-- The permission, if there is one. -/
  permission : members.get? "permission" = entry.permission.map .string
  /-- Whether the node is hidden. -/
  hidden : members.get? "hidden" = some (.string entry.hidden)
  /-- The parameters, in order. -/
  params : ∃ params, members.get? "params" = some (.array params) ∧
    List.Forall₂ Param.DescribedBy params entry.params

/-- A command consists of its fields. -/
def Entry.DescribedBy (value : Json) (entry : Entry) : Prop :=
  ∃ members, value = .object members ∧ entry.FieldsIn members

mutual

/-- A group consists of its fields and of the groups and commands in its lists. -/
def Group.DescribedBy (value : Json) : Group → Prop
  | ⟨entry, groups, commands⟩ =>
    ∃ members : Members Json, value = .object members ∧ entry.FieldsIn members ∧
      (∃ values, members.get? "commands" = some (.array values) ∧
        List.Forall₂ Entry.DescribedBy values commands) ∧
      ∃ values, members.get? "groups" = some (.array values) ∧
        Group.ListDescribedBy values groups

/-- The items of an array are some groups, one by one. -/
def Group.ListDescribedBy (values : List Json) : List Group → Prop
  | [] => values = []
  | group :: rest => ∃ value values', values = value :: values' ∧ group.DescribedBy value ∧
      Group.ListDescribedBy values' rest

end

theorem Group.listDescribedBy_iff {values : List Json} {groups : List Group} :
    ListDescribedBy values groups ↔ List.Forall₂ DescribedBy values groups := by
  induction groups generalizing values with
  | nil => simp [ListDescribedBy]
  | cons group rest ih =>
    simp only [ListDescribedBy, ih, List.forall₂_cons_right_iff]
    constructor
    · rintro ⟨value, values', rfl, hgroup, hrest⟩
      exact ⟨value, values', hgroup, hrest, rfl⟩
    · rintro ⟨value, values', hgroup, hrest, rfl⟩
      exact ⟨value, values', rfl, hgroup, hrest⟩

/-- A top-level node has the kind that it states or that its members suggest. -/
def Node.DescribedBy (value : Json) (node : Node) : Prop :=
  (∀ stated ∈ value.member? "kind", stated = .string node.kind.name) ∧
    value.PlaceKind none node.kind ∧
    match node with
    | .group g => g.DescribedBy value
    | .command e => e.DescribedBy value

/-- A schema consists of the items of an array. -/
def Schema.DescribedBy (value : Json) (schema : Schema) : Prop :=
  ∃ values, value = .array values ∧ List.Forall₂ Node.DescribedBy values schema.nodes

/-! ### Parameters -/

theorem ParamKind.ofName?_name (kind : ParamKind) : ofName? kind.name = some kind := by
  cases kind <;> rfl

theorem Param.DescribedBy.ofJson_eq {value : Json} {param : Param} (h : param.DescribedBy value) :
    Param.ofJson value = .ok param := by
  obtain ⟨members, rfl, hkind, hattributes⟩ := h
  simp only [Param.ofJson, hkind, ParamKind.ofJson, ParamKind.ofJson.named,
    ParamKind.ofName?_name, ok_bind]
  refine bind_eq_ok.2 ⟨param.attributes.toList, ?_, ?_⟩
  · rw [hattributes, mapM_eq_ok, List.forall₂_map_left_iff, List.forall₂_same]
    rintro ⟨key, text⟩ -
    rfl
  · rw [OrderedMap.ofList_toList]
    rfl

theorem Param.ofJsonList_eq {values : List Json} {params : List Param}
    (h : List.Forall₂ Param.DescribedBy values params) :
    Param.ofJsonList (.array values) = .ok params :=
  mapM_eq_ok.2 (h.imp fun _ _ hparam => hparam.ofJson_eq)

/-! ### Reading members in any order -/

/-- The fields of a draft that have been read when some members have. -/
def NodeDraft.only (draft : NodeDraft) (fields : List String) : NodeDraft where
  name := if "name" ∈ fields then draft.name else none
  help := if "help" ∈ fields then draft.help else none
  permission := if "permission" ∈ fields then draft.permission else none
  hidden := if "hidden" ∈ fields then draft.hidden else none
  groups := if "groups" ∈ fields then draft.groups else none
  commands := if "commands" ∈ fields then draft.commands else none
  params := if "params" ∈ fields then draft.params else none

/-- The draft of a node that has been read completely. -/
def Entry.draft (entry : Entry) (groups : Option (List Group)) (commands : Option (List Entry)) :
    NodeDraft where
  name := some entry.name
  help := some entry.help
  permission := entry.permission
  hidden := some entry.hidden
  groups := groups
  commands := commands
  params := some entry.params

namespace Entry.FieldsIn

variable {members : Members Json} {entry : Entry}

/-- A member that is not a list of nodes adds its field to the draft. -/
theorem readEntryField_eq (h : entry.FieldsIn members) {field : String} {value : Json}
    (hget : members.get? field = some value) {groups : Option (List Group)}
    {commands : Option (List Entry)} (hgroups : field = "groups" → groups = none)
    (hcommands : field = "commands" → commands = none) (fields : List String) :
    ((entry.draft groups commands).only fields).readEntryField field value =
      .ok ((entry.draft groups commands).only (fields ++ [field])) := by
  unfold NodeDraft.readEntryField
  split
  · obtain rfl : value = _ := Option.some.inj (hget.symm.trans h.name)
    simp [decodeString, NodeDraft.only, draft, pure_eq_ok]
  · obtain rfl : value = _ := Option.some.inj (hget.symm.trans h.help)
    simp [decodeString, NodeDraft.only, draft, pure_eq_ok]
  · have hpermission := hget.symm.trans h.permission
    cases hentry : entry.permission with
    | none => simp [hentry] at hpermission
    | some text =>
      obtain rfl : value = .string text := by simpa [hentry] using hpermission
      simp [decodeString?, decodeString, Except.map, NodeDraft.only, draft, hentry, pure_eq_ok]
  · obtain rfl : value = _ := Option.some.inj (hget.symm.trans h.hidden)
    simp [decodeString, NodeDraft.only, draft, pure_eq_ok]
  · obtain ⟨params, hparams, hdescribed⟩ := h.params
    obtain rfl : value = _ := Option.some.inj (hget.symm.trans hparams)
    simp [Param.ofJsonList_eq hdescribed, NodeDraft.only, draft, pure_eq_ok]
  · rename_i hname hhelp hpermission hhidden hparams
    have hnone : (if "groups" ∈ fields ++ [field] then groups else none) =
        if "groups" ∈ fields then groups else none := by
      by_cases hfield : "groups" = field
      · simp [hgroups hfield.symm]
      · simp [hfield]
    have hnone' : (if "commands" ∈ fields ++ [field] then commands else none) =
        if "commands" ∈ fields then commands else none := by
      by_cases hfield : "commands" = field
      · simp [hcommands hfield.symm]
      · simp [hfield]
    simp only [NodeDraft.only, draft, hnone, hnone']
    simp [Ne.symm hname, Ne.symm hhelp, Ne.symm hpermission, Ne.symm hhidden, Ne.symm hparams,
      pure_eq_ok]

/-- All members together give the whole draft. -/
theorem only_keys (h : entry.FieldsIn members) {groups : Option (List Group)}
    {commands : Option (List Entry)} (hgroups : groups = none ∨ "groups" ∈ members.keys)
    (hcommands : commands = none ∨ "commands" ∈ members.keys) :
    (entry.draft groups commands).only members.keys = entry.draft groups commands := by
  obtain ⟨params, hparams, -⟩ := h.params
  have hpermission : (if "permission" ∈ members.keys then entry.permission else none) =
      entry.permission := by
    cases hentry : entry.permission with
    | none => simp
    | some text =>
      have hget := h.permission
      rw [hentry] at hget
      simp [Members.mem_keys_of_get?_eq_some hget]
  have hgroups : (if "groups" ∈ members.keys then groups else none) = groups := by
    obtain rfl | hmem := hgroups <;> simp [*]
  have hcommands : (if "commands" ∈ members.keys then commands else none) = commands := by
    obtain rfl | hmem := hcommands <;> simp [*]
  simp [NodeDraft.only, draft, hpermission, hgroups, hcommands,
    Members.mem_keys_of_get?_eq_some h.name, Members.mem_keys_of_get?_eq_some h.help,
    Members.mem_keys_of_get?_eq_some h.hidden, Members.mem_keys_of_get?_eq_some hparams]

end Entry.FieldsIn

/-! ### Commands -/

theorem NodeDraft.readEntryMembers_cons (draft : NodeDraft) (member : String × Json)
    (rest : Members Json) :
    draft.readEntryMembers (member :: rest) =
      draft.readEntryField member.1 member.2 >>= (readEntryMembers · rest) :=
  rfl

theorem NodeDraft.readEntryMembers_eq {draft : NodeDraft} {members : Members Json}
    (h : ∀ member ∈ members, ∀ fields, (draft.only fields).readEntryField member.1 member.2 =
      .ok (draft.only (fields ++ [member.1]))) (fields : List String) :
    (draft.only fields).readEntryMembers members =
      .ok (draft.only (fields ++ Members.keys members)) := by
  induction members generalizing fields with
  | nil =>
    rw [Members.keys, List.map_nil, List.append_nil]
    rfl
  | cons member rest ih =>
    obtain ⟨hmember, hrest⟩ := List.forall_mem_cons.1 h
    rw [readEntryMembers_cons, hmember fields, ok_bind, ih hrest]
    simp [Members.keys]

theorem NodeDraft.only_nil (draft : NodeDraft) : draft.only [] = {} := by
  simp [only]

theorem Entry.DescribedBy.ofJson_eq {value : Json} {entry : Entry} (h : entry.DescribedBy value)
    (distinct : value.DistinctKeys) : Entry.ofJson value = .ok entry := by
  obtain ⟨members, rfl, hfields⟩ := h
  have hread : NodeDraft.readEntryMembers {} members = .ok (entry.draft none none) := by
    rw [← hfields.only_keys (.inl rfl) (.inl rfl), ← (entry.draft none none).only_nil]
    refine NodeDraft.readEntryMembers_eq (fun member hmember fields => ?_) []
    exact hfields.readEntryField_eq (Members.get?_eq_some_of_mem distinct.keys_nodup hmember)
      (fun _ => rfl) (fun _ => rfl) fields
  simp only [Entry.ofJson, hread, ok_bind]
  rfl

theorem Entry.ofJsonList_eq {values : List Json} {entries : List Entry}
    (h : List.Forall₂ DescribedBy values entries)
    (distinct : ∀ value ∈ values, value.DistinctKeys) :
    Entry.ofJsonList (.array values) = .ok entries := by
  refine mapM_eq_ok.2 ?_
  induction h with
  | nil => exact .nil
  | cons hentry _ ih =>
    obtain ⟨hvalue, hvalues⟩ := List.forall_mem_cons.1 distinct
    exact .cons (hentry.ofJson_eq hvalue) (ih hvalues)

/-! ### Groups -/

/-- Every member of a group adds its field to the draft. -/
theorem Entry.FieldsIn.readField_eq {members : Members Json} {entry : Entry}
    (h : entry.FieldsIn members) {groups : List Group} {commands : List Entry}
    (hgroups : ∀ value ∈ members.get? "groups", Group.ofJsonList value = .ok groups)
    (hcommands : ∀ value ∈ members.get? "commands", Entry.ofJsonList value = .ok commands)
    {field : String} {value : Json} (hget : members.get? field = some value)
    (fields : List String) :
    Group.readField ((entry.draft (some groups) (some commands)).only fields) field value =
      .ok ((entry.draft (some groups) (some commands)).only (fields ++ [field])) := by
  unfold Group.readField
  split
  · simp [hgroups value hget, NodeDraft.only, draft, pure_eq_ok]
  · simp [hcommands value hget, NodeDraft.only, draft, pure_eq_ok]
  · rename_i hne hne'
    exact h.readEntryField_eq hget (fun hfield => absurd hfield hne)
      (fun hfield => absurd hfield hne') fields

theorem Group.readMembers_eq {draft : NodeDraft} {members : Members Json}
    (h : ∀ member ∈ members, ∀ fields, readField (draft.only fields) member.1 member.2 =
      .ok (draft.only (fields ++ [member.1]))) (fields : List String) :
    readMembers (draft.only fields) members =
      .ok (draft.only (fields ++ Members.keys members)) := by
  induction members generalizing fields with
  | nil => simp [readMembers, Members.keys]
  | cons member rest ih =>
    obtain ⟨hmember, hrest⟩ := List.forall_mem_cons.1 h
    rw [readMembers, hmember fields, ok_bind, ih hrest]
    simp [Members.keys]

mutual

theorem Group.DescribedBy.ofJson_eq : ∀ {group : Group} {value : Json},
    group.DescribedBy value → value.DistinctKeys → Group.ofJson value = .ok group
  | ⟨entry, groups, commands⟩, value, h, distinct => by
    obtain ⟨members, rfl, hfields, ⟨commandValues, hcommands, hcommand⟩, groupValues, hgroups,
      hgroup⟩ := h
    have hreadCommands : Entry.ofJsonList (.array commandValues) = .ok commands :=
      Entry.ofJsonList_eq hcommand fun _ => (distinct.of_get? hcommands).of_mem
    have hreadGroups : Group.ofItems groupValues = .ok groups :=
      hgroup.ofItems_eq fun _ => (distinct.of_get? hgroups).of_mem
    have hread : Group.readMembers {} members =
        .ok (entry.draft (some groups) (some commands)) := by
      rw [← hfields.only_keys (.inr (Members.mem_keys_of_get?_eq_some hgroups))
        (.inr (Members.mem_keys_of_get?_eq_some hcommands)), ← NodeDraft.only_nil]
      refine Group.readMembers_eq (fun member hmember fields => ?_) []
      refine hfields.readField_eq (fun value hvalue => ?_) (fun value hvalue => ?_)
        (Members.get?_eq_some_of_mem distinct.keys_nodup hmember) fields
      · obtain rfl : _ = value := Option.some.inj (hgroups.symm.trans hvalue)
        rw [Group.ofJsonList, hreadGroups]
      · obtain rfl : _ = value := Option.some.inj (hcommands.symm.trans hvalue)
        exact hreadCommands
    simp only [Group.ofJson, hread, ok_bind]
    rfl

theorem Group.ListDescribedBy.ofItems_eq : ∀ {groups : List Group} {values : List Json},
    Group.ListDescribedBy values groups → (∀ value ∈ values, value.DistinctKeys) →
      Group.ofItems values = .ok groups
  | [], _, h, _ => by
    obtain rfl := h
    simp [Group.ofItems]
  | group :: rest, _, h, distinct => by
    obtain ⟨value, values, rfl, hgroup, hrest⟩ := h
    obtain ⟨hvalue, hvalues⟩ := List.forall_mem_cons.1 distinct
    rw [Group.ofItems, hgroup.ofJson_eq hvalue, hrest.ofItems_eq hvalues]
    rfl

end

/-! ### Whole documents -/

theorem Json.IsNode.stated {kind : NodeKind} {value : Json} (h : value.IsNode kind) :
    ∀ stated ∈ value.member? "kind", stated = .string kind.name := by
  cases h with
  | command hmembers => exact hmembers.kind
  | group hmembers => exact hmembers.kind

/-- The kind of a top-level node is determined. -/
theorem Json.nodeKind_eq {value : Json} {kind : NodeKind}
    (hstated : ∀ stated ∈ value.member? "kind", stated = .string kind.name)
    (hplace : value.PlaceKind none kind) : value.nodeKind = kind := by
  unfold Json.nodeKind
  cases hget : value.member? "kind" with
  | none =>
    have hgroup := hplace hget
    cases kind <;> simp_all
  | some stated =>
    have hname : NodeKind.ofName? kind.name = some kind := NodeKind.ofName?_eq_some.2 rfl
    simp [hstated stated hget, Json.text?, hname]

theorem Node.DescribedBy.ofJson_eq {value : Json} {node : Node} (h : node.DescribedBy value)
    (distinct : value.DistinctKeys) : Node.ofJson value = .ok node := by
  have hkind := Json.nodeKind_eq h.1 h.2.1
  cases node with
  | group g =>
    rw [Node.ofJson, hkind]
    simp only [kind, h.2.2.ofJson_eq distinct]
    rfl
  | command e =>
    rw [Node.ofJson, hkind]
    simp only [kind, h.2.2.ofJson_eq distinct]
    rfl

theorem Schema.DescribedBy.ofJsonList_eq {values : List Json} {nodes : List Node}
    (h : List.Forall₂ Node.DescribedBy values nodes)
    (distinct : ∀ value ∈ values, value.DistinctKeys) (index : Nat) :
    Node.ofJsonList index values = .ok nodes := by
  induction h generalizing index with
  | nil => rfl
  | cons hnode _ ih =>
    obtain ⟨hvalue, hvalues⟩ := List.forall_mem_cons.1 distinct
    rw [Node.ofJsonList, hnode.ofJson_eq hvalue]
    simp only [ih hvalues, ok_bind]
    rfl

/-! ### Every document of the grammar describes something -/

theorem Json.IsParam.exists_describedBy {value : Json} (h : value.IsParam)
    (distinct : value.DistinctKeys) : ∃ param : Param, param.DescribedBy value := by
  obtain ⟨hmembers⟩ := h
  rename_i members
  obtain ⟨word, hword, hkind⟩ := hmembers.kind
  obtain rfl : word = "option" := by simpa [paramKindWords] using hword
  have htext : ∀ member ∈ members.erase paramKindKey,
      ∃ pair : String × String, member = (pair.1, .string pair.2) := by
    rintro ⟨key, value⟩ hmember
    have hmem : (key, value) ∈ members := List.mem_of_mem_filter hmember
    obtain ⟨text, hget⟩ := hmembers.texts key (List.mem_map_of_mem hmem)
    rw [Members.get?_eq_some_of_mem distinct.keys_nodup hmem] at hget
    exact ⟨(key, text), by rw [Option.some.inj hget]⟩
  obtain ⟨attributes, hattributes⟩ := exists_forall₂ htext
  rw [← List.forall₂_map_right_iff, List.forall₂_eq_eq_eq] at hattributes
  have hkeys : (Members.keys attributes).Nodup := by
    have := Members.nodup_keys_erase paramKindKey distinct.keys_nodup
    simpa [hattributes, Members.keys, Function.comp_def] using this
  exact ⟨⟨.option, ⟨attributes, hkeys⟩⟩, members, rfl, hkind, hattributes⟩

/-- The fields of a node that obeys the grammar. -/
theorem NodeMembers.exists_fieldsIn {members : Members Json} {kind : NodeKind}
    (h : NodeMembers members kind) {params : List Json}
    (hparams : members.get? "params" = some (.array params))
    (hparam : ∀ param ∈ params, param.IsParam)
    (distinct : (Json.object members).DistinctKeys) : ∃ entry : Entry, entry.FieldsIn members := by
  obtain ⟨name, hname⟩ := h.name
  obtain ⟨help, hhelp⟩ := h.help
  obtain ⟨hidden, -, hhidden⟩ := h.hidden
  obtain ⟨permission, hpermission⟩ :
      ∃ permission : Option String, members.get? "permission" = permission.map .string := by
    by_cases hmem : "permission" ∈ members.keys
    · obtain ⟨text, htext⟩ := h.permission hmem
      exact ⟨some text, htext⟩
    · exact ⟨none, Members.get?_eq_none.2 hmem⟩
  obtain ⟨described, hdescribed⟩ := exists_forall₂ fun param hmem =>
    (hparam param hmem).exists_describedBy ((distinct.of_get? hparams).of_mem hmem)
  exact ⟨⟨name, help, permission, hidden, described⟩, hname, hhelp, hpermission, hhidden, params,
    hparams, hdescribed⟩

theorem Json.IsNode.exists_entry {value : Json} (h : value.IsNode .command)
    (distinct : value.DistinctKeys) : ∃ entry : Entry, entry.DescribedBy value := by
  cases h with
  | command hmembers hparams hparam _ _ =>
    obtain ⟨entry, hentry⟩ := hmembers.exists_fieldsIn hparams hparam distinct
    exact ⟨entry, _, rfl, hentry⟩

theorem Json.IsNode.exists_group {kind : NodeKind} {value : Json} (h : value.IsNode kind)
    (hkind : kind = .group) (distinct : value.DistinctKeys) :
    ∃ group : Group, group.DescribedBy value := by
  induction h with
  | command => cases hkind
  | group hmembers hparams hparam hcommands hcommand hgroups hgroup _ ih =>
    obtain ⟨entry, hentry⟩ := hmembers.exists_fieldsIn hparams hparam distinct
    obtain ⟨commands, hcommands'⟩ := exists_forall₂ fun command hmem =>
      (hcommand command hmem).exists_entry ((distinct.of_get? hcommands).of_mem hmem)
    obtain ⟨groups, hgroups'⟩ := exists_forall₂ fun group hmem =>
      ih group hmem rfl ((distinct.of_get? hgroups).of_mem hmem)
    exact ⟨⟨entry, groups, commands⟩, _, rfl, hentry, ⟨_, hcommands, hcommands'⟩, _, hgroups,
      Group.listDescribedBy_iff.2 hgroups'⟩

theorem Json.IsNode.exists_node {kind : NodeKind} {value : Json} (h : value.IsNode kind)
    (hplace : value.PlaceKind none kind) (distinct : value.DistinctKeys) :
    ∃ node : Node, node.DescribedBy value := by
  cases kind with
  | group =>
    obtain ⟨group, hgroup⟩ := h.exists_group rfl distinct
    exact ⟨.group group, h.stated, hplace, hgroup⟩
  | command =>
    obtain ⟨entry, hentry⟩ := h.exists_entry distinct
    exact ⟨.command entry, h.stated, hplace, hentry⟩

theorem Json.IsDocument.exists_describedBy {value : Json} (h : value.IsDocument)
    (distinct : value.DistinctKeys) : ∃ schema : Schema, schema.DescribedBy value := by
  obtain ⟨hnodes⟩ := h
  rename_i values
  obtain ⟨nodes, hnodes⟩ := exists_forall₂ fun value hmem => by
    obtain ⟨kind, hnode, hplace⟩ := hnodes value hmem
    exact hnode.exists_node hplace (distinct.of_mem hmem)
  exact ⟨⟨nodes⟩, values, rfl, hnodes⟩

/-! ### Validation and conversion -/

/-- Conversion succeeds exactly on the documents of the grammar, with what they describe. -/
theorem Schema.ofJson_eq_ok {value : Json} (distinct : value.DistinctKeys) {schema : Schema} :
    Schema.ofJson value = .ok schema ↔ value.IsDocument ∧ schema.DescribedBy value := by
  have hread : ∀ schema : Schema, value.IsDocument → schema.DescribedBy value →
      Schema.ofJson value = .ok schema := by
    rintro ⟨nodes⟩ hdocument ⟨values, rfl, hnodes⟩
    have hlist := Schema.DescribedBy.ofJsonList_eq hnodes (fun _ => distinct.of_mem) 0
    simp only [ofJson, checkDocument_eq_ok.2 hdocument, ok_bind, hlist]
    rfl
  constructor
  · intro h
    have hdocument : value.IsDocument := by
      unfold ofJson at h
      exact checkDocument_eq_ok.1 (step_eq_ok.1 h).1
    obtain ⟨schema', hdescribed⟩ := hdocument.exists_describedBy distinct
    have hread' := hread schema' hdocument hdescribed
    obtain rfl : schema' = schema := Except.ok.inj (hread'.symm.trans h)
    exact ⟨hdocument, hdescribed⟩
  · rintro ⟨hdocument, hdescribed⟩
    exact hread schema hdocument hdescribed

/-- **The checker accepts exactly the documents of the grammar; each of them is converted to the one
schema that it describes, and all other values are refused with the violation that was found.** -/
theorem checkDocument_exact (value : Json) :
    (checkDocument value = .ok () ↔ value.IsDocument) ∧
    (value.DistinctKeys → value.IsDocument →
      ∃ schema, Schema.ofJson value = .ok schema ∧
        ∀ schema' : Schema, schema'.DescribedBy value ↔ schema' = schema) ∧
    (¬ value.IsDocument → ∃ violation, checkDocument value = .error violation ∧
      Schema.ofJson value = .error violation) := by
  refine ⟨checkDocument_eq_ok, fun distinct hdocument => ?_, fun hdocument => ?_⟩
  · obtain ⟨schema, hdescribed⟩ := hdocument.exists_describedBy distinct
    have hschema := (Schema.ofJson_eq_ok distinct).2 ⟨hdocument, hdescribed⟩
    refine ⟨schema, hschema, fun schema' => ⟨fun hdescribed' => ?_, ?_⟩⟩
    · have hschema' := (Schema.ofJson_eq_ok distinct).2 ⟨hdocument, hdescribed'⟩
      exact Except.ok.inj (hschema'.symm.trans hschema)
    · rintro rfl
      exact hdescribed
  · cases hcheck : checkDocument value with
    | ok => exact absurd (checkDocument_eq_ok.1 hcheck) hdocument
    | error violation =>
      refine ⟨violation, rfl, ?_⟩
      unfold Schema.ofJson
      rw [hcheck]
      rfl

/-- A document with a group that states its kind, a member that the grammar does not know, and a
command. -/
def statedDocument : Json :=
  .array [.object [("groups", .array []), ("kind", .string "group"), ("name", .string "db"),
    ("help", .string ""), ("hidden", .string "True"), ("note", .null), ("params", .array []),
    ("commands", .array [.object [("name", .string "dump"), ("help", .string "None"),
      ("params", .array []), ("permission", .string "admin"), ("hidden", .string "False")]])]]

theorem checkDocument_exact_statedDocument :
    statedDocument.DistinctKeys ∧ statedDocument.IsDocument ∧
      ∃ schema, Schema.ofJson statedDocument = .ok schema ∧
        ∀ schema' : Schema, schema'.DescribedBy statedDocument ↔ schema' = schema := by
  have distinct : statedDocument.DistinctKeys := by simp [statedDocument, Members.keys]
  have document := (checkDocument_exact statedDocument).1.1 (by decide +kernel)
  exact ⟨distinct, document, (checkDocument_exact statedDocument).2.1 distinct document⟩

end CommandTree
