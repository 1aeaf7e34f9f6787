import CommandTree.Proofs.Json.Basic
import CommandTree.Proofs.Outcome
import CommandTree.Schema.Violation

/-!
# The schema grammar

The checker goes through a document and stops at the first violation.  The grammar says, without any
order, what a document without violations is.

* `Json.IsParam`, `Json.IsNode` and `Json.IsDocument` are the grammar.
* `checkParam_eq_ok`, `checkNode_eq_ok` and `checkDocument_eq_ok` : the checker accepts exactly what
  the grammar allows.
-/

namespace CommandTree

/-! ### The grammar -/

/-- The attributes of an option, in the order in which a described program lists them. -/
def optionKeys : List String :=
  ["name", "help", "type", "default", "required", "prompt"]

section Grammar

variable (members : Members Json)

/-- The member with a key is a text. -/
def HasText (key : String) : Prop :=
  ∃ text, members.get? key = some (.string text)

/-- The member with a key is one of some words. -/
def HasWord (key : String) (words : List String) : Prop :=
  ∃ word ∈ words, members.get? key = some (.string word)

/-- The members of a parameter. -/
structure ParamMembers : Prop where
  /-- Every member is a text. -/
  texts : ∀ key ∈ members.keys, HasText members key
  /-- No field is missing. -/
  fields : ∀ field ∈ paramFields, field ∈ members.keys
  /-- The type is one of two words. -/
  type : HasWord members "type" paramTypeWords
  /-- Whether the parameter must be given is a truth word. -/
  required : HasWord members "required" truthWords
  /-- The parameter is an option. -/
  kind : HasWord members "param_type" paramKindWords

/-- The members of a node of some kind, other than its parameters and the nodes below it. -/
structure NodeMembers (kind : NodeKind) : Prop where
  /-- A stated kind is the kind of the node. -/
  kind : ∀ value ∈ members.get? "kind", value = .string kind.name
  /-- The name is a text. -/
  name : HasText members "name"
  /-- The help is a text. -/
  help : HasText members "help"
  /-- Whether the node is hidden is a truth word. -/
  hidden : HasWord members "hidden" truthWords
  /-- A permission is a text. -/
  permission : "permission" ∈ members.keys → HasText members "permission"

end Grammar

namespace Json

/-- A parameter is an object with the members of a parameter. -/
inductive IsParam : Json → Prop
  | mk {members : Members Json} (hmembers : ParamMembers members) : IsParam (.object members)

/-- A node of some kind is an object with the members of a node and with parameters.  A group has
groups and commands below it, a command does not even have the members for them. -/
inductive IsNode : NodeKind → Json → Prop
  | command {members : Members Json} {params : List Json} (hmembers : NodeMembers members .command)
      (hparams : members.get? "params" = some (.array params))
      (hparam : ∀ param ∈ params, param.IsParam) (hgroups : "groups" ∉ members.keys)
      (hcommands : "commands" ∉ members.keys) : IsNode .command (.object members)
  | group {members : Members Json} {params groups commands : List Json}
      (hmembers : NodeMembers members .group)
      (hparams : members.get? "params" = some (.array params))
      (hparam : ∀ param ∈ params, param.IsParam)
      (hcommands : members.get? "commands" = some (.array commands))
      (hcommand : ∀ command ∈ commands, IsNode .command command)
      (hgroups : members.get? "groups" = some (.array groups))
      (hgroup : ∀ group ∈ groups, IsNode .group group) : IsNode .group (.object members)

/-- The kind of a node that its place asks for.  Where the place does not ask and the node does not
state its kind, it is a group exactly if it has the member `groups`. -/
def PlaceKind (expected : Option NodeKind) (kind : NodeKind) (value : Json) : Prop :=
  match expected with
  | some expected => kind = expected
  | none => value.member? "kind" = none → (kind = .group ↔ (value.member? "groups").isSome)

/-- A document is an array of nodes, and its place does not ask any of them for a kind. -/
inductive IsDocument : Json → Prop
  | mk {nodes : List Json}
      (hnodes : ∀ node ∈ nodes, ∃ kind, node.IsNode kind ∧ node.PlaceKind none kind) :
      IsDocument (.array nodes)

end Json

/-! ### Single members -/

section Members

variable {path : DocumentPath} {members : Members Json}

theorem HasText.mem_keys {key : String} (h : HasText members key) : key ∈ members.keys := by
  obtain ⟨_, hget⟩ := h
  exact Members.mem_keys_of_get?_eq_some hget

theorem HasWord.mem_keys {key : String} {words : List String} (h : HasWord members key words) :
    key ∈ members.keys := by
  obtain ⟨_, _, hget⟩ := h
  exact Members.mem_keys_of_get?_eq_some hget

theorem violationAt_ne_ok {α : Type} {reason : ViolationReason} {a : α} :
    violationAt path reason ≠ .ok a :=
  nofun

theorem requireFields_eq_ok {fields : List String} :
    requireFields path members fields = .ok () ↔ ∀ field ∈ fields, field ∈ members.keys := by
  unfold requireFields
  split
  · rename_i field hfind
    have hfield := List.find?_some hfind
    simp only [violationAt_ne_ok, false_iff, not_forall]
    refine ⟨field, List.mem_of_find?_eq_some hfind, fun hmem => ?_⟩
    rw [← Members.isSome_get?] at hmem
    simp_all
  · rename_i hfind
    simp only [List.find?_eq_none, Option.isNone_iff_eq_none, true_iff] at hfind ⊢
    intro field hmem
    rw [← Members.isSome_get?]
    exact Option.isSome_iff_ne_none.2 (hfind field hmem)

theorem requireString_eq_ok {field text : String} :
    requireString path members field = .ok text ↔
      members.get? field = some (.string text) := by
  unfold requireString
  split <;> simp_all [violationAt_ne_ok]

theorem requireWord_eq_ok {field : String} {allowed : List String} :
    requireWord path members field allowed = .ok () ↔ HasWord members field allowed := by
  simp only [requireWord, bind_eq_ok, requireString_eq_ok, HasWord]
  constructor
  · rintro ⟨text, htext, h⟩
    split_ifs at h with hmem
    · exact ⟨text, by simpa using hmem, htext⟩
    · exact absurd h violationAt_ne_ok
  · rintro ⟨text, hmem, htext⟩
    exact ⟨text, htext, by simp [hmem, pure_eq_ok]⟩

theorem requireArray_eq_ok {field : String} {items : List Json} :
    requireArray path members field = .ok items ↔
      members.get? field = some (.array items) := by
  unfold requireArray
  split <;> simp_all [violationAt_ne_ok]

theorem NodeKind.ofName?_eq_some {name : String} {kind : NodeKind} :
    ofName? name = some kind ↔ name = kind.name := by
  unfold ofName?
  constructor
  · intro h
    split_ifs at h with hgroup hcommand
    · cases h
      exact hgroup
    · cases h
      exact hcommand
  · rintro rfl
    cases kind <;> rfl

theorem statedKind?_eq_ok {stated : Option NodeKind} :
    statedKind? path members = .ok stated ↔
      members.get? "kind" = stated.map fun kind => .string kind.name := by
  unfold statedKind?
  split
  · rename_i h
    cases stated <;> simp [h]
  · rename_i name h
    cases hkind : NodeKind.ofName? name with
    | none =>
      have hne : ∀ kind : NodeKind, name ≠ kind.name := fun kind hname => by
        rw [NodeKind.ofName?_eq_some.2 hname] at hkind
        cases hkind
      cases stated <;> simp [h, violationAt_ne_ok, hne]
    | some kind =>
      obtain rfl := NodeKind.ofName?_eq_some.1 hkind
      cases stated with
      | none => simp [h]
      | some kind' =>
        simp only [h, Except.ok.injEq, Option.some.injEq, Option.map_some, Json.string.injEq]
        constructor
        · rintro rfl
          rfl
        · intro hname
          have hkind' := NodeKind.ofName?_eq_some.2 hname
          rw [hkind] at hkind'
          exact Option.some.inj hkind'
  · rename_i other hother h
    cases stated with
    | none => simp [h, violationAt_ne_ok]
    | some kind => simpa [h, violationAt_ne_ok] using hother kind.name

theorem resolveKind_eq_ok {expected : Option NodeKind} {kind : NodeKind} :
    resolveKind path members expected = .ok kind ↔
      (∀ value ∈ members.get? "kind", value = .string kind.name) ∧
        (Json.object members).PlaceKind expected kind := by
  simp only [resolveKind, bind_eq_ok, statedKind?_eq_ok]
  constructor
  · rintro ⟨stated, hstated, h⟩
    match expected, stated, h with
    | none, none, h =>
      obtain rfl := Except.ok.inj h
      refine ⟨by simp [hstated], fun _ => ?_⟩
      simp only [Json.member?]
      split_ifs with hgroups <;> simp [hgroups]
    | none, some stated, h =>
      obtain rfl : stated = kind := Except.ok.inj h
      exact ⟨by simp [hstated], fun hnone => by simp [Json.member?, hstated] at hnone⟩
    | some expected, none, h =>
      obtain rfl : expected = kind := Except.ok.inj h
      exact ⟨by simp [hstated], rfl⟩
    | some expected, some stated, h =>
      simp only at h
      split_ifs at h with heq
      · obtain rfl : expected = kind := Except.ok.inj h
        exact ⟨by simp [hstated, heq], rfl⟩
      · exact absurd h violationAt_ne_ok
  · rintro ⟨hkind, hplace⟩
    cases hstated : members.get? "kind" with
    | none =>
      refine ⟨none, rfl, ?_⟩
      cases expected with
      | none =>
        have hgroup := hplace hstated
        simp only [Json.member?] at hgroup
        cases kind <;> simp_all [pure_eq_ok]
      | some expected =>
        obtain rfl : kind = expected := hplace
        rfl
    | some value =>
      refine ⟨some kind, by simp [hkind value hstated], ?_⟩
      cases expected with
      | none => rfl
      | some expected =>
        obtain rfl : kind = expected := hplace
        simp [pure_eq_ok]

/-! ### Parameters -/

theorem checkParamMembers_eq_ok :
    checkParamMembers path members = .ok () ↔ ParamMembers members := by
  simp only [checkParamMembers, step_eq_ok, requireFields_eq_ok, forM_eq_ok,
    discard_eq_ok, requireString_eq_ok, requireWord_eq_ok]
  constructor
  · rintro ⟨fields, texts, type, required, kind⟩
    exact ⟨texts, fields, type, required, kind⟩
  · rintro ⟨texts, fields, type, required, kind⟩
    exact ⟨fields, texts, type, required, kind⟩

theorem checkParam_eq_ok {param : Json} : checkParam path param = .ok () ↔ param.IsParam := by
  unfold checkParam
  split
  · rw [checkParamMembers_eq_ok]
    exact ⟨.mk, fun ⟨hmembers⟩ => hmembers⟩
  · rename_i hobject
    simp only [violationAt_ne_ok, false_iff]
    rintro ⟨-⟩
    exact hobject _ rfl

theorem checkParams_eq_ok {params : List Json} {index : Nat} :
    checkParams path index params = .ok () ↔ ∀ param ∈ params, param.IsParam := by
  induction params generalizing index with
  | nil => simp [checkParams]
  | cons param rest ih =>
    simp [checkParams, step_eq_ok, checkParam_eq_ok, ih]

/-! ### Nodes -/

theorem checkNodeMembers_eq_ok {expected : Option NodeKind} {kind : NodeKind} :
    checkNodeMembers path members expected = .ok kind ↔
      NodeMembers members kind ∧ (Json.object members).PlaceKind expected kind ∧
        (∃ params, members.get? "params" = some (.array params)) ∧
        (kind = .command → "groups" ∉ members.keys ∧ "commands" ∉ members.keys) ∧
        (kind = .group → (∃ commands, members.get? "commands" = some (.array commands)) ∧
          ∃ groups, members.get? "groups" = some (.array groups)) := by
  rw [checkNodeMembers, bind_eq_ok]
  simp only [resolveKind_eq_ok, step_eq_ok, ite_step_eq_ok, requireFields_eq_ok, forM_eq_ok,
    discard_eq_ok, requireString_eq_ok, requireWord_eq_ok, requireArray_eq_ok, pure_eq_ok]
  constructor
  · rintro ⟨kind', ⟨hkind, hplace⟩, -, habsent, name, help, hidden, permission, params, h⟩
    have hmembers : NodeMembers members kind' :=
      ⟨hkind, name, help, hidden, fun hmem => permission (Members.isSome_get?.2 hmem)⟩
    cases kind' with
    | group =>
      simp only [if_true, step_eq_ok, discard_eq_ok, requireArray_eq_ok] at h
      obtain ⟨commands, groups, h⟩ := h
      obtain rfl := Except.ok.inj h
      exact ⟨hmembers, hplace, params, nofun, fun _ => ⟨commands, groups⟩⟩
    | command =>
      obtain rfl := Except.ok.inj h
      refine ⟨hmembers, hplace, params, fun _ => ⟨fun hmem => ?_, fun hmem => ?_⟩, nofun⟩
      · have := habsent rfl "groups" (by simp)
        simp [Members.isSome_get?.2 hmem, violationAt_ne_ok] at this
      · have := habsent rfl "commands" (by simp)
        simp [Members.isSome_get?.2 hmem, violationAt_ne_ok] at this
  · rintro ⟨hmembers, hplace, params, habsent, hlists⟩
    refine ⟨kind, ⟨hmembers.kind, hplace⟩, ?_, ?_, hmembers.name, hmembers.help, hmembers.hidden,
      fun hsome => hmembers.permission (Members.isSome_get?.1 hsome), params, ?_⟩
    · have hname := hmembers.name.mem_keys
      have hhelp := hmembers.help.mem_keys
      have hhidden := hmembers.hidden.mem_keys
      obtain ⟨_, hparams⟩ := params
      have hparams := Members.mem_keys_of_get?_eq_some hparams
      cases kind with
      | group =>
        obtain ⟨⟨_, hcommands⟩, _, hgroups⟩ := hlists rfl
        simp [groupFields, hname, hhelp, hhidden, hparams,
          Members.mem_keys_of_get?_eq_some hcommands, Members.mem_keys_of_get?_eq_some hgroups]
      | command => simp [commandFields, hname, hhelp, hhidden, hparams]
    · rintro rfl field hfield
      obtain ⟨hgroups, hcommands⟩ := habsent rfl
      rw [← Members.isSome_get?] at hgroups hcommands
      simp only [List.mem_cons, List.not_mem_nil, or_false] at hfield
      obtain rfl | rfl := hfield
      · rw [if_neg hgroups]
      · rw [if_neg hcommands]
    · cases kind with
      | group =>
        simp only [if_true, step_eq_ok, discard_eq_ok, requireArray_eq_ok]
        obtain ⟨commands, groups⟩ := hlists rfl
        exact ⟨commands, groups, trivial⟩
      | command => rfl

end Members

/-! ### Whole documents -/

theorem checkChildren_eq (expected : NodeKind) (field : String) (path : DocumentPath)
    (members : Members Json) :
    checkChildren expected field path members =
      match members.get? field with
      | some value => checkItems (some expected) (path ++ [.key field]) value
      | none => .ok () := by
  induction members with
  | nil => rfl
  | cons member rest ih =>
    obtain ⟨key, value⟩ := member
    rw [checkChildren, Members.get?_cons, ih]
    by_cases hkey : key = field
    · simp [hkey]
    · simp [hkey, Ne.symm hkey]

theorem checkNodes_eq_ok_of_forall {expected : Option NodeKind} {p : Json → Prop}
    {nodes : List Json}
    (h : ∀ node ∈ nodes, ∀ path, checkNode expected path node = .ok () ↔ p node)
    (path : DocumentPath) (index : Nat) :
    checkNodes expected path index nodes = .ok () ↔ ∀ node ∈ nodes, p node := by
  induction nodes generalizing index with
  | nil => simp [checkNodes]
  | cons node rest ih =>
    obtain ⟨hnode, hrest⟩ := List.forall_mem_cons.1 h
    rw [checkNodes, step_eq_ok, hnode, ih hrest, List.forall_mem_cons]

/-- **The checker accepts exactly the nodes of the grammar, of the kind that their place asks
for.** -/
theorem checkNode_eq_ok (expected : Option NodeKind) (path : DocumentPath) (value : Json) :
    checkNode expected path value = .ok () ↔
      ∃ kind, value.IsNode kind ∧ value.PlaceKind expected kind := by
  match value with
  | .object members =>
    -- the nodes below are smaller, and their places ask for a kind
    have hchildren : ∀ (kind : NodeKind) (field : String) (items : List Json),
        Members.get? members field = some (.array items) →
        (checkChildren kind field path members = .ok () ↔ ∀ item ∈ items, item.IsNode kind) := by
      intro kind field items hget
      rw [checkChildren_eq, hget]
      refine checkNodes_eq_ok_of_forall (fun item hitem path => ?_) _ 0
      have hsmaller := Nat.lt_trans (Json.sizeOf_lt_of_mem hitem) (Json.sizeOf_lt_of_get? hget)
      simp [checkNode_eq_ok (some kind) path item, Json.PlaceKind]
    rw [checkNode, bind_eq_ok]
    simp only [checkNodeMembers_eq_ok, bind_eq_ok, requireArray_eq_ok]
    constructor
    · rintro ⟨kind, ⟨hmembers, hplace, -, habsent, hlists⟩, params, hparams, ⟨⟩, hcheck, h⟩
      have hparam := checkParams_eq_ok.1 hcheck
      refine ⟨kind, ?_, hplace⟩
      cases kind with
      | command =>
        obtain ⟨hgroups, hcommands⟩ := habsent rfl
        exact .command hmembers hparams hparam hgroups hcommands
      | group =>
        obtain ⟨⟨commands, hcommands⟩, groups, hgroups⟩ := hlists rfl
        simp only [if_true, step_eq_ok, hchildren _ _ _ hcommands, hchildren _ _ _ hgroups] at h
        exact .group hmembers hparams hparam hcommands h.1 hgroups h.2
    · rintro ⟨kind, hnode, hplace⟩
      cases hnode with
      | command hmembers hparams hparam hgroups hcommands =>
        exact ⟨.command, ⟨hmembers, hplace, ⟨_, hparams⟩, fun _ => ⟨hgroups, hcommands⟩, nofun⟩,
          _, hparams, (), checkParams_eq_ok.2 hparam, rfl⟩
      | group hmembers hparams hparam hcommands hcommand hgroups hgroup =>
        refine ⟨.group, ⟨hmembers, hplace, ⟨_, hparams⟩, nofun, fun _ => ⟨⟨_, hcommands⟩,
          _, hgroups⟩⟩, _, hparams, (), checkParams_eq_ok.2 hparam, ?_⟩
        simp only [if_true, step_eq_ok, hchildren _ _ _ hcommands, hchildren _ _ _ hgroups]
        exact ⟨hcommand, hgroup⟩
  | .null | .bool _ | .number _ | .string _ | .array _ =>
    simp only [checkNode, violationAt_ne_ok, false_iff]
    rintro ⟨_, ⟨⟩, _⟩
termination_by sizeOf value
decreasing_by exact hsmaller

theorem checkDocument_eq_ok {value : Json} :
    checkDocument value = .ok () ↔ value.IsDocument := by
  unfold checkDocument
  split
  · rename_i nodes
    rw [checkNodes_eq_ok_of_forall fun node _ path => checkNode_eq_ok none path node]
    exact ⟨.mk, fun ⟨hnodes⟩ => hnodes⟩
  · rename_i harray
    simp only [violationAt_ne_ok, false_iff]
    rintro ⟨-⟩
    exact harray _ rfl

end CommandTree
