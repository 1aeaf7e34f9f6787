import CommandTree.Proofs.Schema.Checks

/-!
# The first violation

A violation is reported with the path to its place.  The path leads to a value that breaks the
grammar as the reason says, and everything that the checker looks at before it enters a list on the
path obeys the grammar.

* `ChildList` are the lists of a node, and `Entered` says what obeys the grammar when the checker
  comes to an item of one; `checkNode_object_eq_error` : how an object is rejected as a node.
* `isAt_of_checkNode` and `entered_of_checkNode` : what the path of a violation of a node leads to
  and what it leads through.
* `checkDocument_pointsAtFirst` : the same for a document.
-/

namespace CommandTree

/-! ### The lists of a node -/

/-- The lists of a node, in the order in which they are checked. -/
inductive ChildList where
  /-- The parameters of any node. -/
  | params
  /-- The commands of a group. -/
  | commands
  /-- The groups of a group. -/
  | groups
  deriving DecidableEq, Repr

namespace ChildList

/-- The member that holds a list. -/
def key : ChildList → String
  | params => "params"
  | commands => "commands"
  | groups => "groups"

/-- The check of an item of a list. -/
def check : ChildList → DocumentPath → Json → Except Violation Unit
  | params => checkParam
  | commands => checkNode (some .command)
  | groups => checkNode (some .group)

/-- The items that the grammar allows in a list. -/
def Allows : ChildList → Json → Prop
  | params => Json.IsParam
  | commands => Json.IsNode .command
  | groups => Json.IsNode .group

theorem shifts_check (list : ChildList) (item : Json) :
    Shifts fun path => list.check path item := by
  cases list with
  | params => exact shifts_checkParam item
  | commands => exact shifts_checkNode (some .command) item
  | groups => exact shifts_checkNode (some .group) item

theorem check_eq_ok {list : ChildList} {item : Json} :
    list.check [] item = .ok () ↔ list.Allows item := by
  cases list with
  | params => exact checkParam_eq_ok
  | commands => simp [check, Allows, checkNode_eq_ok, Json.PlaceKind]
  | groups => simp [check, Allows, checkNode_eq_ok, Json.PlaceKind]

/-- A list of an object obeys the grammar. -/
def Obeys (members : Members Json) (list : ChildList) : Prop :=
  ∃ items, members.get? list.key = some (.array items) ∧ ∀ item ∈ items, list.Allows item

/-- The check of a list of an object. -/
def run (members : Members Json) (list : ChildList) : Except Violation Unit :=
  match members.get? list.key with
  | some (.array items) => checkInOrder list.check [.key list.key] 0 items
  | _ => .ok ()

variable {members : Members Json} {list : ChildList}

theorem run_of_get? {items : List Json} (hget : members.get? list.key = some (.array items)) :
    list.run members = checkInOrder list.check [.key list.key] 0 items := by
  rw [run, hget]

theorem run_eq_ok {items : List Json} (hget : members.get? list.key = some (.array items)) :
    list.run members = .ok () ↔ list.Obeys members := by
  rw [run_of_get? hget, checkInOrder_eq_ok fun item _ => list.shifts_check item]
  simp [Obeys, hget, check_eq_ok]

theorem run_eq_error {violation : Violation} :
    list.run members = .error violation ↔
      ∃ before item after own, members.get? list.key = some (.array (before ++ item :: after)) ∧
        (∀ earlier ∈ before, list.Allows earlier) ∧ list.check [] item = .error own ∧
        violation = own.below [.key list.key, .index before.length] := by
  unfold run
  split
  · rename_i items hget
    rw [checkInOrder_eq_error fun item _ => list.shifts_check item]
    simp [hget, check_eq_ok]
  · rename_i hnone
    refine ⟨nofun, ?_⟩
    rintro ⟨before, item, after, own, hget, -⟩
    exact absurd hget (hnone _)

end ChildList

/-- The lists of a node of some kind. -/
def NodeKind.lists : NodeKind → List ChildList
  | command => [.params]
  | group => [.params, .commands, .groups]

theorem checkNodeMembers_lists {expected : Option NodeKind} {members : Members Json}
    {kind : NodeKind} (h : checkNodeMembers [] members expected = .ok kind) :
    ∀ list ∈ kind.lists, ∃ items, members.get? list.key = some (.array items) := by
  obtain ⟨-, -, hparams, -, hlists⟩ := checkNodeMembers_eq_ok.1 h
  cases kind with
  | command =>
    rw [NodeKind.lists, List.forall_mem_singleton]
    exact hparams
  | group =>
    obtain ⟨hcommands, hgroups⟩ := hlists rfl
    rw [NodeKind.lists, List.forall_mem_cons, List.forall_mem_cons, List.forall_mem_singleton]
    exact ⟨hparams, hcommands, hgroups⟩

theorem checkChildren_eq_run (members : Members Json) :
    checkChildren .command "commands" [] members = ChildList.commands.run members ∧
      checkChildren .group "groups" [] members = ChildList.groups.run members := by
  have hitems : ∀ (kind : NodeKind) (field : String),
      checkChildren kind field [] members = match members.get? field with
        | some (.array items) => checkInOrder (checkNode (some kind)) [.key field] 0 items
        | _ => .ok () := by
    intro kind field
    rw [checkChildren_eq]
    cases members.get? field with
    | none => rfl
    | some value =>
      cases value with
      | array items => exact checkNodes_eq _ _ _ _
      | null | bool _ | number _ | string _ | object _ => rfl
  exact ⟨hitems _ _, hitems _ _⟩

/-- A node is checked by its own members, then list by list. -/
theorem checkNode_object (expected : Option NodeKind) (members : Members Json) :
    checkNode expected [] (.object members) =
      checkNodeMembers [] members expected >>= fun kind => kind.lists.forM (·.run members) := by
  obtain ⟨hcommands, hgroups⟩ := checkChildren_eq_run members
  rw [checkNode, hcommands, hgroups]
  cases hkind : checkNodeMembers [] members expected with
  | error own => rfl
  | ok kind =>
    obtain ⟨-, -, ⟨params, hparams⟩, -⟩ := checkNodeMembers_eq_ok.1 hkind
    have hrun : checkParams ([] ++ [.key "params"]) 0 params = ChildList.params.run members := by
      rw [checkParams_eq, ChildList.run_of_get? hparams]
      rfl
    simp only [ok_bind, requireArray_eq_ok.2 hparams, hrun]
    -- the last check of the list is followed by nothing
    have hlast : ∀ check : Except Violation Unit, (check >>= fun _ => pure ()) = check := by
      intro check
      cases check <;> rfl
    cases kind with
    | command => simp [NodeKind.lists]
    | group => simp [NodeKind.lists, hlast]

/-- The checker enters a list of a node and comes to an item, after some others.  What it looks at
before obeys the grammar. -/
structure Entered (kind : NodeKind) (members : Members Json) (list : ChildList)
    (before : List Json) (item : Json) : Prop where
  /-- The members of the node other than its lists obey the grammar. -/
  own : NodeMembers members kind
  /-- The node has the list, and the lists before it obey the grammar. -/
  lists : ∃ earlier later, kind.lists = earlier ++ list :: later ∧
    ∀ list' ∈ earlier, list'.Obeys members
  /-- The item stands in the list, after the others. -/
  items : ∃ after, members.get? list.key = some (.array (before ++ item :: after))
  /-- The items before it obey the grammar. -/
  allowed : ∀ earlier ∈ before, list.Allows earlier

/-- **An object is rejected as a node for its own members, or for the first bad item of the first
list that has one.** -/
theorem checkNode_object_eq_error {expected : Option NodeKind} {members : Members Json}
    {violation : Violation} :
    checkNode expected [] (.object members) = .error violation ↔
      checkNodeMembers [] members expected = .error violation ∨
        ∃ kind list before item own, checkNodeMembers [] members expected = .ok kind ∧
          Entered kind members list before item ∧ list.check [] item = .error own ∧
          violation = own.below [.key list.key, .index before.length] := by
  have hobeys : ∀ {kind : NodeKind}, checkNodeMembers [] members expected = .ok kind →
      ∀ list ∈ kind.lists, (list.run members = .ok () ↔ list.Obeys members) := by
    intro kind hkind list hlist
    obtain ⟨items, hget⟩ := checkNodeMembers_lists hkind list hlist
    exact ChildList.run_eq_ok hget
  simp only [checkNode_object, bind_eq_error, forM_eq_error, ChildList.run_eq_error]
  refine or_congr_right ⟨?_, ?_⟩
  · rintro ⟨kind, hkind, earlier, list, later, hlists, hearlier,
      before, item, after, own, hget, hallowed, hown, hviolation⟩
    have hmembers := (checkNodeMembers_eq_ok.1 hkind).1
    refine ⟨kind, list, before, item, own, hkind,
      ⟨hmembers, ⟨earlier, later, hlists, fun list' hlist' => ?_⟩, ⟨after, hget⟩, hallowed⟩,
      hown, hviolation⟩
    exact (hobeys hkind list' (hlists ▸ List.mem_append_left _ hlist')).1 (hearlier list' hlist')
  · rintro ⟨kind, list, before, item, own, hkind, entered, hown, hviolation⟩
    obtain ⟨-, ⟨earlier, later, hlists, hearlier⟩, ⟨after, hget⟩, hallowed⟩ := entered
    refine ⟨kind, hkind, earlier, list, later, hlists, fun list' hlist' => ?_,
      before, item, after, own, hget, hallowed, hown, hviolation⟩
    exact (hobeys hkind list' (hlists ▸ List.mem_append_left _ hlist')).2 (hearlier list' hlist')

/-! ### The path of a violation -/

theorem Json.at?_item (before : List Json) (item : Json) (after : List Json)
    (path : DocumentPath) :
    (array (before ++ item :: after)).at? (.index before.length :: path) = item.at? path := by
  simp [at?, step?]

theorem Entered.at?_item {kind : NodeKind} {members : Members Json} {list : ChildList}
    {before : List Json} {item : Json} (entered : Entered kind members list before item)
    (path : DocumentPath) :
    (Json.object members).at? (.key list.key :: .index before.length :: path) = item.at? path := by
  obtain ⟨after, hget⟩ := entered.items
  rw [Json.at?, Json.step?, Json.member?, hget]
  exact Json.at?_item before item after path

/-- **The path of a violation of a node leads to a value that breaks the grammar as the reason
says.** -/
theorem isAt_of_checkNode {expected : Option NodeKind} {value : Json} {violation : Violation}
    (h : checkNode expected [] value = .error violation) : violation.IsAt value := by
  cases value with
  | object members =>
    obtain hown | ⟨kind, list, before, item, own, -, entered, hown, rfl⟩ :=
      checkNode_object_eq_error.1 h
    · exact ((looksAt_checkNodeMembers expected).own violation hown).isAt
    · obtain ⟨place, hplace, hfits⟩ : own.IsAt item := by
        cases list with
        | params => exact (isAt_of_checkParam hown).1
        | commands => exact isAt_of_checkNode hown
        | groups => exact isAt_of_checkNode hown
      exact ⟨place, (entered.at?_item own.path).trans hplace, hfits⟩
  | null | bool _ | number _ | string _ | array _ =>
    obtain rfl := Except.error.inj h
    exact ⟨_, rfl, nofun, rfl⟩
termination_by violation.path.length

/-- **Wherever the path of a violation of a node goes into a list, the checker has entered that
list.** -/
theorem entered_of_checkNode {expected : Option NodeKind} {value : Json} {violation : Violation}
    (h : checkNode expected [] value = .error violation) {above below : DocumentPath}
    {key : String} {index : Nat}
    (hpath : violation.path = above ++ .key key :: .index index :: below) :
    ∃ kind members list before item, value.at? above = some (.object members) ∧
      key = list.key ∧ index = before.length ∧ Entered kind members list before item ∧
      list.check [] item = .error ⟨below, violation.reason⟩ := by
  cases value with
  | object members =>
    obtain hown | ⟨kind, list, before, item, own, -, entered, hown, rfl⟩ :=
      checkNode_object_eq_error.1 h
    · have hshort := ((looksAt_checkNodeMembers expected).own violation hown).length_path_le
      simp only [hpath, List.length_append, List.length_cons] at hshort
      omega
    · rw [Violation.path_below] at hpath
      -- the path begins with the two steps to the item, and the rest is that of its own violation
      match above with
      | [] =>
        simp only [List.cons_append, List.nil_append, List.cons.injEq, PathStep.key.injEq,
          PathStep.index.injEq] at hpath
        obtain ⟨rfl, rfl, rfl⟩ := hpath
        exact ⟨kind, members, list, before, item, rfl, rfl, rfl, entered, hown⟩
      | [step] => simp at hpath
      | first :: second :: above =>
        simp only [List.cons_append, List.nil_append, List.cons.injEq] at hpath
        obtain ⟨rfl, rfl, hpath⟩ := hpath
        rw [entered.at?_item above]
        cases list with
        | params =>
          have hshort := (isAt_of_checkParam hown).2
          simp only [hpath, List.length_append, List.length_cons] at hshort
          omega
        | commands => exact entered_of_checkNode hown hpath
        | groups => exact entered_of_checkNode hown hpath
  | null | bool _ | number _ | string _ | array _ =>
    obtain rfl := Except.error.inj h
    simp at hpath
termination_by violation.path.length

/-! ### Documents -/

theorem checkDocument_array (items : List Json) :
    checkDocument (.array items) = checkInOrder (checkNode none) [] 0 items :=
  checkNodes_eq _ _ _ _

/-- A node is accepted on its own as a document exactly if the checker accepts it as a node. -/
theorem checkDocument_single_eq_ok {item : Json} :
    checkDocument (.array [item]) = .ok () ↔ checkNode none [] item = .ok () := by
  rw [checkDocument_array, checkInOrder_eq_ok fun node _ => shifts_checkNode none node,
    List.forall_mem_singleton]

/-- **A document fails with the violation of its first bad item.** -/
theorem checkDocument_array_eq_error {items : List Json} {violation : Violation} :
    checkDocument (.array items) = .error violation ↔
      ∃ before item after own, items = before ++ item :: after ∧
        (∀ earlier ∈ before, checkDocument (.array [earlier]) = .ok ()) ∧
        checkNode none [] item = .error own ∧
        violation = own.below [.index before.length] := by
  rw [checkDocument_array, checkInOrder_eq_error fun node _ => shifts_checkNode none node]
  simp only [checkDocument_single_eq_ok, List.nil_append, Nat.zero_add]

/-- A violation points at the first place of a document that breaks the grammar. -/
structure PointsAtFirst (document : Json) (violation : Violation) : Prop where
  /-- The path leads to a value of the document that breaks the grammar as the reason says. -/
  isAt : violation.IsAt document
  /-- The path of a document of items begins with an index.  The items before it are accepted on
  their own, and the item there has the same violation after any other accepted items and before
  any others whatsoever. -/
  items : ∀ items, document = .array items → ∃ before item after below,
    items = before ++ item :: after ∧ violation.path = .index before.length :: below ∧
      (∀ earlier ∈ before, checkDocument (.array [earlier]) = .ok ()) ∧
      ∀ before' after', (∀ earlier ∈ before', checkDocument (.array [earlier]) = .ok ()) →
        checkDocument (.array (before' ++ item :: after')) =
          .error ⟨.index before'.length :: below, violation.reason⟩
  /-- Wherever the path goes on into a list of a node, the checker has entered that list: what it
  looks at before obeys the grammar.  The item there has the same violation on its own, and in any
  other node where the checker comes to it. -/
  lists : ∀ above key index below,
    violation.path = above ++ .key key :: .index index :: below →
      ∃ kind members list before item, document.at? above = some (.object members) ∧
        key = list.key ∧ index = before.length ∧ Entered kind members list before item ∧
        list.check [] item = .error ⟨below, violation.reason⟩ ∧
        ∀ expected kind' members' before',
          checkNodeMembers [] members' expected = .ok kind' →
            Entered kind' members' list before' item →
              checkNode expected [] (.object members') =
                .error ⟨.key key :: .index before'.length :: below, violation.reason⟩

/-- **A document is rejected with a violation that points at its first fault.** -/
theorem checkDocument_pointsAtFirst {document : Json} {violation : Violation}
    (rejected : checkDocument document = .error violation) : PointsAtFirst document violation := by
  cases document with
  | array items =>
    obtain ⟨before, item, after, own, rfl, hbefore, hown, rfl⟩ :=
      checkDocument_array_eq_error.1 rejected
    refine ⟨?_, ?_, ?_⟩
    · obtain ⟨place, hplace, hfits⟩ := isAt_of_checkNode hown
      exact ⟨place, (Json.at?_item before item after own.path).trans hplace, hfits⟩
    · intro items hitems
      obtain rfl := Json.array.inj hitems
      exact ⟨before, item, after, own.path, rfl, rfl, hbefore, fun before' after' hbefore' =>
        checkDocument_array_eq_error.2 ⟨before', item, after', own, rfl, hbefore', hown, rfl⟩⟩
    · intro above key index below hpath
      rw [Violation.path_below] at hpath
      cases above with
      | nil => simp at hpath
      | cons first above =>
        simp only [List.cons_append, List.nil_append, List.cons.injEq] at hpath
        obtain ⟨rfl, hpath⟩ := hpath
        obtain ⟨kind, members, list, before', bad, hat, rfl, rfl, entered, hbad⟩ :=
          entered_of_checkNode hown hpath
        refine ⟨kind, members, list, before', bad,
          (Json.at?_item before item after above).trans hat, rfl, rfl, entered, hbad, ?_⟩
        intro expected kind' members' before'' hkind' entered'
        exact checkNode_object_eq_error.2
          (.inr ⟨kind', list, before'', bad, _, hkind', entered', hbad, rfl⟩)
  | null | bool _ | number _ | string _ | object _ =>
    obtain rfl := Except.error.inj rejected
    refine ⟨⟨_, rfl, nofun⟩, nofun, fun above key index below hpath => ?_⟩
    simp at hpath

/-- An option of the given type, as a value. -/
def optionOfType (type : String) : Json :=
  .object [("name", .string "v"), ("help", .string "None"), ("type", .string type),
    ("default", .string "None"), ("required", .string "False"), ("prompt", .string "None"),
    ("param_type", .string "option")]

/-- A group with nothing but options of the given types and groups, as a value. -/
def groupOfTypes (types : List String) (groups : List Json) : Json :=
  .object [("name", .string "g"), ("help", .string "None"), ("hidden", .string "False"),
    ("groups", .array groups), ("commands", .array []),
    ("params", .array (types.map optionOfType))]

/-- A document with a bad option in the second group below the second group, and a bad group after
that one. -/
def badOption : Json :=
  .array [groupOfTypes [] [],
    groupOfTypes ["BOOL"] [groupOfTypes [] [], groupOfTypes ["STRING", "INT"] []],
    .null]

/-- The violation of `badOption`. -/
def badOptionViolation : Violation :=
  ⟨[.index 1, .key "groups", .index 1, .key "params", .index 1, .key "type"],
    .unsupportedValue "INT" ["STRING", "BOOL"]⟩

theorem checkDocument_pointsAtFirst_badOption :
    checkDocument badOption = .error badOptionViolation ∧
      PointsAtFirst badOption badOptionViolation :=
  have rejected : checkDocument badOption = .error badOptionViolation := by decide +kernel
  ⟨rejected, checkDocument_pointsAtFirst rejected⟩

/-- The path in writing. -/
example : badOptionViolation.path.text = "$[1].groups[1].params[1].type" := by decide +kernel

end CommandTree
