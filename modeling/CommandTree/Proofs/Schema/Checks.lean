import CommandTree.Proofs.Schema.Grammar

/-!
# What the checks of the grammar look at

The check of a value finds the same violation wherever the value stands; only the front of the path
differs.  The violation leads to a place in the value that breaks the grammar as the reason says.

* `Json.at?` follows a path, and `ViolationReason.Fits` says what a reason means for a value.
* `Shifts` holds for checks of a value that do not depend on where the value is, and `LooksAt` for
  those that only look at an object and its members.
* `checkInOrder_eq_error` : items fail with the violation of the first one that fails.
* `shifts_checkParam` and `shifts_checkNode` : the checks of parameters and of nodes shift.
-/

namespace CommandTree

/-! ### Places of a document -/

/-- The value that one step leads to. -/
def Json.step? (value : Json) : PathStep → Option Json
  | .key key => value.member? key
  | .index index => match value with
    | .array items => items[index]?
    | _ => none

/-- The value that a path leads to. -/
def Json.at? : Json → DocumentPath → Option Json
  | value, [] => some value
  | value, step :: path => (value.step? step).bind (·.at? path)

/-- A value has a shape. -/
def ValueShape.IsShapeOf (value : Json) : ValueShape → Prop
  | string => ∃ text, value = .string text
  | array => ∃ items, value = .array items
  | object => ∃ members, value = .object members

/-- A value breaks the grammar as a reason says. -/
def ViolationReason.Fits (value : Json) : ViolationReason → Prop
  | notAnArrayOfNodes => ¬ ValueShape.array.IsShapeOf value
  | wrongShape expected found => ¬ expected.IsShapeOf value ∧ found = value.shapeName
  | unknownKind stated => value = .string stated ∧ NodeKind.ofName? stated = none
  | wrongKind expected stated => value = .string stated.name ∧ expected ≠ stated
  | missingField field => ∃ members, value = .object members ∧ Members.get? members field = none
  | childrenOfCommand field => field = "groups" ∨ field = "commands"
  | unsupportedValue text allowed => value = .string text ∧ text ∉ allowed
  | unconvertible _ => False

namespace Violation

/-- The same violation, seen from further up. -/
def below (path : DocumentPath) (violation : Violation) : Violation :=
  ⟨path ++ violation.path, violation.reason⟩

@[simp] theorem path_below (path : DocumentPath) (violation : Violation) :
    (violation.below path).path = path ++ violation.path := rfl

theorem below_below (path path' : DocumentPath) (violation : Violation) :
    (violation.below path').below path = violation.below (path ++ path') := by
  simp [below]

/-- The path of a violation leads to a value that breaks the grammar as its reason says. -/
def IsAt (violation : Violation) (value : Json) : Prop :=
  ∃ place, value.at? violation.path = some place ∧ violation.reason.Fits place

/-- A violation of an object lies in the object itself or in one of its members. -/
def IsOwn (members : Members Json) (violation : Violation) : Prop :=
  (violation.path = [] ∧ violation.reason.Fits (.object members)) ∨
    ∃ key value, violation.path = [.key key] ∧ members.get? key = some value ∧
      violation.reason.Fits value

variable {members : Members Json} {violation : Violation}

theorem IsOwn.isAt (h : violation.IsOwn members) : violation.IsAt (.object members) := by
  obtain ⟨hpath, hfits⟩ | ⟨key, value, hpath, hget, hfits⟩ := h
  · exact ⟨_, by rw [hpath]; rfl, hfits⟩
  · exact ⟨value, by simp [hpath, Json.at?, Json.step?, Json.member?, hget], hfits⟩

theorem IsOwn.length_path_le (h : violation.IsOwn members) : violation.path.length ≤ 1 := by
  obtain ⟨hpath, -⟩ | ⟨key, value, hpath, -⟩ := h <;> simp [hpath]

end Violation

/-! ### Checks that do not depend on the place -/

/-- Where a value is shows only at the front of the path of its violation. -/
def Shifts {α : Type} (check : DocumentPath → Except Violation α) : Prop :=
  ∀ path, check path = (check []).mapError (Violation.below path)

namespace Shifts

variable {α β : Type} {check : DocumentPath → Except Violation α}

theorem ok (a : α) : Shifts fun _ => .ok a :=
  fun _ => rfl

theorem violation (steps : DocumentPath) (reason : ViolationReason) :
    Shifts fun path => (violationAt (path ++ steps) reason : Except Violation α) :=
  fun _ => rfl

theorem bind {next : DocumentPath → α → Except Violation β} (hcheck : Shifts check)
    (hnext : ∀ a, check [] = .ok a → Shifts (next · a)) :
    Shifts fun path => check path >>= next path := by
  intro path
  dsimp only
  rw [hcheck path]
  cases h : check [] with
  | ok a => exact hnext a h path
  | error own => rfl

theorem under (hcheck : Shifts check) (steps : DocumentPath) :
    Shifts fun path => check (path ++ steps) := by
  intro path
  dsimp only
  rw [hcheck (path ++ steps), List.nil_append, hcheck steps]
  cases check [] with
  | ok a => rfl
  | error own => exact congrArg Except.error (own.below_below path steps).symm

theorem eq_ok_iff (hcheck : Shifts check) {path : DocumentPath} {a : α} :
    check path = .ok a ↔ check [] = .ok a := by
  rw [hcheck path, mapError_eq_ok]

theorem eq_error_iff (hcheck : Shifts check) {path : DocumentPath} {violation : Violation} :
    check path = .error violation ↔
      ∃ own, check [] = .error own ∧ violation = own.below path := by
  rw [hcheck path]
  cases check [] <;> simp [Except.mapError, eq_comm]

end Shifts

/-- A check looks at an object and its members, but not into the members. -/
structure LooksAt (members : Members Json) {α : Type}
    (check : DocumentPath → Except Violation α) : Prop where
  /-- It does not depend on where the object is. -/
  shifts : Shifts check
  /-- The violation that it finds lies in the object itself or in one of its members. -/
  own : ∀ violation, check [] = .error violation → violation.IsOwn members

namespace LooksAt

variable {members : Members Json} {α β : Type} {check : DocumentPath → Except Violation α}

theorem ok (a : α) : LooksAt members fun _ => .ok a :=
  ⟨.ok a, nofun⟩

/-- A violation of the object itself. -/
theorem atObject {reason : ViolationReason} (h : reason.Fits (.object members)) :
    LooksAt members fun path => (violationAt path reason : Except Violation α) :=
  ⟨by simpa using Shifts.violation [] reason, fun _ hviolation =>
    Except.error.inj hviolation ▸ .inl ⟨rfl, h⟩⟩

/-- A violation of a member. -/
theorem atMember {key : String} {value : Json} (hget : members.get? key = some value)
    {reason : ViolationReason} (h : reason.Fits value) :
    LooksAt members fun path => (violationAt (path ++ [.key key]) reason : Except Violation α) :=
  ⟨.violation _ _, fun _ hviolation =>
    Except.error.inj hviolation ▸ .inr ⟨key, value, rfl, hget, h⟩⟩

theorem bind {next : DocumentPath → α → Except Violation β} (hcheck : LooksAt members check)
    (hnext : ∀ a, check [] = .ok a → LooksAt members (next · a)) :
    LooksAt members fun path => check path >>= next path := by
  refine ⟨hcheck.shifts.bind fun a ha => (hnext a ha).shifts, fun violation h => ?_⟩
  obtain h | ⟨a, ha, h⟩ := bind_eq_error.1 h
  · exact hcheck.own violation h
  · exact (hnext a ha).own violation h

theorem discard (hcheck : LooksAt members check) :
    LooksAt members fun path => Functor.discard (check path) := by
  have hdiscard : (fun path => Functor.discard (check path)) =
      fun path => check path >>= fun _ => .ok () := by
    funext path
    cases check path <;> rfl
  rw [hdiscard]
  exact hcheck.bind fun _ _ => .ok ()

/-- A check that is left out unless a condition holds. -/
theorem iteStep {c : Prop} [Decidable c] {check : DocumentPath → Except Violation Unit}
    {next : DocumentPath → Unit → Except Violation β} (hcheck : c → LooksAt members check)
    (hnext : LooksAt members (next · ())) :
    LooksAt members fun path => if c then check path >>= next path else next path () := by
  split_ifs with hc
  · exact (hcheck hc).bind fun _ _ => hnext
  · exact hnext

theorem forM {γ : Type} {check : DocumentPath → γ → Except Violation Unit} {xs : List γ}
    (hcheck : ∀ x ∈ xs, LooksAt members (check · x)) :
    LooksAt members fun path => xs.forM (check path) := by
  induction xs with
  | nil => exact .ok ()
  | cons x rest ih =>
    obtain ⟨hx, hrest⟩ := List.forall_mem_cons.1 hcheck
    exact hx.bind fun _ _ => ih hrest

end LooksAt

/-! ### Members -/

section Members

variable {members : Members Json}

theorem looksAt_requireFields (fields : List String) :
    LooksAt members fun path => requireFields path members fields := by
  unfold requireFields
  cases hfind : fields.find? fun field => (members.get? field).isNone with
  | none => exact .ok ()
  | some field =>
    have hmissing := List.find?_some hfind
    exact .atObject ⟨members, rfl, by simpa using hmissing⟩

theorem looksAt_requireString (field : String) :
    LooksAt members fun path => requireString path members field := by
  unfold requireString
  cases hget : members.get? field with
  | none => exact .atObject ⟨members, rfl, hget⟩
  | some value =>
    cases value with
    | string text => exact .ok text
    | null | bool _ | number _ | array _ | object _ => exact .atMember hget ⟨nofun, rfl⟩

theorem looksAt_requireArray (field : String) :
    LooksAt members fun path => requireArray path members field := by
  unfold requireArray
  cases hget : members.get? field with
  | none => exact .atObject ⟨members, rfl, hget⟩
  | some value =>
    cases value with
    | array items => exact .ok items
    | null | bool _ | number _ | string _ | object _ => exact .atMember hget ⟨nofun, rfl⟩

theorem looksAt_requireWord (field : String) (allowed : List String) :
    LooksAt members fun path => requireWord path members field allowed := by
  refine (looksAt_requireString field).bind fun text htext => ?_
  split_ifs with hallowed
  · exact .ok ()
  · exact .atMember (requireString_eq_ok.1 htext) ⟨rfl, by simpa using hallowed⟩

theorem looksAt_statedKind? : LooksAt members fun path => statedKind? path members := by
  unfold statedKind?
  cases hget : members.get? "kind" with
  | none => exact .ok none
  | some value =>
    cases value with
    | string stated =>
      cases hkind : NodeKind.ofName? stated with
      | some kind => simpa only [hkind] using .ok (some kind)
      | none => simpa only [hkind] using .atMember hget ⟨rfl, hkind⟩
    | null | bool _ | number _ | array _ | object _ => exact .atMember hget ⟨nofun, rfl⟩

theorem looksAt_resolveKind (expected : Option NodeKind) :
    LooksAt members fun path => resolveKind path members expected := by
  refine looksAt_statedKind?.bind fun stated hstated => ?_
  rw [statedKind?_eq_ok] at hstated
  cases expected with
  | none => cases stated <;> exact .ok _
  | some expected =>
    cases stated with
    | none => exact .ok expected
    | some stated =>
      dsimp only
      split_ifs with hkind
      · exact .ok expected
      · exact .atMember hstated ⟨rfl, hkind⟩

theorem looksAt_checkParamMembers : LooksAt members fun path => checkParamMembers path members :=
  (looksAt_requireFields paramFields).bind fun _ _ =>
    .bind (.forM fun key _ => (looksAt_requireString key).discard) fun _ _ =>
      (looksAt_requireWord "type" paramTypeWords).bind fun _ _ =>
        (looksAt_requireWord "required" truthWords).bind fun _ _ =>
          looksAt_requireWord "param_type" paramKindWords

theorem looksAt_checkNodeMembers (expected : Option NodeKind) :
    LooksAt members fun path => checkNodeMembers path members expected := by
  have hchildren : ∀ field ∈ ["groups", "commands"], LooksAt members fun path =>
      if (members.get? field).isSome then
        (violationAt (path ++ [.key field]) (.childrenOfCommand field) : Except Violation Unit)
      else .ok () := by
    intro field hfield
    split_ifs with hsome
    · obtain ⟨value, hget⟩ := Option.isSome_iff_exists.1 hsome
      exact .atMember hget (by simpa [ViolationReason.Fits] using hfield)
    · exact .ok ()
  refine (looksAt_resolveKind expected).bind fun kind _ => ?_
  refine (looksAt_requireFields _).bind fun _ _ => ?_
  refine .iteStep (fun _ => .forM hchildren) ?_
  refine (looksAt_requireString "name").discard.bind fun _ _ => ?_
  refine (looksAt_requireString "help").discard.bind fun _ _ => ?_
  refine (looksAt_requireWord "hidden" truthWords).bind fun _ _ => ?_
  refine .iteStep (fun _ => (looksAt_requireString "permission").discard) ?_
  refine (looksAt_requireArray "params").discard.bind fun _ _ => ?_
  split_ifs
  · exact (looksAt_requireArray "commands").discard.bind fun _ _ =>
      (looksAt_requireArray "groups").discard.bind fun _ _ => .ok kind
  · exact .ok kind

end Members

/-! ### Lists of items -/

/-- Checks items one after the other, of which the first one has the given index. -/
def checkInOrder (check : DocumentPath → Json → Except Violation Unit) (path : DocumentPath)
    (index : Nat) : List Json → Except Violation Unit
  | [] => .ok ()
  | item :: rest => do
    check (path ++ [.index index]) item
    checkInOrder check path (index + 1) rest

theorem checkParams_eq (path : DocumentPath) (index : Nat) (params : List Json) :
    checkParams path index params = checkInOrder checkParam path index params := by
  induction params generalizing index with
  | nil => rfl
  | cons param rest ih => rw [checkParams, checkInOrder, ih]

theorem checkNodes_eq (expected : Option NodeKind) (path : DocumentPath) (index : Nat)
    (nodes : List Json) :
    checkNodes expected path index nodes = checkInOrder (checkNode expected) path index nodes := by
  induction nodes generalizing index with
  | nil => rfl
  | cons node rest ih => rw [checkNodes, checkInOrder, ih]

section Items

variable {check : DocumentPath → Json → Except Violation Unit} {items : List Json}

theorem Shifts.checkInOrder (h : ∀ item ∈ items, Shifts (check · item)) (index : Nat) :
    Shifts fun path => CommandTree.checkInOrder check path index items := by
  induction items generalizing index with
  | nil => exact .ok ()
  | cons item rest ih =>
    obtain ⟨hitem, hrest⟩ := List.forall_mem_cons.1 h
    exact (hitem.under [.index index]).bind fun _ _ => ih hrest (index + 1)

theorem checkInOrder_eq_ok (h : ∀ item ∈ items, Shifts (check · item)) {path : DocumentPath}
    {index : Nat} :
    checkInOrder check path index items = .ok () ↔ ∀ item ∈ items, check [] item = .ok () := by
  induction items generalizing index with
  | nil => simp [checkInOrder]
  | cons item rest ih =>
    obtain ⟨hitem, hrest⟩ := List.forall_mem_cons.1 h
    rw [checkInOrder, step_eq_ok, hitem.eq_ok_iff, ih hrest, List.forall_mem_cons]

/-- **Items fail with the violation of the first one that fails**, below its index. -/
theorem checkInOrder_eq_error (h : ∀ item ∈ items, Shifts (check · item)) {path : DocumentPath}
    {index : Nat} {violation : Violation} :
    checkInOrder check path index items = .error violation ↔
      ∃ before item after own, items = before ++ item :: after ∧
        (∀ earlier ∈ before, check [] earlier = .ok ()) ∧ check [] item = .error own ∧
        violation = own.below (path ++ [.index (index + before.length)]) := by
  induction items generalizing index with
  | nil => simp [checkInOrder]
  | cons item rest ih =>
    obtain ⟨hitem, hrest⟩ := List.forall_mem_cons.1 h
    rw [checkInOrder]
    constructor
    · intro hfails
      obtain hfirst | ⟨_, hfirst, hfails⟩ := bind_eq_error.1 hfails
      · obtain ⟨own, hown, hviolation⟩ := hitem.eq_error_iff.1 hfirst
        exact ⟨[], item, rest, own, rfl, by simp, hown, hviolation⟩
      · obtain ⟨before, bad, after, own, rfl, hbefore, hown, hviolation⟩ := (ih hrest).1 hfails
        refine ⟨item :: before, bad, after, own, rfl,
          List.forall_mem_cons.2 ⟨hitem.eq_ok_iff.1 hfirst, hbefore⟩, hown, ?_⟩
        rw [hviolation, List.length_cons, Nat.add_assoc, Nat.add_comm 1]
    · rintro ⟨before, bad, after, own, hitems, hbefore, hown, hviolation⟩
      cases before with
      | nil =>
        obtain ⟨rfl, rfl⟩ := List.cons.inj hitems
        exact bind_eq_error.2 (.inl (hitem.eq_error_iff.2 ⟨own, hown, hviolation⟩))
      | cons first before =>
        obtain ⟨rfl, rfl⟩ := List.cons.inj hitems
        obtain ⟨hfirst, hbefore⟩ := List.forall_mem_cons.1 hbefore
        rw [hitem.eq_ok_iff.2 hfirst, ok_bind, ih hrest]
        refine ⟨before, bad, after, own, rfl, hbefore, hown, ?_⟩
        rw [hviolation, List.length_cons, Nat.add_assoc, Nat.add_comm 1]

end Items

/-! ### Parameters and nodes -/

theorem shifts_checkParam (param : Json) : Shifts fun path => checkParam path param := by
  cases param with
  | object members => exact looksAt_checkParamMembers.shifts
  | null | bool _ | number _ | string _ | array _ =>
    simpa [checkParam] using Shifts.violation [] (.wrongShape .object _)

/-- The violation of a parameter lies in the parameter itself or in one of its members. -/
theorem isAt_of_checkParam {param : Json} {violation : Violation}
    (h : checkParam [] param = .error violation) :
    violation.IsAt param ∧ violation.path.length ≤ 1 := by
  cases param with
  | object members =>
    have hown := looksAt_checkParamMembers.own violation h
    exact ⟨hown.isAt, hown.length_path_le⟩
  | null | bool _ | number _ | string _ | array _ =>
    obtain rfl := Except.error.inj h
    exact ⟨⟨_, rfl, nofun, rfl⟩, Nat.zero_le 1⟩

theorem shifts_checkNode (expected : Option NodeKind) (value : Json) :
    Shifts fun path => checkNode expected path value := by
  match value with
  | .object members =>
    have hchildren : ∀ (kind : NodeKind) (field : String), Shifts fun path =>
        checkChildren kind field path members := by
      intro kind field
      simp only [checkChildren_eq]
      cases hget : Members.get? members field with
      | none => exact .ok ()
      | some value =>
        cases value with
        | array items =>
          have hitems : Shifts fun path => checkNodes (some kind) path 0 items := by
            simp only [checkNodes_eq]
            refine .checkInOrder (fun item hitem => ?_) 0
            have hsmaller :=
              Nat.lt_trans (Json.sizeOf_lt_of_mem hitem) (Json.sizeOf_lt_of_get? hget)
            exact shifts_checkNode (some kind) item
          exact hitems.under [.key field]
        | null | bool _ | number _ | string _ | object _ => exact .ok ()
    simp only [checkNode, checkParams_eq]
    refine (looksAt_checkNodeMembers expected).shifts.bind fun kind _ => ?_
    refine (looksAt_requireArray "params").shifts.bind fun params _ => ?_
    refine Shifts.bind ((Shifts.checkInOrder (fun param _ => shifts_checkParam param) 0).under
      [.key "params"]) fun _ _ => ?_
    split_ifs
    · exact (hchildren .command "commands").bind fun _ _ => hchildren .group "groups"
    · exact .ok ()
  | .null | .bool _ | .number _ | .string _ | .array _ =>
    simpa [checkNode] using Shifts.violation [] (.wrongShape .object _)
termination_by sizeOf value
decreasing_by exact hsmaller

end CommandTree
