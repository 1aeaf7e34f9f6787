import CommandTree.Json.Basic
import CommandTree.Proofs.OrderedMap

/-!
# Recursion on values and distinct keys

* `Json.sizeOf_lt_of_mem` and `Json.sizeOf_lt_of_get?` : items and members are smaller than the
  value around them.
* `Json.DistinctKeys` holds of a value in which no object has two members with the same key.  Every
  value that a reader returns is of this kind.
-/

namespace CommandTree

namespace Json

/-! ### Smaller values -/

theorem sizeOf_lt_of_mem {item : Json} {items : List Json} (h : item ∈ items) :
    sizeOf item < sizeOf (array items) := by
  have := List.sizeOf_lt_of_mem h
  simp only [array.sizeOf_spec]
  omega

theorem sizeOf_lt_of_mem_members {member : String × Json} {members : Members Json}
    (h : member ∈ members) : sizeOf member.2 < sizeOf (object members) := by
  have := List.sizeOf_lt_of_mem h
  obtain ⟨key, value⟩ := member
  simp only [object.sizeOf_spec, Prod.mk.sizeOf_spec] at this ⊢
  omega

theorem sizeOf_lt_of_get? {key : String} {value : Json} {members : Members Json}
    (h : members.get? key = some value) : sizeOf value < sizeOf (object members) :=
  sizeOf_lt_of_mem_members (Members.mem_of_get?_eq_some h)

/-! ### Distinct keys -/

/-- No object of a value has two members with the same key. -/
inductive DistinctKeys : Json → Prop
  | null : DistinctKeys null
  | bool (value : Bool) : DistinctKeys (bool value)
  | number (value : Number) : DistinctKeys (number value)
  | string (value : String) : DistinctKeys (string value)
  | array {items : List Json} (hitems : ∀ item ∈ items, DistinctKeys item) :
      DistinctKeys (array items)
  | object {members : Members Json} (hkeys : members.keys.Nodup)
      (hmembers : ∀ member ∈ members, DistinctKeys member.2) : DistinctKeys (object members)

attribute [simp] DistinctKeys.null DistinctKeys.bool DistinctKeys.number DistinctKeys.string

@[simp] theorem distinctKeys_array {items : List Json} :
    (array items).DistinctKeys ↔ ∀ item ∈ items, item.DistinctKeys :=
  ⟨fun h => by cases h with | array hitems => exact hitems, .array⟩

@[simp] theorem distinctKeys_object {members : Members Json} :
    (object members).DistinctKeys ↔
      members.keys.Nodup ∧ ∀ member ∈ members, member.2.DistinctKeys :=
  ⟨fun h => by cases h with | object hkeys hmembers => exact ⟨hkeys, hmembers⟩,
    fun h => .object h.1 h.2⟩

theorem DistinctKeys.of_mem {item : Json} {items : List Json} (h : (Json.array items).DistinctKeys)
    (hitem : item ∈ items) : item.DistinctKeys :=
  distinctKeys_array.1 h item hitem

theorem DistinctKeys.keys_nodup {members : Members Json} (h : (Json.object members).DistinctKeys) :
    members.keys.Nodup :=
  (distinctKeys_object.1 h).1

theorem DistinctKeys.of_get? {key : String} {value : Json} {members : Members Json}
    (h : (Json.object members).DistinctKeys) (hvalue : members.get? key = some value) :
    value.DistinctKeys :=
  (distinctKeys_object.1 h).2 _ (Members.mem_of_get?_eq_some hvalue)

end Json

end CommandTree
