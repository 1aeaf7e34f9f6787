/-!
# Ordered maps

Documents and declarations list named values in an order that matters when they are written out
again.  An ordered map holds every key once, at the place where it was first inserted, with the
value that was inserted last.

* `Members.insert` and `Members.erase` work on bare lists of members; `get?_insert` and `get?_erase`
  say what they do to the values.
* `OrderedMap` is a list of members with distinct keys; `OrderedMap.ofList` inserts one member after
  the other, and gives members with distinct keys back as they are.
-/

namespace CommandTree

variable {α : Type}

/-! ### Bare members -/

/-- A list of named values. -/
abbrev Members (α : Type) := List (String × α)

namespace Members

/-- The keys in order. -/
def keys (members : Members α) : List String :=
  members.map (·.1)

/-- Replaces the value of a key where it stands, or adds a new key at the end. -/
def insert (key : String) (value : α) : Members α → Members α
  | [] => [(key, value)]
  | (k, v) :: rest => if k = key then (k, value) :: rest else (k, v) :: insert key value rest

/-- The value of a key. -/
def get? (members : Members α) (key : String) : Option α :=
  members.lookup key

/-- Drops a key and its value. -/
def erase (key : String) (members : Members α) : Members α :=
  members.filter (·.1 ≠ key)

/-- Inserts the members of the second list one after the other. -/
def insertAll (members : Members α) (more : Members α) : Members α :=
  more.foldl (fun done member => done.insert member.1 member.2) members

theorem get?_cons (member : String × α) (rest : Members α) (k : String) :
    get? (member :: rest) k = if k = member.1 then some member.2 else get? rest k := by
  obtain ⟨key, value⟩ := member
  by_cases h : k = key
  · subst h
    simp [get?]
  · simp [get?, List.lookup_cons, beq_false_of_ne h, h]

theorem get?_insert (members : Members α) (key k : String) (value : α) :
    (members.insert key value).get? k = if k = key then some value else members.get? k := by
  induction members with
  | nil => simp [insert, get?_cons]
  | cons member rest ih =>
    by_cases h : member.1 = key
    · subst h
      by_cases hk : k = member.1 <;> simp [insert, get?_cons, hk]
    · by_cases hk : k = member.1
      · subst hk
        simp [insert, get?_cons, h]
      · simp [insert, get?_cons, h, hk, ih]

theorem get?_erase (members : Members α) (key k : String) :
    (members.erase key).get? k = if k = key then none else members.get? k := by
  induction members with
  | nil => simp [erase, get?]
  | cons member rest ih =>
    simp only [erase, ne_eq, decide_not] at ih
    by_cases h : member.1 = key
    · subst h
      by_cases hk : k = member.1
      · simpa [erase, hk] using ih
      · simp [erase, get?_cons, hk, ih]
    · by_cases hk : k = member.1
      · subst hk
        simp [erase, get?_cons, h]
      · simp [erase, get?_cons, h, hk, ih]

theorem isSome_get? {members : Members α} {key : String} :
    (members.get? key).isSome ↔ key ∈ members.keys := by
  induction members with
  | nil => simp [get?, keys]
  | cons member rest ih =>
    simp only [keys] at ih
    by_cases h : key = member.1
    · simp [get?_cons, keys, h]
    · simp [get?_cons, keys, h, ih]

theorem insert_of_notMem {members : Members α} {key : String} (value : α)
    (fresh : key ∉ members.keys) : members.insert key value = members ++ [(key, value)] := by
  induction members with
  | nil => rfl
  | cons member rest ih =>
    simp only [keys, List.map_cons, List.mem_cons, not_or] at fresh ih
    simp [insert, Ne.symm fresh.1, ih fresh.2]

theorem insertAll_of_nodup {members more : Members α}
    (distinct : (members ++ more).keys.Nodup) : members.insertAll more = members ++ more := by
  induction more generalizing members with
  | nil => simp [insertAll]
  | cons member rest ih =>
    have fresh : member.1 ∉ members.keys := by
      simp only [keys, List.map_append, List.map_cons, List.nodup_append] at distinct
      exact fun h => distinct.2.2 _ h _ (List.mem_cons_self ..) rfl
    have := @ih (members ++ [member]) (by simpa [keys] using distinct)
    simp only [insertAll, List.foldl_cons, insert_of_notMem member.2 fresh] at this ⊢
    simpa using this

theorem mem_keys_insert {members : Members α} {key k : String} {value : α} :
    k ∈ (members.insert key value).keys ↔ k = key ∨ k ∈ members.keys := by
  induction members with
  | nil => simp [insert, keys]
  | cons member rest ih =>
    obtain ⟨k', v'⟩ := member
    simp only [keys, List.map_cons, List.mem_cons] at ih ⊢
    by_cases h : k' = key
    · subst h
      simp [insert]
    · simp only [insert, if_neg h, List.map_cons, List.mem_cons, ih]
      constructor
      · rintro (h | h | h) <;> simp [h]
      · rintro (h | h | h) <;> simp [h]

theorem nodup_keys_insert {members : Members α} (key : String) (value : α)
    (distinct : members.keys.Nodup) : (members.insert key value).keys.Nodup := by
  induction members with
  | nil => simp [insert, keys]
  | cons member rest ih =>
    obtain ⟨k', v'⟩ := member
    simp only [keys, List.map_cons, List.nodup_cons] at distinct
    by_cases h : k' = key
    · simp only [insert, if_pos h, keys, List.map_cons, List.nodup_cons]
      exact distinct
    · have fresh : k' ∉ (insert key value rest).keys := by
        rw [mem_keys_insert]
        rintro (h' | h')
        · exact h h'
        · exact distinct.1 h'
      simp only [insert, if_neg h, keys, List.map_cons, List.nodup_cons]
      exact ⟨fresh, ih distinct.2⟩

theorem nodup_keys_insertAll {members : Members α} (more : Members α)
    (distinct : members.keys.Nodup) : (members.insertAll more).keys.Nodup := by
  induction more generalizing members with
  | nil => exact distinct
  | cons member rest ih => exact ih (nodup_keys_insert _ _ distinct)

theorem nodup_keys_erase {members : Members α} (key : String)
    (distinct : members.keys.Nodup) : (members.erase key).keys.Nodup :=
  distinct.sublist (List.filter_sublist.map _)

end Members

/-! ### Maps with distinct keys -/

/-- A map that remembers the order in which its keys arrived. -/
structure OrderedMap (α : Type) where
  /-- The members in order. -/
  toList : Members α
  /-- No key stands twice. -/
  distinct : toList.keys.Nodup
  deriving DecidableEq

namespace OrderedMap

/-- The map without members. -/
def empty : OrderedMap α :=
  ⟨[], by simp [Members.keys]⟩

instance : Inhabited (OrderedMap α) := ⟨empty⟩

/-- The keys in order. -/
def keys (map : OrderedMap α) : List String :=
  map.toList.keys

/-- The value of a key. -/
def get? (map : OrderedMap α) (key : String) : Option α :=
  map.toList.get? key

/-- Replaces the value of a key where it stands, or adds a new key at the end. -/
def insert (map : OrderedMap α) (key : String) (value : α) : OrderedMap α :=
  ⟨map.toList.insert key value, Members.nodup_keys_insert key value map.distinct⟩

/-- Drops a key and its value. -/
def erase (map : OrderedMap α) (key : String) : OrderedMap α :=
  ⟨map.toList.erase key, Members.nodup_keys_erase key map.distinct⟩

/-- Inserts the members one after the other into an empty map: a key that comes again keeps its
place and takes the later value. -/
def ofList (members : Members α) : OrderedMap α :=
  ⟨Members.insertAll [] members, Members.nodup_keys_insertAll members (by simp [Members.keys])⟩

theorem ext {a b : OrderedMap α} (h : a.toList = b.toList) : a = b := by
  cases a; cases b; cases h; rfl

theorem get?_insert (map : OrderedMap α) (key k : String) (value : α) :
    (map.insert key value).get? k = if k = key then some value else map.get? k :=
  Members.get?_insert map.toList key k value

theorem get?_erase (map : OrderedMap α) (key k : String) :
    (map.erase key).get? k = if k = key then none else map.get? k :=
  Members.get?_erase map.toList key k

theorem toList_ofList {members : Members α} (distinct : members.keys.Nodup) :
    (ofList members).toList = members :=
  @Members.insertAll_of_nodup _ [] _ distinct

theorem ofList_toList (map : OrderedMap α) : ofList map.toList = map :=
  ext (toList_ofList map.distinct)

end OrderedMap

end CommandTree
