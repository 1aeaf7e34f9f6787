import CommandTree.OrderedMap
import Mathlib.Data.List.Dedup
import Mathlib.Data.List.Forall2

/-!
# Members and their keys

* `Members.get?_eq_some_of_mem` and `Members.mem_of_get?_eq_some` : with distinct keys, the members
  of a list are what is found under its keys.
* `Members.rel_get?` : lists of members that match one by one agree on every key.
* `OrderedMap.length_ofList_eq_iff` : a map made of members keeps all of them exactly if their keys
  are distinct.
* `OrderedMap.mapValues` changes the values of a map and leaves its keys as they are.
-/

namespace CommandTree

variable {α β : Type}

@[simp] theorem Members.get?_nil (key : String) : Members.get? ([] : Members α) key = none := rfl

theorem Members.rel_get? {r : String → α → β → Prop} {xs : Members α} {ys : Members β}
    (h : List.Forall₂ (fun x y => x.1 = y.1 ∧ r x.1 x.2 y.2) xs ys) (key : String) :
    Option.Rel (r key) (xs.get? key) (ys.get? key) := by
  induction h with
  | nil => exact .none
  | @cons x y xs ys hxy _ ih =>
    obtain ⟨hkey, hr⟩ := hxy
    rw [get?_cons, get?_cons, ← hkey]
    split_ifs with heq
    · subst heq
      exact .some hr
    · exact ih

theorem Members.keys_eq_of_forall₂ {r : String → α → β → Prop} {xs : Members α} {ys : Members β}
    (h : List.Forall₂ (fun x y => x.1 = y.1 ∧ r x.1 x.2 y.2) xs ys) : xs.keys = ys.keys := by
  induction h with
  | nil => rfl
  | cons hxy _ ih =>
    simp only [keys] at ih
    simp [keys, hxy.1, ih]

theorem Members.rel_erase {r : String → α → β → Prop} {xs : Members α} {ys : Members β}
    (h : List.Forall₂ (fun x y => x.1 = y.1 ∧ r x.1 x.2 y.2) xs ys) (key : String) :
    List.Forall₂ (fun x y => x.1 = y.1 ∧ r x.1 x.2 y.2) (xs.erase key) (ys.erase key) := by
  induction h with
  | nil => exact .nil
  | @cons x y xs ys hxy _ ih =>
    by_cases hkey : x.1 = key
    · have hkey' : y.1 = key := hxy.1 ▸ hkey
      rw [erase, erase, List.filter_cons_of_neg (by simp [hkey]),
        List.filter_cons_of_neg (by simp [hkey'])]
      exact ih
    · have hkey' : y.1 ≠ key := hxy.1 ▸ hkey
      rw [erase, erase, List.filter_cons_of_pos (by simp [hkey]),
        List.filter_cons_of_pos (by simp [hkey'])]
      exact .cons hxy ih

theorem Members.get?_eq_some_of_mem {members : Members α} (distinct : members.keys.Nodup)
    {key : String} {value : α} (h : (key, value) ∈ members) : members.get? key = some value := by
  induction members with
  | nil => cases h
  | cons member rest ih =>
    simp only [keys, List.map_cons, List.nodup_cons] at distinct
    rw [get?_cons]
    obtain rfl | hrest := List.mem_cons.1 h
    · simp
    · have hne : key ≠ member.1 := fun heq => distinct.1 (heq ▸ List.mem_map_of_mem hrest)
      rw [if_neg hne]
      exact ih distinct.2 hrest

theorem Members.mem_of_get?_eq_some {members : Members α} {key : String} {value : α}
    (h : members.get? key = some value) : (key, value) ∈ members := by
  induction members with
  | nil => cases h
  | cons member rest ih =>
    rw [get?_cons] at h
    split_ifs at h with heq
    · obtain rfl := Option.some.inj h
      subst heq
      exact List.mem_cons_self
    · exact List.mem_cons_of_mem _ (ih h)

theorem Members.mem_keys_of_get?_eq_some {members : Members α} {key : String} {value : α}
    (h : members.get? key = some value) : key ∈ members.keys :=
  isSome_get?.1 (Option.isSome_iff_exists.2 ⟨value, h⟩)

theorem Members.get?_eq_none {members : Members α} {key : String} :
    members.get? key = none ↔ key ∉ members.keys := by
  rw [← isSome_get?, Option.not_isSome_iff_eq_none]

theorem Members.get?_map (f : α → β) (members : Members α) (key : String) :
    get? (members.map fun (k, value) => (k, f value)) key = (members.get? key).map f := by
  induction members with
  | nil => rfl
  | cons member rest ih =>
    rw [List.map_cons, get?_cons, get?_cons, ih]
    split_ifs <;> rfl

theorem Members.get?_append (a b : Members α) (key : String) :
    get? (a ++ b) key = (a.get? key).or (b.get? key) := by
  induction a with
  | nil => rfl
  | cons member rest ih =>
    rw [List.cons_append, get?_cons, get?_cons, ih]
    split_ifs <;> rfl

theorem Members.erase_of_notMem {members : Members α} {key : String} (h : key ∉ members.keys) :
    members.erase key = members := by
  refine List.filter_eq_self.2 fun member hmember => ?_
  have hne : member.1 ≠ key := fun heq => h (heq ▸ List.mem_map_of_mem hmember)
  simp [hne]

theorem Members.erase_append (a b : Members α) (key : String) :
    Members.erase key (a ++ b) = a.erase key ++ b.erase key :=
  List.filter_append _ _

theorem Members.forall_mem_insert {p : α → Prop} {members : Members α} {key : String} {value : α}
    (hvalue : p value) (h : ∀ member ∈ members, p member.2) :
    ∀ member ∈ members.insert key value, p member.2 := by
  induction members with
  | nil => simpa [insert] using hvalue
  | cons member rest ih =>
    obtain ⟨hmember, hrest⟩ := List.forall_mem_cons.1 h
    by_cases hkey : member.1 = key
    · simp only [insert, if_pos hkey]
      exact List.forall_mem_cons.2 ⟨hvalue, hrest⟩
    · simp only [insert, if_neg hkey]
      exact List.forall_mem_cons.2 ⟨hmember, ih hrest⟩

theorem Members.forall_mem_insertAll {p : α → Prop} {members more : Members α}
    (h : ∀ member ∈ members, p member.2) (hmore : ∀ member ∈ more, p member.2) :
    ∀ member ∈ members.insertAll more, p member.2 := by
  induction more generalizing members with
  | nil => exact h
  | cons member rest ih =>
    obtain ⟨hmember, hrest⟩ := List.forall_mem_cons.1 hmore
    exact ih (forall_mem_insert hmember h) hrest

theorem Members.insert_of_nodup {done rest : Members α} {key : String} {value : α}
    (distinct : (keys (done ++ (key, value) :: rest)).Nodup) :
    done.insert key value = done ++ [(key, value)] := by
  refine insert_of_notMem value fun hmem => ?_
  simp only [keys, List.map_append, List.map_cons, List.nodup_append] at distinct
  exact distinct.2.2 key hmem key List.mem_cons_self rfl

theorem Members.map_keys_getD {members : Members α} (distinct : members.keys.Nodup) (other : α) :
    (members.keys.map fun key => (key, (members.get? key).getD other)) = members := by
  rw [keys, List.map_map]
  conv_rhs => rw [← List.map_id members]
  refine List.map_congr_left fun member hmember => ?_
  simp [get?_eq_some_of_mem distinct hmember]

theorem Members.mem_keys_insertAll {members more : Members α} {key : String} :
    key ∈ (members.insertAll more).keys ↔ key ∈ members.keys ∨ key ∈ more.keys := by
  induction more generalizing members with
  | nil => simp [insertAll, keys]
  | cons member rest ih =>
    change key ∈ (insertAll (members.insert member.1 member.2) rest).keys ↔ _
    rw [ih, mem_keys_insert, keys, keys, keys, List.map_cons, List.mem_cons]
    tauto

theorem OrderedMap.mem_keys_ofList {members : Members α} {key : String} :
    key ∈ (ofList members).keys ↔ key ∈ members.keys := by
  rw [keys, ofList, Members.mem_keys_insertAll]
  simp [Members.keys]

/-- A map made of members keeps all of them exactly if their keys are distinct. -/
theorem OrderedMap.length_ofList_eq_iff {members : Members α} :
    (ofList members).toList.length = members.length ↔ members.keys.Nodup := by
  constructor
  · intro hlength
    -- the keys of the map are those of the members without repetitions
    have hperm : (ofList members).keys.Perm members.keys.dedup :=
      (List.perm_ext_iff_of_nodup (ofList members).distinct (List.nodup_dedup _)).2 fun key =>
        mem_keys_ofList.trans List.mem_dedup.symm
    have hkeys := hperm.length_eq
    rw [keys, Members.keys, List.length_map, hlength] at hkeys
    have hdedup : members.keys.dedup = members.keys :=
      (List.dedup_sublist members.keys).eq_of_length (by rw [← hkeys, Members.keys, List.length_map])
    exact List.dedup_eq_self.1 hdedup
  · intro distinct
    rw [toList_ofList distinct]

theorem OrderedMap.get?_ofList {members : Members α} (distinct : members.keys.Nodup)
    (key : String) : (ofList members).get? key = members.get? key := by
  rw [get?, toList_ofList distinct]

/-- The members of a map are what it has under its keys. -/
theorem OrderedMap.forall_mem_iff {map : OrderedMap α} {p : String × α → Prop} :
    (∀ member ∈ map.toList, p member) ↔
      ∀ key value, map.get? key = some value → p (key, value) := by
  constructor
  · intro h key value hget
    exact h (key, value) (Members.mem_of_get?_eq_some hget)
  · intro h member hmember
    exact h member.1 member.2 (Members.get?_eq_some_of_mem map.distinct hmember)

theorem Members.keys_map (f : String → α → β) (members : Members α) :
    keys (members.map fun member => (member.1, f member.1 member.2)) = members.keys := by
  rw [keys, List.map_map]
  rfl

/-- The same keys in the same order; every value is made from the key and the value before. -/
def OrderedMap.mapValues (f : String → α → β) (map : OrderedMap α) : OrderedMap β :=
  ⟨map.toList.map fun member => (member.1, f member.1 member.2),
    (Members.keys_map f map.toList).symm ▸ map.distinct⟩

namespace OrderedMap

variable (f : String → α → β) (map : OrderedMap α)

theorem toList_mapValues :
    (map.mapValues f).toList = map.toList.map fun member => (member.1, f member.1 member.2) :=
  rfl

theorem keys_mapValues : (map.mapValues f).keys = map.keys :=
  Members.keys_map f map.toList

theorem get?_mapValues (key : String) :
    (map.mapValues f).get? key = (map.get? key).map (f key) := by
  rw [get?, get?, toList_mapValues]
  induction map.toList with
  | nil => rfl
  | cons member rest ih =>
    rw [List.map_cons, Members.get?_cons, Members.get?_cons, ih]
    split_ifs with h
    · rw [h, Option.map_some]
    · rfl

theorem erase_mapValues (key : String) :
    (map.mapValues f).erase key = (map.erase key).mapValues f := by
  refine ext ?_
  show Members.erase key (map.mapValues f).toList = (map.erase key |>.mapValues f).toList
  rw [toList_mapValues, toList_mapValues, Members.erase, List.filter_map]
  rfl

end OrderedMap

end CommandTree
