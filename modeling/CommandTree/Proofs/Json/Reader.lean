import CommandTree.Json.Reader
import CommandTree.Proofs.Json.Basic
import CommandTree.Proofs.Outcome

/-!
# Values that are read from JSON texts

* `Json.distinctKeys_of_parse` : in a value that was read from a text no object lists a key twice.
-/

namespace CommandTree

namespace Json

@[simp] theorem failAt_ne_ok {α : Type} {cause : Cause} {rest : List Char} {a : α} :
    failAt cause rest ≠ .ok a :=
  nofun

@[simp] theorem failBefore_ne_ok {α : Type} {cause : Cause} {rest : List Char} {a : α} :
    failBefore cause rest ≠ .ok a :=
  nofun

theorem eq_of_readName {value result : Json} {name text rest : List Char}
    (h : readName value name text = .ok (result, rest)) : result = value := by
  induction name generalizing text with
  | nil =>
    simp only [readName, Except.ok.injEq, Prod.mk.injEq] at h
    exact h.1.symm
  | cons c name ih =>
    cases text with
    | nil => exact absurd h failBefore_ne_ok
    | cons d text =>
      rw [readName] at h
      split at h
      · exact ih h
      · exact absurd h failAt_ne_ok

/-! ### One step of each reader -/

section Steps

variable {fuel levels : Nat} {text rest : List Char} {value : Json}

/-- What the readers of values, items and members guarantee if they have some fuel. -/
structure ReadsDistinct (fuel : Nat) : Prop where
  /-- A value has distinct keys. -/
  value : ∀ {levels text value rest}, readValue fuel levels text = .ok (value, rest) →
    value.DistinctKeys
  /-- An array has distinct keys if the items before have. -/
  items : ∀ {levels done text value rest}, (∀ item ∈ done, item.DistinctKeys) →
    readItems fuel levels done text = .ok (value, rest) → value.DistinctKeys
  /-- An object has distinct keys if the members before have. -/
  members : ∀ {levels done text value rest}, (object done).DistinctKeys →
    readMembers fuel levels done text = .ok (value, rest) → value.DistinctKeys

theorem ReadsDistinct.readValue_succ (ih : ReadsDistinct fuel)
    (h : readValue (fuel + 1) levels text = .ok (value, rest)) : value.DistinctKeys := by
  rw [readValue] at h
  split at h
  · exact absurd h failBefore_ne_ok
  · rw [eq_of_readName h]
    exact .null
  · rw [eq_of_readName h]
    exact .bool true
  · rw [eq_of_readName h]
    exact .bool false
  · obtain ⟨⟨text, _⟩, -, h⟩ := bind_eq_ok.1 h
    cases h
    exact .string text
  · obtain ⟨⟨n, _⟩, -, h⟩ := bind_eq_ok.1 h
    cases h
    exact .number n
  · split at h
    · exact absurd h failAt_ne_ok
    · split at h
      · exact absurd h failBefore_ne_ok
      · cases h
        simp
      · exact ih.items (by simp) h
  · split at h
    · exact absurd h failAt_ne_ok
    · split at h
      · exact absurd h failBefore_ne_ok
      · cases h
        simp [Members.keys]
      · exact ih.members (by simp [Members.keys]) h
      · exact absurd h failAt_ne_ok
  · split at h
    · obtain ⟨⟨n, _⟩, -, h⟩ := bind_eq_ok.1 h
      cases h
      exact .number n
    · exact absurd h failAt_ne_ok

theorem ReadsDistinct.readItems_succ (ih : ReadsDistinct fuel) {done : List Json}
    (hdone : ∀ item ∈ done, item.DistinctKeys)
    (h : readItems (fuel + 1) levels done text = .ok (value, rest)) : value.DistinctKeys := by
  rw [readItems] at h
  obtain ⟨⟨item, after⟩, hitem, h⟩ := bind_eq_ok.1 h
  have hdone' : ∀ other ∈ item :: done, other.DistinctKeys :=
    List.forall_mem_cons.2 ⟨ih.value hitem, hdone⟩
  simp only at h
  split at h
  · exact absurd h failBefore_ne_ok
  · cases h
    exact .array fun other hother => hdone' other (List.mem_reverse.1 hother)
  · split at h
    · exact absurd h failBefore_ne_ok
    · exact absurd h failAt_ne_ok
    · exact ih.items hdone' h
  · exact absurd h failAt_ne_ok

theorem ReadsDistinct.readMembers_succ (ih : ReadsDistinct fuel) {done : Members Json}
    (hdone : (object done).DistinctKeys)
    (h : readMembers (fuel + 1) levels done text = .ok (value, rest)) : value.DistinctKeys := by
  rw [readMembers] at h
  obtain ⟨⟨key, after⟩, -, h⟩ := bind_eq_ok.1 h
  simp only at h
  split at h
  · exact absurd h failBefore_ne_ok
  · obtain ⟨⟨member, after⟩, hmember, h⟩ := bind_eq_ok.1 h
    have hdone' : (object (done.insert key member)).DistinctKeys :=
      .object (Members.nodup_keys_insert key member hdone.keys_nodup)
        (Members.forall_mem_insert (ih.value hmember) (distinctKeys_object.1 hdone).2)
    simp only at h
    split at h
    · exact absurd h failBefore_ne_ok
    · cases h
      exact hdone'
    · split at h
      · exact absurd h failBefore_ne_ok
      · exact ih.members hdone' h
      · exact absurd h failAt_ne_ok
      · exact absurd h failAt_ne_ok
    · exact absurd h failAt_ne_ok
  · exact absurd h failAt_ne_ok

end Steps

/-! ### Whole texts -/

theorem readsDistinct (fuel : Nat) : ReadsDistinct fuel := by
  induction fuel with
  | zero =>
    refine ⟨fun h => ?_, fun _ h => ?_, fun _ h => ?_⟩
    · exact absurd h failBefore_ne_ok
    · exact absurd h failBefore_ne_ok
    · exact absurd h failBefore_ne_ok
  | succ fuel ih => exact ⟨ih.readValue_succ, ih.readItems_succ, ih.readMembers_succ⟩

/-- **In a value that was read from a text no object lists a key twice.** -/
theorem distinctKeys_of_parse {text : String} {value : Json} (h : parse text = .ok value) :
    value.DistinctKeys := by
  simp only [parse, bind_eq_ok] at h
  obtain ⟨⟨result, rest⟩, hread, h⟩ := h
  simp only at h
  split at h
  · obtain rfl : result = value := Except.ok.inj h
    exact (readsDistinct _).value hread
  · exact absurd h failAt_ne_ok

end Json

end CommandTree
