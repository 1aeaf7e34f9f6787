import CommandTree.Proofs.Json.Basic
import CommandTree.Yaml.Reader

/-!
# Values that are read from YAML texts

* `Json.distinctKeys_of_ofYaml?` : in a value that was read from a text no object lists a key twice.
-/

namespace CommandTree

namespace Yaml

/-! ### Scalars -/

theorem distinctKeys_of_decimal? {text : String} {value : Json} (h : decimal? text = some value) :
    value.DistinctKeys := by
  unfold decimal? at h
  split at h
  · cases h
    exact .null
  · obtain ⟨n, -, rfl⟩ := Option.map_eq_some_iff.1 h
    exact .number n

theorem PlainValue.distinctKeys_of_ofInteger? {n : Int} {value : Json}
    (h : ofInteger? n = some (.other value)) : value.DistinctKeys := by
  unfold ofInteger? at h
  split at h
  · cases h
    exact .number _
  · split at h <;> cases h

theorem PlainValue.distinctKeys_of_ofText {text : String} {value : Json}
    (h : ofText text = .other value) : value.DistinctKeys := by
  unfold ofText at h
  split at h
  · cases h
    exact .null
  · split at h
    · cases h
      exact .bool _
    · split at h
      · rename_i hinteger
        obtain ⟨n, -, hn⟩ := Option.bind_eq_some_iff.1 hinteger
        rw [h] at hn
        exact distinctKeys_of_ofInteger? hn
      · split at h
        · cases h
        · split at h
          · rename_i hdecimal
            cases h
            exact distinctKeys_of_decimal? hdecimal
          · cases h

namespace Node

theorem distinctKeys_of_plainValue? {text : String} {value : Json}
    (h : plainValue? text = some value) : value.DistinctKeys := by
  unfold plainValue? at h
  split at h
  · rename_i hplain
    cases h
    exact PlainValue.distinctKeys_of_ofText hplain
  · cases h
    exact .string text
  · cases h

theorem distinctKeys_of_taggedInteger? {text : String} {value : Json}
    (h : taggedInteger? text = some value) : value.DistinctKeys := by
  unfold taggedInteger? at h
  obtain ⟨n, -, h⟩ := Option.bind_eq_some_iff.1 h
  obtain ⟨plain, hplain, h⟩ := Option.bind_eq_some_iff.1 h
  split at h
  · cases h
    exact PlainValue.distinctKeys_of_ofInteger? hplain
  · cases h

theorem distinctKeys_of_scalarValue? {tag : Option Tag} {style : ScalarStyle} {text : String}
    {value : Json} (h : scalarValue? tag style text = some value) : value.DistinctKeys := by
  unfold scalarValue? at h
  split at h
  · split at h
    · exact distinctKeys_of_plainValue? h
    · cases h
      exact .string text
  · split at h
    · cases h
    · split at h
      · obtain ⟨b, -, rfl⟩ := Option.map_eq_some_iff.1 h
        exact .bool b
      · split at h
        · exact distinctKeys_of_taggedInteger? h
        · split at h
          · exact distinctKeys_of_decimal? h
          · split at h
            · split at h
              · cases h
                exact .null
              · cases h
            · split at h
              · exact distinctKeys_of_plainValue? h
              · cases h
                exact .string text

/-! ### Collections -/

section States

variable {α β : Type} {n m : Nat}

theorem bind_eq_some {x : StateT Nat Option α} {f : α → StateT Nat Option β} {b : β} :
    (x >>= f) n = some (b, m) ↔ ∃ a k, x n = some (a, k) ∧ f a k = some (b, m) := by
  change (x n).bind (fun step => f step.1 step.2) = some (b, m) ↔ _
  simp [Option.bind_eq_some_iff, Prod.exists]

/-- If every step gives results with a property, a sequence of steps does. -/
theorem forall_of_mapM_eq_some {f : α → StateT Nat Option β} {p : β → Prop} {xs : List α}
    (hf : ∀ x n y m, f x n = some (y, m) → p y) {ys : List β} (h : xs.mapM f n = some (ys, m)) :
    ∀ y ∈ ys, p y := by
  induction xs generalizing ys n with
  | nil =>
    cases h
    simp
  | cons x xs ih =>
    rw [List.mapM_cons] at h
    obtain ⟨y, k, hy, h⟩ := bind_eq_some.1 h
    obtain ⟨rest, k', hrest, h⟩ := bind_eq_some.1 h
    cases h
    exact List.forall_mem_cons.2 ⟨hf _ _ _ _ hy, ih hrest⟩

end States

theorem distinctKeys_of_scalarValue {tag : Option Tag} {style : ScalarStyle} {text : String}
    {n m : Nat} {value : Json} (h : scalarValue tag style text n = some (value, m)) :
    value.DistinctKeys := by
  rw [scalarValue] at h
  cases hvalue : scalarValue? tag style text with
  | none =>
    rw [hvalue] at h
    cases h
  | some result =>
    rw [hvalue] at h
    cases h
    exact distinctKeys_of_scalarValue? hvalue

theorem distinctKeys_of_value {references : References} {levels : Nat} {node : Node Nat} {n m : Nat}
    {result : Json} (h : value references levels node n = some (result, m)) :
    result.DistinctKeys := by
  induction levels generalizing node n m result with
  | zero =>
    rw [value] at h
    obtain ⟨target, k, -, h⟩ := bind_eq_some.1 h
    split at h
    · exact distinctKeys_of_scalarValue h
    · cases h
  | succ levels ih =>
    rw [value] at h
    obtain ⟨target, k, -, h⟩ := bind_eq_some.1 h
    split at h
    · exact distinctKeys_of_scalarValue h
    · split at h
      · cases h
      · obtain ⟨items, k', hitems, h⟩ := bind_eq_some.1 h
        cases h
        exact .array (forall_of_mapM_eq_some (fun _ _ _ _ => ih) hitems)
    · split at h
      · cases h
      · obtain ⟨members, k', hmembers, h⟩ := bind_eq_some.1 h
        cases h
        refine .object (Members.nodup_keys_insertAll members List.nodup_nil)
          (Members.forall_mem_insertAll (by simp) (forall_of_mapM_eq_some ?_ hmembers))
        rintro ⟨key, content⟩ n member m hmember
        obtain ⟨text, k, -, hmember⟩ := bind_eq_some.1 hmember
        obtain ⟨value, k', hvalue, hmember⟩ := bind_eq_some.1 hmember
        cases hmember
        exact ih hvalue
    · cases h

end Node

end Yaml

/-- **In a value that was read from a text no object lists a key twice.** -/
theorem Json.distinctKeys_of_ofYaml? {text : String} {value : Json}
    (h : ofYaml? text = some value) : value.DistinctKeys := by
  obtain ⟨tokens, -, h⟩ := Option.bind_eq_some_iff.1 h
  obtain ⟨document, -, h⟩ := Option.bind_eq_some_iff.1 h
  cases document with
  | none =>
    cases h
    exact .null
  | some node =>
    obtain ⟨⟨numbered, numbers⟩, -, h⟩ := Option.bind_eq_some_iff.1 h
    obtain ⟨⟨result, count⟩, hresult, h⟩ := Option.bind_eq_some_iff.1 h
    cases h
    exact Yaml.Node.distinctKeys_of_value hresult

end CommandTree
