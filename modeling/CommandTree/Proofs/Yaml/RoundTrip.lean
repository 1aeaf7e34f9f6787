import CommandTree.Proofs.Yaml.Parsing
import CommandTree.Proofs.Yaml.Reader

/-!
# Reading YAML texts that were written

What `Json.toYaml` writes for an array or an object is read back as the same value, as long as it
has no numbers, no object lists a key twice, and arrays and objects are not nested too deeply.

* `Node.value_toNode` : the node of a value denotes the value.
* `Json.Readable.ofYaml?_toYaml` : the text of a value is read as that value.
-/

namespace CommandTree

namespace Yaml

namespace Node

open Json (itemNodes memberNodes)

/-! ### Anchors -/

/-- The node of a value has no anchors, so there is nothing to number. -/
theorem number_toNode {value : Json} (h : value.Readable) (numbers : AnchorNumbers) :
    number numbers value.toNode = some (value.toNode, numbers) := by
  have hitems (items : List Json) (h : ∀ item ∈ items,
      number numbers item.toNode = some (item.toNode, numbers)) :
      numberItems numbers (itemNodes items) = some (itemNodes items, numbers) := by
    induction items with
    | nil => rfl
    | cons item rest ih =>
      obtain ⟨hitem, hrest⟩ := List.forall_mem_cons.1 h
      simp [itemNodes, numberItems, hitem, ih hrest]
  have hmembers (members : Members Json) (h : ∀ member ∈ members,
      number numbers member.2.toNode = some (member.2.toNode, numbers)) :
      numberPairs numbers (memberNodes members) = some (memberNodes members, numbers) := by
    induction members with
    | nil => rfl
    | cons member rest ih =>
      obtain ⟨hmember, hrest⟩ := List.forall_mem_cons.1 h
      simp [memberNodes, numberPairs, number, numberAnchor, hmember, ih hrest]
  induction h with
  | null => rfl
  | bool value => rfl
  | string text => rfl
  | array _ ih => simp [Json.toNode, number, numberAnchor, hitems _ ih]
  | object _ _ ih => simp [Json.toNode, number, numberAnchor, hmembers _ ih]

/-! ### Values -/

/-- A text that is written plainly is read as a text. -/
theorem plainValue?_of_isReadAsText {text : String} (h : isReadAsText text = true) :
    plainValue? text = some (.string text) := by
  unfold isReadAsText at h
  unfold plainValue?
  split at h
  · rename_i htext
    rw [htext]
  · cases h

/-- A text is read as a text, whatever its style is. -/
theorem scalarValue?_styleOf (text : String) :
    scalarValue? none (styleOf text) text = some (.string text) := by
  have hholds := holds_styleOf text
  rw [scalarValue?]
  split
  · rename_i hstyle
    rw [hstyle] at hholds
    exact plainValue?_of_isReadAsText hholds.1
  · rfl

variable {references : References} {levels n : Nat}

theorem value_scalar {style : ScalarStyle} {text : String} {result : Json}
    (h : scalarValue? none style text = some result) :
    value references levels (.scalar none none style text) n = some (result, n) := by
  have hscalar : scalarValue none style text n = some (result, n) := by
    rw [scalarValue, h]
    rfl
  cases levels <;> exact hscalar

theorem mapM_itemNodes {items : List Json}
    (h : ∀ item ∈ items, value references levels item.toNode n = some (item, n)) :
    (itemNodes items).mapM (value references levels) n = some (items, n) := by
  induction items with
  | nil => rfl
  | cons item rest ih =>
    obtain ⟨hitem, hrest⟩ := List.forall_mem_cons.1 h
    rw [itemNodes, List.mapM_cons, bind_eq_some]
    exact ⟨item, n, hitem, bind_eq_some.2 ⟨rest, n, ih hrest, rfl⟩⟩

theorem mapM_memberNodes {members : Members Json}
    (h : ∀ member ∈ members, value references levels member.2.toNode n = some (member.2, n)) :
    ((memberNodes members).mapM (fun (key, content) => do
        return (← keyText references key, ← value references levels content)) :
      StateT Nat Option (List (String × Json))) n = some (members, n) := by
  induction members with
  | nil => rfl
  | cons member rest ih =>
    obtain ⟨hmember, hrest⟩ := List.forall_mem_cons.1 h
    obtain ⟨key, content⟩ := member
    rw [memberNodes, List.mapM_cons, bind_eq_some]
    refine ⟨(key, content), n, ?_, bind_eq_some.2 ⟨rest, n, ih hrest, rfl⟩⟩
    exact bind_eq_some.2 ⟨key, n, rfl, bind_eq_some.2 ⟨content, n, hmember, rfl⟩⟩

/-- **The node of a value denotes the value.** -/
theorem value_toNode {result : Json} (h : result.Readable) (hdepth : result.depth ≤ levels) :
    value references levels result.toNode n = some (result, n) := by
  induction h generalizing levels with
  | null => exact value_scalar rfl
  | bool value => cases value <;> exact value_scalar rfl
  | string text => exact value_scalar (scalarValue?_styleOf text)
  | @array items _ ih =>
    rw [Json.depth] at hdepth
    obtain ⟨levels, rfl⟩ : ∃ m, levels = m + 1 := Nat.exists_eq_add_of_le' (by omega)
    have hitems := @mapM_itemNodes references levels n items fun item hitem =>
      ih item hitem (by have := Json.depth_le_of_mem hitem; omega)
    exact bind_eq_some.2 ⟨_, n, rfl, bind_eq_some.2 ⟨items, n, hitems, rfl⟩⟩
  | @object members hkeys _ ih =>
    rw [Json.depth] at hdepth
    obtain ⟨levels, rfl⟩ : ∃ m, levels = m + 1 := Nat.exists_eq_add_of_le' (by omega)
    have hmembers := @mapM_memberNodes references levels n members fun member hmember =>
      ih member hmember (by have := Json.depth_le_of_mem_members hmember; omega)
    have hinsert : Members.insertAll [] members = members := Members.insertAll_of_nodup hkeys
    refine bind_eq_some.2 ⟨_, n, rfl, bind_eq_some.2 ⟨members, n, hmembers, ?_⟩⟩
    rw [hinsert]
    rfl

end Node

end Yaml

/-- **The text of a collection is read as that collection.** -/
theorem Json.Readable.ofYaml?_toYaml {value : Json} (h : value.Readable)
    (hcollection : value.IsCollection) (hdepth : value.depth ≤ Yaml.Node.nestingLevels) :
    Json.ofYaml? value.toYaml = some value := by
  have htokens := Yaml.ofChars?_writeValue h hcollection
  have hdocument := Yaml.Node.ofTokens?_tokens h
  have hnumber := Yaml.Node.number_toNode h []
  have hvalue (references : Yaml.Node.References) :=
    @Yaml.Node.value_toNode references _ 0 value h hdepth
  rw [ofYaml?, toYaml, String.toList_ofList, htokens]
  simp only [Option.bind_eq_bind, Option.bind_some, hdocument, Yaml.Node.toJson?, hnumber]
  change Option.bind (Yaml.Node.value _ _ _ 0) _ = _
  rw [hvalue]
  rfl

end CommandTree
