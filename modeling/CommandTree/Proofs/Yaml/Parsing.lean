import CommandTree.Proofs.Yaml.Layout
import CommandTree.Yaml.Node

/-!
# Values that are read back as nodes

The tokens of a value are read as a tree without anchors and tags that has the shape of the value.

* `Json.toNode` is what a value is read as.
* `Node.ReadsBack` : a value is read from the front of its tokens, and nothing else is.
* `Node.ofTokens?_tokens` : the tokens of a value are one document.
-/

namespace CommandTree

open Yaml

namespace Json

mutual

/-- The node that a value is read as. -/
def toNode {ν : Type} : Json → Yaml.Node ν
  | .null => .scalar none none .plain "null"
  | .bool value => .scalar none none .plain (if value then "true" else "false")
  | .number value => .scalar none none .plain (String.ofList (numberChars value))
  | .string text => .scalar none none (styleOf text) text
  | .array items => .sequence none none (itemNodes items)
  | .object members => .mapping none none (memberNodes members)

/-- The nodes of some items. -/
def itemNodes {ν : Type} : List Json → List (Yaml.Node ν)
  | [] => []
  | item :: rest => item.toNode :: itemNodes rest

/-- The nodes of some members. -/
def memberNodes {ν : Type} : List (String × Json) → List (Yaml.Node ν × Yaml.Node ν)
  | [] => []
  | (key, value) :: rest =>
    (.scalar none none (styleOf key) key, value.toNode) :: memberNodes rest

end

end Json

namespace Yaml

namespace Node

/-! ### One node -/

section Reading

variable {handles : TagHandles} {fuel : Nat} {block flat : Bool} {rest : List Token}

theorem read_scalar (style : ScalarStyle) (text : String) :
    read handles (fuel + 1) block flat (.scalar style text :: rest) =
      some (.scalar none none style text, rest) := by
  rw [read.eq_def]
  rfl

theorem read_emptySequence :
    read handles (fuel + 2) block flat (.flowSequenceStart :: .flowSequenceEnd :: rest) =
      some (.sequence none none [], rest) := by
  rw [read.eq_def]
  rfl

theorem read_emptyMapping :
    read handles (fuel + 2) block flat (.flowMappingStart :: .flowMappingEnd :: rest) =
      some (.mapping none none [], rest) := by
  rw [read.eq_def]
  rfl

theorem read_sequence {items : List (Node String)} {tokens : List Token}
    (h : readItems handles fuel tokens = some (items, rest)) :
    read handles (fuel + 1) true flat (.blockSequenceStart :: tokens) =
      some (.sequence none none items, rest) := by
  rw [read.eq_def]
  cases flat <;> simp [readProperties, h]

theorem read_mapping {pairs : List (Node String × Node String)} {tokens : List Token}
    (h : readPairs handles fuel tokens = some (pairs, rest)) :
    read handles (fuel + 1) true flat (.blockMappingStart :: tokens) =
      some (.mapping none none pairs, rest) := by
  rw [read.eq_def]
  cases flat <;> simp [readProperties, h]

theorem read_flatSequence {items : List (Node String)} {tokens : List Token}
    (h : readFlatItems handles fuel (.blockEntry :: tokens) = some (items, rest)) :
    read handles (fuel + 1) block true (.blockEntry :: tokens) =
      some (.sequence none none items, rest) := by
  rw [read.eq_def]
  simp [readProperties, h]

/-- Where nothing is missing a node is read. -/
theorem readUnless_false {isMissing : Bool} {tokens : List Token} (h : isMissing = false) :
    readUnless handles (fuel + 1) isMissing block flat tokens =
      read handles fuel block flat tokens := by
  subst h
  rw [readUnless]
  rfl

theorem readItems_end :
    readItems handles (fuel + 1) (.blockEnd :: rest) = some ([], rest) := by
  rw [readItems]

theorem readItems_next {item : Node String} {items : List (Node String)}
    {tokens after : List Token} (hmissing : itemMissing tokens = false)
    (hitem : read handles fuel true false tokens = some (item, after))
    (hitems : readItems handles (fuel + 1) after = some (items, rest)) :
    readItems handles (fuel + 2) (.blockEntry :: tokens) = some (item :: items, rest) := by
  rw [readItems]
  simp only [readUnless_false hmissing, hitem, hitems, Option.bind_eq_bind, Option.bind_some]
  rfl

theorem readFlatItems_end (h : ∀ token ∈ rest.head?, token ≠ .blockEntry) :
    readFlatItems handles (fuel + 1) rest = some ([], rest) := by
  rw [readFlatItems.eq_def]
  cases rest with
  | nil => rfl
  | cons token rest =>
    cases token <;> first | rfl | exact absurd rfl (h _ rfl)

theorem readFlatItems_next {item : Node String} {items : List (Node String)}
    {tokens after : List Token} (hmissing : flatItemMissing tokens = false)
    (hitem : read handles fuel true false tokens = some (item, after))
    (hitems : readFlatItems handles (fuel + 1) after = some (items, rest)) :
    readFlatItems handles (fuel + 2) (.blockEntry :: tokens) = some (item :: items, rest) := by
  rw [readFlatItems]
  simp only [readUnless_false hmissing, hitem, hitems, Option.bind_eq_bind, Option.bind_some]
  rfl

theorem readPairs_end :
    readPairs handles (fuel + 1) (.blockEnd :: rest) = some ([], rest) := by
  rw [readPairs]

theorem readPairs_next {style : ScalarStyle} {key : String} {value : Node String}
    {pairs : List (Node String × Node String)} {tokens after : List Token}
    (hmissing : blockPartMissing tokens = false)
    (hvalue : read handles (fuel + 1) true true tokens = some (value, after))
    (hpairs : readPairs handles (fuel + 2) after = some (pairs, rest)) :
    readPairs handles (fuel + 3) (.key :: .scalar style key :: .value :: tokens) =
      some ((.scalar none none style key, value) :: pairs, rest) := by
  have hkey : blockPartMissing (.scalar style key :: .value :: tokens) = false := rfl
  rw [readPairs]
  simp only [readUnless_false hkey, read_scalar, readUnless_false hmissing, hvalue, hpairs,
    Option.bind_eq_bind, Option.bind_some]
  rfl

end Reading

/-! ### Whole values -/

open Json (itemTokens memberTokens itemNodes memberNodes)

/-- No value is missing where its tokens stand. -/
theorem missing_tokens (value : Json) (flat : Bool) (after : List Token) :
    itemMissing (value.tokens false ++ after) = false ∧
      flatItemMissing (value.tokens false ++ after) = false ∧
      blockPartMissing (value.tokens flat ++ after) = false := by
  match value with
  | .null | .bool _ | .number _ | .string _ => exact ⟨rfl, rfl, rfl⟩
  | .array [] | .object [] | .object (_ :: _) => exact ⟨rfl, rfl, rfl⟩
  | .array (item :: rest) => cases flat <;> exact ⟨rfl, rfl, rfl⟩

/-- A value is read from the front of its tokens, and nothing else is.  A sequence that is not
indented ends before any token but a dash. -/
def ReadsBack (value : Json) : Prop :=
  ∀ (handles : TagHandles) (fuel : Nat) (flat flatAllowed : Bool) (after : List Token),
    3 * (value.tokens flat).length + 2 ≤ fuel → (flat = true → flatAllowed = true) →
    (flat = true → ∀ token ∈ after.head?, token ≠ .blockEntry) →
    read handles fuel true flatAllowed (value.tokens flat ++ after) = some (value.toNode, after)

section Values

variable {handles : TagHandles} {fuel : Nat} {after : List Token}

theorem readItems_tokens {items : List Json} (hitems : ∀ item ∈ items, ReadsBack item)
    (hfuel : 3 * (itemTokens items).length + 1 ≤ fuel) :
    readItems handles fuel (itemTokens items ++ .blockEnd :: after) =
      some (itemNodes items, after) := by
  induction items generalizing fuel with
  | nil =>
    obtain ⟨fuel, rfl⟩ : ∃ n, fuel = n + 1 := Nat.exists_eq_add_one_of_ne_zero (by omega)
    exact readItems_end
  | cons item rest ih =>
    obtain ⟨hitem, hrest⟩ := List.forall_mem_cons.1 hitems
    simp only [itemTokens, List.length_cons, List.length_append] at hfuel
    obtain ⟨fuel, rfl⟩ : ∃ n, fuel = n + 2 := Nat.exists_eq_add_of_le' (by omega)
    rw [itemTokens, itemNodes, List.cons_append, List.append_assoc]
    exact readItems_next (missing_tokens item false _).1
      (hitem handles fuel false false _ (by omega) (by simp) (by simp)) (ih hrest (by omega))

theorem readFlatItems_tokens {items : List Json} (hitems : ∀ item ∈ items, ReadsBack item)
    (hfuel : 3 * (itemTokens items).length + 1 ≤ fuel)
    (hafter : ∀ token ∈ after.head?, token ≠ .blockEntry) :
    readFlatItems handles fuel (itemTokens items ++ after) = some (itemNodes items, after) := by
  induction items generalizing fuel with
  | nil =>
    obtain ⟨fuel, rfl⟩ : ∃ n, fuel = n + 1 := Nat.exists_eq_add_one_of_ne_zero (by omega)
    exact readFlatItems_end hafter
  | cons item rest ih =>
    obtain ⟨hitem, hrest⟩ := List.forall_mem_cons.1 hitems
    simp only [itemTokens, List.length_cons, List.length_append] at hfuel
    obtain ⟨fuel, rfl⟩ : ∃ n, fuel = n + 2 := Nat.exists_eq_add_of_le' (by omega)
    rw [itemTokens, itemNodes, List.cons_append, List.append_assoc]
    exact readFlatItems_next (missing_tokens item false _).2.1
      (hitem handles fuel false false _ (by omega) (by simp) (by simp)) (ih hrest (by omega))

theorem readPairs_tokens {members : List (String × Json)}
    (hmembers : ∀ member ∈ members, ReadsBack member.2)
    (hfuel : 3 * (memberTokens members).length + 1 ≤ fuel) :
    readPairs handles fuel (memberTokens members ++ .blockEnd :: after) =
      some (memberNodes members, after) := by
  induction members generalizing fuel with
  | nil =>
    obtain ⟨fuel, rfl⟩ : ∃ n, fuel = n + 1 := Nat.exists_eq_add_one_of_ne_zero (by omega)
    exact readPairs_end
  | cons member rest ih =>
    obtain ⟨key, value⟩ := member
    obtain ⟨hmember, hrest⟩ := List.forall_mem_cons.1 hmembers
    have hvalue : ReadsBack value := hmember
    simp only [memberTokens, List.length_cons, List.length_append] at hfuel
    obtain ⟨fuel, rfl⟩ : ∃ n, fuel = n + 3 := Nat.exists_eq_add_of_le' (by omega)
    have hnext : ∀ token ∈ (memberTokens rest ++ .blockEnd :: after).head?,
        token ≠ .blockEntry := by
      cases rest with
      | nil => simp [memberTokens]
      | cons member rest => simp [memberTokens]
    rw [memberTokens, memberNodes, List.cons_append, List.cons_append, List.cons_append,
      List.append_assoc]
    exact readPairs_next (missing_tokens value _ _).2.2
      (hvalue handles (fuel + 1) _ true _ (by omega) (fun _ => rfl) (fun _ => hnext))
      (ih hrest (by omega))

theorem readsBack_array {items : List Json} (hitems : ∀ item ∈ items, ReadsBack item) :
    ReadsBack (.array items) := by
  intro handles fuel flat flatAllowed after hfuel hflat hafter
  cases items with
  | nil =>
    obtain ⟨fuel, rfl⟩ : ∃ n, fuel = n + 2 := Nat.exists_eq_add_of_le' (by omega)
    exact read_emptySequence
  | cons item rest =>
    cases flat with
    | true =>
      obtain rfl : flatAllowed = true := hflat rfl
      simp only [Json.tokens, if_true] at hfuel ⊢
      obtain ⟨fuel, rfl⟩ : ∃ n, fuel = n + 1 := Nat.exists_eq_add_of_le' (by omega)
      have hread := @readFlatItems_tokens handles fuel after _ hitems (by omega) (hafter rfl)
      rw [itemTokens, List.cons_append] at hread ⊢
      exact read_flatSequence hread
    | false =>
      simp only [Json.tokens, Bool.false_eq_true, if_false, List.length_cons, List.length_append,
        List.length_nil] at hfuel ⊢
      obtain ⟨fuel, rfl⟩ : ∃ n, fuel = n + 1 := Nat.exists_eq_add_of_le' (by omega)
      have hread := @readItems_tokens handles fuel after _ hitems (by omega)
      rw [List.cons_append, List.append_assoc]
      exact read_sequence hread

theorem readsBack_object {members : List (String × Json)}
    (hmembers : ∀ member ∈ members, ReadsBack member.2) : ReadsBack (.object members) := by
  intro handles fuel flat flatAllowed after hfuel hflat hafter
  cases members with
  | nil =>
    obtain ⟨fuel, rfl⟩ : ∃ n, fuel = n + 2 := Nat.exists_eq_add_of_le' (by omega)
    exact read_emptyMapping
  | cons member rest =>
    simp only [Json.tokens, List.length_cons, List.length_append, List.length_nil] at hfuel ⊢
    obtain ⟨fuel, rfl⟩ : ∃ n, fuel = n + 1 := Nat.exists_eq_add_of_le' (by omega)
    have hread := @readPairs_tokens handles fuel after _ hmembers (by omega)
    rw [List.cons_append, List.append_assoc]
    exact read_mapping hread

theorem readsBack_scalar {value : Json} {style : ScalarStyle} {text : String}
    (htokens : ∀ flat, value.tokens flat = [.scalar style text])
    (hnode : value.toNode = (.scalar none none style text : Node String)) : ReadsBack value := by
  intro handles fuel flat flatAllowed after hfuel hflat hafter
  obtain ⟨fuel, rfl⟩ : ∃ n, fuel = n + 1 := Nat.exists_eq_add_of_le' (by omega)
  rw [htokens, hnode]
  exact read_scalar style text

/-- **A value is read from the front of its tokens.** -/
theorem readsBack {value : Json} (h : value.Readable) : ReadsBack value := by
  induction h with
  | null => exact readsBack_scalar (fun _ => rfl) rfl
  | bool value => exact readsBack_scalar (fun _ => rfl) rfl
  | string text => exact readsBack_scalar (fun _ => rfl) rfl
  | array _ ih => exact readsBack_array ih
  | object _ _ ih => exact readsBack_object ih

end Values

/-! ### Documents -/

/-- A text with content has one document if a node is read that takes all of its tokens. -/
theorem ofTokens?_of_read {tokens : List Token} {node : Node String}
    (hcontent : contentMissing tokens = false)
    (hread : read defaultHandles (3 * tokens.length + 3) true false tokens = some (node, [])) :
    ofTokens? tokens = some (some node) := by
  have hdocument : readDocument tokens = some (node, []) := by
    rw [← hread]
    unfold readDocument
    split
    · cases hcontent
    · cases hcontent
    · cases hcontent
    · rfl
  cases tokens with
  | nil => cases hcontent
  | cons token rest =>
    rw [ofTokens?, hdocument]
    · rfl
    · simp

theorem contentMissing_tokens (value : Json) : contentMissing (value.tokens false) = false := by
  match value with
  | .null | .bool _ | .number _ | .string _ => rfl
  | .array [] | .array (_ :: _) | .object [] | .object (_ :: _) => rfl

/-- **The tokens of a value are one document.** -/
theorem ofTokens?_tokens {value : Json} (h : value.Readable) :
    ofTokens? (value.tokens false) = some (some value.toNode) := by
  have hread := readsBack h defaultHandles (3 * (value.tokens false).length + 3) false false []
    (by omega) (by simp) (by simp)
  rw [List.append_nil] at hread
  exact ofTokens?_of_read (contentMissing_tokens value) hread

end Node

end Yaml

end CommandTree
