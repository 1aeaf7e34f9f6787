import CommandTree.Yaml.Lexer
import CommandTree.Yaml.Node
import CommandTree.Yaml.Plain

/-!
# Reading YAML texts as JSON values

A text holds one document, or none, which is read as an absent value.  References are replaced by
the nodes they refer to; keys are texts, whatever they look like, and a key that a mapping lists
again keeps its first place and takes the last value.  Collections are nested at most 128 deep.

* `Json.ofYaml?` is the value of a text.
-/

namespace CommandTree

namespace Yaml

namespace Node

/-! ### Anchors

Anchors are numbered in the order in which they appear.  A number is the count of names so far, so
an anchor whose name was used before takes a number that the next new name takes as well; of nodes
with one number a reference means the last.
-/

/-- The numbers of the names that have been declared. -/
abbrev AnchorNumbers := Members Nat

/-- Numbers the anchor of a node. -/
def numberAnchor (numbers : AnchorNumbers) (anchor : Option String) : Option Nat × AnchorNumbers :=
  match anchor with
  | some name => (some numbers.length, numbers.insert name numbers.length)
  | none => (none, numbers)

mutual

/-- Replaces the names of anchors by numbers, if every reference has an anchor before it. -/
def number (numbers : AnchorNumbers) : Node String → Option (Node Nat × AnchorNumbers)
  | .alias name => do return (.alias (← numbers.get? name), numbers)
  | .scalar anchor tag style text =>
    let (anchor, numbers) := numberAnchor numbers anchor
    some (.scalar anchor tag style text, numbers)
  | .sequence anchor tag items => do
    let (anchor, numbers) := numberAnchor numbers anchor
    let (items, numbers) ← numberItems numbers items
    return (.sequence anchor tag items, numbers)
  | .mapping anchor tag pairs => do
    let (anchor, numbers) := numberAnchor numbers anchor
    let (pairs, numbers) ← numberPairs numbers pairs
    return (.mapping anchor tag pairs, numbers)

/-- Replaces the names of anchors in some nodes. -/
def numberItems (numbers : AnchorNumbers) : List (Node String) →
    Option (List (Node Nat) × AnchorNumbers)
  | [] => some ([], numbers)
  | item :: rest => do
    let (item, numbers) ← number numbers item
    let (rest, numbers) ← numberItems numbers rest
    return (item :: rest, numbers)

/-- Replaces the names of anchors in some pairs of nodes. -/
def numberPairs (numbers : AnchorNumbers) : List (Node String × Node String) →
    Option (List (Node Nat × Node Nat) × AnchorNumbers)
  | [] => some ([], numbers)
  | (key, value) :: rest => do
    let (key, numbers) ← number numbers key
    let (value, numbers) ← number numbers value
    let (rest, numbers) ← numberPairs numbers rest
    return ((key, value) :: rest, numbers)

end

/-- The anchor of a node. -/
def anchor? {ν : Type} : Node ν → Option ν
  | .alias _ => none
  | .scalar anchor .. | .sequence anchor .. | .mapping anchor .. => anchor

mutual

/-- The nodes with an anchor, in the order in which they start. -/
def anchored (node : Node Nat) : List (Nat × Node Nat) :=
  let here := match node.anchor? with
    | some n => [(n, node)]
    | none => []
  match node with
  | .alias _ | .scalar .. => here
  | .sequence _ _ items => here ++ anchoredItems items
  | .mapping _ _ pairs => here ++ anchoredPairs pairs

/-- The nodes with an anchor among some nodes. -/
def anchoredItems : List (Node Nat) → List (Nat × Node Nat)
  | [] => []
  | item :: rest => anchored item ++ anchoredItems rest

/-- The nodes with an anchor among some pairs of nodes. -/
def anchoredPairs : List (Node Nat × Node Nat) → List (Nat × Node Nat)
  | [] => []
  | (key, value) :: rest => anchored key ++ anchored value ++ anchoredPairs rest

end

/-! ### Tags and scalars -/

/-- A tag of the language itself. -/
def standardTag (name : String) : Tag :=
  ("tag:yaml.org,2002:" ++ name).toUTF8.toList

/-- Whether a tag belongs to the application, which knows none: it starts with an exclamation mark
and the rest can be read as text. -/
def isLocalTag (tag : Tag) : Bool :=
  match tag with
  | [] => false
  | byte :: rest =>
    byte == '!'.toNat.toUInt8 && (String.fromUTF8? (ByteArray.mk rest.toArray)).isSome

/-- The value of a scalar without a tag. -/
def plainValue? (text : String) : Option Json :=
  match PlainValue.ofText text with
  | .other value => some value
  | .text => some (.string text)
  | .tooLarge => none

/-- The integer of a scalar that is tagged as one. -/
def taggedInteger? (text : String) : Option Json := do
  match ← PlainValue.ofInteger? (← integer? text.toList) with
  | .other value => some value
  | _ => none

/-- The value of a scalar: tags for the types of the language force the type, other tags and the
styles that mark a scalar make it a text. -/
def scalarValue? (tag : Option Tag) (style : ScalarStyle) (text : String) : Option Json :=
  match tag with
  | none => if style = .plain then plainValue? text else some (.string text)
  | some tag =>
    if isLocalTag tag then none
    else if tag = standardTag "bool" then (boolWord? text).map .bool
    else if tag = standardTag "int" then taggedInteger? text
    else if tag = standardTag "float" then decimal? text
    else if tag = standardTag "null" then if isNullWord text then some .null else none
    else if tag.head? = some '!'.toNat.toUInt8 ∧ style = .plain then plainValue? text
    else some (.string text)

/-- Whether a collection may have a tag. -/
def collectionTagAllowed (tag : Option Tag) : Bool :=
  !(tag.any isLocalTag)

/-! ### Values -/

/-- What references mean, and how many of them may be followed. -/
structure References where
  /-- The nodes with an anchor, in order. -/
  anchored : List (Nat × Node Nat)
  /-- The greatest number of references to follow. -/
  limit : Nat

/-- Follows a reference.  The state counts how many were followed. -/
def follow (references : References) (node : Node Nat) : StateT Nat Option (Node Nat) := do
  match node with
  | .alias n =>
    let count := (← get) + 1
    set count
    if references.limit < count then failure
    -- of the nodes with one number the last one is meant
    match references.anchored.reverse.lookup n with
    | some target => return target
    | none => failure
  | node => return node

/-- The text of a key, which must be a scalar. -/
def keyText (references : References) (node : Node Nat) : StateT Nat Option String := do
  match ← follow references node with
  | .scalar _ _ _ text => return text
  | _ => failure

/-- The value of a scalar, which must have one. -/
def scalarValue (tag : Option Tag) (style : ScalarStyle) (text : String) : StateT Nat Option Json :=
  match scalarValue? tag style text with
  | some value => return value
  | none => failure

/-- The value of a node whose collections are nested at most `levels` deep. -/
def value (references : References) : (levels : Nat) → Node Nat → StateT Nat Option Json
  | 0, node => do
    match ← follow references node with
    | .scalar _ tag style text => scalarValue tag style text
    | _ => failure
  | levels + 1, node => do
    match ← follow references node with
    | .scalar _ tag style text => scalarValue tag style text
    | .sequence _ tag items =>
      if !collectionTagAllowed tag then failure
      return .array (← items.mapM (value references levels))
    | .mapping _ tag pairs =>
      if !collectionTagAllowed tag then failure
      let members ← pairs.mapM fun (key, content) => do
        return (← keyText references key, ← value references levels content)
      return .object (Members.insertAll [] members)
    | .alias _ => failure

/-- How deep collections may be nested. -/
def nestingLevels : Nat := 128

/-- The value of a document.  For each mark that writes it down, a hundred references may be
followed. -/
def toJson? (node : Node String) : Option Json := do
  let (node, _) ← number [] node
  let (value, _) ← (value ⟨node.anchored, 100 * node.size⟩ nestingLevels node).run 0
  return value

end Node

end Yaml

/-- The value of a YAML text. -/
def Json.ofYaml? (text : String) : Option Json := do
  match ← Yaml.Node.ofTokens? (← Yaml.Token.ofChars? text.toList) with
  | some node => node.toJson?
  | none => some .null

end CommandTree
