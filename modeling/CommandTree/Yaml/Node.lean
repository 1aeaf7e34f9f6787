import CommandTree.Yaml.Token

/-!
# Nodes of a YAML document

The tokens of a text are read as one document: a tree of scalars, sequences and mappings.  A node
may have an anchor and a tag, and a reference to an anchored node may stand in place of a node.
Where a node is missing, an empty plain scalar takes its place.

* `Node` is the type of trees; anchors are named by values of any type.
* `Node.ofTokens?` reads the tree of a text, if the text has at most one document.
* `Node.size` counts the marks that write a node down.
-/

namespace CommandTree

namespace Yaml

/-- A tag, as bytes. -/
abbrev Tag := List UInt8

/-- A node of a document.  Anchors are named by values of type `ν`. -/
inductive Node (ν : Type) where
  /-- A reference to the node with an anchor. -/
  | alias (name : ν)
  /-- A scalar. -/
  | scalar (anchor : Option ν) (tag : Option Tag) (style : ScalarStyle) (text : String)
  /-- A sequence of nodes. -/
  | sequence (anchor : Option ν) (tag : Option Tag) (items : List (Node ν))
  /-- A mapping of nodes to nodes. -/
  | mapping (anchor : Option ν) (tag : Option Tag) (pairs : List (Node ν × Node ν))

namespace Node

variable {ν : Type}

/-- The node that takes the place of a missing one. -/
def missing : Node ν :=
  .scalar none none .plain ""

mutual

/-- How many marks write a node down: one for a scalar or a reference, two for a collection besides
those of its content. -/
def size : Node ν → Nat
  | .alias _ => 1
  | .scalar .. => 1
  | .sequence _ _ items => 2 + sizeItems items
  | .mapping _ _ pairs => 2 + sizePairs pairs

/-- How many marks write some nodes down. -/
def sizeItems : List (Node ν) → Nat
  | [] => 0
  | item :: rest => size item + sizeItems rest

/-- How many marks write some pairs of nodes down. -/
def sizePairs : List (Node ν × Node ν) → Nat
  | [] => 0
  | (key, value) :: rest => size key + size value + sizePairs rest

end

/-! ### Properties -/

/-- The handles of tags and what they stand for. -/
abbrev TagHandles := List (List UInt8 × List UInt8)

/-- The handles that are declared in every document. -/
def defaultHandles : TagHandles :=
  [("!".toUTF8.toList, "!".toUTF8.toList),
   ("!!".toUTF8.toList, "tag:yaml.org,2002:".toUTF8.toList)]

/-- The tag that a handle and a suffix stand for, if the handle is declared. -/
def expandTag? (handles : TagHandles) (handle suffix : List UInt8) : Option Tag :=
  if handle.isEmpty then some suffix
  else (handles.lookup handle).map (· ++ suffix)

/-- The properties of a node. -/
structure Properties where
  /-- The anchor. -/
  anchor : Option String := none
  /-- The tag. -/
  tag : Option Tag := none

/-- Whether a node has a property. -/
def Properties.isSome (properties : Properties) : Bool :=
  properties.anchor.isSome || properties.tag.isSome

/-- Reads the properties of a node: an anchor and a tag, in any order, of which either may be
missing. -/
def readProperties (handles : TagHandles) (tokens : List Token) :
    Option (Properties × List Token) :=
  match tokens with
  | .anchor name :: .tag handle suffix :: rest
  | .tag handle suffix :: .anchor name :: rest => do
    return (⟨some name, some (← expandTag? handles handle suffix)⟩, rest)
  | .anchor name :: rest => some (⟨some name, none⟩, rest)
  | .tag handle suffix :: rest => do
    return (⟨none, some (← expandTag? handles handle suffix)⟩, rest)
  | rest => some ({}, rest)

/-! ### Reading nodes -/

/-- Whether an item of a block sequence is missing before some tokens. -/
def itemMissing : List Token → Bool
  | .blockEntry :: _ | .blockEnd :: _ => true
  | _ => false

/-- Whether an item of a sequence that is not indented is missing before some tokens. -/
def flatItemMissing : List Token → Bool
  | .blockEntry :: _ | .key :: _ | .value :: _ | .blockEnd :: _ => true
  | _ => false

/-- Whether a key or value of a block mapping is missing before some tokens. -/
def blockPartMissing : List Token → Bool
  | .key :: _ | .value :: _ | .blockEnd :: _ => true
  | _ => false

/-- Whether the key of a pair between brackets is missing before some tokens. -/
def flowKeyMissing (close : Token) : List Token → Bool
  | .value :: _ | .flowEntry :: _ => true
  | token :: _ => token == close
  | [] => false

/-- Whether the value of a pair between brackets is missing before some tokens. -/
def flowValueMissing (close : Token) : List Token → Bool
  | .flowEntry :: _ => true
  | token :: _ => token == close
  | [] => false

mutual

/-- Reads a node.  `block` says whether it may be a collection that opens by indentation, `flat`
whether it may be a sequence that is not indented; `fuel` bounds the number of steps. -/
def read (handles : TagHandles) (fuel : Nat) (block flat : Bool) (tokens : List Token) :
    Option (Node String × List Token) :=
  match fuel with
  | 0 => none
  | fuel + 1 =>
    match tokens with
    | .alias name :: rest => some (.alias name, rest)
    | tokens => do
      let (⟨anchor, tag⟩, tokens) ← readProperties handles tokens
      match tokens with
      | .scalar style text :: rest => return (.scalar anchor tag style text, rest)
      | .flowSequenceStart :: rest => do
        let (items, rest) ← readFlowItems handles fuel true rest
        return (.sequence anchor tag items, rest)
      | .flowMappingStart :: rest => do
        let (pairs, rest) ← readFlowPairs handles fuel true rest
        return (.mapping anchor tag pairs, rest)
      | tokens =>
        match block, flat, tokens with
        | _, true, .blockEntry :: _ => do
          let (items, rest) ← readFlatItems handles fuel tokens
          return (.sequence anchor tag items, rest)
        | true, _, .blockSequenceStart :: rest => do
          let (items, rest) ← readItems handles fuel rest
          return (.sequence anchor tag items, rest)
        | true, _, .blockMappingStart :: rest => do
          let (pairs, rest) ← readPairs handles fuel rest
          return (.mapping anchor tag pairs, rest)
        | _, _, tokens =>
          if anchor.isSome || tag.isSome then return (.scalar anchor tag .plain "", tokens)
          none

/-- Reads a node unless it is missing. -/
def readUnless (handles : TagHandles) (fuel : Nat) (isMissing block flat : Bool)
    (tokens : List Token) : Option (Node String × List Token) :=
  match fuel with
  | 0 => none
  | fuel + 1 =>
    if isMissing then some (missing, tokens) else read handles fuel block flat tokens

/-- Reads the items of a block sequence, up to its end. -/
def readItems (handles : TagHandles) (fuel : Nat) (tokens : List Token) :
    Option (List (Node String) × List Token) :=
  match fuel, tokens with
  | fuel + 1, .blockEntry :: rest => do
    let (item, rest) ← readUnless handles fuel (itemMissing rest) true false rest
    let (items, rest) ← readItems handles fuel rest
    return (item :: items, rest)
  | _ + 1, .blockEnd :: rest => some ([], rest)
  | _, _ => none

/-- Reads the items of a sequence that is not indented, up to the first other token. -/
def readFlatItems (handles : TagHandles) (fuel : Nat) (tokens : List Token) :
    Option (List (Node String) × List Token) :=
  match fuel, tokens with
  | fuel + 1, .blockEntry :: rest => do
    let (item, rest) ← readUnless handles fuel (flatItemMissing rest) true false rest
    let (items, rest) ← readFlatItems handles fuel rest
    return (item :: items, rest)
  | _ + 1, tokens => some ([], tokens)
  | 0, _ => none

/-- Reads the pairs of a block mapping, up to its end. -/
def readPairs (handles : TagHandles) (fuel : Nat) (tokens : List Token) :
    Option (List (Node String × Node String) × List Token) :=
  match fuel, tokens with
  | fuel + 1, .key :: rest => do
    let (key, rest) ← readUnless handles fuel (blockPartMissing rest) true true rest
    let (value, rest) ← match rest with
      | .value :: rest => readUnless handles fuel (blockPartMissing rest) true true rest
      | rest => some (missing, rest)
    let (pairs, rest) ← readPairs handles fuel rest
    return ((key, value) :: pairs, rest)
  | _ + 1, .blockEnd :: rest => some ([], rest)
  | _, _ => none

/-- Reads the value of a pair between brackets that end with `close`. -/
def readFlowValue (handles : TagHandles) (fuel : Nat) (close : Token) (tokens : List Token) :
    Option (Node String × List Token) :=
  match fuel, tokens with
  | fuel + 1, .value :: rest =>
    readUnless handles fuel (flowValueMissing close rest) false false rest
  | _ + 1, tokens => some (missing, tokens)
  | 0, _ => none

/-- Reads the items of a sequence between brackets, up to its end.  A pair among them is a mapping
of its own; where its key is missing, so is the mark of its value. -/
def readFlowItems (handles : TagHandles) (fuel : Nat) (first : Bool) (tokens : List Token) :
    Option (List (Node String) × List Token) :=
  match fuel with
  | 0 => none
  | fuel + 1 =>
    match tokens with
    | .flowSequenceEnd :: rest => some ([], rest)
    | tokens => do
      let tokens ← match first, tokens with
        | true, tokens => some tokens
        | false, .flowEntry :: rest => some rest
        | false, _ => none
      match tokens with
      | .flowSequenceEnd :: rest => return ([], rest)
      | .key :: rest => do
        let (key, rest) ←
          -- where the key is missing, the mark of the value goes with it
          if flowKeyMissing .flowSequenceEnd rest then some (missing, rest.drop 1)
          else read handles fuel false false rest
        let (value, rest) ← readFlowValue handles fuel .flowSequenceEnd rest
        let (items, rest) ← readFlowItems handles fuel false rest
        return (.mapping none none [(key, value)] :: items, rest)
      | tokens => do
        let (item, rest) ← read handles fuel false false tokens
        let (items, rest) ← readFlowItems handles fuel false rest
        return (item :: items, rest)

/-- Reads the pairs of a mapping between brackets, up to its end.  A key may stand alone. -/
def readFlowPairs (handles : TagHandles) (fuel : Nat) (first : Bool) (tokens : List Token) :
    Option (List (Node String × Node String) × List Token) :=
  match fuel with
  | 0 => none
  | fuel + 1 =>
    match tokens with
    | .flowMappingEnd :: rest => some ([], rest)
    | tokens => do
      let tokens ← match first, tokens with
        | true, tokens => some tokens
        | false, .flowEntry :: rest => some rest
        | false, _ => none
      match tokens with
      | .flowMappingEnd :: rest => return ([], rest)
      | .key :: rest => do
        let (key, rest) ←
          readUnless handles fuel (flowKeyMissing .flowMappingEnd rest) false false rest
        let (value, rest) ← readFlowValue handles fuel .flowMappingEnd rest
        let (pairs, rest) ← readFlowPairs handles fuel false rest
        return ((key, value) :: pairs, rest)
      | tokens => do
        let (key, rest) ← read handles fuel false false tokens
        let (pairs, rest) ← readFlowPairs handles fuel false rest
        return ((key, missing) :: pairs, rest)

end

/-! ### Documents -/

/-- Reads the directives of a document: at most one version, which must be known, and handles that
are declared once. -/
def readDirectives : (version : Bool) → (handles : TagHandles) → List Token →
    Option (TagHandles × List Token)
  | version, handles, .version major minor :: rest =>
    if version || major ≠ 1 || (minor ≠ 1 && minor ≠ 2) then none
    else readDirectives true handles rest
  | version, handles, .tagHandle handle expansion :: rest =>
    if (handles.lookup handle).isSome then none
    else readDirectives version (handles ++ [(handle, expansion)]) rest
  | _, handles, tokens => some (handles ++ defaultHandles, tokens)

/-- Whether a document with an opening mark has no content before some tokens. -/
def contentMissing : List Token → Bool
  | [] => true
  | .version .. :: _ | .tagHandle .. :: _ | .documentStart :: _ | .documentEnd :: _ => true
  | _ => false

/-- Reads the first document of a text, which may do without an opening mark if it has no
directives. -/
def readDocument (tokens : List Token) : Option (Node String × List Token) := do
  let fuel := 3 * tokens.length + 3
  let explicit := match tokens with
    | .version .. :: _ | .tagHandle .. :: _ | .documentStart :: _ => true
    | _ => false
  if explicit then
    let (handles, rest) ← readDirectives false [] tokens
    match rest with
    | .documentStart :: rest =>
      readUnless handles fuel (contentMissing rest) true false rest
    | _ => none
  else read defaultHandles fuel true false tokens

/-- The document of a text, `none` inside if the text is empty.  Nothing may follow it but marks
that close documents. -/
def ofTokens? (tokens : List Token) : Option (Option (Node String)) :=
  match tokens with
  | [] => some none
  | tokens => do
    let (node, rest) ← readDocument tokens
    if (rest.dropWhile (· == .documentEnd)).isEmpty then return some node else none

end Node

end Yaml

end CommandTree
