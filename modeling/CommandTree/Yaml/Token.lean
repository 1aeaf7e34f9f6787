/-!
# Tokens of a YAML text

A text is a sequence of tokens: marks that open and close collections, indicators, properties of
nodes, and scalars.  Where a collection is opened or closed by indentation, tokens stand for that as
well, so a tree can be read off the tokens without looking at columns.
-/

namespace CommandTree

namespace Yaml

/-- How a scalar was written. -/
inductive ScalarStyle where
  /-- Without any marks. -/
  | plain
  /-- Between single quotes. -/
  | singleQuoted
  /-- Between double quotes. -/
  | doubleQuoted
  /-- As a block that keeps its line breaks. -/
  | literal
  /-- As a block that folds its line breaks. -/
  | folded
  deriving DecidableEq, Repr

/-- A token. -/
inductive Token where
  /-- The directive that states the version of the language. -/
  | version (major minor : Nat)
  /-- The directive that declares a tag handle and what it stands for. -/
  | tagHandle (handle expansion : List UInt8)
  /-- The mark that opens a document. -/
  | documentStart
  /-- The mark that closes a document. -/
  | documentEnd
  /-- Indentation opens a sequence. -/
  | blockSequenceStart
  /-- Indentation opens a mapping. -/
  | blockMappingStart
  /-- Indentation closes a collection. -/
  | blockEnd
  /-- A bracket opens a sequence. -/
  | flowSequenceStart
  /-- A bracket closes a sequence. -/
  | flowSequenceEnd
  /-- A brace opens a mapping. -/
  | flowMappingStart
  /-- A brace closes a mapping. -/
  | flowMappingEnd
  /-- The dash before an item. -/
  | blockEntry
  /-- The comma between items. -/
  | flowEntry
  /-- A key follows. -/
  | key
  /-- A value follows. -/
  | value
  /-- A reference to an anchored node. -/
  | alias (name : String)
  /-- The anchor of the node that follows. -/
  | anchor (name : String)
  /-- The tag of the node that follows: a handle and a suffix, or a suffix alone. -/
  | tag (handle suffix : List UInt8)
  /-- A scalar. -/
  | scalar (style : ScalarStyle) (text : String)
  deriving DecidableEq, Repr

end Yaml

end CommandTree
