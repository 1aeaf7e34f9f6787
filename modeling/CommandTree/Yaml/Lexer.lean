import CommandTree.Yaml.Property
import CommandTree.Yaml.Scalar

/-!
# From text to tokens

Tokens are found one after the other.  Two things need memory.  Outside of brackets, collections
open and close by indentation, so the columns of the open ones are kept.  And a key shows only by
the colon behind it, so the last place where a key may have started is kept, one for each level of
brackets: when the colon comes, the tokens that announce the key are put in at that place.  Such a
key must end on its line and within 1024 characters.

* `Lexer` is the state between two tokens, `Lexer.lexeme` finds the next token.
* `Token.ofChars?` finds all tokens of a text.
-/

namespace CommandTree

namespace Yaml

/-! ### State -/

/-- A place where a key may have started. -/
structure KeyStart where
  /-- The number of tokens before it. -/
  tokensBefore : Nat
  /-- The line of the place. -/
  line : Nat
  /-- The column of the place. -/
  column : Nat
  /-- Whether nothing but a key is possible there. -/
  required : Bool

/-- The state between two tokens. -/
structure Lexer where
  /-- The characters that follow. -/
  rest : List Char
  /-- The number of lines before. -/
  line : Nat
  /-- The number of characters before on the same line. -/
  column : Nat
  /-- The tokens so far, the last one first. -/
  tokens : List Token
  /-- The number of tokens so far. -/
  count : Nat
  /-- The column of the innermost collection that opened by indentation, `-1` if there is none. -/
  indent : Int
  /-- The columns of the collections around it. -/
  outerIndents : List Int
  /-- Where a key may have started on the innermost level of brackets. -/
  keyStart : Option KeyStart
  /-- Where a key may have started on the levels around it. -/
  outerKeyStarts : List (Option KeyStart)
  /-- Whether a key may start next. -/
  keyAllowed : Bool

namespace Lexer

/-- The state before the first token. -/
def start (chars : List Char) : Lexer where
  rest := chars
  line := 0
  column := 0
  tokens := []
  count := 0
  indent := -1
  outerIndents := []
  keyStart := none
  outerKeyStarts := []
  keyAllowed := true

variable (lexer : Lexer)

/-- Whether the next token stands inside brackets. -/
def inFlow : Bool :=
  !lexer.outerKeyStarts.isEmpty

/-- Adds a token. -/
def push (token : Token) : Lexer :=
  { lexer with tokens := token :: lexer.tokens, count := lexer.count + 1 }

/-- Puts a token in after the first `place` ones. -/
def insertAfter (place : Nat) (token : Token) : Lexer :=
  let later := lexer.count - place
  { lexer with
    tokens := lexer.tokens.take later ++ token :: lexer.tokens.drop later
    count := lexer.count + 1 }

/-- Moves over characters of the same line. -/
def skip (count : Nat) : Lexer :=
  { lexer with rest := lexer.rest.drop count, column := lexer.column + count }

/-- Moves to a place further on the same line. -/
def moveOnLine (rest : List Char) : Lexer :=
  { lexer with rest, column := lexer.column + (lexer.rest.length - rest.length) }

/-- Moves to a place further on. -/
def moveTo (cursor : Cursor) : Lexer :=
  { lexer with rest := cursor.rest, line := cursor.line, column := cursor.column }

/-! ### Keys -/

/-- Forgets where a key may have started, unless it must have. -/
def dropKeyStart : Option Lexer :=
  match lexer.keyStart with
  | some start => if start.required then none else some { lexer with keyStart := none }
  | none => some lexer

/-- Remembers that a key may start here, if one may. -/
def markKeyStart : Option Lexer :=
  if lexer.keyAllowed then do
    let start : KeyStart := {
      tokensBefore := lexer.count
      line := lexer.line
      column := lexer.column
      -- what starts at the column of the innermost collection can only be a key
      required := !lexer.inFlow && lexer.indent == lexer.column }
    return { ← lexer.dropKeyStart with keyStart := some start }
  else some lexer

/-- The greatest length of a key. -/
def greatestKeyLength : Nat := 1024

/-- Forgets a key start that is too far away; a key that must have started there is missing its
colon. -/
def refreshKeyStart (start : Option KeyStart) : Option (Option KeyStart) :=
  match start with
  | some key =>
    -- the colon of a key stands on its line, and not too far away
    if key.line < lexer.line || key.column + greatestKeyLength < lexer.column then
      if key.required then none else some none
    else some (some key)
  | none => some none

/-- Forgets the key starts that are too far away. -/
def refreshKeyStarts : Option Lexer := do
  let keyStart ← lexer.refreshKeyStart lexer.keyStart
  let outerKeyStarts ← lexer.outerKeyStarts.mapM lexer.refreshKeyStart
  return { lexer with keyStart, outerKeyStarts }

/-! ### Indentation -/

/-- Opens a collection at a column, if that is further to the right than the innermost one.
`place` is the number of tokens before it. -/
def openBlock (column place : Nat) (token : Token) : Lexer :=
  if lexer.inFlow || (column : Int) ≤ lexer.indent then lexer
  else
    { lexer.insertAfter place token with
      indent := column
      outerIndents := lexer.indent :: lexer.outerIndents }

/-- Opens a collection at the present column. -/
def openBlockHere (token : Token) : Lexer :=
  lexer.openBlock lexer.column lexer.count token

/-- Closes the collections of a stack that are further to the right than a column, and counts
them. -/
def closeColumns (column : Int) : (indent : Int) → (outer : List Int) → (closed : Nat) →
    Int × List Int × Nat
  | indent, [], closed => (indent, [], closed)
  | indent, next :: outer, closed =>
    if column < indent then closeColumns column next outer (closed + 1)
    else (indent, next :: outer, closed)

/-- Closes the collections that are further to the right than a column. -/
def closeBlocks (column : Int) : Lexer :=
  if lexer.inFlow then lexer
  else
    let (indent, outerIndents, closed) := closeColumns column lexer.indent lexer.outerIndents 0
    { lexer with
      tokens := List.replicate closed .blockEnd ++ lexer.tokens
      count := lexer.count + closed
      indent
      outerIndents }

/-! ### White space -/

/-- Finds the next token: skips spaces, comments and line breaks, tabs where no key may start, and
a byte order mark at the start of a line, which takes a column.  After a line break outside of
brackets a key may start. -/
def skipToToken (flow : Bool) : (keyAllowed inComment : Bool) → (line column : Nat) → List Char →
    Cursor × Bool
  | keyAllowed, _, line, column, [] => (⟨[], line, column⟩, keyAllowed)
  | keyAllowed, inComment, line, column, c :: rest =>
    if isLineBreak c then skipToToken flow (keyAllowed || !flow) false (line + 1) 0 rest
    else if inComment || (c == '\ufeff' && column == 0) || c == ' ' ||
        (c == '\t' && (flow || !keyAllowed)) then
      skipToToken flow keyAllowed inComment line (column + 1) rest
    else if c == '#' then skipToToken flow keyAllowed true line (column + 1) rest
    else (⟨c :: rest, line, column⟩, keyAllowed)

/-- Moves to the next token and closes the collections that end before it. -/
def advance : Option Lexer := do
  let (cursor, keyAllowed) :=
    skipToToken lexer.inFlow lexer.keyAllowed false lexer.line lexer.column lexer.rest
  let lexer ← { lexer.moveTo cursor with keyAllowed }.refreshKeyStarts
  return lexer.closeBlocks lexer.column

/-! ### The kinds of tokens -/

/-- Closes everything at a mark or directive of the document. -/
def closeDocument : Option Lexer := do
  return { ← (lexer.closeBlocks (-1)).dropKeyStart with keyAllowed := false }

/-- A directive. -/
def directive : Option Lexer := do
  let lexer ← lexer.closeDocument
  let (token, rest) ← readDirective (lexer.rest.drop 1)
  match skipToLineEnd rest with
  | [] => return { lexer.push token with rest := [] }
  | c :: rest =>
    if isLineBreak c then return { lexer.push token with rest, line := lexer.line + 1, column := 0 }
    else none

/-- A mark that opens or closes a document. -/
def documentMark (token : Token) : Option Lexer := do
  return ((← lexer.closeDocument).push token).skip 3

/-- A bracket that opens a collection. -/
def openFlow (token : Token) : Option Lexer := do
  let lexer ← lexer.markKeyStart
  return { (lexer.push token).skip 1 with
    keyStart := none
    outerKeyStarts := lexer.keyStart :: lexer.outerKeyStarts
    keyAllowed := true }

/-- A bracket that closes a collection. -/
def closeFlow (token : Token) : Option Lexer := do
  let lexer ← lexer.dropKeyStart
  let (keyStart, outerKeyStarts) := match lexer.outerKeyStarts with
    | [] => (none, [])
    | keyStart :: outer => (keyStart, outer)
  return { (lexer.push token).skip 1 with keyStart, outerKeyStarts, keyAllowed := false }

/-- A comma. -/
def flowEntry : Option Lexer := do
  return { ((← lexer.dropKeyStart).push .flowEntry).skip 1 with keyAllowed := true }

/-- A dash. -/
def blockEntry : Option Lexer := do
  if !lexer.inFlow && !lexer.keyAllowed then none
  let lexer ← (lexer.openBlockHere .blockSequenceStart).dropKeyStart
  return { (lexer.push .blockEntry).skip 1 with keyAllowed := true }

/-- A question mark. -/
def explicitKey : Option Lexer := do
  if !lexer.inFlow && !lexer.keyAllowed then none
  let lexer ← (lexer.openBlockHere .blockMappingStart).dropKeyStart
  return { (lexer.push .key).skip 1 with keyAllowed := !lexer.inFlow }

/-- A colon.  If a key may have started before, it did; otherwise the colon stands alone. -/
def valueMark : Option Lexer := do
  match lexer.keyStart with
  | some start =>
    -- the mapping and the key are announced where the key started
    let lexer := lexer.insertAfter start.tokensBefore .key
    let lexer := lexer.openBlock start.column start.tokensBefore .blockMappingStart
    return { (lexer.push .value).skip 1 with keyStart := none, keyAllowed := false }
  | none =>
    if !lexer.inFlow && !lexer.keyAllowed then none
    let lexer := lexer.openBlockHere .blockMappingStart
    return { (lexer.push .value).skip 1 with keyAllowed := !lexer.inFlow }

/-- An anchor or an alias. -/
def anchor (token : String → Token) : Option Lexer := do
  let lexer ← lexer.markKeyStart
  let (name, rest) ← readAnchor (lexer.rest.drop 1)
  return { (lexer.push (token name)).moveOnLine rest with keyAllowed := false }

/-- A tag. -/
def tag : Option Lexer := do
  let lexer ← lexer.markKeyStart
  let (tag, rest) ← readTag lexer.inFlow (lexer.rest.drop 1)
  return { (lexer.push (.tag tag.handle tag.suffix)).moveOnLine rest with keyAllowed := false }

/-- A block scalar. -/
def blockScalar (literal : Bool) : Option Lexer := do
  let lexer ← lexer.dropKeyStart
  let (text, cursor) ← readBlock literal lexer.indent lexer.line (lexer.rest.drop 1)
  let style := if literal then .literal else .folded
  return { (lexer.push (.scalar style text)).moveTo cursor with keyAllowed := true }

/-- A quoted scalar. -/
def quotedScalar (single : Bool) : Option Lexer := do
  let lexer ← lexer.markKeyStart
  let (text, cursor) ←
    readQuoted single [] .none lexer.line (lexer.column + 1) (lexer.rest.drop 1)
  let style := if single then .singleQuoted else .doubleQuoted
  return { (lexer.push (.scalar style text)).moveTo cursor with keyAllowed := false }

/-- A plain scalar.  After the end of a line a key may start. -/
def plainScalar : Option Lexer := do
  let lexer ← lexer.markKeyStart
  let scalar ←
    readPlain lexer.inFlow lexer.indent [] .none lexer.line lexer.column lexer.rest
  return { (lexer.push (.scalar .plain scalar.text)).moveTo scalar.cursor with
    keyAllowed := scalar.endsLine }

/-- Whether a plain scalar may start with a character, the others being given. -/
def startsPlain (flow : Bool) (c : Char) (rest : List Char) : Bool :=
  if c == '-' then
    match rest with
    | next :: _ => !isSpaceOrTab next
    | [] => true
  else if c == '?' || c == ':' then !flow && !endsWord rest
  else !(isSpaceOrTab c || isLineBreak c || ",[]\x7b\x7d#&*!|>'\"%@`".toList.contains c)

/-- The token that starts with the next character. -/
def lexeme (c : Char) (rest : List Char) : Option Lexer :=
  let flow := lexer.inFlow
  if lexer.column == 0 && c == '%' then lexer.directive
  else if lexer.column == 0 && startsWithMarker '-' (c :: rest) then
    lexer.documentMark .documentStart
  else if lexer.column == 0 && startsWithMarker '.' (c :: rest) then
    lexer.documentMark .documentEnd
  else if c = '[' then lexer.openFlow .flowSequenceStart
  else if c = '\x7b' then lexer.openFlow .flowMappingStart
  else if c = ']' then lexer.closeFlow .flowSequenceEnd
  else if c = '\x7d' then lexer.closeFlow .flowMappingEnd
  else if c = ',' then lexer.flowEntry
  else if c == '-' && endsWord rest then lexer.blockEntry
  else if c == '?' && (flow || endsWord rest) then lexer.explicitKey
  else if c == ':' && (flow || endsWord rest) then lexer.valueMark
  else if c = '*' then lexer.anchor .alias
  else if c = '&' then lexer.anchor .anchor
  else if c = '!' then lexer.tag
  else if c == '|' && !flow then lexer.blockScalar true
  else if c == '>' && !flow then lexer.blockScalar false
  else if c = '\'' then lexer.quotedScalar true
  else if c = '"' then lexer.quotedScalar false
  else if startsPlain flow c rest then lexer.plainScalar
  else none

/-- Closes everything at the end of the text. -/
def finish : Option (List Token) := do
  let lexer ← (lexer.closeBlocks (-1)).dropKeyStart
  return lexer.tokens.reverse

/-- Finds the remaining tokens in at most `fuel` steps. -/
def run : (fuel : Nat) → Lexer → Option (List Token)
  | 0, _ => none
  | fuel + 1, lexer => do
    let lexer ← lexer.advance
    match lexer.rest with
    | [] => lexer.finish
    | c :: rest => run fuel (← lexer.lexeme c rest)

end Lexer

/-- The tokens of a text, if it is well-formed. -/
def Token.ofChars? (chars : List Char) : Option (List Token) :=
  if chars.all isAllowed then
    -- every token takes a character at least, so the fuel is enough
    let chars := unifyLineBreaks chars
    Lexer.run (chars.length + 1) (Lexer.start chars)
  else none

end Yaml

end CommandTree
