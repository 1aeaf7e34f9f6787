import CommandTree.Yaml.Character
import CommandTree.Yaml.Token

/-!
# Scalars in a YAML text

A scalar is written plainly, between quotes, or as an indented block.  The functions of this module
read one scalar each, from after the mark that opens it, and return its text and the place behind
it.  Line breaks inside plain and quoted scalars are folded: one becomes a space, of several the
first is dropped.

* `Cursor` is a place in a text.
* `readPlain`, `readQuoted` and `readBlock` read the scalars.
-/

namespace CommandTree

namespace Yaml

/-- A place in a text. -/
structure Cursor where
  /-- The characters that follow. -/
  rest : List Char
  /-- The number of lines before the place. -/
  line : Nat
  /-- The number of characters before the place on its line. -/
  column : Nat

/-- Moves over characters that do not end the line. -/
def Cursor.skip (cursor : Cursor) (count : Nat) : Cursor :=
  ⟨cursor.rest.drop count, cursor.line, cursor.column + count⟩

/-! ### Folding -/

/-- What lies between the text of a scalar so far and the character that follows. -/
inductive Gap where
  /-- Nothing. -/
  | none
  /-- White space on one line, the last character first. -/
  | space (chars : List Char)
  /-- Line breaks: the first one, unless it was escaped, and the others, the last one first. -/
  | lines (first : Option Char) (more : List Char)

namespace Gap

/-- Extends a gap by white space, which does not count after a line break. -/
def addSpace (gap : Gap) (c : Char) : Gap :=
  match gap with
  | none => space [c]
  | space chars => space (c :: chars)
  | lines first more => lines first more

/-- Extends a gap by a line break, before which white space does not count. -/
def addBreak (gap : Gap) (c : Char) : Gap :=
  match gap with
  | none | space _ => lines (some c) []
  | lines first more => lines first (c :: more)

/-- Folds a gap into a text, which stands in reverse. -/
def fold (gap : Gap) (text : List Char) : List Char :=
  match gap with
  | none => text
  | space chars => chars ++ text
  | lines (some '\n') [] => ' ' :: text
  | lines (some '\n') more => more ++ text
  | lines (some c) more => more ++ c :: text
  | lines Option.none more => more ++ text

/-- Whether a gap reaches over the end of a line. -/
def isMultiline : Gap → Bool
  | lines _ _ => true
  | _ => false

/-- Whether there is a gap at all. -/
def isGap : Gap → Bool
  | none => false
  | _ => true

end Gap

/-! ### Plain scalars -/

/-- A plain scalar that has been read. -/
structure PlainScalar where
  /-- The text. -/
  text : String
  /-- Whether line breaks follow the last word. -/
  endsLine : Bool
  /-- The place behind the scalar and the white space after it. -/
  cursor : Cursor

/-- Whether a character ends a plain scalar inside brackets. -/
def isFlowMark (c : Char) : Bool :=
  c == ',' || c == '[' || c == ']' || c == '\x7b' || c == '\x7d'

/-- Whether a colon may not stand directly before the given characters inside brackets. -/
def isBadAfterColon : List Char → Bool
  | c :: _ => isFlowMark c || c == '?'
  | [] => false

/-- Reads a plain scalar, whose text so far stands in reverse.  It ends before a comment, a colon
that ends a word, a mark of the document or, inside brackets, a mark of the collection; outside of
brackets it also ends before a line that is not indented beyond the collection. -/
def readPlain (flow : Bool) (indent : Int) :
    (text : List Char) → Gap → (line column : Nat) → List Char → Option PlainScalar
  | text, gap, line, column, [] =>
    some ⟨String.ofList text.reverse, gap.isMultiline, ⟨[], line, column⟩⟩
  | text, gap, line, column, c :: rest =>
    let stop : Option PlainScalar :=
      some ⟨String.ofList text.reverse, gap.isMultiline, ⟨c :: rest, line, column⟩⟩
    if isSpaceOrTab c then
      -- a tab does not indent a line that goes on
      if gap.isMultiline && (column : Int) ≤ indent && c == '\t' then none
      else readPlain flow indent text (gap.addSpace c) line (column + 1) rest
    else if isLineBreak c then readPlain flow indent text (gap.addBreak c) (line + 1) 0 rest
    else if gap.isGap && ((!flow && (column : Int) ≤ indent) || c == '#') then stop
    else if column == 0 && startsWithDocumentMark (c :: rest) then stop
    else if flow && c == ':' && isBadAfterColon rest then none
    else if (c == ':' && endsWord rest) || (flow && isFlowMark c) then stop
    else readPlain flow indent (c :: gap.fold text) .none line (column + 1) rest

/-! ### Quoted scalars -/

/-- The character that a single escape letter stands for. -/
def escapedChar? (letter : Char) : Option Char :=
  match letter with
  | '0' => some '\x00'
  | 'a' => some '\x07'
  | 'b' => some '\x08'
  | 't' => some '\t'
  | '\t' => some '\t'
  | 'n' => some '\n'
  | 'v' => some '\x0b'
  | 'f' => some '\x0c'
  | 'r' => some '\r'
  | 'e' => some '\x1b'
  | ' ' => some ' '
  | '"' => some '"'
  | '/' => some '/'
  | '\\' => some '\\'
  | 'N' => some '\x85'
  | '_' => some '\xa0'
  | 'L' => some '\u2028'
  | 'P' => some '\u2029'
  | _ => none

/-- The value of a hexadecimal digit. -/
def hexValue? (c : Char) : Option Nat :=
  if c.isDigit then some (c.toNat - '0'.toNat)
  else if 'a' ≤ c ∧ c ≤ 'f' then some (c.toNat - 'a'.toNat + 10)
  else if 'A' ≤ c ∧ c ≤ 'F' then some (c.toNat - 'A'.toNat + 10)
  else none

/-- The value of some hexadecimal digits. -/
def hexNumber? (digits : List Char) : Option Nat :=
  digits.foldlM (fun value digit => (hexValue? digit).map (value * 16 + ·)) 0

/-- The character with the number that hexadecimal digits spell. -/
def hexChar? (digits : List Char) : Option Char := do
  let code ← hexNumber? digits
  if code.isValidChar then some (Char.ofNat code) else none

/-- Reads a quoted scalar, whose text so far stands in reverse. -/
def readQuoted (single : Bool) :
    (text : List Char) → Gap → (line column : Nat) → List Char → Option (String × Cursor)
  | _, _, _, _, [] => none
  | text, gap, line, column, c :: rest =>
    if isSpaceOrTab c then readQuoted single text (gap.addSpace c) line (column + 1) rest
    else if isLineBreak c then readQuoted single text (gap.addBreak c) (line + 1) 0 rest
    else if column == 0 && startsWithDocumentMark (c :: rest) then none
    else
      let text := gap.fold text
      if single then
        if c ≠ '\'' then readQuoted single (c :: text) .none line (column + 1) rest
        else match rest with
          | '\'' :: rest => readQuoted single ('\'' :: text) .none line (column + 2) rest
          | rest => some (String.ofList text.reverse, ⟨rest, line, column + 1⟩)
      else if c = '"' then some (String.ofList text.reverse, ⟨rest, line, column + 1⟩)
      else if c ≠ '\\' then readQuoted single (c :: text) .none line (column + 1) rest
      else match rest with
        | [] => none
        | letter :: rest =>
          -- an escaped line break joins two lines without a space
          if isLineBreak letter then readQuoted single text (.lines none []) (line + 1) 0 rest
          else match escapedChar? letter with
            | some c => readQuoted single (c :: text) .none line (column + 2) rest
            | none =>
              match letter, rest with
              | 'x', a :: b :: rest =>
                match hexChar? [a, b] with
                | some c => readQuoted single (c :: text) .none line (column + 4) rest
                | none => none
              | 'u', a :: b :: c :: d :: rest =>
                match hexChar? [a, b, c, d] with
                | some c => readQuoted single (c :: text) .none line (column + 6) rest
                | none => none
              | 'U', a :: b :: c :: d :: e :: f :: g :: h :: rest =>
                match hexChar? [a, b, c, d, e, f, g, h] with
                | some c => readQuoted single (c :: text) .none line (column + 10) rest
                | none => none
              | _, _ => none

/-! ### Block scalars -/

/-- What happens to the line breaks at the end of a block. -/
inductive Chomping where
  /-- All are dropped. -/
  | strip
  /-- One is kept. -/
  | clip
  /-- All are kept. -/
  | keep
  deriving DecidableEq, Repr

/-- The indicators after the mark that opens a block. -/
structure BlockHeader where
  /-- What happens at the end of the block. -/
  chomping : Chomping := .clip
  /-- How far the block is indented beyond its collection, zero if its first line shows that. -/
  increment : Nat := 0

/-- The sign for chomping. -/
def chomping? (c : Char) : Option Chomping :=
  if c = '+' then some .keep else if c = '-' then some .strip else none

/-- The digit for an indentation. -/
def increment? (c : Char) : Option Nat :=
  if c.isDigit ∧ c ≠ '0' then some (c.toNat - '0'.toNat) else none

/-- Reads the indicators of a block: a sign and a digit other than zero, in any order, of which
either may be missing. -/
def readBlockHeader (chars : List Char) : Option (BlockHeader × List Char) :=
  let digitAfter (header : BlockHeader) : List Char → Option (BlockHeader × List Char)
    | c :: rest =>
      if c = '0' then none
      else match increment? c with
        | some increment => some ({ header with increment }, rest)
        | none => some (header, c :: rest)
    | [] => some (header, [])
  match chars with
  | [] => some ({}, [])
  | c :: rest =>
    match chomping? c with
    | some chomping => digitAfter { chomping } rest
    | none => do
      let (header, rest) ← digitAfter {} chars
      if header.increment = 0 then return (header, rest)
      match rest with
      | c :: rest' =>
        match chomping? c with
        | some chomping => return ({ header with chomping }, rest')
        | none => return (header, rest)
      | [] => return (header, [])

/-- Skips white space and a comment, up to the end of the line. -/
def skipToLineEnd : List Char → List Char :=
  let skipComment (chars : List Char) : List Char :=
    match chars with
    | '#' :: rest => rest.dropWhile (!isLineBreak ·)
    | rest => rest
  fun chars => skipComment (chars.dropWhile isSpaceOrTab)

/-- Finds the indentation of a block from the lines before its first text: the greatest one, at
least `least`.  Returns their line breaks, the last one first. -/
def findIndent (least : Nat) : (greatest : Nat) → (breaks : List Char) → (line column : Nat) →
    List Char → Option (Nat × List Char × Cursor)
  | greatest, breaks, line, column, [] =>
    some (max least (max greatest column), breaks, ⟨[], line, column⟩)
  | greatest, breaks, line, column, c :: rest =>
    if c = ' ' then findIndent least greatest breaks line (column + 1) rest
    else if c = '\t' then none
    else if isLineBreak c then
      findIndent least (max greatest column) (c :: breaks) (line + 1) 0 rest
    else some (max least (max greatest column), breaks, ⟨c :: rest, line, column⟩)

/-- A block that has been read in part. -/
structure BlockText where
  /-- The text so far, in reverse. -/
  text : List Char
  /-- The line break after the last line with text. -/
  ending : Option Char
  /-- The line breaks after that, the last one first. -/
  blankLines : List Char
  /-- Whether the last line with text starts with white space. -/
  indented : Bool

/-- The text up to the start of a new line whose first character is given: line breaks are kept in
a literal block, and around lines that start with white space. -/
def BlockText.startLine (block : BlockText) (literal : Bool) (c : Char) : BlockText :=
  let blank := isSpaceOrTab c
  let folded := !literal && block.ending == some '\n' && !block.indented && !blank
  let text :=
    if folded then
      if block.blankLines.isEmpty then ' ' :: block.text else block.blankLines ++ block.text
    else block.blankLines ++ (block.ending.toList ++ block.text)
  ⟨c :: text, none, [], blank⟩

/-- The whole text of a block. -/
def BlockText.finish (block : BlockText) (chomping : Chomping) : String :=
  String.ofList <| List.reverse <|
    match chomping with
    | .strip => block.text
    | .clip => block.ending.toList ++ block.text
    | .keep => block.blankLines ++ (block.ending.toList ++ block.text)

/-- Reads the lines of a block up to the first text that is not indented far enough.  `inLine` says
whether a line with text has been started. -/
def readBlockLines (literal : Bool) (indent : Nat) :
    BlockText → (inLine : Bool) → (line column : Nat) → List Char → Option (BlockText × Cursor)
  | block, _, line, column, [] => some (block, ⟨[], line, column⟩)
  | block, true, line, column, c :: rest =>
    if isLineBreak c then
      readBlockLines literal indent { block with ending := some c, blankLines := [] } false
        (line + 1) 0 rest
    else
      readBlockLines literal indent { block with text := c :: block.text } true line (column + 1)
        rest
  | block, false, line, column, c :: rest =>
    if column < indent ∧ c = ' ' then
      readBlockLines literal indent block false line (column + 1) rest
    -- a tab does not indent a block
    else if column < indent ∧ c = '\t' then none
    else if isLineBreak c then
      readBlockLines literal indent { block with blankLines := c :: block.blankLines } false
        (line + 1) 0 rest
    else if column = indent then
      readBlockLines literal indent (block.startLine literal c) true line (column + 1) rest
    else some (block, ⟨c :: rest, line, column⟩)

/-- Reads a block from after its opening mark.  `parent` is the indentation of the collection that
holds it, negative if there is none. -/
def readBlock (literal : Bool) (parent : Int) (line : Nat) (chars : List Char) :
    Option (String × Cursor) := do
  let (header, rest) ← readBlockHeader chars
  let (line, rest) ← match skipToLineEnd rest with
    | [] => some (line + 1, [])
    | c :: rest => if isLineBreak c then some (line + 1, rest) else none
  let (indent, breaks, cursor) ←
    -- the first line with text shows the indentation unless the header states it
    if header.increment = 0 then findIndent (max (parent + 1).toNat 1) 0 [] line 0 rest
    else some ((max parent 0).toNat + header.increment, [], ⟨rest, line, 0⟩)
  let (block, cursor) ←
    readBlockLines literal indent ⟨[], none, breaks, false⟩ false cursor.line cursor.column
      cursor.rest
  return (block.finish header.chomping, cursor)

end Yaml

end CommandTree
