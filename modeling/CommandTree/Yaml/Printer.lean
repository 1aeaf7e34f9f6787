import CommandTree.Json.Printer
import CommandTree.Yaml.Style

/-!
# Writing YAML texts

Collections are written one item or member to a line, indented by two columns for each level; the
items of a sequence stand at the column of the key they belong to.  Empty collections are written
as brackets.  Lines are never folded.

* `writeScalar` writes a text in the style that suits it.
* `Json.toYaml` is the text of a value.
-/

namespace CommandTree

namespace Yaml

/-! ### Scalars -/

/-- Spaces up to a column. -/
def margin (column : Nat) : List Char :=
  List.replicate column ' '

/-- The characters of a text of several lines, each of them written by `write`.  The first
character of every line that is not empty is indented; `lineStart` says whether the text is at such
a place. -/
def writeLines (indent : Nat) (write : Char → List Char) :
    (lineStart : Bool) → List Char → List Char
  | _, [] => []
  | lineStart, c :: rest =>
    if isLineBreak c then c :: writeLines indent write true rest
    else (if lineStart then margin indent else []) ++ write c ++ writeLines indent write false rest

/-- A character between single quotes. -/
def singleQuotedChar (c : Char) : List Char :=
  if c = '\'' then ['\'', '\''] else [c]

/-- A text between single quotes. -/
def writeSingleQuoted (indent : Nat) (chars : List Char) : List Char :=
  '\'' :: writeLines indent singleQuotedChar false chars ++
    (if chars.getLast?.any isLineBreak then margin indent else []) ++ ['\'']

/-- A hexadecimal digit in upper case. -/
def upperHexDigit (n : Nat) : Char :=
  Char.ofNat (if n < 10 then '0'.toNat + n else 'A'.toNat + (n - 10))

/-- The last `count` hexadecimal digits of a number. -/
def hexDigits (count n : Nat) : List Char :=
  (List.range count).reverse.map fun place => upperHexDigit (n / Nat.pow 16 place % 16)

/-- A character between double quotes. -/
def doubleQuotedChar (c : Char) : List Char :=
  match c with
  | '\x00' => ['\\', '0']
  | '\x07' => ['\\', 'a']
  | '\x08' => ['\\', 'b']
  | '\t' => ['\\', 't']
  | '\n' => ['\\', 'n']
  | '\x0b' => ['\\', 'v']
  | '\x0c' => ['\\', 'f']
  | '\r' => ['\\', 'r']
  | '\x1b' => ['\\', 'e']
  | '"' => ['\\', '"']
  | '\\' => ['\\', '\\']
  | '\x85' => ['\\', 'N']
  | '\u2028' => ['\\', 'L']
  | '\u2029' => ['\\', 'P']
  | c =>
    if isVisible c then [c]
    else if c.toNat < 0x100 then '\\' :: 'x' :: hexDigits 2 c.toNat
    else if c.toNat < 0x10000 then '\\' :: 'u' :: hexDigits 4 c.toNat
    else '\\' :: 'U' :: hexDigits 8 c.toNat

/-- A text between double quotes. -/
def writeDoubleQuoted (chars : List Char) : List Char :=
  '"' :: chars.flatMap doubleQuotedChar ++ ['"']

/-- The sign that says what happens to the line breaks at the end of a literal block: the last one
is dropped, or all of them are kept, or just one is there. -/
def chompingSign (chars : List Char) : List Char :=
  match chars.reverse with
  | [] => ['-']
  | last :: before =>
    if !isLineBreak last then ['-']
    else match before with
      | [] => ['+']
      | c :: _ => if isLineBreak c then ['+'] else []

/-- A literal block.  The indentation is stated if the first line does not show it. -/
def writeLiteral (indent : Nat) (chars : List Char) : List Char :=
  let increment := if chars.head?.any fun c => c == ' ' || isLineBreak c then ['2'] else []
  '|' :: increment ++ chompingSign chars ++ '\n' ::
    writeLines indent (fun c => [c]) true chars

/-- A text as a scalar; lines after the first one are indented. -/
def writeScalar (indent : Nat) (text : String) : List Char :=
  let chars := text.toList
  match styleOf text with
  | .plain => chars
  | .singleQuoted => writeSingleQuoted indent chars
  | .doubleQuoted => writeDoubleQuoted chars
  | _ => writeLiteral indent chars

/-- A text as a scalar, up to the end of the line.  A literal block may already have ended it. -/
def writeScalarLine (indent : Nat) (text : String) : List Char :=
  writeScalar indent text ++
    if styleOf text = .literal && text.toList.getLast?.any isLineBreak then [] else ['\n']

/-! ### Collections -/

/-- Whether a key is written on one line with the colon behind it.  Keys with line breaks of any
spelling are not. -/
def isSimpleKey (key : String) : Bool :=
  key.utf8ByteSize ≤ 128 && !key.toList.any fun c => isLineBreak c || c == '\r' || c == '\x85'

/-- A key and what leads to its value. -/
def writeKey (column : Nat) (key : String) (value : Json) : List Char :=
  if isSimpleKey key then
    writeScalar (column + 2) key ++ ':' ::
      match value with
      -- the dashes of an array stand below its key, the keys of an object further right
      | .array (_ :: _) => '\n' :: margin column
      | .object (_ :: _) => '\n' :: margin (column + 2)
      | _ => [' ']
  else
    '?' :: ' ' :: writeScalarLine (column + 2) key ++ margin column ++ [':', ' ']

/-- The column of the value of a key. -/
def valueColumn (column : Nat) (key : String) (value : Json) : Nat :=
  match value with
  | .array (_ :: _) => if isSimpleKey key then column else column + 2
  | _ => column + 2

mutual

/-- A value from its column on, up to the end of its last line. -/
def writeValue (column : Nat) : Json → List Char
  | .null => "null\n".toList
  | .bool true => "true\n".toList
  | .bool false => "false\n".toList
  | .number n => Json.numberChars n ++ ['\n']
  | .string text => writeScalarLine column text
  | .array [] => "[]\n".toList
  | .array (item :: rest) => '-' :: ' ' :: writeValue (column + 2) item ++ writeItems column rest
  | .object [] => "\x7b\x7d\n".toList
  | .object ((key, value) :: rest) =>
    writeKey column key value ++ writeValue (valueColumn column key value) value ++
      writeMembers column rest

/-- The items after the first one. -/
def writeItems (column : Nat) : List Json → List Char
  | [] => []
  | item :: rest =>
    margin column ++ '-' :: ' ' :: writeValue (column + 2) item ++ writeItems column rest

/-- The members after the first one. -/
def writeMembers (column : Nat) : List (String × Json) → List Char
  | [] => []
  | (key, value) :: rest =>
    margin column ++ writeKey column key value ++
      writeValue (valueColumn column key value) value ++ writeMembers column rest

end

end Yaml

/-- The YAML text of a value. -/
def Json.toYaml (value : Json) : String :=
  String.ofList (Yaml.writeValue 0 value)

end CommandTree
