import CommandTree.Toml.Basic
import CommandTree.Toml.Literal

/-!
# Reading TOML texts

A text is read line by line: each line holds an assignment, a header, or nothing, and a comment
at most.

* `Toml.readStatements` reads the statements of a text.
* `Toml.parse?` is the table that a text describes.
-/

namespace CommandTree

namespace Toml

/-! ### Lines -/

/-- Whether a character may stand in a comment or a text. -/
def isPlainChar (c : Char) : Bool :=
  c == '\t' || (0x20 ≤ c.toNat && c.toNat != 0x7F)

/-- Whether a character separates words. -/
def isGap (c : Char) : Bool :=
  c == ' ' || c == '\t'

/-- Skips spaces and tabs. -/
def skipGap (chars : List Char) : List Char :=
  chars.dropWhile isGap

/-- Skips a comment, if there is one. -/
def skipComment : List Char → List Char
  | '#' :: rest => rest.dropWhile isPlainChar
  | rest => rest

/-- Skips a line break. -/
def lineBreak? : List Char → Option (List Char)
  | '\n' :: rest => some rest
  | '\r' :: '\n' :: rest => some rest
  | _ => none

/-- Skips the end of a line, before which a comment may stand. -/
def endLine? (chars : List Char) : Option (List Char) :=
  match skipComment (skipGap chars) with
  | [] => some []
  | rest => lineBreak? rest

/-- Skips the ends of at most `fuel` lines and the spaces and tabs after them. -/
def skipLines (fuel : Nat) (chars : List Char) : List Char :=
  match fuel, skipGap chars with
  | fuel + 1, c :: rest =>
    match endLine? (c :: rest) with
    | some after => skipLines fuel after
    | none => c :: rest
  | _, rest => rest

/-! ### Texts -/

/-- The value of a hexadecimal digit. -/
def hexValue? (c : Char) : Option Nat :=
  if c.isDigit then some (c.toNat - '0'.toNat)
  else if 'a' ≤ c ∧ c ≤ 'f' then some (c.toNat - 'a'.toNat + 10)
  else if 'A' ≤ c ∧ c ≤ 'F' then some (c.toNat - 'A'.toNat + 10)
  else none

/-- The character with a number in hexadecimal digits. -/
def hexChar? (digits : List Char) : Option Char := do
  let code ← digits.foldlM (fun n c => (hexValue? c).map (16 * n + ·)) 0
  if code.isValidChar then some (Char.ofNat code) else none

/-- The character that an escape letter stands for. -/
def escapedChar? (letter : Char) : Option Char :=
  match letter with
  | 'b' => some '\x08'
  | 't' => some '\t'
  | 'n' => some '\n'
  | 'f' => some '\x0c'
  | 'r' => some '\r'
  | '"' => some '"'
  | '\\' => some '\\'
  | _ => none

/-- Reads an escape from after its backslash. -/
def readEscape : List Char → Option (Char × List Char)
  | 'u' :: a :: b :: c :: d :: rest => (hexChar? [a, b, c, d]).map (·, rest)
  | 'U' :: a :: b :: c :: d :: e :: f :: g :: h :: rest =>
    (hexChar? [a, b, c, d, e, f, g, h]).map (·, rest)
  | letter :: rest => (escapedChar? letter).map (·, rest)
  | [] => none

/-- Reads a text from after its opening mark, in at most `fuel` steps; `done` are its characters so
far, the last one first.  Single quotes around a text leave backslashes alone. -/
def readText (quote : Char) (fuel : Nat) (done : List Char) (chars : List Char) :
    Option (String × List Char) :=
  match fuel, chars with
  | fuel + 1, c :: rest =>
    if c = quote then some (String.ofList done.reverse, rest)
    else if c = '\\' ∧ quote = '"' then do
      let (c, rest) ← readEscape rest
      readText quote fuel (c :: done) rest
    else if isPlainChar c then readText quote fuel (c :: done) rest
    else none
  | _, _ => none

/-- Skips spaces, tabs and line breaks. -/
def skipBlank : List Char → List Char
  | '\r' :: '\n' :: rest => skipBlank rest
  | c :: rest => if isGap c || c == '\n' then skipBlank rest else c :: rest
  | [] => []

/-- Reads a text of several lines from after its opening marks.  It ends with three quotes, before
which two more may stand; a backslash at the end of a line drops the white space after it. -/
def readLongText (quote : Char) (fuel : Nat) (done : List Char) (chars : List Char) :
    Option (String × List Char) :=
  match fuel, chars with
  | fuel + 1, c :: rest =>
    if c = quote then
      let quotes := 1 + (rest.takeWhile (· == quote)).length
      if quotes < 3 then readLongText quote fuel (c :: done) rest
      else
        let inner := min (quotes - 3) 2
        some (String.ofList (List.replicate inner quote ++ done).reverse, rest.drop (inner + 2))
    else if c = '\\' ∧ quote = '"' then
      if (lineBreak? (skipGap rest)).isSome then readLongText quote fuel done (skipBlank rest)
      else do
        let (c, rest) ← readEscape rest
        readLongText quote fuel (c :: done) rest
    else match lineBreak? (c :: rest) with
      | some rest => readLongText quote fuel ('\n' :: done) rest
      | none => if isPlainChar c then readLongText quote fuel (c :: done) rest else none
  | _, _ => none

/-- Reads a text of several lines, of which the first one is dropped if it is empty. -/
def readLong (quote : Char) (chars : List Char) : Option (String × List Char) :=
  let chars := (lineBreak? chars).getD chars
  readLongText quote (chars.length + 1) [] chars

/-! ### Keys -/

/-- Whether a character may stand in a key without quotes. -/
def isKeyChar (c : Char) : Bool :=
  c.isAlphanum || c == '_' || c == '-'

/-- Reads one key. -/
def readKey (chars : List Char) : Option (String × List Char) :=
  match chars with
  | '"' :: rest => readText '"' (rest.length + 1) [] rest
  | '\'' :: rest => readText '\'' (rest.length + 1) [] rest
  | chars =>
    let key := chars.takeWhile isKeyChar
    if key.isEmpty then none else some (String.ofList key, chars.dropWhile isKeyChar)

/-- Reads keys with dots between them, at most `fuel` of them. -/
def readKeys (fuel : Nat) (chars : List Char) : Option (List String × List Char) :=
  match fuel with
  | 0 => none
  | fuel + 1 => do
    let (key, rest) ← readKey (skipGap chars)
    match skipGap rest with
    | '.' :: rest => do
      let (keys, rest) ← readKeys fuel rest
      return (key :: keys, rest)
    | rest => return ([key], rest)

/-! ### Values -/

mutual

/-- Reads a value, in at most `fuel` steps. -/
def readValue (fuel : Nat) (chars : List Char) : Option (Value × List Char) :=
  match fuel with
  | 0 => none
  | fuel + 1 =>
    match chars with
    | '"' :: '"' :: '"' :: rest => do
      let (text, rest) ← readLong '"' rest
      return (.text text, rest)
    | '\'' :: '\'' :: '\'' :: rest => do
      let (text, rest) ← readLong '\'' rest
      return (.text text, rest)
    | '"' :: rest => do
      let (text, rest) ← readText '"' (rest.length + 1) [] rest
      return (.text text, rest)
    | '\'' :: rest => do
      let (text, rest) ← readText '\'' (rest.length + 1) [] rest
      return (.text text, rest)
    | '[' :: rest => do
      let (items, rest) ← readItems fuel rest
      return (.array items, rest)
    | '\x7b' :: rest =>
      match skipGap rest with
      | '\x7d' :: rest => some (.table [], rest)
      | rest => do
        let (members, rest) ← readAssignments fuel rest
        return (.table (← assemble members), rest)
    | chars =>
      let (literal, rest) := splitLiteral chars
      if isLiteral literal then some (.literal (String.ofList literal), rest) else none

/-- Reads the items of an array, up to its end.  A comma may follow the last one. -/
def readItems (fuel : Nat) (chars : List Char) : Option (List Value × List Char) :=
  match fuel with
  | 0 => none
  | fuel + 1 =>
    match skipLines (chars.length + 1) chars with
    | ']' :: rest => some ([], rest)
    | chars => do
      let (item, rest) ← readValue fuel chars
      match skipLines (rest.length + 1) rest with
      | ']' :: rest => return ([item], rest)
      | ',' :: rest => do
        let (items, rest) ← readItems fuel rest
        return (item :: items, rest)
      | _ => none

/-- Reads the assignments of a table between braces, up to its end. -/
def readAssignments (fuel : Nat) (chars : List Char) : Option (List Statement × List Char) :=
  match fuel with
  | 0 => none
  | fuel + 1 => do
    let (key, rest) ← readKeys (chars.length + 1) chars
    match skipGap rest with
    | '=' :: rest => do
      let (content, rest) ← readValue fuel (skipGap rest)
      match skipGap rest with
      | '\x7d' :: rest => return ([.assign key content], rest)
      | ',' :: rest => do
        let (statements, rest) ← readAssignments fuel rest
        return (.assign key content :: statements, rest)
      | _ => none
    | _ => none

end

/-! ### Statements -/

/-- Reads one statement. -/
def readStatement (chars : List Char) : Option (Statement × List Char) :=
  match chars with
  | '[' :: '[' :: rest => do
    let (key, rest) ← readKeys (rest.length + 1) rest
    match rest with
    | ']' :: ']' :: rest => return (.arrayHeader key, rest)
    | _ => none
  | '[' :: rest => do
    let (key, rest) ← readKeys (rest.length + 1) rest
    match rest with
    | ']' :: rest => return (.header key, rest)
    | _ => none
  | chars => do
    let (key, rest) ← readKeys (chars.length + 1) chars
    match rest with
    | '=' :: rest => do
      let (content, rest) ← readValue (rest.length + 1) (skipGap rest)
      return (.assign key content, rest)
    | _ => none

/-- Reads the statements of a text, in at most `fuel` steps. -/
def readStatements (fuel : Nat) (chars : List Char) : Option (List Statement) :=
  match fuel with
  | 0 => none
  | fuel + 1 =>
    match skipLines (chars.length + 1) chars with
    | [] => some []
    | chars => do
      let (statement, rest) ← readStatement chars
      return statement :: (← readStatements fuel (← endLine? rest))

/-- The table that a text describes.  A byte order mark may stand at its start. -/
def parse? (text : String) : Option (Members Value) := do
  let chars := match text.toList with
    | '\ufeff' :: rest => rest
    | rest => rest
  assemble (← readStatements (chars.length + 1) chars)

end Toml

end CommandTree
