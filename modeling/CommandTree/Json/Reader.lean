import CommandTree.Json.Numeral

/-!
# Reading JSON texts

A text holds one value, surrounded by white space.  When it does not, reading stops at the first
byte that cannot be right, and the failure says why and where.  Arrays and objects are nested at
most 127 deep.  A key that an object lists again keeps its first place and takes the last value.

* `Json.parse` reads a whole text.
* `Json.readValue` reads one value and returns what follows it.
-/

namespace CommandTree

namespace Json

/-! ### Strings -/

/-- The value of a hexadecimal digit of either case. -/
def hexValue? (c : Char) : Option Nat :=
  if c.isDigit then some (c.toNat - '0'.toNat)
  else if 'a' ≤ c ∧ c ≤ 'f' then some (c.toNat - 'a'.toNat + 10)
  else if 'A' ≤ c ∧ c ≤ 'F' then some (c.toNat - 'A'.toNat + 10)
  else none

/-- The value of four hexadecimal digits. -/
def hexQuad? (a b c d : Char) : Option Nat := do
  return (((← hexValue? a) * 16 + (← hexValue? b)) * 16 + (← hexValue? c)) * 16 + (← hexValue? d)

/-- The failure of an escape that has no four hexadecimal digits: the text ends, or the next four
bytes are something else. -/
def failHex {α : Type} (rest : List Char) : Except Failure α :=
  if byteCount rest < 4 then failBefore .endInString []
  else .error ⟨.invalidEscape, byteCount rest - 4⟩

/-- The character that an escape letter stands for. -/
def escapedChar? (letter : Char) : Option Char :=
  match letter with
  | '"' => some '"'
  | '\\' => some '\\'
  | '/' => some '/'
  | 'b' => some '\x08'
  | 'f' => some '\x0c'
  | 'n' => some '\n'
  | 'r' => some '\r'
  | 't' => some '\t'
  | _ => none

/-- Reads a string whose opening quote has been read; `done` are its characters so far, the last
one first. -/
def readString (done : List Char) : List Char → Except Failure (String × List Char)
  | [] => failBefore .endInString []
  | '"' :: rest => .ok (String.ofList done.reverse, rest)
  | '\\' :: [] => failBefore .endInString []
  | '\\' :: 'u' :: rest =>
    match rest with
    | a :: b :: c :: d :: after =>
      match hexQuad? a b c d with
      | none => failHex rest
      | some high =>
        if 0xDC00 ≤ high ∧ high ≤ 0xDFFF then failBefore .loneSurrogate after
        else if high < 0xD800 ∨ 0xDBFF < high then readString (Char.ofNat high :: done) after
        else match after with
          | '\\' :: 'u' :: second =>
            match second with
            | a :: b :: c :: d :: after =>
              match hexQuad? a b c d with
              | none => failHex second
              | some low =>
                if low < 0xDC00 ∨ 0xDFFF < low then failBefore .loneSurrogate after
                else
                  let code := (high - 0xD800) * 0x400 + (low - 0xDC00) + 0x10000
                  readString (Char.ofNat code :: done) after
            | _ => failHex second
          | ['\\'] | [] => failBefore .endInString []
          | '\\' :: other => failAt .surrogateExpected other
          | other => failAt .surrogateExpected other
    | _ => failHex rest
  | '\\' :: letter :: rest =>
    match escapedChar? letter with
    | some c => readString (c :: done) rest
    | none => failAt .invalidEscape (letter :: rest)
  | c :: rest =>
    if c.toNat < 0x20 then failBefore .controlCharacter rest
    else readString (c :: done) rest

/-! ### Values -/

/-- Skips white space. -/
def skipSpace : List Char → List Char
  | c :: rest => if c = ' ' ∨ c = '\n' ∨ c = '\t' ∨ c = '\r' then skipSpace rest else c :: rest
  | [] => []

/-- Reads the remaining letters of a literal name, one byte of a wrong letter included. -/
def readName (value : Json) : (name text : List Char) → Except Failure (Json × List Char)
  | [], rest => .ok (value, rest)
  | _ :: _, [] => failBefore .endInValue []
  | expected :: name, c :: rest =>
    if c = expected then readName value name rest else failAt .nameExpected (c :: rest)

/-- Nesting is allowed as long as more than one level remains of these. -/
def nestingLevels : Nat := 128

mutual

/-- Reads one value.  `levels` counts down on entering an array or object and must not reach zero;
`fuel` bounds the number of steps. -/
def readValue (fuel levels : Nat) (text : List Char) : Except Failure (Json × List Char) :=
  match fuel with
  | 0 => failBefore .nestedTooDeeply text
  | fuel + 1 =>
    match skipSpace text with
    | [] => failBefore .endInValue []
    | 'n' :: rest => readName .null "ull".toList rest
    | 't' :: rest => readName (.bool true) "rue".toList rest
    | 'f' :: rest => readName (.bool false) "alse".toList rest
    | '"' :: rest => do
      let (text, rest) ← readString [] rest
      return (.string text, rest)
    | '-' :: rest => do
      let (n, rest) ← readNumber true rest
      return (.number n, rest)
    | '[' :: rest =>
      if levels ≤ 1 then failAt .nestedTooDeeply ('[' :: rest)
      else
        match skipSpace rest with
        | [] => failBefore .endInArray []
        | ']' :: rest => .ok (.array [], rest)
        | rest => readItems fuel (levels - 1) [] rest
    | '{' :: rest =>
      if levels ≤ 1 then failAt .nestedTooDeeply ('{' :: rest)
      else
        match skipSpace rest with
        | [] => failBefore .endInObject []
        | '}' :: rest => .ok (.object [], rest)
        | '"' :: rest => readMembers fuel (levels - 1) [] rest
        | rest => failAt .keyExpected rest
    | c :: rest =>
      if c.isDigit then do
        let (n, rest) ← readNumber false (c :: rest)
        return (.number n, rest)
      else failAt .valueExpected (c :: rest)

/-- Reads the items of an array up to its end; `done` are those before, the last one first. -/
def readItems (fuel levels : Nat) (done : List Json) (text : List Char) :
    Except Failure (Json × List Char) :=
  match fuel with
  | 0 => failBefore .nestedTooDeeply text
  | fuel + 1 => do
    let (item, rest) ← readValue fuel levels text
    match skipSpace rest with
    | [] => failBefore .endInArray []
    | ']' :: rest => .ok (.array (item :: done).reverse, rest)
    | ',' :: rest =>
      match skipSpace rest with
      | [] => failBefore .endInValue []
      | ']' :: rest => failAt .trailingComma (']' :: rest)
      | rest => readItems fuel levels (item :: done) rest
    | rest => failAt .arrayEndExpected rest

/-- Reads the members of an object up to its end, from after the quote of a key. -/
def readMembers (fuel levels : Nat) (done : Members Json) (text : List Char) :
    Except Failure (Json × List Char) :=
  match fuel with
  | 0 => failBefore .nestedTooDeeply text
  | fuel + 1 => do
    let (key, rest) ← readString [] text
    match skipSpace rest with
    | [] => failBefore .endInObject []
    | ':' :: rest => do
      let (value, rest) ← readValue fuel levels rest
      let done := done.insert key value
      match skipSpace rest with
      | [] => failBefore .endInObject []
      | '}' :: rest => .ok (.object done, rest)
      | ',' :: rest =>
        match skipSpace rest with
        | [] => failBefore .endInValue []
        | '"' :: rest => readMembers fuel levels done rest
        | '}' :: rest => failAt .trailingComma ('}' :: rest)
        | rest => failAt .keyExpected rest
      | rest => failAt .objectEndExpected rest
    | rest => failAt .colonExpected rest

end

/-- Reads a text that holds one value and nothing else. -/
def parse (text : String) : Except Failure Json := do
  let chars := text.toList
  let (value, rest) ← readValue (2 * chars.length + 2) nestingLevels chars
  match skipSpace rest with
  | [] => return value
  | rest => failAt .trailingCharacters rest

end Json

end CommandTree
