import CommandTree.Json.Basic

/-!
# Writing JSON texts

Strings are quoted; quotes, backslashes and control characters are escaped, all other characters
stand for themselves.

* `Json.compact` writes a value without any white space.
* `Json.pretty` writes every item and member on a line of its own, indented by two spaces for each
  level.  Empty arrays and objects stay on one line.
-/

namespace CommandTree

namespace Json

/-- A hexadecimal digit in lower case. -/
def hexDigit (n : Nat) : Char :=
  Char.ofNat (if n < 10 then '0'.toNat + n else 'a'.toNat + (n - 10))

/-- A character as it is written inside a string. -/
def escapeChar (c : Char) : List Char :=
  match c with
  | '"' => ['\\', '"']
  | '\\' => ['\\', '\\']
  | '\x08' => ['\\', 'b']
  | '\x0c' => ['\\', 'f']
  | '\n' => ['\\', 'n']
  | '\r' => ['\\', 'r']
  | '\t' => ['\\', 't']
  | c =>
    if c.toNat < 0x20 then
      ['\\', 'u', '0', '0', hexDigit (c.toNat / 16), hexDigit (c.toNat % 16)]
    else [c]

/-- A text in quotes. -/
def quoteChars (text : List Char) : List Char :=
  '"' :: (text.flatMap escapeChar ++ ['"'])

/-- A number in digits.  Decimals are written as a whole number and an exponent. -/
def numberChars : Number → List Char
  | .integer value => (toString value).toList
  | .decimal negative significand exponent =>
    (if negative then ['-'] else []) ++ (toString significand).toList ++ 'e' ::
      (toString exponent).toList

/-! ### Compact texts -/

mutual

/-- The characters of a value without white space. -/
def compactChars : Json → List Char
  | .null => "null".toList
  | .bool true => "true".toList
  | .bool false => "false".toList
  | .number n => numberChars n
  | .string text => quoteChars text.toList
  | .array [] => ['[', ']']
  | .array (item :: rest) => '[' :: (compactChars item ++ compactItems rest)
  | .object [] => ['\x7b', '\x7d']
  | .object ((key, value) :: rest) =>
    '\x7b' :: (quoteChars key.toList ++ ':' :: (compactChars value ++ compactMembers rest))

/-- The items after the first one, and the end of the array. -/
def compactItems : List Json → List Char
  | [] => [']']
  | item :: rest => ',' :: (compactChars item ++ compactItems rest)

/-- The members after the first one, and the end of the object. -/
def compactMembers : List (String × Json) → List Char
  | [] => ['\x7d']
  | (key, value) :: rest =>
    ',' :: (quoteChars key.toList ++ ':' :: (compactChars value ++ compactMembers rest))

end

/-- A value without white space. -/
def compact (value : Json) : String :=
  String.ofList (compactChars value)

/-! ### Indented texts -/

/-- A line break, and the indentation of the next line. -/
def newline (level : Nat) : List Char :=
  '\n' :: List.replicate (2 * level) ' '

mutual

/-- The characters of a value that starts on a line of the given level. -/
def prettyChars (level : Nat) : Json → List Char
  | .null => "null".toList
  | .bool true => "true".toList
  | .bool false => "false".toList
  | .number n => numberChars n
  | .string text => quoteChars text.toList
  | .array [] => ['[', ']']
  | .array (item :: rest) =>
    '[' :: (newline (level + 1) ++ prettyChars (level + 1) item ++ prettyItems level rest)
  | .object [] => ['\x7b', '\x7d']
  | .object ((key, value) :: rest) =>
    '\x7b' :: (newline (level + 1) ++ quoteChars key.toList ++ ':' :: ' ' ::
      (prettyChars (level + 1) value ++ prettyMembers level rest))

/-- The items after the first one, and the end of an array that starts on the given level. -/
def prettyItems (level : Nat) : List Json → List Char
  | [] => newline level ++ [']']
  | item :: rest =>
    ',' :: (newline (level + 1) ++ prettyChars (level + 1) item ++ prettyItems level rest)

/-- The members after the first one, and the end of an object that starts on the given level. -/
def prettyMembers (level : Nat) : List (String × Json) → List Char
  | [] => newline level ++ ['\x7d']
  | (key, value) :: rest =>
    ',' :: (newline (level + 1) ++ quoteChars key.toList ++ ':' :: ' ' ::
      (prettyChars (level + 1) value ++ prettyMembers level rest))

end

/-- A value with one item or member on each line. -/
def pretty (value : Json) : String :=
  String.ofList (prettyChars 0 value)

end Json

end CommandTree
