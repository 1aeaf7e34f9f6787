import CommandTree.Json.Position

/-!
# Reasons to refuse a JSON text

* `Json.Cause` lists what can be wrong with a text, `Json.Cause.message` says it in words.
* `Json.Failure` is a cause together with the place where reading stopped.
-/

namespace CommandTree

namespace Json

/-- What is wrong with a text. -/
inductive Cause where
  /-- The text ends where a value should start or go on. -/
  | endInValue
  /-- The text ends inside an array. -/
  | endInArray
  /-- The text ends inside an object. -/
  | endInObject
  /-- The text ends inside a string. -/
  | endInString
  /-- A key is not followed by a colon. -/
  | colonExpected
  /-- An array goes on with neither a comma nor its end. -/
  | arrayEndExpected
  /-- An object goes on with neither a comma nor its end. -/
  | objectEndExpected
  /-- A literal name is misspelt. -/
  | nameExpected
  /-- No value starts here. -/
  | valueExpected
  /-- A string has an unknown escape. -/
  | invalidEscape
  /-- A number is malformed. -/
  | invalidNumber
  /-- A number is too large for a binary fraction. -/
  | numberOutOfRange
  /-- A string holds a bare control character. -/
  | controlCharacter
  /-- A key is not a string. -/
  | keyExpected
  /-- An escape has half of a surrogate pair. -/
  | loneSurrogate
  /-- A comma has nothing after it. -/
  | trailingComma
  /-- The text goes on after the value. -/
  | trailingCharacters
  /-- The second half of a surrogate pair is missing. -/
  | surrogateExpected
  /-- Arrays and objects are nested too deeply. -/
  | nestedTooDeeply
  deriving DecidableEq, Repr

/-- The cause in words. -/
def Cause.message : Cause → String
  | .endInValue => "EOF while parsing a value"
  | .endInArray => "EOF while parsing a list"
  | .endInObject => "EOF while parsing an object"
  | .endInString => "EOF while parsing a string"
  | .colonExpected => "expected `:`"
  | .arrayEndExpected => "expected `,` or `]`"
  | .objectEndExpected => "expected `,` or `\x7d`"
  | .nameExpected => "expected ident"
  | .valueExpected => "expected value"
  | .invalidEscape => "invalid escape"
  | .invalidNumber => "invalid number"
  | .numberOutOfRange => "number out of range"
  | .controlCharacter => "control character (\\u0000-\\u001F) found while parsing a string"
  | .keyExpected => "key must be a string"
  | .loneSurrogate => "lone leading surrogate in hex escape"
  | .trailingComma => "trailing comma"
  | .trailingCharacters => "trailing characters"
  | .surrogateExpected => "unexpected end of hex escape"
  | .nestedTooDeeply => "recursion limit exceeded"

/-- A cause, and how many bytes of the text were left when it was found. -/
structure Failure where
  /-- What is wrong. -/
  cause : Cause
  /-- The number of bytes not yet consumed. -/
  left : Nat
  deriving DecidableEq, Repr

/-- The position at which reading a text stopped. -/
def Failure.position (failure : Failure) (text : String) : Position :=
  let bytes := Position.bytes text
  .after (bytes.take (bytes.length - failure.left))

/-- The failure in words, with its place. -/
def Failure.message (failure : Failure) (text : String) : String :=
  let position := failure.position text
  failure.cause.message ++ " at line " ++ toString position.line ++
    " column " ++ toString position.column

end Json

end CommandTree
